import YoAuthorize.Lib.Outline

/-!
# Contracts of transactions

`Sound` is the proof rule for one request among others.  It is relative to a
`Contract`, an invariant of the committed rows and a guarantee that each commit
gives about what it changes; between two steps the rows may change by commits
of others, which hold none of its locks (`Moves`).  If every request is sound
then the invariant holds in every reachable state (`System.inv_of_runs`).

Two contracts may be proved one by one and used together (`Sound.both`).  What
else is known of a running request is a predicate that its steps and the commits
of the others keep (`Stable`); it then holds in every reachable state
(`System.good_of_runs`).  `Throughout` is the largest such predicate that implies
a check at every point.
-/

namespace Transaction

open Function Relation

variable {κ : Type} [DecidableEq κ] {ν : κ → Type} {ε α : Type}

/-! ## The proof rule -/

/-- An invariant of the committed rows, and what a commit by the owner of the
given locks guarantees about its change. -/
structure Contract (ν : κ → Type) : Type where
  Inv : AList ν → Prop
  Guarantee : (κ → Prop) → AList ν → AList ν → Prop

namespace Contract

variable (contract : Contract ν)

/-- A commit of a transaction that has none of the locks. -/
def OtherCommit (held : κ → Prop) (rows later : AList ν) : Prop :=
  ∃ other : κ → Prop, (∀ key, other key → ¬ held key) ∧ contract.Inv later ∧
    contract.Guarantee other rows later ∧
    ∀ key, ¬ other key → later.lookup key = rows.lookup key

/-- What other transactions may do while the locks are held. -/
def Moves (held : κ → Prop) : AList ν → AList ν → Prop :=
  ReflTransGen (contract.OtherCommit held)

/-- The transaction keeps the contract to its end, whatever the others commit. -/
def Sound : Program ν ε α → (κ → Prop) → List (Sigma ν) → AList ν → Prop
  | .select next, held, log, rows =>
      ∀ now, contract.Moves held rows now → contract.Inv now →
        Sound (next (replay now log)) held log now
  | .lock key next, held, log, rows =>
      ∀ now, contract.Moves held rows now → contract.Inv now →
        Sound (next ((replay now log).lookup key)) (fun other => other = key ∨ held other) log now
  | .write key row next, held, log, rows =>
      held key ∧ ∀ now, contract.Moves held rows now → contract.Inv now →
        Sound next held (log ++ [⟨key, row⟩]) now
  | .insertNext key row _ next, held, log, rows =>
      ∀ number now, contract.Moves held rows now → contract.Inv now →
        (replay now log).lookup (key number) = none →
        Sound next (fun other => other = key number ∨ held other)
          (log ++ [⟨key number, row number⟩]) now
  | .commitThen next, held, log, rows =>
      ∀ now, contract.Moves held rows now → contract.Inv now →
        (contract.Inv (replay now log) ∧ contract.Guarantee held now (replay now log)) ∧
          Sound next (fun _ => False) [] (replay now log)
  | .commit _, held, log, rows =>
      ∀ now, contract.Moves held rows now → contract.Inv now →
        contract.Inv (replay now log) ∧ contract.Guarantee held now (replay now log)
  | .rollback _, _, _, _ => True

variable {contract} {held more : κ → Prop} {rows later now : AList ν} {log : List (Sigma ν)}

theorem Moves.trans (first : contract.Moves held rows now)
    (second : contract.Moves held now later) : contract.Moves held rows later :=
  ReflTransGen.trans first second

theorem Moves.mono (moves : contract.Moves more rows later) (less : ∀ key, held key → more key) :
    contract.Moves held rows later := by
  induction moves with
  | refl => exact .refl
  | tail _ commit ih =>
      rcases commit with ⟨other, apart, inv, guarantee, frame⟩
      exact .tail ih ⟨other, fun key owns holds => apart key owns (less key holds), inv, guarantee,
        frame⟩

theorem Moves.lookup (moves : contract.Moves held rows later) {key : κ} (holds : held key) :
    later.lookup key = rows.lookup key := by
  induction moves with
  | refl => rfl
  | tail _ commit ih =>
      rcases commit with ⟨other, apart, -, -, frame⟩
      exact (frame key fun owns => apart key owns holds).trans ih

theorem Sound.moves {program : Program ν ε α} (sound : contract.Sound program held log rows)
    (moves : contract.Moves held rows later) : contract.Sound program held log later := by
  cases program with
  | select next => exact fun now next => sound now (moves.trans next)
  | lock key next => exact fun now next => sound now (moves.trans next)
  | write key row next => exact ⟨sound.1, fun now next => sound.2 now (moves.trans next)⟩
  | insertNext key row taken next =>
      exact fun number now next => sound number now (moves.trans next)
  | commitThen next => exact fun now next => sound now (moves.trans next)
  | commit result => exact fun now next => sound now (moves.trans next)
  | rollback error => trivial

/-- The newest version of a locked row stays as it is. -/
theorem Moves.lookup_replay (moves : contract.Moves held rows later) {key : κ}
    (holds : held key) (log : List (Sigma ν)) :
    (replay later log).lookup key = (replay rows log).lookup key :=
  lookup_replay_congr (moves.lookup holds) log

/-- More locks do not weaken what a commit guarantees. -/
def Monotone (contract : Contract ν) : Prop :=
  ∀ {held more : κ → Prop} {rows later : AList ν}, (∀ key, held key → more key) →
    contract.Guarantee held rows later → contract.Guarantee more rows later

/-- The writes so far may be committed, now or later. -/
def Settled (contract : Contract ν) (held : κ → Prop) (log : List (Sigma ν))
    (rows : AList ν) : Prop :=
  ∀ now, contract.Moves held rows now → contract.Inv now →
    contract.Inv (replay now log) ∧ contract.Guarantee held now (replay now log)

theorem Settled.moves (settled : contract.Settled held log rows)
    (moves : contract.Moves held rows later) : contract.Settled held log later :=
  fun now next => settled now (moves.trans next)

theorem Settled.mono (monotone : contract.Monotone) (settled : contract.Settled held log rows)
    (less : ∀ key, held key → more key) : contract.Settled more log rows := by
  intro now moves inv
  rcases settled now (moves.mono less) inv with ⟨kept, guarantee⟩
  exact ⟨kept, monotone less guarantee⟩

theorem Settled.lock (monotone : contract.Monotone) (settled : contract.Settled held log rows)
    (moves : contract.Moves held rows later) (key : κ) :
    contract.Settled (fun other => other = key ∨ held other) log later :=
  (settled.moves moves).mono monotone fun _ => .inr

/-- A row that is locked is there or not. -/
theorem Sound.lock {key : κ} {next : Option (ν key) → Program ν ε α}
    (missing : ∀ now, contract.Moves held rows now → contract.Inv now →
      (replay now log).lookup key = none →
      contract.Sound (next none) (fun other => other = key ∨ held other) log now)
    (found : ∀ row now, contract.Moves held rows now → contract.Inv now →
      (replay now log).lookup key = some row →
      contract.Sound (next (some row)) (fun other => other = key ∨ held other) log now) :
    contract.Sound (.lock key next) held log rows := by
  intro now moves inv
  cases present : (replay now log).lookup key with
  | none => exact missing now moves inv present
  | some row => exact found row now moves inv present

/-- Locking a row that a query has found. -/
theorem Sound.lockWhere {ι : Type} {key : ι → κ} {find : AList ν → Option ι}
    {test : (index : ι) → ν (key index) → Bool}
    {next : Option ((index : ι) × ν (key index)) → Program ν ε α}
    (missing : ∀ (more : κ → Prop) (now : AList ν), (∀ key, held key → more key) →
      contract.Moves held rows now → contract.Inv now → contract.Sound (next none) more log now)
    (found : ∀ (index : ι) (row : ν (key index)) (now : AList ν),
      contract.Moves held rows now → contract.Inv now →
      (replay now log).lookup (key index) = some row → test index row = true →
      contract.Sound (next (some ⟨index, row⟩)) (fun other => other = key index ∨ held other)
        log now) :
    contract.Sound (.lockWhere key find test next) held log rows := by
  intro first movesFirst invFirst
  dsimp only
  split
  · exact missing held first (fun _ => id) movesFirst invFirst
  · rename_i index _
    apply Sound.lock
    · intro now moves inv _
      exact missing _ now (fun _ => .inr) (movesFirst.trans moves) inv
    · intro row now moves inv present
      dsimp only
      split
      · rename_i accepted
        exact found index row now (movesFirst.trans moves) inv present accepted
      · exact missing _ now (fun _ => .inr) (movesFirst.trans moves) inv

/-! ## Two contracts -/

/-- Both invariants and both guarantees. -/
def both (first second : Contract ν) : Contract ν where
  Inv rows := first.Inv rows ∧ second.Inv rows
  Guarantee held rows later := first.Guarantee held rows later ∧ second.Guarantee held rows later

section

variable {first second : Contract ν}

theorem Moves.left (moves : (first.both second).Moves held rows later) :
    first.Moves held rows later := by
  induction moves with
  | refl => exact .refl
  | tail _ commit ih =>
      rcases commit with ⟨other, apart, inv, guarantee, frame⟩
      exact .tail ih ⟨other, apart, inv.1, guarantee.1, frame⟩

theorem Moves.right (moves : (first.both second).Moves held rows later) :
    second.Moves held rows later := by
  induction moves with
  | refl => exact .refl
  | tail _ commit ih =>
      rcases commit with ⟨other, apart, inv, guarantee, frame⟩
      exact .tail ih ⟨other, apart, inv.2, guarantee.2, frame⟩

theorem Sound.both {program : Program ν ε α} (left : first.Sound program held log rows)
    (right : second.Sound program held log rows) :
    (first.both second).Sound program held log rows := by
  induction program generalizing held log rows with
  | select next ih =>
      intro now moves inv
      exact ih _ (left now moves.left inv.1) (right now moves.right inv.2)
  | lock key next ih =>
      intro now moves inv
      exact ih _ (left now moves.left inv.1) (right now moves.right inv.2)
  | write key row next ih =>
      refine ⟨left.1, fun now moves inv => ?_⟩
      exact ih (left.2 now moves.left inv.1) (right.2 now moves.right inv.2)
  | insertNext key row taken next ih =>
      intro number now moves inv absent
      exact ih (left number now moves.left inv.1 absent)
        (right number now moves.right inv.2 absent)
  | commitThen next ih =>
      intro now moves inv
      rcases left now moves.left inv.1 with ⟨⟨leftInv, leftGuarantee⟩, leftSound⟩
      rcases right now moves.right inv.2 with ⟨⟨rightInv, rightGuarantee⟩, rightSound⟩
      exact ⟨⟨⟨leftInv, rightInv⟩, leftGuarantee, rightGuarantee⟩, ih leftSound rightSound⟩
  | commit result =>
      intro now moves inv
      rcases left now moves.left inv.1 with ⟨leftInv, leftGuarantee⟩
      rcases right now moves.right inv.2 with ⟨rightInv, rightGuarantee⟩
      exact ⟨⟨leftInv, rightInv⟩, leftGuarantee, rightGuarantee⟩
  | rollback error => trivial

end

/-! ## What the steps keep -/

/-- What is known of a running request stays known when it takes a step and when
others commit. -/
structure Stable (contract : Contract ν)
    (good : Program ν ε α → (κ → Prop) → List (Sigma ν) → AList ν → Prop) : Prop where
  moves : ∀ {program held log rows later}, good program held log rows →
    contract.Moves held rows later → good program held log later
  select : ∀ {next held log rows}, good (.select next) held log rows → contract.Inv rows →
    good (next (replay rows log)) held log rows
  lock : ∀ {key next held log rows}, good (.lock key next) held log rows → contract.Inv rows →
    good (next ((replay rows log).lookup key)) (fun other => other = key ∨ held other) log rows
  write : ∀ {key row next held log rows}, good (.write key row next) held log rows →
    contract.Inv rows → good next held (log ++ [⟨key, row⟩]) rows
  insertNext : ∀ {key row taken next held log rows number},
    good (.insertNext key row taken next) held log rows → contract.Inv rows →
    (replay rows log).lookup (key number) = none →
    good next (fun other => other = key number ∨ held other)
      (log ++ [⟨key number, row number⟩]) rows
  commitThen : ∀ {next held log rows}, good (.commitThen next) held log rows →
    contract.Inv rows → good next (fun _ => False) [] (replay rows log)

theorem stable_sound (contract : Contract ν) :
    contract.Stable fun (program : Program ν ε α) => contract.Sound program where
  moves := Sound.moves
  select sound inv := sound _ .refl inv
  lock sound inv := sound _ .refl inv
  write sound inv := sound.2 _ .refl inv
  insertNext sound inv absent := sound _ _ .refl inv absent
  commitThen sound inv := (sound _ .refl inv).2

section

variable {good known : Program ν ε α → (κ → Prop) → List (Sigma ν) → AList ν → Prop}

theorem Stable.and (first : contract.Stable good) (second : contract.Stable known) :
    contract.Stable fun program held log rows =>
      good program held log rows ∧ known program held log rows where
  moves := fun ⟨left, right⟩ moves => ⟨first.moves left moves, second.moves right moves⟩
  select := fun ⟨left, right⟩ inv => ⟨first.select left inv, second.select right inv⟩
  lock := fun ⟨left, right⟩ inv => ⟨first.lock left inv, second.lock right inv⟩
  write := fun ⟨left, right⟩ inv => ⟨first.write left inv, second.write right inv⟩
  insertNext := fun ⟨left, right⟩ inv absent =>
    ⟨first.insertNext left inv absent, second.insertNext right inv absent⟩
  commitThen := fun ⟨left, right⟩ inv => ⟨first.commitThen left inv, second.commitThen right inv⟩

theorem Stable.outline (stable : contract.Stable good) : Outline contract.Inv good where
  select := stable.select
  lock := stable.lock
  write := stable.write
  insertNext := stable.insertNext

theorem Stable.or (first : contract.Stable good) (second : contract.Stable known) :
    contract.Stable fun program held log rows =>
      good program held log rows ∨ known program held log rows where
  moves either moves := either.imp (first.moves · moves) (second.moves · moves)
  select either inv := either.imp (first.select · inv) (second.select · inv)
  lock either inv := either.imp (first.lock · inv) (second.lock · inv)
  write either inv := either.imp (first.write · inv) (second.write · inv)
  insertNext either inv absent :=
    either.imp (first.insertNext · inv absent) (second.insertNext · inv absent)
  commitThen either inv := either.imp (first.commitThen · inv) (second.commitThen · inv)

end

/-- A check that holds at every point to the end, whatever the others commit. -/
def Throughout (contract : Contract ν)
    (check : Program ν ε α → (κ → Prop) → List (Sigma ν) → AList ν → Prop) :
    Program ν ε α → (κ → Prop) → List (Sigma ν) → AList ν → Prop
  | .select next, held, log, rows =>
      ∀ now, contract.Moves held rows now → contract.Inv now →
        check (.select next) held log now ∧
          Throughout contract check (next (replay now log)) held log now
  | .lock key next, held, log, rows =>
      ∀ now, contract.Moves held rows now → contract.Inv now →
        check (.lock key next) held log now ∧
          Throughout contract check (next ((replay now log).lookup key))
            (fun other => other = key ∨ held other) log now
  | .write key row next, held, log, rows =>
      ∀ now, contract.Moves held rows now → contract.Inv now →
        check (.write key row next) held log now ∧
          Throughout contract check next held (log ++ [⟨key, row⟩]) now
  | .insertNext key row taken next, held, log, rows =>
      ∀ number now, contract.Moves held rows now → contract.Inv now →
        check (.insertNext key row taken next) held log now ∧
          ((replay now log).lookup (key number) = none →
            Throughout contract check next (fun other => other = key number ∨ held other)
              (log ++ [⟨key number, row number⟩]) now)
  | .commitThen next, held, log, rows =>
      ∀ now, contract.Moves held rows now → contract.Inv now →
        check (.commitThen next) held log now ∧
          Throughout contract check next (fun _ => False) [] (replay now log)
  | .commit result, held, log, rows =>
      ∀ now, contract.Moves held rows now → contract.Inv now →
        check (.commit result) held log now
  | .rollback error, held, log, rows =>
      ∀ now, contract.Moves held rows now → contract.Inv now →
        check (.rollback error) held log now

section

variable {check : Program ν ε α → (κ → Prop) → List (Sigma ν) → AList ν → Prop}

theorem Throughout.here {program : Program ν ε α}
    (throughout : contract.Throughout check program held log rows) (inv : contract.Inv rows) :
    check program held log rows := by
  cases program with
  | select next => exact (throughout rows .refl inv).1
  | lock key next => exact (throughout rows .refl inv).1
  | write key row next => exact (throughout rows .refl inv).1
  | insertNext key row taken next => exact (throughout 0 rows .refl inv).1
  | commitThen next => exact (throughout rows .refl inv).1
  | commit result => exact throughout rows .refl inv
  | rollback error => exact throughout rows .refl inv

theorem Throughout.moves {program : Program ν ε α}
    (throughout : contract.Throughout check program held log rows)
    (moves : contract.Moves held rows later) :
    contract.Throughout check program held log later := by
  cases program with
  | insertNext key row taken next =>
      exact fun number now next => throughout number now (moves.trans next)
  | select | lock | write | commitThen | commit | rollback =>
      exact fun now next => throughout now (moves.trans next)

theorem Throughout.lock {key : κ} {next : Option (ν key) → Program ν ε α}
    (fine : ∀ now, contract.Moves held rows now → check (.lock key next) held log now)
    (missing : ∀ now, contract.Moves held rows now → contract.Inv now →
      (replay now log).lookup key = none →
      contract.Throughout check (next none) (fun other => other = key ∨ held other) log now)
    (found : ∀ row now, contract.Moves held rows now → contract.Inv now →
      (replay now log).lookup key = some row →
      contract.Throughout check (next (some row)) (fun other => other = key ∨ held other) log
        now) :
    contract.Throughout check (.lock key next) held log rows := by
  intro now moves inv
  refine ⟨fine now moves, ?_⟩
  cases present : (replay now log).lookup key with
  | none => exact missing now moves inv present
  | some row => exact found row now moves inv present

theorem Throughout.mono {other : Program ν ε α → (κ → Prop) → List (Sigma ν) → AList ν → Prop}
    {program : Program ν ε α} (throughout : contract.Throughout check program held log rows)
    (weaker : ∀ program held log rows, check program held log rows →
      other program held log rows) :
    contract.Throughout other program held log rows := by
  induction program generalizing held log rows with
  | select next ih =>
      intro now moves inv
      exact ⟨weaker _ _ _ _ (throughout now moves inv).1, ih _ (throughout now moves inv).2⟩
  | lock key next ih =>
      intro now moves inv
      exact ⟨weaker _ _ _ _ (throughout now moves inv).1, ih _ (throughout now moves inv).2⟩
  | write key row next ih =>
      intro now moves inv
      exact ⟨weaker _ _ _ _ (throughout now moves inv).1, ih (throughout now moves inv).2⟩
  | insertNext key row taken next ih =>
      intro number now moves inv
      exact ⟨weaker _ _ _ _ (throughout number now moves inv).1,
        fun absent => ih ((throughout number now moves inv).2 absent)⟩
  | commitThen next ih =>
      intro now moves inv
      exact ⟨weaker _ _ _ _ (throughout now moves inv).1, ih (throughout now moves inv).2⟩
  | commit result => exact fun now moves inv => weaker _ _ _ _ (throughout now moves inv)
  | rollback error => exact fun now moves inv => weaker _ _ _ _ (throughout now moves inv)

/-- A check of the result of a request that returns allowed results only. -/
theorem throughout_of_returns {allowed : α → Prop} {program : Program ν ε α}
    (returns : program.Returns allowed)
    (fine : ∀ program held log rows, (∀ result, program = .commit result → allowed result) →
      check program held log rows) : contract.Throughout check program held log rows := by
  induction program generalizing held log rows with
  | select next ih => exact fun now _ _ => ⟨fine _ _ _ _ nofun, ih _ (returns _)⟩
  | lock key next ih => exact fun now _ _ => ⟨fine _ _ _ _ nofun, ih _ (returns _)⟩
  | write key row next ih => exact fun now _ _ => ⟨fine _ _ _ _ nofun, ih returns⟩
  | insertNext key row taken next ih =>
      exact fun number now _ _ => ⟨fine _ _ _ _ nofun, fun _ => ih returns⟩
  | commitThen next ih => exact fun now _ _ => ⟨fine _ _ _ _ nofun, ih returns⟩
  | commit result =>
      refine fun now _ _ => fine _ _ _ _ ?_
      rintro other same
      cases same
      exact returns
  | rollback error => exact fun now _ _ => fine _ _ _ _ nofun

/-- A check of the log of a request that writes allowed rows only. -/
theorem throughout_of_writes {allowed : Sigma ν → Prop} {program : Program ν ε α}
    (writes : program.Writes allowed) (logged : ∀ version ∈ log, allowed version)
    (fine : ∀ program held log rows, (∀ version ∈ log, allowed version) →
      check program held log rows) : contract.Throughout check program held log rows := by
  have snoc {log : List (Sigma ν)} {version : Sigma ν} (logged : ∀ version ∈ log, allowed version)
      (added : allowed version) : ∀ other ∈ log ++ [version], allowed other := by
    intro other member
    rcases List.mem_append.mp member with old | new
    · exact logged other old
    · rw [List.mem_singleton.mp new]
      exact added
  induction program generalizing held log rows with
  | select next ih => exact fun now _ _ => ⟨fine _ _ _ _ logged, ih _ (writes _) logged⟩
  | lock key next ih => exact fun now _ _ => ⟨fine _ _ _ _ logged, ih _ (writes _) logged⟩
  | write key row next ih =>
      exact fun now _ _ => ⟨fine _ _ _ _ logged, ih writes.2 (snoc logged writes.1)⟩
  | insertNext key row taken next ih =>
      exact fun number now _ _ =>
        ⟨fine _ _ _ _ logged, fun _ => ih writes.2 (snoc logged (writes.1 number))⟩
  | commitThen next ih => exact fun now _ _ => ⟨fine _ _ _ _ logged, ih writes nofun⟩
  | commit result => exact fun now _ _ => fine _ _ _ _ logged
  | rollback error => exact fun now _ _ => fine _ _ _ _ logged

theorem stable_throughout : contract.Stable (contract.Throughout check) where
  moves := Throughout.moves
  select throughout inv := (throughout _ .refl inv).2
  lock throughout inv := (throughout _ .refl inv).2
  write throughout inv := (throughout _ .refl inv).2
  insertNext throughout inv := (throughout _ _ .refl inv).2
  commitThen throughout inv := (throughout _ .refl inv).2

end

end Contract

namespace System

variable {τ : Type} [DecidableEq τ] {contract : Contract ν} {admits : Program ν ε α → Prop}
  {good : Program ν ε α → (κ → Prop) → List (Sigma ν) → AList ν → Prop}

/-- Every transaction is sound and good where it is, and has the locks of its
writes. -/
structure Safe (contract : Contract ν)
    (good : Program ν ε α → (κ → Prop) → List (Sigma ν) → AList ν → Prop)
    (system : System τ ν ε α) : Prop where
  inv : contract.Inv system.rows
  logged : ∀ transaction, ∀ version ∈ system.log transaction,
    system.owner version.1 = some transaction
  idle : ∀ transaction, system.program transaction = none →
    system.log transaction = [] ∧ ∀ key, ¬ system.holds transaction key
  running : ∀ transaction program, system.program transaction = some program →
    contract.Sound program (system.holds transaction) (system.log transaction) system.rows ∧
      good program (system.holds transaction) (system.log transaction) system.rows

section

variable {system : System τ ν ε α} {transaction : τ}

omit [DecidableEq τ] in
theorem safe_iff_outlined :
    system.Safe contract good ↔ system.Outlined contract.Inv fun program held log rows =>
      contract.Sound program held log rows ∧ good program held log rows :=
  ⟨fun safe => ⟨safe.inv, safe.logged, safe.idle, safe.running⟩,
    fun outlined => ⟨outlined.inv, outlined.logged, outlined.idle, outlined.running⟩⟩

omit [DecidableEq τ] in
/-- The commit of a sound transaction is one move of the others. -/
theorem Safe.moves_of_commit (safe : system.Safe contract good)
    (inv : contract.Inv (system.view transaction))
    (guarantee : contract.Guarantee (system.holds transaction) system.rows
      (system.view transaction)) {other : τ} (apart : other ≠ transaction) :
    contract.Moves (system.holds other) system.rows (system.view transaction) := by
  refine .single ⟨system.holds transaction, ?_, inv, guarantee, ?_⟩
  · intro key owns holdsOther
    exact apart (Option.some.inj (holdsOther.symm.trans owns))
  · exact fun key unowned => (safe_iff_outlined.mp safe).lookup_view unowned

omit [DecidableEq τ] in
/-- What a commit of a sound transaction guarantees. -/
theorem Safe.guarantee (safe : system.Safe contract good) {program : Program ν ε α}
    (running : system.program transaction = some program) (commits : program.commits = true) :
    contract.Inv (system.view transaction) ∧
      contract.Guarantee (system.holds transaction) system.rows (system.view transaction) := by
  have sound := (safe.running transaction program running).1
  cases program with
  | commitThen next => exact (sound system.rows .refl safe.inv).1
  | commit result => exact sound system.rows .refl safe.inv
  | select | lock | write | insertNext | rollback => cases commits

theorem Safe.step {next : System τ ν ε α} (stable : contract.Stable good)
    (safe : system.Safe contract good)
    (admitted : ∀ program, admits program → ∀ rows, contract.Inv rows →
      contract.Sound program (fun _ => False) [] rows ∧ good program (fun _ => False) [] rows)
    (step : Step admits system next) : next.Safe contract good := by
  have both := contract.stable_sound.and stable
  refine safe_iff_outlined.mpr
    ((safe_iff_outlined.mp safe).step both.outline admitted ?_ step)
  intro transaction program running commits _ _
  rcases safe.guarantee running commits with ⟨inv, guarantee⟩
  refine ⟨inv, ?_, ?_⟩
  · rintro rest rfl
    exact both.commitThen (safe.running transaction _ running) safe.inv
  · intro other rest apart runs
    exact both.moves (safe.running other rest runs) (safe.moves_of_commit inv guarantee apart)

end

/-- What the steps keep holds in every state that sound requests reach. -/
theorem safe_of_runs {rows : AList ν} {sequence : Nat} {system : System τ ν ε α}
    (stable : contract.Stable good) (inv : contract.Inv rows)
    (admitted : ∀ program, admits program → ∀ rows, contract.Inv rows →
      contract.Sound program (fun _ => False) [] rows ∧ good program (fun _ => False) [] rows)
    (run : ReflTransGen (Step admits) { rows, sequence } system) : system.Safe contract good := by
  induction run with
  | refl => exact ⟨inv, nofun, fun _ _ => ⟨rfl, nofun⟩, nofun⟩
  | tail _ step ih => exact ih.step stable admitted step

/-- The invariant holds of the committed rows in every state that sound requests
reach. -/
theorem inv_of_runs {rows : AList ν} {sequence : Nat} {system : System τ ν ε α}
    (inv : contract.Inv rows)
    (admitted : ∀ program, admits program → ∀ rows, contract.Inv rows →
      contract.Sound program (fun _ => False) [] rows)
    (run : ReflTransGen (Step admits) { rows, sequence } system) : contract.Inv system.rows := by
  have safe := safe_of_runs contract.stable_sound inv
    (fun program accepted rows known => ⟨admitted program accepted rows known,
      admitted program accepted rows known⟩) run
  exact safe.inv

/-! ## Requests one after the other -/

/-- The system in the middle of the only transaction. -/
def alone (rows : AList ν) (sequence : Nat) (transaction : τ) (owner : κ → Option τ)
    (log : List (Sigma ν)) (program : Program ν ε α) : System τ ν ε α where
  rows := rows
  sequence := sequence
  owner := owner
  log := update (fun _ => []) transaction log
  program := update (fun _ => none) transaction (some program)

section

variable {rows : AList ν} {sequence : Nat} {transaction : τ} {owner : κ → Option τ}
  {log : List (Sigma ν)}

omit [DecidableEq κ] in
theorem program_alone (program : Program ν ε α) :
    (alone rows sequence transaction owner log program).program transaction = some program := by
  unfold alone
  dsimp only
  rw [update_self]

theorem view_alone (program : Program ν ε α) :
    (alone rows sequence transaction owner log program).view transaction = replay rows log := by
  unfold view alone
  dsimp only
  rw [update_self]

omit [DecidableEq κ] in
theorem resume_alone (program next : Program ν ε α) :
    (alone rows sequence transaction owner log program).resume transaction next =
      alone rows sequence transaction owner log next := by
  unfold resume alone
  dsimp only
  rw [update_idem]

omit [DecidableEq κ] in
theorem close_alone (own : ∀ key, owner key = none ∨ owner key = some transaction)
    (program : Program ν ε α) (later : AList ν) (number : Nat) :
    (alone rows sequence transaction owner log program).close transaction later number =
      { rows := later, sequence := number } := by
  have released : (fun key => if owner key = some transaction then none else owner key) =
      fun _ => none := by
    funext key
    rcases own key with free | held
    · rw [free]
      exact if_neg nofun
    · exact if_pos held
  have unlogged : update (update (fun _ : τ => ([] : List (Sigma ν))) transaction log) transaction
      [] = fun _ => [] := by
    rw [update_idem, update_eq_self]
  have idle : update (update (fun _ : τ => (none : Option (Program ν ε α))) transaction
      (some program)) transaction none = fun _ => none := by
    rw [update_idem, update_eq_self]
  unfold close alone
  dsimp only
  rw [released, unlogged, idle]

omit [DecidableEq τ] in
/-- A lone transaction owns what it locks. -/
theorem own_update (own : ∀ key, owner key = none ∨ owner key = some transaction) (key : κ) :
    ∀ other, update owner key (some transaction) other = none ∨
      update owner key (some transaction) other = some transaction := by
  intro other
  by_cases same : other = key
  · rw [same, update_self]
    exact .inr rfl
  · rw [update_of_ne same]
    exact own other

theorem runs_alone {program : Program ν ε α} (inv : contract.Inv rows)
    (own : ∀ key, owner key = none ∨ owner key = some transaction)
    (sound : contract.Sound program (fun key => owner key = some transaction) log rows) :
    ReflTransGen (Step admits) (alone rows sequence transaction owner log program)
      { rows := (program.runFrom rows sequence (replay rows log)).rows
        sequence := (program.runFrom rows sequence (replay rows log)).sequence } := by
  induction program generalizing rows sequence owner log with
  | select next ih =>
      have step : Step admits (alone rows sequence transaction owner log (.select next)) _ :=
        .select (program_alone _)
      rw [view_alone, resume_alone] at step
      exact .head step (ih _ inv own (sound rows .refl inv))
  | lock key next ih =>
      have step : Step admits (alone rows sequence transaction owner log (.lock key next)) _ :=
        .lock (program_alone _) (own key)
      rw [view_alone] at step
      refine .head step ?_
      unfold alone
      dsimp only
      rw [update_idem]
      refine ih _ inv (own_update own key) ?_
      rw [owned_update]
      exact sound rows .refl inv
  | write key row next ih =>
      have step : Step admits (alone rows sequence transaction owner log (.write key row next)) _ :=
        .write (program_alone _) sound.1
      refine .head step ?_
      unfold alone
      dsimp only
      rw [update_idem, update_idem, update_self]
      have rest : ReflTransGen (Step admits)
          (alone rows sequence transaction owner (log ++ [⟨key, row⟩]) next) _ :=
        ih inv own (sound.2 rows .refl inv)
      rw [replay_append] at rest
      exact rest
  | insertNext key row taken next ih =>
      rw [Program.runFrom]
      cases absent : (replay rows log).lookup (key (sequence + 1)) with
      | none =>
          have step : Step admits
              (alone rows sequence transaction owner log (.insertNext key row taken next)) _ :=
            .insertNext (program_alone _) (Nat.lt_succ_self sequence) (own _)
              (by rw [view_alone]; exact absent)
          refine .head step ?_
          unfold alone
          dsimp only
          rw [update_idem, update_idem, update_self]
          have grown : contract.Sound next
              (fun other => update owner (key (sequence + 1)) (some transaction) other =
                some transaction) (log ++ [⟨key (sequence + 1), row (sequence + 1)⟩]) rows := by
            rw [owned_update]
            exact sound (sequence + 1) rows .refl inv absent
          have rest : ReflTransGen (Step admits)
              (alone rows (sequence + 1) transaction _ _ next) _ :=
            ih inv (own_update own (key (sequence + 1))) grown
          rw [replay_append] at rest
          exact rest
      | some found =>
          have step : Step admits
              (alone rows sequence transaction owner log (.insertNext key row taken next)) _ :=
            .abort (program_alone _) (Nat.le_succ sequence)
          rw [close_alone own] at step
          exact .single step
  | commitThen next ih =>
      have step : Step admits (alone rows sequence transaction owner log (.commitThen next)) _ :=
        .commitThen (program_alone _)
      rw [view_alone, close_alone own] at step
      refine .head step ?_
      rcases sound rows .refl inv with ⟨⟨laterInv, -⟩, rest⟩
      have unowned : (fun _ : κ => (none : Option τ) = some transaction) = fun _ => False :=
        funext fun _ => propext ⟨fun same => (by cases same), False.elim⟩
      have resumed : ReflTransGen (Step admits)
          (alone (replay rows log) sequence transaction (fun _ => none) [] next) _ :=
        ih laterInv (fun _ => .inl rfl) (unowned.symm ▸ rest)
      unfold alone at resumed
      rw [update_eq_self] at resumed
      exact resumed
  | commit result =>
      have step : Step admits (alone rows sequence transaction owner log (.commit result)) _ :=
        .commit (program_alone _)
      rw [view_alone] at step
      rw [close_alone own] at step
      exact .single step
  | rollback error =>
      have step : Step admits (alone rows sequence transaction owner log (.rollback error)) _ :=
        .abort (program_alone _) (Nat.le_refl sequence)
      rw [close_alone own] at step
      exact .single step

end

/-- A sound request that runs on its own is a run of the system. -/
theorem runs_of_run {rows : AList ν} {sequence : Nat} {program : Program ν ε α} (transaction : τ)
    (inv : contract.Inv rows) (admitted : admits program)
    (sound : contract.Sound program (fun _ => False) [] rows) :
    ReflTransGen (Step admits) ({ rows, sequence } : System τ ν ε α)
      { rows := (program.run rows sequence).rows
        sequence := (program.run rows sequence).sequence } := by
  have start : Step admits ({ rows, sequence } : System τ ν ε α) _ :=
    .start (rfl : ({ rows, sequence } : System τ ν ε α).program transaction = none) admitted
  refine .head start ?_
  have unowned : (fun _ : κ => (none : Option τ) = some transaction) = fun _ => False :=
    funext fun _ => propext ⟨nofun, False.elim⟩
  have rest : ReflTransGen (Step admits)
      (alone rows sequence transaction (fun _ => none) [] program) _ :=
    runs_alone inv (fun _ => .inl rfl) (unowned.symm ▸ sound)
  unfold alone at rest
  rw [update_eq_self] at rest
  exact rest

/-- Sound requests that run one after the other are a run of the system. -/
theorem runs_of_runAll {rows : AList ν} {sequence : Nat} {programs : List (Program ν ε α)}
    (transaction : τ) (inv : contract.Inv rows)
    (sound : ∀ program, admits program → ∀ rows, contract.Inv rows →
      contract.Sound program (fun _ => False) [] rows)
    (admitted : ∀ program ∈ programs, admits program) :
    ReflTransGen (Step admits) ({ rows, sequence } : System τ ν ε α)
      { rows := (Program.runAll programs rows sequence).1
        sequence := (Program.runAll programs rows sequence).2 } := by
  induction programs generalizing rows sequence with
  | nil => exact .refl
  | cons program programs ih =>
      have accepted := admitted program List.mem_cons_self
      have first : ReflTransGen (Step admits) ({ rows, sequence } : System τ ν ε α) _ :=
        runs_of_run transaction inv accepted (sound program accepted rows inv)
      have kept := inv_of_runs inv sound first
      exact first.trans (ih kept fun other member =>
        admitted other (List.mem_cons_of_mem program member))

end System

end Transaction
