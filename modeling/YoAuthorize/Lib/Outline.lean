import YoAuthorize.Lib.Transaction

/-!
# Outlines of running requests

An outline says what is known of every running request where it is: of its
program, its locks, its log and the committed rows.  The steps of the request
itself have to keep it (`Outline`), and every commit has to keep it for all the
others; then it holds in every reachable state (`System.Outlined.step`).
-/

namespace Transaction

open Function Relation

variable {κ : Type} [DecidableEq κ] {ν : κ → Type} {ε α : Type}

/-- What the steps of one request keep, between two commits. -/
structure Outline (inv : AList ν → Prop)
    (good : Program ν ε α → (κ → Prop) → List (Sigma ν) → AList ν → Prop) : Prop where
  select : ∀ {next held log rows}, good (.select next) held log rows → inv rows →
    good (next (replay rows log)) held log rows
  lock : ∀ {key next held log rows}, good (.lock key next) held log rows → inv rows →
    good (next ((replay rows log).lookup key)) (fun other => other = key ∨ held other) log rows
  write : ∀ {key row next held log rows}, good (.write key row next) held log rows →
    inv rows → good next held (log ++ [⟨key, row⟩]) rows
  insertNext : ∀ {key row taken next held log rows number},
    good (.insertNext key row taken next) held log rows → inv rows →
    (replay rows log).lookup (key number) = none →
    good next (fun other => other = key number ∨ held other)
      (log ++ [⟨key number, row number⟩]) rows

namespace System

variable {τ : Type} [DecidableEq τ] {inv : AList ν → Prop}
  {good : Program ν ε α → (κ → Prop) → List (Sigma ν) → AList ν → Prop}
  {admits : Program ν ε α → Prop}

/-- The invariant holds of the rows and the outline of every transaction, which
has the locks of its writes. -/
structure Outlined (inv : AList ν → Prop)
    (good : Program ν ε α → (κ → Prop) → List (Sigma ν) → AList ν → Prop)
    (system : System τ ν ε α) : Prop where
  inv : inv system.rows
  logged : ∀ transaction, ∀ version ∈ system.log transaction,
    system.owner version.1 = some transaction
  idle : ∀ transaction, system.program transaction = none →
    system.log transaction = [] ∧ ∀ key, ¬ system.holds transaction key
  running : ∀ transaction program, system.program transaction = some program →
    good program (system.holds transaction) (system.log transaction) system.rows

section

variable {system : System τ ν ε α} {transaction : τ} {rows : AList ν} {sequence : Nat}

omit [DecidableEq κ] in
theorem holds_close_of_ne {other : τ} (apart : other ≠ transaction) :
    (system.close transaction rows sequence).holds other = system.holds other := by
  funext key
  apply propext
  unfold holds close
  dsimp only
  split
  · rename_i owned
    rw [owned]
    exact ⟨nofun, fun same => absurd (Option.some.inj same).symm apart⟩
  · rfl

omit [DecidableEq κ] in
theorem not_holds_close (key : κ) :
    ¬ (system.close transaction rows sequence).holds transaction key := by
  unfold holds close
  dsimp only
  split
  · exact nofun
  · assumption

omit [DecidableEq κ] in
/-- What remains of the outline when a transaction ends. -/
theorem Outlined.close (outlined : system.Outlined inv good) (kept : inv rows)
    (others : ∀ other program, other ≠ transaction → system.program other = some program →
      good program (system.holds other) (system.log other) rows) :
    (system.close transaction rows sequence).Outlined inv good where
  inv := kept
  logged other version member := by
    by_cases same : other = transaction
    · subst same
      change version ∈ update system.log other [] other at member
      rw [update_self] at member
      cases member
    · change version ∈ update system.log transaction [] other at member
      rw [update_of_ne same] at member
      have owned := outlined.logged other version member
      change (if system.owner version.1 = some transaction then none else _) = _
      rw [owned, if_neg fun equal => same (Option.some.inj equal)]
  idle other ended := by
    by_cases same : other = transaction
    · subst same
      exact ⟨update_self .., not_holds_close⟩
    · change update system.program transaction none other = none at ended
      rw [update_of_ne same] at ended
      rcases outlined.idle other ended with ⟨empty, released⟩
      refine ⟨(update_of_ne same ..).trans empty, ?_⟩
      rw [holds_close_of_ne same]
      exact released
  running other program runs := by
    by_cases same : other = transaction
    · subst same
      change update system.program other none other = _ at runs
      rw [update_self] at runs
      cases runs
    · change update system.program transaction none other = _ at runs
      rw [update_of_ne same] at runs
      change good program ((system.close transaction rows sequence).holds other)
        (update system.log transaction [] other) rows
      rw [holds_close_of_ne same, update_of_ne same]
      exact others other program same runs

omit [DecidableEq κ] in
/-- A transaction that goes on, with more locks and writes, leaves the others as
they are. -/
theorem Outlined.advance (outlined : system.Outlined inv good) {owner : κ → Option τ}
    {log : List (Sigma ν)} {program : Program ν ε α} (sequence : Nat)
    (kept : ∀ key other, other ≠ transaction → (owner key = some other ↔ system.holds other key))
    (logged : ∀ version ∈ log, owner version.1 = some transaction)
    (known : good program (fun key => owner key = some transaction) log system.rows) :
    Outlined inv good
      { system with
        sequence
        owner
        log := update system.log transaction log
        program := update system.program transaction (some program) } := by
  refine ⟨outlined.inv, ?_, ?_, ?_⟩
  · intro other version member
    by_cases same : other = transaction
    · subst same
      change version ∈ update system.log other log other at member
      rw [update_self] at member
      exact logged version member
    · change version ∈ update system.log transaction log other at member
      rw [update_of_ne same] at member
      exact (kept version.1 other same).mpr (outlined.logged other version member)
  · intro other ended
    by_cases same : other = transaction
    · subst same
      change update system.program other (some program) other = none at ended
      rw [update_self] at ended
      cases ended
    · change update system.program transaction (some program) other = none at ended
      rw [update_of_ne same] at ended
      rcases outlined.idle other ended with ⟨empty, released⟩
      exact ⟨(update_of_ne same ..).trans empty,
        fun key owns => released key ((kept key other same).mp owns)⟩
  · intro other next runs
    by_cases same : other = transaction
    · subst same
      change update system.program other (some program) other = some next at runs
      rw [update_self] at runs
      cases runs
      change good program (fun key => owner key = some other) (update system.log other log other)
        system.rows
      rw [update_self]
      exact known
    · change update system.program transaction (some program) other = some next at runs
      rw [update_of_ne same] at runs
      have holdsSame : (fun key => owner key = some other) = system.holds other :=
        funext fun key => propext (kept key other same)
      change good next (fun key => owner key = some other) (update system.log transaction log other)
        system.rows
      rw [holdsSame, update_of_ne same]
      exact outlined.running other next runs

omit [DecidableEq κ] in
/-- A transaction that goes on with the locks and the writes it has. -/
theorem Outlined.continue (outlined : system.Outlined inv good) {program : Program ν ε α}
    (known : good program (system.holds transaction) (system.log transaction) system.rows) :
    (system.resume transaction program).Outlined inv good := by
  have advanced := outlined.advance system.sequence (fun key other _ => Iff.rfl)
    (outlined.logged transaction) known
  rw [update_eq_self] at advanced
  exact advanced

omit [DecidableEq τ] in
/-- A key that was free has a new owner; the others keep theirs. -/
theorem holds_update_of_ne {key other : κ} {holder : τ} (apart : holder ≠ transaction)
    (free : system.owner key = none ∨ system.owner key = some transaction) :
    update system.owner key (some transaction) other = some holder ↔
      system.holds holder other := by
  by_cases same : other = key
  · subst same
    rw [update_self]
    refine ⟨fun equal => absurd (Option.some.inj equal).symm apart, fun owns => ?_⟩
    unfold holds at owns
    rcases free with unowned | own
    · rw [unowned] at owns
      cases owns
    · rw [own] at owns
      exact owns
  · rw [update_of_ne same]
    rfl

omit [DecidableEq τ] in
theorem owned_update (owner : κ → Option τ) (key : κ) :
    (fun other => update owner key (some transaction) other = some transaction) =
      fun other => other = key ∨ owner other = some transaction := by
  funext other
  apply propext
  by_cases same : other = key
  · subst same
    rw [update_self]
    exact ⟨fun _ => .inl rfl, fun _ => rfl⟩
  · rw [update_of_ne same]
    exact ⟨.inr, fun owns => owns.resolve_left same⟩

omit [DecidableEq τ] in
/-- A commit changes rows that the transaction has locked. -/
theorem Outlined.lookup_view (outlined : system.Outlined inv good) {key : κ}
    (unowned : ¬ system.holds transaction key) :
    (system.view transaction).lookup key = system.rows.lookup key := by
  refine lookup_replay_of_unwritten _ ?_
  rintro version member rfl
  exact unowned (outlined.logged transaction version member)

/-- One step keeps an outline, if its commit does. -/
theorem Outlined.step {next : System τ ν ε α} (outline : Outline inv good)
    (outlined : system.Outlined inv good)
    (admitted : ∀ program, admits program → ∀ rows, inv rows →
      good program (fun _ => False) [] rows)
    (committed : ∀ transaction program, system.program transaction = some program →
      program.commits = true → next.rows = system.view transaction →
      (∀ other, other ≠ transaction → next.program other = system.program other) →
      inv (system.view transaction) ∧
        (∀ rest, program = .commitThen rest →
          good rest (fun _ => False) [] (system.view transaction)) ∧
        ∀ other rest, other ≠ transaction → system.program other = some rest →
          good rest (system.holds other) (system.log other) (system.view transaction))
    (step : Step admits system next) : next.Outlined inv good := by
  cases step with
  | start idle accepted =>
      rename_i started program
      rcases outlined.idle started idle with ⟨empty, released⟩
      have none : system.holds started = fun _ => False :=
        funext fun key => propext ⟨released key, False.elim⟩
      apply outlined.continue
      rw [empty, none]
      exact admitted program accepted system.rows outlined.inv
  | select running =>
      exact outlined.continue (outline.select (outlined.running _ _ running) outlined.inv)
  | lock running free =>
      rename_i locker key rest
      have advanced : Outlined inv good
          { system with
            owner := update system.owner key (some locker)
            log := update system.log locker (system.log locker)
            program := update system.program locker
              (some (rest ((system.view locker).lookup key))) } := by
        refine outlined.advance system.sequence ?_ ?_ ?_
        · intro other holder apart
          exact holds_update_of_ne apart free
        · intro version member
          have owned := outlined.logged locker version member
          by_cases same : version.1 = key
          · rw [same, update_self]
          · rw [update_of_ne same]
            exact owned
        · rw [owned_update]
          exact outline.lock (outlined.running _ _ running) outlined.inv
      rw [update_eq_self] at advanced
      exact advanced
  | write running owned =>
      rename_i writer key row rest
      refine outlined.advance system.sequence (fun key other _ => Iff.rfl) ?_
        (outline.write (outlined.running _ _ running) outlined.inv)
      intro version member
      rcases List.mem_append.mp member with old | new
      · exact outlined.logged writer version old
      · rw [List.mem_singleton.mp new]
        exact owned
  | insertNext running drawn free absent =>
      rename_i writer key row taken rest number
      refine outlined.advance number ?_ ?_ ?_
      · intro other holder apart
        exact holds_update_of_ne apart free
      · intro version member
        rcases List.mem_append.mp member with old | new
        · have owned := outlined.logged writer version old
          by_cases same : version.1 = key number
          · rw [same, update_self]
          · rw [update_of_ne same]
            exact owned
        · rw [List.mem_singleton.mp new, update_self]
      · rw [owned_update]
        exact outline.insertNext (outlined.running _ _ running) outlined.inv absent
  | commitThen running =>
      rename_i committer rest
      have untouched (other : τ) (apart : other ≠ committer) :
          ((system.close committer (system.view committer) system.sequence).resume committer
            rest).program other = system.program other :=
        (update_of_ne apart ..).trans (update_of_ne apart ..)
      rcases committed committer _ running rfl rfl untouched with ⟨kept, goesOn, others⟩
      have closed : (system.close committer (system.view committer) system.sequence).Outlined inv
          good := outlined.close kept others
      have none : (system.close committer (system.view committer) system.sequence).holds committer =
          fun _ => False := funext fun key => propext ⟨not_holds_close key, False.elim⟩
      have empty : (system.close committer (system.view committer) system.sequence).log committer =
          [] := update_self ..
      refine closed.continue ?_
      rw [none, empty]
      exact goesOn rest rfl
  | commit running =>
      rename_i committer result
      have untouched (other : τ) (apart : other ≠ committer) :
          (system.close committer (system.view committer) system.sequence).program other =
            system.program other := update_of_ne apart ..
      rcases committed committer _ running rfl rfl untouched with ⟨kept, -, others⟩
      exact outlined.close kept others
  | abort running drawn =>
      exact outlined.close outlined.inv fun other program _ => outlined.running other program

end

end System

end Transaction
