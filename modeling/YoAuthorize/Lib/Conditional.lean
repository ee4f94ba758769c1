import YoAuthorize.Lib.Contract

/-!
# Contracts under a condition

Some requests keep a contract only while the others stay out of their way.  A
`Conditional` contract names what is assumed of every commit (`Proviso`) and
what is assumed of a commit by others while a request has a given program still
to do (`Respects`).  If every request is sound under these assumptions, then the
invariant holds in every state of a run whose steps meet them
(`System.inv_of_meeting_runs`).
-/

namespace Transaction

open Function Relation

variable {κ : Type} [DecidableEq κ] {ν : κ → Type} {ε α : Type}

structure Conditional (ν : κ → Type) (ε α : Type) : Type extends Contract ν where
  Proviso : AList ν → AList ν → Prop
  Respects : Program ν ε α → AList ν → AList ν → Prop

namespace Conditional

variable (conditional : Conditional ν ε α)

/-- What others may do while the program is still to be done. -/
def Waits (program : Program ν ε α) (held : κ → Prop) : AList ν → AList ν → Prop :=
  ReflTransGen fun rows later =>
    conditional.OtherCommit held rows later ∧ conditional.Respects program rows later

/-- The request keeps the contract to its end, if all commits meet the condition. -/
def Sound : Program ν ε α → (κ → Prop) → List (Sigma ν) → AList ν → Prop
  | .select next, held, log, rows =>
      ∀ now, conditional.Waits (.select next) held rows now → conditional.Inv now →
        Sound (next (replay now log)) held log now
  | .lock key next, held, log, rows =>
      ∀ now, conditional.Waits (.lock key next) held rows now → conditional.Inv now →
        Sound (next ((replay now log).lookup key)) (fun other => other = key ∨ held other) log now
  | .write key row next, held, log, rows =>
      ∀ now, conditional.Waits (.write key row next) held rows now → conditional.Inv now →
        Sound next held (log ++ [⟨key, row⟩]) now
  | .insertNext key row taken next, held, log, rows =>
      ∀ number now, conditional.Waits (.insertNext key row taken next) held rows now →
        conditional.Inv now → (replay now log).lookup (key number) = none →
        Sound next (fun other => other = key number ∨ held other)
          (log ++ [⟨key number, row number⟩]) now
  | .commitThen next, held, log, rows =>
      ∀ now, conditional.Waits (.commitThen next) held rows now → conditional.Inv now →
        conditional.Proviso now (replay now log) →
        (conditional.Inv (replay now log) ∧ conditional.Guarantee held now (replay now log)) ∧
          Sound next (fun _ => False) [] (replay now log)
  | .commit result, held, log, rows =>
      ∀ now, conditional.Waits (.commit result) held rows now → conditional.Inv now →
        conditional.Proviso now (replay now log) →
        conditional.Inv (replay now log) ∧ conditional.Guarantee held now (replay now log)
  | .rollback _, _, _, _ => True

variable {conditional} {held : κ → Prop} {rows later now : AList ν} {log : List (Sigma ν)}

theorem Waits.moves {program : Program ν ε α} (waits : conditional.Waits program held rows later) :
    conditional.Moves held rows later :=
  ReflTransGen.mono (fun _ _ commit => And.left commit) _ _ waits

theorem Sound.waits {program : Program ν ε α} (sound : conditional.Sound program held log rows)
    (waits : conditional.Waits program held rows later) :
    conditional.Sound program held log later := by
  cases program with
  | insertNext key row taken next =>
      exact fun number now more => sound number now (ReflTransGen.trans waits more)
  | select | lock | write | commitThen | commit =>
      exact fun now more => sound now (ReflTransGen.trans waits more)
  | rollback => trivial

theorem outline_sound : Outline conditional.Inv conditional.Sound where
  select sound inv := sound _ .refl inv
  lock sound inv := sound _ .refl inv
  write sound inv := sound _ .refl inv
  insertNext sound inv absent := sound _ _ .refl inv absent

/-- A row that is locked is there or not. -/
theorem Sound.lock {key : κ} {next : Option (ν key) → Program ν ε α}
    (missing : ∀ now, conditional.Waits (.lock key next) held rows now → conditional.Inv now →
      (replay now log).lookup key = none →
      conditional.Sound (next none) (fun other => other = key ∨ held other) log now)
    (found : ∀ row now, conditional.Waits (.lock key next) held rows now → conditional.Inv now →
      (replay now log).lookup key = some row →
      conditional.Sound (next (some row)) (fun other => other = key ∨ held other) log now) :
    conditional.Sound (.lock key next) held log rows := by
  intro now waits inv
  cases present : (replay now log).lookup key with
  | none => exact missing now waits inv present
  | some row => exact found row now waits inv present

/-- Locking a row that a query has found. -/
theorem Sound.lockWhere {ι : Type} {key : ι → κ} {find : AList ν → Option ι}
    {test : (index : ι) → ν (key index) → Bool}
    {next : Option ((index : ι) × ν (key index)) → Program ν ε α}
    (missing : ∀ (more : κ → Prop) (now : AList ν), (∀ key, held key → more key) →
      conditional.Moves held rows now → conditional.Inv now →
      conditional.Sound (next none) more log now)
    (found : ∀ (index : ι) (row : ν (key index)) (now : AList ν),
      conditional.Moves held rows now → conditional.Inv now →
      (replay now log).lookup (key index) = some row → test index row = true →
      conditional.Sound (next (some ⟨index, row⟩)) (fun other => other = key index ∨ held other)
        log now) :
    conditional.Sound (.lockWhere key find test next) held log rows := by
  intro first waitsFirst invFirst
  dsimp only
  split
  · exact missing held first (fun _ => id) waitsFirst.moves invFirst
  · rename_i index _
    apply Sound.lock
    · intro now waits inv _
      exact missing _ now (fun _ => .inr) (waitsFirst.moves.trans waits.moves) inv
    · intro row now waits inv present
      dsimp only
      split
      · rename_i accepted
        exact found index row now (waitsFirst.moves.trans waits.moves) inv present accepted
      · exact missing _ now (fun _ => .inr) (waitsFirst.moves.trans waits.moves) inv

/-- A step that changes no rows meets the condition. -/
def Reflexive (conditional : Conditional ν ε α) : Prop :=
  ∀ rows, conditional.Proviso rows rows ∧ ∀ program, conditional.Respects program rows rows

end Conditional

namespace System

variable {τ : Type} [DecidableEq τ] {conditional : Conditional ν ε α}
  {admits : Program ν ε α → Prop} {system next : System τ ν ε α}

/-- A step meets the condition: its commit, and for all that do not move. -/
structure Meets (conditional : Conditional ν ε α) (before after : System τ ν ε α) : Prop where
  proviso : conditional.Proviso before.rows after.rows
  respects : ∀ {transaction : τ} {program : Program ν ε α},
    before.program transaction = some program → after.program transaction = some program →
      conditional.Respects program before.rows after.rows

omit [DecidableEq τ] in
/-- What the commit of a sound request keeps. -/
theorem Outlined.guarantee (outlined : system.Outlined conditional.Inv conditional.Sound)
    {transaction : τ} {program : Program ν ε α}
    (running : system.program transaction = some program) (commits : program.commits = true)
    (proviso : conditional.Proviso system.rows (system.view transaction)) :
    (conditional.Inv (system.view transaction) ∧
      conditional.Guarantee (system.holds transaction) system.rows (system.view transaction)) ∧
      ∀ rest, program = .commitThen rest →
        conditional.Sound rest (fun _ => False) [] (system.view transaction) := by
  have sound := outlined.running transaction program running
  cases program with
  | commitThen next =>
      have kept := sound system.rows .refl outlined.inv proviso
      refine ⟨kept.1, ?_⟩
      rintro rest same
      cases same
      exact kept.2
  | commit result => exact ⟨sound system.rows .refl outlined.inv proviso, nofun⟩
  | select | lock | write | insertNext | rollback => cases commits

theorem Outlined.meetingStep (outlined : system.Outlined conditional.Inv conditional.Sound)
    (admitted : ∀ program, admits program → ∀ rows, conditional.Inv rows →
      conditional.Sound program (fun _ => False) [] rows)
    (step : Step admits system next) (meets : Meets conditional system next) :
    next.Outlined conditional.Inv conditional.Sound := by
  refine outlined.step Conditional.outline_sound admitted ?_ step
  intro transaction program running commits same untouched
  have proviso := meets.proviso
  rw [same] at proviso
  rcases outlined.guarantee running commits proviso with ⟨⟨inv, guarantee⟩, goesOn⟩
  refine ⟨inv, goesOn, ?_⟩
  intro other rest apart runs
  have respects := meets.respects runs ((untouched other apart).trans runs)
  rw [same] at respects
  refine (outlined.running other rest runs).waits (.single ⟨?_, respects⟩)
  refine ⟨system.holds transaction, ?_, inv, guarantee, ?_⟩
  · intro key owns holdsOther
    exact apart (Option.some.inj (holdsOther.symm.trans owns))
  · exact fun key unowned => outlined.lookup_view unowned

/-- The invariant holds in every state of a run whose steps meet the condition. -/
theorem inv_of_meeting_runs {rows : AList ν} {sequence : Nat} {system : System τ ν ε α}
    (inv : conditional.Inv rows)
    (admitted : ∀ program, admits program → ∀ rows, conditional.Inv rows →
      conditional.Sound program (fun _ => False) [] rows)
    (run : ReflTransGen (fun before after => Step admits before after ∧
      Meets conditional before after) { rows, sequence } system) : conditional.Inv system.rows := by
  have outlined : system.Outlined conditional.Inv conditional.Sound := by
    induction run with
    | refl => exact ⟨inv, nofun, fun _ _ => ⟨rfl, nofun⟩, nofun⟩
    | tail _ step ih => exact ih.meetingStep admitted step.1 step.2
  exact outlined.inv

/-! ## Requests that run one after the other -/

theorem rows_of_advance {transaction : τ} (advances : system.advance transaction = some next)
    (uncommitted : ¬ (system.program transaction).any Program.commits = true) :
    next.rows = system.rows := by
  unfold advance at advances
  split at advances
  · cases advances
    rfl
  · split at advances
    · cases advances
      rfl
    · cases advances
  · split at advances
    · cases advances
      rfl
    · cases advances
  · dsimp only at advances
    split at advances
    · cases advances
      rfl
    · cases advances
  · rename_i running
    rw [running] at uncommitted
    exact absurd rfl uncommitted
  · rename_i running
    rw [running] at uncommitted
    exact absurd rfl uncommitted
  · cases advances
    rfl
  · cases advances

/-- The only transaction runs to its end in at most so many steps, and each of
its commits passes the test. -/
def finish (test : AList ν → AList ν → Bool) : Nat → System Unit ν ε α → Option (System Unit ν ε α)
  | 0, _ => none
  | steps + 1, system =>
      match system.program () with
      | none => some system
      | some program =>
          (system.advance ()).bind fun next =>
            if program.commits && !test system.rows next.rows then none else finish test steps next

/-- Requests that run one after the other. -/
def finishAll (test : AList ν → AList ν → Bool) (steps : Nat) :
    List (Program ν ε α) → System Unit ν ε α → Option (System Unit ν ε α)
  | [], system => some system
  | program :: programs, system =>
      if (system.program ()).isSome then none
      else (finish test steps (system.resume () program)).bind (finishAll test steps programs)

theorem program_ne_of_advance {system next : System Unit ν ε α} {program : Program ν ε α}
    (running : system.program () = some program) (commits : program.commits = true)
    (advances : system.advance () = some next) : next.program () ≠ some program := by
  unfold advance at advances
  rw [running] at advances
  cases program with
  | commitThen rest =>
      cases advances
      simp only [resume, update_self]
      intro same
      cases same
  | commit result =>
      cases advances
      simp only [close, update_self]
      intro same
      cases same
  | select | lock | write | insertNext | rollback => cases commits

variable {test : AList ν → AList ν → Bool} {steps : Nat} {first last : System Unit ν ε α}

theorem meeting_of_finish (reflexive : conditional.Reflexive)
    (passes : ∀ rows later, test rows later = true → conditional.Proviso rows later)
    (finished : finish test steps first = some last) :
    ReflTransGen (fun before after => Step admits before after ∧ Meets conditional before after)
      first last := by
  induction steps generalizing first with
  | zero => cases finished
  | succ steps ih =>
      rw [finish] at finished
      split at finished
      · cases finished
        exact .refl
      · rename_i program running
        rcases Option.bind_eq_some_iff.mp finished with ⟨middle, advances, rest⟩
        split at rest
        · cases rest
        rename_i passed
        refine .head ⟨step_of_advance advances, ?_⟩ (ih rest)
        cases commits : program.commits with
        | true =>
            rw [commits, Bool.true_and, Bool.not_eq_true', Bool.not_eq_false] at passed
            refine ⟨passes _ _ passed, ?_⟩
            intro _ other before after
            cases before.symm.trans running
            exact absurd after (program_ne_of_advance running commits advances)
        | false =>
            have same : middle.rows = first.rows := by
              refine rows_of_advance advances ?_
              rw [running, Option.any_some, commits]
              exact Bool.false_ne_true
            rcases reflexive first.rows with ⟨proviso, respects⟩
            exact ⟨same.symm ▸ proviso, fun {_} program _ _ => same.symm ▸ respects program⟩

/-- Requests that run one after the other meet the condition on the others. -/
theorem meeting_of_finishAll (reflexive : conditional.Reflexive)
    (passes : ∀ rows later, test rows later = true → conditional.Proviso rows later)
    {programs : List (Program ν ε α)} (admitted : ∀ program ∈ programs, admits program)
    (finished : finishAll test steps programs first = some last) :
    ReflTransGen (fun before after => Step admits before after ∧ Meets conditional before after)
      first last := by
  induction programs generalizing first with
  | nil =>
      cases finished
      exact .refl
  | cons program programs ih =>
      rw [finishAll] at finished
      split at finished
      · cases finished
      rename_i idle
      rw [Option.not_isSome_iff_eq_none] at idle
      rcases Option.bind_eq_some_iff.mp finished with ⟨middle, runs, rest⟩
      have started : Meets conditional first (first.resume () program) := by
        rcases reflexive first.rows with ⟨proviso, respects⟩
        exact ⟨proviso, fun {_} program _ _ => respects program⟩
      have goesOn := ih (fun other member => admitted other (List.mem_cons_of_mem _ member)) rest
      exact .head ⟨.start idle (admitted program List.mem_cons_self), started⟩
        ((meeting_of_finish reflexive passes runs).trans goesOn)

end System

end Transaction
