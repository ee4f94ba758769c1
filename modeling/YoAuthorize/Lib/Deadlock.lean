import YoAuthorize.Lib.Contract

/-!
# Deadlocks of transactions

A transaction waits for another one when the row that it has to lock next belongs
to the other.  A deadlock is a cycle of waiting transactions.  There is none if
the keys have ranks and every transaction that waits for a waiting one holds only
keys below the one it waits for: along a cycle the ranks would grow for ever.
-/

namespace Transaction.System

open Function Relation

variable {κ : Type} {ν : κ → Type} {ε α τ : Type}

/-! ## Waiting -/

/-- The key that a transaction has to lock next. -/
def wants (system : System τ ν ε α) (transaction : τ) : Option κ :=
  match system.program transaction with
  | some (.lock key _) => some key
  | _ => none

/-- The next lock of the first transaction belongs to the second. -/
def WaitsFor (system : System τ ν ε α) (transaction holder : τ) : Prop :=
  holder ≠ transaction ∧ ∃ key, system.wants transaction = some key ∧
    system.owner key = some holder

def Waiting (system : System τ ν ε α) (transaction : τ) : Prop :=
  ∃ holder, system.WaitsFor transaction holder

/-- A cycle of transactions that each wait for the next one. -/
def Deadlocked (system : System τ ν ε α) : Prop :=
  ∃ transaction, TransGen system.WaitsFor transaction transaction

variable {system : System τ ν ε α}

theorem program_of_wants {transaction : τ} {key : κ} (wants : system.wants transaction = some key) :
    ∃ next, system.program transaction = some (.lock key next) := by
  unfold System.wants at wants
  split at wants
  · rename_i next running
    cases wants
    exact ⟨next, running⟩
  · cases wants

/-- Whoever is waited for along a cycle waits too. -/
theorem waiting_of_path {first last : τ} (path : TransGen system.WaitsFor first last)
    (waiting : system.Waiting last) :
    TransGen (fun left right => system.WaitsFor left right ∧ system.Waiting right) first last := by
  induction path using TransGen.head_induction_on with
  | single edge => exact .single ⟨edge, waiting⟩
  | head edge rest ih =>
      rcases TransGen.head'_iff.mp rest with ⟨next, here, -⟩
      exact .head ⟨edge, next, here⟩ ih

/-- Ranks that grow along the waiting transactions exclude a deadlock. -/
theorem not_deadlocked_of_rank (rank : κ → Nat)
    (ordered : ∀ transaction holder key, system.WaitsFor transaction holder →
      system.Waiting holder → system.wants transaction = some key →
      ∀ other, system.holds transaction other → rank other < rank key) :
    ¬ system.Deadlocked := by
  rintro ⟨start, cycle⟩
  have waits : system.Waiting start := by
    rcases TransGen.head'_iff.mp cycle with ⟨next, here, -⟩
    exact ⟨next, here⟩
  have chained := waiting_of_path cycle waits
  have grows {left right : τ}
      (path : TransGen (fun left right => system.WaitsFor left right ∧ system.Waiting right) left
        right) : ∀ {key last : κ}, system.wants left = some key → system.wants right = some last →
      (∃ holder, system.WaitsFor right holder ∧ system.Waiting holder) → rank key < rank last := by
    induction path with
    | single edge =>
        intro key last wants wantsLast next
        rcases next with ⟨holder, here, waiting⟩
        rcases edge.1 with ⟨-, found, wantsFound, owned⟩
        cases wants.symm.trans wantsFound
        exact ordered _ holder last here waiting wantsLast key owned
    | tail path edge ih =>
        intro key last wants wantsLast next
        rcases edge.1 with ⟨-, middle, wantsMiddle, owned⟩
        have before := ih wants wantsMiddle ⟨_, edge⟩
        rcases next with ⟨holder, here, waiting⟩
        exact Nat.lt_trans before (ordered _ holder last here waiting wantsLast middle owned)
  rcases TransGen.head'_iff.mp chained with ⟨next, edge, -⟩
  rcases edge.1 with ⟨-, key, wants, -⟩
  exact Nat.lt_irrefl _ (grows chained wants wants ⟨next, edge⟩)

/-! ## What is locked -/

section

variable [DecidableEq κ] [DecidableEq τ] {admits : Program ν ε α → Prop}
  {next : System τ ν ε α} {transaction other : τ} {key kept : κ}

omit [DecidableEq κ] in
/-- Who ends a transaction gives its locks back, the others keep theirs. -/
theorem holds_close (rows : AList ν) (sequence : Nat) :
    (system.close other rows sequence).holds transaction key ↔
      transaction ≠ other ∧ system.holds transaction key := by
  unfold System.holds close
  dsimp only
  constructor
  · intro owned
    split at owned
    · cases owned
    · rename_i unowned
      exact ⟨fun same => unowned (same ▸ owned), owned⟩
  · rintro ⟨apart, owned⟩
    rw [if_neg fun same => apart (Option.some.inj (owned.symm.trans same))]
    exact owned

/-- A transaction that has a lock after a step still has all of its locks. -/
theorem holds_of_step (step : Step admits system next) (still : next.holds transaction kept)
    (holds : system.holds transaction key) : next.holds transaction key := by
  have locked {locker : τ} {taken : κ}
      (free : system.owner taken = none ∨ system.owner taken = some locker) :
      update system.owner taken (some locker) key = some transaction := by
    by_cases same : key = taken
    · subst same
      rw [update_self]
      rcases free with unowned | owned
      · cases unowned.symm.trans holds
      · exact owned.symm.trans holds
    · rw [update_of_ne same]
      exact holds
  cases step with
  | start | select | write => exact holds
  | lock running free => exact locked free
  | insertNext running drawn free absent => exact locked free
  | commitThen | commit | abort =>
      rcases (holds_close system.rows system.sequence).mp still with ⟨apart, -⟩
      exact (holds_close system.rows system.sequence).mpr ⟨apart, holds⟩

/-- A step locks at most one row. -/
theorem eq_of_locks (step : Step admits system next) (before : ¬ system.holds transaction key)
    (after : next.holds transaction key) (beforeToo : ¬ system.holds other kept)
    (afterToo : next.holds other kept) : key = kept := by
  have only {locker someone : τ} {taken row : κ} (before : ¬ system.holds someone row)
      (after : update system.owner taken (some locker) row = some someone) : row = taken := by
    by_contra apart
    rw [update_of_ne apart] at after
    exact before after
  cases step with
  | start | select | write => exact absurd after before
  | lock | insertNext => exact (only before after).trans (only beforeToo afterToo).symm
  | commitThen | commit | abort =>
      exact absurd ((holds_close system.rows system.sequence).mp after).2 before

/-- A step that locks a row takes nobody else further. -/
theorem program_of_locks (step : Step admits system next) (before : ¬ system.holds transaction key)
    (after : next.holds transaction key) (apart : other ≠ transaction) :
    next.program other = system.program other := by
  have only {locker : τ} {taken : κ}
      (after : update system.owner taken (some locker) key = some transaction) :
      locker = transaction := by
    by_cases same : key = taken
    · subst same
      rw [update_self] at after
      exact Option.some.inj after
    · rw [update_of_ne same] at after
      exact absurd after before
  cases step with
  | start | select | write => exact absurd after before
  | lock | insertNext =>
      cases only after
      exact update_of_ne apart ..
  | commitThen | commit | abort =>
      exact absurd ((holds_close system.rows system.sequence).mp after).2 before

/-- Nobody changes a row that another transaction has locked. -/
theorem Safe.lookup_rows {contract : Contract ν}
    {good : Program ν ε α → (κ → Prop) → List (Sigma ν) → AList ν → Prop}
    (safe : system.Safe contract good) (step : Step admits system next)
    (holds : next.holds transaction key) : next.rows.lookup key = system.rows.lookup key := by
  cases step with
  | start | select | write | lock | insertNext | abort => rfl
  | commitThen | commit =>
      rcases (holds_close system.rows system.sequence).mp holds with ⟨apart, holds⟩
      refine (safe_iff_outlined.mp safe).lookup_view fun owned => ?_
      exact apart (Option.some.inj (holds.symm.trans owned))

end

end Transaction.System
