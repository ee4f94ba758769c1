import Mathlib.Data.List.Basic

/-!
# Transfers in parts

A transfer moves a number of items from the front of a source to the end of a
target, in parts whose sizes something else decides.  `run` is the usual loop:
each event moves some more, asks to try again or ends the transfer.  When the
events are over the transfer fails with the error of its deadline.

Nothing is lost or moved twice, however the transfer ends (`run_conserves`); it is
complete exactly with the items it was asked for (`run_complete`), and it does
complete if the source has them and enough events move something
(`complete_of_enough`), whatever the parts are.
-/

namespace Transfer

variable {α ε : Type}

/-- An event that moves nothing is one that finds the source ended. -/
inductive Event (ε : Type) : Type
  | moves (count : Nat)
  | again
  | fails (error : ε)

inductive Outcome (ε : Type) : Type
  | complete
  | ended
  | failed (error : ε)

structure Progress (α ε : Type) : Type where
  target : List α
  source : List α
  events : List (Event ε)
  outcome : Outcome ε

/-- The loop, with the target and the source so far. -/
def run (deadline : ε) (goal : Nat) (target source : List α) :
    List (Event ε) → Progress α ε
  | [] =>
      { target, source, events := []
        outcome := if target.length < goal then .failed deadline else .complete }
  | event :: events =>
      if target.length < goal then
        match event with
        | .again => run deadline goal target source events
        | .fails error => { target, source, events, outcome := .failed error }
        | .moves count =>
            let part := source.take (min count (goal - target.length))
            if part = [] then { target, source, events, outcome := .ended }
            else run deadline goal (target ++ part) (source.drop part.length) events
      else { target, source, events := event :: events, outcome := .complete }

/-- An event of a transfer that is under way. -/
def Event.Proceeds : Event ε → Prop
  | .moves count => 0 < count
  | .again => True
  | .fails _ => False

def Event.moving : Event ε → Bool
  | .moves _ => true
  | _ => false

section

variable {deadline : ε} {goal : Nat} {target source : List α} {events : List (Event ε)}

/-- Every item is in the target or still in the source. -/
theorem run_conserves :
    (run deadline goal target source events).target ++
        (run deadline goal target source events).source = target ++ source := by
  induction events generalizing target source with
  | nil => rfl
  | cons event events ih =>
      unfold run
      split
      · cases event with
        | again => exact ih
        | fails error => rfl
        | moves count =>
            dsimp only
            split
            · rfl
            · rw [ih, List.append_assoc,
                List.prefix_iff_eq_append.mp (List.take_prefix _ source)]
      · rfl

/-- A complete transfer has moved what it was asked for and no more. -/
theorem run_complete (fits : target.length ≤ goal)
    (complete : (run deadline goal target source events).outcome = .complete) :
    (run deadline goal target source events).target.length = goal := by
  induction events generalizing target source with
  | nil =>
      simp only [run] at complete ⊢
      split at complete
      · cases complete
      · omega
  | cons event events ih =>
      unfold run at complete ⊢
      split
      · rename_i under
        rw [if_pos under] at complete
        cases event with
        | again => exact ih fits complete
        | fails error => cases complete
        | moves count =>
            dsimp only at complete ⊢
            split
            · rename_i nothing
              rw [if_pos nothing] at complete
              cases complete
            · rename_i something
              rw [if_neg something] at complete
              apply ih _ complete
              rw [List.length_append, List.length_take]
              omega
      · dsimp only
        omega

/-- The number of events that move something. -/
def moving (events : List (Event ε)) : Nat := events.countP Event.moving

/-- Enough events complete the transfer, and leave enough for what follows. -/
theorem complete_of_enough (fits : target.length ≤ goal)
    (long : goal ≤ target.length + source.length)
    (proceeds : ∀ event ∈ events, event.Proceeds)
    (enough : goal ≤ target.length + moving events) :
    (run deadline goal target source events).outcome = .complete ∧
      (run deadline goal target source events).events <:+ events ∧
      moving events ≤ moving (run deadline goal target source events).events +
        (goal - target.length) := by
  induction events generalizing target source with
  | nil =>
      have reached : ¬ target.length < goal := by
        simp only [moving, List.countP_nil] at enough
        omega
      simp only [run, if_neg reached]
      exact ⟨trivial, List.suffix_rfl, Nat.le_add_right _ _⟩
  | cons event events ih =>
      have later : ∀ event ∈ events, event.Proceeds :=
        fun event mem => proceeds event (List.mem_cons_of_mem _ mem)
      unfold run
      split
      · rename_i under
        cases event with
        | again =>
            obtain ⟨complete, suffix, left⟩ := ih fits long later enough
            exact ⟨complete, suffix.trans (List.suffix_cons _ _), left⟩
        | fails error => exact (proceeds _ List.mem_cons_self).elim
        | moves count =>
            have positive : 0 < count := proceeds _ List.mem_cons_self
            have counted : moving (.moves count :: events) = moving events + 1 :=
              List.countP_cons_of_pos rfl
            rw [counted] at enough ⊢
            dsimp only
            -- The part is not empty and stays inside the goal.
            have size : (source.take (min count (goal - target.length))).length =
                min (min count (goal - target.length)) source.length := List.length_take
            rw [if_neg]
            · have moved : (target ++ source.take (min count (goal - target.length))).length =
                  target.length + min (min count (goal - target.length)) source.length := by
                rw [List.length_append, size]
              obtain ⟨complete, suffix, left⟩ := @ih
                (target ++ source.take (min count (goal - target.length)))
                (source.drop (source.take (min count (goal - target.length))).length)
                (by omega) (by rw [moved, List.length_drop, size]; omega) later (by omega)
              exact ⟨complete, suffix.trans (List.suffix_cons _ _), by omega⟩
            · intro nothing
              rw [nothing, List.length_nil] at size
              omega
      · exact ⟨rfl, List.suffix_rfl, Nat.le_add_right _ _⟩

end

end Transfer
