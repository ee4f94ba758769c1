import Mathlib.Data.List.AList
import Mathlib.Data.List.Induction
import Mathlib.Tactic.Ring

/-!
# Counters that expire

A limiter that counts the hits on a key until the counter of the key has expired, a
window after its first hit; at the very end of the window it still counts.  A hit is
admitted while the count is within the limit.

Whatever the counters were, `n` windows admit no more than `n + 1` times the limit
(`admitted_le`), and a hit is refused only if the window that ends with it holds more
hits than the limit (`full_of_refused`): a refused hit does not prolong the refusal.
-/

namespace FixedWindow

variable {κ : Type} [DecidableEq κ]

structure Counter : Type where
  count : Nat
  /-- The last time at which the counter is there. -/
  expiry : Option Nat := none
  deriving DecidableEq

def Counter.live (counter : Counter) (now : Nat) : Bool :=
  counter.expiry.all fun expiry => now ≤ expiry

abbrev Counters (κ : Type) : Type := AList fun _ : κ => Counter

/-- The counter of a key, if it has not expired. -/
def find (counters : Counters κ) (now : Nat) (key : κ) : Option Counter :=
  (counters.lookup key).filter fun counter => counter.live now

/-- A hit on a counter, which gets an expiry if it has none. -/
def Counter.hit (window now : Nat) : Option Counter → Counter
  | none => { count := 1, expiry := some (now + window) }
  | some counter =>
      { count := counter.count + 1, expiry := some (counter.expiry.getD (now + window)) }

structure Hit (κ : Type) : Type where
  key : κ
  time : Nat

section

variable (window limit : κ → Nat)

/-- The counter that a hit leaves. -/
def counted (counters : Counters κ) (hit : Hit κ) : Counter :=
  Counter.hit (window hit.key) hit.time (find counters hit.time hit.key)

def step (counters : Counters κ) (hit : Hit κ) : Counters κ :=
  counters.insert hit.key (counted window counters hit)

def run (counters : Counters κ) (hits : List (Hit κ)) : Counters κ :=
  hits.foldl (step window) counters

def admits (counters : Counters κ) (hit : Hit κ) : Bool :=
  (counted window counters hit).count ≤ limit hit.key

/-- The number of hits on a key that are admitted. -/
def admitted (key : κ) (counters : Counters κ) : List (Hit κ) → Nat
  | [] => 0
  | hit :: hits =>
      (if hit.key = key ∧ admits window limit counters hit = true then 1 else 0) +
        admitted key (step window counters hit) hits

end

/-! ## Lookups -/

section

variable {window limit : κ → Nat} {counters : Counters κ} {hit : Hit κ} {key : κ} {now later : Nat}

theorem find_eq_some {counter : Counter} : find counters now key = some counter ↔
    counters.lookup key = some counter ∧ counter.live now = true :=
  Option.filter_eq_some_iff

theorem find_step_of_ne (apart : key ≠ hit.key) :
    find (step window counters hit) now key = find counters now key := by
  rw [find, step, AList.lookup_insert_ne apart]
  rfl

theorem find_step (now : Nat) : find (step window counters hit) now hit.key =
    (some (counted window counters hit)).filter fun counter => counter.live now := by
  rw [find, step, AList.lookup_insert]

theorem Counter.live_of_le {counter : Counter} (before : now ≤ later)
    (live : counter.live later = true) : counter.live now = true := by
  unfold Counter.live at live ⊢
  rw [Option.all_eq_true] at live ⊢
  intro expiry here
  exact decide_eq_true (before.trans (of_decide_eq_true (live expiry here)))

/-- A counter that is gone stays gone. -/
theorem find_of_le (before : now ≤ later) : find counters later key =
    (find counters now key).filter fun counter => counter.live later := by
  unfold find
  cases counters.lookup key with
  | none => rfl
  | some counter =>
      by_cases live : counter.live later = true
      · simp [Option.filter, live, Counter.live_of_le before live]
      · by_cases earlier : counter.live now = true
        · simp [Option.filter, live, earlier]
        · simp [Option.filter, live, earlier]

theorem live_counted : (counted window counters hit).live hit.time = true := by
  unfold counted
  cases found : find counters hit.time hit.key with
  | none => simp [Counter.hit, Counter.live]
  | some counter =>
      have live := (find_eq_some.mp found).2
      cases expiry : counter.expiry with
      | none => simp [Counter.hit, Counter.live, expiry]
      | some time =>
          rw [Counter.live, expiry] at live
          simpa [Counter.hit, Counter.live, expiry] using live

theorem find_step_self :
    find (step window counters hit) hit.time hit.key = some (counted window counters hit) := by
  rw [find_step, Option.filter, live_counted]
  rfl

end

/-! ## How much is admitted -/

/-- The end of the counter, if nothing happens before. -/
def ends (window now : Nat) : Option Counter → Nat
  | none => now
  | some counter => counter.expiry.getD (now + window)

/-- `n` windows after the end of the counter reach up to `last`. -/
def Covers (window last now : Nat) (found : Option Counter) (n : Nat) : Prop :=
  last ≤ ends window now found + n * window

/-- What the counter still admits. -/
def room (limit : Nat) : Option Counter → Nat
  | none => 0
  | some counter => limit - counter.count

section

variable {window limit last now later n : Nat} {found : Option Counter}

theorem covers_of_le (before : now ≤ later) (covers : Covers window last now found n) :
    Covers window last later (found.filter fun counter => counter.live later) n ∧
      room limit (found.filter fun counter => counter.live later) ≤ room limit found := by
  cases found with
  | none =>
      simp only [Covers, ends] at covers
      simp only [Option.filter_none, Covers, ends, room, le_refl, and_true]
      omega
  | some counter =>
      simp only [Covers, ends] at covers
      cases expiry : counter.expiry with
      | none =>
          simp only [expiry, Option.getD_none] at covers
          simp only [Option.filter, Counter.live, expiry, Option.all_none, if_true, Covers, ends,
            Option.getD_none, le_refl, and_true]
          omega
      | some time =>
          simp only [expiry, Option.getD_some] at covers
          by_cases live : later ≤ time
          · simp only [Option.filter, Counter.live, expiry, Option.all_some, live, decide_true,
              if_true, Covers, ends, Option.getD_some, le_refl, and_true]
            exact covers
          · simp only [Option.filter, Counter.live, expiry, Option.all_some, live, decide_false,
              Bool.false_eq_true, if_false, Covers, ends, room, Nat.zero_le, and_true]
            omega

/-- A hit uses the room of its counter. -/
theorem room_hit (counter : Counter) :
    (if (Counter.hit window now (some counter)).count ≤ limit then 1 else 0) +
      room limit (some (Counter.hit window now (some counter))) ≤ room limit (some counter) := by
  by_cases fits : (Counter.hit window now (some counter)).count ≤ limit
  · rw [if_pos fits]
    simp only [Counter.hit, room] at fits ⊢
    omega
  · rw [if_neg fits]
    simp only [Counter.hit, room]
    omega

theorem room_first : (if (Counter.hit window now none).count ≤ limit then 1 else 0) +
    room limit (some (Counter.hit window now none)) ≤ limit := by
  by_cases fits : (Counter.hit window now none).count ≤ limit
  · rw [if_pos fits]
    simp only [Counter.hit, room] at fits ⊢
    omega
  · rw [if_neg fits]
    simp only [Counter.hit, room]
    omega

/-- Without a counter, a hit begins the next window. -/
theorem covers_hit (inside : now < last) (covers : Covers window last now found n) :
    ∃ m, Covers window last now (some (Counter.hit window now found)) m ∧
      (if (Counter.hit window now found).count ≤ limit then 1 else 0) +
        (room limit (some (Counter.hit window now found)) + m * limit) ≤
          room limit found + n * limit := by
  cases found with
  | none =>
      simp only [Covers, ends] at covers
      cases n with
      | zero => omega
      | succ m =>
          rw [Nat.succ_mul] at covers
          refine ⟨m, ?_, ?_⟩
          · simp only [Covers, ends, Counter.hit, Option.getD_some]
            omega
          · have first := @room_first window limit now
            rw [Nat.succ_mul]
            omega
  | some counter =>
      refine ⟨n, ?_, ?_⟩
      · simpa only [Covers, ends, Counter.hit, Option.getD_some] using covers
      · have used := @room_hit window limit now counter
        omega

end

section

variable {window limit : κ → Nat} {counters : Counters κ} {key : κ}

theorem admitted_le_of_covers {hits : List (Hit κ)} {last now n : Nat}
    (ordered : (hits.map Hit.time).Pairwise (· ≤ ·))
    (inside : ∀ hit ∈ hits, now ≤ hit.time ∧ hit.time < last)
    (covers : Covers (window key) last now (find counters now key) n) :
    admitted window limit key counters hits ≤
      room (limit key) (find counters now key) + n * limit key := by
  induction hits generalizing counters now n with
  | nil => exact Nat.zero_le _
  | cons hit hits ih =>
      obtain ⟨first, rest⟩ := List.pairwise_cons.mp ordered
      obtain ⟨before, early⟩ := inside hit List.mem_cons_self
      have later : ∀ other ∈ hits, hit.time ≤ other.time ∧ other.time < last := fun other mem =>
        ⟨first _ (List.mem_map_of_mem mem), (inside other (List.mem_cons_of_mem _ mem)).2⟩
      obtain ⟨covers, less⟩ := @covers_of_le _ (limit key) _ _ _ _ _ before covers
      rw [← find_of_le before] at covers less
      refine Nat.le_trans ?_ (Nat.add_le_add_right less _)
      unfold admitted
      by_cases same : hit.key = key
      · subst same
        obtain ⟨m, covers, bound⟩ := @covers_hit _ (limit hit.key) _ _ _ _ early covers
        have found := @find_step_self _ _ window counters hit
        have admittedRest := ih rest later (found ▸ covers)
        rw [found] at admittedRest
        refine Nat.le_trans (Nat.add_le_add_left admittedRest _) (Nat.le_trans (le_of_eq ?_) bound)
        simp only [true_and, admits, decide_eq_true_eq]
        rfl
      · have apart : key ≠ hit.key := fun equal => same equal.symm
        have found := @find_step_of_ne _ _ window counters hit key hit.time apart
        have admittedRest := ih rest later (found ▸ covers)
        rw [found] at admittedRest
        simpa only [same, false_and, if_false, Nat.zero_add] using admittedRest

/-- Whatever the counters are, `n` windows admit at most `n + 1` times the limit. -/
theorem admitted_le {hits : List (Hit κ)} {start n : Nat}
    (ordered : (hits.map Hit.time).Pairwise (· ≤ ·))
    (inside : ∀ hit ∈ hits, start ≤ hit.time ∧ hit.time < start + n * window key) :
    admitted window limit key counters hits ≤ (n + 1) * limit key := by
  have covers : Covers (window key) (start + n * window key) start (find counters start key) n ∧
      room (limit key) (find counters start key) ≤ limit key := by
    cases found : find counters start key with
    | none => exact ⟨le_refl _, Nat.zero_le _⟩
    | some counter =>
        have live := (find_eq_some.mp found).2
        refine ⟨Nat.add_le_add_right ?_ _, Nat.sub_le _ _⟩
        cases expiry : counter.expiry with
        | none =>
            simp only [ends, expiry, Option.getD_none]
            omega
        | some time =>
            rw [Counter.live, expiry, Option.all_some, decide_eq_true_eq] at live
            simp only [ends, expiry, Option.getD_some]
            omega
  have bound : admitted window limit key counters hits ≤ _ :=
    admitted_le_of_covers ordered inside covers.1
  rw [Nat.succ_mul]
  omega

/-! ## When a hit is refused -/

/-- The hits on a key whose windows are not over at a time. -/
def recent (window : κ → Nat) (key : κ) (now : Nat) (hits : List (Hit κ)) : Nat :=
  hits.countP fun hit => hit.key = key ∧ now ≤ hit.time + window key

theorem recent_append (now : Nat) (hits : List (Hit κ)) (hit : Hit κ) :
    recent window key now (hits ++ [hit]) = recent window key now hits +
      if hit.key = key ∧ now ≤ hit.time + window key then 1 else 0 := by
  rw [recent, List.countP_append, List.countP_singleton]
  simp only [decide_eq_true_eq]
  rfl

/-- A counter has counted hits of its window only. -/
structure Counted (window : κ → Nat) (key : κ) (hits : List (Hit κ)) (now : Nat)
    (counter : Counter) (expiry : Nat) : Prop where
  expires : counter.expiry = some expiry
  soon : expiry ≤ now + window key
  small : counter.count ≤ recent window key expiry hits

theorem counted_of_run {start : Nat} (fresh : find counters start key = none) {hits : List (Hit κ)}
    {now : Nat} (ordered : (hits.map Hit.time).Pairwise (· ≤ ·))
    (inside : ∀ hit ∈ hits, start ≤ hit.time ∧ hit.time ≤ now) (begun : start ≤ now)
    {counter : Counter} (found : find (run window counters hits) now key = some counter) :
    ∃ expiry, Counted window key hits now counter expiry := by
  induction hits using List.reverseRecOn generalizing now counter with
  | nil =>
      rw [run, List.foldl_nil, find_of_le begun, fresh] at found
      cases found
  | append_singleton hits hit ih =>
      rw [List.map_append, List.pairwise_append] at ordered
      obtain ⟨earlier, -, last⟩ := ordered
      obtain ⟨after, before⟩ := inside hit (List.mem_append_right _ List.mem_cons_self)
      have within : ∀ other ∈ hits, start ≤ other.time ∧ other.time ≤ hit.time := fun other mem =>
        ⟨(inside other (List.mem_append_left _ mem)).1,
          last _ (List.mem_map_of_mem mem) _ List.mem_cons_self⟩
      rw [run, List.foldl_append] at found
      change find (step window (run window counters hits) hit) now key = some counter at found
      by_cases same : key = hit.key
      · subst same
        rw [find_step, Option.filter_eq_some_iff] at found
        obtain ⟨stored, -⟩ := found
        cases stored
        unfold counted
        cases here : find (run window counters hits) hit.time hit.key with
        | none =>
            refine ⟨hit.time + window hit.key, rfl, by omega, ?_⟩
            rw [recent_append, if_pos ⟨rfl, le_refl _⟩]
            exact Nat.le_add_left 1 _
        | some old =>
            obtain ⟨expiry, kept, soon, count⟩ := ih earlier within after here
            refine ⟨expiry, ?_, by omega, ?_⟩
            · simp only [Counter.hit, kept, Option.getD_some]
            · rw [recent_append, if_pos ⟨rfl, soon⟩]
              exact Nat.add_le_add_right count 1
      · rw [find_step_of_ne same] at found
        obtain ⟨expiry, kept, soon, count⟩ := ih earlier (fun other mem =>
          ⟨(within other mem).1, (within other mem).2.trans before⟩) begun found
        exact ⟨expiry, kept, soon, by rw [recent_append]; omega⟩

/-- Where a hit is refused, the window up to it holds the limit already. -/
theorem full_of_refused {start : Nat} {hit : Hit κ} (fresh : find counters start hit.key = none)
    {hits : List (Hit κ)} (ordered : (hits.map Hit.time).Pairwise (· ≤ ·))
    (inside : ∀ other ∈ hits, start ≤ other.time ∧ other.time ≤ hit.time) (begun : start ≤ hit.time)
    (refused : admits window limit (run window counters hits) hit = false) :
    limit hit.key ≤ recent window hit.key hit.time hits := by
  unfold admits counted at refused
  rw [decide_eq_false_iff_not] at refused
  cases found : find (run window counters hits) hit.time hit.key with
  | none =>
      rw [found] at refused
      simp only [Counter.hit] at refused
      omega
  | some counter =>
      rw [found] at refused
      simp only [Counter.hit] at refused
      obtain ⟨expiry, kept, soon, count⟩ := counted_of_run fresh ordered inside begun found
      have live := (find_eq_some.mp found).2
      rw [Counter.live, kept, Option.all_some, decide_eq_true_eq] at live
      have shrinks : recent window hit.key expiry hits ≤ recent window hit.key hit.time hits := by
        refine List.countP_mono_left fun other _ counts => ?_
        obtain ⟨same, late⟩ := of_decide_eq_true counts
        exact decide_eq_true ⟨same, by omega⟩
      omega

end

end FixedWindow
