import Mathlib.Data.List.AList
import Mathlib.Logic.Function.Basic
import Mathlib.Logic.Relation

/-!
# Lease pools

A pool is a table of leases that many holders share, and for each holder the
lease it has out.  A holder may acquire a lease under a new key, renew the one
it has and release it.  `Balanced` says that the table and the holders agree:
every lease in the table is out with exactly one holder, and the leases that
count against the quota are at most the quota.  Every step keeps it
(`Balanced.step`), so every run does (`Balanced.run`), and a balanced pool that
nobody holds a lease of is empty.  `retain` sweeps a table by a test on its leases.

A lease carries a tag that its holder knows too, so that the agreement is on
the tag as well as on the key.
-/

namespace Lease

open Function Relation

variable {ι κ τ ω : Type} [DecidableEq κ]

structure Pool (ι κ τ ω : Type) : Type where
  held : ι → Option (κ × ω)
  table : AList fun _ : κ => τ

section

variable (tag : τ → ω) (counted : ω → Bool)

/-- The number of leases in the table that count against the quota. -/
def count (table : AList fun _ : κ => τ) : Nat :=
  table.entries.countP fun entry => counted (tag entry.2)

inductive Step [DecidableEq ι] (quota : Nat) : Pool ι κ τ ω → Pool ι κ τ ω → Prop
  | acquire {pool : Pool ι κ τ ω} {holder : ι} {key : κ} {lease : τ}
      (free : pool.held holder = none) (new : key ∉ pool.table)
      (room : count tag counted pool.table < quota) :
      Step quota pool
        { held := update pool.held holder (some (key, tag lease))
          table := pool.table.insert key lease }
  | renew {pool : Pool ι κ τ ω} {holder : ι} {key : κ} {owner : ω} {old lease : τ}
      (holds : pool.held holder = some (key, owner)) (present : pool.table.lookup key = some old)
      (sameTag : tag lease = tag old) :
      Step quota pool { pool with table := pool.table.insert key lease }
  | release {pool : Pool ι κ τ ω} {holder : ι} {key : κ} {owner : ω}
      (holds : pool.held holder = some (key, owner)) :
      Step quota pool
        { held := update pool.held holder none
          table := pool.table.erase key }

/-- The table and the holders agree. -/
structure Balanced (quota : Nat) (pool : Pool ι κ τ ω) : Prop where
  lookup_of_held : ∀ {holder : ι} {key : κ} {owner : ω}, pool.held holder = some (key, owner) →
    ∃ lease, pool.table.lookup key = some lease ∧ tag lease = owner
  holder_unique : ∀ {left right : ι} {key : κ} {leftOwner rightOwner : ω},
    pool.held left = some (key, leftOwner) → pool.held right = some (key, rightOwner) →
      left = right
  held_of_mem : ∀ {key : κ}, key ∈ pool.table →
    ∃ holder owner, pool.held holder = some (key, owner)
  count_le : count tag counted pool.table ≤ quota

end

/-! ## Counting -/

section

variable {tag : τ → ω} {counted : ω → Bool}

theorem count_insert_le {table : AList fun _ : κ => τ} {key : κ} (lease : τ)
    (new : key ∉ table) :
    count tag counted (table.insert key lease) ≤ count tag counted table + 1 := by
  rw [count, AList.entries_insert_of_notMem new, List.countP_cons, count]
  split <;> omega

theorem count_erase_le (table : AList fun _ : κ => τ) (key : κ) :
    count tag counted (table.erase key) ≤ count tag counted table :=
  (List.kerase_sublist key table.entries).countP_le

/-- Writing a lease again under its own tag leaves the count as it was. -/
theorem count_insert_of_lookup {table : AList fun _ : κ => τ} {key : κ} {old new : τ}
    (present : table.lookup key = some old) (sameTag : tag new = tag old) :
    count tag counted (table.insert key new) = count tag counted table := by
  have member : key ∈ table.entries.keys :=
    AList.mem_keys.mp (AList.lookup_isSome.mp (by rw [present]; rfl))
  rcases List.exists_of_kerase member with ⟨found, before, after, outside, entries, erased⟩
  have foundHere : ⟨key, found⟩ ∈ table.entries := by
    rw [entries]
    exact List.mem_append_right before List.mem_cons_self
  have same : found = old := by
    have lookup := AList.mem_lookup_iff.mpr foundHere
    rw [present] at lookup
    exact (Option.some.inj lookup).symm
  rw [count, AList.entries_insert, erased, count, entries, same]
  simp only [List.countP_cons, List.countP_append, sameTag]
  omega

/-! ## Sweeping -/

/-- The table without the leases that fail the test. -/
def retain (keep : τ → Bool) (table : AList fun _ : κ => τ) : AList fun _ : κ => τ where
  entries := table.entries.filter fun entry => keep entry.2
  nodupKeys := table.nodupKeys.sublist List.filter_sublist

theorem lookup_retain {keep : τ → Bool} {table : AList fun _ : κ => τ} {key : κ} {lease : τ} :
    (retain keep table).lookup key = some lease ↔
      table.lookup key = some lease ∧ keep lease = true := by
  have swept : (retain keep table).lookup key = some lease ↔
      ⟨key, lease⟩ ∈ (retain keep table).entries := AList.mem_lookup_iff
  have kept : table.lookup key = some lease ↔ ⟨key, lease⟩ ∈ table.entries :=
    AList.mem_lookup_iff
  rw [swept, kept]
  exact List.mem_filter

omit [DecidableEq κ] in
/-- What a sweep takes out of a count is what fails the test and counts. -/
theorem countP_retain (keep : τ → Bool) (table : AList fun _ : κ => τ) (among : τ → Bool) :
    (retain keep table).entries.countP (fun entry => among entry.2) +
        table.entries.countP (fun entry => among entry.2 && !keep entry.2) =
      table.entries.countP fun entry => among entry.2 := by
  rw [retain, List.countP_filter]
  induction table.entries with
  | nil => rfl
  | cons entry rest ih =>
      simp only [List.countP_cons]
      cases among entry.2 <;> cases keep entry.2 <;> simp <;> omega

/-! ## The invariant -/

variable {quota : Nat} {pool next : Pool ι κ τ ω}

theorem Balanced.mem_of_held (balanced : Balanced tag counted quota pool) {holder : ι} {key : κ}
    {owner : ω} (holds : pool.held holder = some (key, owner)) : key ∈ pool.table := by
  rcases balanced.lookup_of_held holds with ⟨lease, present, -⟩
  exact AList.lookup_isSome.mp (by rw [present]; rfl)

theorem balanced_empty : Balanced tag counted quota
    ({ held := fun _ => none, table := ∅ } : Pool ι κ τ ω) where
  lookup_of_held holds := nomatch holds
  holder_unique holds := nomatch holds
  held_of_mem member := absurd member (AList.notMem_empty _)
  count_le := Nat.zero_le quota

/-- A pool that nobody holds a lease of has none. -/
theorem Balanced.table_eq_empty (balanced : Balanced tag counted quota pool)
    (nobody : ∀ holder, pool.held holder = none) : pool.table = ∅ := by
  refine AList.ext (List.eq_nil_iff_forall_not_mem.mpr ?_)
  rintro ⟨key, lease⟩ entry
  have member : key ∈ pool.table := AList.mem_keys.mpr (List.mem_keys_of_mem entry)
  rcases balanced.held_of_mem member with ⟨holder, owner, holds⟩
  rw [nobody holder] at holds
  cases holds

theorem Balanced.renew (balanced : Balanced tag counted quota pool) {key : κ} {old lease : τ}
    (present : pool.table.lookup key = some old) (sameTag : tag lease = tag old) :
    Balanced tag counted quota { pool with table := pool.table.insert key lease } := by
  refine ⟨?_, balanced.holder_unique, ?_, ?_⟩
  · intro holder otherKey owner holds
    rcases balanced.lookup_of_held holds with ⟨found, lookup, owned⟩
    by_cases same : otherKey = key
    · subst same
      rw [present] at lookup
      cases lookup
      exact ⟨lease, AList.lookup_insert _, sameTag.trans owned⟩
    · exact ⟨found, (AList.lookup_insert_ne same).trans lookup, owned⟩
  · intro other member
    rcases (AList.mem_insert _).mp member with rfl | old
    · exact balanced.held_of_mem (AList.lookup_isSome.mp (by rw [present]; rfl))
    · exact balanced.held_of_mem old
  · change count tag counted (pool.table.insert key lease) ≤ quota
    rw [count_insert_of_lookup present sameTag]
    exact balanced.count_le

variable [DecidableEq ι]

theorem Balanced.acquire (balanced : Balanced tag counted quota pool) {holder : ι} {key : κ}
    {lease : τ} (new : key ∉ pool.table) (free : pool.held holder = none)
    (room : count tag counted pool.table < quota) :
    Balanced tag counted quota
      { held := update pool.held holder (some (key, tag lease))
        table := pool.table.insert key lease } := by
  -- The new key is out with nobody else, since every key that is out is in the table.
  have elsewhere : ∀ {other : ι} {owner : ω}, pool.held other ≠ some (key, owner) :=
    fun holds => new (balanced.mem_of_held holds)
  refine ⟨?_, ?_, ?_, ?_⟩
  · intro other otherKey owner holds
    by_cases same : other = holder
    · subst same
      dsimp only at holds
      rw [update_self] at holds
      cases holds
      exact ⟨lease, AList.lookup_insert _, rfl⟩
    · dsimp only at holds ⊢
      rw [update_of_ne same] at holds
      have apart : otherKey ≠ key := fun same => elsewhere (same ▸ holds)
      rw [AList.lookup_insert_ne apart]
      exact balanced.lookup_of_held holds
  · intro left right shared leftOwner rightOwner leftHolds rightHolds
    dsimp only at leftHolds rightHolds
    by_cases leftNew : left = holder <;> by_cases rightNew : right = holder
    · rw [leftNew, rightNew]
    · subst leftNew
      rw [update_self] at leftHolds
      rw [update_of_ne rightNew] at rightHolds
      cases leftHolds
      exact absurd rightHolds elsewhere
    · subst rightNew
      rw [update_self] at rightHolds
      rw [update_of_ne leftNew] at leftHolds
      cases rightHolds
      exact absurd leftHolds elsewhere
    · rw [update_of_ne leftNew] at leftHolds
      rw [update_of_ne rightNew] at rightHolds
      exact balanced.holder_unique leftHolds rightHolds
  · intro other member
    rcases (AList.mem_insert _).mp member with rfl | old
    · exact ⟨holder, tag lease, update_self holder _ _⟩
    · rcases balanced.held_of_mem old with ⟨owning, owner, holds⟩
      have apart : owning ≠ holder := by
        rintro rfl
        rw [free] at holds
        cases holds
      exact ⟨owning, owner, (update_of_ne apart _ _).trans holds⟩
  · have bound : count tag counted (pool.table.insert key lease) ≤
        count tag counted pool.table + 1 := count_insert_le lease new
    change count tag counted (pool.table.insert key lease) ≤ quota
    omega

theorem Balanced.release (balanced : Balanced tag counted quota pool) {holder : ι} {key : κ}
    {owner : ω} (holds : pool.held holder = some (key, owner)) :
    Balanced tag counted quota
      { held := update pool.held holder none, table := pool.table.erase key } := by
  have old : ∀ {other : ι} {entry : κ × ω}, update pool.held holder none other = some entry →
      other ≠ holder ∧ pool.held other = some entry := by
    intro other entry otherHolds
    by_cases same : other = holder
    · subst same
      rw [update_self] at otherHolds
      cases otherHolds
    · rw [update_of_ne same] at otherHolds
      exact ⟨same, otherHolds⟩
  refine ⟨?_, ?_, ?_, ?_⟩
  · intro other otherKey otherOwner otherHolds
    rcases old otherHolds with ⟨apart, oldHolds⟩
    have otherKeyNe : otherKey ≠ key := by
      rintro rfl
      exact apart (balanced.holder_unique oldHolds holds)
    dsimp only
    rw [AList.lookup_erase_ne otherKeyNe]
    exact balanced.lookup_of_held oldHolds
  · intro left right shared leftOwner rightOwner leftHolds rightHolds
    exact balanced.holder_unique (old leftHolds).2 (old rightHolds).2
  · intro other member
    rcases AList.mem_erase.mp member with ⟨otherNe, oldMember⟩
    rcases balanced.held_of_mem oldMember with ⟨owning, otherOwner, oldHolds⟩
    have apart : owning ≠ holder := by
      rintro rfl
      rw [holds] at oldHolds
      cases oldHolds
      exact otherNe rfl
    exact ⟨owning, otherOwner, (update_of_ne apart _ _).trans oldHolds⟩
  · exact Nat.le_trans (count_erase_le pool.table key) balanced.count_le

theorem Balanced.step (balanced : Balanced tag counted quota pool)
    (step : Step tag counted quota pool next) : Balanced tag counted quota next := by
  cases step with
  | acquire free new room => exact balanced.acquire new free room
  | renew holds present sameTag => exact balanced.renew present sameTag
  | release holds => exact balanced.release holds

theorem Balanced.run (balanced : Balanced tag counted quota pool)
    (run : ReflTransGen (Step tag counted quota) pool next) :
    Balanced tag counted quota next := by
  induction run with
  | refl => exact balanced
  | tail _ step ih => exact ih.step step

end

end Lease
