import Mathlib.Data.List.Sort

/-!
# Reading a numbered table page by page

A reader of a table that is numbered by a sequence keeps a cursor, asks for the
rows above it in the order of their numbers, at most so many at a time, and
moves the cursor to the last row it got.
-/

namespace Cursor

variable {β : Type}

/-- The rows with a number above the cursor that pass a test, in order. -/
def above (test : β → Bool) (cursor : Nat) (rows : List (Nat × β)) : List (Nat × β) :=
  (rows.filter fun row => cursor < row.1 ∧ test row.2).insertionSort fun first second =>
    first.1 ≤ second.1

/-- `WHERE id > cursor AND … ORDER BY id LIMIT limit`. -/
def page (limit : Nat) (test : β → Bool) (cursor : Nat) (rows : List (Nat × β)) :
    List (Nat × β) :=
  (above test cursor rows).take limit

/-- The cursor after a page. -/
def advance (cursor : Nat) (page : List (Nat × β)) : Nat :=
  page.foldl (fun _ row => row.1) cursor

section

variable {limit cursor : Nat} {test : β → Bool} {rows : List (Nat × β)}

theorem mem_above {row : Nat × β} :
    row ∈ above test cursor rows ↔ row ∈ rows ∧ cursor < row.1 ∧ test row.2 = true := by
  rw [above, List.mem_insertionSort, List.mem_filter, decide_eq_true_iff]

theorem mem_of_mem_page {row : Nat × β} (member : row ∈ page limit test cursor rows) :
    row ∈ rows ∧ cursor < row.1 ∧ test row.2 = true :=
  mem_above.mp (List.mem_of_mem_take member)

theorem above_increasing (distinct : (rows.map Prod.fst).Nodup) :
    ((above test cursor rows).map Prod.fst).Pairwise (· < ·) := by
  have sorted : (above test cursor rows).Pairwise fun first second => first.1 ≤ second.1 :=
    List.pairwise_insertionSort ..
  have kept : ((rows.filter fun row => cursor < row.1 ∧ test row.2).map Prod.fst).Nodup :=
    distinct.sublist (List.filter_sublist.map Prod.fst)
  have same : ((above test cursor rows).map Prod.fst).Perm
      ((rows.filter fun row => cursor < row.1 ∧ test row.2).map Prod.fst) :=
    (List.perm_insertionSort ..).map Prod.fst
  have apart : ((above test cursor rows).map Prod.fst).Nodup := same.nodup_iff.mpr kept
  have ordered : ((above test cursor rows).map Prod.fst).Pairwise (· ≤ ·) :=
    List.pairwise_map.mpr sorted
  exact (ordered.and apart).imp fun known => Nat.lt_of_le_of_ne known.1 known.2

theorem page_increasing (distinct : (rows.map Prod.fst).Nodup) :
    ((page limit test cursor rows).map Prod.fst).Pairwise (· < ·) :=
  (above_increasing distinct).sublist ((List.take_sublist ..).map Prod.fst)

/-- A page that is not full has all the rows above the cursor. -/
theorem mem_page_of_length_le (few : (above test cursor rows).length ≤ limit) {row : Nat × β}
    (member : row ∈ rows) (later : cursor < row.1) (accepted : test row.2 = true) :
    row ∈ page limit test cursor rows := by
  rw [page, List.take_of_length_le few]
  exact mem_above.mpr ⟨member, later, accepted⟩

/-- The cursor is where it was or at the last row of the page. -/
theorem advance_cases (cursor : Nat) (rows : List (Nat × β)) :
    (rows = [] ∧ advance cursor rows = cursor) ∨
      ∃ init last, rows = init ++ [last] ∧ advance cursor rows = last.1 := by
  rcases rows.eq_nil_or_concat with rfl | ⟨init, last, rfl⟩
  · exact .inl ⟨rfl, rfl⟩
  · refine .inr ⟨init, last, List.concat_eq_append .., ?_⟩
    rw [List.concat_eq_append, advance, List.foldl_append]
    rfl

theorem le_advance (distinct : (rows.map Prod.fst).Nodup) :
    cursor ≤ advance cursor (page limit test cursor rows) ∧
      ∀ row ∈ page limit test cursor rows,
        row.1 ≤ advance cursor (page limit test cursor rows) := by
  have increasing : ((page limit test cursor rows).map Prod.fst).Pairwise (· < ·) :=
    page_increasing distinct
  rcases advance_cases cursor (page limit test cursor rows) with
    ⟨empty, same⟩ | ⟨init, last, here, same⟩
  · rw [same, empty]
    exact ⟨Nat.le_refl _, nofun⟩
  · have member : last ∈ page limit test cursor rows := by
      rw [here]
      exact List.mem_append_right init List.mem_cons_self
    rw [same]
    refine ⟨Nat.le_of_lt (mem_of_mem_page member).2.1, ?_⟩
    intro row listed
    rw [here, List.map_append, List.pairwise_append] at increasing
    rw [here] at listed
    rcases List.mem_append.mp listed with early | late
    · exact Nat.le_of_lt (increasing.2.2 row.1 (List.mem_map_of_mem early) last.1
        (List.mem_map_of_mem List.mem_cons_self))
    · rw [List.mem_singleton.mp late]

/-- A page has all the rows up to its last one. -/
theorem mem_page_of_le_advance (distinct : (rows.map Prod.fst).Nodup) {row : Nat × β}
    (member : row ∈ rows) (later : cursor < row.1) (accepted : test row.2 = true)
    (passed : row.1 ≤ advance cursor (page limit test cursor rows)) :
    row ∈ page limit test cursor rows := by
  rcases advance_cases cursor (page limit test cursor rows) with
    ⟨-, same⟩ | ⟨init, last, here, same⟩
  · rw [same] at passed
    omega
  · rw [same] at passed
    have listed : row ∈ above test cursor rows := mem_above.mpr ⟨member, later, accepted⟩
    have ended : last ∈ page limit test cursor rows := by
      rw [here]
      exact List.mem_append_right init List.mem_cons_self
    have increasing : ((above test cursor rows).map Prod.fst).Pairwise (· < ·) :=
      above_increasing distinct
    rw [← List.take_append_drop limit (above test cursor rows)] at listed increasing
    rw [List.map_append, List.pairwise_append] at increasing
    rcases List.mem_append.mp listed with early | late
    · exact early
    · have beyond := increasing.2.2 last.1 (List.mem_map_of_mem ended) row.1
        (List.mem_map_of_mem late)
      omega

end

end Cursor
