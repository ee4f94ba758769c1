import Mathlib.Data.List.AList
import Mathlib.Data.List.Perm.Subperm
import Mathlib.Logic.Function.Basic
import Mathlib.Logic.Relation

/-!
# Transactions under READ COMMITTED

The rows of a database are a finite map from keys to rows.  A request is a
`Program` of one or more transactions: it reads snapshots, locks rows, writes
rows it has locked and ends each transaction in a commit or a rollback.
`Program.run` is a request on its own.  A `System` interleaves any number of
them: a snapshot shows the committed rows and the transaction's own writes, a
locked row is read in its newest version and stays with its owner until the
owner ends, and a transaction may be aborted at any point.  Rows may be inserted
under numbers of one sequence, which only grows and is never rolled back.
-/

namespace Transaction

open Function Relation

variable {κ : Type} [DecidableEq κ] {ν : κ → Type}

/-! ## Rows -/

/-- The number of rows that satisfy a predicate. -/
def count (counted : Sigma ν → Bool) (rows : AList ν) : Nat :=
  rows.entries.countP counted

/-- The rows after the writes of a log. -/
def replay (rows : AList ν) (log : List (Sigma ν)) : AList ν :=
  log.foldl (fun rows version => rows.insert version.1 version.2) rows

section

variable {counted : Sigma ν → Bool} {rows later : AList ν}

theorem count_insert_of_lookup_eq_none (key : κ) (row : ν key) (absent : rows.lookup key = none) :
    count counted (rows.insert key row) =
      count counted rows + if counted ⟨key, row⟩ then 1 else 0 := by
  rw [count, AList.entries_insert_of_notMem (AList.lookup_eq_none.mp absent), List.countP_cons,
    count]

theorem count_insert_of_lookup_eq_some (key : κ) {old : ν key} (row : ν key)
    (present : rows.lookup key = some old) :
    count counted (rows.insert key row) + (if counted ⟨key, old⟩ then 1 else 0) =
      count counted rows + if counted ⟨key, row⟩ then 1 else 0 := by
  have member : key ∈ rows.entries.keys :=
    AList.mem_keys.mp (AList.lookup_isSome.mp (by rw [present]; rfl))
  rcases List.exists_of_kerase member with ⟨found, before, after, outside, entries, erased⟩
  have here : ⟨key, found⟩ ∈ rows.entries := by
    rw [entries]
    exact List.mem_append_right before List.mem_cons_self
  have same : found = old := by
    have lookup := AList.mem_lookup_iff.mpr here
    rw [present] at lookup
    exact (Option.some.inj lookup).symm
  rw [count, AList.entries_insert, erased, count, entries, same]
  simp only [List.countP_cons, List.countP_append]
  omega

/-- Rows of another kind are not counted. -/
theorem count_insert_of_uncounted (key : κ) (row : ν key)
    (uncounted : ∀ row, counted ⟨key, row⟩ = false) :
    count counted (rows.insert key row) = count counted rows := by
  cases present : rows.lookup key with
  | none =>
      rw [count_insert_of_lookup_eq_none key row present, uncounted]
      rfl
  | some old =>
      have balance : count counted (rows.insert key row) + _ = count counted rows + _ :=
        count_insert_of_lookup_eq_some key row present
      rw [uncounted, uncounted] at balance
      exact balance

theorem count_le_of_forall
    (known : ∀ key row, later.lookup key = some row → counted ⟨key, row⟩ = true →
      ∃ old, rows.lookup key = some old ∧ counted ⟨key, old⟩ = true) :
    count counted later ≤ count counted rows := by
  have nodup : ((later.entries.filter counted).map Sigma.fst).Nodup :=
    List.Nodup.sublist (List.filter_sublist.map Sigma.fst) later.keys_nodup
  have subset : (later.entries.filter counted).map Sigma.fst ⊆
      (rows.entries.filter counted).map Sigma.fst := by
    intro key member
    rcases List.mem_map.mp member with ⟨⟨_, row⟩, kept, rfl⟩
    rcases List.mem_filter.mp kept with ⟨here, accepted⟩
    rcases known _ row (AList.mem_lookup_iff.mpr here) accepted with ⟨old, present, oldAccepted⟩
    exact List.mem_map.mpr ⟨⟨_, old⟩,
      List.mem_filter.mpr ⟨AList.mem_lookup_iff.mp present, oldAccepted⟩, rfl⟩
  have lengths := (nodup.subperm subset).length_le
  rw [List.length_map, List.length_map] at lengths
  rw [count, count, List.countP_eq_length_filter, List.countP_eq_length_filter]
  exact lengths

theorem count_eq_zero (unknown : ∀ key row, rows.lookup key = some row →
    counted ⟨key, row⟩ = false) : count counted rows = 0 := by
  rw [count, List.countP_eq_zero]
  rintro ⟨key, row⟩ member
  rw [unknown key row (AList.mem_lookup_iff.mpr member)]
  exact Bool.false_ne_true

end

@[simp] theorem replay_nil (rows : AList ν) : replay rows [] = rows := rfl

theorem replay_append (rows : AList ν) (log : List (Sigma ν)) (version : Sigma ν) :
    replay rows (log ++ [version]) = (replay rows log).insert version.1 version.2 := by
  rw [replay, List.foldl_append]
  rfl

/-- A row of the replayed rows depends on the same row only. -/
theorem lookup_replay_congr {rows later : AList ν} {key : κ}
    (same : later.lookup key = rows.lookup key) (log : List (Sigma ν)) :
    (replay later log).lookup key = (replay rows log).lookup key := by
  induction log generalizing rows later with
  | nil => exact same
  | cons version log ih =>
      apply ih
      by_cases written : key = version.1
      · subst written
        rw [AList.lookup_insert, AList.lookup_insert]
      · rw [AList.lookup_insert_ne written, AList.lookup_insert_ne written, same]

theorem lookup_replay_of_unwritten {key : κ} {log : List (Sigma ν)} (rows : AList ν)
    (unwritten : ∀ version ∈ log, version.1 ≠ key) :
    (replay rows log).lookup key = rows.lookup key := by
  induction log generalizing rows with
  | nil => rfl
  | cons version log ih =>
      have apart : key ≠ version.1 := (unwritten version List.mem_cons_self).symm
      have rest := ih (rows.insert version.1 version.2)
        fun other member => unwritten other (List.mem_cons_of_mem version member)
      rw [AList.lookup_insert_ne apart] at rest
      exact rest

/-- A row that the log writes does not depend on the rows before it. -/
theorem lookup_replay_of_written {key : κ} {log : List (Sigma ν)}
    (written : ∃ version ∈ log, version.1 = key) (rows later : AList ν) :
    (replay rows log).lookup key = (replay later log).lookup key := by
  induction log generalizing rows later with
  | nil =>
      rcases written with ⟨version, member, -⟩
      cases member
  | cons version log ih =>
      by_cases again : ∃ version ∈ log, version.1 = key
      · exact ih again _ _
      · have here : version.1 = key := by
          rcases written with ⟨other, member, same⟩
          rcases List.mem_cons.mp member with rfl | rest
          · exact same
          · exact absurd ⟨other, rest, same⟩ again
        subst here
        change (replay (rows.insert version.1 version.2) log).lookup version.1 =
          (replay (later.insert version.1 version.2) log).lookup version.1
        apply lookup_replay_congr
        rw [AList.lookup_insert, AList.lookup_insert]

/-- A row of the replayed rows is one of the log or an old one. -/
theorem lookup_replay_cases {key : κ} {log : List (Sigma ν)} {rows : AList ν} {row : ν key}
    (present : (replay rows log).lookup key = some row) :
    ⟨key, row⟩ ∈ log ∨ rows.lookup key = some row := by
  induction log generalizing rows with
  | nil => exact .inr present
  | cons version log ih =>
      rcases ih present with later | inserted
      · exact .inl (List.mem_cons_of_mem version later)
      · by_cases same : key = version.1
        · subst same
          rw [AList.lookup_insert] at inserted
          cases inserted
          exact .inl List.mem_cons_self
        · rw [AList.lookup_insert_ne same] at inserted
          exact .inr inserted

/-- A log writes rows and removes none. -/
theorem lookup_eq_none_of_replay {key : κ} {log : List (Sigma ν)} {rows : AList ν}
    (absent : (replay rows log).lookup key = none) : rows.lookup key = none := by
  induction log generalizing rows with
  | nil => exact absent
  | cons version log ih =>
      have inserted := ih absent
      by_cases same : key = version.1
      · subst same
        rw [AList.lookup_insert] at inserted
        cases inserted
      · rw [AList.lookup_insert_ne same] at inserted
        exact inserted

/-! ## Programs -/

/-- The statements of a transaction up to its end. -/
inductive Program (ν : κ → Type) (ε α : Type) : Type
  /-- A statement that reads without locking. -/
  | select (next : AList ν → Program ν ε α)
  /-- A row is locked, and read in its newest version. -/
  | lock (key : κ) (next : Option (ν key) → Program ν ε α)
  /-- A locked row is written. -/
  | write (key : κ) (row : ν key) (next : Program ν ε α)
  /-- A row is inserted under the next number of the sequence, which may be taken. -/
  | insertNext (key : Nat → κ) (row : (number : Nat) → ν (key number)) (taken : ε)
      (next : Program ν ε α)
  /-- The transaction commits, and the request goes on with another one. -/
  | commitThen (next : Program ν ε α)
  | commit (result : α)
  | rollback (error : ε)

/-- What a request that runs on its own leaves and returns. -/
structure Outcome (ν : κ → Type) (ε α : Type) : Type where
  rows : AList ν
  sequence : Nat
  result : Except ε α

variable {ε α : Type}

namespace Program

/-- `SELECT … FOR UPDATE` of at most one row: found in a snapshot, then locked
and tested again in its newest version. -/
def lockWhere {ι : Type} (key : ι → κ) (find : AList ν → Option ι)
    (test : (index : ι) → ν (key index) → Bool)
    (next : Option ((index : ι) × ν (key index)) → Program ν ε α) : Program ν ε α :=
  .select fun rows =>
    match find rows with
    | none => next none
    | some index =>
        .lock (key index) fun
          | none => next none
          | some row => if test index row then next (some ⟨index, row⟩) else next none

/-- The rest of a request that runs on its own, from the rows it sees now. -/
def runFrom (rows : AList ν) : Program ν ε α → Nat → AList ν → Outcome ν ε α
  | .select next, sequence, now => runFrom rows (next now) sequence now
  | .lock key next, sequence, now => runFrom rows (next (now.lookup key)) sequence now
  | .write key row next, sequence, now => runFrom rows next sequence (now.insert key row)
  | .insertNext key row taken next, sequence, now =>
      match now.lookup (key (sequence + 1)) with
      | some _ => { rows, sequence := sequence + 1, result := .error taken }
      | none =>
          runFrom rows next (sequence + 1) (now.insert (key (sequence + 1)) (row (sequence + 1)))
  | .commitThen next, sequence, now => runFrom now next sequence now
  | .commit result, sequence, now => { rows := now, sequence, result := .ok result }
  | .rollback error, sequence, _ => { rows, sequence, result := .error error }

/-- A whole request that runs on its own. -/
def run (program : Program ν ε α) (rows : AList ν) (sequence : Nat := 0) : Outcome ν ε α :=
  program.runFrom rows sequence rows

/-- Requests that run one after the other. -/
def runAll : List (Program ν ε α) → AList ν → Nat → AList ν × Nat
  | [], rows, sequence => (rows, sequence)
  | program :: programs, rows, sequence =>
      runAll programs (program.run rows sequence).rows (program.run rows sequence).sequence

/-- What holds of the rows and the result when a request runs on its own. -/
def Ensures (rows : AList ν) (program : Program ν ε α) (sequence : Nat) (now : AList ν)
    (post : AList ν → Except ε α → Prop) : Prop :=
  post (program.runFrom rows sequence now).rows (program.runFrom rows sequence now).result

section

variable {rows now : AList ν} {sequence : Nat} {post : AList ν → Except ε α → Prop}

theorem Ensures.select {next : AList ν → Program ν ε α}
    (continues : (next now).Ensures rows sequence now post) :
    (Program.select next).Ensures rows sequence now post := continues

theorem Ensures.write {key : κ} {row : ν key} {next : Program ν ε α}
    (continues : next.Ensures rows sequence (now.insert key row) post) :
    (Program.write key row next).Ensures rows sequence now post := continues

theorem Ensures.insertNext {key : Nat → κ} {row : (number : Nat) → ν (key number)} {taken : ε}
    {next : Program ν ε α} (refuse : post rows (.error taken))
    (continues : next.Ensures rows (sequence + 1)
      (now.insert (key (sequence + 1)) (row (sequence + 1))) post) :
    (Program.insertNext key row taken next).Ensures rows sequence now post := by
  unfold Ensures
  rw [runFrom]
  cases now.lookup (key (sequence + 1)) with
  | none => exact continues
  | some _ => exact refuse

theorem Ensures.lock {key : κ} {next : Option (ν key) → Program ν ε α}
    (missing : now.lookup key = none → (next none).Ensures rows sequence now post)
    (found : ∀ row, now.lookup key = some row → (next (some row)).Ensures rows sequence now post) :
    (Program.lock key next).Ensures rows sequence now post := by
  unfold Ensures
  rw [runFrom]
  cases present : now.lookup key with
  | none => exact missing present
  | some row => exact found row present

theorem Ensures.lockWhere {ι : Type} {key : ι → κ} {find : AList ν → Option ι}
    {test : (index : ι) → ν (key index) → Bool}
    {next : Option ((index : ι) × ν (key index)) → Program ν ε α}
    (missing : (∀ index row, find now = some index → now.lookup (key index) = some row →
      test index row = false) → (next none).Ensures rows sequence now post)
    (found : ∀ index row, find now = some index → now.lookup (key index) = some row →
      test index row = true → (next (some ⟨index, row⟩)).Ensures rows sequence now post) :
    (Program.lockWhere key find test next).Ensures rows sequence now post := by
  unfold Ensures
  rw [Program.lockWhere, runFrom]
  cases here : find now with
  | none => exact missing fun index row same => by rw [here] at same; cases same
  | some index =>
      refine Ensures.lock ?_ ?_
      · intro absent
        refine missing fun other row same present => ?_
        rw [here] at same
        cases same
        rw [absent] at present
        cases present
      · intro row present
        dsimp only
        split
        · rename_i accepted
          exact found index row here present accepted
        · rename_i refused
          refine missing fun other found same otherPresent => ?_
          rw [here] at same
          cases same
          rw [present] at otherPresent
          cases otherPresent
          exact Bool.eq_false_iff.mpr refused

end

/-- Whatever the request reads, it returns an allowed result if it returns one. -/
def Returns (allowed : α → Prop) : Program ν ε α → Prop
  | .select next => ∀ rows, (next rows).Returns allowed
  | .lock _ next => ∀ found, (next found).Returns allowed
  | .write _ _ next => next.Returns allowed
  | .insertNext _ _ _ next => next.Returns allowed
  | .commitThen next => next.Returns allowed
  | .commit result => allowed result
  | .rollback _ => True

/-- Whatever the request reads, it writes allowed rows only. -/
def Writes (allowed : Sigma ν → Prop) : Program ν ε α → Prop
  | .select next => ∀ rows, (next rows).Writes allowed
  | .lock _ next => ∀ found, (next found).Writes allowed
  | .write key row next => allowed ⟨key, row⟩ ∧ next.Writes allowed
  | .insertNext key row _ next => (∀ number, allowed ⟨key number, row number⟩) ∧ next.Writes allowed
  | .commitThen next => next.Writes allowed
  | .commit _ => True
  | .rollback _ => True

/-- The next step of the request is a commit. -/
def commits : Program ν ε α → Bool
  | .commitThen _ | .commit _ => true
  | .select _ | .lock _ _ | .write _ _ _ | .insertNext _ _ _ _ | .rollback _ => false

/-- What a request may have still to do, whatever it reads. -/
inductive Continues (program : Program ν ε α) : Program ν ε α → Prop
  | refl : Continues program program
  | select {next : AList ν → Program ν ε α} (rows : AList ν)
      (before : Continues program (.select next)) : Continues program (next rows)
  | lock {key : κ} {next : Option (ν key) → Program ν ε α} (found : Option (ν key))
      (before : Continues program (.lock key next)) : Continues program (next found)
  | write {key : κ} {row : ν key} {next : Program ν ε α}
      (before : Continues program (.write key row next)) : Continues program next
  | insertNext {key : Nat → κ} {row : (number : Nat) → ν (key number)} {taken : ε}
      {next : Program ν ε α} (before : Continues program (.insertNext key row taken next)) :
      Continues program next
  | commitThen {next : Program ν ε α} (before : Continues program (.commitThen next)) :
      Continues program next

omit [DecidableEq κ] in
theorem Continues.trans {first second third : Program ν ε α} (left : first.Continues second)
    (right : second.Continues third) : first.Continues third := by
  induction right with
  | refl => exact left
  | select rows _ ih => exact .select rows ih
  | lock found _ ih => exact .lock found ih
  | write _ ih => exact .write ih
  | insertNext _ ih => exact .insertNext ih
  | commitThen _ ih => exact .commitThen ih

end Program

/-! ## Interleavings -/

/-- The committed rows, the last number of the sequence, the owners of the
locks, and for each transaction its uncommitted writes and what it has still to
do. -/
structure System (τ : Type) (ν : κ → Type) (ε α : Type) : Type where
  rows : AList ν
  sequence : Nat := 0
  owner : κ → Option τ := fun _ => none
  log : τ → List (Sigma ν) := fun _ => []
  program : τ → Option (Program ν ε α) := fun _ => none

namespace System

variable {τ : Type} [DecidableEq τ]

/-- The rows that a snapshot of a transaction shows. -/
def view (system : System τ ν ε α) (transaction : τ) : AList ν :=
  replay system.rows (system.log transaction)

def holds (system : System τ ν ε α) (transaction : τ) (key : κ) : Prop :=
  system.owner key = some transaction

/-- The system without the transaction, its locks and its uncommitted writes. -/
def close (system : System τ ν ε α) (transaction : τ) (rows : AList ν) (sequence : Nat) :
    System τ ν ε α where
  rows := rows
  sequence := sequence
  owner key := if system.owner key = some transaction then none else system.owner key
  log := update system.log transaction []
  program := update system.program transaction none

/-- The system in which the transaction has the given program to run. -/
def resume (system : System τ ν ε α) (transaction : τ) (program : Program ν ε α) :
    System τ ν ε α where
  rows := system.rows
  sequence := system.sequence
  owner := system.owner
  log := system.log
  program := update system.program transaction (some program)

/-- One step of one transaction. -/
inductive Step (admits : Program ν ε α → Prop) : System τ ν ε α → System τ ν ε α → Prop
  | start {system : System τ ν ε α} {transaction : τ} {program : Program ν ε α}
      (idle : system.program transaction = none) (admitted : admits program) :
      Step admits system (system.resume transaction program)
  | select {system : System τ ν ε α} {transaction : τ} {next : AList ν → Program ν ε α}
      (running : system.program transaction = some (.select next)) :
      Step admits system (system.resume transaction (next (system.view transaction)))
  | lock {system : System τ ν ε α} {transaction : τ} {key : κ}
      {next : Option (ν key) → Program ν ε α}
      (running : system.program transaction = some (.lock key next))
      (free : system.owner key = none ∨ system.owner key = some transaction) :
      Step admits system
        { system with
          owner := update system.owner key (some transaction)
          program := update system.program transaction
            (some (next ((system.view transaction).lookup key))) }
  | write {system : System τ ν ε α} {transaction : τ} {key : κ} {row : ν key}
      {next : Program ν ε α} (running : system.program transaction = some (.write key row next))
      (held : system.owner key = some transaction) :
      Step admits system
        { system with
          log := update system.log transaction (system.log transaction ++ [⟨key, row⟩])
          program := update system.program transaction (some next) }
  | insertNext {system : System τ ν ε α} {transaction : τ} {key : Nat → κ}
      {row : (number : Nat) → ν (key number)} {taken : ε} {next : Program ν ε α} {number : Nat}
      (running : system.program transaction = some (.insertNext key row taken next))
      (drawn : system.sequence < number)
      (free : system.owner (key number) = none ∨ system.owner (key number) = some transaction)
      (absent : (system.view transaction).lookup (key number) = none) :
      Step admits system
        { system with
          sequence := number
          owner := update system.owner (key number) (some transaction)
          log := update system.log transaction
            (system.log transaction ++ [⟨key number, row number⟩])
          program := update system.program transaction (some next) }
  | commitThen {system : System τ ν ε α} {transaction : τ} {next : Program ν ε α}
      (running : system.program transaction = some (.commitThen next)) :
      Step admits system
        ((system.close transaction (system.view transaction) system.sequence).resume transaction
          next)
  | commit {system : System τ ν ε α} {transaction : τ} {result : α}
      (running : system.program transaction = some (.commit result)) :
      Step admits system (system.close transaction (system.view transaction) system.sequence)
  /-- The statement that fails may have drawn numbers. -/
  | abort {system : System τ ν ε α} {transaction : τ} {program : Program ν ε α} {number : Nat}
      (running : system.program transaction = some program)
      (drawn : system.sequence ≤ number) :
      Step admits system (system.close transaction system.rows number)

/-- A step that changes the committed rows is a commit. -/
theorem rows_of_step {admits : Program ν ε α → Prop} {system next : System τ ν ε α}
    (step : Step admits system next) :
    next.rows = system.rows ∨ ∃ transaction program,
      system.program transaction = some program ∧ program.commits = true ∧
        next.rows = system.view transaction := by
  cases step with
  | commitThen running => exact .inr ⟨_, _, running, rfl, rfl⟩
  | commit running => exact .inr ⟨_, _, running, rfl, rfl⟩
  | start | select | lock | write | insertNext | abort => exact .inl rfl

/-! ## Schedules -/

/-- The next step of a transaction, if it can take one; a number that is drawn is
the next one. -/
def advance (system : System τ ν ε α) (transaction : τ) : Option (System τ ν ε α) :=
  match system.program transaction with
  | some (.select next) => some (system.resume transaction (next (system.view transaction)))
  | some (.lock key next) =>
      if system.owner key = none ∨ system.owner key = some transaction then
        some { system with
          owner := update system.owner key (some transaction)
          program := update system.program transaction
            (some (next ((system.view transaction).lookup key))) }
      else none
  | some (.write key row next) =>
      if system.owner key = some transaction then
        some { system with
          log := update system.log transaction (system.log transaction ++ [⟨key, row⟩])
          program := update system.program transaction (some next) }
      else none
  | some (.insertNext key row _ next) =>
      let number := system.sequence + 1
      if (system.owner (key number) = none ∨ system.owner (key number) = some transaction) ∧
          ((system.view transaction).lookup (key number)).isNone then
        some { system with
          sequence := number
          owner := update system.owner (key number) (some transaction)
          log := update system.log transaction
            (system.log transaction ++ [⟨key number, row number⟩])
          program := update system.program transaction (some next) }
      else none
  | some (.commitThen next) =>
      some ((system.close transaction (system.view transaction) system.sequence).resume transaction
        next)
  | some (.commit _) =>
      some (system.close transaction (system.view transaction) system.sequence)
  | some (.rollback _) => some (system.close transaction system.rows system.sequence)
  | none => none

/-- The transactions take their steps in the given order. -/
def schedule (system : System τ ν ε α) : List τ → Option (System τ ν ε α)
  | [] => some system
  | transaction :: order => (system.advance transaction).bind fun next => next.schedule order

section

variable {admits : Program ν ε α → Prop} {system next : System τ ν ε α}

theorem step_of_advance {transaction : τ} (advances : system.advance transaction = some next) :
    Step admits system next := by
  unfold advance at advances
  split at advances
  · rename_i running
    cases advances
    exact .select running
  · rename_i running
    split at advances
    · rename_i free
      cases advances
      exact .lock running free
    · cases advances
  · rename_i running
    split at advances
    · rename_i held
      cases advances
      exact .write running held
    · cases advances
  · rename_i running
    dsimp only at advances
    split at advances
    · rename_i possible
      cases advances
      exact .insertNext running (Nat.lt_succ_self _) possible.1
        (Option.isNone_iff_eq_none.mp possible.2)
    · cases advances
  · rename_i running
    cases advances
    exact .commitThen running
  · rename_i running
    cases advances
    exact .commit running
  · rename_i running
    cases advances
    exact .abort running (Nat.le_refl _)
  · cases advances

theorem runs_of_schedule {order : List τ} (scheduled : system.schedule order = some next) :
    Relation.ReflTransGen (Step admits) system next := by
  induction order generalizing system with
  | nil =>
      cases scheduled
      exact .refl
  | cons transaction order ih =>
      rcases Option.bind_eq_some_iff.mp scheduled with ⟨middle, advances, rest⟩
      exact .head (step_of_advance advances) (ih rest)

end

end System

end Transaction
