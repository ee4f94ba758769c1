import Mathlib.Data.List.Basic

/-!
# Patterns with backtracking

A pattern gives the ways in which it matches the front of a text, in the order in
which a backtracking matcher tries them; the match is the first way.  The greedy and
the lazy repetition differ in that order only.

Most repetitions in practice do not backtrack: what follows cannot start where the
repetition could have gone on.  `many_bind_append` reads such a pattern as taking the
longest run and nothing else.
-/

namespace Backtrack

variable {σ α β : Type}

/-- Each way has what it captures and the text that is left. -/
structure Pattern (σ α : Type) : Type where
  ways : List σ → List (α × List σ)

instance : Monad (Pattern σ) where
  pure captured := { ways := fun text => [(captured, text)] }
  bind pattern next :=
    { ways := fun text => (pattern.ways text).flatMap fun way => (next way.1).ways way.2 }

theorem id_map_pattern (pattern : Pattern σ α) : id <$> pattern = pattern := by
  cases pattern
  simp [Functor.map]

instance : LawfulMonad (Pattern σ) :=
  LawfulMonad.mk' (Pattern σ) id_map_pattern
    (fun captured next => by simp [Bind.bind, Pure.pure])
    (fun pattern next last => by simp [Bind.bind, List.flatMap_assoc])

@[simp] theorem ways_pure (captured : α) (text : List σ) :
    (pure captured : Pattern σ α).ways text = [(captured, text)] := rfl

@[simp] theorem ways_bind (pattern : Pattern σ α) (next : α → Pattern σ β) (text : List σ) :
    (pattern >>= next).ways text =
      (pattern.ways text).flatMap fun way => (next way.1).ways way.2 := rfl

@[simp] theorem ways_map (f : α → β) (pattern : Pattern σ α) (text : List σ) :
    (f <$> pattern).ways text = (pattern.ways text).map fun way => (f way.1, way.2) := by
  rw [← bind_pure_comp, ways_bind, List.map_eq_flatMap]
  rfl

/-! ## Matching -/

/-- What the match captures. -/
def Pattern.first (pattern : Pattern σ α) (text : List σ) : Option α :=
  (pattern.ways text).head?.map Prod.fst

def Pattern.test (pattern : Pattern σ α) (text : List σ) : Bool := (pattern.ways text) ≠ []

/-- The text without the leftmost match; the pattern is told whether it is at the start. -/
def replaceFirst (pattern : Bool → Pattern σ α) (atStart : Bool) : List σ → List σ
  | [] =>
      match ((pattern atStart).ways []).head? with
      | some way => way.2
      | none => []
  | c :: rest =>
      match ((pattern atStart).ways (c :: rest)).head? with
      | some way => way.2
      | none => c :: replaceFirst pattern false rest

/-- The leftmost matches of a pattern that takes at least one symbol: each capture after what
was passed by before it, and what is passed by after the last.  `covered` symbols still belong
to the last match. -/
def matchAllFrom (pattern : Pattern σ α) :
    List σ → Nat → List σ → List (List σ × α) × List σ
  | before, _, [] => ([], before)
  | before, covered + 1, _ :: rest => matchAllFrom pattern before covered rest
  | before, 0, c :: rest =>
      match (pattern.ways (c :: rest)).head? with
      | none => matchAllFrom pattern (before ++ [c]) 0 rest
      | some way =>
          let later := matchAllFrom pattern [] (rest.length - way.2.length) rest
          ((before, way.1) :: later.1, later.2)

def matchAll (pattern : Pattern σ α) (text : List σ) : List (List σ × α) × List σ :=
  matchAllFrom pattern [] 0 text

/-! ## Combinators -/

def fail : Pattern σ α where
  ways _ := []

def one (p : σ → Bool) : Pattern σ σ where
  ways
    | [] => []
    | c :: rest => if p c then [(c, rest)] else []

def manyWays (p : σ → Bool) : List σ → List (List σ × List σ)
  | [] => [([], [])]
  | c :: rest =>
      if p c then (manyWays p rest).map (fun way => (c :: way.1, way.2)) ++ [([], c :: rest)]
      else [([], c :: rest)]

/-- The greedy repetition. -/
def many (p : σ → Bool) : Pattern σ (List σ) where
  ways := manyWays p

def many1 (p : σ → Bool) : Pattern σ (List σ) := do
  let c ← one p
  let rest ← many p
  return c :: rest

def lazyManyWays (p : σ → Bool) : List σ → List (List σ × List σ)
  | [] => [([], [])]
  | c :: rest =>
      ([], c :: rest) ::
        if p c then (lazyManyWays p rest).map fun way => (c :: way.1, way.2) else []

/-- The lazy repetition. -/
def lazyMany (p : σ → Bool) : Pattern σ (List σ) where
  ways := lazyManyWays p

def orElse (one other : Pattern σ α) : Pattern σ α where
  ways text := one.ways text ++ other.ways text

/-- A pattern or nothing, in this order. -/
def optional (pattern : Pattern σ Unit) : Pattern σ Unit := orElse pattern (pure ())

/-- Up to so many, greedily. -/
def upTo (p : σ → Bool) : Nat → Pattern σ Unit
  | 0 => pure ()
  | n + 1 => optional do
      let _ ← one p
      upTo p n

def literal [DecidableEq σ] : List σ → Pattern σ Unit
  | [] => pure ()
  | c :: word => do
      let _ ← one (· = c)
      literal word

def ahead (pattern : Pattern σ α) : Pattern σ Unit where
  ways text := if pattern.test text then [((), text)] else []

def atEnd : Pattern σ Unit where
  ways
    | [] => [((), [])]
    | _ :: _ => []

/-! ## All matches -/

theorem matchAllFrom_covered (pattern : Pattern σ α) (before covered text : List σ) :
    matchAllFrom pattern before covered.length (covered ++ text) =
      matchAllFrom pattern before 0 text := by
  induction covered with
  | nil => rfl
  | cons c covered ih => exact ih

theorem matchAllFrom_of_ways_nil {pattern : Pattern σ α} {c : σ} {rest : List σ}
    (passed : pattern.ways (c :: rest) = []) (before : List σ) :
    matchAllFrom pattern before 0 (c :: rest) = matchAllFrom pattern (before ++ [c]) 0 rest := by
  rw [matchAllFrom, passed]
  rfl

theorem matchAllFrom_of_ways {pattern : Pattern σ α} {item rest : List σ} {captured : α}
    (some_ : item ≠ [])
    (found : (pattern.ways (item ++ rest)).head? = some (captured, rest)) (before : List σ) :
    matchAllFrom pattern before 0 (item ++ rest) =
      ((before, captured) :: (matchAllFrom pattern [] 0 rest).1,
        (matchAllFrom pattern [] 0 rest).2) := by
  cases item with
  | nil => exact absurd rfl some_
  | cons c item =>
      rw [List.cons_append] at found ⊢
      rw [matchAllFrom, found]
      dsimp only
      rw [List.length_append, Nat.add_sub_cancel, matchAllFrom_covered]

/-- What is passed by cannot start a match. -/
theorem matchAllFrom_passed {pattern : Pattern σ α} {p : σ → Bool}
    (starts : ∀ c rest, pattern.ways (c :: rest) = [] → p c = true) {before text : List σ}
    {covered : Nat} (before_ : ∀ c ∈ before, p c = true) :
    (∀ found ∈ (matchAllFrom pattern before covered text).1, ∀ c ∈ found.1, p c = true) ∧
      ∀ c ∈ (matchAllFrom pattern before covered text).2, p c = true := by
  induction text generalizing before covered with
  | nil =>
      refine ⟨?_, before_⟩
      intro _ mem
      cases mem
  | cons c rest ih =>
      cases covered with
      | succ covered => exact ih before_
      | zero =>
          rw [matchAllFrom]
          split
          · next none_ =>
              apply ih
              intro c' mem
              rcases List.mem_append.mp mem with mem | mem
              · exact before_ c' mem
              · rw [List.mem_singleton.mp mem]
                exact starts c rest (List.head?_eq_none_iff.mp none_)
          · next way _ =>
              have later := @ih [] (rest.length - way.2.length) fun _ mem => by cases mem
              refine ⟨?_, later.2⟩
              intro found mem
              rcases List.mem_cons.mp mem with rfl | mem
              · exact before_
              · exact later.1 found mem

/-! ## Repetitions that do not backtrack -/

/-- No run goes on into the text. -/
def Stops (p : σ → Bool) (text : List σ) : Prop := ∀ c ∈ text.head?, p c = false

theorem stops_nil (p : σ → Bool) : Stops p [] := fun _ mem => by cases mem

theorem stops_cons {p : σ → Bool} {c : σ} {rest : List σ} (stop : p c = false) :
    Stops p (c :: rest) := by
  intro c' mem
  cases mem
  exact stop

theorem stops_append {p : σ → Bool} {front rest : List σ} (stops : Stops p front)
    (empty : front = [] → Stops p rest) : Stops p (front ++ rest) := by
  cases front with
  | nil => exact empty rfl
  | cons c front => exact stops_cons (stops c rfl)

/-- The pattern does not match where a run could go on. -/
def Blocked (p : σ → Bool) (pattern : Pattern σ α) : Prop :=
  ∀ c rest, p c = true → pattern.ways (c :: rest) = []

theorem one_ways_cons {p : σ → Bool} {c : σ} (accepts : p c = true) (rest : List σ) :
    (one p).ways (c :: rest) = [(c, rest)] := if_pos accepts

theorem one_ways_of_stops {p : σ → Bool} {text : List σ} (stops : Stops p text) :
    (one p).ways text = [] := by
  cases text with
  | nil => rfl
  | cons c rest => exact if_neg (by rw [stops c rfl]; exact Bool.false_ne_true)

theorem blocked_bind {p : σ → Bool} {pattern : Pattern σ α} (blocked : Blocked p pattern)
    (next : α → Pattern σ β) : Blocked p (pattern >>= next) := by
  intro c rest accepts
  rw [ways_bind, blocked c rest accepts]
  rfl

theorem blocked_one {p q : σ → Bool} (apart : ∀ c, p c = true → q c = false) :
    Blocked p (one q) := by
  intro c rest accepts
  exact one_ways_of_stops (stops_cons (apart c accepts))

theorem blocked_atEnd (p : σ → Bool) : Blocked p (atEnd : Pattern σ Unit) := fun _ _ _ => rfl

theorem many_bind_of_blocked {p : σ → Bool} {next : List σ → Pattern σ β}
    (blocked : ∀ run, Blocked p (next run)) (text : List σ) :
    (many p >>= next).ways text = (next (text.takeWhile p)).ways (text.dropWhile p) := by
  change (manyWays p text).flatMap _ = _
  induction text generalizing next with
  | nil => simp [manyWays]
  | cons c rest ih =>
      unfold manyWays
      by_cases accepts : p c = true
      · rw [if_pos accepts, List.flatMap_append, List.flatMap_singleton, blocked [] c rest accepts,
          List.append_nil, List.flatMap_map, List.takeWhile_cons_of_pos accepts,
          List.dropWhile_cons_of_pos accepts]
        exact ih fun run => blocked (c :: run)
      · rw [if_neg accepts, List.flatMap_singleton, List.takeWhile_cons_of_neg accepts,
          List.dropWhile_cons_of_neg accepts]

theorem takeWhile_of_stops {p : σ → Bool} {text : List σ} (stops : Stops p text) :
    text.takeWhile p = [] ∧ text.dropWhile p = text := by
  cases text with
  | nil => exact ⟨rfl, rfl⟩
  | cons c rest =>
      have refuses : ¬ p c = true := by
        rw [stops c rfl]
        exact Bool.false_ne_true
      exact ⟨List.takeWhile_cons_of_neg refuses, List.dropWhile_cons_of_neg refuses⟩

/-- A repetition takes the run, and no more is tried. -/
theorem many_bind_append {p : σ → Bool} {next : List σ → Pattern σ β}
    (blocked : ∀ run, Blocked p (next run)) {run text : List σ} (all : ∀ c ∈ run, p c = true)
    (stops : Stops p text) : (many p >>= next).ways (run ++ text) = (next run).ways text := by
  rw [many_bind_of_blocked blocked, List.takeWhile_append_of_pos all,
    List.dropWhile_append_of_pos all, (takeWhile_of_stops stops).1, (takeWhile_of_stops stops).2,
    List.append_nil]

theorem many1_bind_of_blocked {p : σ → Bool} {next : List σ → Pattern σ β}
    (blocked : ∀ run, Blocked p (next run)) {c : σ} (accepts : p c = true) (rest : List σ) :
    (many1 p >>= next).ways (c :: rest) =
      (next (c :: rest.takeWhile p)).ways (rest.dropWhile p) := by
  rw [many1, bind_assoc, ways_bind, one_ways_cons accepts, List.flatMap_singleton]
  simp only [bind_assoc, pure_bind]
  exact many_bind_of_blocked (fun run => blocked (c :: run)) rest

theorem many1_bind_append {p : σ → Bool} {next : List σ → Pattern σ β}
    (blocked : ∀ run, Blocked p (next run)) {c : σ} {run text : List σ}
    (all : ∀ c' ∈ c :: run, p c' = true) (stops : Stops p text) :
    (many1 p >>= next).ways (c :: run ++ text) = (next (c :: run)).ways text := by
  have tail : ∀ c' ∈ run, p c' = true := fun c' mem => all c' (List.mem_cons_of_mem _ mem)
  rw [List.cons_append, many1_bind_of_blocked blocked (all c List.mem_cons_self),
    List.takeWhile_append_of_pos tail, List.dropWhile_append_of_pos tail,
    (takeWhile_of_stops stops).1, (takeWhile_of_stops stops).2, List.append_nil]

/-- After a run that stops, one more is not there. -/
theorem many1_bind_of_stops {p : σ → Bool} (next : List σ → Pattern σ β) {text : List σ}
    (stops : Stops p text) : (many1 p >>= next).ways text = [] := by
  rw [many1, bind_assoc, ways_bind, one_ways_of_stops stops]
  rfl

theorem blocked_many {p q : σ → Bool} {next : List σ → Pattern σ β}
    (apart : ∀ c, p c = true → q c = false) (blocked : Blocked p (next [])) :
    Blocked p (many q >>= next) := by
  intro c rest accepts
  have stops : Stops q (c :: rest) := stops_cons (apart c accepts)
  change (manyWays q (c :: rest)).flatMap _ = []
  rw [manyWays, if_neg (by rw [apart c accepts]; exact Bool.false_ne_true), List.flatMap_singleton]
  exact blocked c rest accepts

theorem orElse_bind (pattern other : Pattern σ α) (next : α → Pattern σ β) (text : List σ) :
    (orElse pattern other >>= next).ways text =
      (pattern >>= next).ways text ++ (other >>= next).ways text :=
  List.flatMap_append

theorem head?_bind {pattern : Pattern σ α} {next : α → Pattern σ β} {text : List σ}
    {way : α × List σ} {last : β × List σ} (matched : (pattern.ways text).head? = some way)
    (matched_ : ((next way.1).ways way.2).head? = some last) :
    ((pattern >>= next).ways text).head? = some last := by
  rw [ways_bind]
  obtain ⟨others, ways⟩ := List.head?_eq_some_iff.mp matched
  rw [ways, List.flatMap_cons, List.head?_append, matched_]
  rfl

theorem head?_orElse {pattern : Pattern σ α} {text : List σ} {way : α × List σ}
    (matched : (pattern.ways text).head? = some way) (other : Pattern σ α) :
    ((orElse pattern other).ways text).head? = some way := by
  change (pattern.ways text ++ other.ways text).head? = _
  rw [List.head?_append, matched]
  rfl

theorem ways_orElse_of_nil {pattern : Pattern σ α} {text : List σ} (none_ : pattern.ways text = [])
    (other : Pattern σ α) : (orElse pattern other).ways text = other.ways text := by
  change pattern.ways text ++ other.ways text = _
  rw [none_, List.nil_append]

theorem blocked_orElse {p : σ → Bool} {pattern other : Pattern σ α} {next : α → Pattern σ β}
    (first : Blocked p (pattern >>= next)) (second : Blocked p (other >>= next)) :
    Blocked p (orElse pattern other >>= next) := by
  intro c text accepts
  rw [orElse_bind, first c text accepts, second c text accepts]
  rfl

theorem optional_bind (pattern : Pattern σ Unit) (next : Unit → Pattern σ β) (text : List σ) :
    (optional pattern >>= next).ways text =
      (pattern >>= next).ways text ++ (next ()).ways text := by
  rw [optional, orElse_bind, pure_bind]

theorem blocked_optional {p : σ → Bool} {pattern : Pattern σ Unit} {next : Unit → Pattern σ β}
    (first : Blocked p pattern) (rest : Blocked p (next ())) :
    Blocked p (optional pattern >>= next) := by
  intro c text accepts
  rw [optional_bind, rest c text accepts, List.append_nil]
  exact blocked_bind first next c text accepts

/-- Where a run ends is determined by the text. -/
theorem run_unique {p : σ → Bool} {run run' text text' : List σ} (all : ∀ c ∈ run, p c = true)
    (all' : ∀ c ∈ run', p c = true) (stops : Stops p text) (stops' : Stops p text')
    (same : run ++ text = run' ++ text') : run = run' ∧ text = text' := by
  have runs : (run ++ text).takeWhile p = (run' ++ text').takeWhile p := by rw [same]
  rw [List.takeWhile_append_of_pos all, List.takeWhile_append_of_pos all',
    (takeWhile_of_stops stops).1, (takeWhile_of_stops stops').1, List.append_nil,
    List.append_nil] at runs
  subst runs
  exact ⟨rfl, List.append_cancel_left same⟩

/-! ## The first way of a repetition -/

theorem manyWays_append {p : σ → Bool} {run : List σ} (all : ∀ c ∈ run, p c = true)
    {text : List σ} (stops : Stops p text) :
    ∃ others, manyWays p (run ++ text) = (run, text) :: others := by
  induction run with
  | nil =>
      cases text with
      | nil => exact ⟨[], rfl⟩
      | cons c rest => exact ⟨[], if_neg (by rw [stops c rfl]; exact Bool.false_ne_true)⟩
  | cons c run ih =>
      obtain ⟨others, ways⟩ := ih fun c' mem => all c' (List.mem_cons_of_mem _ mem)
      refine ⟨others.map (fun way => (c :: way.1, way.2)) ++ [([], c :: (run ++ text))], ?_⟩
      rw [List.cons_append, manyWays, if_pos (all c List.mem_cons_self), ways]
      rfl

/-- A repetition is tried with the longest run first. -/
theorem head?_many_bind {p : σ → Bool} {next : List σ → Pattern σ β} {run text : List σ}
    (all : ∀ c ∈ run, p c = true) (stops : Stops p text) {way : β × List σ}
    (matched : ((next run).ways text).head? = some way) :
    ((many p >>= next).ways (run ++ text)).head? = some way := by
  obtain ⟨others, ways⟩ := manyWays_append all stops
  change ((manyWays p (run ++ text)).flatMap _).head? = _
  rw [ways, List.flatMap_cons, List.head?_append, matched]
  rfl

theorem first_many_bind {p : σ → Bool} {next : List σ → Pattern σ β} {run text : List σ}
    (all : ∀ c ∈ run, p c = true) (stops : Stops p text) {captured : β}
    (matched : (next run).first text = some captured) :
    (many p >>= next).first (run ++ text) = some captured := by
  obtain ⟨way, tried, rfl⟩ := Option.map_eq_some_iff.mp matched
  unfold Pattern.first
  rw [head?_many_bind all stops tried]
  rfl

/-- A lazy repetition passes by what does not match. -/
theorem lazyMany_bind_append {p : σ → Bool} {next : List σ → Pattern σ β} {run text : List σ}
    (all : ∀ c ∈ run, p c = true)
    (passes : ∀ captured, ∀ c ∈ run, ∀ rest, (next captured).ways (c :: rest) = []) :
    ∃ others, (lazyMany p >>= next).ways (run ++ text) = (next run).ways text ++ others := by
  change ∃ others, (lazyManyWays p (run ++ text)).flatMap _ = _
  induction run generalizing next with
  | nil =>
      cases text with
      | nil => exact ⟨[], by simp [lazyManyWays]⟩
      | cons c rest => exact ⟨_, List.flatMap_cons⟩
  | cons c run ih =>
      obtain ⟨others, ways⟩ := @ih (fun captured => next (c :: captured))
        (fun c' mem => all c' (List.mem_cons_of_mem _ mem))
        (fun captured c' mem => passes (c :: captured) c' (List.mem_cons_of_mem _ mem))
      refine ⟨others, ?_⟩
      rw [List.cons_append, lazyManyWays, if_pos (all c List.mem_cons_self), List.flatMap_cons,
        passes [] c List.mem_cons_self, List.nil_append, List.flatMap_map]
      exact ways

theorem head?_lazyMany_bind {p : σ → Bool} {next : List σ → Pattern σ β} {run text : List σ}
    (all : ∀ c ∈ run, p c = true)
    (passes : ∀ captured, ∀ c ∈ run, ∀ rest, (next captured).ways (c :: rest) = [])
    {way : β × List σ} (matched : ((next run).ways text).head? = some way) :
    ((lazyMany p >>= next).ways (run ++ text)).head? = some way := by
  obtain ⟨others, ways⟩ : ∃ others,
      (lazyMany p >>= next).ways (run ++ text) = (next run).ways text ++ others :=
    lazyMany_bind_append all passes
  rw [ways, List.head?_append, matched]
  rfl

theorem mem_lazyManyWays {p : σ → Bool} {text : List σ} {way : List σ × List σ}
    (mem : way ∈ lazyManyWays p text) : text = way.1 ++ way.2 := by
  induction text generalizing way with
  | nil =>
      rw [lazyManyWays, List.mem_singleton] at mem
      rw [mem]
      rfl
  | cons c rest ih =>
      rw [lazyManyWays, List.mem_cons] at mem
      rcases mem with rfl | mem
      · rfl
      · split at mem
        · obtain ⟨tail, shorter, rfl⟩ := List.mem_map.mp mem
          exact congrArg (c :: ·) (ih shorter)
        · cases mem

/-- So many at most, and nothing after them. -/
theorem upTo_atEnd_ways_ne_nil_iff {p : σ → Bool} {limit : Nat} {text : List σ} :
    (upTo p limit >>= fun _ => atEnd).ways text ≠ [] ↔
      text.length ≤ limit ∧ ∀ c ∈ text, p c = true := by
  induction limit generalizing text with
  | zero => cases text <;> simp [upTo, atEnd]
  | succ limit ih =>
      rw [upTo, optional_bind]
      cases text with
      | nil => simp [atEnd]
      | cons c rest =>
          have atEnd_ : (atEnd : Pattern σ Unit).ways (c :: rest) = [] := rfl
          rw [atEnd_, List.append_nil, bind_assoc, ways_bind]
          by_cases accepts : p c = true
          · rw [one_ways_cons accepts, List.flatMap_singleton]
            dsimp only
            rw [ih]
            simp [accepts]
          · rw [one_ways_of_stops (stops_cons (Bool.not_eq_true _ ▸ accepts))]
            simp [accepts]

/-! ## Literals -/

theorem literal_ways_append [DecidableEq σ] (word text : List σ) :
    (literal word).ways (word ++ text) = [((), text)] := by
  induction word with
  | nil => rfl
  | cons c word ih =>
      rw [literal, ways_bind, List.cons_append, one_ways_cons (p := (· = c)) (decide_eq_true rfl),
        List.flatMap_singleton]
      exact ih

theorem literal_ways_of_other [DecidableEq σ] {word text : List σ} (other : ¬ word <+: text) :
    (literal word).ways text = [] := by
  induction word generalizing text with
  | nil => exact absurd (List.nil_prefix) other
  | cons c word ih =>
      rw [literal, ways_bind]
      cases text with
      | nil => rfl
      | cons c' rest =>
          by_cases same : c' = c
          · rw [one_ways_cons (p := (· = c)) (decide_eq_true same), List.flatMap_singleton]
            apply ih
            intro front
            rw [same] at other
            exact other (List.cons_prefix_cons.mpr ⟨rfl, front⟩)
          · rw [one_ways_of_stops (p := (· = c)) (stops_cons (decide_eq_false same))]
            rfl

theorem blocked_literal [DecidableEq σ] {p : σ → Bool} {c : σ} {word : List σ}
    (stop : p c = false) :
    Blocked p (literal (c :: word)) := by
  intro c' rest accepts
  apply literal_ways_of_other
  intro front
  rw [(List.cons_prefix_cons.mp front).1, accepts] at stop
  cases stop

end Backtrack
