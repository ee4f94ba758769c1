import YoAuthorize.Manager.PortFile

/-!
# Lines of an environment file

How `splitLines` cuts a text whose parts are known, what the patterns find in a line
that starts like an entry, and how the scan of a quoted value goes over line ends.
-/

namespace YoAuthorize.Manager

open Backtrack

/-! ## Classes of characters -/

theorem char_eq_iff {c d : Char} : c = d ↔ c.toNat = d.toNat := Char.toNat_inj.symm

theorem char_le_iff {c d : Char} : c ≤ d ↔ c.toNat ≤ d.toNat := Iff.rfl

theorem isNameChar_of_isSpace {c : Char} (space : isSpace c = true) : isNameChar c = false := by
  simp [isSpace, isLineTerminator, isNameChar, isNameStart, isDigit, char_eq_iff, char_le_iff]
    at space ⊢
  omega

theorem isNameStart_of_isSpace {c : Char} (space : isSpace c = true) : isNameStart c = false := by
  have notName := isNameChar_of_isSpace space
  simp only [isNameChar, decide_eq_false_iff_not, not_or, Bool.not_eq_true] at notName
  exact notName.1

theorem isEquals_of_isSpace {c : Char} (space : isSpace c = true) : isEquals c = false := by
  simp [isSpace, isLineTerminator, isEquals, char_eq_iff, char_le_iff] at space ⊢
  omega

theorem isQuote_of_isSpace {c : Char} (space : isSpace c = true) : isQuote c = false := by
  simp [isSpace, isLineTerminator, isQuote, char_eq_iff, char_le_iff] at space ⊢
  omega

theorem isHash_of_isSpace {c : Char} (space : isSpace c = true) : isHash c = false := by
  simp [isSpace, isLineTerminator, isHash, char_eq_iff, char_le_iff] at space ⊢
  omega

theorem isSpace_of_isNameChar {c : Char} (name : isNameChar c = true) : isSpace c = false := by
  cases space : isSpace c with
  | false => rfl
  | true =>
      rw [isNameChar_of_isSpace space] at name
      cases name

theorem isEquals_of_isNameChar {c : Char} (name : isNameChar c = true) : isEquals c = false := by
  simp [isNameChar, isNameStart, isDigit, isEquals, char_eq_iff, char_le_iff] at name ⊢
  omega

theorem isNameChar_of_isNameStart {c : Char} (start : isNameStart c = true) :
    isNameChar c = true := by
  simp [isNameChar, start]

theorem isSpace_of_isBlank {c : Char} (blank : isBlank c = true) : isSpace c = true := by
  simp only [isBlank, decide_eq_true_eq] at blank
  exact blank.1

theorem isBlank_of_isSpace {c : Char} (space : isSpace c = true) (line : c ≠ '\n') :
    isBlank c = true :=
  decide_eq_true ⟨space, line⟩

theorem ne_newline_of_isDot {c : Char} (dot : isDot c = true) : c ≠ '\n' ∧ c ≠ '\r' := by
  constructor
  · rintro rfl
    exact absurd dot (by decide)
  · rintro rfl
    exact absurd dot (by decide)

/-! ## Lines of a text -/

@[simp] theorem splitLines_lf (rest : List Char) :
    splitLines ('\n' :: rest) = [] :: splitLines rest := by
  rw [splitLines]

@[simp] theorem splitLines_crlf (rest : List Char) :
    splitLines ('\r' :: '\n' :: rest) = [] :: splitLines rest := by
  rw [splitLines]

/-- A character that does not end its line. -/
def Inline (c : Char) (rest : List Char) : Prop :=
  c ≠ '\n' ∧ (c = '\r' → rest.head? ≠ some '\n')

theorem inline_of_isDot {c : Char} (dot : isDot c = true) (rest : List Char) : Inline c rest :=
  ⟨(ne_newline_of_isDot dot).1, fun carriage => absurd carriage (ne_newline_of_isDot dot).2⟩

theorem ends_of_not_inline {c : Char} {rest : List Char} (ends : ¬ Inline c rest) :
    c = '\n' ∨ (c = '\r' ∧ ∃ tail, rest = '\n' :: tail) := by
  by_cases lf : c = '\n'
  · exact .inl lf
  · refine .inr ?_
    unfold Inline at ends
    by_cases carriage : c = '\r' ∧ rest.head? = some '\n'
    · exact ⟨carriage.1, List.head?_eq_some_iff.mp carriage.2⟩
    · exact absurd ⟨lf, fun same head => carriage ⟨same, head⟩⟩ ends

theorem splitLines_cons {c : Char} {rest : List Char} (inline : Inline c rest) :
    ∃ line lines,
      splitLines rest = line :: lines ∧ splitLines (c :: rest) = (c :: line) :: lines := by
  have carriage : ∀ tail, c = '\r' → rest = '\n' :: tail → False := by
    intro tail carriage same
    rw [same] at inline
    exact inline.2 carriage rfl
  have step := splitLines.eq_4 c rest carriage inline.1
  have some : splitLines rest ≠ [] := by
    cases rest with
    | nil => exact List.cons_ne_nil _ _
    | cons c rest =>
        unfold splitLines
        split <;> try exact List.cons_ne_nil _ _
        split <;> exact List.cons_ne_nil _ _
  obtain ⟨line, lines, here⟩ := List.exists_cons_of_ne_nil some
  exact ⟨line, lines, here, by rw [step, here]⟩

theorem exists_splitLines (text : List Char) : ∃ line lines, splitLines text = line :: lines := by
  obtain ⟨line, lines, here, -⟩ := splitLines_cons (inline_of_isDot (c := ' ') (by decide) text)
  exact ⟨line, lines, here⟩

/-- A text without line ends goes in front of the first line, if the two make no line end
together. -/
theorem splitLines_append {front rest line : List Char} {lines : List (List Char)}
    (whole : '\n' ∉ front) (ends : ∀ c ∈ front.getLast?, c ≠ '\r')
    (here : splitLines rest = line :: lines) :
    splitLines (front ++ rest) = (front ++ line) :: lines := by
  induction front with
  | nil => exact here
  | cons c front ih =>
      rw [List.mem_cons, not_or] at whole
      have endsTail : ∀ c ∈ front.getLast?, c ≠ '\r' := by
        intro c' last
        exact ends c' (by rw [List.getLast?_cons, Option.mem_def.mp last]; rfl)
      have inline : Inline c (front ++ rest) := by
        refine ⟨Ne.symm whole.1, fun carriage head => ?_⟩
        cases front with
        | nil => exact ends c rfl carriage
        | cons c' front =>
            cases head
            exact whole.2 List.mem_cons_self
      obtain ⟨line', lines', tail, cons⟩ := splitLines_cons inline
      rw [ih whole.2 endsTail] at tail
      cases tail
      exact cons

theorem splitLines_lineEnd (lineEnd : LineEnd) (rest : List Char) :
    splitLines (lineEnd.text ++ rest) = [] :: splitLines rest := by
  cases lineEnd with
  | lf => exact splitLines_lf rest
  | crlf => exact splitLines_crlf rest

/-- The line of a text without line feeds is that text, but for a carriage return that the
line end takes. -/
theorem splitLines_line {front : List Char} (line : '\n' ∉ front) (lineEnd : LineEnd)
    (rest : List Char) :
    ∃ kept, (front = kept ∨ front = kept ++ ['\r']) ∧
      splitLines (front ++ (lineEnd.text ++ rest)) = kept :: splitLines rest := by
  induction front with
  | nil => exact ⟨[], .inl rfl, splitLines_lineEnd lineEnd rest⟩
  | cons c front ih =>
      rw [List.mem_cons, not_or] at line
      by_cases inline : Inline c (front ++ (lineEnd.text ++ rest))
      · obtain ⟨kept, taken, lines⟩ := ih line.2
        obtain ⟨_, _, tail, cons⟩ := splitLines_cons inline
        rw [lines] at tail
        cases tail
        refine ⟨c :: kept, ?_, cons⟩
        rcases taken with rfl | rfl
        · exact .inl rfl
        · exact .inr rfl
      · rcases ends_of_not_inline inline with rfl | ⟨rfl, tail, head⟩
        · exact absurd rfl line.1
        cases front with
        | cons c front =>
            cases head
            exact absurd List.mem_cons_self line.2
        | nil =>
            cases lineEnd with
            | lf => exact ⟨[], .inr rfl, splitLines_crlf rest⟩
            | crlf => cases head

theorem splitLines_single {text : List Char} (line : '\n' ∉ text) : splitLines text = [text] := by
  induction text with
  | nil => rfl
  | cons c text ih =>
      rw [List.mem_cons, not_or] at line
      have inline : Inline c text := by
        refine ⟨Ne.symm line.1, fun _ head => ?_⟩
        exact line.2 (List.mem_of_mem_head? head)
      obtain ⟨_, _, tail, cons⟩ := splitLines_cons inline
      rw [ih line.2] at tail
      cases tail
      exact cons

/-- An empty last line changes nothing. -/
theorem scanLines_append_nil (port : Nat) (quote : Option Char) (lines : List (List Char)) :
    scanLines port quote (lines ++ [[]]) = scanLines port quote lines := by
  induction lines generalizing port quote with
  | nil => cases quote <;> rfl
  | cons line lines ih =>
      rw [List.cons_append]
      unfold scanLines
      simp only [ih]

/-- A line end cuts a text in two; a carriage return before a line feed is of the end. -/
theorem splitLines_append_lineEnd {text : List Char} {lineEnd : LineEnd}
    (ends : lineEnd = .lf → ∀ c ∈ text.getLast?, c ≠ '\r') (rest : List Char) :
    splitLines (text ++ (lineEnd.text ++ rest)) = splitLines text ++ splitLines rest := by
  have tail {c : Char} {text : List Char}
      (ends : lineEnd = .lf → ∀ c' ∈ (c :: text).getLast?, c' ≠ '\r') :
      lineEnd = .lf → ∀ c' ∈ text.getLast?, c' ≠ '\r' := by
    intro lf c' last
    exact ends lf c' (by rw [List.getLast?_cons, Option.mem_def.mp last]; rfl)
  induction text using splitLines.induct with
  | case1 => exact splitLines_lineEnd lineEnd rest
  | case2 text ih =>
      simp only [List.cons_append, splitLines_crlf, ih (tail (tail ends))]
  | case3 text ih =>
      simp only [List.cons_append, splitLines_lf, ih (tail ends)]
  | case4 c text carriage lf here ih =>
      obtain ⟨_, _, some⟩ := exists_splitLines text
      rw [here] at some
      cases some
  | case5 c text carriage lf line lines here ih =>
      have inline : Inline c text := by
        refine ⟨lf, fun same head => ?_⟩
        obtain ⟨tail, front⟩ := List.head?_eq_some_iff.mp head
        exact carriage tail same front
      have longer : Inline c (text ++ (lineEnd.text ++ rest)) := by
        refine ⟨inline.1, fun same head => ?_⟩
        cases text with
        | cons c' text => exact inline.2 same head
        | nil =>
            cases lineEnd with
            | lf => exact ends rfl c rfl same
            | crlf => cases head
      obtain ⟨_, _, short, cons⟩ := splitLines_cons inline
      obtain ⟨_, _, long, cons'⟩ := splitLines_cons longer
      rw [List.cons_append, cons, cons']
      rw [ih (tail ends), short] at long
      cases long
      rfl

/-! ## Lines of an entry -/

/-- A line that starts like the entry and goes on after the equals sign with `more`. -/
def Entry.line (entry : Entry) (more : List Char) : List Char :=
  entry.lead.val ++ (entry.exportText ++ (entry.name.text ++ (entry.before.val ++ '=' :: more)))

theorem Name.isNameChar (name : Name) : ∀ c ∈ name.text, isNameChar c = true := by
  intro c mem
  rcases List.mem_cons.mp mem with rfl | mem
  · exact isNameChar_of_isNameStart name.start
  · exact name.chars c mem

theorem Name.stops (name : Name) (text : List Char) : Stops isSpace (name.text ++ text) :=
  stops_cons (isSpace_of_isNameChar (isNameChar_of_isNameStart name.start))

theorem spaces_of_blanks (blanks : Blanks) : ∀ c ∈ blanks.val, isSpace c = true :=
  fun c mem => isSpace_of_isBlank (blanks.property c mem)

/-- A name ends before what follows it in an entry. -/
theorem stops_assignment (blanks : Blanks) (more : List Char) :
    Stops isNameChar (blanks.val ++ '=' :: more) :=
  stops_append
    (fun c mem => isNameChar_of_isSpace (spaces_of_blanks blanks c (List.mem_of_mem_head? mem)))
    (fun _ => stops_cons (by decide))

section

variable {α : Type} {next : Pattern Char α}

theorem blocked_exportWord : Blocked isSpace exportWord :=
  blocked_bind (blocked_literal (by decide)) _

/-- A name is not the word `export` with something after it. -/
theorem exportWord_name (space : Blocked isSpace next) (equals : Blocked isEquals next)
    (name : Name) (blanks : Blanks) (more : List Char) :
    (exportWord >>= fun _ => next).ways (name.text ++ (blanks.val ++ '=' :: more)) = [] := by
  have spaces := spaces_of_blanks blanks
  rw [exportWord, bind_assoc, ways_bind]
  by_cases word : "export".toList <+: name.text ++ (blanks.val ++ '=' :: more)
  · obtain ⟨text, same⟩ := word
    rw [← same, literal_ways_append, List.flatMap_singleton]
    dsimp only
    rw [bind_assoc]
    by_cases stops : Stops isSpace text
    · exact many1_bind_of_stops _ stops
    · -- the word ends there, so it is the whole name
      have ends : Stops isNameChar text := by
        cases text with
        | nil => exact stops_nil _
        | cons c rest =>
            apply stops_cons
            cases space : isSpace c with
            | true => exact isNameChar_of_isSpace space
            | false => exact absurd (stops_cons space) stops
      obtain ⟨-, rfl⟩ :=
        run_unique (List.all_eq_true.mp (by decide)) name.isNameChar ends
          (stops_assignment blanks more) same
      cases run : blanks.val with
      | nil =>
          rw [run] at stops
          exact absurd (stops_cons (by decide)) stops
      | cons c run =>
          rw [run] at spaces
          rw [many1_bind_append (fun _ => by rw [pure_bind]; exact space) spaces
            (stops_cons (by decide)), pure_bind]
          exact equals '=' more (by decide)
  · rw [literal_ways_of_other word]
    rfl

theorem exportWord_blanks (space : Blocked isSpace next) {blanks : Blanks} (some : blanks.val ≠ [])
    {text : List Char} (stops : Stops isSpace text) :
    (exportWord >>= fun _ => next).ways ("export".toList ++ (blanks.val ++ text)) =
      next.ways text := by
  obtain ⟨c, run, here⟩ := List.exists_cons_of_ne_nil some
  have spaces := spaces_of_blanks blanks
  rw [here] at spaces ⊢
  rw [exportWord, bind_assoc, ways_bind, literal_ways_append, List.flatMap_singleton]
  dsimp only
  rw [bind_assoc, many1_bind_append (fun _ => by rw [pure_bind]; exact space) spaces stops,
    pure_bind]

/-- A pattern after the prefix starts at the name. -/
theorem ways_line (entry : Entry) (space : Blocked isSpace next) (equals : Blocked isEquals next)
    (exported : ∀ text, Stops isNameChar text → Stops isEquals (text.dropWhile isSpace) →
      next.ways ("export".toList ++ text) = []) (more : List Char) :
    (exportPrefix >>= fun _ => next).ways (entry.line more) =
      next.ways (entry.name.text ++ (entry.before.val ++ '=' :: more)) := by
  have lead := spaces_of_blanks entry.lead
  have nameStops := entry.name.stops (entry.before.val ++ '=' :: more)
  rw [Entry.line, exportPrefix, bind_assoc]
  cases exported_ : entry.exported with
  | none =>
      rw [Entry.exportText, exported_, List.nil_append,
        many_bind_append (fun _ => blocked_optional blocked_exportWord space) lead nameStops,
        optional_bind, exportWord_name space equals]
      rfl
  | some blanks =>
      obtain ⟨c, run, here⟩ := List.exists_cons_of_ne_nil blanks.property
      have start := spaces_of_blanks blanks.val c (by rw [here]; exact List.mem_cons_self)
      rw [Entry.exportText, exported_]
      dsimp only
      have word : Stops isSpace "export".toList := by
        intro c mem
        cases mem
        rfl
      rw [List.append_assoc,
        many_bind_append (fun _ => blocked_optional blocked_exportWord space) lead
          (stops_append word fun empty => absurd empty (by decide)),
        optional_bind, exportWord_blanks space blanks.property nameStops, exported, List.append_nil]
      · rw [here]
        exact stops_cons (isNameChar_of_isSpace start)
      · rw [List.dropWhile_append_of_pos (spaces_of_blanks blanks.val),
          (takeWhile_of_stops nameStops).2]
        exact stops_cons (isEquals_of_isNameChar (isNameChar_of_isNameStart entry.name.start))

end

/-! ## What the patterns find -/

/-- `(.*)$`. -/
theorem lineRest_of_dots {text : List Char} (dots : ∀ c ∈ text, isDot c = true) :
    (many isDot >>= fun rest => atEnd >>= fun _ => pure rest).ways text = [(text, [])] := by
  have blocked : ∀ run : List Char, Blocked isDot
      (atEnd >>= fun _ => pure run : Pattern Char (List Char)) :=
    fun _ => blocked_bind (blocked_atEnd _) _
  have taken := many_bind_append blocked dots (stops_nil _)
  rw [List.append_nil] at taken
  exact taken

theorem lineRest_of_not_dot {text : List Char} {c : Char} (mem : c ∈ text) (dot : isDot c = false) :
    (many isDot >>= fun rest => atEnd >>= fun _ => pure rest).ways text = [] := by
  rw [many_bind_of_blocked fun _ => blocked_bind (blocked_atEnd _) _]
  cases rest : text.dropWhile isDot with
  | nil =>
      have dots := List.dropWhile_eq_nil_iff.mp rest c mem
      rw [dot] at dots
      cases dots
  | cons c rest => rfl

theorem blocked_targetName_space : Blocked isSpace targetName :=
  blocked_bind (blocked_literal (by decide)) _

theorem blocked_targetName_equals : Blocked isEquals targetName :=
  blocked_bind (blocked_literal (by decide)) _

theorem target_ways (entry : Entry) (more : List Char) :
    target.ways (entry.line more) =
      targetName.ways (entry.name.text ++ (entry.before.val ++ '=' :: more)) := by
  refine ways_line entry blocked_targetName_space blocked_targetName_equals ?_ more
  intro text _ _
  have other : ¬ managerPort <+: "export".toList ++ text := by
    intro front
    exact absurd (List.cons_prefix_cons.mp front).1 (by decide)
  rw [targetName, ways_bind, literal_ways_of_other other]
  rfl

theorem nameEnd_cons (c : Char) (rest : List Char) :
    nameEnd.ways (c :: rest) = if isSpace c ∨ isEquals c then [((), c :: rest)] else [] := by
  cases space : isSpace c <;> cases equals : isEquals c <;>
    simp only [nameEnd, ahead, Pattern.test, orElse, one, atEnd, ways_bind, ways_pure, space,
      equals, Bool.false_eq_true, if_true, if_false, List.flatMap_nil, List.flatMap_cons,
        List.nil_append,
      List.append_nil, List.cons_append, ne_eq, not_true_eq_false, reduceCtorEq, not_false_eq_true,
      decide_true, decide_false, or_self, or_true, or_false]

theorem nameEnd_of_isNameChar {c : Char} (name : isNameChar c = true) (rest : List Char) :
    nameEnd.ways (c :: rest) = [] := by
  rw [nameEnd_cons, isSpace_of_isNameChar name, isEquals_of_isNameChar name]
  rfl

theorem nameEnd_of_assignment (blanks : Blanks) (more : List Char) :
    nameEnd.ways (blanks.val ++ '=' :: more) = [((), blanks.val ++ '=' :: more)] := by
  cases here : blanks.val with
  | nil => exact nameEnd_cons '=' more
  | cons c run =>
      have space := spaces_of_blanks blanks c (by rw [here]; exact List.mem_cons_self)
      rw [List.cons_append, nameEnd_cons, if_pos (.inl space)]

/-- `MANAGER_PORT(?=\s|=|$)` is the whole name. -/
theorem targetName_of_ne (name : Name) (other : name.text ≠ managerPort) (blanks : Blanks)
    (more : List Char) : targetName.ways (name.text ++ (blanks.val ++ '=' :: more)) = [] := by
  rw [targetName, ways_bind]
  by_cases front : managerPort <+: name.text ++ (blanks.val ++ '=' :: more)
  · obtain ⟨text, same⟩ := front
    rw [← same, literal_ways_append, List.flatMap_singleton]
    cases text with
    | nil =>
        have ends := run_unique (List.all_eq_true.mp (by decide)) name.isNameChar (stops_nil _)
          (stops_assignment blanks more) same
        exact absurd ends.1.symm other
    | cons c rest =>
        by_cases ends : isNameChar c = true
        · rw [ways_bind, nameEnd_of_isNameChar ends]
          rfl
        · have stops : Stops isNameChar (c :: rest) := stops_cons (Bool.not_eq_true _ ▸ ends)
          have ends := run_unique (List.all_eq_true.mp (by decide)) name.isNameChar stops
            (stops_assignment blanks more) same
          exact absurd ends.1.symm other
  · rw [literal_ways_of_other front]
    rfl

theorem targetName_of_eq {name : Name} (here : name.text = managerPort) (blanks : Blanks)
    (more : List Char) :
    targetName.ways (name.text ++ (blanks.val ++ '=' :: more)) =
      (many isDot >>= fun rest => atEnd >>= fun _ => pure rest).ways
        (blanks.val ++ '=' :: more) := by
  rw [here, targetName, ways_bind, literal_ways_append, List.flatMap_singleton]
  dsimp only
  rw [ways_bind, nameEnd_of_assignment, List.flatMap_singleton]

/-- The line of another variable is no target. -/
theorem target_first_of_ne {entry : Entry} (other : entry.name.text ≠ managerPort)
    (more : List Char) : target.first (entry.line more) = none := by
  unfold Pattern.first
  rw [target_ways, targetName_of_ne entry.name other]
  rfl

theorem target_first_of_dots {entry : Entry} (here : entry.name.text = managerPort)
    {more : List Char} (dots : ∀ c ∈ entry.before.val ++ '=' :: more, isDot c = true) :
    target.first (entry.line more) = some (entry.before.val ++ '=' :: more) := by
  unfold Pattern.first
  rw [target_ways, targetName_of_eq here, lineRest_of_dots dots]
  rfl

/-- `.` does not go over a line terminator, so the target is missed. -/
theorem target_first_of_not_dot {entry : Entry} {more : List Char} {c : Char}
    (mem : c ∈ entry.before.val ++ '=' :: more) (dot : isDot c = false) :
    target.first (entry.line more) = none := by
  by_cases here : entry.name.text = managerPort
  · unfold Pattern.first
    rw [target_ways, targetName_of_eq here, lineRest_of_not_dot mem dot]
    rfl
  · exact target_first_of_ne here more

theorem blocked_equals {p : Char → Bool} (apart : ∀ c, p c = true → isEquals c = false)
    (next : Char → Pattern Char Char) : Blocked p (one isEquals >>= next) :=
  blocked_bind (blocked_one apart) next

theorem equalsQuote_ways {before after text : List Char} (spaces : ∀ c ∈ before, isSpace c = true)
    (spaces' : ∀ c ∈ after, isSpace c = true) (stops : Stops isSpace text) :
    equalsQuote.ways (before ++ '=' :: (after ++ text)) = (one isQuote).ways text := by
  rw [equalsQuote,
    many_bind_append (fun _ => blocked_equals (fun _ => isEquals_of_isSpace) _) spaces
    (stops_cons (by decide)), ways_bind, one_ways_cons (by decide), List.flatMap_singleton]
  exact many_bind_append (fun _ => blocked_one fun _ => isQuote_of_isSpace) spaces' stops

theorem equalsQuote_of_stops {text : List Char} (stops : Stops isEquals (text.dropWhile isSpace)) :
    equalsQuote.ways text = [] := by
  rw [equalsQuote, many_bind_of_blocked fun _ => blocked_equals (fun _ => isEquals_of_isSpace) _,
    ways_bind, one_ways_of_stops stops]
  rfl

/-- The name is read whole. -/
theorem otherName_ways (name : Name) {text : List Char} (stops : Stops isNameChar text) :
    otherName.ways (name.text ++ text) = equalsQuote.ways text := by
  rw [Name.text, List.cons_append, otherName, ways_bind, one_ways_cons name.start,
    List.flatMap_singleton]
  refine many_bind_append (fun _ => ?_) name.chars stops
  refine blocked_many (fun _ => isSpace_of_isNameChar) ?_
  exact blocked_equals (fun _ => isEquals_of_isNameChar) _

def exportName : Name where
  first := 'e'
  rest := "xport".toList
  start := by decide
  chars := List.all_eq_true.mp (by decide)

/-- What `other` finds is decided by the value, behind the blanks before it. -/
theorem other_ways (entry : Entry) {blanks text : List Char}
    (spaces : ∀ c ∈ blanks, isSpace c = true)
    (stops : Stops isSpace text) :
    other.ways (entry.line (blanks ++ text)) = (one isQuote).ways text := by
  have space : Blocked isSpace otherName :=
    blocked_bind (blocked_one fun _ => isNameStart_of_isSpace) _
  have equals : Blocked isEquals otherName := by
    refine blocked_bind (blocked_one ?_) _
    intro c equals
    simp only [isEquals, decide_eq_true_eq] at equals
    subst equals
    decide
  have lines := ways_line entry space equals (fun text ends assigned => ?_) (blanks ++ text)
  · rw [other, lines, otherName_ways entry.name (stops_assignment entry.before _)]
    exact equalsQuote_ways (spaces_of_blanks entry.before) spaces stops
  · exact (otherName_ways exportName ends).trans (equalsQuote_of_stops assigned)

/-! ## Lines without an entry -/

/-- A line that starts like neither a name nor `export` is passed by. -/
theorem patterns_of_stops {spaces text : List Char} (all : ∀ c ∈ spaces, isSpace c = true)
    (space : Stops isSpace text) (start : Stops isNameStart text) :
    target.first (spaces ++ text) = none ∧ other.ways (spaces ++ text) = [] := by
  have skips : ∀ {α : Type} {next : Pattern Char α}, Blocked isSpace next → next.ways text = [] →
      (exportPrefix >>= fun _ => next).ways (spaces ++ text) = [] := by
    intro α next blocked misses
    have word : ¬ "export".toList <+: text := by
      rintro ⟨rest, rfl⟩
      exact absurd (start 'e' rfl) (by decide)
    rw [exportPrefix, bind_assoc,
      many_bind_append (fun _ => blocked_optional blocked_exportWord blocked) all space,
      optional_bind, misses, List.append_nil, exportWord, bind_assoc, ways_bind,
      literal_ways_of_other word]
    rfl
  constructor
  · have misses : targetName.ways text = [] := by
      have word : ¬ managerPort <+: text := by
        rintro ⟨rest, rfl⟩
        exact absurd (start 'M' rfl) (by decide)
      rw [targetName, ways_bind, literal_ways_of_other word]
      rfl
    unfold Pattern.first
    rw [target, skips blocked_targetName_space misses]
    rfl
  · have misses : otherName.ways text = [] := by
      rw [otherName, ways_bind, one_ways_of_stops start]
      rfl
    exact skips (blocked_bind (blocked_one fun _ => isNameStart_of_isSpace) _) misses

end YoAuthorize.Manager
