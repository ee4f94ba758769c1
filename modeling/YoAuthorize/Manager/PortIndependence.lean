import YoAuthorize.Manager.PortValues

/-!
# The port and the other variables

`loadManagerPort` on the files of the grammar.  The scan of the lines is compared with a
fold over the items (`scanLines_file`), where the value of another variable is passed by,
whatever its lines look like.  The one thing that the scan gets wrong is an entry for the
port with a carriage return, U+2028 or U+2029 behind the name in its first line: the dot
of the pattern does not match these, and the entry is passed by too.
-/

namespace YoAuthorize.Manager

open Backtrack

/-! ## The scan of a quoted value -/

/-- The text behind the closing quote. -/
def skipQuoted (quote : Char) : List Char → Option (List Char)
  | [] => none
  | '\\' :: rest =>
      match rest with
      | [] => none
      | _ :: rest => skipQuoted quote rest
  | c :: rest => if c = quote then some rest else skipQuoted quote rest

theorem scanQuote_cons {quote c : Char} (plain : c ≠ '\\') (rest : List Char) :
    scanQuote quote (c :: rest) = if c = quote then none else scanQuote quote rest := by
  rw [scanQuote]
  exact plain

/-- Line ends and other characters are passed by. -/
theorem scanLines_plain {quote c : Char} (plain : c ≠ '\\') (other : c ≠ quote) (port : Nat)
    (rest : List Char) :
    scanLines port (some quote) (splitLines (c :: rest)) =
      scanLines port (some quote) (splitLines rest) := by
  by_cases inline : Inline c rest
  · obtain ⟨line, lines, tail, cons⟩ := splitLines_cons inline
    rw [tail, cons]
    change scanLines port (scanQuote quote (c :: line)) lines = _
    rw [scanQuote_cons plain, if_neg other]
    rfl
  · rcases ends_of_not_inline inline with rfl | ⟨rfl, tail, rfl⟩
    · rw [splitLines_lf]
      rfl
    · rw [splitLines_crlf, splitLines_lf]

/-- So is what follows a backslash, be it a line end. -/
theorem scanLines_escaped (quote c : Char) (port : Nat) (rest : List Char) :
    scanLines port (some quote) (splitLines ('\\' :: c :: rest)) =
      scanLines port (some quote) (splitLines rest) := by
  obtain ⟨line, lines, tail, cons⟩ :=
    splitLines_cons (inline_of_isDot (c := '\\') (by decide) (c :: rest))
  rw [cons]
  by_cases inline : Inline c rest
  · obtain ⟨line', lines', tail', cons'⟩ := splitLines_cons inline
    rw [cons'] at tail
    cases tail
    rw [tail']
    rfl
  · rcases ends_of_not_inline inline with rfl | ⟨rfl, text, rfl⟩
    · rw [splitLines_lf] at tail
      cases tail
      rfl
    · rw [splitLines_crlf] at tail
      cases tail
      rw [splitLines_lf]
      rfl

/-- Line by line, the scan finds the closing quote of the text. -/
theorem scanLines_quoted {quote : Char} (quote_ : isQuote quote = true) (port : Nat)
    (text : List Char) :
    scanLines port (some quote) (splitLines text) =
      match skipQuoted quote text with
      | none => .ok port
      | some rest => scanLines port none (splitLines rest).tail := by
  have ends : ∀ rest, Inline quote rest := by
    intro rest
    simp only [isQuote, decide_eq_true_eq] at quote_
    rcases quote_ with rfl | rfl <;> exact inline_of_isDot (by decide) rest
  induction text using skipQuoted.induct quote with
  | case1 => rfl
  | case2 => rfl
  | case3 c rest ih => exact (scanLines_escaped quote c port rest).trans ih
  | case4 rest plain =>
      obtain ⟨line, lines, tail, cons⟩ := splitLines_cons (ends rest)
      rw [cons, skipQuoted]
      · rw [if_pos rfl]
        dsimp only
        rw [tail]
        change scanLines port (scanQuote quote (quote :: line)) lines = _
        rw [scanQuote_cons plain, if_pos rfl]
        rfl
      · exact plain
  | case5 c rest plain other ih =>
      rw [scanLines_plain plain other, ih, skipQuoted]
      · rw [if_neg other]
      · exact plain

theorem skipQuoted_chars {quote : Char} (chars : List (QuotedChar quote)) (rest : List Char)
    (quote_ : quote ≠ '\\') :
    skipQuoted quote (chars.flatMap QuotedChar.text ++ quote :: rest) = some rest := by
  induction chars with
  | nil =>
      change skipQuoted quote (quote :: rest) = some rest
      rw [skipQuoted, if_pos rfl]
      exact quote_
  | cons c chars ih =>
      cases c with
      | plain c ok =>
          change skipQuoted quote (c :: (chars.flatMap QuotedChar.text ++ quote :: rest)) =
            some rest
          rw [skipQuoted, if_neg ok.1]
          · exact ih
          · exact ok.2
      | escaped c => exact ih

/-! ## What an item does -/

/-- What the scan makes of an entry for the port. -/
def readEntry (port : Nat) (entry : Entry) : Except Fault Nat :=
  if entry.Hidden then .ok port else valuePort entry.value.text

def readItem (port : Nat) (item : Item) : Except Fault Nat :=
  match item.managerPort with
  | none => .ok port
  | some entry => readEntry port entry

theorem scanLines_passed {line : List Char} (target_ : target.first line = none)
    (other_ : other.ways line = []) (port : Nat) (lines : List (List Char)) :
    scanLines port none (line :: lines) = scanLines port none lines := by
  simp only [scanLines, target_, other_, List.head?_nil]

theorem scanLines_target {line rest : List Char} (target_ : target.first line = some rest)
    (port : Nat) (lines : List (List Char)) :
    scanLines port none (line :: lines) =
      (entryPort rest).bind fun port => scanLines port none lines := by
  simp only [scanLines, target_]
  cases entryPort rest <;> rfl

theorem scanLines_other {line rest : List Char} {quote : Char} (target_ : target.first line = none)
    (other_ : other.ways line = [(quote, rest)]) (port : Nat) (lines : List (List Char)) :
    scanLines port none (line :: lines) = scanLines port (some quote) (rest :: lines) := by
  simp only [scanLines, target_, other_, List.head?_cons]

/-! ### Blank lines and comments -/

theorem patterns_blank {text : List Char} (spaces : ∀ c ∈ text, isSpace c = true) :
    target.first text = none ∧ other.ways text = [] := by
  have passed := patterns_of_stops spaces (stops_nil _) (stops_nil _)
  rw [List.append_nil] at passed
  exact passed

theorem patterns_comment {lead : List Char} (spaces : ∀ c ∈ lead, isSpace c = true)
    (text : List Char) :
    target.first (lead ++ '#' :: text) = none ∧ other.ways (lead ++ '#' :: text) = [] :=
  patterns_of_stops spaces (stops_cons (by decide)) (stops_cons (by decide))

theorem newline_notMem_blanks (blanks : Blanks) : '\n' ∉ blanks.val := by
  intro mem
  exact absurd (blanks.property _ mem) (by decide)

theorem scanLines_blank (blanks : Blanks) (lineEnd : LineEnd) (rest : List Char) (port : Nat) :
    scanLines port none (splitLines (blanks.val ++ (lineEnd.text ++ rest))) =
      scanLines port none (splitLines rest) := by
  obtain ⟨kept, taken, lines⟩ := splitLines_line (newline_notMem_blanks blanks) lineEnd rest
  have blank : ∀ c ∈ kept, isSpace c = true := by
    intro c mem
    apply spaces_of_blanks blanks
    rcases taken with taken | taken
    · rw [taken]
      exact mem
    · rw [taken]
      exact List.mem_append_left _ mem
  obtain ⟨target_, other_⟩ := patterns_blank blank
  rw [lines, scanLines_passed target_ other_]

theorem scanLines_comment (lead : Blanks) (behind : Comment) (lineEnd : LineEnd)
    (rest : List Char) (port : Nat) :
    scanLines port none (splitLines ((lead.val ++ '#' :: behind.text) ++ (lineEnd.text ++ rest))) =
      scanLines port none (splitLines rest) := by
  have spaces := spaces_of_blanks lead
  have whole : '\n' ∉ lead.val ++ '#' :: behind.text := by
    rw [List.mem_append, List.mem_cons]
    rintro (mem | same | mem)
    · exact newline_notMem_blanks lead mem
    · cases same
    · exact behind.line mem
  obtain ⟨kept, taken, lines⟩ := splitLines_line whole lineEnd rest
  have passed : target.first kept = none ∧ other.ways kept = [] := by
    rcases taken with rfl | taken
    · exact patterns_comment spaces behind.text
    · -- without the carriage return there is still the hash
      rcases List.eq_nil_or_concat behind.text with empty | ⟨init, last, longer⟩
      · rw [empty] at taken
        have hash := List.append_inj_right' taken rfl
        cases hash
      · rw [longer, List.concat_eq_append, ← List.cons_append, ← List.append_assoc] at taken
        rw [← List.append_inj_left' taken rfl]
        exact patterns_comment spaces init
  rw [lines, scanLines_passed passed.1 passed.2]

/-! ### Entries -/

theorem line_append (entry : Entry) (front rest : List Char) :
    entry.line (front ++ rest) = entry.line front ++ rest := by
  simp only [Entry.line, List.append_assoc, List.cons_append]

theorem isDot_of_isNameChar {c : Char} (name : isNameChar c = true) : isDot c = true := by
  have notSpace := isSpace_of_isNameChar name
  cases terminator : isLineTerminator c with
  | false => simp [isDot, terminator]
  | true =>
      simp [isSpace, terminator] at notSpace

theorem newline_notMem_line (entry : Entry) {more : List Char} (line : '\n' ∉ more) :
    '\n' ∉ entry.line more := by
  simp only [Entry.line, List.mem_append, List.mem_cons, not_or]
  refine ⟨newline_notMem_blanks _, ?_, ?_, newline_notMem_blanks _, by decide, line⟩
  · unfold Entry.exportText
    split
    · exact List.not_mem_nil
    · rename_i blanks _
      rw [List.mem_append, not_or]
      exact ⟨by decide, newline_notMem_blanks _⟩
  · intro mem
    exact absurd (entry.name.isNameChar _ mem) (by decide)

/-- What is behind a value stays in its line. -/
theorem newline_notMem_trail (entry : Entry) :
    '\n' ∉ entry.trail.val ++ Comment.written entry.comment := by
  rw [List.mem_append, not_or]
  refine ⟨newline_notMem_blanks _, ?_⟩
  cases entry.comment with
  | none => exact List.not_mem_nil
  | some behind =>
      rw [Comment.written, List.mem_cons, not_or]
      exact ⟨by decide, behind.line⟩

theorem not_hidden_iff (entry : Entry) :
    ¬ entry.Hidden ↔ ∀ c ∈ entry.firstLine, isDot c = true := by
  simp [Entry.Hidden, isDot]

theorem assignment_first {before after text : List Char} (spaces : ∀ c ∈ before, isSpace c = true)
    (spaces' : ∀ c ∈ after, isSpace c = true) (stops : Stops isSpace text)
    (dots : ∀ c ∈ text, isDot c = true) :
    assignment.first (before ++ '=' :: (after ++ text)) = some text := by
  have rest : (many isDot >>= fun raw => atEnd >>= fun _ => pure raw).first text = some text := by
    unfold Pattern.first
    rw [lineRest_of_dots dots]
    rfl
  have taken : (many isSpace >>= fun _ => many isDot >>= fun raw => atEnd >>= fun _ =>
      pure raw).first (after ++ text) = some text := first_many_bind spaces' stops rest
  unfold Pattern.first at taken ⊢
  have space : ∀ next, Blocked isSpace (one isEquals >>= next : Pattern Char (List Char)) :=
    fun next => blocked_bind (blocked_one fun _ => isEquals_of_isSpace) next
  rw [assignment, many_bind_append (fun _ => space _) spaces (stops_cons (by decide)),
    ways_bind, one_ways_cons (by decide), List.flatMap_singleton]
  exact taken

theorem entryPort_eq {rest raw : List Char} (assigned : assignment.first rest = some raw) :
    entryPort rest =
      match assignedValue raw with
      | some value => valuePort value
      | none => .error invalidEntry := by
  rw [entryPort, assigned]
  dsimp only [Option.getD_some]
  cases assignedValue raw <;> rfl

/-- The white space around an unquoted value; what follows an empty value is in front of it. -/
theorem exists_gap {entry : Entry} {value : Unquoted} (here : entry.value = .unquoted value) :
    ∃ blanks gap, entry.after.val ++ (value.text ++ (entry.trail.val ++
        Comment.written entry.comment)) =
          blanks ++ (value.text ++ (gap ++ Comment.written entry.comment)) ∧
      (∀ c ∈ blanks, isSpace c = true) ∧ (∀ c ∈ gap, isSpace c = true) ∧
      (value.text = [] → gap = []) ∧ (entry.comment ≠ none → value.text ≠ [] → gap ≠ []) := by
  by_cases empty : value.text = []
  · refine ⟨entry.after.val ++ entry.trail.val, [], ?_, ?_, fun _ mem => (by cases mem),
      fun _ => rfl, fun _ some => absurd empty some⟩
    · rw [empty, List.append_assoc]
      rfl
    · intro c mem
      rcases List.mem_append.mp mem with mem | mem
      · exact spaces_of_blanks entry.after c mem
      · exact spaces_of_blanks entry.trail c mem
  · refine ⟨entry.after.val, entry.trail.val, rfl, spaces_of_blanks entry.after,
      spaces_of_blanks entry.trail, fun none => absurd none empty, ?_⟩
    intro some _
    exact entry.separated value here empty some

theorem scanLines_unquoted {entry : Entry} {value : Unquoted} (here : entry.value = .unquoted value)
    {lineEnd : LineEnd} (ends : lineEnd = .lf → ∀ c ∈ entry.text.getLast?, c ≠ '\r')
    (rest : List Char) (port : Nat) :
    scanLines port none (splitLines (entry.text ++ (lineEnd.text ++ rest))) =
      (readItem port (.entry entry)).bind fun port => scanLines port none (splitLines rest) := by
  have assigned : entry.assignment = entry.before.val ++ '=' :: (entry.after.val ++ (value.text ++
      (entry.trail.val ++ Comment.written entry.comment))) := by
    rw [Entry.assignment, here]
    rfl
  have text : entry.text = entry.line (entry.after.val ++ (value.text ++ (entry.trail.val ++
      Comment.written entry.comment))) := by
    rw [Entry.text, assigned]
    rfl
  have more_ : '\n' ∉ entry.after.val ++ (value.text ++ (entry.trail.val ++
      Comment.written entry.comment)) := by
    rw [List.mem_append, List.mem_append, not_or, not_or]
    exact ⟨newline_notMem_blanks _, value.line, newline_notMem_trail entry⟩
  have single : splitLines entry.text = [entry.text] := by
    rw [text]
    exact splitLines_single (newline_notMem_line entry more_)
  have first : entry.firstLine = entry.assignment := by
    have line : '\n' ∉ entry.assignment := by
      rw [assigned, List.mem_append, List.mem_cons, not_or, not_or]
      exact ⟨newline_notMem_blanks _, by decide, more_⟩
    rw [Entry.firstLine, splitLines_single line]
    rfl
  rw [splitLines_append_lineEnd ends, single, List.singleton_append, readItem, Item.managerPort]
  obtain ⟨blanks, gap, more, blanksSpaces, gapSpaces, empty, separated⟩ := exists_gap here
  have starts := stops_unquoted (fun c mem => (value.starts c mem).1) (by decide) empty
    entry.comment
  have quotes := stops_unquoted (fun c mem => (value.starts c mem).2.1) (by decide) empty
    entry.comment
  have other_ : other.ways entry.text = [] := by
    rw [text, more, other_ways entry blanksSpaces starts]
    exact one_ways_of_stops quotes
  by_cases name : entry.name.text = managerPort
  · rw [if_pos name]
    dsimp only
    by_cases hidden : entry.Hidden
    · have target_ : target.first entry.text = none := by
        obtain ⟨c, mem, terminator⟩ := hidden
        rw [first, assigned] at mem
        rw [text]
        exact target_first_of_not_dot mem (by rw [isDot, terminator]; rfl)
      rw [readEntry, if_pos hidden, scanLines_passed target_ other_]
      rfl
    · have dots := (not_hidden_iff entry).mp hidden
      rw [first, assigned, more] at dots
      have moreDots : ∀ c ∈ value.text ++ (gap ++ Comment.written entry.comment),
          isDot c = true := by
        intro c mem
        exact dots c (List.mem_append_right _
          (List.mem_cons_of_mem _ (List.mem_append_right _ mem)))
      have commentDots : ∀ c ∈ Comment.written entry.comment, isDot c = true := by
        intro c mem
        exact moreDots c (List.mem_append_right _ (List.mem_append_right _ mem))
      have target_ := target_first_of_dots name dots
      have found := assignment_first (spaces_of_blanks entry.before) blanksSpaces starts moreDots
      rw [readEntry, if_neg hidden, text, more, scanLines_target target_, entryPort_eq found,
        assignedValue_unquoted value gapSpaces commentDots empty separated, here]
      rfl
  · have target_ : target.first entry.text = none := by
      rw [text]
      exact target_first_of_ne name _
    rw [if_neg name, scanLines_passed target_ other_]
    rfl

/-! ### Quoted values -/

theorem Quote.isQuote (quote : Quote) : isQuote quote.char = true ∧ quote.char ≠ '\\' ∧
    isDot quote.char = true ∧ isDigit quote.char = false ∧ isSpace quote.char = false := by
  cases quote <;> decide

theorem splitLines_initial {text line : List Char} {lines : List (List Char)}
    (here : splitLines text = line :: lines) : line <+: text := by
  induction text generalizing line lines with
  | nil =>
      cases here
      exact List.nil_prefix
  | cons c text ih =>
      by_cases inline : Inline c text
      · obtain ⟨_, _, tail, cons⟩ := splitLines_cons inline
        rw [here] at cons
        cases cons
        exact List.cons_prefix_cons.mpr ⟨rfl, ih tail⟩
      · rcases ends_of_not_inline inline with rfl | ⟨rfl, tail, rfl⟩
        · rw [splitLines_lf] at here
          cases here
          exact List.nil_prefix
        · rw [splitLines_crlf] at here
          cases here
          exact List.nil_prefix

theorem isDot_of_isDigit {c : Char} (digit : isDigit c = true) : isDot c = true :=
  isDot_of_isNameChar (by simp [isNameChar, digit])

/-- What the pattern finds in the first line of a quoted value is checked like the value. -/
theorem quotedPort {quote : Quote} {chars : List (QuotedChar quote.char)}
    {trail line more : List Char} {comment_ : Option Comment}
    (spaces : ∀ c ∈ trail, isSpace c = true) (lineDots : ∀ c ∈ line, isDot c = true)
    (front : line <+: chars.flatMap QuotedChar.text ++ quote.char :: more)
    (whole : (∀ c ∈ chars.flatMap QuotedChar.text, isDot c = true) →
      line = chars.flatMap QuotedChar.text ++ quote.char :: (trail ++ Comment.written comment_)) :
    (match quotedValue.first (quote.char :: line) with
      | some value => valuePort value
      | none => .error invalidEntry) = valuePort (chars.flatMap QuotedChar.text) := by
  obtain ⟨quote_, escape, -, notDigit, -⟩ := quote.isQuote
  by_cases reads : ∃ port, Reads (chars.flatMap QuotedChar.text) port
  · obtain ⟨port, read⟩ := reads
    have digits := isDigit_of_reads read
    have dots : ∀ c ∈ chars.flatMap QuotedChar.text, isDot c = true :=
      fun c mem => isDot_of_isDigit (digits c mem)
    have apart : quote.char ∉ chars.flatMap QuotedChar.text := by
      intro mem
      rw [digits _ mem] at notDigit
      cases notDigit
    have whole := whole dots
    have commentDots : ∀ c ∈ Comment.written comment_, isDot c = true := by
      intro c mem
      apply lineDots
      rw [whole]
      exact List.mem_append_right _ (List.mem_cons_of_mem _ (List.mem_append_right _ mem))
    rw [whole, quotedValue_first quote_ dots apart spaces commentDots]
  · rw [not_exists] at reads
    rw [valuePort_of_not_reads reads]
    cases found : quotedValue.first (quote.char :: line) with
    | none => rfl
    | some value =>
        -- a match ends at a quote, and before any but the last there is a backslash
        obtain ⟨rest, split⟩ := of_quotedValue_first quote_ found
        obtain ⟨after, here⟩ := front
        rw [split, List.append_assoc, List.cons_append] at here
        apply valuePort_of_not_reads
        rcases eq_or_mem_of_quote escape here.symm with same | mem | mem
        · rw [same]
          exact reads
        · exact not_reads_of_mem mem (by decide)
        · exact not_reads_of_mem mem notDigit

section

variable {entry : Entry} {quote : Quote} {chars : List (QuotedChar quote.char)}
  {lineEnd : LineEnd} {rest line : List Char} {lines : List (List Char)}

/-- A quoted value from behind its opening quote, and what follows it. -/
def quotedText (entry : Entry) (quote : Quote) (chars : List (QuotedChar quote.char)) :
    List Char :=
  chars.flatMap QuotedChar.text ++
    quote.char :: (entry.trail.val ++ Comment.written entry.comment)

theorem assignment_quoted (here : entry.value = .quoted quote chars) :
    entry.assignment =
      (entry.before.val ++ '=' :: (entry.after.val ++ [quote.char])) ++
        quotedText entry quote chars := by
  rw [Entry.assignment, here, Value.written, quotedText]
  simp only [List.append_assoc, List.cons_append, List.nil_append]

theorem text_quoted (here : entry.value = .quoted quote chars) :
    entry.text = entry.line (entry.after.val ++ [quote.char]) ++ quotedText entry quote chars := by
  rw [Entry.text, assignment_quoted here, Entry.line]
  simp only [List.append_assoc, List.cons_append]

theorem ends_quoted (here : entry.value = .quoted quote chars)
    (ends : lineEnd = .lf → ∀ c ∈ entry.text.getLast?, c ≠ '\r') :
    lineEnd = .lf → ∀ c ∈ (quotedText entry quote chars).getLast?, c ≠ '\r' := by
  have some : quotedText entry quote chars ≠ [] :=
    List.append_ne_nil_of_right_ne_nil _ (List.cons_ne_nil _ _)
  rw [text_quoted here, List.getLast?_append_of_ne_nil _ some] at ends
  exact ends

theorem getLast?_header (front : List Char) (quote : Quote) :
    ∀ c ∈ (front ++ [quote.char]).getLast?, c ≠ '\r' := by
  intro c last
  rw [List.getLast?_concat] at last
  cases last
  cases quote <;> decide

/-- The lines of an entry with a quoted value: the first of them goes up to the end of the
first line behind the opening quote, and from there the scan finds the closing one. -/
theorem exists_quoted_lines (here : entry.value = .quoted quote chars)
    (ends : lineEnd = .lf → ∀ c ∈ entry.text.getLast?, c ≠ '\r') (rest : List Char) :
    ∃ line lines, splitLines (quotedText entry quote chars) = line :: lines ∧
      splitLines (entry.text ++ (lineEnd.text ++ rest)) =
        entry.line (entry.after.val ++ quote.char :: line) :: (lines ++ splitLines rest) ∧
      entry.firstLine = entry.before.val ++ '=' :: (entry.after.val ++ quote.char :: line) ∧
      ∀ port, scanLines port (some quote.char) (line :: (lines ++ splitLines rest)) =
        scanLines port none (splitLines rest) := by
  obtain ⟨quote_, escape, -, -, -⟩ := quote.isQuote
  have quoteLine : '\n' ≠ quote.char := by
    cases quote <;> decide
  have opened : '\n' ∉ entry.after.val ++ [quote.char] := by
    rw [List.mem_append, List.mem_singleton, not_or]
    exact ⟨newline_notMem_blanks _, quoteLine⟩
  obtain ⟨line, lines, cut⟩ := exists_splitLines (quotedText entry quote chars)
  have whole : splitLines (quotedText entry quote chars ++ (lineEnd.text ++ rest)) =
      line :: (lines ++ splitLines rest) := by
    rw [splitLines_append_lineEnd (ends_quoted here ends), cut]
    rfl
  refine ⟨line, lines, cut, ?_, ?_, fun port => ?_⟩
  · have last := getLast?_header (entry.line entry.after.val) quote
    rw [← line_append] at last
    rw [text_quoted here, List.append_assoc,
      splitLines_append (newline_notMem_line entry opened) last whole, ← line_append,
      List.append_assoc]
    rfl
  · have header : '\n' ∉ (entry.before.val ++ '=' :: entry.after.val) ++ [quote.char] := by
      rw [List.append_assoc, List.cons_append, List.mem_append, List.mem_cons, not_or, not_or]
      exact ⟨newline_notMem_blanks _, by decide, opened⟩
    have cutWhole := splitLines_append header (getLast?_header _ quote) cut
    simp only [List.append_assoc, List.cons_append, List.nil_append] at cutWhole
    rw [Entry.firstLine, assignment_quoted here]
    simp only [List.append_assoc, List.cons_append, List.nil_append]
    rw [cutWhole]
    rfl
  · obtain ⟨kept, -, behind⟩ := splitLines_line (newline_notMem_trail entry) lineEnd rest
    rw [← whole, quotedText, List.append_assoc, List.cons_append, scanLines_quoted quote_,
      skipQuoted_chars chars _ escape]
    dsimp only
    rw [behind, List.tail_cons]

/-- A quoted value without line terminators is in one line. -/
theorem quoted_line_of_dots (cut : splitLines (quotedText entry quote chars) = line :: lines)
    (dots : ∀ c ∈ chars.flatMap QuotedChar.text, isDot c = true) :
    line = quotedText entry quote chars ∧ lines = [] := by
  have whole : '\n' ∉ quotedText entry quote chars := by
    rw [quotedText, List.mem_append, List.mem_cons, not_or, not_or]
    refine ⟨fun mem => absurd (dots _ mem) (by decide), ?_, newline_notMem_trail entry⟩
    cases quote <;> decide
  rw [splitLines_single whole] at cut
  obtain ⟨same, empty⟩ := List.cons.inj cut
  exact ⟨same.symm, empty.symm⟩

/-- A quoted value for the port that is not hidden is checked, and if it is a port the scan
goes on behind its line. -/
theorem scanLines_quoted_port (name : entry.name.text = managerPort)
    (cut : splitLines (quotedText entry quote chars) = line :: lines)
    (dots : ∀ c ∈ entry.before.val ++ '=' :: (entry.after.val ++ quote.char :: line),
      isDot c = true) (port : Nat) :
    scanLines port none
        (entry.line (entry.after.val ++ quote.char :: line) :: (lines ++ splitLines rest)) =
      (valuePort (chars.flatMap QuotedChar.text)).bind fun port =>
        scanLines port none (splitLines rest) := by
  obtain ⟨quote_, -, -, -, quoteSpace⟩ := quote.isQuote
  have after := spaces_of_blanks entry.after
  have openedDots : ∀ c ∈ quote.char :: line, isDot c = true := by
    intro c mem
    exact dots c (List.mem_append_right _ (List.mem_cons_of_mem _ (List.mem_append_right _ mem)))
  have target_ := target_first_of_dots name dots
  have assigned := assignment_first (spaces_of_blanks entry.before) after (stops_cons quoteSpace)
    openedDots
  have quoted : assignedValue (quote.char :: line) = quotedValue.first (quote.char :: line) :=
    if_pos quote_
  have value := quotedPort (spaces_of_blanks entry.trail)
    (fun c mem => openedDots c (List.mem_cons_of_mem _ mem)) (splitLines_initial cut)
    fun dots => (quoted_line_of_dots cut dots).1
  rw [scanLines_target target_, entryPort_eq assigned, quoted, value]
  cases read : valuePort (chars.flatMap QuotedChar.text) with
  | error fault => rfl
  | ok port =>
      -- a port is a value without line terminators
      have digits := isDigit_of_reads (valuePort_eq_ok_iff.mp read)
      rw [(quoted_line_of_dots cut fun c mem => isDot_of_isDigit (digits c mem)).2]
      rfl

theorem scanLines_quoted_entry (here : entry.value = .quoted quote chars)
    (ends : lineEnd = .lf → ∀ c ∈ entry.text.getLast?, c ≠ '\r') (rest : List Char) (port : Nat) :
    scanLines port none (splitLines (entry.text ++ (lineEnd.text ++ rest))) =
      (readItem port (.entry entry)).bind fun port => scanLines port none (splitLines rest) := by
  obtain ⟨quote_, -, -, -, quoteSpace⟩ := quote.isQuote
  obtain ⟨line, lines, cut, whole, first, skipped⟩ := exists_quoted_lines here ends rest
  have other_ : other.ways (entry.line (entry.after.val ++ quote.char :: line)) =
      [(quote.char, line)] := by
    rw [other_ways entry (spaces_of_blanks entry.after) (stops_cons quoteSpace)]
    exact one_ways_cons quote_ line
  rw [whole, readItem, Item.managerPort]
  by_cases name : entry.name.text = managerPort
  · rw [if_pos name]
    dsimp only
    by_cases hidden : entry.Hidden
    · have target_ : target.first (entry.line (entry.after.val ++ quote.char :: line)) = none := by
        obtain ⟨c, mem, terminator⟩ := hidden
        rw [first] at mem
        exact target_first_of_not_dot mem (by rw [isDot, terminator]; rfl)
      rw [readEntry, if_pos hidden, scanLines_other target_ other_]
      exact skipped port
    · have dots := (not_hidden_iff entry).mp hidden
      rw [first] at dots
      rw [readEntry, if_neg hidden, here]
      exact scanLines_quoted_port name cut dots port
  · rw [if_neg name, scanLines_other (target_first_of_ne name _) other_]
    exact skipped port

end

/-! ## Files -/

/-- One item and its line end. -/
theorem scanLines_item (line : ItemLine) (rest : List Char) (port : Nat) :
    scanLines port none (splitLines (line.text ++ rest)) =
      (readItem port line.item).bind fun port => scanLines port none (splitLines rest) := by
  obtain ⟨item, lineEnd, ends⟩ := line
  rw [ItemLine.text, List.append_assoc]
  cases item with
  | blank blanks => exact scanLines_blank blanks lineEnd rest port
  | comment lead behind => exact scanLines_comment lead behind lineEnd rest port
  | entry entry =>
      cases here : entry.value with
      | unquoted value => exact scanLines_unquoted here ends rest port
      | quoted quote chars => exact scanLines_quoted_entry here ends rest port

theorem scanLines_items (lines : List ItemLine) (port : Nat) :
    scanLines port none (splitLines (lines.flatMap ItemLine.text)) =
      (lines.map ItemLine.item).foldlM readItem port := by
  induction lines generalizing port with
  | nil => rfl
  | cons line lines ih =>
      rw [List.flatMap_cons, scanLines_item, List.map_cons, List.foldlM_cons]
      cases readItem port line.item with
      | error fault => rfl
      | ok port => exact ih port

/-- The scan of a file is a fold over its items; a line end is missing at its end. -/
theorem scanLines_file (file : EnvFile) :
    scanLines 5002 none (splitLines file.text) = file.items.foldlM readItem 5002 := by
  have ended : file.text ++ (LineEnd.crlf.text ++ []) =
      (file.lines ++ [(⟨file.last, .crlf, nofun⟩ : ItemLine)]).flatMap ItemLine.text := by
    rw [EnvFile.text, List.flatMap_append, List.flatMap_singleton, List.append_assoc,
      List.append_nil, ItemLine.text]
  rw [← scanLines_append_nil]
  change scanLines 5002 none (splitLines file.text ++ splitLines []) = _
  rw [← @splitLines_append_lineEnd file.text .crlf nofun, ended, scanLines_items, List.map_append]
  rfl

/-- Only the entries for the port are read. -/
theorem foldlM_readItem (items : List Item) (port : Nat) :
    items.foldlM readItem port = (items.filterMap Item.managerPort).foldlM readEntry port := by
  induction items generalizing port with
  | nil => rfl
  | cons item items ih =>
      rw [List.foldlM_cons, readItem, List.filterMap_cons]
      cases item.managerPort with
      | none => exact ih port
      | some entry =>
          rw [List.foldlM_cons]
          dsimp only
          cases readEntry port entry with
          | error fault => rfl
          | ok port => exact ih port

theorem loadManagerPort_file (file : EnvFile) :
    loadManagerPort none (.ok file.text) = file.managerPorts.foldlM readEntry 5002 :=
  (scanLines_file file).trans (foldlM_readItem file.items 5002)

/-- What the scan takes from an entry for the port: its value and its first line. -/
def Entry.reading (entry : Entry) : List Char × List Char := (entry.value.text, entry.firstLine)

theorem foldlM_readEntry_congr {entries others : List Entry}
    (same : entries.map Entry.reading = others.map Entry.reading) (port : Nat) :
    entries.foldlM readEntry port = others.foldlM readEntry port := by
  induction entries generalizing others port with
  | nil =>
      rw [List.map_eq_nil_iff.mp same.symm]
  | cons entry entries ih =>
      obtain ⟨other, others, rfl, first, rest⟩ := List.map_eq_cons_iff.mp same.symm
      obtain ⟨value, line⟩ := Prod.mk.inj first
      have hidden : entry.Hidden ↔ other.Hidden := by
        unfold Entry.Hidden
        rw [line]
      have read : readEntry port entry = readEntry port other := by
        simp only [readEntry, hidden, value]
      rw [List.foldlM_cons, List.foldlM_cons, read]
      cases readEntry port other with
      | error fault => rfl
      | ok port => exact ih rest.symm port

/-- The values of all other variables, and everything between the entries, leave the port as it
is. -/
theorem loadManagerPort_congr {file other : EnvFile}
    (same : other.managerPorts.map Entry.reading = file.managerPorts.map Entry.reading) :
    loadManagerPort none (.ok other.text) = loadManagerPort none (.ok file.text) := by
  rw [loadManagerPort_file, loadManagerPort_file, foldlM_readEntry_congr same]

/-! ## The promise -/

/-- An entry that the scan reads and whose value is no port. -/
def Entry.Refused (entry : Entry) : Prop :=
  ¬ entry.Hidden ∧ ∀ port, ¬ Reads entry.value.text port

theorem foldlM_readEntry_error {entries : List Entry} (refused : ∃ entry ∈ entries, entry.Refused)
    (port : Nat) : ∃ fault, entries.foldlM readEntry port = .error fault := by
  induction entries generalizing port with
  | nil =>
      obtain ⟨_, mem, _⟩ := refused
      cases mem
  | cons entry entries ih =>
      rw [List.foldlM_cons]
      cases read : readEntry port entry with
      | error fault => exact ⟨fault, rfl⟩
      | ok next =>
          apply ih
          obtain ⟨bad, mem, visible, other⟩ := refused
          rcases List.mem_cons.mp mem with rfl | mem
          · rw [readEntry, if_neg visible, valuePort_of_not_reads other] at read
            cases read
          · exact ⟨bad, mem, visible, other⟩

theorem lastSeen_cons {port next result : Nat} {entry : Entry} {entries : List Entry}
    (hidden : entry.Hidden → next = port) (seen : ¬ entry.Hidden → Reads entry.value.text next)
    (rest : LastSeen next entries result) : LastSeen port (entry :: entries) result := by
  unfold LastSeen at rest ⊢
  by_cases here : entry.Hidden
  · rw [List.filter_cons_of_neg (by simp [here]), ← hidden here]
    exact rest
  · rw [List.filter_cons_of_pos (by simp [here]), List.getLast?_cons]
    cases last : (entries.filter fun entry => ¬ entry.Hidden).getLast? with
    | none =>
        rw [last] at rest
        cases rest
        exact seen here
    | some other =>
        rw [last] at rest
        exact rest

/-- Without a refused entry there is a port, that of the last entry that is not hidden. -/
theorem foldlM_readEntry_ok {entries : List Entry} (accepted : ∀ entry ∈ entries, ¬ entry.Refused)
    (port : Nat) :
    ∃ result, entries.foldlM readEntry port = .ok result ∧ LastSeen port entries result := by
  induction entries generalizing port with
  | nil => exact ⟨port, rfl, rfl⟩
  | cons entry entries ih =>
      have next : ∃ port', readEntry port entry = .ok port' ∧ (entry.Hidden → port' = port) ∧
          (¬ entry.Hidden → Reads entry.value.text port') := by
        by_cases hidden : entry.Hidden
        · exact ⟨port, if_pos hidden, fun _ => rfl, fun visible => absurd hidden visible⟩
        · have reads : ∃ port', Reads entry.value.text port' := by
            by_contra none
            exact accepted entry List.mem_cons_self ⟨hidden, not_exists.mp none⟩
          obtain ⟨port', reads⟩ := reads
          refine ⟨port', ?_, fun here => absurd here hidden, fun _ => reads⟩
          rw [readEntry, if_neg hidden]
          exact valuePort_eq_ok_iff.mpr reads
      obtain ⟨port', read, hidden, seen⟩ := next
      obtain ⟨result, folded, last⟩ :=
        ih (fun entry mem => accepted entry (List.mem_cons_of_mem _ mem)) port'
      refine ⟨result, ?_, lastSeen_cons hidden seen last⟩
      rw [List.foldlM_cons, read]
      exact folded

theorem Reads.unique {value : List Char} {port other : Nat} (reads : Reads value port)
    (again : Reads value other) : port = other :=
  Except.ok.inj ((valuePort_eq_ok_iff.mpr reads).symm.trans (valuePort_eq_ok_iff.mpr again))

theorem LastSeen.unique {start port other : Nat} {entries : List Entry}
    (seen : LastSeen start entries port) (again : LastSeen start entries other) : port = other := by
  unfold LastSeen at seen again
  cases last : (entries.filter fun entry => ¬ entry.Hidden).getLast? with
  | none =>
      rw [last] at seen again
      exact seen.trans again.symm
  | some entry =>
      rw [last] at seen again
      exact seen.unique again

/-- The last entry is the last that is seen, if it is not hidden. -/
theorem LastSeen.reads {start port : Nat} {entries : List Entry}
    (seen : LastSeen start entries port)
    {entry : Entry} (last : entries.getLast? = some entry) (visible : ¬ entry.Hidden) :
    Reads entry.value.text port := by
  obtain ⟨init, rfl⟩ := List.getLast?_eq_some_iff.mp last
  have kept : [entry].filter (fun entry => ¬ entry.Hidden) = [entry] := by
    simp [visible]
  unfold LastSeen at seen
  rw [List.filter_append, kept, List.getLast?_concat] at seen
  exact seen

theorem promised_file_iff (file : EnvFile) :
    Promised file.portValues (loadManagerPort none (.ok file.text)) ↔
      (∃ entry ∈ file.managerPorts, entry.Refused) ∨ Harmless file.managerPorts := by
  rw [loadManagerPort_file]
  obtain bad | accepted := em (∃ entry ∈ file.managerPorts, entry.Refused)
  · -- the scan fails, and it should
    obtain ⟨fault, failed⟩ := foldlM_readEntry_error bad 5002
    refine iff_of_true ⟨fun _ => ⟨fault, failed⟩, fun reads => ?_⟩ (.inl bad)
    obtain ⟨entry, mem, -, other⟩ := bad
    obtain ⟨port, here⟩ := reads entry.value.text (List.mem_map_of_mem mem)
    exact absurd here (other port)
  · have acceptedAll : ∀ entry ∈ file.managerPorts, ¬ entry.Refused :=
      fun entry mem bad => accepted ⟨entry, mem, bad⟩
    obtain ⟨port, found, seen⟩ := foldlM_readEntry_ok acceptedAll 5002
    have visible_reads : ∀ entry ∈ file.managerPorts, ¬ entry.Hidden →
        ∃ port, Reads entry.value.text port := by
      intro entry mem visible
      by_contra none
      exact acceptedAll entry mem ⟨visible, not_exists.mp none⟩
    rw [found, or_iff_right accepted]
    constructor
    · intro promised
      have reads : ∀ entry ∈ file.managerPorts, ∃ port, Reads entry.value.text port := by
        intro entry mem
        by_contra none
        -- the value is no port, but the scan has passed it
        obtain ⟨fault, failed⟩ :=
          promised.fails ⟨_, List.mem_map_of_mem mem, not_exists.mp none⟩
        cases failed
      refine ⟨fun entry mem _ => reads entry mem, fun entry last _ => ⟨port, ?_, seen⟩⟩
      obtain ⟨result, same, -, lastReads⟩ := promised.returns (by
        intro value written
        obtain ⟨entry, mem, rfl⟩ := List.mem_map.mp written
        exact reads entry mem)
      cases same
      exact lastReads _ (by rw [EnvFile.portValues, List.getLast?_map, last]; rfl)
    · intro harmless
      refine ⟨?_, fun _ => ⟨port, rfl, ?_, ?_⟩⟩
      · rintro ⟨_, written, other⟩
        obtain ⟨entry, mem, rfl⟩ := List.mem_map.mp written
        by_cases hidden : entry.Hidden
        · obtain ⟨port, reads⟩ := harmless.values entry mem hidden
          exact absurd reads (other port)
        · obtain ⟨port, reads⟩ := visible_reads entry mem hidden
          exact absurd reads (other port)
      · intro none
        rw [List.map_eq_nil_iff.mp none] at seen
        exact seen
      · intro text written
        rw [EnvFile.portValues, List.getLast?_map] at written
        obtain ⟨entry, last, rfl⟩ := Option.map_eq_some_iff.mp written
        by_cases hidden : entry.Hidden
        · obtain ⟨other, reads, again⟩ := harmless.last entry last hidden
          rw [LastSeen.unique seen again]
          exact reads
        · exact LastSeen.reads seen last hidden

/-- The port of a file is a matter of its entries for it, and it is the one that their values
promise exactly if one of them is seen and refused, or if nothing is lost with the hidden
ones. -/
theorem promised_iff (file : EnvFile) :
    ((∀ other : EnvFile,
        other.managerPorts.map Entry.reading = file.managerPorts.map Entry.reading →
        loadManagerPort none (.ok other.text) = loadManagerPort none (.ok file.text)) ∧
      Promised file.portValues (loadManagerPort none (.ok file.text))) ↔
      (∃ entry ∈ file.managerPorts, entry.Refused) ∨ Harmless file.managerPorts := by
  rw [← promised_file_iff]
  exact and_iff_right fun _ same => loadManagerPort_congr same

def noBlanks : Blanks := ⟨[], nofun⟩

/-- `MANAGER_PORT` is set to `5012` and a carriage return, in quotes. -/
def hiddenFile : EnvFile where
  lines := []
  last := .entry {
    lead := noBlanks
    exported := none
    name := ⟨'M', "ANAGER_PORT".toList, by decide, List.all_eq_true.mp (by decide)⟩
    before := noBlanks
    after := noBlanks
    value := .quoted .double [.plain '5' (by decide), .plain '0' (by decide),
      .plain '1' (by decide), .plain '2' (by decide), .plain '\r' (by decide)]
    trail := noBlanks
    comment := none
    separated := fun _ _ _ some => absurd rfl some }

/-- The entry is taken for that of another variable, and the default port is returned. -/
theorem hiddenFile_ignored :
    hiddenFile.text = "MANAGER_PORT=\"5012\r\"".toList ∧
    loadManagerPort none (.ok hiddenFile.text) = .ok 5002 ∧
    ¬ Promised hiddenFile.portValues (loadManagerPort none (.ok hiddenFile.text)) := by
  have text : hiddenFile.text = "MANAGER_PORT=\"5012\r\"".toList := by decide +kernel
  have ports : hiddenFile.portValues = ["5012\r".toList] := by decide +kernel
  have port : loadManagerPort none (.ok hiddenFile.text) = .ok 5002 := by
    rw [text]
    decide +kernel
  refine ⟨text, port, fun promised => ?_⟩
  rw [ports, port] at promised
  obtain ⟨fault, failed⟩ := promised.fails ⟨_, List.mem_singleton_self _, fun port =>
    not_reads_of_mem (c := '\r') (by decide) (by decide) port⟩
  cases failed

/-- So is an entry with U+2028 in its comment, and one with a carriage return at its end. -/
example : (["MANAGER_PORT=5012 # a\u2028b", "MANAGER_PORT=\"5012\"\r"].map fun text =>
    loadManagerPort none (.ok text.toList)) = [.ok 5002, .ok 5002] := by
  decide +kernel

end YoAuthorize.Manager
