import Mathlib.Data.Nat.Digits.Lemmas
import YoAuthorize.Manager.PortLines

/-!
# Values of the port

What the patterns make of the text behind the equals sign of an entry for the port: the
value that is written there, or, for a quoted value that is no port, possibly something
else that is no port either.
-/

namespace YoAuthorize.Manager

open Backtrack

/-! ## Comments behind a value -/

theorem blocked_commentText : Blocked isSpace commentText :=
  blocked_bind (blocked_one fun _ => isHash_of_isSpace) _

theorem commentText_of_stops {text : List Char} (stops : Stops isHash text) :
    commentText.ways text = [] := by
  rw [commentText, ways_bind, one_ways_of_stops stops]
  rfl

theorem commentText_ways {text : List Char} (dots : ∀ c ∈ text, isDot c = true) :
    commentText.ways ('#' :: text) = [((), [])] := by
  have blocked : ∀ _ : List Char, Blocked isDot (atEnd : Pattern Char Unit) :=
    fun _ => blocked_atEnd _
  have taken := many_bind_append blocked dots (stops_nil _)
  rw [List.append_nil] at taken
  rw [commentText, ways_bind, one_ways_cons (by decide), List.flatMap_singleton]
  exact taken

/-- A comment starts at the start of a line or behind spaces. -/
theorem comment_ways (atStart : Bool) (text : List Char) :
    (comment atStart).ways text =
      (if atStart then commentText.ways text else []) ++
        (many1 isSpace >>= fun _ => commentText).ways text := by
  rw [comment, orElse_bind]
  simp only [bind_assoc, pure_bind]
  cases atStart
  · rfl
  · rw [if_pos rfl, if_pos rfl, pure_bind]

/-- There is no comment at a place where neither a hash nor spaces and a hash stand. -/
theorem comment_of_stops {atStart : Bool} {text : List Char}
    (start : atStart = true → Stops isHash text)
    (spaces : ∀ c ∈ text.head?, isSpace c = true → Stops isHash (text.dropWhile isSpace)) :
    (comment atStart).ways text = [] := by
  have here : (if atStart then commentText.ways text else []) = [] := by
    split
    · rename_i first
      exact commentText_of_stops (start first)
    · rfl
  rw [comment_ways, here, List.nil_append]
  cases text with
  | nil => exact many1_bind_of_stops _ (stops_nil _)
  | cons c rest =>
      cases space : isSpace c with
      | false => exact many1_bind_of_stops _ (stops_cons space)
      | true =>
          have stops := spaces c rfl space
          rw [List.dropWhile_cons_of_pos space] at stops
          rw [many1_bind_of_blocked (fun _ => blocked_commentText) space]
          exact commentText_of_stops stops

theorem replaceFirst_cons {atStart : Bool} {c : Char} {rest : List Char}
    (none : (comment atStart).ways (c :: rest) = []) :
    replaceFirst comment atStart (c :: rest) = c :: replaceFirst comment false rest := by
  rw [replaceFirst, none]
  rfl

/-- A text in which spaces are not followed by a hash, and which does not end in spaces. -/
structure Plain (text : List Char) : Prop where
  ends : ∀ c ∈ text.getLast?, isSpace c = false
  comment : ∀ before c after, text = before ++ c :: '#' :: after → isSpace c = false

theorem Plain.tail {c : Char} {text : List Char} (plain : Plain (c :: text)) : Plain text := by
  constructor
  · intro last mem
    apply plain.ends
    cases text with
    | nil => cases mem
    | cons c' rest => exact mem
  · intro before hash after same
    exact plain.comment (c :: before) hash after (congrArg (c :: ·) same)

theorem Plain.stops {text : List Char} (plain : Plain text) (some : text ≠ [])
    (hash : Stops isHash text) (rest : List Char) :
    Stops isHash ((text ++ rest).dropWhile isSpace) := by
  induction text with
  | nil => exact absurd rfl some
  | cons c text ih =>
      cases space : isSpace c with
      | false =>
          rw [List.cons_append,
            List.dropWhile_cons_of_neg (by rw [space]; exact Bool.false_ne_true)]
          exact stops_cons (hash c rfl)
      | true =>
          rw [List.cons_append, List.dropWhile_cons_of_pos space]
          cases text with
          | nil =>
              have last := plain.ends c rfl
              rw [space] at last
              cases last
          | cons c' text =>
              refine ih plain.tail (List.cons_ne_nil _ _) (stops_cons ?_)
              cases sharp : isHash c' with
              | false => rfl
              | true =>
                  simp only [isHash, decide_eq_true_eq] at sharp
                  have apart := plain.comment [] c text (by rw [sharp]; rfl)
                  rw [space] at apart
                  cases apart

/-- The search for a comment passes by a value. -/
theorem replaceFirst_value {text : List Char} (plain : Plain text) (some : text ≠ [])
    {atStart : Bool} (start : atStart = true → Stops isHash text) (rest : List Char) :
    replaceFirst comment atStart (text ++ rest) = text ++ replaceFirst comment false rest := by
  induction text generalizing atStart with
  | nil => exact absurd rfl some
  | cons c text ih =>
      have none : (comment atStart).ways (c :: (text ++ rest)) = [] := by
        apply comment_of_stops
        · intro first
          exact stops_cons (start first c rfl)
        · intro c' here space
          cases here
          exact plain.stops some (stops_cons (isHash_of_isSpace space)) rest
      rw [List.cons_append, replaceFirst_cons none, List.cons_append]
      cases text with
      | nil => rfl
      | cons c' text => rw [ih plain.tail (List.cons_ne_nil _ _) (fun first => by cases first)]

theorem replaceFirst_blanks {gap : List Char} (spaces : ∀ c ∈ gap, isSpace c = true) :
    replaceFirst comment false gap = gap := by
  induction gap with
  | nil => rfl
  | cons c gap ih =>
      rw [replaceFirst_cons, ih fun c' mem => spaces c' (List.mem_cons_of_mem _ mem)]
      apply comment_of_stops
      · intro first
        cases first
      · intro _ _ _
        rw [List.dropWhile_eq_nil_iff.mpr spaces]
        exact stops_nil _

theorem replaceFirst_comment {atStart : Bool} {gap : List Char}
    (spaces : ∀ c ∈ gap, isSpace c = true) (apart : gap ≠ [] ∨ atStart = true)
    {comment_ : Comment} (dots : ∀ c ∈ comment_.text, isDot c = true) :
    replaceFirst comment atStart (gap ++ '#' :: comment_.text) = [] := by
  cases gap with
  | nil =>
      have first : atStart = true := apart.resolve_left fun some => some rfl
      rw [List.nil_append, replaceFirst, comment_ways, first, if_pos rfl, commentText_ways dots]
      rfl
  | cons c gap =>
      have none : (if atStart then commentText.ways (c :: (gap ++ '#' :: comment_.text)) else []) =
          [] := by
        split
        · exact commentText_of_stops (stops_cons (isHash_of_isSpace (spaces c List.mem_cons_self)))
        · rfl
      have stops : Stops isSpace ('#' :: comment_.text) := stops_cons (by decide)
      have found := many1_bind_append (fun _ => blocked_commentText) spaces stops
      rw [List.cons_append] at found ⊢
      rw [replaceFirst, comment_ways, none, List.nil_append, found, commentText_ways dots]
      rfl

/-! ## White space around a value -/

theorem trim_append {text gap : List Char} (starts : Stops isSpace text)
    (ends : ∀ c ∈ text.getLast?, isSpace c = false) (spaces : ∀ c ∈ gap, isSpace c = true) :
    trim (text ++ gap) = text := by
  have back : ∀ c ∈ gap.reverse, isSpace c = true := fun c mem => spaces c (List.mem_reverse.mp mem)
  have stops : Stops isSpace text.reverse := by
    intro c mem
    rw [List.head?_reverse] at mem
    exact ends c mem
  have cut : trimEnd (text ++ gap) = text := by
    rw [trimEnd, List.reverse_append, List.dropWhile_append_of_pos back,
      (takeWhile_of_stops stops).2, List.reverse_reverse]
  rw [trim]
  cases text with
  | nil =>
      rw [List.nil_append, List.dropWhile_eq_nil_iff.mpr spaces]
      rfl
  | cons c text =>
      rw [(takeWhile_of_stops (stops_append starts fun empty => absurd empty
        (List.cons_ne_nil _ _))).2]
      exact cut

/-! ## Unquoted values -/

theorem startsQuoted_of_stops {text : List Char} (stops : Stops isQuote text) :
    startsQuoted text = false := by
  cases text with
  | nil => rfl
  | cons c rest => exact stops c rfl

/-- What the text behind the equals sign starts with is a matter of the value, or of the hash
behind an empty one. -/
theorem stops_unquoted {value : Unquoted} {p : Char → Bool}
    (starts : ∀ c ∈ value.text.head?, p c = false) (hash : p '#' = false) {gap : List Char}
    (empty : value.text = [] → gap = []) (comment_ : Option Comment) :
    Stops p (value.text ++ (gap ++ Comment.written comment_)) := by
  refine stops_append starts fun none => ?_
  rw [empty none]
  cases comment_ with
  | none => exact stops_nil _
  | some comment_ => exact stops_cons hash

/-- What is assigned by an unquoted value and what follows it in the line. -/
theorem assignedValue_unquoted (value : Unquoted) {gap : List Char}
    (spaces : ∀ c ∈ gap, isSpace c = true) {comment_ : Option Comment}
    (dots : ∀ c ∈ Comment.written comment_, isDot c = true)
    (empty : value.text = [] → gap = [])
    (separated : comment_ ≠ none → value.text ≠ [] → gap ≠ []) :
    assignedValue (value.text ++ (gap ++ Comment.written comment_)) = some value.text := by
  have starts : Stops isSpace value.text := fun c mem => (value.starts c mem).1
  have hash : Stops isHash value.text := fun c mem => (value.starts c mem).2.2
  have plain : Plain value.text := by
    refine ⟨value.ends, ?_⟩
    intro before c after same
    have mem : c ∈ value.text := by
      rw [same]
      exact List.mem_append_right _ List.mem_cons_self
    have notBlank := value.comment before c after same
    cases space : isSpace c with
    | false => rfl
    | true =>
        have inline : c ≠ '\n' := fun same => value.line (same ▸ mem)
        rw [isBlank_of_isSpace space inline] at notBlank
        cases notBlank
  have unquoted : startsQuoted (value.text ++ (gap ++ Comment.written comment_)) = false := by
    apply startsQuoted_of_stops
    exact stops_unquoted (fun c mem => (value.starts c mem).2.1) (by decide) empty comment_
  have stripped : ∃ kept, (∀ c ∈ kept, isSpace c = true) ∧
      replaceFirst comment true (value.text ++ (gap ++ Comment.written comment_)) =
        value.text ++ kept := by
    have nothing : ∀ c ∈ ([] : List Char), isSpace c = true := fun _ mem => by cases mem
    by_cases some : value.text = []
    · rw [some, empty some]
      cases comment_ with
      | none => exact ⟨[], nothing, rfl⟩
      | some comment_ =>
          have dots : ∀ c ∈ comment_.text, isDot c = true :=
            fun c mem => dots c (List.mem_cons_of_mem _ mem)
          exact ⟨[], nothing, replaceFirst_comment nothing (.inr rfl) dots⟩
    · rw [replaceFirst_value plain some fun _ => hash]
      cases comment_ with
      | none =>
          refine ⟨gap, spaces, ?_⟩
          rw [Comment.written, List.append_nil, replaceFirst_blanks spaces]
      | some comment_ =>
          refine ⟨[], nothing, ?_⟩
          have apart := separated (Option.some_ne_none _) some
          rw [Comment.written, replaceFirst_comment spaces (.inl apart)
            fun c mem => dots c (List.mem_cons_of_mem _ mem)]
  obtain ⟨kept, keptSpaces, stripped⟩ := stripped
  rw [assignedValue, unquoted, stripped]
  exact congrArg some (trim_append starts value.ends keptSpaces)

/-! ## Literal ports -/

/-- `[1-9]\d{0,4}`. -/
def LiteralPort (value : List Char) : Prop :=
  ∃ digit digits, value = digit :: digits ∧ isFirstDigit digit = true ∧ digits.length ≤ 4 ∧
    ∀ c ∈ digits, isDigit c = true

theorem port_atEnd_ways_ne_nil_iff {value : List Char} :
    (port >>= fun _ => atEnd).ways value ≠ [] ↔ LiteralPort value := by
  rw [port, bind_assoc, ways_bind]
  cases value with
  | nil =>
      refine ⟨fun some => absurd rfl some, ?_⟩
      rintro ⟨_, _, same, _⟩
      cases same
  | cons digit digits =>
      by_cases first : isFirstDigit digit = true
      · rw [one_ways_cons first, List.flatMap_singleton]
        dsimp only
        rw [upTo_atEnd_ways_ne_nil_iff]
        constructor
        · intro ⟨short, all⟩
          exact ⟨digit, digits, rfl, first, short, all⟩
        · rintro ⟨_, _, same, _, short, all⟩
          cases same
          exact ⟨short, all⟩
      · rw [one_ways_of_stops (stops_cons (Bool.not_eq_true _ ▸ first))]
        refine ⟨fun some => absurd rfl some, ?_⟩
        rintro ⟨_, _, same, first', _⟩
        cases same
        exact absurd first' first

/-- The regular expression of a port matches exactly the texts of `LiteralPort`. -/
theorem literalPort_test_iff {value : List Char} :
    literalPort.test value = true ↔ LiteralPort value := by
  rw [Pattern.test, decide_eq_true_eq]
  exact port_atEnd_ways_ne_nil_iff

theorem literalPortOrEmpty_test_iff {value : List Char} :
    literalPortOrEmpty.test value = true ↔ value = [] ∨ LiteralPort value := by
  rw [Pattern.test, decide_eq_true_eq, literalPortOrEmpty, optional_bind,
    ← port_atEnd_ways_ne_nil_iff]
  cases value with
  | nil => simp [atEnd]
  | cons c rest =>
      have none : (atEnd : Pattern Char Unit).ways (c :: rest) = [] := rfl
      rw [none, List.append_nil]
      simp

theorem valuePort_nil : valuePort [] = .ok 5002 := by decide +kernel

theorem not_literalPort_nil : ¬ LiteralPort [] := by
  rintro ⟨_, _, same, _⟩
  cases same

/-- A literal port has the value it is written as. -/
theorem valuePort_of_literal {value : List Char} (literal : LiteralPort value)
    (small : number value ≤ 65535) : valuePort value = .ok (number value) := by
  have some : value ≠ [] := by
    rintro rfl
    exact not_literalPort_nil literal
  have accepted : literalPortOrEmpty.test value = true :=
    literalPortOrEmpty_test_iff.mpr (.inr literal)
  have again : literalPort.test value = true := literalPort_test_iff.mpr literal
  have large : ¬ number value > 65535 := by omega
  simp only [valuePort, accepted, large, not_true_eq_false, or_self, if_false, orUndefined, some,
    parsePort, Option.getD_some, again]

theorem valuePort_of_not_literal {value : List Char} (some : value ≠ [])
    (other : ¬ (LiteralPort value ∧ number value ≤ 65535)) :
    valuePort value = .error invalidEntry := by
  refine if_pos ?_
  by_cases accepted : literalPortOrEmpty.test value = true
  · rcases literalPortOrEmpty_test_iff.mp accepted with empty | literal
    · exact absurd empty some
    · exact .inr (Nat.lt_of_not_le fun small => other ⟨literal, small⟩)
  · exact .inl accepted

/-! ## Decimal numbers -/

def digitValue (c : Char) : Nat := c.toNat - 48

theorem number_eq_ofDigits (value : List Char) :
    number value = Nat.ofDigits 10 (value.map digitValue).reverse := by
  rw [Nat.ofDigits_eq_foldr, List.foldr_reverse, List.foldl_map]
  simp only [number, digitValue, Nat.cast_id, Nat.add_comm]

theorem isDigit_of_isFirstDigit {c : Char} (first : isFirstDigit c = true) :
    isDigit c = true ∧ digitValue c ≠ 0 := by
  simp only [isFirstDigit, isDigit, digitValue, decide_eq_true_eq, char_le_iff] at first ⊢
  simp at first ⊢
  omega

theorem digit_of_digitValue {c : Char} (digit : isDigit c = true) :
    digitValue c < 10 ∧ Char.ofNat (48 + digitValue c) = c := by
  simp only [isDigit, decide_eq_true_eq, char_le_iff] at digit
  simp at digit
  have value : 48 + digitValue c = c.toNat := by
    unfold digitValue
    omega
  constructor
  · unfold digitValue
    omega
  · rw [value]
    exact Char.ofNat_toNat c

theorem digitValue_of_lt {d : Nat} (small : d < 10) :
    isDigit (Char.ofNat (48 + d)) = true ∧ digitValue (Char.ofNat (48 + d)) = d := by
  revert d
  decide

theorem isFirstDigit_of_lt {d : Nat} (small : d < 10) (some : d ≠ 0) :
    isFirstDigit (Char.ofNat (48 + d)) = true := by
  revert d
  decide

theorem decimal_number {value : List Char} (literal : LiteralPort value) :
    decimal (number value) = value := by
  obtain ⟨digit, digits, rfl, first, -, all⟩ := literal
  have all : ∀ c ∈ digit :: digits, isDigit c = true := by
    intro c mem
    rcases List.mem_cons.mp mem with rfl | mem
    · exact (isDigit_of_isFirstDigit first).1
    · exact all c mem
  have small : ∀ d ∈ ((digit :: digits).map digitValue).reverse, d < 10 := by
    intro d mem
    obtain ⟨c, here, rfl⟩ := List.mem_map.mp (List.mem_reverse.mp mem)
    exact (digit_of_digitValue (all c here)).1
  have last : ∀ some : ((digit :: digits).map digitValue).reverse ≠ [],
      (((digit :: digits).map digitValue).reverse).getLast some ≠ 0 := by
    intro some
    rw [List.getLast_reverse]
    exact (isDigit_of_isFirstDigit first).2
  rw [decimal, number_eq_ofDigits, Nat.digits_ofDigits 10 (by decide) _ small last,
    List.map_reverse, List.reverse_reverse, List.map_map]
  conv_rhs => rw [← List.map_id (digit :: digits)]
  apply List.map_congr_left
  intro c mem
  exact (digit_of_digitValue (all c mem)).2

/-- Every port is accepted in its decimal form. -/
theorem literalPort_decimal {port : Nat} (positive : 1 ≤ port) (small : port ≤ 65535) :
    LiteralPort (decimal port) ∧ number (decimal port) = port := by
  have below : ∀ d ∈ Nat.digits 10 port, d < 10 := fun d mem => Nat.digits_lt_base (by decide) mem
  have length : (Nat.digits 10 port).length ≤ 5 :=
    (Nat.digits_length_le_iff (by decide) port).mpr (by omega)
  constructor
  · have some : Nat.digits 10 port ≠ [] := Nat.digits_ne_nil_iff_ne_zero.mpr (by omega)
    have last := Nat.getLast_digit_ne_zero 10 (m := port) (by omega)
    have split := List.dropLast_append_getLast some
    generalize (Nat.digits 10 port).dropLast = init, (Nat.digits 10 port).getLast some = first
      at last split
    rw [decimal]
    rw [← split] at below length ⊢
    rw [List.map_append, List.reverse_append]
    refine ⟨_, _, rfl, ?_, ?_, ?_⟩
    · exact isFirstDigit_of_lt (below first (List.mem_append_right _ List.mem_cons_self)) last
    · simp only [List.length_append, List.length_singleton] at length
      change (init.map _).reverse.length ≤ 4
      rw [List.length_reverse, List.length_map]
      omega
    · intro c mem
      obtain ⟨d, here, rfl⟩ := List.mem_map.mp (List.mem_reverse.mp mem)
      exact (digitValue_of_lt (below d (List.mem_append_left _ here))).1
  · rw [number_eq_ofDigits, decimal, List.map_reverse, List.reverse_reverse, List.map_map]
    conv_rhs => rw [← Nat.ofDigits_digits 10 port]
    congr 1
    conv_rhs => rw [← List.map_id (Nat.digits 10 port)]
    apply List.map_congr_left
    intro d mem
    exact (digitValue_of_lt (below d mem)).2

/-- A value is a port if and only if the promise reads it as one. -/
theorem valuePort_eq_ok_iff {value : List Char} {port : Nat} :
    valuePort value = .ok port ↔ Reads value port := by
  constructor
  · intro read
    by_cases empty : value = []
    · subst empty
      rw [valuePort_nil] at read
      cases read
      exact .inl ⟨rfl, rfl⟩
    · by_cases literal : LiteralPort value ∧ number value ≤ 65535
      · rw [valuePort_of_literal literal.1 literal.2] at read
        cases read
        refine .inr ⟨?_, literal.2, (decimal_number literal.1).symm⟩
        by_contra zero
        have digits := decimal_number literal.1
        rw [Nat.lt_one_iff.mp (Nat.lt_of_not_le zero)] at digits
        exact empty digits.symm
      · rw [valuePort_of_not_literal empty literal] at read
        cases read
  · rintro (⟨rfl, rfl⟩ | ⟨positive, small, rfl⟩)
    · exact valuePort_nil
    · obtain ⟨literal, same⟩ := literalPort_decimal positive small
      rw [valuePort_of_literal literal (by rw [same]; exact small), same]

/-- A value that is no port is refused with the one message. -/
theorem valuePort_of_not_reads {value : List Char} (other : ∀ port, ¬ Reads value port) :
    valuePort value = .error invalidEntry := by
  apply valuePort_of_not_literal
  · rintro rfl
    exact other 5002 (.inl ⟨rfl, rfl⟩)
  · intro ⟨literal, small⟩
    exact other _ (valuePort_eq_ok_iff.mp (valuePort_of_literal literal small))

theorem isDigit_of_literalPort {value : List Char} (literal : LiteralPort value) :
    ∀ c ∈ value, isDigit c = true := by
  obtain ⟨digit, digits, rfl, first, -, all⟩ := literal
  intro c mem
  rcases List.mem_cons.mp mem with rfl | mem
  · exact (isDigit_of_isFirstDigit first).1
  · exact all c mem

theorem isDigit_of_reads {value : List Char} {port : Nat} (read : Reads value port) :
    ∀ c ∈ value, isDigit c = true := by
  rcases read with ⟨rfl, -⟩ | ⟨positive, small, rfl⟩
  · intro c mem
    cases mem
  · exact isDigit_of_literalPort (literalPort_decimal positive small).1

/-- A port has no character other than a digit. -/
theorem not_reads_of_mem {value : List Char} {c : Char} (mem : c ∈ value)
    (other : isDigit c = false) (port : Nat) : ¬ Reads value port := by
  intro read
  have digit := isDigit_of_reads read c mem
  rw [other] at digit
  cases digit

/-! ## Quoted values -/

theorem quotedEnd_of_ne {quote c : Char} (other : c ≠ quote) (rest : List Char) :
    (quotedEnd quote).ways (c :: rest) = [] := by
  have stops : Stops (fun c => decide (c = quote)) (c :: rest) := stops_cons (decide_eq_false other)
  rw [quotedEnd, ways_bind, one_ways_of_stops stops]
  rfl

theorem Comment.stops (comment_ : Option Comment) : Stops isSpace (Comment.written comment_) := by
  cases comment_ with
  | none => exact stops_nil _
  | some comment_ => exact stops_cons (by decide)

theorem quotedEnd_ways (quote : Char) {trail : List Char} (spaces : ∀ c ∈ trail, isSpace c = true)
    {comment_ : Option Comment} (dots : ∀ c ∈ Comment.written comment_, isDot c = true) :
    (quotedEnd quote).ways (quote :: (trail ++ Comment.written comment_)) = [((), [])] := by
  have blocked : Blocked isSpace (optional (do let _ ← one isHash; let _ ← many isDot) >>= fun _ =>
      (atEnd : Pattern Char Unit)) :=
    blocked_optional (blocked_bind (blocked_one fun _ => isHash_of_isSpace) _) (blocked_atEnd _)
  rw [quotedEnd, ways_bind, one_ways_cons (p := (· = quote)) (decide_eq_true rfl),
    List.flatMap_singleton]
  dsimp only
  rw [many_bind_append (fun _ => blocked) spaces (Comment.stops comment_), optional_bind]
  simp only [bind_assoc, pure_bind]
  cases comment_ with
  | none => rfl
  | some comment_ =>
      have found := commentText_ways fun c mem => dots c (List.mem_cons_of_mem _ mem)
      rw [commentText] at found
      rw [Comment.written, found]
      rfl

/-- A quoted value is the shortest text before a quote that ends it. -/
theorem quotedValue_ways {quote : Char} (quote_ : isQuote quote = true) (text : List Char) :
    quotedValue.ways (quote :: text) =
      (lazyMany isDot >>= fun value => quotedEnd quote >>= fun _ => pure value).ways text := by
  rw [quotedValue, ways_bind, one_ways_cons quote_, List.flatMap_singleton]

theorem quotedValue_first {quote : Char} (quote_ : isQuote quote = true) {value : List Char}
    (dots : ∀ c ∈ value, isDot c = true) (apart : quote ∉ value) {trail : List Char}
    (spaces : ∀ c ∈ trail, isSpace c = true) {comment_ : Option Comment}
    (commentDots : ∀ c ∈ Comment.written comment_, isDot c = true) :
    quotedValue.first (quote :: (value ++ quote :: (trail ++ Comment.written comment_))) =
      some value := by
  have passes : ∀ captured : List Char, ∀ c ∈ value, ∀ rest,
      (quotedEnd quote >>= fun _ => pure captured).ways (c :: rest) = [] := by
    intro captured c mem rest
    rw [ways_bind, quotedEnd_of_ne]
    · rfl
    · rintro rfl
      exact apart mem
  obtain ⟨others, ways⟩ := lazyMany_bind_append dots passes
  unfold Pattern.first
  rw [quotedValue_ways quote_, ways, ways_bind, quotedEnd_ways quote spaces commentDots]
  rfl

/-- Whatever is matched ends before a quote. -/
theorem of_quotedValue_first {quote : Char} (quote_ : isQuote quote = true) {text value : List Char}
    (matched : quotedValue.first (quote :: text) = some value) :
    ∃ rest, text = value ++ quote :: rest := by
  obtain ⟨way, head, rfl⟩ := Option.map_eq_some_iff.mp matched
  have mem := List.mem_of_mem_head? head
  rw [quotedValue_ways quote_, ways_bind, List.mem_flatMap] at mem
  obtain ⟨found, run, mem⟩ := mem
  rw [ways_bind, List.mem_flatMap] at mem
  obtain ⟨closed, closing, mem⟩ := mem
  rw [ways_pure, List.mem_singleton] at mem
  subst mem
  have split := mem_lazyManyWays run
  cases rest : found.2 with
  | nil =>
      rw [rest] at closing
      cases closing
  | cons c rest' =>
      by_cases same : c = quote
      · refine ⟨rest', ?_⟩
        rw [split, rest, same]
      · rw [rest, quotedEnd_of_ne same] at closing
        cases closing

/-- In front of a quote that is not the closing one there is a backslash or that one. -/
theorem eq_or_mem_of_quote {quote : Char} (quote_ : quote ≠ '\\') {chars : List (QuotedChar quote)}
    {more value rest : List Char}
    (same : chars.flatMap QuotedChar.text ++ quote :: more = value ++ quote :: rest) :
    value = chars.flatMap QuotedChar.text ∨ '\\' ∈ value ∨ quote ∈ value := by
  induction chars generalizing value with
  | nil =>
      cases value with
      | nil => exact .inl rfl
      | cons c value =>
          cases same
          exact .inr (.inr List.mem_cons_self)
  | cons c chars ih =>
      cases c with
      | plain c ok =>
          change c :: (chars.flatMap QuotedChar.text ++ quote :: more) = _ at same
          cases value with
          | nil => exact absurd (List.cons.inj same).1 ok.1
          | cons c' value =>
              obtain ⟨rfl, tail⟩ := List.cons.inj same
              rcases ih tail with whole | escape | closing
              · exact .inl (congrArg (c :: ·) whole)
              · exact .inr (.inl (List.mem_cons_of_mem _ escape))
              · exact .inr (.inr (List.mem_cons_of_mem _ closing))
      | escaped c =>
          change '\\' :: c :: (chars.flatMap QuotedChar.text ++ quote :: more) = _ at same
          cases value with
          | nil => exact absurd (List.cons.inj same).1.symm quote_
          | cons c' value =>
              rw [← (List.cons.inj same).1]
              exact .inr (.inl List.mem_cons_self)

end YoAuthorize.Manager
