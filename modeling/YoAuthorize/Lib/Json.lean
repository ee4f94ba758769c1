import Mathlib.Data.List.Basic
import Mathlib.Data.List.Nodup

/-!
# JSON texts

A value, its compact text, and a reader that takes one character after the other with
the open arrays and objects on a stack.  Strings are sequences of 16-bit units, which
need not be well formed.  The reader accepts white space anywhere between tokens, the
later of two members with one name, and a value of any depth; it reads the text of a
value back (`parse_render`).
-/

namespace Json

/-! ## Strings -/

abbrev Units : Type := List UInt16

def isHigh (unit : UInt16) : Bool := 0xD800 ≤ unit.toNat ∧ unit.toNat ≤ 0xDBFF

def isLow (unit : UInt16) : Bool := 0xDC00 ≤ unit.toNat ∧ unit.toNat ≤ 0xDFFF

/-- The units of a character. -/
def encodeChar (c : Char) : Units :=
  if c.toNat < 0x10000 then [UInt16.ofNat c.toNat]
  else
    [UInt16.ofNat (0xD800 + (c.toNat - 0x10000) / 0x400),
      UInt16.ofNat (0xDC00 + (c.toNat - 0x10000) % 0x400)]

def encode (text : List Char) : Units := text.flatMap encodeChar

/-- The character of a pair of surrogates. -/
def pairChar (high low : UInt16) : Char :=
  Char.ofNat (0x10000 + (high.toNat - 0xD800) * 0x400 + (low.toNat - 0xDC00))

/-- A text of the units; a surrogate that is alone becomes the replacement character. -/
def decode : Units → List Char
  | [] => []
  | high :: rest =>
      match rest with
      | [] => [if isHigh high ∨ isLow high then '\ufffd' else Char.ofNat high.toNat]
      | low :: rest =>
          if isHigh high ∧ isLow low then pairChar high low :: decode rest
          else
            (if isHigh high ∨ isLow high then '\ufffd' else Char.ofNat high.toNat) ::
              decode (low :: rest)

/-! ## Values -/

/-- A number is kept as its text. -/
inductive Value : Type
  | null
  | bool (value : Bool)
  | number (text : List Char)
  | string (units : Units)
  | array (items : List Value)
  | object (members : List (Units × Value))

/-- The later value of a name replaces the earlier one. -/
def setMember (members : List (Units × Value)) (name : Units) (value : Value) :
    List (Units × Value) :=
  if name ∈ members.map Prod.fst then
    members.map fun member => if member.1 = name then (name, value) else member
  else members ++ [(name, value)]

/-! ## Numerals -/

/-- The part of a numeral that was read last. -/
inductive Phase : Type
  | minus
  | zero
  | integer
  | point
  | fraction
  | exponent
  | sign
  | power
  deriving DecidableEq, Repr

def isDigit (c : Char) : Bool := '0' ≤ c ∧ c ≤ '9'

def Phase.first (c : Char) : Option Phase :=
  if c = '-' then some .minus
  else if c = '0' then some .zero
  else if isDigit c then some .integer
  else none

def Phase.next (phase : Phase) (c : Char) : Option Phase :=
  match phase with
  | .minus => if c = '0' then some .zero else if isDigit c then some .integer else none
  | .zero =>
      if c = '.' then some .point else if c = 'e' ∨ c = 'E' then some .exponent else none
  | .integer =>
      if isDigit c then some .integer
      else if c = '.' then some .point
      else if c = 'e' ∨ c = 'E' then some .exponent
      else none
  | .point => if isDigit c then some .fraction else none
  | .fraction =>
      if isDigit c then some .fraction else if c = 'e' ∨ c = 'E' then some .exponent else none
  | .exponent =>
      if c = '+' ∨ c = '-' then some .sign else if isDigit c then some .power else none
  | .sign | .power => if isDigit c then some .power else none

/-- A numeral can end here. -/
def Phase.complete : Phase → Bool
  | .zero | .integer | .fraction | .power => true
  | .minus | .point | .exponent | .sign => false

/-! ## The reader -/

inductive Escape : Type
  | none
  | backslash
  | hex (missing value : Nat)
  deriving DecidableEq, Repr

/-- An array with the items before, or an object with the members before and a name. -/
inductive Frame : Type
  | array (items : List Value)
  | object (members : List (Units × Value)) (name : Units)

/-- What was read last and what is expected.  A string is the name of a member where it has
the members before. -/
inductive Mode : Type
  | value
  | arrayStart
  | objectStart
  | name (members : List (Units × Value))
  | string (members : Option (List (Units × Value))) (units : Units) (escape : Escape)
  | colon (members : List (Units × Value)) (name : Units)
  | number (phase : Phase) (text : List Char)
  | word (left : List Char) (value : Value)
  | done (value : Value)

structure Reader : Type where
  frames : List Frame := []
  mode : Mode := .value

def isSpace (c : Char) : Bool := c = ' ' ∨ c = '\t' ∨ c = '\n' ∨ c = '\r'

/-- The first character of a value. -/
def startValue (frames : List Frame) (c : Char) : Option Reader :=
  if c = '{' then some { frames, mode := .objectStart }
  else if c = '[' then some { frames := .array [] :: frames, mode := .arrayStart }
  else if c = '"' then some { frames, mode := .string none [] .none }
  else if c = 't' then some { frames, mode := .word "rue".toList (.bool true) }
  else if c = 'f' then some { frames, mode := .word "alse".toList (.bool false) }
  else if c = 'n' then some { frames, mode := .word "ull".toList .null }
  else (Phase.first c).map fun phase => { frames, mode := .number phase [c] }

/-- After a value. -/
def afterValue (frames : List Frame) (value : Value) (c : Char) : Option Reader :=
  if isSpace c then some { frames, mode := .done value }
  else
    match frames with
    | [] => none
    | .array items :: frames =>
        if c = ',' then some { frames := .array (items ++ [value]) :: frames }
        else if c = ']' then some { frames, mode := .done (.array (items ++ [value])) }
        else none
    | .object members name :: frames =>
        if c = ',' then some { frames, mode := .name (setMember members name value) }
        else if c = '}' then
          some { frames, mode := .done (.object (setMember members name value)) }
        else none

def hexValue (c : Char) : Option Nat :=
  if isDigit c then some (c.toNat - 48)
  else if 'a' ≤ c ∧ c ≤ 'f' then some (c.toNat - 87)
  else if 'A' ≤ c ∧ c ≤ 'F' then some (c.toNat - 55)
  else none

/-- The unit of a short escape. -/
def shortEscape (c : Char) : Option UInt16 :=
  if c = '"' then some 0x22
  else if c = '\\' then some 0x5C
  else if c = '/' then some 0x2F
  else if c = 'b' then some 0x08
  else if c = 'f' then some 0x0C
  else if c = 'n' then some 0x0A
  else if c = 'r' then some 0x0D
  else if c = 't' then some 0x09
  else none

/-- Outside of an escape. -/
def stepPlain (frames : List Frame) (members : Option (List (Units × Value))) (units : Units)
    (c : Char) : Option Reader :=
  if c = '"' then
    match members with
    | none => some { frames, mode := .done (.string units) }
    | some members => some { frames, mode := .colon members units }
  else if c = '\\' then some { frames, mode := .string members units .backslash }
  else if c < ' ' then none
  else some { frames, mode := .string members (units ++ encodeChar c) .none }

def stepBackslash (frames : List Frame) (members : Option (List (Units × Value)))
    (units : Units) (c : Char) : Option Reader :=
  if c = 'u' then some { frames, mode := .string members units (.hex 3 0) }
  else (shortEscape c).map fun unit => { frames, mode := .string members (units ++ [unit]) .none }

/-- One more digit, after which so many are missing. -/
def stepHex (frames : List Frame) (members : Option (List (Units × Value))) (units : Units)
    (missing value : Nat) (c : Char) : Option Reader :=
  (hexValue c).map fun digit =>
    { frames
      mode :=
        if missing = 0 then .string members (units ++ [UInt16.ofNat (16 * value + digit)]) .none
        else .string members units (.hex (missing - 1) (16 * value + digit)) }

def stepNumber (frames : List Frame) (phase : Phase) (text : List Char) (c : Char) :
    Option Reader :=
  match phase.next c with
  | some phase => some { frames, mode := .number phase (text ++ [c]) }
  | none => if phase.complete then afterValue frames (.number text) c else none

def Reader.step (reader : Reader) (c : Char) : Option Reader :=
  match reader.mode with
  | .value => if isSpace c then some reader else startValue reader.frames c
  | .arrayStart =>
      if isSpace c then some reader
      else if c = ']' then some { frames := reader.frames.tail, mode := .done (.array []) }
      else startValue reader.frames c
  | .objectStart =>
      if isSpace c then some reader
      else if c = '}' then some { reader with mode := .done (.object []) }
      else if c = '"' then some { reader with mode := .string (some []) [] .none }
      else none
  | .name members =>
      if isSpace c then some reader
      else if c = '"' then some { reader with mode := .string (some members) [] .none }
      else none
  | .string members units .none => stepPlain reader.frames members units c
  | .string members units .backslash => stepBackslash reader.frames members units c
  | .string members units (.hex missing value) =>
      stepHex reader.frames members units missing value c
  | .colon members name =>
      if isSpace c then some reader
      else if c = ':' then some { frames := .object members name :: reader.frames }
      else none
  | .number phase text => stepNumber reader.frames phase text c
  | .word [] value => afterValue reader.frames value c
  | .word (expected :: left) value =>
      if c = expected then
        some { reader with mode := if left = [] then .done value else .word left value }
      else none
  | .done value => afterValue reader.frames value c

/-- The value of a whole text. -/
def Reader.result (reader : Reader) : Option Value :=
  match reader.frames, reader.mode with
  | [], .done value => some value
  | [], .number phase text => if phase.complete then some (.number text) else none
  | _, _ => none

def Reader.run (reader : Reader) (text : List Char) : Option Reader :=
  text.foldlM Reader.step reader

def parse (text : List Char) : Option Value := (Reader.run {} text).bind Reader.result

/-! ## The text of a value -/

def hexDigit (digit : Nat) : Char :=
  Char.ofNat (if digit < 10 then 48 + digit else 87 + digit)

/-- The escape of a unit by its number. -/
def hexEscape (unit : UInt16) : List Char :=
  ['\\', 'u', hexDigit (unit.toNat / 4096), hexDigit (unit.toNat / 256 % 16),
    hexDigit (unit.toNat / 16 % 16), hexDigit (unit.toNat % 16)]

def shortEscapes : List (UInt16 × Char) :=
  [(0x08, 'b'), (0x09, 't'), (0x0A, 'n'), (0x0C, 'f'), (0x0D, 'r'), (0x22, '"'), (0x5C, '\\')]

def quoteUnit (unit : UInt16) : List Char :=
  match shortEscapes.find? fun entry => entry.1 = unit with
  | some entry => ['\\', entry.2]
  | none =>
      if unit.toNat < 0x20 ∨ isHigh unit ∨ isLow unit then hexEscape unit
      else [Char.ofNat unit.toNat]

def quoteUnits : Units → List Char
  | [] => []
  | high :: rest =>
      match rest with
      | [] => quoteUnit high
      | low :: rest =>
          if isHigh high ∧ isLow low then pairChar high low :: quoteUnits rest
          else quoteUnit high ++ quoteUnits (low :: rest)

def quote (units : Units) : List Char := '"' :: quoteUnits units ++ ['"']

mutual

def render : Value → List Char
  | .null => "null".toList
  | .bool true => "true".toList
  | .bool false => "false".toList
  | .number text => text
  | .string units => quote units
  | .array [] => ['[', ']']
  | .array (item :: items) => '[' :: render item ++ renderItems items ++ [']']
  | .object [] => ['{', '}']
  | .object ((name, value) :: members) =>
      '{' :: quote name ++ ':' :: render value ++ renderMembers members ++ ['}']

def renderItems : List Value → List Char
  | [] => []
  | item :: items => ',' :: render item ++ renderItems items

def renderMembers : List (Units × Value) → List Char
  | [] => []
  | (name, value) :: members => ',' :: quote name ++ ':' :: render value ++ renderMembers members

end

/-! ## Reading strings back -/

theorem run_append {reader reader' : Reader} {text rest : List Char}
    (front : reader.run text = some reader') : reader.run (text ++ rest) = reader'.run rest := by
  unfold Reader.run at front ⊢
  rw [List.foldlM_append, front]
  rfl

theorem run_cons {reader reader' : Reader} {c : Char} {rest : List Char}
    (stepped : reader.step c = some reader') : reader.run (c :: rest) = reader'.run rest := by
  unfold Reader.run
  rw [List.foldlM_cons, stepped]
  rfl

theorem hexValue_hexDigit {digit : Nat} (small : digit < 16) :
    hexValue (hexDigit digit) = some digit := by
  revert digit
  decide

theorem unit_lt (unit : UInt16) : unit.toNat < 65536 := unit.toNat_lt

section Strings

variable (frames : List Frame) (members : Option (List (Units × Value))) (units : Units)

theorem run_hexEscape (unit : UInt16) :
    Reader.run { frames, mode := .string members units .none } (hexEscape unit) =
      some { frames, mode := .string members (units ++ [unit]) .none } := by
  have bound := unit_lt unit
  have digits : 16 * (16 * (16 * (16 * 0 + unit.toNat / 4096) + unit.toNat / 256 % 16) +
      unit.toNat / 16 % 16) + unit.toNat % 16 = unit.toNat := by omega
  have value : UInt16.ofNat (16 * (16 * (16 * (16 * 0 + unit.toNat / 4096) +
      unit.toNat / 256 % 16) + unit.toNat / 16 % 16) + unit.toNat % 16) = unit := by
    rw [digits]
    exact UInt16.ofNat_toNat
  have next (missing value : Nat) {digit : Nat} (small : digit < 16) :
      Reader.step { frames, mode := .string members units (.hex (missing + 1) value) }
          (hexDigit digit) =
        some { frames, mode := .string members units (.hex missing (16 * value + digit)) } := by
    change stepHex frames members units (missing + 1) value (hexDigit digit) = _
    rw [stepHex, hexValue_hexDigit small]
    rfl
  have last (value : Nat) {digit : Nat} (small : digit < 16) :
      Reader.step { frames, mode := .string members units (.hex 0 value) } (hexDigit digit) =
        some { frames, mode := .string members
                (units ++ [UInt16.ofNat (16 * value + digit)]) .none } := by
    change stepHex frames members units 0 value (hexDigit digit) = _
    rw [stepHex, hexValue_hexDigit small]
    rfl
  rw [hexEscape, @run_cons _ { frames, mode := .string members units .backslash } _ _ rfl,
    @run_cons _ { frames, mode := .string members units (.hex 3 0) } _ _ rfl,
    run_cons (next 2 0 (by omega)), run_cons (next 1 _ (by omega)), run_cons (next 0 _ (by omega)),
    run_cons (last _ (by omega)), value]
  rfl

theorem run_short {unit : UInt16} {c : Char} (short : shortEscape c = some unit) (other : c ≠ 'u') :
    Reader.run { frames, mode := .string members units .none } ['\\', c] =
      some { frames, mode := .string members (units ++ [unit]) .none } := by
  rw [@run_cons _ { frames, mode := .string members units .backslash } _ _ rfl]
  apply run_cons
  change stepBackslash frames members units c = _
  rw [stepBackslash, if_neg other, short]
  rfl

/-- A character that needs no escape. -/
theorem step_plain {c : Char} (quote_ : c ≠ '"') (backslash : c ≠ '\\') (large : ¬ c < ' ') :
    Reader.step { frames, mode := .string members units .none } c =
      some { frames, mode := .string members (units ++ encodeChar c) .none } := by
  change stepPlain frames members units c = _
  unfold stepPlain
  rw [if_neg quote_, if_neg backslash, if_neg large]

theorem toNat_ofNat_of_valid {n : Nat} (valid : n.isValidChar) : (Char.ofNat n).toNat = n := by
  rw [Char.ofNat, dif_pos valid]
  rfl

theorem shortEscape_of_mem : ∀ entry ∈ shortEscapes,
    shortEscape entry.2 = some entry.1 ∧ entry.2 ≠ 'u' := by
  decide

theorem run_quoteUnit (unit : UInt16) :
    Reader.run { frames, mode := .string members units .none } (quoteUnit unit) =
      some { frames, mode := .string members (units ++ [unit]) .none } := by
  unfold quoteUnit
  split
  · next entry found =>
      have same : entry.1 = unit := by simpa using List.find?_some found
      obtain ⟨short, other⟩ := shortEscape_of_mem entry (List.mem_of_find?_eq_some found)
      rw [same] at short
      exact run_short frames members units short other
  · next none_ =>
      split
      · exact run_hexEscape frames members units unit
      · next plain =>
          simp only [not_or, Bool.not_eq_true] at plain
          obtain ⟨large, high, low⟩ := plain
          have bound := unit_lt unit
          have valid : unit.toNat.isValidChar := by
            simp only [isHigh, isLow, decide_eq_false_iff_not] at high low
            unfold Nat.isValidChar
            omega
          have toNat := toNat_ofNat_of_valid valid
          have short : unit ≠ 0x22 ∧ unit ≠ 0x5C := by
            simp [shortEscapes] at none_
            exact ⟨Ne.symm none_.2.2.2.2.2.1, Ne.symm none_.2.2.2.2.2.2⟩
          have encoded : encodeChar (Char.ofNat unit.toNat) = [unit] := by
            rw [encodeChar, toNat, if_pos bound, UInt16.ofNat_toNat]
          apply run_cons
          rw [step_plain frames members units, encoded]
          · intro same
            apply short.1
            rw [← UInt16.toNat_inj, ← toNat, same]
            rfl
          · intro same
            apply short.2
            rw [← UInt16.toNat_inj, ← toNat, same]
            rfl
          · intro less
            have less : (Char.ofNat unit.toNat).toNat < 0x20 := less
            rw [toNat] at less
            exact large less

/-- A pair of surrogates is written as its character. -/
theorem encodeChar_pairChar {high low : UInt16} (pair : isHigh high = true ∧ isLow low = true) :
    encodeChar (pairChar high low) = [high, low] ∧ ¬ (pairChar high low).toNat < 0x10000 := by
  obtain ⟨high_, low_⟩ := pair
  simp only [isHigh, isLow, decide_eq_true_eq] at high_ low_
  have toNat : (pairChar high low).toNat =
      0x10000 + (high.toNat - 0xD800) * 0x400 + (low.toNat - 0xDC00) := by
    apply toNat_ofNat_of_valid
    unfold Nat.isValidChar
    omega
  have large : ¬ (pairChar high low).toNat < 0x10000 := by omega
  have first : 0xD800 + ((pairChar high low).toNat - 0x10000) / 0x400 = high.toNat := by omega
  have second : 0xDC00 + ((pairChar high low).toNat - 0x10000) % 0x400 = low.toNat := by omega
  refine ⟨?_, large⟩
  rw [encodeChar, if_neg large, first, second, UInt16.ofNat_toNat, UInt16.ofNat_toNat]

theorem run_quoteUnits (more : Units) :
    Reader.run { frames, mode := .string members units .none } (quoteUnits more) =
      some { frames, mode := .string members (units ++ more) .none } := by
  induction more using quoteUnits.induct generalizing units with
  | case1 =>
      rw [List.append_nil]
      rfl
  | case2 high => exact run_quoteUnit frames members units high
  | case3 high low rest pair ih =>
      obtain ⟨encoded, large⟩ := encodeChar_pairChar pair
      have apart (c : Char) (small : c.toNat < 0x10000) : pairChar high low ≠ c := by
        rintro rfl
        exact large small
      have step := step_plain frames members units (apart '"' (by decide)) (apart '\\' (by decide))
        fun less => by
          have less : (pairChar high low).toNat < 0x20 := less
          omega
      rw [quoteUnits, if_pos pair, run_cons step, ih, encoded, List.append_assoc]
      rfl
  | case4 high low rest alone ih =>
      rw [quoteUnits, if_neg alone, run_append (run_quoteUnit frames members units high), ih,
        List.append_assoc]
      rfl

theorem run_quote (name : Units) (rest : List Char) :
    Reader.run { frames, mode := .string members [] .none } (quoteUnits name ++ '"' :: rest) =
      Reader.run
        (match members with
          | none => { frames, mode := .done (.string name) }
          | some members => { frames, mode := .colon members name }) rest := by
  rw [run_append (run_quoteUnits frames members [] name), List.nil_append]
  apply run_cons
  cases members <;> rfl

end Strings

/-! ## Reading values back -/

/-- A text that `Phase` accepts. -/
def IsNumeral (text : List Char) : Prop :=
  ∃ c rest first last, text = c :: rest ∧ Phase.first c = some first ∧
    rest.foldlM Phase.next first = some last ∧ last.complete = true

mutual

/-- Numbers are numerals, and the names of an object are different. -/
def Valid : Value → Prop
  | .null | .bool _ | .string _ => True
  | .number text => IsNumeral text
  | .array items => ValidItems items
  | .object members => (members.map Prod.fst).Nodup ∧ ValidMembers members

def ValidItems : List Value → Prop
  | [] => True
  | item :: items => Valid item ∧ ValidItems items

def ValidMembers : List (Units × Value) → Prop
  | [] => True
  | (_, value) :: members => Valid value ∧ ValidMembers members

end

/-- A reader that has read a value; a numeral may still go on. -/
inductive After (frames : List Frame) : Value → Reader → Prop
  | done (value : Value) : After frames value { frames, mode := .done value }
  | number {phase : Phase} {text : List Char} (complete : phase.complete = true) :
    After frames (.number text) { frames, mode := .number phase text }

theorem Phase.next_separator {phase : Phase} {c : Char} (separator : c ∈ [',', ']', '}']) :
    phase.next c = none := by
  simp only [List.mem_cons, List.not_mem_nil, or_false] at separator
  rcases separator with rfl | rfl | rfl <;> cases phase <;> decide

theorem After.step {frames : List Frame} {value : Value} {reader : Reader}
    (after : After frames value reader) {c : Char} (separator : c ∈ [',', ']', '}']) :
    reader.step c = afterValue frames value c := by
  cases after with
  | done => rfl
  | @number phase text complete =>
      change stepNumber frames phase text c = _
      rw [stepNumber, Phase.next_separator separator]
      exact if_pos complete

theorem After.result {value : Value} {reader : Reader} (after : After [] value reader) :
    reader.result = some value := by
  cases after with
  | done => rfl
  | number complete => exact if_pos complete

theorem run_numeral {frames : List Frame} {phase last : Phase} {rest : List Char}
    (read : rest.foldlM Phase.next phase = some last) (text : List Char) :
    Reader.run { frames, mode := .number phase text } rest =
      some { frames, mode := .number last (text ++ rest) } := by
  induction rest generalizing phase text with
  | nil =>
      cases read
      rw [List.append_nil]
      rfl
  | cons c rest ih =>
      rw [List.foldlM_cons] at read
      obtain ⟨next, stepped, read⟩ := Option.bind_eq_some_iff.mp read
      have step : Reader.step { frames, mode := .number phase text } c =
          some { frames, mode := .number next (text ++ [c]) } := by
        change stepNumber frames phase text c = _
        rw [stepNumber, stepped]
      rw [run_cons step, ih read, List.append_assoc]
      rfl

theorem Phase.first_none :
    ∀ c ∈ [' ', '\t', '\n', '\r', ']', '{', '[', '"', 't', 'f', 'n'], Phase.first c = none := by
  intro c other
  simp only [List.mem_cons, List.not_mem_nil, or_false] at other
  rcases other with rfl | rfl | rfl | rfl | rfl | rfl | rfl | rfl | rfl | rfl | rfl <;> decide

/-- The first character of a numeral starts it. -/
theorem startValue_numeral {c : Char} {phase : Phase} (first : Phase.first c = some phase)
    (frames : List Frame) :
    isSpace c = false ∧ c ≠ ']' ∧
      startValue frames c = some { frames, mode := .number phase [c] } := by
  have other (d : Char)
      (mem : d ∈ [' ', '\t', '\n', '\r', ']', '{', '[', '"', 't', 'f', 'n']) : c ≠ d := by
    intro same
    rw [same, Phase.first_none d mem] at first
    cases first
  refine ⟨?_, other ']' (by decide), ?_⟩
  · rw [isSpace, decide_eq_false_iff_not]
    simp only [not_or]
    exact ⟨other _ (by decide), other _ (by decide), other _ (by decide), other _ (by decide)⟩
  · unfold startValue
    rw [if_neg (other '{' (by decide)), if_neg (other '[' (by decide)),
      if_neg (other '"' (by decide)), if_neg (other 't' (by decide)),
      if_neg (other 'f' (by decide)), if_neg (other 'n' (by decide)), first]
    rfl

/-- A value can start with the text, also where an array could end. -/
def Starts (text : List Char) : Prop :=
  ∃ c rest, text = c :: rest ∧ isSpace c = false ∧ c ≠ ']'

theorem run_arrayStart {text : List Char} (starts : Starts text) (rest : List Char)
    (frames : List Frame) :
    Reader.run { frames, mode := .arrayStart } (text ++ rest) =
      Reader.run { frames, mode := .value } (text ++ rest) := by
  obtain ⟨c, tail, rfl, space, bracket⟩ := starts
  unfold Reader.run
  rw [List.cons_append, List.foldlM_cons, List.foldlM_cons]
  congr 1
  change (if isSpace c = true then _ else if c = ']' then _ else _) = _
  rw [if_neg (by rw [space]; exact Bool.false_ne_true), if_neg bracket]
  change _ = if isSpace c = true then _ else _
  rw [if_neg (by rw [space]; exact Bool.false_ne_true)]

theorem starts_render {value : Value} (valid : Valid value) : Starts (render value) := by
  cases value with
  | number text =>
      obtain ⟨c, rest, phase, last, rfl, first, -⟩ := valid
      obtain ⟨space, bracket, -⟩ := startValue_numeral first []
      exact ⟨c, rest, rfl, space, bracket⟩
  | bool value => cases value <;> exact ⟨_, _, rfl, rfl, by decide⟩
  | array items => cases items <;> exact ⟨_, _, rfl, rfl, by decide⟩
  | object members => cases members <;> exact ⟨_, _, rfl, rfl, by decide⟩
  | null => exact ⟨_, _, rfl, rfl, by decide⟩
  | string units => exact ⟨_, _, rfl, rfl, by decide⟩

theorem setMember_of_new {members : List (Units × Value)} {name : Units}
    (new : name ∉ members.map Prod.fst) (value : Value) :
    setMember members name value = members ++ [(name, value)] := if_neg new

theorem not_mem_of_nodup {before after : List (Units × Value)} {name : Units} {value : Value}
    (names : ((before ++ (name, value) :: after).map Prod.fst).Nodup) :
    name ∉ before.map Prod.fst := by
  rw [List.map_append, List.map_cons, List.nodup_append] at names
  intro mem
  exact names.2.2 name mem name List.mem_cons_self rfl

/-- A name, its colon and the start of its value. -/
theorem run_name (frames : List Frame) (members : List (Units × Value)) (name : Units)
    (rest : List Char) :
    Reader.run { frames, mode := .string (some members) [] .none }
        (quoteUnits name ++ '"' :: ':' :: rest) =
      Reader.run { frames := .object members name :: frames } rest := by
  rw [run_quote frames (some members) name]
  exact run_cons rfl

mutual

/-- A value is read from its text. -/
theorem run_render : (value : Value) → Valid value → (frames : List Frame) →
    ∃ reader, Reader.run { frames, mode := .value } (render value) = some reader ∧
      After frames value reader
  | .null, _, _ => ⟨_, rfl, .done _⟩
  | .bool true, _, _ => ⟨_, rfl, .done _⟩
  | .bool false, _, _ => ⟨_, rfl, .done _⟩
  | .number text, valid, frames => by
      obtain ⟨c, rest, phase, last, rfl, first, read, complete⟩ := valid
      obtain ⟨space, -, start⟩ := startValue_numeral first frames
      have step : Reader.step { frames, mode := .value } c =
          some { frames, mode := .number phase [c] } := by
        change (if isSpace c = true then _ else _) = _
        rw [if_neg (by rw [space]; exact Bool.false_ne_true)]
        exact start
      refine ⟨_, ?_, .number complete⟩
      rw [render, run_cons step]
      exact run_numeral read [c]
  | .string units, _, frames => by
      refine ⟨_, ?_, .done _⟩
      rw [render, quote, List.cons_append,
        @run_cons _ { frames, mode := .string none [] .none } _ _ rfl, run_quote]
      rfl
  | .array [], _, _ => ⟨_, rfl, .done _⟩
  | .array (item :: items), valid, frames => by
      obtain ⟨reader, read, after⟩ := run_render item valid.1 (.array [] :: frames)
      refine ⟨_, ?_, .done _⟩
      rw [render, List.append_assoc, List.cons_append,
        @run_cons _ { frames := .array [] :: frames, mode := .arrayStart } _ _ rfl,
        run_arrayStart (starts_render valid.1), run_append read]
      exact run_renderItems items valid.2 after
  | .object [], _, _ => ⟨_, rfl, .done _⟩
  | .object ((name, value) :: members), valid, frames => by
      obtain ⟨reader, read, after⟩ := run_render value valid.2.1 (.object [] name :: frames)
      refine ⟨_, ?_, .done _⟩
      rw [render, quote]
      simp only [List.cons_append, List.append_assoc, List.nil_append]
      rw [@run_cons _ { frames, mode := .objectStart } _ _ rfl,
        @run_cons _ { frames, mode := .string (some []) [] .none } _ _ rfl, run_name,
        run_append read]
      exact run_renderMembers members valid.2.2 valid.1 after

theorem run_renderItems : (items : List Value) → ValidItems items → {frames : List Frame} →
    {before : List Value} → {last : Value} → {reader : Reader} →
    After (.array before :: frames) last reader →
    Reader.run reader (renderItems items ++ [']']) =
      some { frames, mode := .done (.array (before ++ last :: items)) }
  | [], _, _, _, _, _, after => run_cons (after.step (by decide))
  | item :: items, valid, frames, before, last, _, after => by
      obtain ⟨reader, read, after'⟩ := run_render item valid.1 (.array (before ++ [last]) :: frames)
      rw [renderItems]
      simp only [List.cons_append, List.append_assoc]
      rw [@run_cons _ { frames := .array (before ++ [last]) :: frames } _ _
          (after.step (by decide)), run_append read, run_renderItems items valid.2 after',
        List.append_assoc]
      rfl

theorem run_renderMembers : (members : List (Units × Value)) → ValidMembers members →
    {frames : List Frame} → {before : List (Units × Value)} → {name : Units} → {last : Value} →
    {reader : Reader} → ((before ++ (name, last) :: members).map Prod.fst).Nodup →
    After (.object before name :: frames) last reader →
    Reader.run reader (renderMembers members ++ ['}']) =
      some { frames, mode := .done (.object (before ++ (name, last) :: members)) }
  | [], _, frames, before, name, last, _, names, after => by
      have closed : afterValue (.object before name :: frames) last '}' =
          some { frames, mode := .done (.object (setMember before name last)) } := rfl
      rw [setMember_of_new (not_mem_of_nodup names)] at closed
      exact run_cons ((after.step (by decide)).trans closed)
  | (name', value) :: members, valid, frames, before, name, last, _, names, after => by
      obtain ⟨reader, read, after'⟩ :=
        run_render value valid.1 (.object (before ++ [(name, last)]) name' :: frames)
      have next : afterValue (.object before name :: frames) last ',' =
          some { frames, mode := .name (setMember before name last) } := rfl
      rw [setMember_of_new (not_mem_of_nodup names)] at next
      rw [List.append_cons] at names
      rw [renderMembers, quote]
      simp only [List.cons_append, List.append_assoc, List.nil_append]
      rw [run_cons ((after.step (by decide)).trans next), run_cons rfl, run_name, run_append read,
        run_renderMembers members valid.2 names after', List.append_assoc]
      rfl

end

/-- The text of a value is read as the value. -/
theorem parse_render {value : Value} (valid : Valid value) : parse (render value) = some value := by
  obtain ⟨reader, read, after⟩ := run_render value valid []
  rw [parse, read]
  exact after.result

/-! ## Units of a text -/

theorem decode_plain {unit : UInt16} (high : isHigh unit = false) (low : isLow unit = false)
    (rest : Units) : decode (unit :: rest) = Char.ofNat unit.toNat :: decode rest := by
  cases rest with
  | nil => simp [decode, high, low]
  | cons next rest => simp [decode, high, low]

theorem decode_encodeChar (c : Char) (rest : Units) :
    decode (encodeChar c ++ rest) = c :: decode rest := by
  have valid : c.toNat < 0xD800 ∨ 0xDFFF < c.toNat ∧ c.toNat < 0x110000 := c.valid
  unfold encodeChar
  split
  · next small =>
      have toNat : (UInt16.ofNat c.toNat).toNat = c.toNat := by
        rw [UInt16.toNat_ofNat']
        exact Nat.mod_eq_of_lt small
      have plain :
          isHigh (UInt16.ofNat c.toNat) = false ∧ isLow (UInt16.ofNat c.toNat) = false := by
        simp only [isHigh, isLow, toNat, decide_eq_false_iff_not]
        omega
      rw [List.singleton_append, decode_plain plain.1 plain.2, toNat, Char.ofNat_toNat]
  · next large =>
      have high : (UInt16.ofNat (0xD800 + (c.toNat - 0x10000) / 0x400)).toNat =
          0xD800 + (c.toNat - 0x10000) / 0x400 := by
        rw [UInt16.toNat_ofNat']
        exact Nat.mod_eq_of_lt (by omega)
      have low : (UInt16.ofNat (0xDC00 + (c.toNat - 0x10000) % 0x400)).toNat =
          0xDC00 + (c.toNat - 0x10000) % 0x400 := by
        rw [UInt16.toNat_ofNat']
        exact Nat.mod_eq_of_lt (by omega)
      have pair : isHigh (UInt16.ofNat (0xD800 + (c.toNat - 0x10000) / 0x400)) = true ∧
          isLow (UInt16.ofNat (0xDC00 + (c.toNat - 0x10000) % 0x400)) = true := by
        simp only [isHigh, isLow, high, low, decide_eq_true_eq]
        omega
      have value : 0x10000 + (0xD800 + (c.toNat - 0x10000) / 0x400 - 0xD800) * 0x400 +
          (0xDC00 + (c.toNat - 0x10000) % 0x400 - 0xDC00) = c.toNat := by omega
      rw [List.cons_append, List.singleton_append, decode, if_pos pair, pairChar, high, low, value,
        Char.ofNat_toNat]

theorem decode_encode (text : List Char) : decode (encode text) = text := by
  induction text with
  | nil => rfl
  | cons c text ih => rw [encode, List.flatMap_cons, decode_encodeChar, ← encode, ih]

end Json
