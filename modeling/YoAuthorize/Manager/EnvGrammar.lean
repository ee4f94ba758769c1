import Mathlib.Data.Nat.Digits.Defs
import YoAuthorize.Manager.Text

/-!
# Environment files

The files that `remote/deploy/.env` may be: blank lines, comments and entries, where a
value is unquoted on one line, or quoted, with backslash escapes and over any number of
lines.  A line ends with a line feed, and a carriage return before it belongs to that
end; everywhere else a carriage return is white space.  Every part carries what makes it
that part, so any value of these types is such a file.  `Promised` is what a reader of
the port owes to them.
-/

namespace YoAuthorize.Manager

/-! ## Characters -/

/-- White space within a line; a carriage return, U+2028 and U+2029 end none. -/
def isBlank (c : Char) : Bool := isSpace c ∧ c ≠ '\n'

def isDigit (c : Char) : Bool := '0' ≤ c ∧ c ≤ '9'

def isNameStart (c : Char) : Bool := ('A' ≤ c ∧ c ≤ 'Z') ∨ ('a' ≤ c ∧ c ≤ 'z') ∨ c = '_'

def isNameChar (c : Char) : Bool := isNameStart c ∨ isDigit c

def isQuote (c : Char) : Bool := c = '\'' ∨ c = '"'

def isEquals (c : Char) : Bool := c = '='

def isHash (c : Char) : Bool := c = '#'

/-! ## Entries -/

abbrev Blanks : Type := { text : List Char // ∀ c ∈ text, isBlank c = true }

structure Name : Type where
  first : Char
  rest : List Char
  start : isNameStart first = true
  chars : ∀ c ∈ rest, isNameChar c = true

def Name.text (name : Name) : List Char := name.first :: name.rest

inductive Quote : Type
  | single
  | double
  deriving DecidableEq

def Quote.char : Quote → Char
  | .single => '\''
  | .double => '"'

/-- A character between quotes; what is escaped may be anything. -/
inductive QuotedChar (quote : Char) : Type
  | plain (c : Char) (ok : c ≠ quote ∧ c ≠ '\\')
  | escaped (c : Char)

def QuotedChar.text {quote : Char} : QuotedChar quote → List Char
  | .plain c _ => [c]
  | .escaped c => ['\\', c]

/-- A value without quotes: it ends with its line or before a comment, and the white space
around it is not part of it. -/
structure Unquoted : Type where
  text : List Char
  line : '\n' ∉ text
  starts : ∀ c ∈ text.head?, isSpace c = false ∧ isQuote c = false ∧ isHash c = false
  ends : ∀ c ∈ text.getLast?, isSpace c = false
  comment : ∀ before c after, text = before ++ c :: '#' :: after → isBlank c = false

inductive Value : Type
  | unquoted (value : Unquoted)
  | quoted (quote : Quote) (chars : List (QuotedChar quote.char))

/-- The value as it is written, without its quotes. -/
def Value.text : Value → List Char
  | .unquoted value => value.text
  | .quoted _ chars => chars.flatMap QuotedChar.text

/-- The value with its quotes. -/
def Value.written : Value → List Char
  | .unquoted value => value.text
  | .quoted quote chars => quote.char :: (chars.flatMap QuotedChar.text ++ [quote.char])

/-- A comment behind a value. -/
structure Comment : Type where
  text : List Char
  line : '\n' ∉ text

def Comment.written : Option Comment → List Char
  | none => []
  | some comment => '#' :: comment.text

/-- `NAME=value` or `export NAME=value`. -/
structure Entry : Type where
  lead : Blanks
  exported : Option { blanks : Blanks // blanks.val ≠ [] }
  name : Name
  before : Blanks
  after : Blanks
  value : Value
  trail : Blanks
  comment : Option Comment
  separated : ∀ text, value = .unquoted text → text.text ≠ [] → comment ≠ none → trail.val ≠ []

def Entry.exportText (entry : Entry) : List Char :=
  match entry.exported with
  | none => []
  | some blanks => "export".toList ++ blanks.val.val

/-- What stands behind the name. -/
def Entry.assignment (entry : Entry) : List Char :=
  entry.before.val ++ '=' :: (entry.after.val ++ (entry.value.written ++
    (entry.trail.val ++ Comment.written entry.comment)))

def Entry.text (entry : Entry) : List Char :=
  entry.lead.val ++ (entry.exportText ++ (entry.name.text ++ entry.assignment))

/-- What stands behind the name in the line of the name. -/
def Entry.firstLine (entry : Entry) : List Char := (splitLines entry.assignment).headD []

/-- A line terminator of JavaScript that ends no line stands behind the name, be it in the
value, in the white space around it or in the comment. -/
def Entry.Hidden (entry : Entry) : Prop :=
  ∃ c ∈ entry.firstLine, isLineTerminator c = true

instance : DecidablePred Entry.Hidden := fun entry =>
  decidable_of_iff (entry.firstLine.any isLineTerminator = true) List.any_eq_true

/-! ## Files -/

inductive Item : Type
  | blank (blanks : Blanks)
  | comment (lead : Blanks) (behind : Comment)
  | entry (entry : Entry)

def Item.text : Item → List Char
  | .blank blanks => blanks.val
  | .comment lead behind => lead.val ++ '#' :: behind.text
  | .entry assigned => assigned.text

inductive LineEnd : Type
  | lf
  | crlf
  deriving DecidableEq

def LineEnd.text : LineEnd → List Char
  | .lf => ['\n']
  | .crlf => ['\r', '\n']

/-- An item and the end of its last line. -/
structure ItemLine : Type where
  item : Item
  lineEnd : LineEnd
  ends : lineEnd = .lf → ∀ c ∈ item.text.getLast?, c ≠ '\r'

def ItemLine.text (line : ItemLine) : List Char := line.item.text ++ line.lineEnd.text

/-- The items of a file; the last one has no line end. -/
structure EnvFile : Type where
  lines : List ItemLine
  last : Item

def EnvFile.text (file : EnvFile) : List Char :=
  file.lines.flatMap ItemLine.text ++ file.last.text

def EnvFile.items (file : EnvFile) : List Item := file.lines.map ItemLine.item ++ [file.last]

/-! ## The port of a file -/

def managerPort : List Char := "MANAGER_PORT".toList

/-- An entry for the port. -/
def Item.managerPort : Item → Option Entry
  | .entry assigned =>
      if assigned.name.text = Manager.managerPort then some assigned else none
  | _ => none

def EnvFile.managerPorts (file : EnvFile) : List Entry := file.items.filterMap Item.managerPort

/-- The values for the port. -/
def EnvFile.portValues (file : EnvFile) : List (List Char) :=
  file.managerPorts.map fun entry => entry.value.text

/-- A literal integer. -/
def decimal (n : Nat) : List Char :=
  ((Nat.digits 10 n).map fun digit => Char.ofNat (48 + digit)).reverse

/-- The port that a value stands for. -/
def Reads (value : List Char) (port : Nat) : Prop :=
  (value = [] ∧ port = 5002) ∨ (1 ≤ port ∧ port ≤ 65535 ∧ value = decimal port)

/-- One value that is no port makes the reader fail; else the last value is the port. -/
structure Promised {fault : Type} (values : List (List Char)) (result : Except fault Nat) :
    Prop where
  fails : (∃ value ∈ values, ∀ port, ¬ Reads value port) → ∃ error, result = .error error
  returns : (∀ value ∈ values, ∃ port, Reads value port) → ∃ port, result = .ok port ∧
    (values = [] → port = 5002) ∧ ∀ value, values.getLast? = some value → Reads value port

/-- The port that the entries leave, without those that are hidden. -/
def LastSeen (start : Nat) (entries : List Entry) (port : Nat) : Prop :=
  match (entries.filter fun entry => ¬ entry.Hidden).getLast? with
  | none => port = start
  | some entry => Reads entry.value.text port

/-- It would make no difference if the hidden entries were seen. -/
structure Harmless (entries : List Entry) : Prop where
  values : ∀ entry ∈ entries, entry.Hidden → ∃ port, Reads entry.value.text port
  last : ∀ entry, entries.getLast? = some entry → entry.Hidden →
    ∃ port, Reads entry.value.text port ∧ LastSeen 5002 entries port

end YoAuthorize.Manager
