import YoAuthorize.Lib.Pattern
import YoAuthorize.Manager.Commands
import YoAuthorize.Manager.EnvGrammar

/-!
# The port of the manager

`parsePort` and `loadManagerPort` of `server.mjs`.  The environment file is read line
by line, and between the lines only the quote of an unfinished value is kept.  Each
regular expression is a pattern of the same shape.
-/

namespace YoAuthorize.Manager

open Backtrack

/-! ## Regular expressions -/

/-- `.` without the flag `s`. -/
def isDot (c : Char) : Bool := !isLineTerminator c

def isFirstDigit (c : Char) : Bool := '1' ≤ c ∧ c ≤ '9'

/-- `[1-9]\d{0,4}`. -/
def port : Pattern Char Unit := do
  let _ ← one isFirstDigit
  upTo isDigit 4

/-- `/^[1-9]\d{0,4}$/`. -/
def literalPort : Pattern Char Unit := do
  port
  atEnd

/-- `/^(?:[1-9]\d{0,4})?$/`. -/
def literalPortOrEmpty : Pattern Char Unit := do
  optional port
  atEnd

/-- `export\s+`. -/
def exportWord : Pattern Char Unit := do
  literal "export".toList
  let _ ← many1 isSpace

/-- `^\s*(?:export\s+)?`. -/
def exportPrefix : Pattern Char Unit := do
  let _ ← many isSpace
  optional exportWord

/-- `(?=\s|=|$)`. -/
def nameEnd : Pattern Char Unit :=
  ahead (orElse (do let _ ← one isSpace) (orElse (do let _ ← one isEquals) atEnd))

/-- `MANAGER_PORT(?=\s|=|$)(.*)$`. -/
def targetName : Pattern Char (List Char) := do
  literal managerPort
  nameEnd
  let rest ← many isDot
  atEnd
  return rest

/-- `/^\s*(?:export\s+)?MANAGER_PORT(?=\s|=|$)(.*)$/`. -/
def target : Pattern Char (List Char) := do
  exportPrefix
  targetName

/-- `/^\s*=\s*(.*)$/`. -/
def assignment : Pattern Char (List Char) := do
  let _ ← many isSpace
  let _ ← one isEquals
  let _ ← many isSpace
  let raw ← many isDot
  atEnd
  return raw

/-- `\1\s*(?:#.*)?$`. -/
def quotedEnd (quote : Char) : Pattern Char Unit := do
  let _ ← one (· = quote)
  let _ ← many isSpace
  optional do
    let _ ← one isHash
    let _ ← many isDot
  atEnd

/-- `/^(['"])(.*?)\1\s*(?:#.*)?$/`. -/
def quotedValue : Pattern Char (List Char) := do
  let quote ← one isQuote
  let value ← lazyMany isDot
  quotedEnd quote
  return value

/-- `#.*$`. -/
def commentText : Pattern Char Unit := do
  let _ ← one isHash
  let _ ← many isDot
  atEnd

/-- `/(?:^|\s+)#.*$/`. -/
def comment (atStart : Bool) : Pattern Char Unit := do
  orElse (if atStart then pure () else fail) (do let _ ← many1 isSpace)
  commentText

/-- `\s*=\s*(['"])`. -/
def equalsQuote : Pattern Char Char := do
  let _ ← many isSpace
  let _ ← one isEquals
  let _ ← many isSpace
  one isQuote

/-- `[A-Za-z_][A-Za-z0-9_]*\s*=\s*(['"])`. -/
def otherName : Pattern Char Char := do
  let _ ← one isNameStart
  let _ ← many isNameChar
  equalsQuote

/-- `/^\s*(?:export\s+)?[A-Za-z_][A-Za-z0-9_]*\s*=\s*(['"])/`. -/
def other : Pattern Char Char := do
  exportPrefix
  otherName

/-! ## `parsePort` -/

/-- `Number` of a text of digits. -/
def number (text : List Char) : Nat :=
  text.foldl (fun value digit => 10 * value + (digit.toNat - 48)) 0

def defaultPort : List Char := "5002".toList

def invalidPort : Fault := { message := "MANAGER_PORT must be an integer from 1 to 65535." }

def parsePort (value : Option (List Char)) : Except Fault Nat :=
  let value := value.getD defaultPort
  if ¬ literalPort.test value ∨ number value > 65535 then .error invalidPort
  else .ok (number value)

/-- `value || undefined`. -/
def orUndefined (value : List Char) : Option (List Char) := if value = [] then none else some value

/-! ## `loadManagerPort` -/

def unreadableFile : Fault where
  message := "Cannot read remote/deploy/.env for MANAGER_PORT. Check file permissions or set " ++
    "MANAGER_PORT in the process environment."

def invalidEntry : Fault where
  message := "Invalid MANAGER_PORT in remote/deploy/.env. Use a literal integer from 1 to 65535 " ++
    "(or empty for 5002); interpolation, escapes and multiline values are unsupported. Set " ++
    "MANAGER_PORT in the process environment to override."

/-- `raw.startsWith("'") || raw.startsWith('"')`. -/
def startsQuoted (raw : List Char) : Bool := raw.head?.any isQuote

/-- The value that is assigned, by what follows the name. -/
def assignedValue (raw : List Char) : Option (List Char) :=
  if startsQuoted raw then quotedValue.first raw
  else some (trim (replaceFirst comment true raw))

/-- The checks on the value of an entry. -/
def valuePort (value : List Char) : Except Fault Nat :=
  if ¬ literalPortOrEmpty.test value ∨ number value > 65535 then .error invalidEntry
  else parsePort (orUndefined value)

/-- The port of an entry, by what follows the name. -/
def entryPort (rest : List Char) : Except Fault Nat :=
  let assigned := assignment.first rest
  match assigned, assignedValue (assigned.getD []) with
  | some _, some value => valuePort value
  | _, _ => .error invalidEntry

/-- The `for` loop over the characters of a line: the quote that is still to be closed. -/
def scanQuote (quote : Char) : List Char → Option Char
  | [] => some quote
  | '\\' :: rest =>
      match rest with
      | [] => some quote
      | _ :: rest => scanQuote quote rest
  | c :: rest => if c = quote then none else scanQuote quote rest

/-- The `for` loop over the lines. -/
def scanLines (port : Nat) (quote : Option Char) : List (List Char) → Except Fault Nat
  | [] => .ok port
  | line :: lines =>
      match quote with
      | some quote => scanLines port (scanQuote quote line) lines
      | none =>
          match target.first line with
          | some rest =>
              match entryPort rest with
              | .error fault => .error fault
              | .ok port => scanLines port none lines
          | none =>
              match (other.ways line).head? with
              | none => scanLines port none lines
              | some (quote, rest) => scanLines port (scanQuote quote rest) lines

/-- `loadManagerPort`; `override` is the variable of the process, and a file that cannot be
read gives the code of its error. -/
def loadManagerPort (override : Option (List Char)) (readEnvFile : Except String (List Char)) :
    Except Fault Nat :=
  match override with
  | some value => parsePort (orUndefined value)
  | none =>
      match readEnvFile with
      | .error code => if code = "ENOENT" then parsePort none else .error unreadableFile
      | .ok text => scanLines 5002 none (splitLines text)

/-- The runs of the test `port.test.mjs`. -/
example : (["MANAGER_PORT=5012", " \texport MANAGER_PORT = 5012 \t# local",
    "MANAGER_PORT=\"5012\" # local", "MANAGER_PORT='5012'# local", "\ufeffMANAGER_PORT=5012\r\n",
    "MANAGER_PORT=5012\nMANAGER_PORT= \t# default", "MANAGER_PORT=\"5012\n\"", "MANAGER_PORT=05012",
    "SECRET='first \\' still quoted\nMANAGER_PORT=6010\nlast'\nMANAGER_PORT=5012"].map fun text =>
      loadManagerPort none (.ok text.toList)) =
    [.ok 5012, .ok 5012, .ok 5012, .ok 5012, .ok 5012, .ok 5002, .error invalidEntry,
      .error invalidEntry, .ok 5012] := by
  decide +kernel

end YoAuthorize.Manager
