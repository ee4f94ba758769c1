import Mathlib.Logic.Function.Basic
import YoAuthorize.Manager.PortLines

/-!
# Rendering of terminal output

`renderAnsi` of `public/ansi.js`, which shows the output of Docker commands on the
page: a snapshot is cut at its escape sequences, and what lies between them becomes
spans with the style that the `m` sequences have set.  Nothing that a command prints
reaches the page otherwise (`safe_renderText`).
-/

namespace YoAuthorize.Manager

open Backtrack

/-! ## Colours -/

def palette : List String :=
  ["#000000", "#aa0000", "#00aa00", "#aa5500", "#0000aa", "#aa00aa", "#00aaaa", "#aaaaaa",
    "#555555", "#ff5555", "#55ff55", "#ffff55", "#5555ff", "#ff55ff", "#55ffff", "#ffffff"]

def rgb (red green blue : Nat) : String :=
  "rgb(" ++ ", ".intercalate [toString red, toString green, toString blue] ++ ")"

def levels : List Nat := [0, 95, 135, 175, 215, 255]

/-- The colour of the palette of 256 colours; `n` is at most 255. -/
def indexed (n : Nat) : String :=
  if n < 16 then palette.getD n ""
  else if n ≥ 232 then
    let grey := 8 + (n - 232) * 10
    rgb grey grey grey
  else
    let n := n - 16
    rgb (levels.getD (n / 36) 0) (levels.getD (n / 6 % 6) 0) (levels.getD (n % 6) 0)

/-! ## Styles -/

/-- The properties of `style`; those that are not set are deleted. -/
structure Style : Type where
  fontWeight : Option String := none
  opacity : Option String := none
  fontStyle : Option String := none
  textDecoration : Option String := none
  color : Option String := none
  backgroundColor : Option String := none
  deriving DecidableEq, Repr

inductive Ground : Type
  | color
  | backgroundColor
  deriving DecidableEq, Repr

def Style.paint (style : Style) : Ground → Option String → Style
  | .color, value => { style with color := value }
  | .backgroundColor, value => { style with backgroundColor := value }

/-- The codes other than 38 and 48. -/
def applyCode (style : Style) (code : Nat) : Style :=
  if code = 0 then {}
  else if code = 1 then { style with fontWeight := some "bold" }
  else if code = 2 then { style with opacity := some "0.65" }
  else if code = 3 then { style with fontStyle := some "italic" }
  else if code = 4 then { style with textDecoration := some "underline" }
  else if code = 22 then { style with fontWeight := none, opacity := none }
  else if code = 23 then { style with fontStyle := none }
  else if code = 24 then { style with textDecoration := none }
  else if code = 39 then style.paint .color none
  else if code = 49 then style.paint .backgroundColor none
  else if code ≥ 30 ∧ code ≤ 37 then style.paint .color palette[code - 30]?
  else if code ≥ 90 ∧ code ≤ 97 then style.paint .color palette[code - 90 + 8]?
  else if code ≥ 40 ∧ code ≤ 47 then style.paint .backgroundColor palette[code - 40]?
  else if code ≥ 100 ∧ code ≤ 107 then style.paint .backgroundColor palette[code - 100 + 8]?
  else style

/-- What 38 and 48 paint. -/
def selected (code : Nat) : Option Ground :=
  if code = 38 then some .color else if code = 48 then some .backgroundColor else none

/-- The loop over the codes.  After 38 or 48, 5 takes one value and 2 takes three; there is
nothing after values that are missing, and another mode ends the loop. -/
def applyCodes : Style → List Nat → Style
  | style, [] => style
  | style, code :: rest =>
      match selected code with
      | none => applyCodes (applyCode style code) rest
      | some ground =>
          match rest with
          | 5 :: n :: rest =>
              applyCodes (if n ≤ 255 then style.paint ground (some (indexed n)) else style) rest
          | 2 :: red :: green :: blue :: rest =>
              applyCodes
                (if red ≤ 255 ∧ green ≤ 255 ∧ blue ≤ 255 then
                  style.paint ground (some (rgb red green blue)) else style) rest
          | _ => style

def sgr (style : Style) (parameters : List Char) : Style :=
  if parameters.all fun c => isDigit c || c = ';' then
    applyCodes style ((parameters.splitOn ';').map number)
  else style

/-! ## The pattern `escapes` -/

def isParameter (c : Char) : Bool := '0' ≤ c ∧ c ≤ '?'

def isIntermediate (c : Char) : Bool := ' ' ≤ c ∧ c ≤ '/'

def isFinal (c : Char) : Bool := '@' ≤ c ∧ c ≤ '~'

def isEscapeEnd (c : Char) : Bool := '0' ≤ c ∧ c ≤ '~'

def isStringStart (c : Char) : Bool := c = 'P' ∨ c = 'X' ∨ c = '^' ∨ c = '_'

def isControl (c : Char) : Bool :=
  c ≤ '\x08' ∨ c = '\x0b' ∨ c = '\x0c' ∨ ('\x0e' ≤ c ∧ c ≤ '\x1f') ∨ ('\x7f' ≤ c ∧ c ≤ '\u009f')

/-- What is read of a match: `match[0][0]`, and the two groups where they take part. -/
structure Match : Type where
  first : Char
  groups : Option (List Char × List Char) := none
  deriving DecidableEq, Repr

/-- The escape character and another, or one character for both. -/
def introducer (second single : Char) : Pattern Char Char :=
  orElse (do
      let first ← one (· = '\x1b')
      let _ ← one (· = second)
      return first)
    (one (· = single))

/-- `([@-~]|$)` -/
def finalOrEnd : Pattern Char (List Char) :=
  orElse (do
      let c ← one isFinal
      return [c])
    (do
      let _ ← atEnd
      return [])

def csi : Pattern Char Match := do
  let first ← introducer '[' '\u009b'
  let parameters ← many isParameter
  let intermediates ← many isIntermediate
  let final ← finalOrEnd
  return { first, groups := some (parameters ++ intermediates, final) }

/-- `\x1b\\|\x9c|$` -/
def stringEnd : Pattern Char Unit :=
  orElse (literal ['\x1b', '\\']) (orElse (literal ['\u009c']) atEnd)

def osc : Pattern Char Match := do
  let first ← introducer ']' '\u009d'
  let _ ← lazyMany fun _ => true
  let _ ← orElse (literal ['\x07']) stringEnd
  return { first }

def controlString : Pattern Char Match := do
  let first ← one (· = '\x1b')
  let _ ← one isStringStart
  let _ ← lazyMany fun _ => true
  let _ ← stringEnd
  return { first }

def escape : Pattern Char Match := do
  let first ← one (· = '\x1b')
  let _ ← many isIntermediate
  let _ ← optional do
    let _ ← one isEscapeEnd
  return { first }

def control : Pattern Char Match := do
  let first ← one isControl
  return { first }

def carriageReturn : Pattern Char Match := do
  let first ← one (· = '\r')
  let _ ← optional (literal ['\n'])
  return { first }

def escapes : Pattern Char Match :=
  orElse csi (orElse osc (orElse controlString (orElse escape (orElse control carriageReturn))))

/-! ## Rendering -/

structure Span : Type where
  textContent : List Char
  style : Style
  deriving DecidableEq, Repr

def flush (style : Style) (value : List Char) : List Span :=
  if value = [] then [] else [{ textContent := value, style }]

/-- The loop over the matches; the last text is the one after them. -/
def renderMatches (style : Style) : List (List Char × Match) → List Char → List Span
  | [], last => flush style last
  | (slice, found) :: rest, last =>
      match found.groups with
      | some (parameters, ['m']) =>
          flush style slice ++ renderMatches (sgr style parameters) rest last
      | _ =>
          flush style slice ++ (if found.first = '\r' then flush style ['\n'] else []) ++
            renderMatches style rest last

/-- A source is parsed on its own. -/
def renderSource (source : List Char) : List Span :=
  let found := matchAll escapes source
  renderMatches {} found.1 found.2

def isRemnant (c : Char) : Bool := isDigit c ∨ c = ';' ∨ c = ':'

/-- `^(?:\[[\d;:]*|[\d;:]+)m` -/
def remnant (atStart : Bool) : Pattern Char Unit :=
  if atStart then do
    let _ ← orElse (do
        let _ ← one (· = '[')
        many isRemnant)
      (many1 isRemnant)
    literal ['m']
  else fail

def renderText (snapshot : List Char) (truncated : Bool) (suffix : List Char) : List Span :=
  let text := if truncated then replaceFirst remnant true snapshot else snapshot
  renderSource text ++ renderSource suffix

/-- What `snapshots` keeps of a node. -/
structure Snapshot : Type where
  snapshot : List Char
  truncated : Bool
  suffix : List Char
  deriving DecidableEq, Repr

/-- A node of the page, with its entry of `snapshots`. -/
structure Node : Type where
  children : List Span
  previous : Option Snapshot := none
  deriving DecidableEq, Repr

def renderAnsi (node : Node) (snapshot : List Char) (truncated : Bool) (suffix : List Char) :
    Node :=
  if node.previous = some { snapshot, truncated, suffix } then node
  else
    { children := renderText snapshot truncated suffix
      previous := some { snapshot, truncated, suffix } }

example :
    renderText "31m\x1b[1;38;5;196mred\x1b]8;;x\x07\r\n\x1b[mok\x1b[4".toList true "!".toList =
    [{ textContent := "red".toList,
       style := { fontWeight := some "bold", color := some "rgb(255, 0, 0)" } },
     { textContent := ['\n'],
       style := { fontWeight := some "bold", color := some "rgb(255, 0, 0)" } },
     { textContent := "ok".toList, style := {} }, { textContent := ['!'], style := {} }] := by
  decide +kernel

/-! ## Safe text -/

/-- No control character but the tab and the line feed. -/
def isPrinted (c : Char) : Bool :=
  c = '\t' ∨ c = '\n' ∨ (' ' ≤ c ∧ c ≤ '~') ∨ '\u00a0' ≤ c

theorem isPrinted_of_not_control {c : Char} (plain : isControl c = false) (other : c ≠ '\r') :
    isPrinted c = true := by
  simp only [isControl, isPrinted, decide_eq_false_iff_not, decide_eq_true_eq, ne_eq, char_eq_iff,
    char_le_iff] at plain other ⊢
  simp at plain other ⊢
  omega

theorem isPrinted_of_passed {c : Char} {rest : List Char}
    (passed : escapes.ways (c :: rest) = []) : isPrinted c = true := by
  simp only [escapes, orElse, List.append_eq_nil_iff] at passed
  obtain ⟨-, -, -, -, control_, carriageReturn_⟩ := passed
  apply isPrinted_of_not_control
  · by_contra here
    rw [Bool.not_eq_false] at here
    rw [control, ways_bind, one_ways_cons here] at control_
    simp at control_
  · rintro rfl
    rw [carriageReturn, ways_bind, one_ways_cons (p := (· = '\r')) (decide_eq_true rfl),
      List.flatMap_singleton, optional_bind, List.append_eq_nil_iff] at carriageReturn_
    exact absurd carriageReturn_.2 (List.cons_ne_nil _ _)

/-! ## Safe styles -/

def IsColor (value : String) : Prop :=
  value ∈ palette ∨
    ∃ red green blue, red ≤ 255 ∧ green ≤ 255 ∧ blue ≤ 255 ∧ value = rgb red green blue

/-- Only these properties, and only these values of them. -/
structure Style.Safe (style : Style) : Prop where
  fontWeight : ∀ value ∈ style.fontWeight, value = "bold"
  opacity : ∀ value ∈ style.opacity, value = "0.65"
  fontStyle : ∀ value ∈ style.fontStyle, value = "italic"
  textDecoration : ∀ value ∈ style.textDecoration, value = "underline"
  color : ∀ value ∈ style.color, IsColor value
  backgroundColor : ∀ value ∈ style.backgroundColor, IsColor value

theorem levels_le (i : Nat) : levels.getD i 0 ≤ 255 := by
  rcases Nat.lt_or_ge i 6 with small | large
  · revert i
    decide
  · rw [List.getD_eq_getElem?_getD, List.getElem?_eq_none large]
    exact Nat.zero_le _

theorem isColor_indexed {n : Nat} (small : n ≤ 255) : IsColor (indexed n) := by
  unfold indexed
  split
  · next basic =>
      left
      rw [List.getD_eq_getElem?_getD, List.getElem?_eq_getElem basic]
      exact List.getElem_mem basic
  · split
    · right
      refine ⟨_, _, _, ?_, ?_, ?_, rfl⟩ <;> omega
    · exact .inr ⟨_, _, _, levels_le _, levels_le _, levels_le _, rfl⟩

theorem safe_default : ({} : Style).Safe := by
  constructor <;> intro _ mem <;> cases mem

theorem Style.Safe.paint {style : Style} (safe : style.Safe) (ground : Ground)
    {value : Option String} (color : ∀ chosen ∈ value, IsColor chosen) :
    (style.paint ground value).Safe := by
  cases ground with
  | color => exact { safe with color := color }
  | backgroundColor => exact { safe with backgroundColor := color }

theorem isColor_palette {i : Nat} : ∀ chosen ∈ palette[i]?, IsColor chosen :=
  fun _ mem => .inl (List.mem_of_getElem? mem)

theorem Style.Safe.ite {style other : Style} {p : Prop} [Decidable p] (safe : style.Safe)
    (other_ : other.Safe) : (if p then style else other).Safe := by
  by_cases here : p
  · rw [if_pos here]
    exact safe
  · rw [if_neg here]
    exact other_

theorem Style.Safe.applyCode {style : Style} (safe : style.Safe) (code : Nat) :
    (applyCode style code).Safe := by
  have constant {value : String} : ∀ chosen ∈ some value, chosen = value :=
    fun _ mem => (Option.some.inj mem).symm
  have deleted {P : String → Prop} : ∀ chosen ∈ (none : Option String), P chosen :=
    fun _ mem => by cases mem
  unfold Manager.applyCode
  refine Style.Safe.ite safe_default ?_
  refine Style.Safe.ite { safe with fontWeight := constant } ?_
  refine Style.Safe.ite { safe with opacity := constant } ?_
  refine Style.Safe.ite { safe with fontStyle := constant } ?_
  refine Style.Safe.ite { safe with textDecoration := constant } ?_
  refine Style.Safe.ite { safe with fontWeight := deleted, opacity := deleted } ?_
  refine Style.Safe.ite { safe with fontStyle := deleted } ?_
  refine Style.Safe.ite { safe with textDecoration := deleted } ?_
  refine Style.Safe.ite (safe.paint _ deleted) ?_
  refine Style.Safe.ite (safe.paint _ deleted) ?_
  refine Style.Safe.ite (safe.paint _ isColor_palette) ?_
  refine Style.Safe.ite (safe.paint _ isColor_palette) ?_
  refine Style.Safe.ite (safe.paint _ isColor_palette) ?_
  exact Style.Safe.ite (safe.paint _ isColor_palette) safe

theorem Style.Safe.applyCodes {style : Style} (safe : style.Safe) (codes : List Nat) :
    (applyCodes style codes).Safe := by
  induction style, codes using applyCodes.induct with
  | case1 style => exact safe
  | case2 style code rest none_ ih =>
      rw [Manager.applyCodes, none_]
      exact ih (safe.applyCode code)
  | case3 style code ground some_ n rest ih =>
      rw [Manager.applyCodes, some_]
      apply ih
      split
      · next small =>
          apply safe.paint
          intro _ mem
          cases mem
          exact isColor_indexed small
      · exact safe
  | case4 style code ground some_ red green blue rest ih =>
      rw [Manager.applyCodes, some_]
      apply ih
      split
      · next small =>
          apply safe.paint
          intro _ mem
          cases mem
          exact .inr ⟨red, green, blue, small.1, small.2.1, small.2.2, rfl⟩
      · exact safe
  | case5 style code rest ground some_ notIndexed notRgb =>
      rw [Manager.applyCodes, some_]
      simp only
      exact safe

theorem Style.Safe.sgr {style : Style} (safe : style.Safe) (parameters : List Char) :
    (sgr style parameters).Safe := by
  unfold Manager.sgr
  split
  · exact safe.applyCodes _
  · exact safe

/-! ## What the page shows -/

/-- The text of a span is no more than text, and its style no more than a colour or a face. -/
structure Span.Safe (span : Span) : Prop where
  some : span.textContent ≠ []
  printed : ∀ c ∈ span.textContent, isPrinted c = true
  style : span.style.Safe

theorem safe_flush {style : Style} (safe : style.Safe) {value : List Char}
    (printed : ∀ c ∈ value, isPrinted c = true) : ∀ span ∈ flush style value, span.Safe := by
  unfold flush
  split
  · exact List.forall_mem_nil _
  · next some =>
      rw [List.forall_mem_singleton]
      exact ⟨some, printed, safe⟩

theorem safe_renderMatches {style : Style} (safe : style.Safe)
    {slices : List (List Char × Match)} {last : List Char}
    (slices_ : ∀ found ∈ slices, ∀ c ∈ found.1, isPrinted c = true)
    (last_ : ∀ c ∈ last, isPrinted c = true) :
    ∀ span ∈ renderMatches style slices last, span.Safe := by
  induction slices generalizing style with
  | nil => exact safe_flush safe last_
  | cons slice rest ih =>
      rw [List.forall_mem_cons] at slices_
      have slice_ := safe_flush safe slices_.1
      rw [renderMatches]
      split
      · rw [List.forall_mem_append]
        exact ⟨slice_, ih (safe.sgr _) slices_.2⟩
      · rw [List.forall_mem_append, List.forall_mem_append]
        refine ⟨⟨slice_, ?_⟩, ih safe slices_.2⟩
        split
        · apply safe_flush safe
          rw [List.forall_mem_singleton]
          rfl
        · exact List.forall_mem_nil _

theorem safe_renderSource (source : List Char) : ∀ span ∈ renderSource source, span.Safe := by
  have passed := @matchAllFrom_passed _ _ escapes isPrinted (fun _ _ => isPrinted_of_passed) []
    source 0 (List.forall_mem_nil _)
  exact safe_renderMatches safe_default passed.1 passed.2

/-- Whatever the snapshot is. -/
theorem safe_renderText (snapshot : List Char) (truncated : Bool) (suffix : List Char) :
    ∀ span ∈ renderText snapshot truncated suffix, span.Safe := by
  unfold renderText
  rw [List.forall_mem_append]
  exact ⟨safe_renderSource _, safe_renderSource suffix⟩

/-! ## Calls -/

section Calls

variable {ι : Type} [DecidableEq ι]

/-- A call of `renderAnsi`. -/
structure Call (ι : Type) : Type where
  node : ι
  snapshot : List Char
  truncated : Bool := false
  suffix : List Char := []
  deriving DecidableEq

/-- The nodes of a page after a call. -/
def Call.perform (page : ι → Node) (call : Call ι) : ι → Node :=
  Function.update page call.node
    (renderAnsi (page call.node) call.snapshot call.truncated call.suffix)

/-- An entry of `snapshots` is what its node shows. -/
def Node.Current (node : Node) : Prop :=
  ∀ kept ∈ node.previous, node.children = renderText kept.snapshot kept.truncated kept.suffix

theorem Node.Current.renderAnsi {node : Node} (current : node.Current) (snapshot : List Char)
    (truncated : Bool) (suffix : List Char) :
    (renderAnsi node snapshot truncated suffix).Current ∧
      (renderAnsi node snapshot truncated suffix).children =
        renderText snapshot truncated suffix := by
  unfold Manager.renderAnsi
  split
  · next kept => exact ⟨current, current _ kept⟩
  · refine ⟨?_, rfl⟩
    intro kept mem
    cases mem
    rfl

theorem current_of_calls {page : ι → Node} (current : ∀ node, (page node).Current)
    (calls : List (Call ι)) (node : ι) : (calls.foldl Call.perform page node).Current := by
  induction calls generalizing page with
  | nil => exact current node
  | cons call calls ih =>
      apply ih
      intro other
      unfold Call.perform
      by_cases same : other = call.node
      · subst same
        rw [Function.update_self]
        exact ((current call.node).renderAnsi _ _ _).1
      · rw [Function.update_of_ne same]
        exact current other

/-- A node shows the rendering of the last call for it, and nothing of it is unsafe; the other
nodes are as they were. -/
theorem shown_of_calls (page : ι → Node) (fresh : ∀ node, (page node).previous = none)
    (calls : List (Call ι)) (node : ι) :
    ((∀ call ∈ calls, call.node ≠ node) ∧ calls.foldl Call.perform page node = page node) ∨
      ∃ earlier call later, calls = earlier ++ call :: later ∧ call.node = node ∧
        (∀ other ∈ later, other.node ≠ node) ∧
        (calls.foldl Call.perform page node).children =
          renderText call.snapshot call.truncated call.suffix ∧
        ∀ span ∈ (calls.foldl Call.perform page node).children, span.Safe := by
  have current : ∀ node, (page node).Current := by
    intro node kept mem
    rw [fresh] at mem
    cases mem
  induction calls using List.reverseRecOn with
  | nil => exact .inl ⟨List.forall_mem_nil _, rfl⟩
  | append_singleton calls call ih =>
      rw [List.foldl_append, List.foldl_cons, List.foldl_nil, Call.perform]
      by_cases same : node = call.node
      · subst same
        rw [Function.update_self]
        have drawn := ((current_of_calls current calls call.node).renderAnsi call.snapshot
          call.truncated call.suffix).2
        refine .inr ⟨calls, call, [], rfl, rfl, List.forall_mem_nil _, drawn, ?_⟩
        rw [drawn]
        exact safe_renderText _ _ _
      · rw [Function.update_of_ne same]
        rcases ih with ⟨untouched, kept⟩ | ⟨earlier, last, later, rfl, here, others, drawn⟩
        · refine .inl ⟨?_, kept⟩
          rw [List.forall_mem_append, List.forall_mem_singleton]
          exact ⟨untouched, Ne.symm same⟩
        · refine .inr ⟨earlier, last, later ++ [call], by simp, here, ?_, drawn⟩
          rw [List.forall_mem_append, List.forall_mem_singleton]
          exact ⟨others, Ne.symm same⟩

/-- Two panes that are written in turns, one of them with the same text again. -/
theorem shown_of_calls_twice :
    let page : Bool → Node := fun _ => { children := [] }
    let calls := [{ node := true, snapshot := "a\x1b[1mb".toList },
      { node := false, snapshot := "<b>".toList },
      { node := true, snapshot := "a\x1b[1mb".toList }]
    (calls.foldl Call.perform page true).children = renderText "a\x1b[1mb".toList false [] ∧
      ∀ span ∈ (calls.foldl Call.perform page true).children, span.Safe := by
  intro page calls
  rcases shown_of_calls page (fun _ => rfl) calls true with ⟨untouched, -⟩ | shown
  · exact absurd rfl (untouched _ List.mem_cons_self)
  · obtain ⟨_, _, _, -, -, -, -, safe⟩ := shown
    refine ⟨?_, safe⟩
    decide +kernel

end Calls

end YoAuthorize.Manager
