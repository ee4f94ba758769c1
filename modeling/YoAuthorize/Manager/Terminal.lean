import Mathlib.Data.Fintype.Basic
import Mathlib.Tactic.FinCases
import YoAuthorize.Manager.Ansi

/-!
# What a terminal shows

The page is no terminal, but where a command only writes text and sets colours it
shows what a terminal would (`cells_renderSource`).  A pen is what the codes of the
`m` sequences change, and the display of a stream is its characters, each with the
pen it was written with.  The other sequences of a stream show nothing.

This terminal only prints.  A carriage return on its own begins a new line and
nothing moves the cursor.  An `m` sequence sets the faces and colours of `Pen`: its
other codes, such as 5 and 7, and its forms with colons change nothing.  A device
control string and its like begin with two characters; their single 8-bit forms are
controls, and what follows one of these is printed.  The text is whole: where it was
cut is the matter of `Remnant`.
-/

namespace YoAuthorize.Manager

open Backtrack

/-! ## Pens -/

inductive Colour : Type
  | basic (n : Fin 8)
  | bright (n : Fin 8)
  | indexed (n : Fin 256)
  | rgb (red green blue : Fin 256)
  deriving DecidableEq, Repr

structure Pen : Type where
  bold : Bool := false
  faint : Bool := false
  italic : Bool := false
  underline : Bool := false
  foreground : Option Colour := none
  background : Option Colour := none
  deriving DecidableEq, Repr

def Pen.paint (pen : Pen) : Ground → Option Colour → Pen
  | .color, colour => { pen with foreground := colour }
  | .backgroundColor, colour => { pen with background := colour }

/-- A code that changes nothing. -/
def Ignored (code : Nat) : Prop :=
  code ∉ [0, 1, 2, 3, 4, 22, 23, 24, 38, 39, 48, 49] ∧ ¬ (30 ≤ code ∧ code ≤ 37) ∧
    ¬ (90 ≤ code ∧ code ≤ 97) ∧ ¬ (40 ≤ code ∧ code ≤ 47) ∧ ¬ (100 ≤ code ∧ code ≤ 107)

inductive Rendition : Type
  | reset
  | bold
  | faint
  | italic
  | underline
  | normalIntensity
  | notItalic
  | notUnderlined
  | paint (ground : Ground) (colour : Colour)
  | unpaint (ground : Ground)
  | other (code : Nat) (ignored : Ignored code)

def Rendition.apply (pen : Pen) : Rendition → Pen
  | .reset => {}
  | .bold => { pen with bold := true }
  | .faint => { pen with faint := true }
  | .italic => { pen with italic := true }
  | .underline => { pen with underline := true }
  | .normalIntensity => { pen with bold := false, faint := false }
  | .notItalic => { pen with italic := false }
  | .notUnderlined => { pen with underline := false }
  | .paint ground colour => pen.paint ground (some colour)
  | .unpaint ground => pen.paint ground none
  | .other _ _ => pen

/-- The first codes of the basic and of the bright colours, and the code of the others. -/
def Ground.codes : Ground → Nat × Nat × Nat
  | .color => (30, 90, 38)
  | .backgroundColor => (40, 100, 48)

def Colour.codes (ground : Ground) : Colour → List Nat
  | .basic n => [ground.codes.1 + n]
  | .bright n => [ground.codes.2.1 + n]
  | .indexed n => [ground.codes.2.2, 5, n]
  | .rgb red green blue => [ground.codes.2.2, 2, red, green, blue]

def Rendition.codes : Rendition → List Nat
  | .reset => [0]
  | .bold => [1]
  | .faint => [2]
  | .italic => [3]
  | .underline => [4]
  | .normalIntensity => [22]
  | .notItalic => [23]
  | .notUnderlined => [24]
  | .paint ground colour => colour.codes ground
  | .unpaint .color => [39]
  | .unpaint .backgroundColor => [49]
  | .other code _ => [code]

/-! ## Pens as styles -/

def Colour.value : Colour → String
  | .basic n => palette.getD n ""
  | .bright n => palette.getD (8 + n) ""
  | .indexed n => Manager.indexed n
  | .rgb red green blue => Manager.rgb red green blue

def Pen.style (pen : Pen) : Style where
  fontWeight := if pen.bold then some "bold" else none
  opacity := if pen.faint then some "0.65" else none
  fontStyle := if pen.italic then some "italic" else none
  textDecoration := if pen.underline then some "underline" else none
  color := pen.foreground.map Colour.value
  backgroundColor := pen.background.map Colour.value

theorem style_paint (pen : Pen) (ground : Ground) (colour : Option Colour) :
    (pen.paint ground colour).style = pen.style.paint ground (colour.map Colour.value) := by
  cases ground <;> rfl

theorem applyCode_basic (style : Style) (ground : Ground) (n : Fin 8) :
    selected (ground.codes.1 + n) = none ∧
      applyCode style (ground.codes.1 + n) =
        style.paint ground (some (Colour.value (.basic n))) := by
  cases ground <;> fin_cases n <;> exact ⟨rfl, rfl⟩

theorem applyCode_bright (style : Style) (ground : Ground) (n : Fin 8) :
    selected (ground.codes.2.1 + n) = none ∧
      applyCode style (ground.codes.2.1 + n) =
        style.paint ground (some (Colour.value (.bright n))) := by
  cases ground <;> fin_cases n <;> exact ⟨rfl, rfl⟩

theorem applyCodes_single {style changed : Style} {code : Nat} {rest : List Nat}
    (single : selected code = none ∧ applyCode style code = changed) :
    applyCodes style ([code] ++ rest) = applyCodes changed rest := by
  rw [List.singleton_append, applyCodes, single.1, single.2]

theorem selected_codes (ground : Ground) : selected ground.codes.2.2 = some ground := by
  cases ground <;> rfl

theorem applyCodes_colour (pen : Pen) (ground : Ground) (colour : Colour) (rest : List Nat) :
    applyCodes pen.style (colour.codes ground ++ rest) =
      applyCodes (pen.paint ground (some colour)).style rest := by
  rw [style_paint, Option.map_some]
  cases colour with
  | basic n => exact applyCodes_single (applyCode_basic _ ground n)
  | bright n => exact applyCodes_single (applyCode_bright _ ground n)
  | indexed n =>
      have small : n.val ≤ 255 := Nat.le_of_lt_succ n.isLt
      rw [Colour.codes, List.cons_append, List.cons_append, List.singleton_append, applyCodes,
        selected_codes]
      exact congrArg (applyCodes · rest) (if_pos small)
  | rgb red green blue =>
      have small : red.val ≤ 255 ∧ green.val ≤ 255 ∧ blue.val ≤ 255 := by omega
      rw [Colour.codes]
      simp only [List.cons_append, List.nil_append]
      rw [applyCodes, selected_codes]
      exact congrArg (applyCodes · rest) (if_pos small)

theorem applyCode_ignored {code : Nat} (ignored : Ignored code) (style : Style) :
    selected code = none ∧ applyCode style code = style := by
  obtain ⟨others, basic, bright, background, brightBackground⟩ := ignored
  simp only [List.mem_cons, List.not_mem_nil, or_false, not_or] at others
  constructor
  · unfold selected
    rw [if_neg (by omega), if_neg (by omega)]
  · unfold applyCode
    repeat rw [if_neg (by omega)]

theorem applyCodes_rendition (pen : Pen) (rendition : Rendition) (rest : List Nat) :
    applyCodes pen.style (rendition.codes ++ rest) =
      applyCodes (rendition.apply pen).style rest := by
  cases rendition with
  | paint ground colour => exact applyCodes_colour pen ground colour rest
  | unpaint ground =>
      rw [Rendition.apply, style_paint]
      cases ground <;> exact applyCodes_single ⟨rfl, rfl⟩
  | other code ignored => exact applyCodes_single (applyCode_ignored ignored _)
  | _ => exact applyCodes_single ⟨rfl, rfl⟩

/-- The codes of the renditions, one after the other, are their effects one after the other. -/
theorem applyCodes_renditions (pen : Pen) (renditions : List Rendition) :
    applyCodes pen.style (renditions.flatMap Rendition.codes) =
      (renditions.foldl Rendition.apply pen).style := by
  induction renditions generalizing pen with
  | nil => rfl
  | cons rendition renditions ih =>
      rw [List.flatMap_cons, applyCodes_rendition]
      exact ih _

/-! ## Streams -/

/-- The two spellings of a control character beyond the basic set. -/
inductive Introducer : Type
  | escaped
  | single
  deriving DecidableEq, Repr

def Introducer.text (second single : Char) : Introducer → List Char
  | .escaped => ['\x1b', second]
  | .single => [single]

def Introducer.first (single : Char) : Introducer → Char
  | .escaped => '\x1b'
  | .single => single

/-- An `m` sequence; its parameters may be written with leading zeros, and a zero as nothing. -/
structure Sgr : Type where
  renditions : List Rendition
  some : renditions ≠ []
  parameters : List (List Char)
  digits : ∀ parameter ∈ parameters, ∀ c ∈ parameter, isDigit c = true
  values : parameters.map number = renditions.flatMap Rendition.codes

def Sgr.text (sgr : Sgr) : List Char := [';'].intercalate sgr.parameters

/-- Another control sequence, which moves the cursor for instance. -/
structure Csi : Type where
  parameters : List Char
  intermediates : List Char
  final : Char
  parameters_ : ∀ c ∈ parameters, isParameter c = true
  intermediates_ : ∀ c ∈ intermediates, isIntermediate c = true
  final_ : isFinal final = true
  other : final = 'm' → ∃ c ∈ parameters ++ intermediates, isDigit c = false ∧ c ≠ ';'

structure Escape : Type where
  intermediates : List Char
  final : Char
  intermediates_ : ∀ c ∈ intermediates, isIntermediate c = true
  final_ : isEscapeEnd final = true
  other : intermediates = [] → final ≠ '[' ∧ final ≠ ']' ∧ isStringStart final = false

/-- What a command writes. -/
inductive Piece : Type
  | text (c : Char) (printed : isPrinted c = true)
  | sgr (introducer : Introducer) (sequence : Sgr)
  | csi (introducer : Introducer) (sequence : Csi)
  | osc (introducer : Introducer) (body : List Char)
      (body_ : ∀ c ∈ body, c ≠ '\x07' ∧ c ≠ '\x1b' ∧ c ≠ '\u009c')
      (terminator : Option Introducer)
  | controlString (start : Char) (start_ : isStringStart start = true) (body : List Char)
      (body_ : ∀ c ∈ body, c ≠ '\x1b' ∧ c ≠ '\u009c') (terminator : Introducer)
  | escape (sequence : Escape)
  | control (c : Char) (control : isControl c = true)
      (other : c ≠ '\x1b' ∧ c ≠ '\u009b' ∧ c ≠ '\u009d')
  | carriageReturn (lineFeed : Bool)

/-- The bell ends an operating system command as a terminator does. -/
def oscEnd : Option Introducer → List Char
  | none => ['\x07']
  | some terminator => terminator.text '\\' '\u009c'

def Piece.written : Piece → List Char
  | .text c _ => [c]
  | .sgr introducer sequence => introducer.text '[' '\u009b' ++ sequence.text ++ ['m']
  | .csi introducer sequence =>
      introducer.text '[' '\u009b' ++ sequence.parameters ++ sequence.intermediates ++
        [sequence.final]
  | .osc introducer body _ terminator =>
      introducer.text ']' '\u009d' ++ body ++ oscEnd terminator
  | .controlString start _ body _ terminator =>
      ['\x1b', start] ++ body ++ terminator.text '\\' '\u009c'
  | .escape sequence => ['\x1b'] ++ sequence.intermediates ++ [sequence.final]
  | .control c _ _ => [c]
  | .carriageReturn lineFeed => if lineFeed then ['\r', '\n'] else ['\r']

def written (stream : List Piece) : List Char := stream.flatMap Piece.written

def Piece.returns : Piece → Bool
  | .carriageReturn lineFeed => !lineFeed
  | _ => false

/-- A line feed after a carriage return belongs to it. -/
def Separate : List Piece → Prop
  | [] => True
  | piece :: rest => (piece.returns = true → (written rest).head? ≠ some '\n') ∧ Separate rest

instance decidableSeparate : (stream : List Piece) → Decidable (Separate stream)
  | [] => isTrue trivial
  | piece :: rest =>
      haveI := decidableSeparate rest
      inferInstanceAs (Decidable
        ((piece.returns = true → (written rest).head? ≠ some '\n') ∧ Separate rest))

/-! ## The display -/

def Piece.pen (pen : Pen) : Piece → Pen
  | .sgr _ sequence => sequence.renditions.foldl Rendition.apply pen
  | _ => pen

def Piece.shown : Piece → List Char
  | .text c _ => [c]
  | .carriageReturn _ => ['\n']
  | _ => []

/-- The characters that are shown, each with its pen. -/
def display : Pen → List Piece → List (Char × Pen)
  | _, [] => []
  | pen, piece :: rest => piece.shown.map (fun c => (c, pen)) ++ display (piece.pen pen) rest

/-- The characters of spans, each with its style. -/
def cells (spans : List Span) : List (Char × Style) :=
  spans.flatMap fun span => span.textContent.map fun c => (c, span.style)

/-! ## Matching a piece -/

theorem introducer_ways {second single : Char} (apart : single ≠ '\x1b') (spelling : Introducer)
    (rest : List Char) :
    (introducer second single).ways (spelling.text second single ++ rest) =
      [(spelling.first single, rest)] := by
  cases spelling <;>
    simp [introducer, orElse, one, Introducer.text, Introducer.first, apart, Ne.symm apart]

theorem introducer_ways_of_other {second single c : Char} {rest : List Char} (first : c ≠ single)
    (next : c = '\x1b' → ∀ d ∈ rest.head?, d ≠ second) :
    (introducer second single).ways (c :: rest) = [] := by
  by_cases escape_ : c = '\x1b'
  · subst escape_
    cases rest with
    | nil => simp [introducer, orElse, one, first]
    | cons d rest =>
        have other : d ≠ second := next rfl d rfl
        simp [introducer, orElse, one, first, other]
  · simp [introducer, orElse, one, first, escape_]

theorem isFinal_apart {c : Char} (final : isFinal c = true) :
    isParameter c = false ∧ isIntermediate c = false := by
  simp only [isFinal, isParameter, isIntermediate, decide_eq_true_eq, decide_eq_false_iff_not,
    char_le_iff] at final ⊢
  simp at final ⊢
  omega

theorem isIntermediate_apart {c : Char} (intermediate : isIntermediate c = true) :
    isParameter c = false ∧ isEscapeEnd c = false ∧ isStringStart c = false ∧ c ≠ '[' ∧
      c ≠ ']' := by
  simp only [isParameter, isIntermediate, isEscapeEnd, isStringStart, decide_eq_true_eq,
    decide_eq_false_iff_not, char_le_iff, char_eq_iff, ne_eq] at intermediate ⊢
  simp at intermediate ⊢
  omega

theorem isParameter_apart {c : Char} (parameter : isParameter c = true) :
    isIntermediate c = false ∧ isFinal c = false := by
  simp only [isFinal, isParameter, isIntermediate, decide_eq_true_eq, decide_eq_false_iff_not,
    char_le_iff] at parameter ⊢
  simp at parameter ⊢
  omega

theorem blocked_finalOrEnd {p : Char → Bool} (apart : ∀ c, p c = true → isFinal c = false)
    (next : List Char → Pattern Char Match) : Blocked p (finalOrEnd >>= next) := by
  apply blocked_orElse
  · exact blocked_bind (blocked_bind (blocked_one apart) _) _
  · exact blocked_bind (blocked_bind (blocked_atEnd p) _) _

/-- A whole control sequence is matched in one way. -/
theorem csi_ways (spelling : Introducer) {parameters intermediates : List Char} {final : Char}
    (parameters_ : ∀ c ∈ parameters, isParameter c = true)
    (intermediates_ : ∀ c ∈ intermediates, isIntermediate c = true)
    (final_ : isFinal final = true) (rest : List Char) :
    csi.ways (spelling.text '[' '\u009b' ++ (parameters ++ (intermediates ++ final :: rest))) =
      [({ first := spelling.first '\u009b',
          groups := some (parameters ++ intermediates, [final]) }, rest)] := by
  have stops : Stops isIntermediate (final :: rest) := stops_cons (isFinal_apart final_).2
  have stops_ : Stops isParameter (intermediates ++ final :: rest) := by
    apply stops_append
    · intro c mem
      exact (isIntermediate_apart (intermediates_ c (List.mem_of_mem_head? mem))).1
    · intro _
      exact stops_cons (isFinal_apart final_).1
  have blocked := blocked_finalOrEnd (p := isIntermediate) fun c intermediate => by
    by_contra final
    rw [Bool.not_eq_false] at final
    rw [(isFinal_apart final).2] at intermediate
    cases intermediate
  rw [csi, ways_bind, introducer_ways (by decide), List.flatMap_singleton]
  dsimp only
  rw [many_bind_append _ parameters_ stops_, many_bind_append _ intermediates_ stops]
  · simp [finalOrEnd, orElse, one, atEnd, final_]
  · intro _
    exact blocked _
  · intro _
    apply blocked_many
    · intro c parameter
      exact (isParameter_apart parameter).1
    · exact blocked_finalOrEnd (fun c parameter => (isParameter_apart parameter).2) _

theorem csi_ways_of_other {c : Char} {rest : List Char} (first : c ≠ '\u009b')
    (next : c = '\x1b' → ∀ d ∈ rest.head?, d ≠ '[') : csi.ways (c :: rest) = [] := by
  rw [csi, ways_bind, introducer_ways_of_other first next]
  rfl

theorem osc_ways_of_other {c : Char} {rest : List Char} (first : c ≠ '\u009d')
    (next : c = '\x1b' → ∀ d ∈ rest.head?, d ≠ ']') : osc.ways (c :: rest) = [] := by
  rw [osc, ways_bind, introducer_ways_of_other first next]
  rfl

theorem stringEnd_ways_of_other {c : Char} (other : c ≠ '\x1b' ∧ c ≠ '\u009c')
    (rest : List Char) : stringEnd.ways (c :: rest) = [] := by
  simp [stringEnd, orElse, literal, one, atEnd, other.1, other.2]

theorem stringEnd_head (terminator : Introducer) (rest : List Char) :
    (stringEnd.ways (terminator.text '\\' '\u009c' ++ rest)).head? = some ((), rest) := by
  cases terminator <;> simp [stringEnd, orElse, literal, one, atEnd, Introducer.text]

theorem osc_head (spelling : Introducer) {body : List Char}
    (body_ : ∀ c ∈ body, c ≠ '\x07' ∧ c ≠ '\x1b' ∧ c ≠ '\u009c')
    (terminator : Option Introducer) (rest : List Char) :
    (osc.ways (spelling.text ']' '\u009d' ++ (body ++ (oscEnd terminator ++ rest)))).head? =
      some ({ first := spelling.first '\u009d' }, rest) := by
  rw [osc, ways_bind, introducer_ways (by decide), List.flatMap_singleton]
  apply head?_lazyMany_bind (fun _ _ => rfl)
  · intro _ c mem rest
    obtain ⟨bell, string⟩ := body_ c mem
    rw [orElse_bind, ways_bind, ways_bind, stringEnd_ways_of_other string]
    simp [literal, one, bell]
  · refine @head?_bind _ _ _ _ _ _ ((), rest) _ ?_ rfl
    cases terminator with
    | none => exact head?_orElse rfl _
    | some terminator =>
        have bell : (literal ['\x07']).ways (terminator.text '\\' '\u009c' ++ rest) = [] := by
          cases terminator <;> simp [literal, one, Introducer.text]
        rw [oscEnd, ways_orElse_of_nil bell]
        exact stringEnd_head terminator rest

theorem controlString_head {start : Char} (start_ : isStringStart start = true)
    {body : List Char} (body_ : ∀ c ∈ body, c ≠ '\x1b' ∧ c ≠ '\u009c') (terminator : Introducer)
    (rest : List Char) :
    (controlString.ways
        ('\x1b' :: start :: (body ++ (terminator.text '\\' '\u009c' ++ rest)))).head? =
      some ({ first := '\x1b' }, rest) := by
  rw [controlString, ways_bind, one_ways_cons (p := (· = '\x1b')) (decide_eq_true rfl),
    List.flatMap_singleton, ways_bind, one_ways_cons start_, List.flatMap_singleton]
  apply head?_lazyMany_bind (fun _ _ => rfl)
  · intro _ c mem rest
    rw [ways_bind, stringEnd_ways_of_other (body_ c mem)]
    rfl
  · exact head?_bind (stringEnd_head terminator rest) rfl

theorem escape_head {intermediates : List Char} {final : Char}
    (intermediates_ : ∀ c ∈ intermediates, isIntermediate c = true)
    (final_ : isEscapeEnd final = true) (rest : List Char) :
    (escape.ways ('\x1b' :: (intermediates ++ final :: rest))).head? =
      some ({ first := '\x1b' }, rest) := by
  have stops : Stops isIntermediate (final :: rest) := by
    apply stops_cons
    by_contra intermediate
    rw [Bool.not_eq_false] at intermediate
    rw [(isIntermediate_apart intermediate).2.1] at final_
    cases final_
  rw [escape, ways_bind, one_ways_cons (p := (· = '\x1b')) (decide_eq_true rfl),
    List.flatMap_singleton]
  apply head?_many_bind intermediates_ stops
  rw [optional_bind, bind_assoc, ways_bind, one_ways_cons final_]
  rfl

/-! ## Effects -/

/-- What a match draws and the style after it. -/
def effect (style : Style) (found : Match) : List Span × Style :=
  match found.groups with
  | some (parameters, ['m']) => ([], sgr style parameters)
  | _ => (if found.first = '\r' then flush style ['\n'] else [], style)

theorem effect_sgr {found : Match} {parameters : List Char}
    (groups : found.groups = some (parameters, ['m'])) (style : Style) :
    effect style found = ([], sgr style parameters) := by
  rw [effect, groups]
  rfl

theorem effect_other {found : Match}
    (groups : ∀ parameters, found.groups ≠ some (parameters, ['m'])) (style : Style) :
    effect style found = (if found.first = '\r' then flush style ['\n'] else [], style) := by
  unfold effect
  split
  · next parameters here => exact absurd here (groups parameters)
  · rfl

theorem cells_append (spans others : List Span) :
    cells (spans ++ others) = cells spans ++ cells others :=
  List.flatMap_append

theorem cells_flush (style : Style) (value : List Char) :
    cells (flush style value) = value.map fun c => (c, style) := by
  unfold flush
  split
  · next empty =>
      rw [empty]
      rfl
  · simp [cells]

theorem cells_renderMatches_cons (style : Style) (slice : List Char) (found : Match)
    (rest : List (List Char × Match)) (last : List Char) :
    cells (renderMatches style ((slice, found) :: rest) last) =
      (slice.map fun c => (c, style)) ++ cells (effect style found).1 ++
        cells (renderMatches (effect style found).2 rest last) := by
  rw [renderMatches]
  split
  · next groups =>
      rw [effect_sgr groups, cells_append, cells_flush]
      simp [cells]
  · next groups =>
      rw [effect_other groups, cells_append, cells_append, cells_flush]

theorem codes_ne_nil (rendition : Rendition) : rendition.codes ≠ [] := by
  cases rendition with
  | paint ground colour => cases colour <;> exact List.cons_ne_nil _ _
  | unpaint ground => cases ground <;> exact List.cons_ne_nil _ _
  | _ => exact List.cons_ne_nil _ _

theorem Sgr.parameters_ne_nil (sequence : Sgr) : sequence.parameters ≠ [] := by
  intro empty
  have values := sequence.values
  rw [empty] at values
  obtain ⟨rendition, mem⟩ := List.exists_mem_of_ne_nil _ sequence.some
  exact codes_ne_nil rendition (List.flatMap_eq_nil_iff.mp values.symm rendition mem)

theorem mem_intercalate_singleton {separator c : Char} {parts : List (List Char)}
    (mem : c ∈ [separator].intercalate parts) : c = separator ∨ ∃ part ∈ parts, c ∈ part := by
  induction parts with
  | nil => cases mem
  | cons part parts ih =>
      cases parts with
      | nil =>
          rw [List.intercalate_singleton] at mem
          exact .inr ⟨part, List.mem_cons_self, mem⟩
      | cons other parts =>
          rw [List.intercalate_cons_cons, List.append_assoc, List.mem_append, List.mem_append,
            List.mem_singleton] at mem
          rcases mem with here | rfl | later
          · exact .inr ⟨part, List.mem_cons_self, here⟩
          · exact .inl rfl
          · rcases ih later with same | ⟨part', mem', here⟩
            · exact .inl same
            · exact .inr ⟨part', List.mem_cons_of_mem _ mem', here⟩

theorem Sgr.mem_text {sequence : Sgr} {c : Char} (mem : c ∈ sequence.text) :
    isDigit c = true ∨ c = ';' := by
  rcases mem_intercalate_singleton mem with separator | ⟨parameter, mem, here⟩
  · exact .inr separator
  · exact .inl (sequence.digits parameter mem c here)

theorem sgr_text (sequence : Sgr) (pen : Pen) :
    sgr pen.style sequence.text = (sequence.renditions.foldl Rendition.apply pen).style := by
  have plain : (sequence.text.all fun c => isDigit c || c = ';') = true := by
    rw [List.all_eq_true]
    intro c mem
    rw [Bool.or_eq_true, decide_eq_true_eq]
    exact Sgr.mem_text mem
  have split : sequence.text.splitOn ';' = sequence.parameters := by
    apply List.splitOn_intercalate
    · intro parameter mem separator
      exact absurd (sequence.digits parameter mem ';' separator) (by decide)
    · exact sequence.parameters_ne_nil
  rw [sgr, if_pos plain, split, sequence.values, applyCodes_renditions]

/-! ## Drawing a piece -/

theorem Csi.effect (sequence : Csi) (style : Style) (first : Char) (other : first ≠ '\r') :
    effect style
        { first, groups := some (sequence.parameters ++ sequence.intermediates,
            [sequence.final]) } = ([], style) := by
  by_cases final : sequence.final = 'm'
  · obtain ⟨c, mem, digit, separator⟩ := sequence.other final
    rw [effect_sgr (by rw [final]), sgr, if_neg]
    intro all
    have plain := List.all_eq_true.mp all c mem
    rw [digit, decide_eq_false separator] at plain
    cases plain
  · rw [effect_other, if_neg other]
    intro parameters same
    injection same with same
    injection same with _ same
    injection same with same
    exact final same

theorem introducer_first {single : Char} (other : single ≠ '\r') (spelling : Introducer) :
    spelling.first single ≠ '\r' := by
  cases spelling with
  | escaped => exact of_decide_eq_false rfl
  | single => exact other

/-- What a sequence is matched with. -/
def Piece.found : Piece → Match
  | .text c _ => { first := c }
  | .sgr spelling sequence =>
      { first := spelling.first '\u009b', groups := some (sequence.text, ['m']) }
  | .csi spelling sequence =>
      { first := spelling.first '\u009b'
        groups := some (sequence.parameters ++ sequence.intermediates, [sequence.final]) }
  | .osc spelling _ _ _ => { first := spelling.first '\u009d' }
  | .controlString _ _ _ _ _ => { first := '\x1b' }
  | .escape _ => { first := '\x1b' }
  | .control c _ _ => { first := c }
  | .carriageReturn _ => { first := '\r' }

theorem effect_plain {c : Char} (other : c ≠ '\r') (style : Style) :
    effect style { first := c } = ([], style) := by
  rw [effect_other (fun _ same => by cases same), if_neg other]

/-- A match draws what the piece shows, and changes the pen as it does. -/
theorem effect_found (piece : Piece) (sequence : ∀ c printed, piece ≠ .text c printed)
    (pen : Pen) :
    cells (effect pen.style piece.found).1 = piece.shown.map (fun c => (c, pen.style)) ∧
      (effect pen.style piece.found).2 = (piece.pen pen).style := by
  cases piece with
  | text c printed => exact absurd rfl (sequence c printed)
  | sgr spelling codes =>
      rw [Piece.found, effect_sgr rfl]
      exact ⟨rfl, sgr_text codes pen⟩
  | csi spelling other =>
      rw [Piece.found, other.effect _ _ (introducer_first (by decide) spelling)]
      exact ⟨rfl, rfl⟩
  | osc spelling body body_ terminator =>
      rw [Piece.found, effect_plain (introducer_first (by decide) spelling)]
      exact ⟨rfl, rfl⟩
  | controlString start start_ body body_ terminator =>
      rw [Piece.found, effect_plain (by decide)]
      exact ⟨rfl, rfl⟩
  | escape other =>
      rw [Piece.found, effect_plain (by decide)]
      exact ⟨rfl, rfl⟩
  | control c control_ other =>
      have notReturn : c ≠ '\r' := by
        rintro rfl
        exact absurd control_ (by decide)
      rw [Piece.found, effect_plain notReturn]
      exact ⟨rfl, rfl⟩
  | carriageReturn lineFeed =>
      rw [Piece.found, effect_other (fun _ same => by cases same), if_pos rfl, cells_flush]
      exact ⟨rfl, rfl⟩

/-! ## Matching a stream -/

theorem escapes_of_other {c : Char} {rest : List Char} (csi_ : csi.ways (c :: rest) = [])
    (osc_ : osc.ways (c :: rest) = []) :
    escapes.ways (c :: rest) =
      (orElse controlString (orElse escape (orElse control carriageReturn))).ways (c :: rest) := by
  rw [escapes, ways_orElse_of_nil csi_, ways_orElse_of_nil osc_]

theorem isParameter_of_mem_text {sequence : Sgr} {c : Char} (mem : c ∈ sequence.text) :
    isParameter c = true := by
  rcases Sgr.mem_text mem with digit | rfl
  · simp only [isDigit, isParameter, decide_eq_true_eq, char_le_iff] at digit ⊢
    simp at digit ⊢
    omega
  · rfl

theorem escape_not_controlString {c : Char} {rest : List Char}
    (next : c = '\x1b' → ∀ d ∈ rest.head?, isStringStart d = false) :
    controlString.ways (c :: rest) = [] := by
  by_cases escape_ : c = '\x1b'
  · subst escape_
    rw [controlString, ways_bind, one_ways_cons (p := (· = '\x1b')) (decide_eq_true rfl),
      List.flatMap_singleton, ways_bind, one_ways_of_stops (next rfl)]
    rfl
  · rw [controlString, ways_bind,
      one_ways_of_stops (p := (· = '\x1b')) (stops_cons (decide_eq_false escape_))]
    rfl

theorem escape_ways_of_other {c : Char} (other : c ≠ '\x1b') (rest : List Char) :
    escape.ways (c :: rest) = [] := by
  rw [escape, ways_bind, one_ways_of_stops (p := (· = '\x1b'))
    (stops_cons (decide_eq_false other))]
  rfl

theorem Escape.next (sequence : Escape) (rest : List Char) :
    ∀ d ∈ (sequence.intermediates ++ sequence.final :: rest).head?,
      d ≠ '[' ∧ d ≠ ']' ∧ isStringStart d = false := by
  intro d mem
  have intermediates := sequence.intermediates_
  have other := sequence.other
  cases here : sequence.intermediates with
  | nil =>
      rw [here] at mem
      cases mem
      exact other here
  | cons c _ =>
      rw [here] at mem intermediates
      cases mem
      obtain ⟨-, -, string, csi_, osc_⟩ :=
        isIntermediate_apart (intermediates _ List.mem_cons_self)
      exact ⟨csi_, osc_, string⟩

theorem Introducer.text_ne_nil (second single : Char) (spelling : Introducer) :
    spelling.text second single ≠ [] := by
  cases spelling <;> exact List.cons_ne_nil _ _

theorem Piece.written_ne_nil (piece : Piece) : piece.written ≠ [] := by
  cases piece with
  | carriageReturn lineFeed => cases lineFeed <;> exact List.cons_ne_nil _ _
  | _ => simp [Piece.written, Introducer.text_ne_nil]

/-- Every piece but text is one match, after which the rest of the stream is read. -/
theorem head?_escapes (piece : Piece) (sequence : ∀ c printed, piece ≠ .text c printed)
    (rest : List Char) (apart : piece.returns = true → rest.head? ≠ some '\n') :
    (escapes.ways (piece.written ++ rest)).head? = some (piece.found, rest) := by
  cases piece with
  | text c printed => exact absurd rfl (sequence c printed)
  | sgr spelling codes =>
      have matched := csi_ways spelling (fun c => @isParameter_of_mem_text codes c)
        (List.forall_mem_nil _) (by decide : isFinal 'm' = true) rest
      rw [List.append_nil] at matched
      apply head?_orElse
      rw [Piece.written, List.append_assoc, List.append_assoc]
      exact congrArg List.head? matched
  | csi spelling other =>
      have matched := csi_ways spelling other.parameters_ other.intermediates_ other.final_ rest
      apply head?_orElse
      rw [Piece.written]
      simp only [List.append_assoc]
      exact congrArg List.head? matched
  | osc spelling body body_ terminator =>
      have others : csi.ways ((Piece.osc spelling body body_ terminator).written ++ rest) = [] := by
        cases spelling with
        | escaped =>
            apply csi_ways_of_other (by decide)
            intro _ d next
            cases next
            decide
        | single =>
            apply csi_ways_of_other (by decide)
            intro same
            exact absurd same (by decide)
      rw [escapes, ways_orElse_of_nil others, Piece.written, List.append_assoc, List.append_assoc]
      exact head?_orElse (osc_head spelling body_ terminator rest) _
  | controlString start start_ body body_ terminator =>
      have notCsi : start ≠ '[' := by
        rintro rfl
        exact absurd start_ (by decide)
      have notOsc : start ≠ ']' := by
        rintro rfl
        exact absurd start_ (by decide)
      rw [Piece.written, List.append_assoc, List.append_assoc]
      simp only [List.cons_append, List.nil_append]
      rw [escapes_of_other (csi_ways_of_other (by decide) _) (osc_ways_of_other (by decide) _)]
      · exact head?_orElse (controlString_head start_ body_ terminator rest) _
      · intro _ d next
        cases next
        exact notCsi
      · intro _ d next
        cases next
        exact notOsc
  | escape other =>
      have next := other.next rest
      rw [Piece.written, List.append_assoc, List.append_assoc, List.singleton_append,
        List.singleton_append,
        escapes_of_other (csi_ways_of_other (by decide) fun _ d mem => (next d mem).1)
          (osc_ways_of_other (by decide) fun _ d mem => (next d mem).2.1),
        ways_orElse_of_nil (escape_not_controlString fun _ d mem => (next d mem).2.2)]
      exact head?_orElse (escape_head other.intermediates_ other.final_ rest) _
  | control c control_ other =>
      rw [Piece.written, List.singleton_append,
        escapes_of_other (csi_ways_of_other other.2.1 fun same => absurd same other.1)
          (osc_ways_of_other other.2.2 fun same => absurd same other.1),
        ways_orElse_of_nil (escape_not_controlString fun same => absurd same other.1),
        ways_orElse_of_nil (escape_ways_of_other other.1 rest)]
      apply head?_orElse
      rw [control, ways_bind, one_ways_cons control_]
      rfl
  | carriageReturn lineFeed =>
      have returned (rest : List Char) : escapes.ways ('\r' :: rest) =
          carriageReturn.ways ('\r' :: rest) := by
        rw [escapes_of_other (csi_ways_of_other (by decide) fun same => absurd same (by decide))
            (osc_ways_of_other (by decide) fun same => absurd same (by decide)),
          ways_orElse_of_nil (escape_not_controlString fun same => absurd same (by decide)),
          ways_orElse_of_nil (escape_ways_of_other (by decide) rest),
          ways_orElse_of_nil rfl]
      cases lineFeed with
      | true => exact congrArg List.head? (returned ('\n' :: rest))
      | false =>
          have plain : (literal ['\n']).ways rest = [] := by
            apply literal_ways_of_other
            rintro ⟨tail, rfl⟩
            exact apart rfl rfl
          rw [Piece.written, if_neg Bool.false_ne_true, List.singleton_append, returned,
            carriageReturn, ways_bind, one_ways_cons (p := (· = '\r')) (decide_eq_true rfl),
            List.flatMap_singleton, optional_bind, ways_bind, plain]
          rfl

/-! ## The page shows the display -/

theorem text_passed {c : Char} (printed : isPrinted c = true) (rest : List Char) :
    escapes.ways (c :: rest) = [] := by
  have plain : isControl c = false ∧ c ≠ '\r' := by
    simp only [isControl, isPrinted, decide_eq_false_iff_not, decide_eq_true_eq, ne_eq,
      char_eq_iff, char_le_iff] at printed ⊢
    simp at printed ⊢
    omega
  have notEscape : c ≠ '\x1b' := by
    rintro rfl
    exact absurd plain.1 (by decide)
  have notCsi : c ≠ '\u009b' := by
    rintro rfl
    exact absurd plain.1 (by decide)
  have notOsc : c ≠ '\u009d' := by
    rintro rfl
    exact absurd plain.1 (by decide)
  rw [escapes_of_other (csi_ways_of_other notCsi fun same => absurd same notEscape)
      (osc_ways_of_other notOsc fun same => absurd same notEscape),
    ways_orElse_of_nil (escape_not_controlString fun same => absurd same notEscape),
    ways_orElse_of_nil (escape_ways_of_other notEscape rest), ways_orElse_of_nil]
  · rw [carriageReturn, ways_bind, one_ways_of_stops (p := (· = '\r'))
      (stops_cons (decide_eq_false plain.2))]
    rfl
  · rw [control, ways_bind, one_ways_of_stops (stops_cons plain.1)]
    rfl

/-- The cells of a display, each with the style of its pen. -/
def styled (display : List (Char × Pen)) : List (Char × Style) :=
  display.map fun cell => (cell.1, cell.2.style)

theorem cells_renderMatches {stream : List Piece} (separate : Separate stream)
    (before : List Char) (pen : Pen) :
    cells (renderMatches pen.style (matchAllFrom escapes before 0 (written stream)).1
        (matchAllFrom escapes before 0 (written stream)).2) =
      (before.map fun c => (c, pen.style)) ++ styled (display pen stream) := by
  induction stream generalizing before pen with
  | nil =>
      rw [show written [] = [] from rfl, matchAllFrom, renderMatches, cells_flush]
      exact (List.append_nil _).symm
  | cons piece stream ih =>
      have later : Separate stream := separate.2
      by_cases text : ∃ c printed, piece = .text c printed
      · obtain ⟨c, printed, rfl⟩ := text
        rw [show written (.text c printed :: stream) = c :: written stream from rfl,
          matchAllFrom_of_ways_nil (text_passed printed _), ih later, List.map_append,
          List.append_assoc]
        rfl
      · have sequence : ∀ c printed, piece ≠ .text c printed := by
          intro c printed same
          exact text ⟨c, printed, same⟩
        have drawn := effect_found piece sequence pen
        rw [show written (piece :: stream) = piece.written ++ written stream from rfl,
          matchAllFrom_of_ways piece.written_ne_nil
            (head?_escapes piece sequence _ separate.1),
          cells_renderMatches_cons, drawn.1, drawn.2, ih later, List.append_assoc]
        simp only [display, styled, List.map_append, List.map_map, List.map_nil, List.nil_append]
        rfl

/-- Where commands write text and sequences that are whole, the page shows the characters
with the faces and colours that they were written with, and nothing else. -/
theorem cells_renderSource (stream : List Piece) (separate : Separate stream) :
    cells (renderSource (written stream)) = styled (display {} stream) :=
  cells_renderMatches separate [] {}

/-- A node shows the display of its text, and after it that of its suffix. -/
theorem display_renderAnsi {stream suffix : List Piece} (separate : Separate stream)
    (suffix_ : Separate suffix) {node : Node} (current : node.Current) :
    cells (renderAnsi node (written stream) false (written suffix)).children =
      styled (display {} stream) ++ styled (display {} suffix) := by
  rw [(current.renderAnsi _ _ _).2, renderText, cells_append, if_neg Bool.false_ne_true,
    cells_renderSource stream separate, cells_renderSource suffix suffix_]

/-- The stream of a text. -/
def plain (text : List Char) : List Piece :=
  text.filterMap fun c => if printed : isPrinted c = true then some (.text c printed) else none

def colouredStream : List Piece :=
  plain "$ docker compose stop api\ndone ".toList ++
    [.sgr .escaped
      { renditions := [.paint .color (.basic 1)], some := List.cons_ne_nil _ _
        parameters := [['3', '1']], values := rfl
        digits := by
          rw [List.forall_mem_singleton, List.forall_mem_cons, List.forall_mem_singleton]
          decide }] ++
    plain "for".toList ++
    [.sgr .escaped
      { renditions := [.reset], some := List.cons_ne_nil _ _, parameters := [[]],
        values := rfl, digits := List.forall_mem_singleton.mpr (List.forall_mem_nil _) }]

theorem display_renderAnsi_coloured :
    cells (renderAnsi { children := [] } (written colouredStream) false
        (written [.carriageReturn false])).children =
      styled (display {} colouredStream) ++ [('\n', ({} : Style))] := by
  have separate : Separate colouredStream := by decide +kernel
  have suffix : Separate [.carriageReturn false] := by decide +kernel
  have fresh : Node.Current { children := [] } := by
    intro _ mem
    cases mem
  exact display_renderAnsi separate suffix fresh

end YoAuthorize.Manager
