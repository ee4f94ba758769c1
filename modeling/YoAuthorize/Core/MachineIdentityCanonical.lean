import YoAuthorize.Core.MachineIdentity

/-!
# Machine identities are canonical

`Spells type contents value` says what it is for a file to hold a component: white
space around 32 hex digits, or around hex digits in groups of 8, 4, 4, 4 and 12.
The normalizers accept exactly these files and return the digits in lower case
(`normalize_eq_some_iff`), so the components of a reading are a set of typed values.

In the other direction the transcript determines the components, as long as no two
of the strings that are hashed have one digest.  An injective SHA-256 would give
this for all strings; no function into 32 bytes is one, so the hypothesis
(`CollisionFree`) is on the strings of the two calls.
-/

namespace YoAuthorize.Core

open Octets YoAuthorize.Crypto

/-! ## Spellings -/

def Blank (bytes : Bytes) : Prop := ∀ byte ∈ bytes, isAsciiSpace byte = true

def Hex (bytes : Bytes) : Prop := ∀ byte ∈ bytes, isAsciiHex byte = true

/-- A component without the white space around it. -/
inductive MachineIdentityComponentType.Written : MachineIdentityComponentType → Bytes → Bytes → Prop
  | machineId {digits : Bytes} (length : digits.length = 32) (hex : Hex digits) :
      Written .machineId digits (digits.map asciiLower)
  | productUuid {first second third fourth fifth : Bytes} (lengths : first.length = 8 ∧
        second.length = 4 ∧ third.length = 4 ∧ fourth.length = 4 ∧ fifth.length = 12)
      (hex : Hex (first ++ second ++ third ++ fourth ++ fifth)) :
      Written .productUuid
        (first ++ 45 :: (second ++ 45 :: (third ++ 45 :: (fourth ++ 45 :: fifth))))
        ((first ++ second ++ third ++ fourth ++ fifth).map asciiLower)

/-- The file holds the component, whose value in lower case and without hyphens is
the given one. -/
def Spells (type : MachineIdentityComponentType) (contents value : Bytes) : Prop :=
  ∃ before trimmed after, contents = before ++ trimmed ++ after ∧ Blank before ∧ Blank after ∧
    type.Written trimmed value

/-- The same text up to the white space around it and the case of its hex letters. -/
def Respelled (left right : Bytes) : Prop :=
  ∃ leftBefore leftText leftAfter rightBefore rightText rightAfter,
    left = leftBefore ++ leftText ++ leftAfter ∧ right = rightBefore ++ rightText ++ rightAfter ∧
    Blank leftBefore ∧ Blank leftAfter ∧ Blank rightBefore ∧ Blank rightAfter ∧
    leftText.map asciiLower = rightText.map asciiLower

/-! ## Trimming -/

theorem exists_trimAscii (contents : Bytes) :
    ∃ before after, contents = before ++ trimAscii contents ++ after ∧ Blank before ∧
      Blank after := by
  refine ⟨contents.takeWhile isAsciiSpace,
    (contents.dropWhile isAsciiSpace).rtakeWhile isAsciiSpace, ?_, ?_, ?_⟩
  · rw [trimAscii, List.append_assoc, List.rdropWhile_append_rtakeWhile,
      List.takeWhile_append_dropWhile]
  · exact fun byte mem => List.mem_takeWhile_imp mem
  · exact fun byte mem => List.mem_rtakeWhile_imp mem

theorem rdropWhile_append_blank {text after : Bytes} (blank : Blank after) :
    (text ++ after).rdropWhile isAsciiSpace = text.rdropWhile isAsciiSpace := by
  unfold List.rdropWhile
  rw [List.reverse_append, List.dropWhile_append_of_pos]
  intro byte mem
  exact blank byte (List.mem_reverse.mp mem)

theorem trimAscii_surrounded {before text after : Bytes} (blankBefore : Blank before)
    (blankAfter : Blank after) : trimAscii (before ++ text ++ after) = trimAscii text := by
  unfold trimAscii
  rw [List.append_assoc, List.dropWhile_append_of_pos blankBefore]
  by_cases blankText : Blank text
  · rw [List.dropWhile_append_of_pos blankText]
    have nothing : ∀ {bytes : Bytes}, Blank bytes →
        (bytes.dropWhile isAsciiSpace).rdropWhile isAsciiSpace = [] := by
      intro bytes blank
      rw [List.dropWhile_eq_nil_iff.mpr blank, List.rdropWhile_nil]
    rw [nothing blankAfter, nothing blankText]
  · rw [List.dropWhile_append, if_neg, rdropWhile_append_blank blankAfter]
    intro empty
    exact blankText (List.dropWhile_eq_nil_iff.mp (List.isEmpty_iff.mp empty))

theorem trimAscii_eq_self {text : Bytes} (solid : ∀ byte ∈ text, isAsciiSpace byte = false) :
    trimAscii text = text := by
  have front : text.dropWhile isAsciiSpace = text := by
    cases text with
    | nil => rfl
    | cons byte rest =>
        have visible := solid byte List.mem_cons_self
        exact List.dropWhile_cons_of_neg (by simp [visible])
  unfold trimAscii
  rw [front]
  apply List.rdropWhile_eq_self_iff.mpr
  intro nonempty space
  have visible := solid _ (List.getLast_mem nonempty)
  rw [visible] at space
  cases space

theorem isAsciiSpace_of_hex (byte : UInt8) :
    isAsciiHex byte = true → isAsciiSpace byte = false := by
  revert byte
  exact byte_induction (by decide +kernel)

theorem Spells.written {type : MachineIdentityComponentType} {contents value : Bytes}
    (spells : Spells type contents value) : type.Written (trimAscii contents) value := by
  obtain ⟨before, trimmed, after, rfl, blankBefore, blankAfter, written⟩ := spells
  have solid : ∀ byte ∈ trimmed, isAsciiSpace byte = false := by
    intro byte mem
    cases written with
    | machineId length hex => exact isAsciiSpace_of_hex byte (hex byte mem)
    | productUuid lengths hex =>
        have digitOrHyphen : isAsciiHex byte = true ∨ byte = 45 := by
          have digit := hex byte
          simp only [List.mem_append, List.mem_cons] at mem digit
          tauto
        rcases digitOrHyphen with digit | rfl
        · exact isAsciiSpace_of_hex byte digit
        · rfl
  rw [trimAscii_surrounded blankBefore blankAfter, trimAscii_eq_self solid]
  exact written

theorem spells_iff_written {type : MachineIdentityComponentType} {contents value : Bytes} :
    Spells type contents value ↔ type.Written (trimAscii contents) value := by
  refine ⟨Spells.written, ?_⟩
  intro written
  obtain ⟨before, after, split, blankBefore, blankAfter⟩ := exists_trimAscii contents
  exact ⟨before, trimAscii contents, after, split, blankBefore, blankAfter, written⟩

/-! ## The normalizers -/

theorem normalizeMachineId_eq_some_iff {contents value : Bytes} :
    normalizeMachineId contents = some value ↔ Spells .machineId contents value := by
  rw [spells_iff_written]
  unfold normalizeMachineId
  dsimp only
  constructor
  · intro normalized
    split at normalized
    · cases normalized
    · rename_i wellFormed
      simp only [not_or, not_not, Bool.not_eq_true, Bool.not_eq_false'] at wellFormed
      cases normalized
      exact .machineId wellFormed.1 (List.all_eq_true.mp wellFormed.2)
  · intro written
    generalize trimAscii contents = trimmed at written
    cases written with
    | machineId length hex =>
        have digits : trimmed.all isAsciiHex = true := List.all_eq_true.mpr hex
        rw [if_neg (by simp [length, digits])]

/-- A stretch of the loop without hyphens. -/
theorem normalizeUuidFrom_digits {index : Nat} {digits : Bytes}
    (between : ∀ offset < digits.length, index + offset ∉ hyphens) (output rest : Bytes)
    {value : Bytes} :
    normalizeUuidFrom index output (digits ++ rest) = some value ↔
      Hex digits ∧
        normalizeUuidFrom (index + digits.length) (output ++ digits.map asciiLower) rest =
          some value := by
  induction digits generalizing index output with
  | nil => simp [Hex]
  | cons digit digits ih =>
      have here : index ∉ hyphens := between 0 (by simp)
      have later : ∀ offset < digits.length, index + 1 + offset ∉ hyphens := by
        intro offset inside
        have apart := between (offset + 1) (by simpa using inside)
        rwa [show index + (offset + 1) = index + 1 + offset by omega] at apart
      rw [List.cons_append, normalizeUuidFrom, if_neg here]
      cases hex : isAsciiHex digit with
      | false =>
          simp only [Bool.not_false, if_true]
          refine ⟨nofun, ?_⟩
          rintro ⟨allHex, -⟩
          rw [allHex digit List.mem_cons_self] at hex
          cases hex
      | true =>
          simp only [Bool.not_true, Bool.false_eq_true, if_false]
          rw [ih later]
          have length : index + 1 + digits.length = index + (digit :: digits).length := by
            rw [List.length_cons]
            omega
          rw [length, List.map_cons, List.append_assoc, List.singleton_append]
          apply and_congr_left
          intro _
          simp [Hex, hex]

/-- The loop at a hyphen. -/
theorem normalizeUuidFrom_hyphen {index : Nat} (at_ : index ∈ hyphens) (output rest : Bytes)
    {byte : UInt8} {value : Bytes} :
    normalizeUuidFrom index output (byte :: rest) = some value ↔
      byte = 45 ∧ normalizeUuidFrom (index + 1) output rest = some value := by
  rw [normalizeUuidFrom, if_pos at_]
  by_cases hyphen : byte = 45
  · simp [hyphen]
  · simp [hyphen]

/-- The loop over a whole text: four hyphens, and hex digits around them. -/
theorem normalizeUuidFrom_groups {first second third fourth fifth : Bytes}
    (lengths : first.length = 8 ∧ second.length = 4 ∧ third.length = 4 ∧ fourth.length = 4 ∧
      fifth.length = 12) (h₁ h₂ h₃ h₄ : UInt8) {value : Bytes} :
    normalizeUuidFrom 0 []
        (first ++ h₁ :: (second ++ h₂ :: (third ++ h₃ :: (fourth ++ h₄ :: fifth)))) = some value ↔
      (h₁ = 45 ∧ h₂ = 45 ∧ h₃ = 45 ∧ h₄ = 45) ∧
        Hex (first ++ second ++ third ++ fourth ++ fifth) ∧
        (first ++ second ++ third ++ fourth ++ fifth).map asciiLower = value := by
  obtain ⟨one, two, three, four, five⟩ := lengths
  have between : ∀ {index : Nat} {digits : Bytes} (count : Nat), digits.length = count →
      (∀ offset < count, index + offset ∉ hyphens) →
        ∀ offset < digits.length, index + offset ∉ hyphens := by
    rintro index digits count rfl apart
    exact apart
  rw [normalizeUuidFrom_digits (between 8 one (by decide)), one,
    normalizeUuidFrom_hyphen (by decide),
    normalizeUuidFrom_digits (between 4 two (by decide)), two,
    normalizeUuidFrom_hyphen (by decide),
    normalizeUuidFrom_digits (between 4 three (by decide)), three,
    normalizeUuidFrom_hyphen (by decide),
    normalizeUuidFrom_digits (between 4 four (by decide)), four,
    normalizeUuidFrom_hyphen (by decide), ← List.append_nil fifth,
    normalizeUuidFrom_digits (between 12 five (by decide)), List.append_nil]
  simp only [normalizeUuidFrom, Hex, List.mem_append, or_imp, forall_and, List.map_append,
    Option.some.injEq, List.nil_append, List.append_assoc]
  tauto

theorem exists_group {text : Bytes} {count size : Nat} (length : text.length = count + 1 + size) :
    ∃ (digits : Bytes) (byte : UInt8) (rest : Bytes), text = digits ++ byte :: rest ∧
      digits.length = count ∧ rest.length = size := by
  have nonempty : (text.drop count).length = 1 + size := by
    rw [List.length_drop, length]
    omega
  cases tail : text.drop count with
  | nil =>
      rw [tail, List.length_nil] at nonempty
      omega
  | cons byte rest =>
      refine ⟨text.take count, byte, rest, ?_, ?_, ?_⟩
      · rw [← tail, List.take_append_drop]
      · rw [List.length_take, length]
        omega
      · rw [tail, List.length_cons] at nonempty
        omega

theorem normalizeProductUuid_eq_some_iff {contents value : Bytes} :
    normalizeProductUuid contents = some value ↔ Spells .productUuid contents value := by
  rw [spells_iff_written]
  unfold normalizeProductUuid
  dsimp only
  generalize trimAscii contents = trimmed
  constructor
  · intro normalized
    split at normalized
    · cases normalized
    · rename_i length
      obtain ⟨first, h₁, rest, rfl, one, length⟩ :=
        @exists_group trimmed 8 27 (not_not.mp length)
      obtain ⟨second, h₂, rest, rfl, two, length⟩ := @exists_group rest 4 22 length
      obtain ⟨third, h₃, rest, rfl, three, length⟩ := @exists_group rest 4 17 length
      obtain ⟨fourth, h₄, fifth, rfl, four, five⟩ := @exists_group rest 4 12 length
      have lengths : first.length = 8 ∧ second.length = 4 ∧ third.length = 4 ∧
          fourth.length = 4 ∧ fifth.length = 12 := ⟨one, two, three, four, five⟩
      obtain ⟨⟨rfl, rfl, rfl, rfl⟩, hex, rfl⟩ :=
        (normalizeUuidFrom_groups lengths h₁ h₂ h₃ h₄).mp normalized
      exact .productUuid lengths hex
  · intro written
    cases written with
    | productUuid lengths hex =>
        rw [if_neg (by simp [lengths])]
        exact (normalizeUuidFrom_groups lengths 45 45 45 45).mpr ⟨⟨rfl, rfl, rfl, rfl⟩, hex, rfl⟩

theorem normalize_eq_some_iff (type : MachineIdentityComponentType) {contents value : Bytes} :
    type.normalize contents = some value ↔ Spells type contents value := by
  cases type with
  | machineId => exact normalizeMachineId_eq_some_iff
  | productUuid => exact normalizeProductUuid_eq_some_iff

/-! ## Other spellings -/

theorem asciiLower_lower (byte : UInt8) : asciiLower (asciiLower byte) = asciiLower byte := by
  revert byte
  exact byte_induction (by decide +kernel)

theorem isAsciiSpace_lower (byte : UInt8) : isAsciiSpace (asciiLower byte) = isAsciiSpace byte := by
  revert byte
  exact byte_induction (by decide +kernel)

theorem isAsciiHex_lower (byte : UInt8) : isAsciiHex (asciiLower byte) = isAsciiHex byte := by
  revert byte
  exact byte_induction (by decide +kernel)

theorem asciiLower_eq_hyphen (byte : UInt8) : asciiLower byte = 45 ↔ byte = 45 := by
  revert byte
  exact byte_induction (by decide +kernel)

theorem trimAscii_map_lower (contents : Bytes) :
    trimAscii (contents.map asciiLower) = (trimAscii contents).map asciiLower := by
  have same : isAsciiSpace ∘ asciiLower = isAsciiSpace := funext isAsciiSpace_lower
  unfold trimAscii List.rdropWhile
  rw [List.dropWhile_map, same, ← List.map_reverse, List.dropWhile_map, same, List.map_reverse]

theorem normalizeUuidFrom_map_lower (index : Nat) (output text : Bytes) :
    normalizeUuidFrom index output (text.map asciiLower) = normalizeUuidFrom index output text := by
  induction text generalizing index output with
  | nil => rfl
  | cons byte rest ih =>
      simp only [List.map_cons, normalizeUuidFrom, isAsciiHex_lower, asciiLower_lower,
        ne_eq, asciiLower_eq_hyphen, ih]

/-- The case of the letters does not matter. -/
theorem normalize_map_lower (type : MachineIdentityComponentType) (contents : Bytes) :
    type.normalize (contents.map asciiLower) = type.normalize contents := by
  cases type with
  | machineId =>
      have hex : isAsciiHex ∘ asciiLower = isAsciiHex := funext isAsciiHex_lower
      have lower : asciiLower ∘ asciiLower = asciiLower := funext asciiLower_lower
      simp only [MachineIdentityComponentType.normalize, normalizeMachineId, trimAscii_map_lower,
        List.length_map, List.all_map, hex, List.map_map, lower]
  | productUuid =>
      simp only [MachineIdentityComponentType.normalize, normalizeProductUuid,
        trimAscii_map_lower, List.length_map, normalizeUuidFrom_map_lower]

theorem normalize_trim (type : MachineIdentityComponentType) {left right : Bytes}
    (same : trimAscii left = trimAscii right) : type.normalize left = type.normalize right := by
  cases type with
  | machineId =>
      simp only [MachineIdentityComponentType.normalize, normalizeMachineId, same]
  | productUuid =>
      simp only [MachineIdentityComponentType.normalize, normalizeProductUuid, same]

theorem Respelled.normalize {left right : Bytes} (respelled : Respelled left right)
    (type : MachineIdentityComponentType) : type.normalize left = type.normalize right := by
  obtain ⟨leftBefore, leftText, leftAfter, rightBefore, rightText, rightAfter, rfl, rfl,
    blankLeftBefore, blankLeftAfter, blankRightBefore, blankRightAfter, same⟩ := respelled
  calc type.normalize (leftBefore ++ leftText ++ leftAfter)
      = type.normalize leftText :=
        normalize_trim type (trimAscii_surrounded blankLeftBefore blankLeftAfter)
    _ = type.normalize (leftText.map asciiLower) := (normalize_map_lower type leftText).symm
    _ = type.normalize (rightText.map asciiLower) := by rw [same]
    _ = type.normalize rightText := normalize_map_lower type rightText
    _ = type.normalize (rightBefore ++ rightText ++ rightAfter) :=
        (normalize_trim type (trimAscii_surrounded blankRightBefore blankRightAfter)).symm

/-! ## What is hashed -/

theorem appendField_append_inj {left right leftRest rightRest : Bytes}
    (leftFits : left.length < 2 ^ 32) (rightFits : right.length < 2 ^ 32)
    (same : appendField left ++ leftRest = appendField right ++ rightRest) :
    left = right ∧ leftRest = rightRest := by
  unfold appendField appendU32 at same
  rw [List.append_assoc, List.append_assoc] at same
  obtain ⟨sizes, fields⟩ := u32Bytes_append_inj same
  have lengths : left.length = right.length := by
    have values := congrArg UInt32.toNat sizes
    rwa [UInt32.toNat_ofNat_of_lt' leftFits, UInt32.toNat_ofNat_of_lt' rightFits] at values
  exact List.append_inj fields lengths

theorem hexPair_inj {left right : UInt8} (same : hexPair left = hexPair right) : left = right := by
  -- The digits are read back by their place in the table.
  have back : ∀ byte : UInt8, (hexPair byte).map (fun digit => hexDigits.idxOf digit) =
      [byte.toNat / 16, byte.toNat % 16] := by
    exact byte_induction (by decide +kernel)
  have places := congrArg (List.map fun digit => hexDigits.idxOf digit) same
  rw [back, back] at places
  simp only [List.cons.injEq, and_true] at places
  apply UInt8.toNat_inj.mp
  omega

theorem flatMap_hexPair_inj {left right : Bytes}
    (same : left.flatMap hexPair = right.flatMap hexPair) :
    left = right := by
  induction left generalizing right with
  | nil =>
      cases right with
      | nil => rfl
      | cons byte rest => simp [hexPair] at same
  | cons byte rest ih =>
      cases right with
      | nil => simp [hexPair] at same
      | cons other others =>
          rw [List.flatMap_cons, List.flatMap_cons] at same
          obtain ⟨head, tail⟩ := List.append_inj same rfl
          rw [hexPair_inj head, ih tail]

theorem hexDigest_inj {left right : Sha256Digest} (same : hexDigest left = hexDigest right) :
    left = right :=
  Subtype.ext (flatMap_hexPair_inj same)

/-- The type and the value of a component are shorter than a length field can say. -/
def NormalizedComponent.Short (component : NormalizedComponent) : Prop :=
  component.type.length < 2 ^ 32 ∧ component.value.length < 2 ^ 32

theorem MachineIdentityComponentType.length_name_lt (type : MachineIdentityComponentType) :
    type.name.length < 2 ^ 32 := by
  cases type <;> decide

theorem componentInput_inj {left right : NormalizedComponent} (leftShort : left.Short)
    (rightShort : right.Short) (same : componentInput left = componentInput right) :
    left = right := by
  unfold componentInput at same
  rw [List.append_assoc, List.append_assoc] at same
  obtain ⟨-, fields⟩ := List.append_inj same rfl
  obtain ⟨types, values⟩ := appendField_append_inj leftShort.1 rightShort.1 fields
  have closed : appendField left.value ++ [] = appendField right.value ++ [] := by
    rw [List.append_nil, List.append_nil, values]
  obtain ⟨values, -⟩ := appendField_append_inj leftShort.2 rightShort.2 closed
  cases left
  cases right
  dsimp only at types values
  rw [types, values]

section

variable (hash : Bytes → Sha256Digest)

/-- What the loop appends to the transcript. -/
def componentsTranscript (components : List NormalizedComponent) : Bytes :=
  components.flatMap fun component =>
    appendField component.type ++ (appendU32 (hash (componentInput component)).val.length ++
      (hash (componentInput component)).val)

def transcript (components : List NormalizedComponent) : Bytes :=
  appendField kHashDomain ++ appendU32 components.length ++ componentsTranscript hash components

/-- The strings that are hashed for the components. -/
def hashed (components : List NormalizedComponent) : List Bytes :=
  transcript hash components :: components.map componentInput

/-- No two of the strings have the same digest. -/
def CollisionFree (inputs : List Bytes) : Prop :=
  ∀ left ∈ inputs, ∀ right ∈ inputs, hash left = hash right → left = right

variable {hash}

theorem componentsTranscript_inj {left right : List NormalizedComponent}
    (lengths : left.length = right.length) (short : ∀ component ∈ left ++ right, component.Short)
    (apart : ∀ first ∈ left, ∀ second ∈ right,
      hash (componentInput first) = hash (componentInput second) →
        componentInput first = componentInput second)
    (same : componentsTranscript hash left = componentsTranscript hash right) : left = right := by
  induction left generalizing right with
  | nil =>
      rw [List.length_nil] at lengths
      exact (List.length_eq_zero_iff.mp lengths.symm).symm
  | cons first firsts ih =>
      cases right with
      | nil => cases lengths
      | cons second seconds =>
          have firstShort := short first List.mem_cons_self
          have secondShort := short second (List.mem_append_right _ List.mem_cons_self)
          unfold componentsTranscript at same
          rw [List.flatMap_cons, List.flatMap_cons] at same
          simp only [List.append_assoc] at same
          obtain ⟨-, sized⟩ := appendField_append_inj firstShort.1 secondShort.1 same
          obtain ⟨-, digests⟩ := u32Bytes_append_inj sized
          obtain ⟨digest, rest⟩ := FixedBytes.append_inj digests
          have inputs := apart first List.mem_cons_self second List.mem_cons_self digest
          rw [componentInput_inj firstShort secondShort inputs]
          congr 1
          apply ih (Nat.succ.inj lengths)
          · intro component mem
            apply short
            rcases List.mem_append.mp mem with mem | mem
            · exact List.mem_append_left _ (List.mem_cons_of_mem _ mem)
            · exact List.mem_append_right _ (List.mem_cons_of_mem _ mem)
          · intro one oneMem two twoMem
            exact apart one (List.mem_cons_of_mem _ oneMem) two (List.mem_cons_of_mem _ twoMem)
          · exact rest

/-- The digest of the transcript determines the components. -/
theorem hash_transcript_inj {left right : List NormalizedComponent}
    (leftFits : left.length < 2 ^ 32) (rightFits : right.length < 2 ^ 32)
    (short : ∀ component ∈ left ++ right, component.Short)
    (apart : CollisionFree hash (hashed hash left ++ hashed hash right))
    (same : hash (transcript hash left) = hash (transcript hash right)) : left = right := by
  have transcripts := apart _ (List.mem_append_left _ List.mem_cons_self) _
    (List.mem_append_right _ List.mem_cons_self) same
  unfold transcript at transcripts
  rw [List.append_assoc, List.append_assoc] at transcripts
  obtain ⟨-, counted⟩ := List.append_inj transcripts rfl
  obtain ⟨counts, components⟩ := u32Bytes_append_inj counted
  have lengths : left.length = right.length := by
    have values := congrArg UInt32.toNat counts
    rwa [UInt32.toNat_ofNat_of_lt' leftFits, UInt32.toNat_ofNat_of_lt' rightFits] at values
  apply componentsTranscript_inj lengths short _ components
  intro first firstMem second secondMem digest
  apply apart _ _ _ _ digest
  · exact List.mem_append_left _ (List.mem_cons_of_mem _ (List.mem_map_of_mem firstMem))
  · exact List.mem_append_right _ (List.mem_cons_of_mem _ (List.mem_map_of_mem secondMem))

end

/-! ## The components of a call -/

/-- A call of `collectLinuxMachineIdentity`. -/
structure Collection (σ : Type) : Type where
  ssl : OpenSsl
  files : σ → Bytes → FileStream
  config : LinuxMachineIdentityConfig
  readFunction : Option (MachineIdentityReadFunction σ)
  world : σ

/-- The contents of a read that did not fail. -/
def contentsOf : Option MachineIdentityReadResult → Option Bytes
  | some { status := .success, contents } => some contents
  | _ => none

namespace Collection

variable {σ : Type} (collection : Collection σ)

def result : MachineIdentityResult :=
  collectLinuxMachineIdentity collection.ssl collection.files collection.config
    collection.readFunction collection.world

def reader : MachineIdentityReadFunction σ :=
  collection.readFunction.getD fun path world =>
    (world, some (readFile (collection.files world) path))

/-- The contents of the two files; the reader has seen the first path before the
second. -/
def reading : MachineIdentityComponentType → Option Bytes
  | .machineId => contentsOf (collection.reader collection.config.machineIdPath collection.world).2
  | .productUuid =>
      contentsOf (collection.reader collection.config.productUuidPath
        (collection.reader collection.config.machineIdPath collection.world).1).2

def required : MachineIdentityComponentType → Bool
  | .machineId => collection.config.requireMachineId
  | .productUuid => collection.config.requireProductUuid

def status : MachineIdentityComponentType → MachineIdentityComponentStatus
  | .machineId => collection.result.value.components.1.status
  | .productUuid => collection.result.value.components.2.status

def Available (type : MachineIdentityComponentType) : Prop :=
  ∃ contents value, collection.reading type = some contents ∧ Spells type contents value

/-- The available components with their values. -/
def components : Set (MachineIdentityComponentType × Bytes) :=
  { entry | ∃ contents, collection.reading entry.1 = some contents ∧
      Spells entry.1 contents entry.2 }

def value (type : MachineIdentityComponentType) : Option Bytes :=
  (collection.reading type).bind type.normalize

def component (type : MachineIdentityComponentType) : Option NormalizedComponent :=
  (collection.value type).map fun value => { type := type.name, value }

def found : List NormalizedComponent :=
  (collection.component .machineId).toList ++ (collection.component .productUuid).toList

variable {collection}

theorem value_eq_some_iff {type : MachineIdentityComponentType} {value : Bytes} :
    collection.value type = some value ↔ (type, value) ∈ collection.components := by
  unfold Collection.value components
  rw [Option.bind_eq_some_iff]
  simp only [normalize_eq_some_iff]
  rfl

theorem available_iff {type : MachineIdentityComponentType} :
    collection.Available type ↔ (collection.value type).isSome = true := by
  rw [Option.isSome_iff_exists]
  constructor
  · rintro ⟨contents, value, read, spells⟩
    exact ⟨value, value_eq_some_iff.mpr ⟨contents, read, spells⟩⟩
  · rintro ⟨value, normalized⟩
    obtain ⟨contents, read, spells⟩ := value_eq_some_iff.mp normalized
    exact ⟨contents, value, read, spells⟩

theorem components_eq_iff {τ : Type} {left : Collection σ} {right : Collection τ} :
    left.components = right.components ↔ ∀ type, left.value type = right.value type := by
  constructor
  · intro same type
    ext value
    rw [value_eq_some_iff, value_eq_some_iff, same]
  · intro same
    ext ⟨type, value⟩
    rw [← value_eq_some_iff, ← value_eq_some_iff, same]

theorem found_eq_iff {τ : Type} {left : Collection σ} {right : Collection τ} :
    left.found = right.found ↔ left.components = right.components := by
  rw [components_eq_iff]
  constructor
  · intro same
    have names : MachineIdentityComponentType.name .machineId ≠
        MachineIdentityComponentType.name .productUuid := by decide
    unfold found component at same
    have both : left.value .machineId = right.value .machineId ∧
        left.value .productUuid = right.value .productUuid := by
      cases leftMachine : left.value .machineId <;> cases leftProduct : left.value .productUuid <;>
        cases rightMachine : right.value .machineId <;>
        cases rightProduct : right.value .productUuid <;>
        simp_all
    intro type
    cases type with
    | machineId => exact both.1
    | productUuid => exact both.2
  · intro same
    unfold found component
    rw [same, same]

theorem sortComponents_found : sortComponents collection.found = collection.found := by
  have ordered : MachineIdentityComponentType.name .machineId ≤
      MachineIdentityComponentType.name .productUuid := by decide
  unfold found component sortComponents
  cases collection.value .machineId with
  | none =>
      cases collection.value .productUuid with
      | none => rfl
      | some product => rfl
  | some machine =>
      cases collection.value .productUuid with
      | none => rfl
      | some product =>
          simp [List.insertionSort, ordered]

/-- Each of the names has 10 or 12 bytes and each of the values 32. -/
theorem short_of_mem_found {component : NormalizedComponent}
    (mem : component ∈ collection.found) : component.Short := by
  have short : ∀ {type : MachineIdentityComponentType},
      component ∈ (collection.component type).toList → component.Short := by
    intro type mem
    rw [Option.mem_toList] at mem
    unfold Collection.component at mem
    rw [Option.map_eq_some_iff] at mem
    obtain ⟨value, normalized, rfl⟩ := mem
    obtain ⟨contents, -, spells⟩ := value_eq_some_iff.mp normalized
    have written := spells.written
    generalize trimAscii contents = trimmed at written
    cases written with
    | machineId length hex =>
        refine ⟨MachineIdentityComponentType.length_name_lt .machineId, ?_⟩
        dsimp only
        rw [List.length_map, length]
        decide
    | productUuid lengths hex =>
        refine ⟨MachineIdentityComponentType.length_name_lt .productUuid, ?_⟩
        simp only [List.length_map, List.length_append, lengths]
        decide
  rcases List.mem_append.mp mem with mem | mem
  · exact short mem
  · exact short mem

theorem length_found_le : collection.found.length ≤ 2 := by
  unfold found
  cases collection.component .machineId <;> cases collection.component .productUuid <;> simp

end Collection

/-! ## The result of a call -/

section

variable {σ : Type}

theorem readComponent_spec (reader : MachineIdentityReadFunction σ) (path : Bytes)
    (type : MachineIdentityComponentType) (out : List NormalizedComponent) (world : σ) :
    (readComponent reader path type out world).1 = (reader path world).1 ∧
      (readComponent reader path type out world).2.2 =
        out ++ (((contentsOf (reader path world).2).bind type.normalize).map
          fun value => ({ type := type.name, value } : NormalizedComponent)).toList ∧
      ((readComponent reader path type out world).2.1 = .available ↔
        ((contentsOf (reader path world).2).bind type.normalize).isSome = true) := by
  unfold readComponent
  rcases reader path world with ⟨after, _ | ⟨status, contents⟩⟩
  · simp [contentsOf]
  · cases status with
    | missing => simp [contentsOf]
    | failure => simp [contentsOf]
    | success =>
        cases normalized : type.normalize contents with
        | none => simp [contentsOf, normalized]
        | some value => simp [contentsOf, normalized]

variable {hash : Bytes → Sha256Digest}

/-- The library computes the function, where it does not fail. -/
def ComputesSha256 (ssl : OpenSsl) (hash : Bytes → Sha256Digest) : Prop :=
  ∀ {message : Bytes} {digest : Sha256Digest}, ssl.digestSha256 message = some digest →
    digest = hash message

theorem sha256_eq_ok {ssl : OpenSsl} (computes : ComputesSha256 ssl hash) {message : Bytes}
    {digest : Sha256Digest} (hashes : sha256 ssl message = .ok digest) : digest = hash message := by
  unfold sha256 at hashes
  split at hashes
  · cases hashes
  · rename_i found
    cases hashes
    exact computes found

theorem appendComponents_eq_ok {ssl : OpenSsl} (computes : ComputesSha256 ssl hash)
    {components : List NormalizedComponent} {before after : Bytes}
    (appended : appendComponents ssl before components = .ok after) :
    after = before ++ componentsTranscript hash components := by
  induction components generalizing before with
  | nil =>
      cases appended
      simp [componentsTranscript]
  | cons component rest ih =>
      rw [appendComponents] at appended
      split at appended
      · cases appended
      · rename_i digest hashes
        rw [ih appended, sha256_eq_ok computes hashes]
        simp only [componentsTranscript, List.flatMap_cons, List.append_assoc]

namespace Collection

variable {collection : Collection σ}

/-- How a call ends. -/
inductive Ends (collection : Collection σ) : Prop
  | unavailable
      (lacks : (∃ type, collection.required type = true ∧ ¬ collection.Available type) ∨
        ∀ type, ¬ collection.Available type)
      (error : collection.result.error = some .machineIdentityUnavailable)
      (exactId : collection.result.value.exactId = [])
  | unhashed (meets : ∀ type, collection.required type = true → collection.Available type)
      (some_ : ∃ type, collection.Available type)
      (error : collection.result.error = some .internalError)
      (exactId : collection.result.value.exactId = [])
  | identified (meets : ∀ type, collection.required type = true → collection.Available type)
      (some_ : ∃ type, collection.Available type) (error : collection.result.error = none)
      (exactId : ∀ {hash : Bytes → Sha256Digest}, ComputesSha256 collection.ssl hash →
        collection.result.value.exactId = hexDigest (hash (transcript hash collection.found)))

/-- The read of the machine id. -/
def machineStep (collection : Collection σ) :
    σ × MachineIdentityComponentStatus × List NormalizedComponent :=
  readComponent collection.reader collection.config.machineIdPath .machineId [] collection.world

/-- The read of the product UUID, after the other. -/
def productStep (collection : Collection σ) :
    σ × MachineIdentityComponentStatus × List NormalizedComponent :=
  readComponent collection.reader collection.config.productUuidPath .productUuid
    collection.machineStep.2.2 collection.machineStep.1

theorem machineStep_spec : collection.machineStep.1 =
      (collection.reader collection.config.machineIdPath collection.world).1 ∧
    collection.machineStep.2.2 = (collection.component .machineId).toList ∧
    (collection.machineStep.2.1 = .available ↔ collection.Available .machineId) := by
  have spec := readComponent_spec collection.reader collection.config.machineIdPath .machineId []
    collection.world
  refine ⟨spec.1, spec.2.1, ?_⟩
  rw [available_iff]
  exact spec.2.2

theorem productStep_spec : collection.productStep.2.2 = collection.found ∧
    (collection.productStep.2.1 = .available ↔ collection.Available .productUuid) := by
  have spec := readComponent_spec collection.reader collection.config.productUuidPath .productUuid
    collection.machineStep.2.2 collection.machineStep.1
  obtain ⟨world, listed, -⟩ := @machineStep_spec σ collection
  rw [listed, world] at spec
  rw [productStep, listed, world]
  refine ⟨spec.2.1, ?_⟩
  rw [available_iff]
  exact spec.2.2

theorem result_components : collection.result.value.components =
    ({ type := .machineId, status := collection.machineStep.2.1 },
      { type := .productUuid, status := collection.productStep.2.1 }) := by
  unfold result collectLinuxMachineIdentity
  dsimp only
  split
  · rfl
  split
  · rfl
  split
  · rfl
  split
  · rfl
  · rfl

theorem status_eq_available_iff (type : MachineIdentityComponentType) :
    collection.status type = .available ↔ collection.Available type := by
  cases type with
  | machineId =>
      rw [status, result_components]
      exact machineStep_spec.2.2
  | productUuid =>
      rw [status, result_components]
      exact productStep_spec.2

theorem found_eq_nil_iff : collection.found = [] ↔ ∀ type, ¬ collection.Available type := by
  unfold found component
  rw [List.append_eq_nil_iff, Option.toList_eq_nil_iff, Option.toList_eq_nil_iff,
    Option.map_eq_none_iff, Option.map_eq_none_iff]
  constructor
  · rintro ⟨machine, product⟩ type
    rw [available_iff]
    cases type with
    | machineId => simp [machine]
    | productUuid => simp [product]
  · intro none
    have machine := none .machineId
    have product := none .productUuid
    rw [available_iff] at machine product
    exact ⟨by simpa using machine, by simpa using product⟩

/-- The branches of the function, with what was read in the place of the reads. -/
def outcome (collection : Collection σ) : MachineIdentityResult :=
  let identity : MachineIdentity :=
    { components :=
        ({ type := .machineId, status := collection.machineStep.2.1 },
          { type := .productUuid, status := collection.productStep.2.1 }) }
  if (collection.config.requireMachineId ∧ collection.machineStep.2.1 ≠ .available) ∨
      (collection.config.requireProductUuid ∧ collection.productStep.2.1 ≠ .available) then
    { error := some .machineIdentityUnavailable, value := identity }
  else if collection.found = [] then
    { error := some .machineIdentityUnavailable, value := identity }
  else
    match appendComponents collection.ssl
        (appendField kHashDomain ++ appendU32 collection.found.length)
        (sortComponents collection.found) with
    | .error _ => { error := some .internalError, value := identity }
    | .ok transcript =>
        match sha256 collection.ssl transcript with
        | .error _ => { error := some .internalError, value := identity }
        | .ok digest => { value := { identity with exactId := hexDigest digest } }

theorem result_eq_outcome : collection.result = collection.outcome := by
  obtain ⟨found, -⟩ := @productStep_spec σ collection
  unfold outcome
  rw [← found]
  rfl

theorem ends (collection : Collection σ) : Ends collection := by
  have machine := (@machineStep_spec σ collection).2.2
  have product := (@productStep_spec σ collection).2
  have result := @result_eq_outcome σ collection
  unfold outcome at result
  dsimp only at result
  rw [sortComponents_found] at result
  split at result
  · rename_i lacks
    refine .unavailable (.inl ?_) (by rw [result]) (by rw [result])
    rcases lacks with ⟨required, missing⟩ | ⟨required, missing⟩
    · exact ⟨.machineId, required, fun available => missing (machine.mpr available)⟩
    · exact ⟨.productUuid, required, fun available => missing (product.mpr available)⟩
  rename_i meets
  have meets : ∀ type, collection.required type = true → collection.Available type := by
    intro type required
    by_contra missing
    apply meets
    cases type with
    | machineId => exact .inl ⟨required, fun available => missing (machine.mp available)⟩
    | productUuid => exact .inr ⟨required, fun available => missing (product.mp available)⟩
  split at result
  · rename_i empty
    exact .unavailable (.inr (found_eq_nil_iff.mp empty)) (by rw [result]) (by rw [result])
  rename_i nonempty
  have some_ : ∃ type, collection.Available type := by
    by_contra none
    exact nonempty (found_eq_nil_iff.mpr (not_exists.mp none))
  split at result
  · exact .unhashed meets some_ (by rw [result]) (by rw [result])
  rename_i whole appended
  split at result
  · exact .unhashed meets some_ (by rw [result]) (by rw [result])
  rename_i digest hashes
  refine .identified meets some_ (by rw [result]) ?_
  intro hash computes
  rw [result, sha256_eq_ok computes hashes, appendComponents_eq_ok computes appended]
  rfl

end Collection

/-! ## Canonical identities -/

variable {τ : Type}

/-- Two calls that succeed. -/
theorem exactId_eq_iff {left : Collection σ} {right : Collection τ}
    (leftComputes : ComputesSha256 left.ssl hash) (rightComputes : ComputesSha256 right.ssl hash)
    (apart : CollisionFree hash (hashed hash left.found ++ hashed hash right.found))
    (leftOk : left.result.error = none) (rightOk : right.result.error = none) :
    left.result.value.exactId = right.result.value.exactId ↔
      left.components = right.components := by
  cases left.ends with
  | unavailable _ error => rw [error] at leftOk; cases leftOk
  | unhashed _ _ error => rw [error] at leftOk; cases leftOk
  | identified _ _ _ leftId =>
      cases right.ends with
      | unavailable _ error => rw [error] at rightOk; cases rightOk
      | unhashed _ _ error => rw [error] at rightOk; cases rightOk
      | identified _ _ _ rightId =>
          rw [leftId leftComputes, rightId rightComputes, ← Collection.found_eq_iff]
          constructor
          · intro same
            have fits : ∀ {υ : Type} {collection : Collection υ},
                collection.found.length < 2 ^ 32 := by
              intro υ collection
              exact Nat.lt_of_le_of_lt collection.length_found_le (by decide)
            apply hash_transcript_inj fits fits _ apart (hexDigest_inj same)
            intro component mem
            rcases List.mem_append.mp mem with mem | mem
            · exact Collection.short_of_mem_found mem
            · exact Collection.short_of_mem_found mem
          · intro same
            rw [same]

theorem unavailable_of_lacks {collection : Collection σ}
    (lacks : (∃ type, collection.required type = true ∧ ¬ collection.Available type) ∨
      ∀ type, ¬ collection.Available type) :
    collection.result.error = some .machineIdentityUnavailable ∧
      collection.result.value.exactId = [] := by
  have complete : (∀ type, collection.required type = true → collection.Available type) →
      (∃ type, collection.Available type) → False := by
    rintro meets ⟨present, available⟩
    rcases lacks with ⟨type, required, missing⟩ | none
    · exact missing (meets type required)
    · exact none present available
  cases collection.ends with
  | unavailable _ error exactId => exact ⟨error, exactId⟩
  | unhashed meets some_ => exact (complete meets some_).elim
  | identified meets some_ => exact (complete meets some_).elim

/-- The files hold the same texts, up to white space around them and letter case. -/
def RespelledReading (left : Collection σ) (right : Collection τ) : Prop :=
  ∀ type, left.reading type = right.reading type ∨
    ∃ leftText rightText, left.reading type = some leftText ∧
      right.reading type = some rightText ∧ Respelled leftText rightText

theorem RespelledReading.components {left : Collection σ} {right : Collection τ}
    (respelled : RespelledReading left right) : left.components = right.components := by
  rw [Collection.components_eq_iff]
  intro type
  unfold Collection.value
  rcases respelled type with same | ⟨leftText, rightText, leftReads, rightReads, spelled⟩
  · rw [same]
  · rw [leftReads, rightReads]
    exact spelled.normalize type

theorem machineIdentity_canonical {left : Collection σ} {right : Collection τ}
    (leftComputes : ComputesSha256 left.ssl hash) (rightComputes : ComputesSha256 right.ssl hash)
    (apart : CollisionFree hash (hashed hash left.found ++ hashed hash right.found)) :
    (left.result.error = none → right.result.error = none →
      (left.result.value.exactId = right.result.value.exactId ↔
        left.components = right.components) ∧
      (RespelledReading left right →
        left.result.value.exactId = right.result.value.exactId)) ∧
    (∀ type, left.status type = .available ↔
      ∃ contents value, left.reading type = some contents ∧ Spells type contents value) ∧
    ((∃ type, left.required type = true ∧ ¬ left.Available type) ∨
        (∀ type, ¬ left.Available type) →
      left.result.error = some .machineIdentityUnavailable ∧
        left.result.value.exactId = []) := by
  refine ⟨?_, left.status_eq_available_iff, unavailable_of_lacks⟩
  intro leftOk rightOk
  have canonical := exactId_eq_iff leftComputes rightComputes apart leftOk rightOk
  exact ⟨canonical, fun respelled => canonical.mpr respelled.components⟩

end

/-! ## Three machines -/

def referenceMachine : NormalizedComponent where
  type := ofAscii "machine-id"
  value := ofAscii "0123456789abcdef0123456789abcdef"

def referenceProduct : NormalizedComponent where
  type := ofAscii "product-uuid"
  value := ofAscii "aabbccddeeff00112233445566778899"

def digestOf (value : Nat) : Sha256Digest :=
  ⟨bigEndian kSha256Size value, length_bigEndian _ _⟩

/-- SHA-256 of the two components. -/
def referenceComponentHash (message : Bytes) : Sha256Digest :=
  if message = componentInput referenceMachine then
    digestOf 0x6cc90ae04ff2545c3d922cd2d6872e9fb4feb207f45aaad0db1780ebdada8221
  else if message = componentInput referenceProduct then
    digestOf 0x6545763af311ab64c508da34382b87e5dd3f1f4332e46f4e3c140de06f1dc349
  else .zeros kSha256Size

/-- SHA-256 of the components and of the transcripts of the machines. -/
def referenceHash (message : Bytes) : Sha256Digest :=
  if message = transcript referenceComponentHash [referenceMachine, referenceProduct] then
    digestOf 0x0f6ff091996d653cfa6146c52218bcddc59d50f6597accb3bac3315d7d1b5f0a
  else if message = transcript referenceComponentHash [referenceMachine] then
    digestOf 0xab9914c0b9b567e08bf52e95dba16522dc4cca0bd49207999465dcbb36a2ecdd
  else referenceComponentHash message

def identitySsl : OpenSsl where
  randPrivBytes _ := none
  digestSha256 message := some (referenceHash message)
  digestSignEd25519 _ _ := none
  digestVerifyEd25519 _ _ _ := .error .invalidSignature
  keygenX25519 := none
  pkeyDeriveX25519 _ _ := .error .derivationFailed
  kdfDeriveHkdf _ _ _ _ := none
  encryptChaCha20Poly1305 _ _ _ _ := none
  decryptChaCha20Poly1305 _ _ _ _ _ := none

/-- A machine with the two files, or with the first only. -/
def referenceCollection (machineId : String) (productUuid : Option String) : Collection Unit where
  ssl := identitySsl
  files _ _ := .missing
  config := { machineIdPath := [1], productUuidPath := [2] }
  readFunction := some fun path world =>
    (world, some <|
      if path = [1] then { status := .success, contents := ofAscii machineId }
      else
        match productUuid with
        | none => { status := .missing }
        | some text => { status := .success, contents := ofAscii text })
  world := ()

def mixedCase : Collection Unit :=
  referenceCollection " 0123456789ABCDEF0123456789abcdef\n"
    (some "AABBCCDD-EEFF-0011-2233-445566778899\r\n")

def lowerCase : Collection Unit :=
  referenceCollection "0123456789abcdef0123456789abcdef"
    (some "aabbccdd-eeff-0011-2233-445566778899")

def withoutProduct : Collection Unit :=
  referenceCollection "0123456789abcdef0123456789abcdef" none

instance (inputs : List Bytes) : Decidable (CollisionFree referenceHash inputs) :=
  inferInstanceAs (Decidable (∀ left ∈ inputs, ∀ right ∈ inputs, _ → _))

/-- The spelling of the first machine does not matter, and the third has a
component less. -/
theorem machineIdentity_canonical_spellings :
    mixedCase.result.value.exactId = lowerCase.result.value.exactId ∧
      mixedCase.result.value.exactId ≠ withoutProduct.result.value.exactId := by
  have computes : ComputesSha256 identitySsl referenceHash := by
    intro message digest hashes
    exact (Option.some.inj hashes).symm
  have lower := @machineIdentity_canonical Unit referenceHash Unit mixedCase lowerCase
    computes computes (by decide +kernel)
  have without := @machineIdentity_canonical Unit referenceHash Unit mixedCase withoutProduct
    computes computes (by decide +kernel)
  obtain ⟨same, -⟩ := lower.1 (by decide +kernel) (by decide +kernel)
  obtain ⟨other, -⟩ := without.1 (by decide +kernel) (by decide +kernel)
  constructor
  · apply same.mpr
    apply Collection.components_eq_iff.mpr
    intro type
    cases type <;> decide +kernel
  · intro equal
    have values := Collection.components_eq_iff.mp (other.mp equal) .productUuid
    revert values
    decide +kernel

end YoAuthorize.Core
