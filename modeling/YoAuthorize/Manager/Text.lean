import YoAuthorize.Lib.Octets

/-!
# Strings of the manager

What `server.mjs` uses of JavaScript strings: white space, `trim`, the split at
line ends, and the decoding of a buffer.  A string is a list of characters where
the code goes through it.
-/

namespace YoAuthorize.Manager

open Octets

/-! ## White space and lines -/

def isLineTerminator (c : Char) : Bool :=
  c = '\n' ∨ c = '\r' ∨ c = '\u2028' ∨ c = '\u2029'

/-- `\s` of a regular expression, and what `trim` removes. -/
def isSpace (c : Char) : Bool :=
  isLineTerminator c ∨ c = '\t' ∨ c = '\u000b' ∨ c = '\u000c' ∨ c = ' ' ∨ c = '\u00a0' ∨
    c = '\u1680' ∨ ('\u2000' ≤ c ∧ c ≤ '\u200a') ∨ c = '\u202f' ∨ c = '\u205f' ∨ c = '\u3000' ∨
    c = '\ufeff'

def trimEnd (text : List Char) : List Char := (text.reverse.dropWhile isSpace).reverse

def trim (text : List Char) : List Char := trimEnd (text.dropWhile isSpace)

/-- `split(/\r?\n/)`. -/
def splitLines : List Char → List (List Char)
  | [] => [[]]
  | '\r' :: '\n' :: rest => [] :: splitLines rest
  | '\n' :: rest => [] :: splitLines rest
  | c :: rest =>
      match splitLines rest with
      | [] => [[c]]
      | line :: lines => (c :: line) :: lines

/-! ## Decoding of buffers -/

/-- The decoder of UTF-8: the bytes still needed, the code point so far, and the bounds
of the next byte. -/
structure Utf8Decoder : Type where
  needed : Nat := 0
  codePoint : Nat := 0
  lower : Nat := 0x80
  upper : Nat := 0xBF

def replacementCharacter : Char := '\ufffd'

/-- The first byte of a sequence. -/
def Utf8Decoder.start (byte : Nat) : List Char × Utf8Decoder :=
  if byte ≤ 0x7F then ([Char.ofNat byte], {})
  else if 0xC2 ≤ byte ∧ byte ≤ 0xDF then ([], { needed := 1, codePoint := byte - 0xC0 })
  else if 0xE0 ≤ byte ∧ byte ≤ 0xEF then
    ([], { needed := 2, codePoint := byte - 0xE0, lower := if byte = 0xE0 then 0xA0 else 0x80,
           upper := if byte = 0xED then 0x9F else 0xBF })
  else if 0xF0 ≤ byte ∧ byte ≤ 0xF4 then
    ([], { needed := 3, codePoint := byte - 0xF0, lower := if byte = 0xF0 then 0x90 else 0x80,
           upper := if byte = 0xF4 then 0x8F else 0xBF })
  else ([replacementCharacter], {})

/-- A byte that does not continue the sequence is read again as a first one. -/
def Utf8Decoder.feed (decoder : Utf8Decoder) (byte : Nat) : List Char × Utf8Decoder :=
  if decoder.needed = 0 then Utf8Decoder.start byte
  else if byte < decoder.lower ∨ decoder.upper < byte then
    let next := Utf8Decoder.start byte
    (replacementCharacter :: next.1, next.2)
  else
    let codePoint := 64 * decoder.codePoint + (byte - 0x80)
    if decoder.needed = 1 then ([Char.ofNat codePoint], {})
    else ([], { needed := decoder.needed - 1, codePoint })

def Utf8Decoder.decode : Utf8Decoder → Bytes → List Char
  | decoder, [] => if decoder.needed = 0 then [] else [replacementCharacter]
  | decoder, byte :: rest =>
      let next := decoder.feed byte.toNat
      next.1 ++ decode next.2 rest

/-- `toString` of a `Buffer`. -/
def bufferToString (bytes : Bytes) : String := .ofList (Utf8Decoder.decode {} bytes)

example : Utf8Decoder.decode {} [0x68, 0xE2, 0x82, 0xAC, 0xE2, 0x82, 0x21, 0xFF, 0xED, 0xA0] =
    "h€\ufffd!\ufffd\ufffd\ufffd".toList := by
  decide +kernel

/-! ## Decoding of what was encoded -/

theorem Utf8Decoder.decode_ofNat (decoder : Utf8Decoder) {byte : Nat} (small : byte < 256)
    (rest : Bytes) :
    decoder.decode (UInt8.ofNat byte :: rest) =
      (decoder.feed byte).1 ++ (decoder.feed byte).2.decode rest := by
  rw [Utf8Decoder.decode, UInt8.toNat_ofNat', Nat.mod_eq_of_lt small]

section Sequences

variable (rest : Bytes)

theorem decode_first_two {i : Nat} (lower : 2 ≤ i) (upper : i < 0x20) :
    Utf8Decoder.decode {} (UInt8.ofNat (i + 0xc0) :: rest) =
      Utf8Decoder.decode { needed := 1, codePoint := i } rest := by
  rw [Utf8Decoder.decode_ofNat _ (by omega), Utf8Decoder.feed, if_pos rfl, Utf8Decoder.start,
    if_neg (by omega), if_pos (by omega), Nat.add_sub_cancel]
  rfl

theorem decode_first_three {i : Nat} (upper : i < 0x10) :
    Utf8Decoder.decode {} (UInt8.ofNat (i + 0xe0) :: rest) =
      Utf8Decoder.decode
        { needed := 2, codePoint := i, lower := if i + 0xe0 = 0xE0 then 0xA0 else 0x80
          upper := if i + 0xe0 = 0xED then 0x9F else 0xBF } rest := by
  rw [Utf8Decoder.decode_ofNat _ (by omega), Utf8Decoder.feed, if_pos rfl, Utf8Decoder.start,
    if_neg (by omega), if_neg (by omega), if_pos (by omega), Nat.add_sub_cancel]
  rfl

theorem decode_first_four {i : Nat} (upper : i ≤ 4) :
    Utf8Decoder.decode {} (UInt8.ofNat (i + 0xf0) :: rest) =
      Utf8Decoder.decode
        { needed := 3, codePoint := i, lower := if i + 0xf0 = 0xF0 then 0x90 else 0x80
          upper := if i + 0xf0 = 0xF4 then 0x8F else 0xBF } rest := by
  rw [Utf8Decoder.decode_ofNat _ (by omega), Utf8Decoder.feed, if_pos rfl, Utf8Decoder.start,
    if_neg (by omega), if_neg (by omega), if_neg (by omega), if_pos (by omega),
    Nat.add_sub_cancel]
  rfl

theorem decode_next {needed codePoint lower upper i : Nat} (small : i < 0x40)
    (lower_ : lower ≤ i + 0x80) (upper_ : i + 0x80 ≤ upper) :
    Utf8Decoder.decode { needed := needed + 2, codePoint, lower, upper }
        (UInt8.ofNat (i + 0x80) :: rest) =
      Utf8Decoder.decode { needed := needed + 1, codePoint := 64 * codePoint + i } rest := by
  rw [Utf8Decoder.decode_ofNat _ (by omega), Utf8Decoder.feed, if_neg (Nat.succ_ne_zero _),
    if_neg (by dsimp only; omega), if_neg (by dsimp only; omega), Nat.add_sub_cancel]
  rfl

theorem decode_last {codePoint lower upper i : Nat} (small : i < 0x40)
    (lower_ : lower ≤ i + 0x80) (upper_ : i + 0x80 ≤ upper) :
    Utf8Decoder.decode { needed := 1, codePoint, lower, upper } (UInt8.ofNat (i + 0x80) :: rest) =
      Char.ofNat (64 * codePoint + i) :: Utf8Decoder.decode {} rest := by
  rw [Utf8Decoder.decode_ofNat _ (by omega), Utf8Decoder.feed, if_neg Nat.one_ne_zero,
    if_neg (by dsimp only; omega), if_pos rfl, Nat.add_sub_cancel]
  rfl

theorem decode_one {v : Nat} (small : v ≤ 0x7f) :
    Utf8Decoder.decode {} (UInt8.ofNat v :: rest) = Char.ofNat v :: Utf8Decoder.decode {} rest := by
  rw [Utf8Decoder.decode_ofNat _ (by omega), Utf8Decoder.feed, if_pos rfl, Utf8Decoder.start,
    if_pos small]
  rfl

theorem decode_two {v : Nat} (large : 0x7f < v) (small : v ≤ 0x7ff) :
    Utf8Decoder.decode {}
        (UInt8.ofNat (v / 64 % 0x20 + 0xc0) :: UInt8.ofNat (v % 0x40 + 0x80) :: rest) =
      Char.ofNat v :: Utf8Decoder.decode {} rest := by
  have first : v / 64 % 0x20 = v / 64 := by omega
  have last : 64 * (v / 64) + v % 0x40 = v := by omega
  rw [first, decode_first_two _ (by omega) (by omega),
    decode_last _ (by omega) (by omega) (by omega), last]

theorem decode_three {v : Nat} (large : 0x7ff < v) (small : v ≤ 0xffff)
    (valid : v < 0xD800 ∨ 0xDFFF < v) :
    Utf8Decoder.decode {}
        (UInt8.ofNat (v / 4096 % 0x10 + 0xe0) :: UInt8.ofNat (v / 64 % 0x40 + 0x80) ::
          UInt8.ofNat (v % 0x40 + 0x80) :: rest) =
      Char.ofNat v :: Utf8Decoder.decode {} rest := by
  have first : v / 4096 % 0x10 = v / 4096 := by omega
  have middle : 64 * (v / 4096) + v / 64 % 0x40 = v / 64 := by omega
  have last : 64 * (v / 64) + v % 0x40 = v := by omega
  rw [first, decode_first_three _ (by omega),
    decode_next _ (by omega) (by split <;> omega) (by split <;> omega), middle,
    decode_last _ (by omega) (by omega) (by omega), last]

theorem decode_four {v : Nat} (large : 0xffff < v) (small : v < 0x110000) :
    Utf8Decoder.decode {}
        (UInt8.ofNat (v / 262144 % 0x08 + 0xf0) :: UInt8.ofNat (v / 4096 % 0x40 + 0x80) ::
          UInt8.ofNat (v / 64 % 0x40 + 0x80) :: UInt8.ofNat (v % 0x40 + 0x80) :: rest) =
      Char.ofNat v :: Utf8Decoder.decode {} rest := by
  have first : v / 262144 % 0x08 = v / 262144 := by omega
  have second : 64 * (v / 262144) + v / 4096 % 0x40 = v / 4096 := by omega
  have third : 64 * (v / 4096) + v / 64 % 0x40 = v / 64 := by omega
  have last : 64 * (v / 64) + v % 0x40 = v := by omega
  rw [first, decode_first_four _ (by omega),
    decode_next _ (by omega) (by split <;> omega) (by split <;> omega), second,
    decode_next _ (by omega) (by omega) (by omega), third,
    decode_last _ (by omega) (by omega) (by omega), last]

/-- A character is read back from its bytes, whatever follows. -/
theorem decode_utf8EncodeChar (c : Char) :
    Utf8Decoder.decode {} (String.utf8EncodeChar c ++ rest) = c :: Utf8Decoder.decode {} rest := by
  have valid : c.val.toNat < 0xD800 ∨ 0xDFFF < c.val.toNat ∧ c.val.toNat < 0x110000 := c.valid
  have same : Char.ofNat c.val.toNat = c := Char.ofNat_toNat c
  unfold String.utf8EncodeChar
  dsimp only
  generalize c.val.toNat = v at valid same ⊢
  subst same
  split
  · next one => exact decode_one rest one
  · next two =>
      split
      · next small => exact decode_two rest (by omega) small
      · next three =>
          split
          · next small => exact decode_three rest (by omega) small (by omega)
          · next four => exact decode_four rest (by omega) (by omega)

end Sequences

/-- Decoding takes back what encoding has made of a text. -/
theorem bufferToString_utf8 (text : List Char) :
    bufferToString (utf8 (String.ofList text)) = String.ofList text := by
  rw [bufferToString, utf8_ofList]
  congr 1
  induction text with
  | nil => rfl
  | cons c text ih => rw [List.flatMap_cons, decode_utf8EncodeChar, ih]

end YoAuthorize.Manager
