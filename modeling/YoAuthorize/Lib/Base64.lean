import YoAuthorize.Lib.Octets

/-!
# Base64

The standard alphabet with padding.  The decoder is strict: a group that is cut short
is padded, it is the last one, and the bits that the padding cuts off are zero.  So
`decode` and `encode` are inverse (`decode_encode` and `encode_of_decode`): a byte
string has one text, and a text that decodes is the text of its bytes.
-/

namespace Base64

open Octets

def alphabet : Bytes :=
  ofAscii "ABCDEFGHIJKLMNOPQRSTUVWXYZabcdefghijklmnopqrstuvwxyz0123456789+/"

/-- The padding character. -/
def pad : UInt8 := 61

/-- The character of six bits. -/
def symbol (bits : Nat) : UInt8 := alphabet.getD bits pad

/-- The six bits that a character stands for. -/
def bitsOf (character : UInt8) : Option Nat := alphabet.idxOf? character

def encode : Bytes → Bytes
  | [] => []
  | [a] => [symbol (a.toNat / 4), symbol (a.toNat % 4 * 16), pad, pad]
  | [a, b] =>
      [symbol (a.toNat / 4), symbol (a.toNat % 4 * 16 + b.toNat / 16),
        symbol (b.toNat % 16 * 4), pad]
  | a :: b :: c :: rest =>
      symbol (a.toNat / 4) :: symbol (a.toNat % 4 * 16 + b.toNat / 16) ::
        symbol (b.toNat % 16 * 4 + c.toNat / 64) :: symbol (c.toNat % 64) :: encode rest

/-- A group that stands for one byte. -/
def decodeOne (w x : Nat) : Option Bytes :=
  if x % 16 = 0 then some [UInt8.ofNat (w * 4 + x / 16)] else none

/-- A group that stands for two bytes. -/
def decodeTwo (w x y : Nat) : Option Bytes :=
  if y % 4 = 0 then some [UInt8.ofNat (w * 4 + x / 16), UInt8.ofNat (x % 16 * 16 + y / 4)]
  else none

def decode : Bytes → Option Bytes
  | [] => some []
  | w :: x :: y :: z :: rest =>
      if rest = [] ∧ y = pad ∧ z = pad then
        match bitsOf w, bitsOf x with
        | some w, some x => decodeOne w x
        | _, _ => none
      else if rest = [] ∧ z = pad then
        match bitsOf w, bitsOf x, bitsOf y with
        | some w, some x, some y => decodeTwo w x y
        | _, _, _ => none
      else
        match bitsOf w, bitsOf x, bitsOf y, bitsOf z, decode rest with
        | some w, some x, some y, some z, some bytes =>
            some (UInt8.ofNat (w * 4 + x / 16) :: UInt8.ofNat (x % 16 * 16 + y / 4) ::
              UInt8.ofNat (y % 4 * 64 + z) :: bytes)
        | _, _, _, _, _ => none
  | _ => none

/-! ## Characters -/

/-- The alphabet has 64 different characters. -/
theorem bitsOf_symbol {bits : Nat} (small : bits < 64) : bitsOf (symbol bits) = some bits := by
  have all : ∀ index : Fin 64, bitsOf (symbol index) = some index.val := by
    decide +kernel
  exact all ⟨bits, small⟩

theorem bitsOf_pad : bitsOf pad = none := by
  decide

theorem symbol_ne_pad {bits : Nat} (small : bits < 64) : symbol bits ≠ pad := by
  intro same
  have known := bitsOf_symbol small
  rw [same, bitsOf_pad] at known
  cases known

theorem bitsOf_eq_some {character : UInt8} {bits : Nat} (known : bitsOf character = some bits) :
    bits < 64 ∧ symbol bits = character := by
  obtain ⟨bound, same, -⟩ := List.findIdx?_eq_some_iff_getElem.mp known
  have size : alphabet.length = 64 := by decide
  refine ⟨size ▸ bound, ?_⟩
  rw [symbol, List.getD_eq_getElem?_getD, List.getElem?_eq_getElem bound, Option.getD_some]
  exact eq_of_beq same

/-! ## Groups -/

theorem toNat_ofNat {value : Nat} (small : value < 256) : (UInt8.ofNat value).toNat = value :=
  UInt8.toNat_ofNat_of_lt' small

theorem decodeOne_eq (a : UInt8) : decodeOne (a.toNat / 4) (a.toNat % 4 * 16) = some [a] := by
  have zero : a.toNat % 4 * 16 % 16 = 0 := by omega
  have value : a.toNat / 4 * 4 + a.toNat % 4 * 16 / 16 = a.toNat := by omega
  rw [decodeOne, if_pos zero, value, UInt8.ofNat_toNat]

theorem decodeTwo_eq (a b : UInt8) :
    decodeTwo (a.toNat / 4) (a.toNat % 4 * 16 + b.toNat / 16) (b.toNat % 16 * 4) =
      some [a, b] := by
  have bounded := b.toNat_lt
  have zero : b.toNat % 16 * 4 % 4 = 0 := by omega
  have first : a.toNat / 4 * 4 + (a.toNat % 4 * 16 + b.toNat / 16) / 16 = a.toNat := by omega
  have second : (a.toNat % 4 * 16 + b.toNat / 16) % 16 * 16 + b.toNat % 16 * 4 / 4 = b.toNat := by
    omega
  rw [decodeTwo, if_pos zero, first, second, UInt8.ofNat_toNat, UInt8.ofNat_toNat]

theorem encode_of_decodeOne {w x : Nat} {bytes : Bytes} (wSmall : w < 64) (xSmall : x < 64)
    (decoded : decodeOne w x = some bytes) : encode bytes = [symbol w, symbol x, pad, pad] := by
  unfold decodeOne at decoded
  split at decoded
  · rename_i zero
    cases decoded
    have value : (UInt8.ofNat (w * 4 + x / 16)).toNat = w * 4 + x / 16 :=
      toNat_ofNat (by omega)
    have first : (w * 4 + x / 16) / 4 = w := by omega
    have second : (w * 4 + x / 16) % 4 * 16 = x := by omega
    rw [encode, value, first, second]
  · cases decoded

theorem encode_of_decodeTwo {w x y : Nat} {bytes : Bytes} (wSmall : w < 64) (xSmall : x < 64)
    (ySmall : y < 64) (decoded : decodeTwo w x y = some bytes) :
    encode bytes = [symbol w, symbol x, symbol y, pad] := by
  unfold decodeTwo at decoded
  split at decoded
  · rename_i zero
    cases decoded
    have a : (UInt8.ofNat (w * 4 + x / 16)).toNat = w * 4 + x / 16 :=
      toNat_ofNat (by omega)
    have b : (UInt8.ofNat (x % 16 * 16 + y / 4)).toNat = x % 16 * 16 + y / 4 :=
      toNat_ofNat (by omega)
    have first : (w * 4 + x / 16) / 4 = w := by omega
    have second : (w * 4 + x / 16) % 4 * 16 + (x % 16 * 16 + y / 4) / 16 = x := by omega
    have third : (x % 16 * 16 + y / 4) % 16 * 4 = y := by omega
    rw [encode, a, b, first, second, third]
  · cases decoded

/-! ## Texts -/

/-- Every byte string is read back. -/
theorem decode_encode (bytes : Bytes) : decode (encode bytes) = some bytes := by
  fun_induction encode bytes with
  | case1 => rfl
  | case2 a =>
      have bounded := a.toNat_lt
      rw [decode, if_pos ⟨rfl, rfl, rfl⟩, bitsOf_symbol (by omega), bitsOf_symbol (by omega)]
      exact decodeOne_eq a
  | case3 a b =>
      have aBounded := a.toNat_lt
      have bBounded := b.toNat_lt
      have other : symbol (b.toNat % 16 * 4) ≠ pad := symbol_ne_pad (by omega)
      rw [decode, if_neg fun padded => other padded.2.1, if_pos ⟨rfl, rfl⟩,
        bitsOf_symbol (by omega), bitsOf_symbol (by omega), bitsOf_symbol (by omega)]
      exact decodeTwo_eq a b
  | case4 a b c rest ih =>
      have aBounded := a.toNat_lt
      have bBounded := b.toNat_lt
      have cBounded := c.toNat_lt
      have other : symbol (c.toNat % 64) ≠ pad := symbol_ne_pad (by omega)
      have first : a.toNat / 4 * 4 + (a.toNat % 4 * 16 + b.toNat / 16) / 16 = a.toNat := by omega
      have second : (a.toNat % 4 * 16 + b.toNat / 16) % 16 * 16 +
          (b.toNat % 16 * 4 + c.toNat / 64) / 4 = b.toNat := by
        omega
      have third : (b.toNat % 16 * 4 + c.toNat / 64) % 4 * 64 + c.toNat % 64 = c.toNat := by omega
      rw [decode, if_neg fun padded => other padded.2.2, if_neg fun padded => other padded.2,
        bitsOf_symbol (by omega), bitsOf_symbol (by omega), bitsOf_symbol (by omega),
        bitsOf_symbol (by omega), ih]
      dsimp only
      rw [first, second, third, UInt8.ofNat_toNat, UInt8.ofNat_toNat, UInt8.ofNat_toNat]

/-- A text that is read is the only one for its bytes. -/
theorem encode_of_decode {text bytes : Bytes} (decoded : decode text = some bytes) :
    encode bytes = text := by
  fun_induction decode text generalizing bytes with
  | case1 =>
      cases decoded
      rfl
  | case2 w x y z rest last wBits xBits xKnown wKnown =>
      obtain ⟨rfl, rfl, rfl⟩ := last
      obtain ⟨wSmall, rfl⟩ := bitsOf_eq_some wKnown
      obtain ⟨xSmall, rfl⟩ := bitsOf_eq_some xKnown
      exact encode_of_decodeOne wSmall xSmall decoded
  | case3 => cases decoded
  | case4 w x y z rest whole last wBits xBits yBits yKnown xKnown wKnown =>
      obtain ⟨rfl, rfl⟩ := last
      obtain ⟨wSmall, rfl⟩ := bitsOf_eq_some wKnown
      obtain ⟨xSmall, rfl⟩ := bitsOf_eq_some xKnown
      obtain ⟨ySmall, rfl⟩ := bitsOf_eq_some yKnown
      exact encode_of_decodeTwo wSmall xSmall ySmall decoded
  | case5 => cases decoded
  | case6 w x y z rest whole last wBits xBits yBits zBits later restKnown zKnown yKnown xKnown
      wKnown ih =>
      obtain ⟨wSmall, rfl⟩ := bitsOf_eq_some wKnown
      obtain ⟨xSmall, rfl⟩ := bitsOf_eq_some xKnown
      obtain ⟨ySmall, rfl⟩ := bitsOf_eq_some yKnown
      obtain ⟨zSmall, rfl⟩ := bitsOf_eq_some zKnown
      cases decoded
      have a : (UInt8.ofNat (wBits * 4 + xBits / 16)).toNat = wBits * 4 + xBits / 16 :=
        toNat_ofNat (by omega)
      have b : (UInt8.ofNat (xBits % 16 * 16 + yBits / 4)).toNat = xBits % 16 * 16 + yBits / 4 :=
        toNat_ofNat (by omega)
      have c : (UInt8.ofNat (yBits % 4 * 64 + zBits)).toNat = yBits % 4 * 64 + zBits :=
        toNat_ofNat (by omega)
      have first : (wBits * 4 + xBits / 16) / 4 = wBits := by omega
      have second : (wBits * 4 + xBits / 16) % 4 * 16 + (xBits % 16 * 16 + yBits / 4) / 16 =
          xBits := by
        omega
      have third : (xBits % 16 * 16 + yBits / 4) % 16 * 4 + (yBits % 4 * 64 + zBits) / 64 =
          yBits := by
        omega
      have fourth : (yBits % 4 * 64 + zBits) % 64 = zBits := by omega
      rw [encode, a, b, c, first, second, third, fourth, ih restKnown]
  | case7 => cases decoded
  | case8 => cases decoded

end Base64
