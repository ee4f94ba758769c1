import Mathlib.Tactic.Ring
import Mathlib.Data.List.Basic
import Mathlib.Algebra.Order.Ring.Nat

/-!
# Byte strings and big-endian words

Byte strings are lists of `UInt8`; an array of a fixed size carries its length.
`bigEndian width value` writes the `width` low bytes of `value`, most
significant first, and `ofBigEndian` reads a byte string back.  The two are
inverse on values that fit (`ofBigEndian_bigEndian`) and on strings of the
right length (`bigEndian_ofBigEndian`), so a fixed-width field is determined by
its bytes and the other way round.
-/

namespace Octets

abbrev Bytes : Type := List UInt8

instance : LawfulBEq Bytes := inferInstance

/-- A byte array of a fixed size. -/
abbrev FixedBytes (n : Nat) : Type := { bytes : Bytes // bytes.length = n }

/-- The all-zero array, which is also what wiping an array leaves behind. -/
def FixedBytes.zeros (n : Nat) : FixedBytes n :=
  ⟨List.replicate n 0, List.length_replicate⟩

def ofAscii (text : String) : Bytes :=
  text.toList.map fun c => UInt8.ofNat c.toNat

/-- The UTF-8 bytes of a text. -/
def utf8 (text : String) : Bytes := text.toByteArray.data.toList

def ofUtf8 (bytes : Bytes) : Option String := String.fromUTF8? ⟨bytes.toArray⟩

theorem utf8_inj {left right : String} : utf8 left = utf8 right ↔ left = right := by
  constructor
  · intro same
    exact String.toByteArray_inj.mp (ByteArray.ext (Array.toList_inj.mp same))
  · rintro rfl
    rfl

/-- A text is encoded one character at a time. -/
theorem utf8_ofList (chars : List Char) :
    utf8 (String.ofList chars) = chars.flatMap String.utf8EncodeChar := by
  unfold utf8
  rw [String.toByteArray_ofList, List.utf8Encode, List.toList_data_toByteArray]

theorem length_utf8_ofList_le (chars : List Char) :
    (utf8 (String.ofList chars)).length ≤ 4 * chars.length := by
  rw [utf8_ofList]
  induction chars with
  | nil => exact Nat.le_refl 0
  | cons char chars ih =>
      have size := char.utf8Size_le_four
      rw [List.flatMap_cons, List.length_append, String.length_utf8EncodeChar, List.length_cons]
      omega

theorem ofUtf8_utf8 (text : String) : ofUtf8 (utf8 text) = some text :=
  dif_pos text.isValidUTF8

/-- The `width` low bytes of `value`, most significant first. -/
def bigEndian : Nat → Nat → Bytes
  | 0, _ => []
  | width + 1, value => UInt8.ofNat (value / 256 ^ width) :: bigEndian width value

/-- The number that bytes stand for. -/
def ofBigEndian (bytes : Bytes) : Nat :=
  bytes.foldl (fun acc byte => acc * 256 + byte.toNat) 0

@[simp] theorem length_bigEndian (width value : Nat) : (bigEndian width value).length = width := by
  induction width with
  | zero => rfl
  | succ width ih => simp only [bigEndian, List.length_cons, ih]

theorem foldl_bigEndian (width value acc : Nat) :
    (bigEndian width value).foldl (fun acc byte => acc * 256 + byte.toNat) acc =
      acc * 256 ^ width + value % 256 ^ width := by
  induction width generalizing acc with
  | zero => simp only [bigEndian, List.foldl_nil, pow_zero, mul_one, Nat.mod_one, add_zero]
  | succ width ih =>
      have top : (UInt8.ofNat (value / 256 ^ width)).toNat = value / 256 ^ width % 256 :=
        UInt8.toNat_ofNat'
      rw [bigEndian, List.foldl_cons, ih, top, Nat.mod_pow_succ]
      ring

/-- Reading back a written word returns it, when it fits the width. -/
theorem ofBigEndian_bigEndian {width value : Nat} (fits : value < 256 ^ width) :
    ofBigEndian (bigEndian width value) = value := by
  rw [ofBigEndian, foldl_bigEndian, Nat.zero_mul, Nat.zero_add, Nat.mod_eq_of_lt fits]

theorem bigEndian_injOn {width left right : Nat}
    (leftFits : left < 256 ^ width) (rightFits : right < 256 ^ width)
    (same : bigEndian width left = bigEndian width right) : left = right := by
  rw [← ofBigEndian_bigEndian leftFits, same, ofBigEndian_bigEndian rightFits]

theorem foldl_eq_add_ofBigEndian (bytes : Bytes) (acc : Nat) :
    bytes.foldl (fun acc byte => acc * 256 + byte.toNat) acc =
      acc * 256 ^ bytes.length + ofBigEndian bytes := by
  induction bytes generalizing acc with
  | nil => simp only [List.foldl_nil, List.length_nil, pow_zero, mul_one, ofBigEndian, add_zero]
  | cons byte bytes ih =>
      have head : ofBigEndian (byte :: bytes) =
          (0 * 256 + byte.toNat) * 256 ^ bytes.length + ofBigEndian bytes := ih _
      rw [List.foldl_cons, ih, head, List.length_cons]
      ring

theorem ofBigEndian_cons (byte : UInt8) (bytes : Bytes) :
    ofBigEndian (byte :: bytes) = byte.toNat * 256 ^ bytes.length + ofBigEndian bytes := by
  rw [ofBigEndian, List.foldl_cons, foldl_eq_add_ofBigEndian, Nat.zero_mul, Nat.zero_add]

theorem ofBigEndian_lt (bytes : Bytes) : ofBigEndian bytes < 256 ^ bytes.length := by
  induction bytes with
  | nil => exact Nat.one_pos
  | cons byte bytes ih =>
      have byteLt : byte.toNat < 256 := byte.toNat_lt
      rw [ofBigEndian_cons, List.length_cons]
      calc byte.toNat * 256 ^ bytes.length + ofBigEndian bytes
          < byte.toNat * 256 ^ bytes.length + 256 ^ bytes.length := Nat.add_lt_add_left ih _
        _ = (byte.toNat + 1) * 256 ^ bytes.length := by ring
        _ ≤ 256 * 256 ^ bytes.length := Nat.mul_le_mul_right _ byteLt
        _ = 256 ^ (bytes.length + 1) := by ring

/-- Only the low `width` bytes matter. -/
theorem bigEndian_add_mul (width value high : Nat) :
    bigEndian width (high * 256 ^ width + value) = bigEndian width value := by
  induction width generalizing high with
  | zero => rfl
  | succ width ih =>
      have shift : high * 256 ^ (width + 1) + value = high * 256 * 256 ^ width + value := by ring
      have divide : (high * 256 * 256 ^ width + value) / 256 ^ width =
          value / 256 ^ width + high * 256 := by
        rw [Nat.add_comm, Nat.add_mul_div_right _ _ (Nat.pow_pos (by decide))]
      have top : UInt8.ofNat (value / 256 ^ width + high * 256) =
          UInt8.ofNat (value / 256 ^ width) := by
        apply UInt8.toNat_inj.mp
        rw [UInt8.toNat_ofNat', UInt8.toNat_ofNat']
        exact Nat.add_mul_mod_self_right _ _ _
      rw [bigEndian, bigEndian, shift, divide, top, ih]

/-- Writing back a read string returns it. -/
theorem bigEndian_ofBigEndian {width : Nat} {bytes : Bytes} (length : bytes.length = width) :
    bigEndian width (ofBigEndian bytes) = bytes := by
  induction bytes generalizing width with
  | nil => subst length; rfl
  | cons byte bytes ih =>
      subst length
      have top : (byte.toNat * 256 ^ bytes.length + ofBigEndian bytes) / 256 ^ bytes.length =
          byte.toNat := by
        rw [Nat.add_comm, Nat.add_mul_div_right _ _ (Nat.pow_pos (by decide)),
          Nat.div_eq_of_lt (ofBigEndian_lt bytes), Nat.zero_add]
      rw [ofBigEndian_cons, List.length_cons, bigEndian, top, bigEndian_add_mul, ih rfl,
        UInt8.ofNat_toNat]

/-! ## Machine words

The shift loops that write and read 16, 32 and 64-bit words, related to
`bigEndian` and `ofBigEndian`. -/

def u16Bytes (value : UInt16) : Bytes :=
  [(value >>> 8).toUInt8, value.toUInt8]

def u32Bytes (value : UInt32) : Bytes :=
  (List.range 4).map fun i => (value >>> (24 - 8 * UInt32.ofNat i)).toUInt8

def u64Bytes (value : UInt64) : Bytes :=
  (List.range 8).map fun i => (value >>> (56 - 8 * UInt64.ofNat i)).toUInt8

/-- The shifts and masks of the program are the bytes of the number. -/
theorem u16Bytes_eq (value : UInt16) : u16Bytes value = bigEndian 2 value.toNat := by
  have high : (value >>> 8).toUInt8 = UInt8.ofNat (value.toNat / 256) := by
    apply UInt8.toNat_inj.mp
    rw [UInt16.toNat_toUInt8, UInt8.toNat_ofNat', UInt16.toNat_shiftRight]
    rw [show (8 : UInt16).toNat % 16 = 8 from rfl, Nat.shiftRight_eq_div_pow]
  have low : value.toUInt8 = UInt8.ofNat value.toNat := by
    apply UInt8.toNat_inj.mp
    rw [UInt16.toNat_toUInt8, UInt8.toNat_ofNat']
  rw [u16Bytes, high, low, bigEndian, bigEndian, bigEndian, pow_one, pow_zero, Nat.div_one]

theorem u32Shift_toUInt8 (value : UInt32) {k : Nat} (small : k < 32) :
    (value >>> UInt32.ofNat k).toUInt8 = UInt8.ofNat (value.toNat / 2 ^ k) := by
  apply UInt8.toNat_inj.mp
  rw [UInt32.toNat_toUInt8, UInt8.toNat_ofNat', UInt32.toNat_shiftRight,
    Nat.shiftRight_eq_div_pow, UInt32.toNat_ofNat', Nat.mod_eq_of_lt (b := 2 ^ 32) (by omega),
    Nat.mod_eq_of_lt small]

theorem u32Bytes_eq (value : UInt32) : u32Bytes value = bigEndian 4 value.toNat := by
  change [(value >>> UInt32.ofNat 24).toUInt8, (value >>> UInt32.ofNat 16).toUInt8,
    (value >>> UInt32.ofNat 8).toUInt8, (value >>> UInt32.ofNat 0).toUInt8] = _
  rw [u32Shift_toUInt8 _ (by decide), u32Shift_toUInt8 _ (by decide),
    u32Shift_toUInt8 _ (by decide), u32Shift_toUInt8 _ (by decide)]
  rfl

theorem u64Shift_toUInt8 (value : UInt64) {k : Nat} (small : k < 64) :
    (value >>> UInt64.ofNat k).toUInt8 = UInt8.ofNat (value.toNat / 2 ^ k) := by
  apply UInt8.toNat_inj.mp
  rw [UInt64.toNat_toUInt8, UInt8.toNat_ofNat', UInt64.toNat_shiftRight,
    Nat.shiftRight_eq_div_pow, UInt64.toNat_ofNat', Nat.mod_eq_of_lt (b := 2 ^ 64) (by omega),
    Nat.mod_eq_of_lt small]

theorem u64Bytes_eq (value : UInt64) : u64Bytes value = bigEndian 8 value.toNat := by
  change [(value >>> UInt64.ofNat 56).toUInt8, (value >>> UInt64.ofNat 48).toUInt8,
    (value >>> UInt64.ofNat 40).toUInt8, (value >>> UInt64.ofNat 32).toUInt8,
    (value >>> UInt64.ofNat 24).toUInt8, (value >>> UInt64.ofNat 16).toUInt8,
    (value >>> UInt64.ofNat 8).toUInt8, (value >>> UInt64.ofNat 0).toUInt8] = _
  rw [u64Shift_toUInt8 _ (by decide), u64Shift_toUInt8 _ (by decide),
    u64Shift_toUInt8 _ (by decide), u64Shift_toUInt8 _ (by decide),
    u64Shift_toUInt8 _ (by decide), u64Shift_toUInt8 _ (by decide),
    u64Shift_toUInt8 _ (by decide), u64Shift_toUInt8 _ (by decide)]
  rfl

@[simp] theorem length_u16Bytes (value : UInt16) : (u16Bytes value).length = 2 := rfl

@[simp] theorem length_u32Bytes (value : UInt32) : (u32Bytes value).length = 4 := rfl

@[simp] theorem length_u64Bytes (value : UInt64) : (u64Bytes value).length = 8 := rfl

/-- A word is determined by its bytes. -/
theorem u16Bytes_inj {left right : UInt16} (same : u16Bytes left = u16Bytes right) :
    left = right := by
  rw [u16Bytes_eq, u16Bytes_eq] at same
  exact UInt16.toNat_inj.mp (bigEndian_injOn left.toNat_lt right.toNat_lt same)

theorem u32Bytes_inj {left right : UInt32} (same : u32Bytes left = u32Bytes right) :
    left = right := by
  rw [u32Bytes_eq, u32Bytes_eq] at same
  exact UInt32.toNat_inj.mp (bigEndian_injOn left.toNat_lt right.toNat_lt same)

theorem u64Bytes_inj {left right : UInt64} (same : u64Bytes left = u64Bytes right) :
    left = right := by
  rw [u64Bytes_eq, u64Bytes_eq] at same
  exact UInt64.toNat_inj.mp (bigEndian_injOn left.toNat_lt right.toNat_lt same)

/-! Reading: the fold `value << 8 | byte`, which keeps the low bits of `ofBigEndian`. -/

def u32OfBytes (bytes : Bytes) : UInt32 :=
  bytes.foldl (fun value byte => (value <<< 8) ||| byte.toUInt32) 0

def u64OfBytes (bytes : Bytes) : UInt64 :=
  bytes.foldl (fun value byte => (value <<< 8) ||| byte.toUInt64) 0

/-- One step of a `value << 8 | byte` fold, on naturals. -/
theorem shift_or_byte {value byte width : Nat} (wide : 8 ≤ width) (small : byte < 2 ^ 8) :
    (value * 2 ^ 8 % 2 ^ width) ||| byte = (value * 256 + byte) % 2 ^ width := by
  obtain ⟨high, rfl⟩ : ∃ high, width = high + 8 := ⟨width - 8, by omega⟩
  have split : value * 2 ^ 8 % 2 ^ (high + 8) = (value % 2 ^ high) <<< 8 := by
    rw [Nat.shiftLeft_eq, Nat.pow_add, Nat.mul_mod_mul_right]
  have fits : (value % 2 ^ high) * 2 ^ 8 + byte < 2 ^ (high + 8) := by
    have := Nat.mod_lt value (Nat.two_pow_pos high)
    calc (value % 2 ^ high) * 2 ^ 8 + byte
        < (value % 2 ^ high) * 2 ^ 8 + 2 ^ 8 := Nat.add_lt_add_left small _
      _ = (value % 2 ^ high + 1) * 2 ^ 8 := by ring
      _ ≤ 2 ^ high * 2 ^ 8 := Nat.mul_le_mul_right _ this
      _ = 2 ^ (high + 8) := by ring
  have decompose : value * 256 + byte =
      (value % 2 ^ high) * 2 ^ 8 + byte + 2 ^ (high + 8) * (value / 2 ^ high) := by
    have := Nat.mod_add_div value (2 ^ high)
    calc value * 256 + byte
        = (value % 2 ^ high + 2 ^ high * (value / 2 ^ high)) * 256 + byte := by rw [this]
      _ = (value % 2 ^ high) * 2 ^ 8 + byte + 2 ^ (high + 8) * (value / 2 ^ high) := by ring
  rw [split, ← Nat.shiftLeft_add_eq_or_of_lt small, Nat.shiftLeft_eq, decompose,
    Nat.add_mul_mod_self_left, Nat.mod_eq_of_lt fits]

theorem u32Step_toNat (value : UInt32) (byte : UInt8) :
    ((value <<< 8) ||| byte.toUInt32).toNat = (value.toNat * 256 + byte.toNat) % 2 ^ 32 := by
  rw [UInt32.toNat_or, UInt32.toNat_shiftLeft, UInt8.toNat_toUInt32, Nat.shiftLeft_eq]
  exact shift_or_byte (by decide) byte.toNat_lt

theorem u64Step_toNat (value : UInt64) (byte : UInt8) :
    ((value <<< 8) ||| byte.toUInt64).toNat = (value.toNat * 256 + byte.toNat) % 2 ^ 64 := by
  rw [UInt64.toNat_or, UInt64.toNat_shiftLeft, UInt8.toNat_toUInt64, Nat.shiftLeft_eq]
  exact shift_or_byte (by decide) byte.toNat_lt

/-- A word fold whose step is `value * 256 + byte` modulo `modulus` computes the
big-endian value modulo `modulus`. -/
theorem toNat_foldl_word {Word : Type} (toNat : Word → Nat) (step : Word → UInt8 → Word)
    {modulus : Nat}
    (spec : ∀ value byte, toNat (step value byte) = (toNat value * 256 + byte.toNat) % modulus)
    (bytes : Bytes) (acc : Word) (reduced : toNat acc < modulus) :
    toNat (bytes.foldl step acc) =
      (toNat acc * 256 ^ bytes.length + ofBigEndian bytes) % modulus := by
  induction bytes generalizing acc with
  | nil =>
      rw [List.foldl_nil, List.length_nil, pow_zero, mul_one]
      exact (Nat.mod_eq_of_lt reduced).symm
  | cons byte bytes ih =>
      have next : toNat (step acc byte) < modulus := by
        rw [spec]
        exact Nat.mod_lt _ (Nat.zero_lt_of_lt reduced)
      have shift : toNat acc * 256 ^ (bytes.length + 1) +
            (byte.toNat * 256 ^ bytes.length + ofBigEndian bytes) =
          (toNat acc * 256 + byte.toNat) * 256 ^ bytes.length + ofBigEndian bytes := by ring
      rw [List.foldl_cons, ih _ next, spec, ofBigEndian_cons, List.length_cons, shift]
      rw [Nat.add_mod, Nat.mul_mod, Nat.mod_mod, ← Nat.mul_mod, ← Nat.add_mod]

theorem toNat_u32OfBytes {bytes : Bytes} (length : bytes.length = 4) :
    (u32OfBytes bytes).toNat = ofBigEndian bytes := by
  have folded := toNat_foldl_word UInt32.toNat _ u32Step_toNat bytes 0 (by decide)
  have small := ofBigEndian_lt bytes
  rw [length] at small
  rw [u32OfBytes, folded, UInt32.toNat_zero, Nat.zero_mul, Nat.zero_add]
  exact Nat.mod_eq_of_lt small

theorem toNat_u64OfBytes {bytes : Bytes} (length : bytes.length = 8) :
    (u64OfBytes bytes).toNat = ofBigEndian bytes := by
  have folded := toNat_foldl_word UInt64.toNat _ u64Step_toNat bytes 0 (by decide)
  have small := ofBigEndian_lt bytes
  rw [length] at small
  rw [u64OfBytes, folded, UInt64.toNat_zero, Nat.zero_mul, Nat.zero_add]
  exact Nat.mod_eq_of_lt small

/-- Words and byte strings of their width are in bijection. -/
theorem u32OfBytes_u32Bytes (value : UInt32) : u32OfBytes (u32Bytes value) = value := by
  apply UInt32.toNat_inj.mp
  rw [toNat_u32OfBytes (length_u32Bytes value), u32Bytes_eq,
    ofBigEndian_bigEndian value.toNat_lt]

theorem u64OfBytes_u64Bytes (value : UInt64) : u64OfBytes (u64Bytes value) = value := by
  apply UInt64.toNat_inj.mp
  rw [toNat_u64OfBytes (length_u64Bytes value), u64Bytes_eq,
    ofBigEndian_bigEndian value.toNat_lt]

theorem u32Bytes_u32OfBytes {bytes : Bytes} (length : bytes.length = 4) :
    u32Bytes (u32OfBytes bytes) = bytes := by
  rw [u32Bytes_eq, toNat_u32OfBytes length, bigEndian_ofBigEndian length]

theorem u64Bytes_u64OfBytes {bytes : Bytes} (length : bytes.length = 8) :
    u64Bytes (u64OfBytes bytes) = bytes := by
  rw [u64Bytes_eq, toNat_u64OfBytes length, bigEndian_ofBigEndian length]

/-- The two-byte read `first << 8 | second`. -/
def u16OfBytes (bytes : Bytes) : UInt16 :=
  ((bytes.getD 0 0).toUInt16 <<< 8) ||| (bytes.getD 1 0).toUInt16

theorem toNat_u16OfBytes (first second : UInt8) :
    (u16OfBytes [first, second]).toNat = first.toNat * 256 + second.toNat := by
  have high : first.toNat < 2 ^ 8 := first.toNat_lt
  have low : second.toNat < 2 ^ 8 := second.toNat_lt
  change ((first.toUInt16 <<< 8) ||| second.toUInt16).toNat = _
  rw [UInt16.toNat_or, UInt16.toNat_shiftLeft, UInt8.toNat_toUInt16, UInt8.toNat_toUInt16,
    Nat.shiftLeft_eq]
  exact (shift_or_byte (by decide) low).trans (Nat.mod_eq_of_lt (by omega))

theorem ofBigEndian_pair (first second : UInt8) :
    ofBigEndian [first, second] = first.toNat * 256 + second.toNat := by
  rw [ofBigEndian, List.foldl_cons, List.foldl_cons, List.foldl_nil, Nat.zero_mul, Nat.zero_add]

theorem u16OfBytes_u16Bytes (value : UInt16) : u16OfBytes (u16Bytes value) = value := by
  apply UInt16.toNat_inj.mp
  rw [u16Bytes, toNat_u16OfBytes, ← ofBigEndian_pair]
  exact (congrArg ofBigEndian (u16Bytes_eq value)).trans (ofBigEndian_bigEndian value.toNat_lt)

theorem u16Bytes_u16OfBytes {bytes : Bytes} (length : bytes.length = 2) :
    u16Bytes (u16OfBytes bytes) = bytes := by
  obtain ⟨first, second, rfl⟩ := List.length_eq_two.mp length
  rw [u16Bytes_eq, toNat_u16OfBytes, ← ofBigEndian_pair, bigEndian_ofBigEndian length]

/-- A property of bytes is checked on the 256 of them. -/
theorem byte_induction {holds : UInt8 → Prop} (all : ∀ value : Fin 256, holds (UInt8.ofNat value))
    (byte : UInt8) : holds byte := by
  rw [← @UInt8.ofNat_toNat byte]
  exact all ⟨byte.toNat, byte.toNat_lt⟩

/-! ## Reading a field off the front of a concatenation -/

/-- A prefix of a fixed width can be told apart from what follows it. -/
theorem FixedBytes.append_inj {n : Nat} {left right : FixedBytes n} {leftRest rightRest : Bytes}
    (same : left.val ++ leftRest = right.val ++ rightRest) :
    left = right ∧ leftRest = rightRest := by
  obtain ⟨head, rest⟩ := List.append_inj same (left.2.trans right.2.symm)
  exact ⟨Subtype.ext head, rest⟩

theorem u16Bytes_append_inj {left right : UInt16} {leftRest rightRest : Bytes}
    (same : u16Bytes left ++ leftRest = u16Bytes right ++ rightRest) :
    left = right ∧ leftRest = rightRest := by
  obtain ⟨head, rest⟩ := List.append_inj same rfl
  exact ⟨u16Bytes_inj head, rest⟩

theorem u32Bytes_append_inj {left right : UInt32} {leftRest rightRest : Bytes}
    (same : u32Bytes left ++ leftRest = u32Bytes right ++ rightRest) :
    left = right ∧ leftRest = rightRest := by
  obtain ⟨head, rest⟩ := List.append_inj same rfl
  exact ⟨u32Bytes_inj head, rest⟩

end Octets
