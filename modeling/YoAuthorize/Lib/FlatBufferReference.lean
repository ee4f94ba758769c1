import YoAuthorize.Lib.FlatBuffer
import Mathlib.Algebra.Order.BigOperators.Group.List

/-!
# A reference binding

A small self-describing serialisation of tables that satisfies
`Binding.Lawful`, so that results stated over an arbitrary lawful binding can
be run on concrete messages.  A table is given by its list of slots
(`TableFormat`); `writeSlots` writes them one after the other behind an
eight-byte head, and `readSlots` reads them back.
-/

namespace FlatBuffer

open Octets

inductive Slot : Type
  | absent
  | scalar (value : UInt64)
  | bytes (content : Bytes)
  | strings (content : List Bytes)
  deriving DecidableEq

/-- A length and that many bytes. -/
def writeString (content : Bytes) : Bytes := u32Bytes (UInt32.ofNat content.length) ++ content

def writeStrings : List Bytes → Bytes
  | [] => []
  | text :: texts => writeString text ++ writeStrings texts

/-- A tag for the kind of slot, then its content. -/
def writeSlot : Slot → Bytes
  | .absent => [0]
  | .scalar value => 1 :: u64Bytes value
  | .bytes content => 2 :: writeString content
  | .strings content => 3 :: (u32Bytes (UInt32.ofNat content.length) ++ writeStrings content)

def writeSlots : List Slot → Bytes
  | [] => []
  | slot :: slots => writeSlot slot ++ writeSlots slots

def readString (input : Bytes) : Option (Bytes × Bytes) :=
  let size := (u32OfBytes (input.take 4)).toNat
  let rest := input.drop 4
  if input.length < 4 ∨ rest.length < size then none
  else some (rest.take size, rest.drop size)

def readStrings : Nat → Bytes → Option (List Bytes × Bytes)
  | 0, input => some ([], input)
  | count + 1, input =>
      match readString input with
      | none => none
      | some (text, rest) =>
          match readStrings count rest with
          | none => none
          | some (texts, rest) => some (text :: texts, rest)

/-- Reads one slot and leaves what follows it. -/
def readSlot : Bytes → Option (Slot × Bytes)
  | [] => none
  | tag :: input =>
      if tag = 0 then some (.absent, input)
      else if tag = 1 then
        if input.length < 8 then none
        else some (.scalar (u64OfBytes (input.take 8)), input.drop 8)
      else if tag = 2 then
        match readString input with
        | none => none
        | some (content, rest) => some (.bytes content, rest)
      else if tag = 3 then
        if input.length < 4 then none
        else
          match readStrings (u32OfBytes (input.take 4)).toNat (input.drop 4) with
          | none => none
          | some (content, rest) => some (.strings content, rest)
      else none

/-- Reads slots to the end of the input, which the fuel bounds. -/
def readSlots : Nat → Bytes → Option (List Slot)
  | _, [] => some []
  | 0, _ :: _ => none
  | fuel + 1, input =>
      match readSlot input with
      | none => none
      | some (slot, rest) =>
          match readSlots fuel rest with
          | none => none
          | some slots => some (slot :: slots)

/-! ## Reading back -/

def stringsContent (content : List Bytes) : Nat :=
  (content.map fun text => vectorSize text.length).sum

/-- What a slot counts towards the content of its table. -/
def Slot.size : Slot → Nat
  | .absent => 0
  | .scalar _ => 0
  | .bytes content => vectorSize content.length
  | .strings content => vectorSize (stringsContent content)

@[simp] theorem Slot.size_absent : Slot.absent.size = 0 := rfl

@[simp] theorem Slot.size_scalar (value : UInt64) : (Slot.scalar value).size = 0 := rfl

theorem toNat_ofNat_of_le {size : Nat} (fits : size ≤ maxBufferSize) :
    (UInt32.ofNat size).toNat = size := by
  rw [UInt32.toNat_ofNat']
  exact Nat.mod_eq_of_lt (Nat.lt_of_le_of_lt fits (by decide))

/-- What is written is read back, whatever follows it. -/
theorem readString_writeString {content : Bytes} (rest : Bytes)
    (fits : content.length ≤ maxBufferSize) :
    readString (writeString content ++ rest) = some (content, rest) := by
  have size : (u32OfBytes ((writeString content ++ rest).take 4)).toNat = content.length := by
    rw [writeString, List.append_assoc, List.take_left' (length_u32Bytes _), u32OfBytes_u32Bytes,
      toNat_ofNat_of_le fits]
  have body : (writeString content ++ rest).drop 4 = content ++ rest := by
    rw [writeString, List.append_assoc, List.drop_left' (length_u32Bytes _)]
  have length : (writeString content ++ rest).length = 4 + content.length + rest.length := by
    rw [writeString, List.length_append, List.length_append, length_u32Bytes]
  unfold readString
  simp only
  rw [size, body, length, List.length_append, if_neg (by omega), List.take_left' rfl,
    List.drop_left' rfl]

theorem length_le_stringsContent {content : List Bytes} {text : Bytes} (mem : text ∈ content) :
    text.length ≤ stringsContent content := by
  induction content with
  | nil => cases mem
  | cons head tail ih =>
      rw [stringsContent, List.map_cons, List.sum_cons]
      change text.length ≤ vectorSize head.length + stringsContent tail
      cases mem with
      | head => exact Nat.le_trans (Nat.le_add_right _ 16) (Nat.le_add_right _ _)
      | tail _ mem => exact Nat.le_trans (ih mem) (Nat.le_add_left _ _)

theorem readStrings_writeStrings (content : List Bytes) (rest : Bytes)
    (fits : ∀ text ∈ content, text.length ≤ maxBufferSize) :
    readStrings content.length (writeStrings content ++ rest) = some (content, rest) := by
  induction content with
  | nil => rfl
  | cons text texts ih =>
      have head := readString_writeString (writeStrings texts ++ rest)
        (fits text List.mem_cons_self)
      have tail := ih fun other mem => fits other (List.mem_cons_of_mem _ mem)
      rw [List.length_cons, readStrings, writeStrings, List.append_assoc, head]
      simp only [tail]

theorem length_le_stringsContent_length (content : List Bytes) :
    content.length ≤ stringsContent content := by
  induction content with
  | nil => exact Nat.le_refl 0
  | cons text texts ih =>
      rw [stringsContent, List.map_cons, List.sum_cons, List.length_cons]
      change texts.length + 1 ≤ vectorSize text.length + stringsContent texts
      unfold vectorSize
      omega

/-- A slot whose content fits a buffer is read back, whatever follows it. -/
theorem readSlot_writeSlot (slot : Slot) (rest : Bytes) (fits : slot.size ≤ maxBufferSize) :
    readSlot (writeSlot slot ++ rest) = some (slot, rest) := by
  cases slot with
  | absent => rfl
  | scalar value =>
      change (if (u64Bytes value ++ rest).length < 8 then none
        else some (Slot.scalar (u64OfBytes ((u64Bytes value ++ rest).take 8)),
          (u64Bytes value ++ rest).drop 8)) = _
      rw [List.take_left' (length_u64Bytes _), List.drop_left' (length_u64Bytes _),
        u64OfBytes_u64Bytes, List.length_append, length_u64Bytes, if_neg (by omega)]
  | bytes content =>
      have small : content.length ≤ maxBufferSize := Nat.le_trans (Nat.le_add_right _ 16) fits
      change (match readString (writeString content ++ rest) with
        | none => none
        | some (content, rest) => some (Slot.bytes content, rest)) = _
      rw [readString_writeString rest small]
  | strings content =>
      have bounded : stringsContent content ≤ maxBufferSize :=
        Nat.le_trans (Nat.le_add_right _ 16) fits
      have count : (UInt32.ofNat content.length).toNat = content.length :=
        toNat_ofNat_of_le (Nat.le_trans (length_le_stringsContent_length content) bounded)
      have texts := readStrings_writeStrings content rest
        fun text mem => Nat.le_trans (length_le_stringsContent mem) bounded
      change (if
          ((u32Bytes (UInt32.ofNat content.length) ++ writeStrings content) ++ rest).length < 4
        then none
        else match readStrings (u32OfBytes (((u32Bytes (UInt32.ofNat content.length) ++
            writeStrings content) ++ rest).take 4)).toNat
            (((u32Bytes (UInt32.ofNat content.length) ++ writeStrings content) ++ rest).drop 4) with
          | none => none
          | some (content, rest) => some (Slot.strings content, rest)) = _
      rw [List.append_assoc, List.take_left' (length_u32Bytes _),
        List.drop_left' (length_u32Bytes _), u32OfBytes_u32Bytes, count, texts,
        List.length_append, length_u32Bytes, if_neg (by omega)]

theorem length_writeSlot_pos (slot : Slot) : 0 < (writeSlot slot).length := by
  cases slot <;> exact Nat.succ_pos _

/-- Slots are read back by any reader that has fuel for them. -/
theorem readSlots_writeSlots (slots : List Slot) (fuel : Nat)
    (enough : (writeSlots slots).length ≤ fuel)
    (fits : ∀ slot ∈ slots, slot.size ≤ maxBufferSize) :
    readSlots fuel (writeSlots slots) = some slots := by
  induction slots generalizing fuel with
  | nil =>
      cases fuel <;> rfl
  | cons slot slots ih =>
      have positive := length_writeSlot_pos slot
      rw [writeSlots, List.length_append] at enough
      obtain ⟨fuel, rfl⟩ : ∃ rest, fuel = rest + 1 := ⟨fuel - 1, by omega⟩
      have head := readSlot_writeSlot slot (writeSlots slots) (fits slot List.mem_cons_self)
      have tail := ih fuel (by omega) fun other mem => fits other (List.mem_cons_of_mem _ mem)
      rw [writeSlots]
      obtain ⟨byte, bytes, nonempty⟩ : ∃ byte bytes, writeSlot slot ++ writeSlots slots =
          byte :: bytes := by
        cases shape : writeSlot slot ++ writeSlots slots with
        | nil =>
            rw [List.append_eq_nil_iff] at shape
            rw [shape.1] at positive
            exact absurd positive (Nat.lt_irrefl 0)
        | cons byte bytes => exact ⟨byte, bytes, rfl⟩
      rw [nonempty] at head ⊢
      rw [readSlots, head]
      · simp only [tail]
      · intro impossible
        cases impossible

/-! ## Sizes -/

theorem length_writeStrings (content : List Bytes) :
    (writeStrings content).length + 12 * content.length = stringsContent content := by
  induction content with
  | nil => rfl
  | cons text texts ih =>
      rw [stringsContent, List.map_cons, List.sum_cons]
      change (writeString text ++ writeStrings texts).length + 12 * (texts.length + 1) =
        vectorSize text.length + stringsContent texts
      rw [List.length_append, writeString, List.length_append, length_u32Bytes]
      unfold vectorSize
      omega

theorem length_writeSlot_le (slot : Slot) : (writeSlot slot).length ≤ 9 + slot.size := by
  cases slot with
  | absent => decide
  | scalar value => exact Nat.le_refl 9
  | bytes content =>
      change (writeString content).length + 1 ≤ 9 + (content.length + 16)
      rw [writeString, List.length_append, length_u32Bytes]
      omega
  | strings content =>
      have texts := length_writeStrings content
      change (u32Bytes (UInt32.ofNat content.length) ++ writeStrings content).length + 1 ≤
        9 + (stringsContent content + 16)
      rw [List.length_append, length_u32Bytes]
      omega

/-- The content of all slots together. -/
def slotsSize (slots : List Slot) : Nat := (slots.map Slot.size).sum

/-- Beside its content a slot takes at most nine bytes. -/
theorem length_writeSlots_le (slots : List Slot) :
    (writeSlots slots).length ≤ 9 * slots.length + slotsSize slots := by
  induction slots with
  | nil => exact Nat.le_refl 0
  | cons slot slots ih =>
      have head := length_writeSlot_le slot
      rw [writeSlots, List.length_append, slotsSize, List.map_cons, List.sum_cons,
        List.length_cons]
      change (writeSlot slot).length + (writeSlots slots).length ≤
        9 * (slots.length + 1) + (slot.size + slotsSize slots)
      omega

theorem size_le_slotsSize {slots : List Slot} {slot : Slot} (mem : slot ∈ slots) :
    slot.size ≤ slotsSize slots :=
  List.single_le_sum (fun _ _ => Nat.zero_le _) _ (List.mem_map_of_mem mem)

/-! ## Slots of the field types -/

def slot8 (field : Option UInt8) : Slot := (field.map fun v => Slot.scalar v.toUInt64).getD .absent
def slot16 (field : Option UInt16) : Slot :=
  (field.map fun v => Slot.scalar v.toUInt64).getD .absent
def slot32 (field : Option UInt32) : Slot :=
  (field.map fun v => Slot.scalar v.toUInt64).getD .absent
def slot64 (field : Option UInt64) : Slot := (field.map Slot.scalar).getD .absent
def slotBytes (field : Option Bytes) : Slot := (field.map Slot.bytes).getD .absent
def slotStrings (field : Option (List Bytes)) : Slot := (field.map Slot.strings).getD .absent

/-- The scalar of a slot, if it holds one. -/
def ofScalar : Slot → Option UInt64
  | .scalar value => some value
  | _ => none

def ofSlotBytes : Slot → Option Bytes
  | .bytes content => some content
  | _ => none

def ofSlotStrings : Slot → Option (List Bytes)
  | .strings content => some content
  | _ => none

/-- A field is read back from its slot. -/
@[simp] theorem ofScalar_slot8 (field : Option UInt8) :
    (ofScalar (slot8 field)).map UInt64.toUInt8 = field := by
  cases field <;> simp [slot8, ofScalar]

@[simp] theorem ofScalar_slot16 (field : Option UInt16) :
    (ofScalar (slot16 field)).map UInt64.toUInt16 = field := by
  cases field <;> simp [slot16, ofScalar]

@[simp] theorem ofScalar_slot32 (field : Option UInt32) :
    (ofScalar (slot32 field)).map UInt64.toUInt32 = field := by
  cases field <;> simp [slot32, ofScalar]

@[simp] theorem ofScalar_slot64 (field : Option UInt64) : ofScalar (slot64 field) = field := by
  cases field <;> rfl

@[simp] theorem ofSlotBytes_slotBytes (field : Option Bytes) :
    ofSlotBytes (slotBytes field) = field := by
  cases field <;> rfl

@[simp] theorem ofSlotStrings_slotStrings (field : Option (List Bytes)) :
    ofSlotStrings (slotStrings field) = field := by
  cases field <;> rfl

@[simp] theorem size_slot8 (field : Option UInt8) : (slot8 field).size = 0 := by
  cases field <;> rfl

@[simp] theorem size_slot16 (field : Option UInt16) : (slot16 field).size = 0 := by
  cases field <;> rfl

@[simp] theorem size_slot32 (field : Option UInt32) : (slot32 field).size = 0 := by
  cases field <;> rfl

@[simp] theorem size_slot64 (field : Option UInt64) : (slot64 field).size = 0 := by
  cases field <;> rfl

@[simp] theorem size_slotBytes (field : Option Bytes) :
    (slotBytes field).size = optionSize field := by
  cases field <;> rfl

@[simp] theorem size_slotStrings (field : Option (List Bytes)) :
    (slotStrings field).size = stringsSize field := by
  cases field <;> rfl

/-! ## The binding -/

/-- A table type given by its slots, at most twenty of them. -/
structure TableFormat (Table : Type) : Type where
  toSlots : Table → List Slot
  ofSlots : List Slot → Option Table
  ofSlots_toSlots : ∀ table, ofSlots (toSlots table) = some table
  length_toSlots_le : ∀ table, (toSlots table).length ≤ 20

variable {Table : Type}

def TableFormat.parse (format : TableFormat Table) (bytes : Bytes) : Option Table :=
  match readSlots bytes.length (bytes.drop 8) with
  | none => none
  | some slots => format.ofSlots slots

def TableFormat.build (format : TableFormat Table) (identifier : FixedBytes 4) (table : Table) :
    Bytes :=
  [0, 0, 0, 0] ++ (identifier.val ++ writeSlots (format.toSlots table))

theorem TableFormat.length_build (format : TableFormat Table) (identifier : FixedBytes 4)
    (table : Table) :
    (format.build identifier table).length = 8 + (writeSlots (format.toSlots table)).length := by
  rw [TableFormat.build, List.length_append, List.length_append, identifier.2, ← Nat.add_assoc]
  rfl

/-- The reference binding of a table format, with a default for the root of an
unverified buffer. -/
def TableFormat.binding (format : TableFormat Table) (identifier : FixedBytes 4)
    (default : Table) : Binding Table where
  build := format.build identifier
  verify bytes := (format.parse bytes).isSome
  root bytes := (format.parse bytes).getD default

/-- A table whose content fits a buffer is parsed back. -/
theorem TableFormat.parse_build (format : TableFormat Table) (identifier : FixedBytes 4)
    (table : Table) (fits : slotsSize (format.toSlots table) ≤ maxBufferSize) :
    format.parse (format.build identifier table) = some table := by
  have head : (format.build identifier table).drop 8 = writeSlots (format.toSlots table) := by
    rw [TableFormat.build, ← List.append_assoc, List.drop_left']
    rw [List.length_append, identifier.2]
    rfl
  have slots := readSlots_writeSlots (format.toSlots table) (format.build identifier table).length
    (by rw [format.length_build]; omega)
    fun slot mem => Nat.le_trans (size_le_slotsSize mem) fits
  rw [TableFormat.parse, head, slots]
  exact format.ofSlots_toSlots table

theorem TableFormat.lawful_binding (format : TableFormat Table) (identifier : FixedBytes 4)
    (default : Table) {size : Table → Nat}
    (sized : ∀ table, slotsSize (format.toSlots table) ≤ size table) :
    (format.binding identifier default).Lawful (format.binding identifier default)
      identifier.val size where
  verify_build table fits := by
    have small : slotsSize (format.toSlots table) ≤ maxBufferSize :=
      Nat.le_trans (sized table) (Nat.le_trans (Nat.le_add_left _ _) fits)
    change (format.parse (format.build identifier table)).isSome = true
    rw [format.parse_build identifier table small]
    rfl
  root_build table fits := by
    have small : slotsSize (format.toSlots table) ≤ maxBufferSize :=
      Nat.le_trans (sized table) (Nat.le_trans (Nat.le_add_left _ _) fits)
    change (format.parse (format.build identifier table)).getD default = table
    rw [format.parse_build identifier table small]
    rfl
  identifier_build table _ := by
    change (identifier.val ++ writeSlots (format.toSlots table)).take 4 = identifier.val
    exact List.take_left' identifier.2
  eight_le_build table _ := by
    exact Nat.le_trans (Nat.le_add_right 8 _)
      (Nat.le_of_eq (format.length_build identifier table).symm)
  build_le table _ := by
    have slots := length_writeSlots_le (format.toSlots table)
    have count := format.length_toSlots_le table
    have content := sized table
    change (format.build identifier table).length ≤ 256 + size table
    rw [format.length_build]
    omega

theorem TableFormat.bounded_binding (format : TableFormat Table) (identifier : FixedBytes 4)
    (default : Table) {size : Table → Nat}
    (sized : ∀ table, slotsSize (format.toSlots table) ≤ size table) :
    (format.binding identifier default).Bounded size where
  eight_le_build := (format.lawful_binding identifier default sized).eight_le_build
  build_le := (format.lawful_binding identifier default sized).build_le

theorem length_le_writeSlots {slots : List Slot} {content : Bytes}
    (mem : Slot.bytes content ∈ slots) : content.length ≤ (writeSlots slots).length := by
  induction slots with
  | nil => cases mem
  | cons slot slots ih =>
      rw [writeSlots, List.length_append]
      rcases List.mem_cons.mp mem with rfl | rest
      · have written : (writeSlot (.bytes content)).length =
            (u32Bytes (UInt32.ofNat content.length) ++ content).length + 1 := rfl
        rw [written, List.length_append]
        omega
      · exact Nat.le_add_left_of_le (ih rest)

theorem TableFormat.stores_binding (format : TableFormat Table) (identifier : FixedBytes 4)
    (default : Table) {field : Table → Option Bytes}
    (slotted : ∀ table content, field table = some content →
      Slot.bytes content ∈ format.toSlots table) :
    (format.binding identifier default).Stores field := by
  intro table content here
  have stored := length_le_writeSlots (slotted table content here)
  change content.length ≤ (format.build identifier table).length
  rw [format.length_build]
  exact Nat.le_add_left_of_le stored

/-! ## Another view of the same tables -/

variable {Written : Type}

/-- The format of tables that are written as `view` of them. -/
def TableFormat.comap (format : TableFormat Table) (view : Written → Table)
    (unview : Table → Option Written) (unview_view : ∀ table, unview (view table) = some table) :
    TableFormat Written where
  toSlots table := format.toSlots (view table)
  ofSlots slots := (format.ofSlots slots).bind unview
  ofSlots_toSlots table := by
    rw [format.ofSlots_toSlots, Option.bind_some, unview_view]
  length_toSlots_le table := format.length_toSlots_le (view table)

/-- Buffers of the other format read as `view` of what was written. -/
theorem TableFormat.interoperates_comap (format : TableFormat Table) (view : Written → Table)
    (unview : Table → Option Written) (unview_view : ∀ table, unview (view table) = some table)
    (identifier : FixedBytes 4) (readDefault : Table) (writtenDefault : Written)
    {size : Table → Nat} (sized : ∀ table, slotsSize (format.toSlots table) ≤ size table) :
    (format.binding identifier readDefault).Interoperates
      ((format.comap view unview unview_view).binding identifier writtenDefault) view
      fun table => size (view table) where
  verify_build table fits :=
    (format.lawful_binding identifier readDefault sized).verify_build (view table) fits
  root_build table fits :=
    (format.lawful_binding identifier readDefault sized).root_build (view table) fits

theorem TableFormat.interoperates_self (format : TableFormat Table) (identifier : FixedBytes 4)
    (default : Table) {size : Table → Nat}
    (sized : ∀ table, slotsSize (format.toSlots table) ≤ size table) :
    (format.binding identifier default).Interoperates (format.binding identifier default) id
      size where
  verify_build := (format.lawful_binding identifier default sized).verify_build
  root_build := (format.lawful_binding identifier default sized).root_build

end FlatBuffer
