import YoAuthorize.Lib.Octets
import Mathlib.Algebra.Order.BigOperators.Group.List

/-!
# FlatBuffers tables

What a program that uses generated FlatBuffers code can see of it.  A table is
a record of slots.  A scalar slot is absent when it was not written, and the
builder does not write a scalar that equals the schema default
(`addElement`), so the accessor returns the default for an absent slot
(`getField`).  It cannot tell a default that another writer has stored from an
absent slot, so a `Scalar` holds no default.  A slot that holds an offset (a string, a
vector, a table) is absent or present, and its accessor returns a null pointer when it
is absent.

`Binding Table` is the generated code of one root table in one language: the
builder, the verifier and the root accessor.  `Binding.Lawful` is what the
format documents about buffers a builder wrote: they carry the file identifier,
verify, read back as the table that was built, and are not much longer than
their content.  A verifier accepts other buffers too, with any slots absent.
-/

namespace FlatBuffer

open Octets

/-- What an accessor can see of a scalar slot with the given default. -/
abbrev Scalar (α : Type) (default : α) : Type := { slot : Option α // slot ≠ some default }

section

variable {α : Type} {default : α}

/-- A slot that was not written. -/
def Scalar.absent : Scalar α default := ⟨none, (Option.some_ne_none default).symm⟩

/-- `AddElement`: a scalar equal to its default is not stored. -/
def addElement [DecidableEq α] (value default : α) : Scalar α default :=
  if same : value = default then .absent
  else ⟨some value, fun stored => same (Option.some.inj stored)⟩

/-- `GetField`: an absent scalar reads as its default. -/
def getField (slot : Scalar α default) : α := slot.val.getD default

/-- A slot as it is stored; a stored default reads like an absent slot. -/
def Scalar.ofSlot [DecidableEq α] : Option α → Scalar α default
  | none => .absent
  | some value => addElement value default

@[simp] theorem getField_addElement [DecidableEq α] (value default : α) :
    getField (addElement value default) = value := by
  unfold getField addElement
  split
  · rename_i same
    exact same.symm
  · rfl

@[simp] theorem Scalar.ofSlot_val [DecidableEq α] (slot : Scalar α default) :
    Scalar.ofSlot slot.val = slot := by
  rcases slot with ⟨_ | value, stored⟩
  · rfl
  · have other : ¬ value = default := fun same => stored (congrArg some same)
    exact dif_neg other

end

/-- The generated code of one root table. -/
structure Binding (Table : Type) : Type where
  build : Table → Bytes
  verify : Bytes → Bool
  root : Bytes → Table

/-- Where the file identifier sits: behind the root offset. -/
def identifierOf (bytes : Bytes) : Bytes := (bytes.drop 4).take 4

def hasIdentifier (identifier bytes : Bytes) : Bool := identifierOf bytes = identifier

/-- A string or vector costs its content, a length, a terminator, alignment and
the offset that points to it. -/
def vectorSize (content : Nat) : Nat := content + 16

/-- The tables themselves (offsets, vtables and scalars of at most two nested tables). -/
def tableSize : Nat := 256

/-- What a slot with a string or vector counts towards the content of its table. -/
def optionSize (field : Option Bytes) : Nat :=
  match field with
  | none => 0
  | some bytes => vectorSize bytes.length

def stringsSize (field : Option (List Bytes)) : Nat :=
  match field with
  | none => 0
  | some strings => vectorSize ((strings.map fun text => vectorSize text.length).sum)

/-- The content of a list of strings, each of bounded length. -/
theorem stringsSize_le_of_bounds {strings : List Bytes} {count size : Nat}
    (few : strings.length ≤ count) (short : ∀ text ∈ strings, text.length ≤ size) :
    stringsSize (some strings) ≤ vectorSize (count * vectorSize size) := by
  have pointwise : ∀ each ∈ strings.map (fun text : Bytes => vectorSize text.length),
      each ≤ vectorSize size := by
    intro each mem
    rcases List.mem_map.mp mem with ⟨text, here, rfl⟩
    exact Nat.add_le_add_right (short text here) 16
  have total := List.sum_le_card_nsmul _ _ pointwise
  rw [List.length_map, Nat.nsmul_eq_mul] at total
  exact Nat.add_le_add_right (Nat.le_trans total (Nat.mul_le_mul_right _ few)) 16

/-- Buffers are limited to 2 GiB. -/
def maxBufferSize : Nat := 2147483647

/-- What is documented about the buffers that `writer` builds and `reader`
reads, for tables of content `size` that fit a buffer. -/
structure Binding.Lawful {Table : Type} (reader writer : Binding Table) (identifier : Bytes)
    (size : Table → Nat) : Prop where
  verify_build : ∀ table, tableSize + size table ≤ maxBufferSize →
    reader.verify (writer.build table) = true
  root_build : ∀ table, tableSize + size table ≤ maxBufferSize →
    reader.root (writer.build table) = table
  identifier_build : ∀ table, tableSize + size table ≤ maxBufferSize →
    identifierOf (writer.build table) = identifier
  eight_le_build : ∀ table, tableSize + size table ≤ maxBufferSize →
    8 ≤ (writer.build table).length
  build_le : ∀ table, tableSize + size table ≤ maxBufferSize →
    (writer.build table).length ≤ tableSize + size table

/-- What is documented about the buffers that `writer` builds for a `reader` of
the same schema in another language, which sees a written table as `view` of
it. -/
structure Binding.Interoperates {Read Written : Type} (reader : Binding Read)
    (writer : Binding Written) (view : Written → Read) (size : Written → Nat) : Prop where
  verify_build : ∀ table, tableSize + size table ≤ maxBufferSize →
    reader.verify (writer.build table) = true
  root_build : ∀ table, tableSize + size table ≤ maxBufferSize →
    reader.root (writer.build table) = view table

/-- What is documented about the bytes that `writer` builds. -/
structure Binding.Bounded {Table : Type} (writer : Binding Table) (size : Table → Nat) :
    Prop where
  eight_le_build : ∀ table, tableSize + size table ≤ maxBufferSize →
    8 ≤ (writer.build table).length
  build_le : ∀ table, tableSize + size table ≤ maxBufferSize →
    (writer.build table).length ≤ tableSize + size table

/-- A writer that finishes its buffers with a file identifier. -/
def Binding.Identified {Table : Type} (writer : Binding Table) (identifier : Bytes)
    (size : Table → Nat) : Prop :=
  ∀ table, tableSize + size table ≤ maxBufferSize →
    identifierOf (writer.build table) = identifier

/-- A buffer holds the bytes of this field of its table. -/
def Binding.Stores {Table : Type} (writer : Binding Table) (field : Table → Option Bytes) : Prop :=
  ∀ table content, field table = some content → content.length ≤ (writer.build table).length

end FlatBuffer
