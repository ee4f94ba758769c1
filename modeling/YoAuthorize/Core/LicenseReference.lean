import YoAuthorize.Core.LicenseSchema
import YoAuthorize.Lib.FlatBufferReference

/-!
# Reference bindings of the license tables

Bindings of the license tables in two languages, over bytes and over UTF-8
text, that interoperate.
-/

namespace YoAuthorize.License

open Octets FlatBuffer

/-- The slots of a package, in the order of the schema. -/
def packageFormat : TableFormat (LicensePackage Bytes) where
  toSlots table :=
    [slot16 table.vtFormatVersion.val, slotBytes table.keyId, slotBytes table.payload,
      slotBytes table.signature]
  ofSlots
    | [version, keyId, payload, signature] =>
        some
          { vtFormatVersion := .ofSlot ((ofScalar version).map UInt64.toUInt16)
            keyId := ofSlotBytes keyId
            payload := ofSlotBytes payload
            signature := ofSlotBytes signature }
    | _ => none
  ofSlots_toSlots table := by simp
  length_toSlots_le table := Nat.le_of_ble_eq_true rfl

/-- The slots hold no more bytes than the table has content. -/
theorem packageFormat_sized (table : LicensePackage Bytes) :
    slotsSize (packageFormat.toSlots table) ≤ table.contentSize := by
  change (slot16 table.vtFormatVersion.val).size + ((slotBytes table.keyId).size +
    ((slotBytes table.payload).size + ((slotBytes table.signature).size + 0))) ≤ _
  rw [size_slot16, size_slotBytes, size_slotBytes, size_slotBytes, LicensePackage.contentSize]
  omega

/-- An `enum … : byte` as a slot. -/
def slotInt8 (field : Option Int8) : Slot := slot8 (field.map Int8.toUInt8)

def ofInt8 (slot : Slot) : Option Int8 := ((ofScalar slot).map UInt64.toUInt8).map UInt8.toInt8

theorem ofInt8_slotInt8 (field : Option Int8) : ofInt8 (slotInt8 field) = field := by
  rw [ofInt8, slotInt8, ofScalar_slot8]
  cases field <;> rfl

theorem size_slotInt8 (field : Option Int8) : (slotInt8 field).size = 0 := size_slot8 _

/-- A policy is a marker, its mode and its machine id. -/
def policySlots (policy : Option (MachinePolicy Bytes)) : List Slot :=
  match policy with
  | none => [.absent, .absent, .absent]
  | some policy => [.scalar 1, slotInt8 policy.vtMode.val, slotBytes policy.machineId]

def policyOfSlots (marker mode machineId : Slot) : Option (MachinePolicy Bytes) :=
  (ofScalar marker).map fun _ =>
    { vtMode := .ofSlot (ofInt8 mode)
      machineId := ofSlotBytes machineId }

def payloadOfSlots : List Slot → Option (LicensePayload Bytes)
  | [licenseId, productId, customerId, issueTime, notBefore, expireTime, licenseType, features,
      maxSessions, marker, mode, machineId] =>
      some
        { licenseId := ofSlotBytes licenseId
          productId := ofSlotBytes productId
          customerId := ofSlotBytes customerId
          vtIssueTime := .ofSlot (ofScalar issueTime)
          vtNotBefore := .ofSlot (ofScalar notBefore)
          vtExpireTime := .ofSlot (ofScalar expireTime)
          vtLicenseType := .ofSlot (ofInt8 licenseType)
          features := ofSlotStrings features
          vtMaxSessions := .ofSlot ((ofScalar maxSessions).map UInt64.toUInt32)
          machinePolicy := policyOfSlots marker mode machineId }
  | _ => none

/-- The slots of a payload; those of its machine policy come last. -/
def payloadFormat : TableFormat (LicensePayload Bytes) where
  toSlots table :=
    [slotBytes table.licenseId, slotBytes table.productId, slotBytes table.customerId,
      slot64 table.vtIssueTime.val, slot64 table.vtNotBefore.val, slot64 table.vtExpireTime.val,
      slotInt8 table.vtLicenseType.val, slotStrings table.features,
      slot32 table.vtMaxSessions.val] ++ policySlots table.machinePolicy
  ofSlots := payloadOfSlots
  ofSlots_toSlots table := by
    rcases table with ⟨_, _, _, _, _, _, _, _, _, policy⟩
    cases policy with
    | none =>
        have policy : policyOfSlots .absent .absent .absent = none := rfl
        simp [policySlots, payloadOfSlots, policy, ofInt8_slotInt8]
    | some policy =>
        have marked : ofScalar (.scalar 1) = some 1 := rfl
        simp [policySlots, payloadOfSlots, policyOfSlots, marked, ofInt8_slotInt8]
  length_toSlots_le table := by
    cases table.machinePolicy <;> exact Nat.le_of_ble_eq_true rfl

theorem payloadFormat_sized (table : LicensePayload Bytes) :
    slotsSize (payloadFormat.toSlots table) ≤ table.contentSize := by
  rcases table with ⟨licenseId, productId, customerId, _, _, _, _, features, _, policy⟩
  cases policy with
  | none =>
      simp [payloadFormat, policySlots, slotsSize, LicensePayload.contentSize, size_slotInt8]
      omega
  | some policy =>
      simp [payloadFormat, policySlots, slotsSize, LicensePayload.contentSize, size_slotInt8]
      omega

/-! ## Text -/

/-- The text of bytes that are UTF-8. -/
def decodeText (bytes : Bytes) : String := (ofUtf8 bytes).getD ""

theorem decodeText_utf8 (text : String) : decodeText (utf8 text) = text := by
  rw [decodeText, ofUtf8_utf8]
  rfl

theorem map_decodeText_utf8 (field : Option String) :
    (field.map utf8).map decodeText = field := by
  cases field with
  | none => rfl
  | some text => exact congrArg some (decodeText_utf8 text)

/-- A package whose strings are text. -/
def textPackage (table : LicensePackage Bytes) : Option (LicensePackage String) :=
  if (table.map decodeText).map utf8 = table then some (table.map decodeText) else none

def textPayload (table : LicensePayload Bytes) : Option (LicensePayload String) :=
  if (table.map decodeText).map utf8 = table then some (table.map decodeText) else none

theorem textPackage_map (table : LicensePackage String) :
    textPackage (table.map utf8) = some table := by
  have same : (table.map utf8).map decodeText = table := by
    simp only [LicensePackage.map, map_decodeText_utf8]
  rw [textPackage, same, if_pos rfl]

theorem textPayload_map (table : LicensePayload String) :
    textPayload (table.map utf8) = some table := by
  have policy : (table.machinePolicy.map (MachinePolicy.map utf8)).map
      (MachinePolicy.map decodeText) = table.machinePolicy := by
    cases table.machinePolicy with
    | none => rfl
    | some policy => simp only [Option.map_some, MachinePolicy.map, map_decodeText_utf8]
  have features : (table.features.map (List.map utf8)).map (List.map decodeText) =
      table.features := by
    cases table.features with
    | none => rfl
    | some features =>
        simp only [Option.map_some, List.map_map]
        exact congrArg some (List.map_congr_left (fun text _ => decodeText_utf8 text) |>.trans
          (List.map_id features))
  have same : (table.map utf8).map decodeText = table := by
    simp only [LicensePayload.map, map_decodeText_utf8, policy, features]
  rw [textPayload, same, if_pos rfl]

/-! ## The bindings -/

def emptyPackage (σ : Type) : LicensePackage σ where
  vtFormatVersion := .absent
  keyId := none
  payload := none
  signature := none

def emptyPayload (σ : Type) : LicensePayload σ where
  licenseId := none
  productId := none
  customerId := none
  vtIssueTime := .absent
  vtNotBefore := .absent
  vtExpireTime := .absent
  vtLicenseType := .absent
  features := none
  vtMaxSessions := .absent
  machinePolicy := none

def textPackageFormat : TableFormat (LicensePackage String) :=
  packageFormat.comap (LicensePackage.map utf8) textPackage textPackage_map

def textPayloadFormat : TableFormat (LicensePayload String) :=
  payloadFormat.comap (LicensePayload.map utf8) textPayload textPayload_map

/-- Payloads are finished without an identifier. -/
def noIdentifier : FixedBytes 4 := .zeros 4

def referencePackages : Binding (LicensePackage Bytes) :=
  packageFormat.binding ⟨packageIdentifier, rfl⟩ (emptyPackage Bytes)

def referencePayloads : Binding (LicensePayload Bytes) :=
  payloadFormat.binding noIdentifier (emptyPayload Bytes)

def referenceTextPackages : Binding (LicensePackage String) :=
  textPackageFormat.binding ⟨packageIdentifier, rfl⟩ (emptyPackage String)

def referenceTextPayloads : Binding (LicensePayload String) :=
  textPayloadFormat.binding noIdentifier (emptyPayload String)

end YoAuthorize.License
