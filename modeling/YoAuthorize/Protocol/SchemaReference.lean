import YoAuthorize.Lib.FlatBufferReference
import YoAuthorize.Protocol.Schema

/-!
# The reference binding of the envelope

`envelopeFormat` lists the slots of an envelope, which makes
`referenceEnvelopes` a lawful binding that concrete runs can be evaluated on.
-/

namespace YoAuthorize.Protocol.Schema

open Octets FlatBuffer

/-! ## The union and the envelope -/

/-- A tag alone is a union without a value. -/
def Message.toSlots : Message → List Slot
  | .noBody => [.scalar 0]
  | .clientHello none => [.scalar 1]
  | .clientHello (some table) =>
      [.scalar 1, slot16 table.vtMinProtocolVersion.val, slot16 table.vtMaxProtocolVersion.val,
        slotBytes table.clientNonce, slotBytes table.ephemeralPublicKey,
        slotBytes table.sdkVersion]
  | .serverHello none => [.scalar 2]
  | .serverHello (some table) =>
      [.scalar 2, slot16 table.vtSelectedProtocolVersion.val, slotBytes table.serverNonce,
        slotBytes table.ephemeralPublicKey, slotBytes table.serviceKeyId,
        slotBytes table.signature]
  | .unsupportedVersion => [.scalar 3]
  | .clientFinished none => [.scalar 4]
  | .clientFinished (some table) => [.scalar 4, slotBytes table.transcriptHash]
  | .authorize none => [.scalar 5]
  | .authorize (some table) =>
      [.scalar 5, slotBytes table.productId, slot64 table.vtProcessId.val,
        slot64 table.vtProcessStartTime.val]
  | .authResult none => [.scalar 6]
  | .authResult (some table) =>
      [.scalar 6, slot16 table.vtError.val, slotBytes table.sessionId, slotStrings table.features,
        slot64 table.vtExpireTime.val, slot32 table.vtHeartbeatIntervalMs.val,
        slot32 table.vtHeartbeatTimeoutMs.val]
  | .heartbeat none => [.scalar 7]
  | .heartbeat (some table) => [.scalar 7, slotBytes table.sessionId]
  | .heartbeatAck none => [.scalar 8]
  | .heartbeatAck (some table) =>
      [.scalar 8, slot8 table.vtState.val, slotStrings table.features,
        slot64 table.vtExpireTime.val]
  | .queryLicense => [.scalar 9]
  | .queryFeatures => [.scalar 10]
  | .closeSession none => [.scalar 11]
  | .closeSession (some _) => [.scalar 11, .absent]
  | .licenseChanged => [.scalar 12]
  | .featureChanged => [.scalar 13]
  | .licenseExpired => [.scalar 14]
  | .licenseRevoked => [.scalar 15]
  | .ping => [.scalar 16]
  | .error none => [.scalar 17]
  | .error (some table) => [.scalar 17, slot16 table.vtCode.val, slotBytes table.message]
  | .unknown tag => [.scalar 18, .scalar tag.val.toUInt64]

/-- Reads back what `Message.toSlots` writes behind a tag. -/
def messageOfTag (tag : Nat) (fields : List Slot) : Option Message :=
  match tag, fields with
  | 0, [] => some .noBody
  | 1, [] => some (.clientHello none)
  | 1, [minimum, maximum, nonce, key, sdk] =>
      some (.clientHello (some
        { vtMinProtocolVersion := .ofSlot ((ofScalar minimum).map UInt64.toUInt16)
          vtMaxProtocolVersion := .ofSlot ((ofScalar maximum).map UInt64.toUInt16)
          clientNonce := ofSlotBytes nonce
          ephemeralPublicKey := ofSlotBytes key
          sdkVersion := ofSlotBytes sdk }))
  | 2, [] => some (.serverHello none)
  | 2, [selected, nonce, key, keyId, signature] =>
      some (.serverHello (some
        { vtSelectedProtocolVersion := .ofSlot ((ofScalar selected).map UInt64.toUInt16)
          serverNonce := ofSlotBytes nonce
          ephemeralPublicKey := ofSlotBytes key
          serviceKeyId := ofSlotBytes keyId
          signature := ofSlotBytes signature }))
  | 3, [] => some .unsupportedVersion
  | 4, [] => some (.clientFinished none)
  | 4, [hash] => some (.clientFinished (some { transcriptHash := ofSlotBytes hash }))
  | 5, [] => some (.authorize none)
  | 5, [product, process, start] =>
      some (.authorize (some
        { productId := ofSlotBytes product
          vtProcessId := .ofSlot (ofScalar process)
          vtProcessStartTime := .ofSlot (ofScalar start) }))
  | 6, [] => some (.authResult none)
  | 6, [error, session, features, expire, interval, timeout] =>
      some (.authResult (some
        { vtError := .ofSlot ((ofScalar error).map UInt64.toUInt16)
          sessionId := ofSlotBytes session
          features := ofSlotStrings features
          vtExpireTime := .ofSlot (ofScalar expire)
          vtHeartbeatIntervalMs := .ofSlot ((ofScalar interval).map UInt64.toUInt32)
          vtHeartbeatTimeoutMs := .ofSlot ((ofScalar timeout).map UInt64.toUInt32) }))
  | 7, [] => some (.heartbeat none)
  | 7, [session] => some (.heartbeat (some { sessionId := ofSlotBytes session }))
  | 8, [] => some (.heartbeatAck none)
  | 8, [state, features, expire] =>
      some (.heartbeatAck (some
        { vtState := .ofSlot ((ofScalar state).map UInt64.toUInt8)
          features := ofSlotStrings features
          vtExpireTime := .ofSlot (ofScalar expire) }))
  | 9, [] => some .queryLicense
  | 10, [] => some .queryFeatures
  | 11, [] => some (.closeSession none)
  | 11, [_] => some (.closeSession (some createCloseSession))
  | 12, [] => some .licenseChanged
  | 13, [] => some .featureChanged
  | 14, [] => some .licenseExpired
  | 15, [] => some .licenseRevoked
  | 16, [] => some .ping
  | 17, [] => some (.error none)
  | 17, [code, message] =>
      some (.error (some
        { vtCode := .ofSlot ((ofScalar code).map UInt64.toUInt16)
          message := ofSlotBytes message }))
  | 18, [tag] =>
      (ofScalar tag).bind fun value =>
        if newer : 17 < value.toUInt8 then some (.unknown ⟨value.toUInt8, newer⟩) else none
  | _, _ => none

/-- The tag comes first. -/
def Message.ofSlots : List Slot → Option Message
  | .scalar tag :: fields => messageOfTag tag.toNat fields
  | _ => none

/-- No two messages have the same slots. -/
theorem Message.ofSlots_toSlots (message : Message) :
    Message.ofSlots message.toSlots = some message := by
  cases message with
  | clientHello value | serverHello value | clientFinished value | authorize value
  | authResult value | heartbeat value | heartbeatAck value | closeSession value | error value =>
      cases value with
      | none => rfl
      | some table => simp [Message.toSlots, Message.ofSlots, messageOfTag, createCloseSession]
  | unknown tag => simp [Message.toSlots, Message.ofSlots, messageOfTag, ofScalar, tag.property]
  | noBody | unsupportedVersion | queryLicense | queryFeatures | licenseChanged | featureChanged
  | licenseExpired | licenseRevoked | ping => rfl

/-- The slots hold as many bytes as the message has content. -/
theorem Message.slotsSize_toSlots (message : Message) :
    slotsSize message.toSlots = message.contentSize := by
  cases message with
  | clientHello value | serverHello value | clientFinished value | authorize value
  | authResult value | heartbeat value | heartbeatAck value | closeSession value | error value =>
      cases value with
      | none => rfl
      | some table =>
          simp [Message.toSlots, slotsSize, Message.contentSize, Nat.add_assoc]
  | noBody | unsupportedVersion | queryLicense | queryFeatures | licenseChanged | featureChanged
  | licenseExpired | licenseRevoked | ping | unknown tag => rfl

/-- A bound that leaves room for the two slots of the envelope. -/
theorem Message.length_toSlots_le (message : Message) : message.toSlots.length ≤ 18 := by
  cases message with
  | clientHello value | serverHello value | clientFinished value | authorize value
  | authResult value | heartbeat value | heartbeatAck value | closeSession value | error value =>
      cases value <;> simp [Message.toSlots]
  | noBody | unsupportedVersion | queryLicense | queryFeatures | licenseChanged | featureChanged
  | licenseExpired | licenseRevoked | ping | unknown tag => simp [Message.toSlots]

/-- The slots of the envelope stand before those of its body. -/
def Envelope.ofSlots : List Slot → Option Envelope
  | version :: request :: body =>
      (Message.ofSlots body).map fun message =>
        { vtProtocolVersion := .ofSlot ((ofScalar version).map UInt64.toUInt16)
          vtRequestId := .ofSlot (ofScalar request)
          body := message }
  | _ => none

/-- The slots of an envelope: its version, its request id and its body. -/
def envelopeFormat : TableFormat Envelope where
  toSlots envelope :=
    slot16 envelope.vtProtocolVersion.val :: slot64 envelope.vtRequestId.val ::
      envelope.body.toSlots
  ofSlots := Envelope.ofSlots
  ofSlots_toSlots envelope := by
    rw [Envelope.ofSlots, Message.ofSlots_toSlots]
    simp
  length_toSlots_le envelope := by
    have body := envelope.body.length_toSlots_le
    rw [List.length_cons, List.length_cons]
    omega

/-- The root of a buffer that the verifier refuses is an empty envelope. -/
def referenceEnvelopes : Binding Envelope :=
  envelopeFormat.binding ⟨envelopeIdentifier, rfl⟩
    { vtProtocolVersion := .absent, vtRequestId := .absent, body := .noBody }

/-- The reference binding keeps the laws that the codec needs of the generated code. -/
theorem referenceEnvelopes_lawful :
    referenceEnvelopes.Lawful referenceEnvelopes envelopeIdentifier Envelope.contentSize := by
  apply envelopeFormat.lawful_binding
  intro envelope
  have body := envelope.body.slotsSize_toSlots
  change (slot16 envelope.vtProtocolVersion.val).size + ((slot64 envelope.vtRequestId.val).size +
    slotsSize envelope.body.toSlots) ≤ envelope.body.contentSize
  rw [size_slot16, size_slot64, body, Nat.zero_add, Nat.zero_add]

end YoAuthorize.Protocol.Schema
