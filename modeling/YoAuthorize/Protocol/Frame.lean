import YoAuthorize.Lib.Octets

/-!
# Frames

The 20-byte frame header and its decoder (`frame.cpp`).  Decoding and encoding
are inverse: `decodeFrame_eq_ok_iff` gives the frames `decodeFrame` accepts as
exactly the encodings of well-formed headers followed by a payload of the
announced size.
-/

namespace YoAuthorize.Protocol

open Octets

/-- The layout constants of `frame.h`. -/
def kFrameHeaderSize : Nat := 20
def kFrameVersion : UInt16 := 1
def kEncryptedFlag : UInt16 := 0x0001
def kDefaultMaxPayloadSize : UInt32 := 1024 * 1024

/-- The fields of a header behind the magic. -/
structure FrameHeader : Type where
  version : UInt16 := kFrameVersion
  flags : UInt16 := 0
  sequence : UInt64 := 0
  payloadSize : UInt32 := 0
  deriving DecidableEq, Repr

/-- `enum class FrameError`. -/
inductive FrameError : Type
  | insufficientData
  | invalidMagic
  | unsupportedVersion
  | unknownFlags
  | emptyPayload
  | payloadTooLarge
  | lengthMismatch
  deriving DecidableEq, Repr

def kMagic : Bytes := ofAscii "YAL1"

def writeU16 (value : UInt16) : Bytes := u16Bytes value
def writeU32 (value : UInt32) : Bytes := u32Bytes value
def writeU64 (value : UInt64) : Bytes := u64Bytes value

def readU16 (bytes : Bytes) : UInt16 := u16OfBytes bytes
def readU32 (bytes : Bytes) : UInt32 := u32OfBytes (bytes.take 4)
def readU64 (bytes : Bytes) : UInt64 := u64OfBytes (bytes.take 8)

def encodeHeader (header : FrameHeader) : FixedBytes kFrameHeaderSize :=
  ⟨kMagic ++ (writeU16 header.version ++ (writeU16 header.flags ++
    (writeU64 header.sequence ++ writeU32 header.payloadSize))), rfl⟩

/-- The header fields of a buffer, before any of them is checked. -/
def readHeader (bytes : Bytes) : FrameHeader where
  version := readU16 ((bytes.drop 4).take 2)
  flags := readU16 ((bytes.drop 6).take 2)
  sequence := readU64 ((bytes.drop 8).take 8)
  payloadSize := readU32 ((bytes.drop 16).take 4)

def decodeHeader (bytes : Bytes) (maxPayloadSize : UInt32 := kDefaultMaxPayloadSize) :
    Except FrameError FrameHeader :=
  if bytes.length < kFrameHeaderSize then .error .insufficientData
  else if kMagic ≠ bytes.take 4 then .error .invalidMagic
  else
    let header := readHeader bytes
    if header.version ≠ kFrameVersion then .error .unsupportedVersion
    else if header.flags &&& ~~~kEncryptedFlag ≠ 0 then .error .unknownFlags
    else if header.payloadSize = 0 then .error .emptyPayload
    else if header.payloadSize > maxPayloadSize then .error .payloadTooLarge
    else .ok header

/-- A frame is a header and exactly the payload that the header announces. -/
def decodeFrame (bytes : Bytes) (maxPayloadSize : UInt32 := kDefaultMaxPayloadSize) :
    Except FrameError (FrameHeader × Bytes) :=
  match decodeHeader bytes maxPayloadSize with
  | .error error => .error error
  | .ok header =>
      if bytes.length ≠ kFrameHeaderSize + header.payloadSize.toNat then .error .lengthMismatch
      else .ok (header, bytes.drop kFrameHeaderSize)

/-! ## Reading back a written header -/

/-- The fields of a header are read back from its bytes. -/
theorem readHeader_encodeHeader (header : FrameHeader) (payload : Bytes) :
    readHeader ((encodeHeader header).val ++ payload) = header := by
  have version : readU16 (writeU16 header.version) = header.version :=
    u16OfBytes_u16Bytes header.version
  have flags : readU16 (writeU16 header.flags) = header.flags := u16OfBytes_u16Bytes header.flags
  have sequence : readU64 (writeU64 header.sequence) = header.sequence :=
    u64OfBytes_u64Bytes header.sequence
  have payloadSize : readU32 (writeU32 header.payloadSize) = header.payloadSize :=
    u32OfBytes_u32Bytes header.payloadSize
  -- Every field sits at a literal offset, so the reads below reduce to the writes.
  change FrameHeader.mk (readU16 (writeU16 header.version)) (readU16 (writeU16 header.flags))
    (readU64 (writeU64 header.sequence)) (readU32 (writeU32 header.payloadSize)) = header
  rw [version, flags, sequence, payloadSize]

/-- A header that starts with the magic is the encoding of its fields. -/
theorem encodeHeader_readHeader {bytes : Bytes} (long : kFrameHeaderSize ≤ bytes.length)
    (magic : kMagic = bytes.take 4) :
    (encodeHeader (readHeader bytes)).val = bytes.take kFrameHeaderSize := by
  have size : ∀ offset count, offset + count ≤ kFrameHeaderSize →
      ((bytes.drop offset).take count).length = count := by
    intro offset count inside
    rw [List.length_take, List.length_drop]
    omega
  have version : writeU16 (readU16 ((bytes.drop 4).take 2)) = (bytes.drop 4).take 2 :=
    u16Bytes_u16OfBytes (size 4 2 (by decide))
  have flags : writeU16 (readU16 ((bytes.drop 6).take 2)) = (bytes.drop 6).take 2 :=
    u16Bytes_u16OfBytes (size 6 2 (by decide))
  have sequence : writeU64 (readU64 ((bytes.drop 8).take 8)) = (bytes.drop 8).take 8 := by
    rw [readU64, List.take_take]
    exact u64Bytes_u64OfBytes (size 8 8 (by decide))
  have payloadSize : writeU32 (readU32 ((bytes.drop 16).take 4)) = (bytes.drop 16).take 4 := by
    rw [readU32, List.take_take]
    exact u32Bytes_u32OfBytes (size 16 4 (by decide))
  have split : ∀ offset count rest, offset + count + rest = kFrameHeaderSize →
      (bytes.drop offset).take count ++ (bytes.drop (offset + count)).take rest =
        (bytes.drop offset).take (count + rest) := by
    intro offset count rest _
    rw [List.take_add, List.drop_drop]
  change kMagic ++ (writeU16 (readU16 ((bytes.drop 4).take 2)) ++
    (writeU16 (readU16 ((bytes.drop 6).take 2)) ++ (writeU64 (readU64 ((bytes.drop 8).take 8)) ++
      writeU32 (readU32 ((bytes.drop 16).take 4))))) = _
  rw [version, flags, sequence, payloadSize, split 8 8 4 rfl, split 6 2 12 rfl,
    split 4 2 14 rfl, magic]
  exact split 0 4 16 rfl

/-! ## What the decoders accept -/

/-- The checks `decodeHeader` makes on the fields. -/
structure FrameHeader.Accepted (header : FrameHeader) (maxPayloadSize : UInt32) : Prop where
  version : header.version = kFrameVersion
  flags : header.flags = 0 ∨ header.flags = kEncryptedFlag
  nonempty : header.payloadSize ≠ 0
  bounded : header.payloadSize ≤ maxPayloadSize

theorem flags_known_iff (flags : UInt16) :
    flags &&& ~~~kEncryptedFlag = 0 ↔ flags = 0 ∨ flags = kEncryptedFlag := by
  have masked : (flags &&& ~~~kEncryptedFlag).toNat = flags.toNat &&& 65534 := by
    rw [UInt16.toNat_and]
    rfl
  have pairs : flags.toNat &&& 65534 = flags.toNat / 2 * 2 := by
    apply Nat.eq_of_testBit_eq
    intro i
    rw [Nat.testBit_and]
    cases i with
    | zero =>
        have even : (flags.toNat / 2 * 2).testBit 0 = false := by
          rw [Nat.testBit_zero]
          simp
        rw [even]
        exact Bool.and_false _
    | succ i =>
        have shifted : (flags.toNat / 2 * 2).testBit (i + 1) = flags.toNat.testBit (i + 1) := by
          rw [Nat.testBit_succ, Nat.testBit_succ, Nat.mul_div_cancel _ (by decide)]
        have mask : (65534 : Nat).testBit (i + 1) = decide (i < 15) := by
          rw [Nat.testBit_succ]
          exact Nat.testBit_two_pow_sub_one 15 i
        rw [shifted, mask]
        by_cases inside : i < 15
        · simp only [inside, decide_true, Bool.and_true]
        · have high : flags.toNat.testBit (i + 1) = false :=
            Nat.testBit_lt_two_pow (lt_of_lt_of_le flags.toNat_lt
              (Nat.pow_le_pow_right (by decide) (by omega)))
          rw [high, Bool.false_and]
  rw [← UInt16.toNat_inj, masked, pairs, ← UInt16.toNat_inj, ← UInt16.toNat_inj]
  change flags.toNat / 2 * 2 = 0 ↔ flags.toNat = 0 ∨ flags.toNat = 1
  omega

/-- A header is accepted if and only if there are enough bytes, the magic stands before them
and the fields are allowed. -/
theorem decodeHeader_eq_ok_iff {bytes : Bytes} {maxPayloadSize : UInt32} {header : FrameHeader} :
    decodeHeader bytes maxPayloadSize = .ok header ↔
      kFrameHeaderSize ≤ bytes.length ∧ kMagic = bytes.take 4 ∧ header = readHeader bytes ∧
        header.Accepted maxPayloadSize := by
  unfold decodeHeader
  constructor
  · intro decode
    split at decode
    · cases decode
    rename_i long
    split at decode
    · cases decode
    rename_i magic
    simp only at decode
    split at decode
    · cases decode
    rename_i version
    split at decode
    · cases decode
    rename_i flags
    split at decode
    · cases decode
    rename_i nonempty
    split at decode
    · cases decode
    rename_i bounded
    cases decode
    exact ⟨Nat.le_of_not_lt long, not_not.mp magic, rfl,
      ⟨not_not.mp version, (flags_known_iff _).mp (not_not.mp flags), nonempty,
        UInt32.not_lt.mp bounded⟩⟩
  · rintro ⟨long, magic, rfl, accepted⟩
    rw [if_neg (Nat.not_lt.mpr long), if_neg (not_not.mpr magic)]
    simp only
    rw [if_neg (not_not.mpr accepted.version),
      if_neg (not_not.mpr ((flags_known_iff _).mpr accepted.flags)), if_neg accepted.nonempty,
      if_neg (UInt32.not_lt.mpr accepted.bounded)]

/-- A frame is accepted if and only if it is an accepted header and the payload it announces. -/
theorem decodeFrame_eq_ok_iff {bytes : Bytes} {maxPayloadSize : UInt32} {header : FrameHeader}
    {payload : Bytes} :
    decodeFrame bytes maxPayloadSize = .ok (header, payload) ↔
      bytes = (encodeHeader header).val ++ payload ∧ header.Accepted maxPayloadSize ∧
        payload.length = header.payloadSize.toNat := by
  unfold decodeFrame
  constructor
  · intro decode
    split at decode
    · cases decode
    rename_i header' decoded
    split at decode
    · cases decode
    rename_i size
    cases decode
    obtain ⟨long, magic, rfl, accepted⟩ := decodeHeader_eq_ok_iff.mp decoded
    refine ⟨?_, accepted, ?_⟩
    · rw [encodeHeader_readHeader long magic, List.take_append_drop]
    · rw [List.length_drop, not_not.mp size, Nat.add_sub_cancel_left]
  · rintro ⟨rfl, accepted, size⟩
    have length : ((encodeHeader header).val ++ payload).length =
        kFrameHeaderSize + header.payloadSize.toNat := by
      rw [List.length_append, (encodeHeader header).2, size]
    have decoded : decodeHeader ((encodeHeader header).val ++ payload) maxPayloadSize =
        .ok header :=
      decodeHeader_eq_ok_iff.mpr
        ⟨by omega, rfl, (readHeader_encodeHeader header payload).symm, accepted⟩
    rw [decoded]
    simp only
    rw [if_neg (not_not.mpr length), List.drop_left' (encodeHeader header).2]

/-! ## The codec is a bijection -/

/-- What a decoded frame says is well formed: its header passes the checks and
announces the payload that follows it. -/
structure WellFormedFrame (frame : FrameHeader × Bytes) (maxPayloadSize : UInt32) : Prop where
  accepted : frame.1.Accepted maxPayloadSize
  announced : frame.2.length = frame.1.payloadSize.toNat

/-- The bytes of a frame, header first. -/
def encodeFrame (frame : FrameHeader × Bytes) : Bytes := (encodeHeader frame.1).val ++ frame.2

theorem take_encodeFrame (frame : FrameHeader × Bytes) :
    (encodeFrame frame).take kFrameHeaderSize = (encodeHeader frame.1).val := by
  rw [encodeFrame]
  exact List.take_left' (encodeHeader frame.1).2

/-- A frame is determined by its bytes. -/
theorem encodeFrame_injective : Function.Injective encodeFrame := by
  intro left right same
  have headers : readHeader (encodeFrame left) = readHeader (encodeFrame right) :=
    congrArg readHeader same
  rw [encodeFrame, encodeFrame, readHeader_encodeHeader, readHeader_encodeHeader] at headers
  have payloads : (encodeFrame left).drop kFrameHeaderSize =
      (encodeFrame right).drop kFrameHeaderSize :=
    congrArg (List.drop kFrameHeaderSize) same
  rw [encodeFrame, encodeFrame, List.drop_left' (encodeHeader left.1).2,
    List.drop_left' (encodeHeader right.1).2] at payloads
  exact Prod.ext headers payloads

/-- `decodeFrame` runs the encoder backwards, on well-formed frames and on nothing else. -/
theorem decodeFrame_eq_ok_encodeFrame {bytes : Bytes} {maxPayloadSize : UInt32}
    {frame : FrameHeader × Bytes} :
    decodeFrame bytes maxPayloadSize = .ok frame ↔
      bytes = encodeFrame frame ∧ WellFormedFrame frame maxPayloadSize := by
  rw [← Prod.mk.eta (p := frame), decodeFrame_eq_ok_iff]
  constructor
  · rintro ⟨same, accepted, announced⟩
    exact ⟨same, accepted, announced⟩
  · rintro ⟨same, accepted, announced⟩
    exact ⟨same, accepted, announced⟩

theorem wellFormedFrame_iff (header : FrameHeader) (payload : Bytes) (maxPayloadSize : UInt32) :
    WellFormedFrame (header, payload) maxPayloadSize ↔
      header.version = 1 ∧ (header.flags = 0 ∨ header.flags = 1) ∧ 0 < header.payloadSize ∧
        header.payloadSize ≤ maxPayloadSize ∧ payload.length = header.payloadSize.toNat := by
  constructor
  · rintro ⟨⟨version, flags, nonempty, bounded⟩, announced⟩
    exact ⟨version, flags, UInt32.pos_iff_ne_zero.mpr nonempty, bounded, announced⟩
  · rintro ⟨version, flags, nonempty, bounded, announced⟩
    exact ⟨⟨version, flags, UInt32.pos_iff_ne_zero.mp nonempty, bounded⟩, announced⟩

theorem decodeFrame_encodeFrame_error {maxPayloadSize : UInt32} {frame : FrameHeader × Bytes}
    (malformed : ¬WellFormedFrame frame maxPayloadSize) :
    ∃ error, decodeFrame (encodeFrame frame) maxPayloadSize = .error error := by
  cases decoded : decodeFrame (encodeFrame frame) maxPayloadSize with
  | error error => exact ⟨error, rfl⟩
  | ok other =>
      obtain ⟨same, wellFormed⟩ := decodeFrame_eq_ok_encodeFrame.mp decoded
      rw [encodeFrame_injective same] at malformed
      exact absurd wellFormed malformed

/-- A header and a payload decode from their own bytes exactly when they are
well formed, every accepted string is the encoding of what it decodes to, and
the header bytes that records authenticate are those of the decoded header. -/
theorem frameCodec_bijective (maxPayloadSize : UInt32) :
    (∀ (header : FrameHeader) (payload : Bytes),
      (header.version = 1 ∧ (header.flags = 0 ∨ header.flags = 1) ∧ 0 < header.payloadSize ∧
          header.payloadSize ≤ maxPayloadSize ∧ payload.length = header.payloadSize.toNat →
        decodeFrame ((encodeHeader header).val ++ payload) maxPayloadSize =
          .ok (header, payload)) ∧
      (¬(header.version = 1 ∧ (header.flags = 0 ∨ header.flags = 1) ∧ 0 < header.payloadSize ∧
          header.payloadSize ≤ maxPayloadSize ∧ payload.length = header.payloadSize.toNat) →
        ∃ error, decodeFrame ((encodeHeader header).val ++ payload) maxPayloadSize =
          .error error)) ∧
    (∀ (bytes : Bytes) (header : FrameHeader) (payload : Bytes),
      decodeFrame bytes maxPayloadSize = .ok (header, payload) →
        bytes = (encodeHeader header).val ++ payload ∧
        bytes.take kFrameHeaderSize = (encodeHeader header).val ∧
        header.version = 1 ∧ (header.flags = 0 ∨ header.flags = 1) ∧ 0 < header.payloadSize ∧
        header.payloadSize ≤ maxPayloadSize ∧ payload.length = header.payloadSize.toNat) ∧
    ∀ (left right : Bytes) (otherMax : UInt32) (frame : FrameHeader × Bytes),
      decodeFrame left maxPayloadSize = .ok frame → decodeFrame right otherMax = .ok frame →
        left = right := by
  refine ⟨fun header payload => ⟨?_, ?_⟩, ?_, ?_⟩
  · intro wellFormed
    rw [← wellFormedFrame_iff] at wellFormed
    exact decodeFrame_eq_ok_encodeFrame.mpr ⟨by rw [encodeFrame], wellFormed⟩
  · intro malformed
    rw [← wellFormedFrame_iff] at malformed
    have refused := decodeFrame_encodeFrame_error malformed
    rw [encodeFrame] at refused
    exact refused
  · intro bytes header payload decoded
    obtain ⟨rfl, wellFormed⟩ := decodeFrame_eq_ok_encodeFrame.mp decoded
    refine ⟨?_, take_encodeFrame (header, payload), ?_⟩
    · rw [encodeFrame]
    · exact (wellFormedFrame_iff header payload maxPayloadSize).mp wellFormed
  · intro left right otherMax frame leftDecoded rightDecoded
    rw [(decodeFrame_eq_ok_encodeFrame.mp leftDecoded).1,
      (decodeFrame_eq_ok_encodeFrame.mp rightDecoded).1]

theorem frameCodec_bijective_three :
    decodeFrame ((encodeHeader
      { flags := kEncryptedFlag, sequence := 7, payloadSize := 3 }).val ++ [1, 2, 3]) 8 =
      .ok ({ flags := kEncryptedFlag, sequence := 7, payloadSize := 3 }, [1, 2, 3]) :=
  ((frameCodec_bijective 8).1 _ _).1 (by decide)

end YoAuthorize.Protocol
