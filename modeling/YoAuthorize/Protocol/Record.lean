import YoAuthorize.Crypto
import YoAuthorize.Protocol.Frame

/-!
# Encrypted records

`RecordWriter::seal` and `RecordReader::open` (`record.cpp`).  Each call either
fails and leaves the writer or reader as it was, or advances its sequence
number by one; `RecordWriter.seal_cases` and `RecordReader.open_cases` say so
and name the one AEAD call of a successful record.
-/

namespace YoAuthorize.Protocol

open Octets Crypto

/-- The key and the salt of one direction of a connection. -/
structure RecordKey : Type where
  key : Key := .zeros kKeySize
  nonceSalt : NonceSalt := .zeros kNonceSaltSize
  deriving DecidableEq

/-- `enum class RecordError`. -/
inductive RecordError : Type
  | invalidFrame
  | unencryptedFrame
  | invalidSequence
  | sequenceExhausted
  | authenticationFailed
  deriving DecidableEq, Repr

abbrev RecordResult : Type := Except RecordError Bytes

def uint64Max : UInt64 := 0xffffffffffffffff

/-- Seals records under consecutive sequence numbers until it is exhausted. -/
structure RecordWriter : Type where
  key : RecordKey
  nextSequence : UInt64 := 1
  deriving DecidableEq

/-- Opens the records of a writer in their order and no others. -/
structure RecordReader : Type where
  key : RecordKey
  nextSequence : UInt64 := 1
  deriving DecidableEq

/-- The header `seal` writes in front of a record. -/
def recordHeader (sequence : UInt64) (plaintext : Bytes) : FrameHeader where
  flags := kEncryptedFlag
  sequence := sequence
  payloadSize := UInt32.ofNat (plaintext.length + kTagSize)

def RecordWriter.seal (ssl : OpenSsl) (writer : RecordWriter) (plaintext : Bytes) :
    RecordWriter × RecordResult :=
  if writer.nextSequence = uint64Max then (writer, .error .sequenceExhausted)
  else if plaintext = [] ∨ plaintext.length > kDefaultMaxPayloadSize.toNat - kTagSize then
    (writer, .error .invalidFrame)
  else
    let encodedHeader := encodeHeader (recordHeader writer.nextSequence plaintext)
    let nonce := makeRecordNonce writer.key.nonceSalt writer.nextSequence
    match sealChaCha20Poly1305 ssl writer.key.key nonce plaintext encodedHeader.val with
    | .error _ => (writer, .error .authenticationFailed)
    | .ok encrypted =>
        ({ writer with nextSequence := writer.nextSequence + 1 },
          .ok (encodedHeader.val ++ encrypted))

def RecordReader.open (ssl : OpenSsl) (reader : RecordReader) (frame : Bytes) :
    RecordReader × RecordResult :=
  if reader.nextSequence = uint64Max then (reader, .error .sequenceExhausted)
  else
    match decodeFrame frame with
    | .error _ => (reader, .error .invalidFrame)
    | .ok (header, payload) =>
        if header.flags ≠ kEncryptedFlag then (reader, .error .unencryptedFrame)
        else if header.sequence ≠ reader.nextSequence then (reader, .error .invalidSequence)
        else
          let nonce := makeRecordNonce reader.key.nonceSalt reader.nextSequence
          match openChaCha20Poly1305 ssl reader.key.key nonce payload
              (frame.take kFrameHeaderSize) with
          | .error _ => (reader, .error .authenticationFailed)
          | .ok plaintext =>
              ({ reader with nextSequence := reader.nextSequence + 1 }, .ok plaintext)

/-! ## What one call does -/

/-- What a call of the writer can do. -/
theorem RecordWriter.seal_cases (ssl : OpenSsl) (writer : RecordWriter) (plaintext : Bytes) :
    (∃ error, writer.seal ssl plaintext = (writer, .error error)) ∨
      ∃ encrypted,
        writer.nextSequence ≠ uint64Max ∧ plaintext ≠ [] ∧
        plaintext.length ≤ kDefaultMaxPayloadSize.toNat - kTagSize ∧
        sealChaCha20Poly1305 ssl writer.key.key
          (makeRecordNonce writer.key.nonceSalt writer.nextSequence) plaintext
          (encodeHeader (recordHeader writer.nextSequence plaintext)).val = .ok encrypted ∧
        writer.seal ssl plaintext =
          ({ writer with nextSequence := writer.nextSequence + 1 },
            .ok ((encodeHeader (recordHeader writer.nextSequence plaintext)).val ++
              encrypted)) := by
  unfold RecordWriter.seal
  split
  · exact .inl ⟨_, rfl⟩
  rename_i inSequence
  split
  · exact .inl ⟨_, rfl⟩
  rename_i fits
  rw [not_or] at fits
  simp only
  split
  · exact .inl ⟨_, rfl⟩
  · rename_i encrypted sealed
    exact .inr ⟨encrypted, inSequence, fits.1, Nat.le_of_not_lt fits.2, sealed, rfl⟩

/-- What a call of the reader can do. -/
theorem RecordReader.open_cases (ssl : OpenSsl) (reader : RecordReader) (frame : Bytes) :
    (∃ error, reader.open ssl frame = (reader, .error error)) ∨
      ∃ header payload plaintext,
        reader.nextSequence ≠ uint64Max ∧
        decodeFrame frame = .ok (header, payload) ∧
        header.flags = kEncryptedFlag ∧ header.sequence = reader.nextSequence ∧
        openChaCha20Poly1305 ssl reader.key.key
          (makeRecordNonce reader.key.nonceSalt reader.nextSequence) payload
          (frame.take kFrameHeaderSize) = .ok plaintext ∧
        reader.open ssl frame =
          ({ reader with nextSequence := reader.nextSequence + 1 }, .ok plaintext) := by
  unfold RecordReader.open
  split
  · exact .inl ⟨_, rfl⟩
  rename_i inSequence
  split
  · exact .inl ⟨_, rfl⟩
  rename_i header payload decoded
  split
  · exact .inl ⟨_, rfl⟩
  rename_i flags
  split
  · exact .inl ⟨_, rfl⟩
  rename_i sequence
  simp only
  split
  · exact .inl ⟨_, rfl⟩
  · rename_i plaintext opened
    exact .inr ⟨header, payload, plaintext, inSequence, decoded, not_not.mp flags,
      not_not.mp sequence, opened, rfl⟩

/-! ## Frames of records -/

/-- A record within the size limit of `seal` is a frame within that of `decodeFrame`. -/
theorem decodeFrame_record (sequence : UInt64) {plaintext encrypted : Bytes}
    (short : plaintext.length ≤ kDefaultMaxPayloadSize.toNat - kTagSize)
    (tagged : encrypted.length = plaintext.length + kTagSize) :
    decodeFrame ((encodeHeader (recordHeader sequence plaintext)).val ++ encrypted) =
      .ok (recordHeader sequence plaintext, encrypted) := by
  have size : (recordHeader sequence plaintext).payloadSize.toNat = plaintext.length + kTagSize :=
    UInt32.toNat_ofNat_of_lt' (Nat.lt_of_le_of_lt (Nat.add_le_add_right short kTagSize) (by decide))
  refine decodeFrame_eq_ok_iff.mpr ⟨rfl, ⟨rfl, .inr rfl, ?_, ?_⟩, ?_⟩
  · intro zero
    rw [zero] at size
    cases size
  · rw [UInt32.le_iff_toNat_le, size]
    exact Nat.le_trans (Nat.add_le_add_right short kTagSize) (by decide)
  · rw [tagged, size]

/-- A reader opens the record at its own sequence number when the cipher does. -/
theorem RecordReader.open_record (ssl : OpenSsl) (reader : RecordReader)
    {plaintext encrypted : Bytes} (unexhausted : reader.nextSequence ≠ uint64Max)
    (short : plaintext.length ≤ kDefaultMaxPayloadSize.toNat - kTagSize)
    (tagged : encrypted.length = plaintext.length + kTagSize)
    (opens : openChaCha20Poly1305 ssl reader.key.key
      (makeRecordNonce reader.key.nonceSalt reader.nextSequence) encrypted
      (encodeHeader (recordHeader reader.nextSequence plaintext)).val = .ok plaintext) :
    reader.open ssl
        ((encodeHeader (recordHeader reader.nextSequence plaintext)).val ++ encrypted) =
      ({ reader with nextSequence := reader.nextSequence + 1 }, .ok plaintext) := by
  have aad : ((encodeHeader (recordHeader reader.nextSequence plaintext)).val ++ encrypted).take
      kFrameHeaderSize = (encodeHeader (recordHeader reader.nextSequence plaintext)).val :=
    List.take_left' (encodeHeader _).2
  have flags : (recordHeader reader.nextSequence plaintext).flags = kEncryptedFlag := rfl
  have sequence : (recordHeader reader.nextSequence plaintext).sequence = reader.nextSequence := rfl
  unfold RecordReader.open
  rw [if_neg unexhausted, decodeFrame_record _ short tagged]
  simp only
  rw [if_neg (not_not.mpr flags), if_neg (not_not.mpr sequence), aad, opens]

/-- A call that returned an error changed nothing. -/
theorem RecordReader.open_error (ssl : OpenSsl) (reader : RecordReader) {frame : Bytes}
    {error : RecordError} (refused : (reader.open ssl frame).2 = .error error) :
    (reader.open ssl frame).1 = reader := by
  rcases reader.open_cases ssl frame with
    ⟨_, same⟩ | ⟨_, _, _, -, -, -, -, -, accepted⟩
  · rw [same]
  · rw [accepted] at refused
    cases refused

end YoAuthorize.Protocol
