import YoAuthorize.Protocol.RecordLayer
import YoAuthorize.Protocol.HonestExchange

/-!
# Runs of a writer and a reader

A writer and a reader of one key, called in any order, each call on a library
that may fail.  `RecordPair.Sound` numbers the records: the sequence number of
the next one is one more than the count of those so far, for the writer over
what it emitted and for the reader over what it opened.  A call that fails
leaves both as they were, so the numbering survives every interleaving, and the
check against `UINT64_MAX` stops a counter before it could wrap.
-/

namespace YoAuthorize.Protocol

open Octets Crypto

/-! ## Calls -/

/-- One call, with the library it ran on. -/
inductive RecordCall : Type
  | sealPlaintext (ssl : OpenSsl) (plaintext : Bytes)
  | openFrame (ssl : OpenSsl) (frame : Bytes)

def RecordCall.library : RecordCall → OpenSsl
  | .sealPlaintext ssl _ => ssl
  | .openFrame ssl _ => ssl

/-- A record that `seal` returned, with the nonce it passed to the cipher. -/
structure EmittedRecord : Type where
  nonce : Nonce
  plaintext : Bytes
  frame : Bytes

/-- The two ends of one key and what they have returned so far. -/
structure RecordPair : Type where
  writer : RecordWriter
  reader : RecordReader
  emitted : List EmittedRecord := []
  opened : List Bytes := []

def RecordPair.step (pair : RecordPair) : RecordCall → RecordPair
  | .sealPlaintext ssl plaintext =>
      match pair.writer.seal ssl plaintext with
      | (writer, .error _) => { pair with writer }
      | (writer, .ok frame) =>
          let nonce := makeRecordNonce pair.writer.key.nonceSalt pair.writer.nextSequence
          { pair with writer, emitted := pair.emitted ++ [{ nonce, plaintext, frame }] }
  | .openFrame ssl frame =>
      match pair.reader.open ssl frame with
      | (reader, .error _) => { pair with reader }
      | (reader, .ok plaintext) => { pair with reader, opened := pair.opened ++ [plaintext] }

/-- A fresh writer and reader after these calls. -/
def RecordPair.run (key : RecordKey) (calls : List RecordCall) : RecordPair :=
  calls.foldl RecordPair.step { writer := { key }, reader := { key } }

/-- The frames that a reader opens one after the other, and what it returns. -/
def RecordReader.openAll (reader : RecordReader) :
    List (OpenSsl × Bytes) → RecordReader × List RecordResult
  | [] => (reader, [])
  | (ssl, frame) :: frames =>
      let (next, result) := reader.open ssl frame
      let (last, results) := next.openAll frames
      (last, result :: results)

/-! ## The cipher -/

/-- A stream cipher, whose ciphertext is as long as the plaintext. -/
def KeepsSizes (ssl : OpenSsl) : Prop :=
  ∀ key nonce plaintext aad ciphertext tag,
    ssl.encryptChaCha20Poly1305 key nonce plaintext aad = some (ciphertext, tag) →
      ciphertext.length = plaintext.length

/-- Opening undoes sealing under the same key, nonce and additional data. -/
def Inverts (opener sealer : OpenSsl) : Prop :=
  ∀ key nonce plaintext aad ciphertext tag,
    sealer.encryptChaCha20Poly1305 key nonce plaintext aad = some (ciphertext, tag) →
      opener.decryptChaCha20Poly1305 key nonce ciphertext tag aad = some plaintext

section

variable {sealer opener : OpenSsl} {key : Key} {nonce : Nonce} {plaintext aad encrypted : Bytes}

theorem sealChaCha20Poly1305_ok
    (sealed : sealChaCha20Poly1305 sealer key nonce plaintext aad = .ok encrypted) :
    plaintext.length ≤ intMax ∧ aad.length ≤ intMax ∧ ∃ ciphertext tag,
      sealer.encryptChaCha20Poly1305 key nonce plaintext aad = some (ciphertext, tag) ∧
        encrypted = ciphertext ++ tag.val := by
  unfold sealChaCha20Poly1305 validSize at sealed
  split at sealed
  · cases sealed
  rename_i sizes
  simp only [Bool.not_eq_true', decide_eq_false_iff_not, not_or, not_not] at sizes
  split at sealed
  · cases sealed
  rename_i ciphertext tag encrypts
  cases sealed
  exact ⟨sizes.1, sizes.2, ciphertext, tag, encrypts, rfl⟩

theorem KeepsSizes.length_sealed (sizes : KeepsSizes sealer)
    (sealed : sealChaCha20Poly1305 sealer key nonce plaintext aad = .ok encrypted) :
    encrypted.length = plaintext.length + kTagSize := by
  obtain ⟨-, -, ciphertext, tag, encrypts, rfl⟩ := sealChaCha20Poly1305_ok sealed
  rw [List.length_append, sizes _ _ _ _ _ _ encrypts, tag.2]

theorem Inverts.openChaCha20Poly1305 (inverts : Inverts opener sealer) (sizes : KeepsSizes sealer)
    (sealed : sealChaCha20Poly1305 sealer key nonce plaintext aad = .ok encrypted) :
    openChaCha20Poly1305 opener key nonce encrypted aad = .ok plaintext := by
  obtain ⟨plaintextSize, aadSize, ciphertext, tag, encrypts, rfl⟩ := sealChaCha20Poly1305_ok sealed
  have ciphertextSize : ciphertext.length ≤ intMax := by
    rw [sizes _ _ _ _ _ _ encrypts]
    exact plaintextSize
  exact openChaCha20Poly1305_append ciphertextSize aadSize (inverts _ _ _ _ _ _ encrypts)

end

/-! ## The numbering -/

/-- The record at this index: sealed under the sequence number of the index,
which is below the last 64-bit value. -/
structure EmittedRecord.At (libraries : OpenSsl → Prop) (key : RecordKey) (index : Nat)
    (record : EmittedRecord) : Prop where
  bounded : index + 2 < sequenceCount
  nonce : record.nonce = makeRecordNonce key.nonceSalt (sequenceOf index)
  short : record.plaintext.length ≤ kDefaultMaxPayloadSize.toNat - kTagSize
  made : ∃ ssl encrypted, libraries ssl ∧
    sealChaCha20Poly1305 ssl key.key record.nonce record.plaintext
      (encodeHeader (recordHeader (sequenceOf index) record.plaintext)).val = .ok encrypted ∧
    record.frame =
      (encodeHeader (recordHeader (sequenceOf index) record.plaintext)).val ++ encrypted

structure RecordPair.Sound (libraries : OpenSsl → Prop) (key : RecordKey) (pair : RecordPair) :
    Prop where
  writerKey : pair.writer.key = key
  readerKey : pair.reader.key = key
  written : pair.writer.nextSequence.toNat = pair.emitted.length + 1
  read : pair.reader.nextSequence.toNat = pair.opened.length + 1
  numbered : ∀ (index : Nat) (record : EmittedRecord), pair.emitted[index]? = some record →
    record.At libraries key index

section

variable {libraries : OpenSsl → Prop} {key : RecordKey} {pair : RecordPair}

theorem RecordPair.sound_init (libraries : OpenSsl → Prop) (key : RecordKey) :
    RecordPair.Sound libraries key { writer := { key }, reader := { key } } where
  writerKey := rfl
  readerKey := rfl
  written := rfl
  read := rfl
  numbered index record found := by cases found

theorem RecordPair.Sound.sealPlaintext (sound : pair.Sound libraries key) {ssl : OpenSsl}
    (known : libraries ssl) (plaintext : Bytes) :
    (pair.step (.sealPlaintext ssl plaintext)).Sound libraries key := by
  rcases pair.writer.seal_cases ssl plaintext with
    ⟨error, refused⟩ | ⟨encrypted, unexhausted, -, short, sealed, success⟩
  · have same : pair.step (.sealPlaintext ssl plaintext) = pair := by
      simp only [RecordPair.step, refused]
    rw [same]
    exact sound
  · obtain ⟨bounded, sequence, counted⟩ := toNat_nextSequence unexhausted sound.written
    have next : pair.step (.sealPlaintext ssl plaintext) =
        { pair with
          writer := { pair.writer with nextSequence := pair.writer.nextSequence + 1 }
          emitted := pair.emitted ++ [
            { nonce := makeRecordNonce pair.writer.key.nonceSalt pair.writer.nextSequence
              plaintext
              frame := (encodeHeader (recordHeader pair.writer.nextSequence plaintext)).val ++
                encrypted }] } := by
      simp only [RecordPair.step, success]
    rw [next]
    refine ⟨sound.writerKey, sound.readerKey, ?_, sound.read, ?_⟩
    · rw [counted, List.length_append]
      rfl
    · intro index record found
      rcases Nat.lt_or_ge index pair.emitted.length with earlier | last
      · rw [List.getElem?_append_left earlier] at found
        exact sound.numbered index record found
      · rw [List.getElem?_append_right last] at found
        obtain ⟨position, rfl⟩ := List.getElem?_eq_some_iff.mp found
        have here : index = pair.emitted.length := by
          rw [List.length_singleton] at position
          omega
        subst here
        rw [sound.writerKey, sequence] at sealed
        refine ⟨bounded, ?_, ?_, ssl, encrypted, known, ?_, ?_⟩
        all_goals simp only [Nat.sub_self, List.getElem_cons_zero, sound.writerKey, sequence]
        · exact short
        · exact sealed

theorem RecordPair.Sound.openFrame (sound : pair.Sound libraries key) (ssl : OpenSsl)
    (frame : Bytes) : (pair.step (.openFrame ssl frame)).Sound libraries key := by
  rcases pair.reader.open_cases ssl frame with
    ⟨error, refused⟩ | ⟨_, _, plaintext, unexhausted, -, -, -, -, success⟩
  · have same : pair.step (.openFrame ssl frame) = pair := by
      simp only [RecordPair.step, refused]
    rw [same]
    exact sound
  · obtain ⟨-, -, counted⟩ := toNat_nextSequence unexhausted sound.read
    have next : pair.step (.openFrame ssl frame) =
        { pair with
          reader := { pair.reader with nextSequence := pair.reader.nextSequence + 1 }
          opened := pair.opened ++ [plaintext] } := by
      simp only [RecordPair.step, success]
    rw [next]
    refine ⟨sound.writerKey, sound.readerKey, sound.written, ?_, sound.numbered⟩
    rw [counted, List.length_append]
    rfl

/-- Every run keeps the numbering, whatever its calls return. -/
theorem RecordPair.sound_run (key : RecordKey) (calls : List RecordCall)
    (known : ∀ call ∈ calls, libraries call.library) :
    (RecordPair.run key calls).Sound libraries key := by
  -- The invariant is carried from the left, so the start is generalised.
  have from_any : ∀ pair : RecordPair, pair.Sound libraries key →
      (calls.foldl RecordPair.step pair).Sound libraries key := by
    induction calls with
    | nil => exact fun pair sound => sound
    | cons call calls ih =>
        intro pair sound
        apply ih fun later mem => known later (List.mem_cons_of_mem call mem)
        have here := known call List.mem_cons_self
        cases call with
        | sealPlaintext ssl plaintext => exact sound.sealPlaintext here plaintext
        | openFrame ssl frame => exact sound.openFrame ssl frame
  exact from_any _ (sound_init libraries key)

end

/-! ## What a run returns -/

section

variable {libraries : OpenSsl → Prop} {key : RecordKey} {index : Nat} {record : EmittedRecord}

theorem EmittedRecord.At.decodes (placed : record.At libraries key index)
    (sizes : ∀ ssl, libraries ssl → KeepsSizes ssl) :
    ∃ payload, decodeFrame record.frame =
      .ok (recordHeader (sequenceOf index) record.plaintext, payload) := by
  obtain ⟨ssl, encrypted, known, sealed, frame⟩ := placed.made
  rw [frame]
  exact ⟨encrypted, decodeFrame_record _ placed.short ((sizes ssl known).length_sealed sealed)⟩

/-- The nonce in the log is the one under which the bytes of the frame were sealed. -/
theorem EmittedRecord.At.sealed (placed : record.At libraries key index) :
    ∃ ssl, sealChaCha20Poly1305 ssl key.key record.nonce record.plaintext
      (record.frame.take kFrameHeaderSize) = .ok (record.frame.drop kFrameHeaderSize) := by
  obtain ⟨ssl, encrypted, -, sealed, frame⟩ := placed.made
  refine ⟨ssl, ?_⟩
  rw [frame, List.take_left' (encodeHeader _).2, List.drop_left' (encodeHeader _).2]
  exact sealed

/-- A reader that has opened as many records as came before opens this one. -/
theorem EmittedRecord.At.opens (placed : record.At libraries key index) {opener : OpenSsl}
    (sizes : ∀ ssl, libraries ssl → KeepsSizes ssl)
    (inverts : ∀ ssl, libraries ssl → Inverts opener ssl) {reader : RecordReader}
    (keyed : reader.key = key) (counted : reader.nextSequence.toNat = index + 1) :
    reader.open opener record.frame =
      ({ reader with nextSequence := reader.nextSequence + 1 }, .ok record.plaintext) := by
  obtain ⟨ssl, encrypted, known, sealed, frame⟩ := placed.made
  have bounded : index + 1 + 1 < sequenceCount := placed.bounded
  have sequence : reader.nextSequence = sequenceOf index := by
    apply UInt64.toNat_inj.mp
    rw [counted, toNat_sequenceOf (by omega)]
  have unexhausted : reader.nextSequence ≠ uint64Max := by
    intro exhausted
    have maximal : reader.nextSequence.toNat = 18446744073709551615 := by
      rw [exhausted]
      rfl
    unfold sequenceCount at bounded
    omega
  have opens := (inverts ssl known).openChaCha20Poly1305 (sizes ssl known) sealed
  rw [placed.nonce, ← sequence, ← keyed] at opens
  rw [frame, ← sequence]
  exact reader.open_record opener unexhausted placed.short ((sizes ssl known).length_sealed sealed)
    opens

end

/-- Rejected frames leave no trace. -/
theorem RecordReader.openAll_rejected {reader : RecordReader} {frames : List (OpenSsl × Bytes)}
    (rejected : ∀ result ∈ (reader.openAll frames).2, ∃ error, result = .error error) :
    (reader.openAll frames).1 = reader := by
  induction frames with
  | nil => rfl
  | cons first frames ih =>
      obtain ⟨ssl, frame⟩ := first
      obtain ⟨error, refused⟩ := rejected (reader.open ssl frame).2 List.mem_cons_self
      have same := reader.open_error ssl refused
      have rest := ih (by
        intro result mem
        apply rejected result
        change result ∈ _ :: ((reader.open ssl frame).1.openAll frames).2
        rw [same]
        exact List.mem_cons_of_mem _ mem)
      change ((reader.open ssl frame).1.openAll frames).1 = reader
      rw [same]
      exact rest

/-- A reader opens consecutive records from its own sequence number on. -/
theorem RecordReader.openAll_emitted {libraries : OpenSsl → Prop} {key : RecordKey}
    {opener : OpenSsl} (sizes : ∀ ssl, libraries ssl → KeepsSizes ssl)
    (inverts : ∀ ssl, libraries ssl → Inverts opener ssl) (records : List EmittedRecord) :
    ∀ (reader : RecordReader) (count : Nat), reader.key = key →
      reader.nextSequence.toNat = count + 1 →
      (∀ (index : Nat) (record : EmittedRecord), records[index]? = some record →
        record.At libraries key (count + index)) →
      (reader.openAll (records.map fun record => (opener, record.frame))).2 =
        records.map fun record => .ok record.plaintext := by
  induction records with
  | nil => exact fun _ _ _ _ _ => rfl
  | cons record records ih =>
      intro reader count keyed counted numbered
      have here := numbered 0 record rfl
      have opened := here.opens sizes inverts keyed counted
      have bounded : count + 0 + 1 + 1 < sequenceCount := here.bounded
      have next : (reader.nextSequence + 1).toNat = count + 1 + 1 := by
        rw [UInt64.toNat_add, counted]
        exact Nat.mod_eq_of_lt bounded
      have rest := ih { reader with nextSequence := reader.nextSequence + 1 } (count + 1) keyed next
        (by
          intro index later found
          rw [Nat.add_assoc, Nat.add_comm 1 index]
          exact numbered (index + 1) later found)
      simp only [List.map_cons, RecordReader.openAll, opened, rest]

/-! ## The end of the numbers -/

theorem eq_uint64Max_iff {sequence : UInt64} {count : Nat}
    (counted : sequence.toNat = count + 1) :
    sequence = uint64Max ↔ count + 1 = 2 ^ 64 - 1 := by
  rw [← UInt64.toNat_inj, counted]
  rfl

theorem RecordWriter.seal_exhausted_iff (ssl : OpenSsl) (writer : RecordWriter)
    (plaintext : Bytes) :
    (writer.seal ssl plaintext).2 = .error .sequenceExhausted ↔
      writer.nextSequence = uint64Max := by
  unfold RecordWriter.seal
  split
  · rename_i exhausted
    exact ⟨fun _ => exhausted, fun _ => rfl⟩
  · rename_i unexhausted
    refine ⟨?_, fun exhausted => absurd exhausted unexhausted⟩
    intro refused
    split at refused
    · cases refused
    · simp only at refused
      split at refused <;> cases refused

theorem RecordReader.open_exhausted_iff (ssl : OpenSsl) (reader : RecordReader) (frame : Bytes) :
    (reader.open ssl frame).2 = .error .sequenceExhausted ↔
      reader.nextSequence = uint64Max := by
  unfold RecordReader.open
  split
  · rename_i exhausted
    exact ⟨fun _ => exhausted, fun _ => rfl⟩
  · rename_i unexhausted
    refine ⟨?_, fun exhausted => absurd exhausted unexhausted⟩
    intro refused
    split at refused
    · cases refused
    split at refused
    · cases refused
    split at refused
    · cases refused
    simp only at refused
    split at refused <;> cases refused

/-- In every run of a writer and a reader of one key: the records are numbered
from one on and no nonce is used twice; the counters stop before they wrap;
every emitted frame decodes; a rejected frame leaves the reader as it was, so
that the genuine next record is still accepted; and the records, opened in
order, give back the plaintexts, down to the last number that a writer uses. -/
theorem recordLayer_runs (key : RecordKey) (calls : List RecordCall) (opener : OpenSsl)
    (sizes : ∀ call ∈ calls, KeepsSizes call.library)
    (inverts : ∀ call ∈ calls, Inverts opener call.library) :
    let pair := RecordPair.run key calls
    (∀ (index : Nat) (record : EmittedRecord), pair.emitted[index]? = some record →
      record.nonce = makeRecordNonce key.nonceSalt (UInt64.ofNat (index + 1)) ∧
      index + 1 < 2 ^ 64 - 1 ∧
      (∃ ssl, sealChaCha20Poly1305 ssl key.key record.nonce record.plaintext
        (record.frame.take kFrameHeaderSize) = .ok (record.frame.drop kFrameHeaderSize)) ∧
      ∃ header payload, decodeFrame record.frame = .ok (header, payload) ∧
        header.sequence.toNat = index + 1) ∧
    (∀ (left right : Nat) (first second : EmittedRecord), pair.emitted[left]? = some first →
      pair.emitted[right]? = some second → first.nonce = second.nonce → left = right) ∧
    pair.writer.nextSequence.toNat = pair.emitted.length + 1 ∧
    (∀ ssl plaintext, (pair.writer.seal ssl plaintext).2 = .error .sequenceExhausted ↔
      pair.emitted.length + 1 = 2 ^ 64 - 1) ∧
    pair.reader.nextSequence.toNat = pair.opened.length + 1 ∧
    (∀ ssl frame, (pair.reader.open ssl frame).2 = .error .sequenceExhausted ↔
      pair.opened.length + 1 = 2 ^ 64 - 1) ∧
    (∀ ssl frame error, (pair.reader.open ssl frame).2 = .error error →
      (pair.reader.open ssl frame).1 = pair.reader) ∧
    (∀ frames : List (OpenSsl × Bytes),
      (∀ result ∈ (pair.reader.openAll frames).2, ∃ error, result = .error error) →
        ∀ record : EmittedRecord, pair.emitted[pair.opened.length]? = some record →
          ((pair.reader.openAll frames).1.open opener record.frame).2 = .ok record.plaintext) ∧
    (({ key } : RecordReader).openAll
        (pair.emitted.map fun record => (opener, record.frame))).2 =
      pair.emitted.map fun record => .ok record.plaintext := by
  intro pair
  let libraries : OpenSsl → Prop := fun ssl => ∃ call ∈ calls, call.library = ssl
  have keepsSizes : ∀ ssl, libraries ssl → KeepsSizes ssl := by
    rintro ssl ⟨call, mem, rfl⟩
    exact sizes call mem
  have inverted : ∀ ssl, libraries ssl → Inverts opener ssl := by
    rintro ssl ⟨call, mem, rfl⟩
    exact inverts call mem
  have sound : pair.Sound libraries key :=
    RecordPair.sound_run key calls fun call mem => ⟨call, mem, rfl⟩
  refine ⟨?_, ?_, sound.written, ?_, sound.read, ?_, ?_, ?_, ?_⟩
  · intro index record found
    have placed := sound.numbered index record found
    have bounded := placed.bounded
    unfold sequenceCount at bounded
    obtain ⟨payload, decoded⟩ := placed.decodes keepsSizes
    exact ⟨placed.nonce, by omega, placed.sealed, _, payload, decoded,
      toNat_sequenceOf (by unfold sequenceCount; omega)⟩
  · intro left right first second foundFirst foundSecond same
    have placedFirst := sound.numbered left first foundFirst
    have placedSecond := sound.numbered right second foundSecond
    rw [placedFirst.nonce, placedSecond.nonce] at same
    have boundedFirst := placedFirst.bounded
    have boundedSecond := placedSecond.bounded
    exact sequenceOf_inj (by omega) (by omega) (makeRecordNonce_inj same).2
  · intro ssl plaintext
    rw [RecordWriter.seal_exhausted_iff]
    exact eq_uint64Max_iff sound.written
  · intro ssl frame
    rw [RecordReader.open_exhausted_iff]
    exact eq_uint64Max_iff sound.read
  · intro ssl frame error refused
    exact pair.reader.open_error ssl refused
  · intro frames rejected record found
    rw [RecordReader.openAll_rejected rejected,
      (sound.numbered _ record found).opens keepsSizes inverted sound.readerKey sound.read]
  · apply RecordReader.openAll_emitted keepsSizes inverted pair.emitted { key } 0 rfl rfl
    intro index record found
    rw [Nat.zero_add]
    exact sound.numbered index record found

/-- A library with a cipher that changes nothing and a tag of zeros. -/
def plainCipher : OpenSsl where
  randPrivBytes _ := none
  digestSha256 _ := none
  digestSignEd25519 _ _ := none
  digestVerifyEd25519 _ _ _ := .error .invalidSignature
  keygenX25519 := none
  pkeyDeriveX25519 _ _ := .error .derivationFailed
  kdfDeriveHkdf _ _ _ _ := none
  encryptChaCha20Poly1305 _ _ plaintext _ := some (plaintext, .zeros kTagSize)
  decryptChaCha20Poly1305 _ _ ciphertext tag _ :=
    if tag = .zeros kTagSize then some ciphertext else none

theorem plainCipher_keepsSizes : KeepsSizes plainCipher := by
  intro key nonce plaintext aad ciphertext tag encrypts
  cases encrypts
  rfl

theorem plainCipher_inverts : Inverts plainCipher plainCipher := by
  intro key nonce plaintext aad ciphertext tag encrypts
  cases encrypts
  simp [plainCipher]

/-- Two records, with a frame and a plaintext that are refused in between. -/
def helloCalls : List RecordCall :=
  [.sealPlaintext plainCipher (ofAscii "hello"), .openFrame plainCipher [],
    .sealPlaintext plainCipher [], .sealPlaintext plainCipher (ofAscii "world")]

theorem recordLayer_runs_hello :
    (({ key := {} } : RecordReader).openAll
        ((RecordPair.run {} helloCalls).emitted.map fun record => (plainCipher, record.frame))).2 =
      [.ok (ofAscii "hello"), .ok (ofAscii "world")] := by
  have libraries : ∀ call ∈ helloCalls, call.library = plainCipher := by
    intro call mem
    simp only [helloCalls, List.mem_cons, List.not_mem_nil, or_false] at mem
    rcases mem with rfl | rfl | rfl | rfl <;> rfl
  have runs := recordLayer_runs {} helloCalls plainCipher
    (fun call mem => by rw [libraries call mem]; exact plainCipher_keepsSizes)
    (fun call mem => by rw [libraries call mem]; exact plainCipher_inverts)
  exact runs.2.2.2.2.2.2.2.2

end YoAuthorize.Protocol
