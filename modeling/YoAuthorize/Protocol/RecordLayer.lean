import YoAuthorize.Protocol.World

/-!
# The record layer along a run

`Endpoint.Sound` ties the two record objects of one side to its past: the next
sequence number counts the records so far, and every accepted plaintext was
opened from a logged seal under the read key at its own sequence number.
`Endpoint.Sealed` is the other half: which logged seals a side made.  Under an
ideal AEAD both are kept by every call (`World.recorded_of_step`), and together
they give `Endpoint.Sound.accepted_prefix`: who shares its keys with one sender only
accepts a prefix of what that sender sealed.
-/

namespace YoAuthorize.Protocol

open Octets Crypto FlatBuffer Schema

/-- Opening succeeds only on what a logged seal produced, and returns its plaintext. -/
def IdealAead (ssl : OpenSsl) (calls : List SealCall) : Prop :=
  ∀ key nonce ciphertext aad plaintext,
    openChaCha20Poly1305 ssl key nonce ciphertext aad = .ok plaintext →
      { key, nonce, aad, plaintext, ciphertext } ∈ calls

/-- The sequence number of the record at an index of a side's past. -/
def sequenceOf (index : Nat) : UInt64 := UInt64.ofNat (index + 1)

def sequenceCount : Nat := 18446744073709551616

theorem toNat_sequenceOf {index : Nat} (small : index + 1 < sequenceCount) :
    (sequenceOf index).toNat = index + 1 :=
  UInt64.toNat_ofNat_of_lt' small

theorem sequenceOf_inj {left right : Nat} (leftSmall : left + 1 < sequenceCount)
    (rightSmall : right + 1 < sequenceCount) (same : sequenceOf left = sequenceOf right) :
    left = right := by
  have numbers := congrArg UInt64.toNat same
  rw [toNat_sequenceOf leftSmall, toNat_sequenceOf rightSmall] at numbers
  exact Nat.succ.inj numbers

/-- The sequence check before a record keeps the counter from wrapping. -/
theorem toNat_nextSequence {sequence : UInt64} {count : Nat} (unexhausted : sequence ≠ uint64Max)
    (counted : sequence.toNat = count + 1) :
    count + 1 + 1 < sequenceCount ∧ sequence = sequenceOf count ∧
      (sequence + 1).toNat = count + 1 + 1 := by
  have bound : sequence.toNat < sequenceCount := sequence.toNat_lt
  have notMax : sequence.toNat ≠ 18446744073709551615 := fun maximal =>
    unexhausted (UInt64.toNat_inj.mp maximal)
  have small : count + 1 + 1 < sequenceCount := by
    unfold sequenceCount at bound ⊢
    omega
  refine ⟨small, ?_, ?_⟩
  · apply UInt64.toNat_inj.mp
    rw [counted, toNat_sequenceOf (by omega)]
  · rw [UInt64.toNat_add, counted]
    exact Nat.mod_eq_of_lt small

/-! ## One side -/

/-- The call is the seal of one of the side's plaintexts, at its sequence number. -/
def Endpoint.Sealed (endpoint : Endpoint) (call : SealCall) : Prop :=
  ∃ keys index, endpoint.keys = some keys ∧ call.key = keys.write.key ∧
    call.nonce = makeRecordNonce keys.write.nonceSalt (sequenceOf index) ∧
    index + 1 < sequenceCount ∧ endpoint.sealed[index]? = some call.plaintext

/-- The call is a seal that the side opened as its record at `index`. -/
def Endpoint.Opened (endpoint : Endpoint) (index : Nat) (call : SealCall) : Prop :=
  ∃ keys, endpoint.keys = some keys ∧ call.key = keys.read.key ∧
    call.nonce = makeRecordNonce keys.read.nonceSalt (sequenceOf index) ∧
    index + 1 < sequenceCount

structure Endpoint.Sound (calls : List SealCall) (writer : Option RecordWriter)
    (reader : Option RecordReader) (endpoint : Endpoint) : Prop where
  writes : ∀ current, writer = some current → ∃ keys, endpoint.keys = some keys ∧
    current.key = keys.write ∧ current.nextSequence.toNat = endpoint.sealed.length + 1
  reads : ∀ current, reader = some current → ∃ keys, endpoint.keys = some keys ∧
    current.key = keys.read ∧ current.nextSequence.toNat = endpoint.accepted.length + 1
  accepted : ∀ index plaintext, endpoint.accepted[index]? = some plaintext →
    ∃ call ∈ calls, endpoint.Opened index call ∧ call.plaintext = plaintext

section Endpoint

variable {calls : List SealCall} {writer : Option RecordWriter} {reader : Option RecordReader}
  {endpoint : Endpoint}

theorem Endpoint.Sound.mono (sound : endpoint.Sound calls writer reader) (more : List SealCall) :
    endpoint.Sound (calls ++ more) writer reader where
  writes := sound.writes
  reads := sound.reads
  accepted index plaintext found := by
    obtain ⟨call, logged, opened⟩ := sound.accepted index plaintext found
    exact ⟨call, List.mem_append_left more logged, opened⟩

/-- `fail` drops both record objects. -/
theorem Endpoint.Sound.dropped (sound : endpoint.Sound calls writer reader) :
    endpoint.Sound calls none none where
  writes current absent := by cases absent
  reads current absent := by cases absent
  accepted := sound.accepted

theorem Endpoint.sound_empty (calls : List SealCall) : Endpoint.Sound calls none none {} where
  writes current absent := by cases absent
  reads current absent := by cases absent
  accepted index plaintext found := by cases found

/-- Fresh record objects after the key exchange, before any record. -/
theorem Endpoint.sound_of_keys (calls : List SealCall) (keys : EndpointKeys) :
    Endpoint.Sound calls (some { key := keys.write }) (some { key := keys.read })
      { keys := some keys } where
  writes current present := by
    cases present
    exact ⟨keys, rfl, rfl, rfl⟩
  reads current present := by
    cases present
    exact ⟨keys, rfl, rfl, rfl⟩
  accepted index plaintext found := by cases found

theorem Endpoint.Sealed.append {call : SealCall} (made : endpoint.Sealed call)
    (more : List Bytes) : { endpoint with sealed := endpoint.sealed ++ more }.Sealed call := by
  obtain ⟨keys, index, keyed, key, nonce, small, found⟩ := made
  refine ⟨keys, index, keyed, key, nonce, small, ?_⟩
  obtain ⟨inside, -⟩ := List.getElem?_eq_some_iff.mp found
  rw [← found]
  exact List.getElem?_append_left inside

/-- A successful `seal` counts the record and logs it under its sequence number. -/
theorem Endpoint.Sound.sealed {ssl : OpenSsl} {current : RecordWriter} {plaintext frame : Bytes}
    (sound : endpoint.Sound calls (some current) reader)
    (call : current.seal ssl plaintext =
      ({ current with nextSequence := current.nextSequence + 1 }, .ok frame)) :
    { endpoint with sealed := endpoint.sealed ++ [plaintext] }.Sound calls
        (some { current with nextSequence := current.nextSequence + 1 }) reader ∧
      { endpoint with sealed := endpoint.sealed ++ [plaintext] }.Sealed
        (current.sealCall plaintext frame) := by
  obtain ⟨keys, keyed, key, counted⟩ := sound.writes current rfl
  have unexhausted : current.nextSequence ≠ uint64Max := by
    rcases current.seal_cases ssl plaintext with ⟨error, refused⟩ | ⟨-, unexhausted, -⟩
    · rw [refused] at call
      cases congrArg Prod.snd call
    · exact unexhausted
  obtain ⟨small, sequence, next⟩ := toNat_nextSequence unexhausted counted
  refine ⟨⟨?_, sound.reads, sound.accepted⟩, ?_⟩
  · intro writer present
    cases present
    refine ⟨keys, keyed, key, ?_⟩
    rw [List.length_append]
    exact next
  · refine ⟨keys, endpoint.sealed.length, keyed, ?_, ?_, by omega, ?_⟩
    · rw [← key]
      rfl
    · rw [← key, ← sequence]
      rfl
    · exact List.getElem?_concat_length

/-- A successful `open` under an ideal AEAD counts a record that was logged
under its sequence number. -/
theorem Endpoint.Sound.opened {ssl : OpenSsl} {current : RecordReader} {plaintext frame : Bytes}
    (ideal : IdealAead ssl calls) (sound : endpoint.Sound calls writer (some current))
    (call : current.open ssl frame =
      ({ current with nextSequence := current.nextSequence + 1 }, .ok plaintext)) :
    { endpoint with accepted := endpoint.accepted ++ [plaintext] }.Sound calls writer
      (some { current with nextSequence := current.nextSequence + 1 }) := by
  obtain ⟨keys, keyed, key, counted⟩ := sound.reads current rfl
  rcases current.open_cases ssl frame with
    ⟨error, refused⟩ | ⟨header, payload, opened, unexhausted, -, -, -, decrypted, result⟩
  · rw [refused] at call
    cases congrArg Prod.snd call
  rw [result] at call
  cases congrArg Prod.snd call
  obtain ⟨small, sequence, next⟩ := toNat_nextSequence unexhausted counted
  refine ⟨sound.writes, ?_, ?_⟩
  · intro reader present
    cases present
    refine ⟨keys, keyed, key, ?_⟩
    rw [List.length_append]
    exact next
  · intro index accepted found
    rcases Nat.lt_or_ge index endpoint.accepted.length with inside | outside
    · apply sound.accepted
      rw [← found]
      exact (List.getElem?_append_left inside).symm
    · have last : index = endpoint.accepted.length := by
        obtain ⟨bound, -⟩ := List.getElem?_eq_some_iff.mp found
        rw [List.length_append, List.length_singleton] at bound
        omega
      subst last
      rw [List.getElem?_concat_length] at found
      cases found
      refine ⟨_, ideal _ _ _ _ _ decrypted, ⟨keys, keyed, ?_, ?_, by omega⟩, rfl⟩
      · rw [← key]
      · rw [← key, ← sequence]

/-- A side whose read key seals only for one sender accepts a prefix of what
that sender sealed. -/
theorem Endpoint.Sound.accepted_prefix {sender : Endpoint} {keys : EndpointKeys}
    (sound : endpoint.Sound calls writer reader) (keyed : endpoint.keys = some keys)
    (senderKeyed : sender.keys = some keys.swap)
    (exclusive : ∀ call ∈ calls, call.key = keys.read.key → sender.Sealed call) :
    endpoint.accepted <+: sender.sealed := by
  rw [List.prefix_iff_getElem?]
  intro index inside
  obtain ⟨call, logged, ⟨own, ownKeyed, key, nonce, small⟩, plaintext⟩ :=
    sound.accepted index _ (List.getElem?_eq_getElem inside)
  rw [keyed] at ownKeyed
  cases ownKeyed
  obtain ⟨theirs, position, theirsKeyed, -, theirNonce, theirSmall, found⟩ :=
    exclusive call logged key
  rw [senderKeyed] at theirsKeyed
  cases theirsKeyed
  have sequence := (makeRecordNonce_inj (nonce.symm.trans theirNonce)).2
  have same := sequenceOf_inj small theirSmall sequence
  rw [← plaintext, same]
  exact found

end Endpoint

/-! ## Calls -/

section Calls

variable {fb : Binding Envelope} {ssl : OpenSsl} {calls made : List SealCall}

structure ClientRun.Recorded (calls : List SealCall) (run : ClientRun) : Prop where
  sound : run.endpoint.Sound calls run.handshake.writer run.handshake.reader
  unkeyed : run.handshake.state = .initial ∨ run.handshake.state = .helloSent →
    run.endpoint.keys = none

structure ServerRun.Recorded (calls : List SealCall) (run : ServerRun) : Prop where
  sound : run.endpoint.Sound calls run.handshake.writer run.handshake.reader
  unkeyed : run.handshake.state = .initial → run.endpoint.keys = none

theorem ClientRun.Recorded.mono {run : ClientRun} (recorded : run.Recorded calls)
    (more : List SealCall) : run.Recorded (calls ++ more) :=
  ⟨recorded.sound.mono more, recorded.unkeyed⟩

theorem ServerRun.Recorded.mono {run : ServerRun} (recorded : run.Recorded calls)
    (more : List SealCall) : run.Recorded (calls ++ more) :=
  ⟨recorded.sound.mono more, recorded.unkeyed⟩

theorem ClientRun.Recorded.failed {run : ClientRun} (recorded : run.Recorded calls)
    (before : ClientHandshake) : { run with handshake := before.fail }.Recorded calls where
  sound := recorded.sound.dropped
  unkeyed early := by rcases early with early | early <;> cases early

theorem ServerRun.Recorded.failed {run : ServerRun} (recorded : run.Recorded calls) :
    { run with handshake := run.handshake.fail }.Recorded calls where
  sound := recorded.sound.dropped
  unkeyed early := by cases early

theorem Endpoint.not_sealed {endpoint : Endpoint} {call : SealCall}
    (unkeyed : endpoint.keys = none) : ¬ endpoint.Sealed call := by
  rintro ⟨keys, index, keyed, -⟩
  rw [unkeyed] at keyed
  cases keyed

/-- What one side's step does to the record layer: the side stays recorded, its
old seals stay its own and the new ones are. -/
structure StepRecorded (before after : Endpoint) (made : List SealCall) (recorded : Prop) :
    Prop where
  recorded : recorded
  kept : ∀ call, before.Sealed call → after.Sealed call
  added : ∀ call ∈ made, after.Sealed call

theorem StepRecorded.quiet {endpoint : Endpoint} {recorded : Prop} (holds : recorded) :
    StepRecorded endpoint endpoint [] recorded :=
  ⟨holds, fun _ own => own, fun _ none => by cases none⟩

/-- A side that seals keeps its old seals and has the new one. -/
theorem StepRecorded.sealed {endpoint : Endpoint} {plaintext : Bytes} {call : SealCall}
    {recorded : Prop} (holds : recorded)
    (own : { endpoint with sealed := endpoint.sealed ++ [plaintext] }.Sealed call) :
    StepRecorded endpoint { endpoint with sealed := endpoint.sealed ++ [plaintext] } [call]
      recorded := by
  refine ⟨holds, fun _ old => old.append _, ?_⟩
  intro call new
  rw [List.mem_singleton.mp new]
  exact own

/-- What a side accepts is none of its seals. -/
theorem StepRecorded.opened {endpoint : Endpoint} {plaintext : Bytes} {recorded : Prop}
    (holds : recorded) :
    StepRecorded endpoint { endpoint with accepted := endpoint.accepted ++ [plaintext] } []
      recorded :=
  ⟨holds, fun _ old => old, fun _ none => by cases none⟩

theorem ClientRun.recorded_of_step {run next : ClientRun} (ideal : IdealAead ssl calls)
    (recorded : run.Recorded calls) (step : ClientRun.Step fb ssl run next made) :
    StepRecorded run.endpoint next.endpoint made (next.Recorded (calls ++ made)) := by
  cases step.effect with
  | failed before =>
      rw [List.append_nil]
      exact .quiet (recorded.failed before)
  | unchanged =>
      rw [List.append_nil]
      exact .quiet recorded
  | started initial generated =>
      rw [List.append_nil]
      exact .quiet ⟨recorded.sound, fun _ => recorded.unkeyed (.inl initial)⟩
  | helloAccepted accept encode sealed =>
      rename_i message plaintext frame accepted
      have unkeyed := recorded.unkeyed (.inr (ClientHandshake.accepts_of_accept accept).1)
      obtain ⟨sound, own⟩ :=
        (Endpoint.sound_of_keys calls (clientEndpointKeys accepted.keys)).sealed sealed
      refine ⟨⟨sound.mono _, ?_⟩, ?_, ?_⟩
      · rintro (early | early) <;> cases early
      · intro call old
        exact absurd old (Endpoint.not_sealed unkeyed)
      · intro call new
        rw [List.mem_singleton.mp new]
        exact own
  | sealed established current sealed =>
      have sound := recorded.sound
      rw [current] at sound
      obtain ⟨after, own⟩ := sound.sealed sealed
      exact .sealed ⟨after.mono _, recorded.unkeyed⟩ own
  | opened established current opened =>
      rw [List.append_nil]
      have sound := recorded.sound
      rw [current] at sound
      exact .opened ⟨sound.opened ideal opened, recorded.unkeyed⟩

theorem ServerRun.recorded_of_step {run next : ServerRun} (ideal : IdealAead ssl calls)
    (recorded : run.Recorded calls) (step : ServerRun.Step fb ssl run next made) :
    StepRecorded run.endpoint next.endpoint made (next.Recorded (calls ++ made)) := by
  cases step.effect with
  | failed =>
      rw [List.append_nil]
      exact .quiet recorded.failed
  | unchanged =>
      rw [List.append_nil]
      exact .quiet recorded
  | helloAnswered answered =>
      rename_i message answer
      rw [List.append_nil]
      have unkeyed := recorded.unkeyed (ServerHandshake.answers_of_answer answered).1
      refine ⟨⟨Endpoint.sound_of_keys calls (serverEndpointKeys answer.keys), ?_⟩, ?_, ?_⟩
      · intro early
        cases early
      · intro call old
        exact absurd old (Endpoint.not_sealed unkeyed)
      · intro call none
        cases none
  | finishedAccepted awaiting current opened decoded =>
      rw [List.append_nil]
      have sound := recorded.sound
      rw [current] at sound
      refine .opened ⟨sound.opened ideal opened, ?_⟩
      intro early
      cases early
  | sealed established current sealed =>
      have sound := recorded.sound
      rw [current] at sound
      obtain ⟨after, own⟩ := sound.sealed sealed
      exact .sealed ⟨after.mono _, recorded.unkeyed⟩ own
  | opened established current opened =>
      rw [List.append_nil]
      have sound := recorded.sound
      rw [current] at sound
      exact .opened ⟨sound.opened ideal opened, recorded.unkeyed⟩

end Calls

/-! ## The world -/

section World

variable {ι κ : Type}

structure World.Recorded (world : World ι κ) : Prop where
  clients : ∀ i, (world.clients i).Recorded world.sealCalls
  servers : ∀ j, (world.servers j).Recorded world.sealCalls
  origin : ∀ call ∈ world.sealCalls, (∃ i, (world.clients i).endpoint.Sealed call) ∨
    ∃ j, (world.servers j).endpoint.Sealed call

theorem World.recorded_of_fresh {world : World ι κ} (fresh : world.Fresh) : world.Recorded where
  clients i := by
    obtain ⟨_, _, _, _, _, created⟩ := fresh.clients i
    rw [created]
    exact ⟨Endpoint.sound_empty _, fun _ => rfl⟩
  servers j := by
    obtain ⟨_, _, _, _, created⟩ := fresh.servers j
    rw [created]
    exact ⟨Endpoint.sound_empty _, fun _ => rfl⟩
  origin call logged := by
    rw [fresh.sealCalls] at logged
    cases logged

variable [DecidableEq ι] [DecidableEq κ]

theorem World.recorded_of_step {fb : Binding Envelope} {ssl : OpenSsl} {world next : World ι κ}
    (recorded : world.Recorded) (ideal : IdealAead ssl world.sealCalls)
    (step : World.Step fb ssl world next) : next.Recorded := by
  cases step with
  | client i step =>
      rename_i run made
      obtain ⟨after, kept, added⟩ := ClientRun.recorded_of_step ideal (recorded.clients i) step
      refine ⟨?_, fun j => (recorded.servers j).mono _, ?_⟩
      · intro other
        rcases eq_or_ne other i with rfl | different
        · simpa only [Function.update_self] using after
        · simpa only [Function.update_of_ne different] using (recorded.clients other).mono _
      · intro call logged
        rcases List.mem_append.mp logged with old | new
        · rcases recorded.origin call old with ⟨other, own⟩ | ⟨j, own⟩
          · refine .inl ⟨other, ?_⟩
            rcases eq_or_ne other i with rfl | different
            · simpa only [Function.update_self] using kept call own
            · simpa only [Function.update_of_ne different] using own
          · exact .inr ⟨j, own⟩
        · exact .inl ⟨i, by simpa only [Function.update_self] using added call new⟩
  | server j step =>
      rename_i run made
      obtain ⟨after, kept, added⟩ := ServerRun.recorded_of_step ideal (recorded.servers j) step
      refine ⟨fun i => (recorded.clients i).mono _, ?_, ?_⟩
      · intro other
        rcases eq_or_ne other j with rfl | different
        · simpa only [Function.update_self] using after
        · simpa only [Function.update_of_ne different] using (recorded.servers other).mono _
      · intro call logged
        rcases List.mem_append.mp logged with old | new
        · rcases recorded.origin call old with ⟨i, own⟩ | ⟨other, own⟩
          · exact .inl ⟨i, own⟩
          · refine .inr ⟨other, ?_⟩
            rcases eq_or_ne other j with rfl | different
            · simpa only [Function.update_self] using kept call own
            · simpa only [Function.update_of_ne different] using own
        · exact .inr ⟨j, by simpa only [Function.update_self] using added call new⟩

end World

end YoAuthorize.Protocol
