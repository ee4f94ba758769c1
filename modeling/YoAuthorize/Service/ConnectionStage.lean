import YoAuthorize.Service.ConnectionEffect
import YoAuthorize.Service.HonestService

/-!
# The stages of a connection

`Accepts` says which frames continue the protocol of a connection, by the
messages they hold and not by the objects that check them: a `ClientHello`, a
`ClientFinished`, one `Authorize` that is granted, then heartbeats.

`Stage` is how far a connection has come, and `Stage.connection` its whole state
there, with the handshake object and the two record counters.  A frame takes it
to the next stage of `Accepts` (`handleAt_of_accepts`) or is refused
(`continues_of_handleAt`).
-/

namespace YoAuthorize.Service

open Octets Crypto FlatBuffer Protocol Protocol.Schema YoAuthorize.Core

/-! ## Frames that continue the protocol -/

/-- The handshake object of a new connection. -/
def ConnectionOptions.handshake (options : ConnectionOptions) : ServerHandshake where
  serviceKeyId := options.serviceKeyId
  identityPrivateKey := options.identityPrivateKey

/-- What a connection has accepted so far, from the start of its life. -/
inductive Stage : Type
  | greeting
  | finishing (answer : ServerHandshake.Answer)
  | authorizing (answer : ServerHandshake.Answer)
  | active (answer : ServerHandshake.Answer) (session : Session) (heartbeats : Nat)

/-- The frame is the encrypted record with a sequence number.  The last 64-bit
number is never used. -/
def HoldsRecord (ssl : OpenSsl) (answer : ServerHandshake.Answer) (number : Nat)
    (frame plaintext : Bytes) : Prop :=
  ∃ header payload, decodeFrame frame = .ok (header, payload) ∧
    header.flags = kEncryptedFlag ∧ header.sequence.toNat = number ∧
    header.sequence ≠ uint64Max ∧
    openChaCha20Poly1305 ssl answer.keys.clientToService.key
      (makeRecordNonce answer.keys.clientToService.nonceSalt header.sequence) payload
      (frame.take kFrameHeaderSize) = .ok plaintext

section

variable (fb : Binding Envelope) (license : LicenseSnapshot) (options : ConnectionOptions)

/-- A frame that the protocol allows at a stage, and the stage after it. -/
inductive Accepts (call : HandleCall) (frame : Bytes) : Stage → Stage → Prop
  | hello {header : FrameHeader} {payload : Bytes} {client : ClientHelloMessage}
      {answer : ServerHandshake.Answer} (decodes : decodeFrame frame = .ok (header, payload))
      (flags : header.flags = 0) (sequence : header.sequence = 0)
      (isHello : decodeClientHello fb payload = some (.ok client))
      (common : client.minVersion ≤ 1 ∧ 1 ≤ client.maxVersion)
      (answers : options.handshake.chooseServerHello fb call.ssl client = .ok answer) :
      Accepts call frame .greeting (.finishing answer)
  | finished {answer : ServerHandshake.Answer} {plaintext : Bytes}
      (record : HoldsRecord call.ssl answer 1 frame plaintext)
      (isFinished : decodeClientFinished fb plaintext = some (.ok
        { requestId := answer.client.requestId
          protocolVersion := answer.server.selectedVersion
          transcriptHash := answer.transcriptHash })) :
      Accepts call frame (.finishing answer) (.authorizing answer)
  | authorize {answer : ServerHandshake.Answer} {plaintext : Bytes} {request : AuthorizeMessage}
      {session : Session} {sessions : SessionManager}
      (record : HoldsRecord call.ssl answer 2 frame plaintext)
      (isAuthorize : decodeAuthorize fb plaintext = some (.ok request))
      (version : request.protocolVersion = answer.server.selectedVersion)
      (product : request.productId = license.productId)
      (unexpired : licenseExpired license call.nowUnixSeconds = false)
      (granted : call.sessions.create call.draws license.productId options.peerIdentity
        license.features license.expireTime call.nowMonotonicMs license.maxSessions =
          (sessions, .ok session))
      (features : validFeatures license.features = true) :
      Accepts call frame (.authorizing answer) (.active answer session 0)
  | heartbeat {answer : ServerHandshake.Answer} {session : Session} {heartbeats : Nat}
      {plaintext : Bytes} {request : HeartbeatMessage}
      (record : HoldsRecord call.ssl answer (heartbeats + 3) frame plaintext)
      (isHeartbeat : decodeHeartbeat fb plaintext = some (.ok request))
      (version : request.protocolVersion = answer.server.selectedVersion)
      (sameSession : request.sessionId = protocolId session.id)
      (unexpired : licenseExpired license call.nowUnixSeconds = false) :
      Accepts call frame (.active answer session heartbeats)
        (.active answer session (heartbeats + 1))

end

/-! ## The state of a connection at a stage -/

def readerAt (answer : ServerHandshake.Answer) (number : Nat) : RecordReader where
  key := recordKey answer.keys.clientToService
  nextSequence := UInt64.ofNat number

def writerAt (answer : ServerHandshake.Answer) (number : Nat) : RecordWriter where
  key := recordKey answer.keys.serviceToClient
  nextSequence := UInt64.ofNat number

/-- The handshake object after an answer, with the next sequence number of its
reader and of its writer. -/
def establishedWith (server : ServerHandshake) (answer : ServerHandshake.Answer)
    (reads writes : Nat) : ServerHandshake :=
  { server.adopt answer with
    reader := some (readerAt answer reads)
    writer := some (writerAt answer writes)
    state := .established }

/-- The connection at a stage.  The `ClientFinished` has no answer, so its
writer stays one record behind its reader. -/
def Stage.connection (license : LicenseSnapshot) (options : ConnectionOptions) :
    Stage → Connection
  | .greeting => .construct license options
  | .finishing answer =>
      { Connection.construct license options with
        handshake := options.handshake.adopt answer
        state := .awaitingFinished }
  | .authorizing answer =>
      { Connection.construct license options with
        handshake := establishedWith options.handshake answer 2 1
        state := .awaitingAuthorize }
  | .active answer session heartbeats =>
      { Connection.construct license options with
        handshake := establishedWith options.handshake answer (heartbeats + 3) (heartbeats + 2)
        session := some session
        state := .active }

/-- What the accepted frames leave true of a stage. -/
def Stage.Sound : Stage → Prop
  | .active _ session heartbeats =>
      validFeatures session.features = true ∧ heartbeats + 3 < sequenceCount
  | _ => True

/-! ## Records -/

/-- The sequence number of a counter that has not reached its end. -/
theorem sequence_ne_max {number : Nat} (unexhausted : number + 1 < sequenceCount) :
    UInt64.ofNat number ≠ uint64Max := by
  intro maximal
  have same := congrArg UInt64.toNat maximal
  rw [UInt64.toNat_ofNat_of_lt' (Nat.lt_of_succ_lt unexhausted)] at same
  have last : uint64Max.toNat + 1 = sequenceCount := rfl
  omega

section

variable {ssl : OpenSsl} {server : ServerHandshake} {answer : ServerHandshake.Answer}
  {reads writes : Nat}

theorem readerAt_succ : { readerAt answer reads with
    nextSequence := (readerAt answer reads).nextSequence + 1 } = readerAt answer (reads + 1) :=
  congrArg (RecordReader.mk _) (UInt64.ofNat_add reads 1).symm

theorem writerAt_succ : { writerAt answer writes with
    nextSequence := (writerAt answer writes).nextSequence + 1 } = writerAt answer (writes + 1) :=
  congrArg (RecordWriter.mk _) (UInt64.ofNat_add writes 1).symm

theorem open_of_holdsRecord {frame plaintext : Bytes} (bound : reads < sequenceCount)
    (holds : HoldsRecord ssl answer reads frame plaintext) :
    (readerAt answer reads).open ssl frame = (readerAt answer (reads + 1), .ok plaintext) := by
  rcases holds with ⟨header, payload, decoded, flags, sequence, unexhausted, opened⟩
  have same : header.sequence = (readerAt answer reads).nextSequence :=
    UInt64.toNat_inj.mp (sequence.trans (UInt64.toNat_ofNat_of_lt' bound).symm)
  rw [same] at unexhausted opened
  unfold RecordReader.open
  rw [if_neg unexhausted, decoded]
  dsimp only
  rw [if_neg (not_not.mpr flags), if_neg (not_not.mpr same)]
  change openChaCha20Poly1305 ssl (readerAt answer reads).key.key
    (makeRecordNonce (readerAt answer reads).key.nonceSalt _) payload _ = _ at opened
  rw [opened]
  dsimp only
  rw [readerAt_succ]

/-- The frame is refused, or it is the record that the reader waits for. -/
theorem reader_open_cases (frame : Bytes) (bound : reads < sequenceCount) :
    (∃ error, (readerAt answer reads).open ssl frame = (readerAt answer reads, .error error)) ∨
      ∃ plaintext, HoldsRecord ssl answer reads frame plaintext ∧
        (readerAt answer reads).open ssl frame =
          (readerAt answer (reads + 1), .ok plaintext) := by
  rcases (readerAt answer reads).open_cases ssl frame with
    refused | ⟨header, payload, plaintext, inSequence, decoded, flags, sequence, opened, accepted⟩
  · exact .inl refused
  · refine .inr ⟨plaintext, ⟨header, payload, decoded, flags, ?_, ?_, ?_⟩, ?_⟩
    · rw [sequence]
      exact UInt64.toNat_ofNat_of_lt' bound
    · rw [sequence]
      exact inSequence
    · rw [sequence]
      exact opened
    · rw [accepted, readerAt_succ]

theorem open_establishedWith (writes : Nat) (frame : Bytes) :
    (establishedWith server answer reads writes).open ssl frame =
      ({ establishedWith server answer reads writes with
        reader := some ((readerAt answer reads).open ssl frame).1 },
        ((readerAt answer reads).open ssl frame).2) := rfl

theorem open_establishedWith_of_holdsRecord {frame plaintext : Bytes}
    (bound : reads < sequenceCount)
    (holds : HoldsRecord ssl answer reads frame plaintext) :
    (establishedWith server answer reads writes).open ssl frame =
      (establishedWith server answer (reads + 1) writes, .ok plaintext) := by
  rw [open_establishedWith, open_of_holdsRecord bound holds]
  rfl

theorem open_establishedWith_cases (frame : Bytes) (bound : reads < sequenceCount) :
    (∃ error, (establishedWith server answer reads writes).open ssl frame =
        (establishedWith server answer reads writes, .error error)) ∨
      ∃ plaintext, HoldsRecord ssl answer reads frame plaintext := by
  rcases reader_open_cases frame bound with ⟨error, refused⟩ | ⟨plaintext, record, -⟩
  · refine .inl ⟨error, ?_⟩
    rw [open_establishedWith, refused]
    rfl
  · exact .inr ⟨plaintext, record⟩

theorem seal_establishedWith (unfailing : ssl.Unfailing) {plaintext : Bytes}
    (unexhausted : writes + 1 < sequenceCount) (nonempty : plaintext ≠ [])
    (short : plaintext.length ≤ kDefaultMaxPayloadSize.toNat - kTagSize) :
    ∃ frame, (establishedWith server answer reads writes).seal ssl plaintext =
      (establishedWith server answer reads (writes + 1), .ok frame) := by
  have headerSize : (encodeHeader (recordHeader (writerAt answer writes).nextSequence
      plaintext)).val.length ≤ intMax := by
    rw [(encodeHeader _).2]
    decide
  rcases unfailing.seal (writerAt answer writes).key.key
    (makeRecordNonce (writerAt answer writes).key.nonceSalt (writerAt answer writes).nextSequence)
    (Nat.le_trans short (by decide)) headerSize with ⟨encrypted, seals⟩
  have sealed : ∃ frame, (writerAt answer writes).seal ssl plaintext =
      (writerAt answer (writes + 1), .ok frame) := by
    have inSequence : (writerAt answer writes).nextSequence ≠ uint64Max :=
      sequence_ne_max unexhausted
    unfold RecordWriter.seal
    rw [if_neg inSequence, if_neg (not_or.mpr ⟨nonempty, Nat.not_lt.mpr short⟩)]
    dsimp only
    rw [seals, writerAt_succ]
    exact ⟨_, rfl⟩
  rcases sealed with ⟨frame, sealed⟩
  refine ⟨frame, ?_⟩
  have runs : (establishedWith server answer reads writes).seal ssl plaintext =
      ({ establishedWith server answer reads writes with
        writer := some ((writerAt answer writes).seal ssl plaintext).1 },
        ((writerAt answer writes).seal ssl plaintext).2) := rfl
  rw [runs, sealed]
  rfl

theorem seal_establishedWith_cases (plaintext : Bytes) :
    (∃ error, (establishedWith server answer reads writes).seal ssl plaintext =
        (establishedWith server answer reads writes, .error error)) ∨
      ∃ frame, (establishedWith server answer reads writes).seal ssl plaintext =
        (establishedWith server answer reads (writes + 1), .ok frame) := by
  rcases (establishedWith server answer reads writes).seal_cases ssl plaintext with
    refused | ⟨writer, frame, -, current, -, sealed⟩
  · exact .inl refused
  · cases current
    rw [writerAt_succ] at sealed
    exact .inr ⟨frame, sealed⟩

end

/-! ## The frames of the language are accepted -/

section

variable {fb : Binding Envelope} {license : LicenseSnapshot} {options : ConnectionOptions}
  {call : HandleCall} {frame : Bytes}

/-- What is decoded could have been encoded. -/
theorem encode_of_decode {kind : MessageKind} {bytes : Bytes} {message : kind.Payload}
    (decoded : kind.decode fb bytes = some (.ok message)) :
    ∃ encoded, kind.encode fb message = .ok encoded := by
  rcases MessageKind.decode_eq_ok decoded with ⟨envelope, -, valid, reads⟩
  exact MessageKind.encode_of_read fb valid reads

theorem requestId_of_decodeClientHello {payload : Bytes} {client : ClientHelloMessage}
    (isHello : decodeClientHello fb payload = some (.ok client)) : client.requestId ≠ 0 := by
  rcases @encode_of_decode fb .clientHello _ _ isHello with ⟨encoded, encodes⟩
  change encodeClientHello fb client = .ok encoded at encodes
  unfold encodeClientHello at encodes
  split at encodes
  · cases encodes
  · rename_i accepted
    exact (not_or.mp accepted).1

/-- The signature, the encoding and the keys of an answer that fits the wire. -/
theorem exists_signed {ssl : OpenSsl} (unfailing : ssl.Unfailing) (identityPrivateKey : Key)
    {client : ClientHelloMessage} (agrees : ssl.Agrees client.publicKey) (ephemeral : KeyPair)
    {server : ServerHelloMessage} (requestId : server.requestId ≠ 0)
    (version : server.selectedVersion ≠ 0)
    (nonempty : server.serviceKeyId ≠ []) (short : server.serviceKeyId.length ≤ kMaxKeyIdSize) :
    ∃ answer, ServerHandshake.signServerHello fb ssl identityPrivateKey client ephemeral server =
      .ok answer := by
  rcases encodeTranscript_honest (transcriptFor client server) nonempty
    (Nat.le_trans short (by decide)) with ⟨transcript, encodesTranscript⟩
  rcases unfailing.hash transcript with ⟨digest, hashed⟩
  rcases unfailing.sign identityPrivateKey transcript with ⟨signature, signed⟩
  rcases agrees ephemeral.privateKey with ⟨shared, agreed⟩
  rcases unfailing.sessionKeys shared digest with ⟨keys, derived⟩
  have encodes : ∃ encoded, encodeServerHello fb { server with signature } = .ok encoded := by
    refine ⟨_, if_neg ?_⟩
    simp only [not_or]
    exact ⟨requestId, version, nonempty, Nat.not_lt.mpr short⟩
  rcases encodes with ⟨encoded, encodes⟩
  have hashes : hashTranscript ssl (transcriptFor client server) = .ok digest := by
    unfold hashTranscript sha256
    rw [encodesTranscript]
    dsimp only
    rw [hashed]
  have exchanged : exchangeKeys ssl ephemeral.privateKey client.publicKey digest = .ok keys := by
    unfold exchangeKeys deriveX25519
    rw [agreed]
    exact derived
  unfold ServerHandshake.signServerHello signEd25519
  dsimp only
  rw [encodesTranscript, hashes]
  dsimp only
  rw [signed]
  dsimp only
  rw [encodes, exchanged]
  exact ⟨_, rfl⟩

/-- A `ClientHello` of version 1 has an answer. -/
theorem exists_answer (unfailing : call.ssl.Unfailing) (nonempty : options.serviceKeyId ≠ [])
    (short : options.serviceKeyId.length ≤ kMaxKeyIdSize) {payload : Bytes}
    {client : ClientHelloMessage} (isHello : decodeClientHello fb payload = some (.ok client))
    (agrees : call.ssl.Agrees client.publicKey)
    (common : client.minVersion ≤ 1 ∧ 1 ≤ client.maxVersion) :
    ∃ answer, options.handshake.chooseServerHello fb call.ssl client = .ok answer := by
  rcases unfailing.random kKeySize (by decide) with ⟨nonce, drawn⟩
  rcases unfailing.keyPair with ⟨ephemeral, generated⟩
  have highest : min options.handshake.maxVersion client.maxVersion = 1 := if_pos common.2
  have overlap : ¬ max options.handshake.minVersion client.minVersion > 1 := by
    change ¬ 1 < max 1 client.minVersion
    rw [UInt16.lt_iff_toNat_lt, UInt16.toNat_max]
    exact Nat.not_lt.mpr (Nat.max_le.mpr ⟨Nat.le_refl _, UInt16.le_iff_toNat_le.mp common.1⟩)
  have random : randomBytes call.ssl kKeySize = .ok nonce := by
    unfold randomBytes
    rw [if_neg (by decide), drawn]
  have pair : generateX25519KeyPair call.ssl = .ok ephemeral := by
    unfold generateX25519KeyPair
    rw [generated]
  unfold ServerHandshake.chooseServerHello
  dsimp only
  rw [highest, if_neg overlap, pair, random]
  exact exists_signed unfailing _ agrees ephemeral (requestId_of_decodeClientHello isHello)
    (by decide : (1 : UInt16) ≠ 0) nonempty short

theorem handleAt_hello_of_accepts {answer : ServerHandshake.Answer}
    (accepts : Accepts fb license options call frame .greeting (.finishing answer)) :
    (Stage.greeting.connection license options).handleAt fb call frame =
      some
        { connection := (Stage.finishing answer).connection license options
          sessions := call.sessions
          result := { response := some (wrapPlaintext answer.encoded) } } := by
  cases accepts with
  | @hello header payload client _ decodes flags sequence isHello common answers =>
      let connection := Stage.greeting.connection license options
      have answered : connection.handshake.answerClientHello fb call.ssl payload =
          some (.ok answer) := by
        have initial : connection.handshake.state = .initial := rfl
        unfold ServerHandshake.answerClientHello
        rw [if_neg (not_not.mpr initial), isHello]
        exact congrArg some answers
      have greets := ServerHandshake.handleClientHello_of_answer answered
      change connection.handleHello fb call.ssl call.sessions frame = _
      unfold Connection.handleHello
      rw [decodes]
      dsimp only
      rw [if_neg (not_or.mpr ⟨not_not.mpr flags, not_not.mpr sequence⟩), greets]
      rfl

theorem handleAt_finished_of_accepts {answer : ServerHandshake.Answer}
    (accepts : Accepts fb license options call frame (.finishing answer) (.authorizing answer)) :
    ((Stage.finishing answer).connection license options).handleAt fb call frame =
      some
        { connection := (Stage.authorizing answer).connection license options
          sessions := call.sessions
          result := {} } := by
  cases accepts with
  | finished record isFinished =>
      let connection := (Stage.finishing answer).connection license options
      have opened := open_of_holdsRecord (by decide) record
      have finished : connection.handshake.handleClientFinished fb call.ssl frame =
          some (establishedWith options.handshake answer 2 1, .ok ()) := by
        have state : connection.handshake.state = .awaitingFinished := rfl
        have reader : connection.handshake.reader = some (readerAt answer 1) := rfl
        unfold ServerHandshake.handleClientFinished
        rw [state, reader]
        dsimp only
        rw [opened]
        dsimp only
        rw [isFinished]
        dsimp only
        rw [if_neg]
        · rfl
        · simp only [not_or, not_not]
          exact ⟨rfl, rfl, rfl⟩
      change connection.handleFinished fb call.ssl call.sessions frame = _
      unfold Connection.handleFinished
      rw [finished]
      rfl

/-- The connection that has opened an encrypted frame. -/
def Stage.opened (license : LicenseSnapshot) (options : ConnectionOptions) (stage : Stage)
    (answer : ServerHandshake.Answer) (reads writes : Nat) : Connection :=
  { stage.connection license options with
    handshake := establishedWith options.handshake answer reads writes }

theorem handleAt_authorizing {answer : ServerHandshake.Answer} {plaintext : Bytes}
    (record : HoldsRecord call.ssl answer 2 frame plaintext) :
    ((Stage.authorizing answer).connection license options).handleAt fb call frame =
      ((Stage.authorizing answer).opened license options answer 3 1).handleAuthorize fb call.ssl
        call.sessions call.draws plaintext call.nowMonotonicMs call.nowUnixSeconds := by
  have opened : ((Stage.authorizing answer).connection license options).handshake.open call.ssl
      frame = (establishedWith options.handshake answer 3 1, .ok plaintext) :=
    open_establishedWith_of_holdsRecord (by decide) record
  have state : ((Stage.authorizing answer).connection license options).state =
    .awaitingAuthorize := rfl
  unfold Connection.handleAt Connection.handle
  rw [state]
  dsimp only
  rw [opened]
  dsimp only
  rw [if_pos rfl]
  rfl

theorem handleAt_active {answer : ServerHandshake.Answer} {session : Session} {heartbeats : Nat}
    {plaintext : Bytes} (bound : heartbeats + 3 < sequenceCount)
    (record : HoldsRecord call.ssl answer (heartbeats + 3) frame plaintext) :
    ((Stage.active answer session heartbeats).connection license options).handleAt fb call frame =
      ((Stage.active answer session heartbeats).opened license options answer (heartbeats + 4)
        (heartbeats + 2)).handleActive fb call.ssl call.sessions plaintext call.nowMonotonicMs
        call.nowUnixSeconds := by
  have opened : ((Stage.active answer session heartbeats).connection license
      options).handshake.open call.ssl frame =
      (establishedWith options.handshake answer (heartbeats + 4) (heartbeats + 2),
        .ok plaintext) := open_establishedWith_of_holdsRecord bound record
  have state : ((Stage.active answer session heartbeats).connection license options).state =
    .active := rfl
  unfold Connection.handleAt Connection.handle
  rw [state]
  dsimp only
  rw [opened]
  dsimp only
  rw [if_neg (nofun : ConnectionState.active ≠ .awaitingAuthorize)]
  rfl

end

/-! ## Refusals -/

/-- The bytes of an answer that grants nothing. -/
def IsDenial (fb : Binding Envelope) (encoded : Bytes) : Prop :=
  (∃ message : AuthResultMessage, message.error ≠ .none ∧
      encodeAuthResult fb message = .ok encoded) ∨
    ∃ message : HeartbeatAckMessage, message.state = .expired ∧
      encodeHeartbeatAck fb message = .ok encoded

/-- The call closed the connection and granted nothing. -/
structure Refuses (fb : Binding Envelope) (ssl : OpenSsl) (sender : ServerHandshake)
    (handled : Handled) : Prop where
  state : handled.connection.state = .closed
  closed : handled.result.closed = true
  denies : ∀ response, handled.result.response = some response →
    ∃ encoded, IsDenial fb encoded ∧ (sender.seal ssl encoded).2 = .ok response

section

variable {fb : Binding Envelope} {ssl : OpenSsl} {sender : ServerHandshake}

theorem refuses_reject (connection : Connection) (sessions : SessionManager)
    (error : ConnectionError) : Refuses fb ssl sender (connection.reject sessions error) :=
  ⟨rfl, rfl, nofun⟩

theorem refuses_abort (connection : Connection) (sessions : SessionManager)
    (error : ConnectionError) : Refuses fb ssl sender (connection.abort sessions error) :=
  ⟨connection.abort_state sessions error, rfl, nofun⟩

theorem refuses_encryptedResponse (connection : Connection) (sessions : SessionManager)
    {encoded : Bytes} (denial : IsDenial fb encoded) :
    Refuses fb ssl connection.handshake
      (connection.encryptedResponse ssl sessions encoded true) := by
  unfold Connection.encryptedResponse
  split
  · exact refuses_abort ..
  · rename_i handshake encrypted sealed
    refine ⟨rfl, rfl, ?_⟩
    rintro response ⟨⟩
    exact ⟨encoded, denial, congrArg Prod.snd sealed⟩

/-- A response that does not close the connection is sent, or ends it. -/
theorem encryptedResponse_cases (sender : ServerHandshake) {connection : Connection}
    {sessions : SessionManager} {server : ServerHandshake} {answer : ServerHandshake.Answer}
    {reads writes : Nat}
    (handshake : connection.handshake = establishedWith server answer reads writes)
    (encoded : Bytes) :
    (∃ response, connection.encryptedResponse ssl sessions encoded =
        { connection :=
            { connection with handshake := establishedWith server answer reads (writes + 1) }
          sessions
          result := { response := some response } }) ∨
      Refuses fb ssl sender (connection.encryptedResponse ssl sessions encoded) := by
  unfold Connection.encryptedResponse
  rw [handshake]
  rcases seal_establishedWith_cases encoded with ⟨error, refused⟩ | ⟨response, sealed⟩
  · rw [refused]
    exact .inr (refuses_abort ..)
  · rw [sealed]
    exact .inl ⟨response, rfl⟩

theorem answer_of_encode {decision : Connection.Decision} {encoded : Bytes}
    (encodes : encodeAuthResult fb decision.response = .ok encoded) :
    Connection.answer fb ssl decision =
      { decision.connection.encryptedResponse ssl decision.sessions encoded
          decision.error.isSome with
        result :=
          { (decision.connection.encryptedResponse ssl decision.sessions encoded
              decision.error.isSome).result with
            error := decision.error }
        created := decision.created } := by
  unfold Connection.answer
  rw [encodes]

theorem answer_of_denial {decision : Connection.Decision} (denied : decision.response.error ≠ .none)
    (error : decision.error.isSome = true) (same : decision.connection.handshake = sender) :
    Refuses fb ssl sender (Connection.answer fb ssl decision) := by
  subst same
  unfold Connection.answer
  split
  · have refuses : Refuses fb ssl decision.connection.handshake
        (decision.connection.abort decision.sessions .invalidMessage) := refuses_abort ..
    exact ⟨refuses.state, refuses.closed, refuses.denies⟩
  · rename_i encoded encodes
    rw [error]
    have refuses : Refuses fb ssl decision.connection.handshake
        (decision.connection.encryptedResponse ssl decision.sessions encoded true) :=
      refuses_encryptedResponse _ _ (.inl ⟨decision.response, denied, encodes⟩)
    exact ⟨refuses.state, refuses.closed, refuses.denies⟩

end

/-! ## Every other frame is refused -/

section

variable {fb : Binding Envelope} {license : LicenseSnapshot} {options : ConnectionOptions}
  {call : HandleCall} {frame : Bytes} {handled : Handled}

/-- What a call does at a stage: it accepts the frame and goes on, or refuses it. -/
def Continues (fb : Binding Envelope) (license : LicenseSnapshot) (options : ConnectionOptions)
    (call : HandleCall) (frame : Bytes) (stage : Stage) (handled : Handled) : Prop :=
  (∃ next, Accepts fb license options call frame stage next ∧
      handled.connection = next.connection license options) ∨
    Refuses fb call.ssl ((stage.connection license options).sender call.ssl frame) handled

theorem common_of_overlap {minVersion maxVersion : UInt16}
    (overlap : max 1 minVersion ≤ min 1 maxVersion) : minVersion ≤ 1 ∧ 1 ≤ maxVersion := by
  have highest := isHighestCommon_min overlap
  have one : min 1 maxVersion = 1 := UInt16.le_antisymm highest.right.2 highest.right.1
  rw [one] at highest
  exact highest.left

theorem continues_greeting
    (handles : (Stage.greeting.connection license options).handleAt fb call frame = some handled) :
    Continues fb license options call frame .greeting handled := by
  let connection := Stage.greeting.connection license options
  change connection.handleHello fb call.ssl call.sessions frame = some handled at handles
  unfold Connection.handleHello at handles
  split at handles
  · cases handles
    exact .inr (refuses_reject ..)
  rename_i header payload decodes
  split at handles
  · cases handles
    exact .inr (refuses_reject ..)
  rename_i plain
  rw [not_or, not_not, not_not] at plain
  rcases ServerHandshake.handleClientHello_cases fb call.ssl connection.handshake payload with
    crashed | ⟨error, refused⟩ | ⟨answer, answered, greets⟩
  · rw [crashed] at handles
    cases handles
  · rw [refused] at handles
    cases handles
    exact .inr (refuses_reject ..)
  · rw [greets] at handles
    cases handles
    rcases ServerHandshake.answers_of_answer answered with ⟨initial, isHello, answers⟩
    have chosen : options.handshake.chooseServerHello fb call.ssl answer.client = .ok answer := by
      unfold ServerHandshake.answerClientHello at answered
      rw [if_neg (not_not.mpr initial), isHello] at answered
      exact Option.some.inj answered
    exact .inl ⟨.finishing answer, .hello decodes plain.1 plain.2 isHello
      (common_of_overlap answers.overlap) chosen, rfl⟩

theorem continues_finishing {answer : ServerHandshake.Answer}
    (handles : ((Stage.finishing answer).connection license options).handleAt fb call frame =
      some handled) :
    Continues fb license options call frame (.finishing answer) handled := by
  let connection := (Stage.finishing answer).connection license options
  change connection.handleFinished fb call.ssl call.sessions frame = some handled at handles
  unfold Connection.handleFinished at handles
  rcases ServerHandshake.handleClientFinished_cases fb call.ssl connection.handshake frame with
    crashed | ⟨error, refused⟩ | ⟨reader, plaintext, -, current, opened, isFinished, finished⟩
  · rw [crashed] at handles
    cases handles
  · rw [refused] at handles
    cases handles
    exact .inr (refuses_reject ..)
  · rw [finished] at handles
    cases handles
    have first : reader = readerAt answer 1 := (Option.some.inj current).symm
    subst first
    have bound : 1 < sequenceCount := by decide
    rcases reader_open_cases frame bound with ⟨error, refused⟩ | ⟨found, record, opens⟩
    · rw [refused] at opened
      cases congrArg Prod.snd opened
    · cases congrArg Prod.snd (opens.symm.trans opened)
      exact .inl ⟨.authorizing answer, .finished record isFinished, rfl⟩

theorem handleAt_of_open_error {connection : Connection} {handshake : ServerHandshake}
    {error : RecordError}
    (state : connection.state = .awaitingAuthorize ∨ connection.state = .active)
    (refused : connection.handshake.open call.ssl frame = (handshake, .error error)) :
    connection.handleAt fb call frame =
      some ({ connection with handshake }.abort call.sessions .invalidFrame) := by
  unfold Connection.handleAt Connection.handle
  rcases state with state | state
  all_goals
    rw [state]
    dsimp only
    rw [refused]

end

/-! ## Decisions -/

/-- The answer to a request that is refused. -/
def deniedResult (connection : Connection) (request : AuthorizeMessage)
    (error : AuthorizationError) : AuthResultMessage where
  requestId := request.requestId
  protocolVersion := connection.handshake.selectedVersion
  error := error
  heartbeatIntervalMs := connection.heartbeatIntervalMs
  heartbeatTimeoutMs := connection.heartbeatTimeoutMs

section

variable {connection : Connection} {sessions : SessionManager} {draws : List Core.SessionId}
  {request : AuthorizeMessage} {nowMonotonicMs nowUnixSeconds : UInt64}

theorem authorize_of_mismatch (other : request.productId ≠ connection.license.productId) :
    connection.authorize sessions draws request nowMonotonicMs nowUnixSeconds =
      { connection, sessions, response := deniedResult connection request .productMismatch
        error := some .productMismatch } := by
  unfold Connection.authorize
  exact if_pos other

theorem authorize_of_expired (product : request.productId = connection.license.productId)
    (expired : licenseExpired connection.license nowUnixSeconds = true) :
    connection.authorize sessions draws request nowMonotonicMs nowUnixSeconds =
      { connection, sessions, response := deniedResult connection request .expired
        error := some .licenseExpired } := by
  unfold Connection.authorize
  dsimp only
  rw [if_neg (not_not.mpr product), if_pos expired]
  rfl

theorem authorize_of_create_error (product : request.productId = connection.license.productId)
    (unexpired : licenseExpired connection.license nowUnixSeconds = false)
    {next : SessionManager} {error : ErrorCode}
    (refused : sessions.create draws connection.license.productId connection.peerIdentity
      connection.license.features connection.license.expireTime nowMonotonicMs
      connection.license.maxSessions = (next, .error error)) :
    connection.authorize sessions draws request nowMonotonicMs nowUnixSeconds =
      { connection, sessions := next
        response := deniedResult connection request .sessionLimitExceeded
        error := some .sessionLimitExceeded } := by
  unfold Connection.authorize
  dsimp only
  rw [if_neg (not_not.mpr product), if_neg (Bool.eq_false_iff.mp unexpired), refused]
  rfl

theorem authorize_of_create_ok (product : request.productId = connection.license.productId)
    (unexpired : licenseExpired connection.license nowUnixSeconds = false)
    {next : SessionManager} {session : Session}
    (created : sessions.create draws connection.license.productId connection.peerIdentity
      connection.license.features connection.license.expireTime nowMonotonicMs
      connection.license.maxSessions = (next, .ok session)) :
    connection.authorize sessions draws request nowMonotonicMs nowUnixSeconds =
      { connection := { connection with session := some session, state := .active }
        sessions := next
        response := grantedResult connection request session
        error := none
        created := some session } := by
  unfold Connection.authorize
  dsimp only
  rw [if_neg (not_not.mpr product), if_neg (Bool.eq_false_iff.mp unexpired), created]
  rfl

end

section

variable {fb : Binding Envelope} {license : LicenseSnapshot} {options : ConnectionOptions}
  {call : HandleCall} {frame : Bytes} {handled : Handled}

theorem validFeatures_of_encodeAuthResult {message : AuthResultMessage} {encoded : Bytes}
    (encodes : encodeAuthResult fb message = .ok encoded) :
    validFeatures message.features = true := by
  unfold encodeAuthResult at encodes
  split at encodes
  · cases encodes
  · rename_i accepted
    simp only [not_or] at accepted
    exact Bool.not_eq_false _ ▸ (by simpa using accepted.2.2.2.1)

/-- A grant is sent, or the session ends with the call. -/
theorem answer_of_grant_cases {ssl : OpenSsl} {connection : Connection} {sessions : SessionManager}
    {response : AuthResultMessage} {session : Session} {server : ServerHandshake}
    {answer : ServerHandshake.Answer} {reads writes : Nat}
    (answers : handled = Connection.answer fb ssl
      { connection, sessions, response, error := none, created := some session })
    (handshake : connection.handshake = establishedWith server answer reads writes) :
    (∃ encoded, encodeAuthResult fb response = .ok encoded ∧
        handled.connection =
          { connection with handshake := establishedWith server answer reads (writes + 1) }) ∨
      Refuses fb ssl sender handled := by
  unfold Connection.answer at answers
  dsimp only at answers
  split at answers
  · have refuses : Refuses fb ssl sender (connection.abort sessions .invalidMessage) :=
      refuses_abort ..
    rw [answers]
    exact .inr ⟨refuses.state, refuses.closed, refuses.denies⟩
  · rename_i encoded encodes
    rcases encryptedResponse_cases sender handshake encoded with ⟨sent, responds⟩ | refuses
    · rw [Option.isSome_none, responds] at answers
      rw [answers]
      exact .inl ⟨encoded, encodes, rfl⟩
    · rw [Option.isSome_none] at answers
      rw [answers]
      exact .inr ⟨refuses.state, refuses.closed, refuses.denies⟩

/-- A request is granted, or refused with the reason. -/
theorem answer_cases {answer : ServerHandshake.Answer} (request : AuthorizeMessage) :
    let opened := (Stage.authorizing answer).opened license options answer 3 1
    let handled := Connection.answer fb call.ssl (opened.authorize call.sessions call.draws request
      call.nowMonotonicMs call.nowUnixSeconds)
    (∃ session sessions, request.productId = license.productId ∧
        licenseExpired license call.nowUnixSeconds = false ∧
        call.sessions.create call.draws license.productId options.peerIdentity license.features
          license.expireTime call.nowMonotonicMs license.maxSessions = (sessions, .ok session) ∧
        validFeatures license.features = true ∧
        handled.connection = (Stage.active answer session 0).connection license options) ∨
      Refuses fb call.ssl opened.handshake handled := by
  intro opened handled
  by_cases product : request.productId = license.productId
  swap
  · right
    change Refuses fb call.ssl opened.handshake
      (Connection.answer fb call.ssl (opened.authorize ..))
    rw [authorize_of_mismatch product]
    exact answer_of_denial (by decide : AuthorizationError.productMismatch ≠ .none) rfl rfl
  cases expired : licenseExpired license call.nowUnixSeconds with
  | true =>
      right
      change Refuses fb call.ssl opened.handshake
        (Connection.answer fb call.ssl (opened.authorize ..))
      rw [authorize_of_expired product expired]
      exact answer_of_denial (by decide : AuthorizationError.expired ≠ .none) rfl rfl
  | false =>
      rcases call.sessions.create_cases call.draws license.productId options.peerIdentity
        license.features license.expireTime call.nowMonotonicMs license.maxSessions with
        ⟨error, refused⟩ | ⟨session, created, -, -, -, -, features, -⟩
      · right
        change Refuses fb call.ssl opened.handshake
          (Connection.answer fb call.ssl (opened.authorize ..))
        rw [authorize_of_create_error product expired refused]
        exact answer_of_denial (by decide : AuthorizationError.sessionLimitExceeded ≠ .none) rfl rfl
      · have grants : handled = Connection.answer fb call.ssl
            { connection := { opened with session := some session, state := .active }
              sessions := { sessions := call.sessions.sessions.insert session.id session }
              response := grantedResult opened request session
              error := none
              created := some session } := by
          change Connection.answer fb call.ssl (opened.authorize ..) = _
          rw [authorize_of_create_ok product expired created]
        rcases answer_of_grant_cases grants rfl with ⟨encoded, encodes, active⟩ | refuses
        · have valid := validFeatures_of_encodeAuthResult encodes
          change validFeatures session.features = true at valid
          rw [features] at valid
          exact .inl ⟨session, _, product, rfl, created, valid, active⟩
        · exact .inr refuses

theorem continues_authorizing {answer : ServerHandshake.Answer}
    (handles : ((Stage.authorizing answer).connection license options).handleAt fb call frame =
      some handled) :
    Continues fb license options call frame (.authorizing answer) handled := by
  have bound : 2 < sequenceCount := by decide
  rcases open_establishedWith_cases frame bound with ⟨error, refused⟩ | ⟨plaintext, record⟩
  · rw [handleAt_of_open_error (.inl rfl) refused] at handles
    cases handles
    exact .inr (refuses_abort ..)
  have sender : ((Stage.authorizing answer).connection license options).sender call.ssl frame =
      establishedWith options.handshake answer 3 1 :=
    congrArg Prod.fst (open_establishedWith_of_holdsRecord bound record)
  rw [handleAt_authorizing record] at handles
  unfold Connection.handleAuthorize at handles
  split at handles
  · cases handles
  · cases handles
    exact .inr (refuses_reject ..)
  rename_i request isAuthorize
  split at handles
  · cases handles
    exact .inr (refuses_reject ..)
  rename_i version
  cases handles
  rcases answer_cases request with
    ⟨session, sessions, product, unexpired, granted, features, active⟩ | refuses
  · exact .inl ⟨.active answer session 0, .authorize record isAuthorize (not_not.mp version)
      product unexpired granted features, active⟩
  · exact .inr (sender ▸ refuses)

/-- A heartbeat that the manager records is acknowledged, or ends the session. -/
theorem acknowledge_cases {connection : Connection} {sessions : SessionManager} {session : Session}
    {request : HeartbeatMessage} {nowUnixSeconds : UInt64} {ssl : OpenSsl}
    {server : ServerHandshake} {answer : ServerHandshake.Answer} {reads writes : Nat}
    (handshake : connection.handshake = establishedWith server answer reads writes) :
    (licenseExpired connection.license nowUnixSeconds = false ∧
        (connection.acknowledge fb ssl sessions session request nowUnixSeconds).connection =
          { connection with handshake := establishedWith server answer reads (writes + 1) }) ∨
      Refuses fb ssl connection.handshake
        (connection.acknowledge fb ssl sessions session request nowUnixSeconds) := by
  unfold Connection.acknowledge
  dsimp only
  split
  · exact .inr (refuses_abort ..)
  rename_i encoded encodes
  cases expired : licenseExpired connection.license nowUnixSeconds with
  | true =>
      rw [expired] at encodes
      have refuses : Refuses fb ssl (connection.closeSession sessions).1.handshake
          ((connection.closeSession sessions).1.encryptedResponse ssl
            (connection.closeSession sessions).2 encoded true) :=
        refuses_encryptedResponse _ _ (.inr ⟨_, rfl, encodes⟩)
      rw [connection.closeSession_handshake] at refuses
      exact .inr ⟨refuses.state, refuses.closed, refuses.denies⟩
  | false =>
      rcases encryptedResponse_cases connection.handshake handshake encoded with
        ⟨response, responds⟩ | refuses
      · refine .inl ⟨rfl, ?_⟩
        rw [if_neg Bool.false_ne_true, responds]
      · rw [if_neg Bool.false_ne_true]
        exact .inr refuses

theorem continues_active {answer : ServerHandshake.Answer} {session : Session} {heartbeats : Nat}
    (bound : heartbeats + 3 < sequenceCount)
    (handles : ((Stage.active answer session heartbeats).connection license options).handleAt fb
      call frame = some handled) :
    Continues fb license options call frame (.active answer session heartbeats) handled := by
  rcases open_establishedWith_cases frame bound with ⟨error, refused⟩ | ⟨plaintext, record⟩
  · rw [handleAt_of_open_error (.inr rfl) refused] at handles
    cases handles
    exact .inr (refuses_abort ..)
  have sender : ((Stage.active answer session heartbeats).connection license options).sender
      call.ssl frame = establishedWith options.handshake answer (heartbeats + 4) (heartbeats + 2) :=
    congrArg Prod.fst (open_establishedWith_of_holdsRecord bound record)
  rw [handleAt_active bound record] at handles
  rcases Connection.handleActive_cases handles with
    ⟨error, rfl⟩ | ⟨request, found, later, isHeartbeat, version, current, sameSession, -, rfl⟩ |
      ⟨close, -, -, rfl⟩
  · exact .inr (refuses_abort ..)
  · cases current
    rcases acknowledge_cases (rfl : ((Stage.active answer session heartbeats).opened license
        options answer (heartbeats + 4) (heartbeats + 2)).handshake = _) with
      ⟨unexpired, active⟩ | refuses
    · exact .inl ⟨.active answer session (heartbeats + 1), .heartbeat record isHeartbeat version
        sameSession unexpired, active⟩
    · exact .inr (sender ▸ refuses)
  · exact .inr ⟨rfl, rfl, nofun⟩

/-- A frame takes the connection to the next stage of the language, or closes it. -/
theorem continues_of_handleAt {stage : Stage} (sound : stage.Sound)
    (handles : (stage.connection license options).handleAt fb call frame = some handled) :
    Continues fb license options call frame stage handled := by
  cases stage with
  | greeting => exact continues_greeting handles
  | finishing answer => exact continues_finishing handles
  | authorizing answer => exact continues_authorizing handles
  | active answer session heartbeats => exact continues_active sound.2 handles

end

/-! ## Answers that are sent -/

section

variable {fb : Binding Envelope} {license : LicenseSnapshot} {options : ConnectionOptions}
  {call : HandleCall} {frame : Bytes}

theorem encryptedResponse_unfailing {ssl : OpenSsl} (unfailing : ssl.Unfailing)
    {connection : Connection} (sessions : SessionManager) {server : ServerHandshake}
    {answer : ServerHandshake.Answer} {reads writes : Nat}
    (handshake : connection.handshake = establishedWith server answer reads writes)
    (unexhausted : writes + 1 < sequenceCount) {encoded : Bytes}
    (fits : encoded ≠ [] ∧ encoded.length ≤ 50256) (closeAfter : Bool) :
    ∃ response, (connection.handshake.seal ssl encoded).2 = .ok response ∧
      connection.encryptedResponse ssl sessions encoded closeAfter =
        { connection :=
            { connection with
              handshake := establishedWith server answer reads (writes + 1)
              state := if closeAfter then .closed else connection.state }
          sessions
          result := { response := some response, closed := closeAfter } } := by
  rcases seal_establishedWith unfailing unexhausted fits.1 (Nat.le_trans fits.2 (by decide)) with
    ⟨response, sealed⟩
  rw [← handshake] at sealed
  refine ⟨response, congrArg Prod.snd sealed, ?_⟩
  unfold Connection.encryptedResponse
  rw [sealed]

theorem fields_of_decodeAuthorize {plaintext : Bytes} {request : AuthorizeMessage}
    (isAuthorize : decodeAuthorize fb plaintext = some (.ok request)) :
    request.requestId ≠ 0 ∧ request.protocolVersion ≠ 0 ∧ request.productId ≠ [] := by
  rcases @encode_of_decode fb .authorize _ _ isAuthorize with ⟨encoded, encodes⟩
  change encodeAuthorize fb request = .ok encoded at encodes
  unfold encodeAuthorize at encodes
  split at encodes
  · cases encodes
  · rename_i accepted
    rw [not_or, not_or, not_or] at accepted
    exact ⟨accepted.1, accepted.2.1, accepted.2.2.1⟩

theorem fields_of_decodeHeartbeat {plaintext : Bytes} {request : HeartbeatMessage}
    (isHeartbeat : decodeHeartbeat fb plaintext = some (.ok request)) :
    request.requestId ≠ 0 ∧ request.protocolVersion ≠ 0 := by
  rcases @encode_of_decode fb .heartbeat _ _ isHeartbeat with ⟨encoded, encodes⟩
  change encodeHeartbeat fb request = .ok encoded at encodes
  unfold encodeHeartbeat at encodes
  split at encodes
  · cases encodes
  · rename_i accepted
    exact not_or.mp accepted

theorem encodeHeartbeatAck_valid {message : HeartbeatAckMessage} (requestId : message.requestId ≠ 0)
    (version : message.protocolVersion ≠ 0)
    (state : message.state = .valid ∨ message.state = .expired)
    (features : validFeatures message.features = true) :
    ∃ encoded, encodeHeartbeatAck fb message = .ok encoded := by
  refine ⟨_, if_neg ?_⟩
  have known : validAuthorizationState message.state = true := by
    rcases state with same | same
    all_goals
      rw [same]
      decide
  simp only [not_or, known, features]
  exact ⟨requestId, version, by decide, by decide⟩

/-- A heartbeat on an unexpired license is acknowledged. -/
theorem acknowledge_unfailing (lawful : fb.Lawful fb envelopeIdentifier Envelope.contentSize)
    {ssl : OpenSsl} (unfailing : ssl.Unfailing) {connection : Connection} {server : ServerHandshake}
    {answer : ServerHandshake.Answer} {reads writes : Nat}
    (handshake : connection.handshake = establishedWith server answer reads writes)
    (sessions : SessionManager) {session : Session}
    (features : validFeatures session.features = true) (unexhausted : writes + 1 < sequenceCount)
    {plaintext : Bytes} {request : HeartbeatMessage}
    (isHeartbeat : decodeHeartbeat fb plaintext = some (.ok request))
    (version : request.protocolVersion = connection.handshake.selectedVersion)
    {nowUnixSeconds : UInt64}
    (unexpired : licenseExpired connection.license nowUnixSeconds = false) :
    ∃ response,
      connection.acknowledge fb ssl sessions session request nowUnixSeconds =
        { connection :=
            { connection with handshake := establishedWith server answer reads (writes + 1) }
          sessions
          result := { response := some response } } := by
  have fields := fields_of_decodeHeartbeat isHeartbeat
  rw [version] at fields
  let ack : HeartbeatAckMessage :=
    { requestId := request.requestId, protocolVersion := connection.handshake.selectedVersion
      state := .valid, features := session.features, expireTime := session.expireTime }
  have encodable : ∃ encoded, encodeHeartbeatAck fb ack = .ok encoded :=
    encodeHeartbeatAck_valid fields.1 fields.2 (.inl rfl) features
  rcases encodable with ⟨encoded, encodes⟩
  rcases encryptedResponse_unfailing unfailing sessions handshake unexhausted
    (MessageKind.length_of_encode lawful .heartbeatAck encodes) false with ⟨response, -, responds⟩
  refine ⟨response, ?_⟩
  rw [Connection.acknowledge_of_unexpired unexpired encodes]
  exact responds

/-- A frame of the language takes the connection to its next stage. -/
theorem handleAt_of_accepts (lawful : fb.Lawful fb envelopeIdentifier Envelope.contentSize)
    (unfailing : call.ssl.Unfailing) {stage next : Stage} (sound : stage.Sound)
    (held : ∀ session, (stage.connection license options).session = some session →
      session.id ∈ call.sessions.sessions)
    (accepts : Accepts fb license options call frame stage next) :
    ∃ handled, (stage.connection license options).handleAt fb call frame = some handled ∧
      handled.connection = next.connection license options := by
  cases accepts with
  | hello decodes flags sequence isHello common answers =>
      exact ⟨_, handleAt_hello_of_accepts
        (.hello decodes flags sequence isHello common answers), rfl⟩
  | @finished answer plaintext record isFinished =>
      have accepted : Accepts fb license options call frame (.finishing answer)
          (.authorizing answer) := .finished record isFinished
      exact ⟨_, handleAt_finished_of_accepts accepted, rfl⟩
  | @authorize answer plaintext request session sessions record isAuthorize version product
      unexpired granted features =>
      let opened := (Stage.authorizing answer).opened license options answer 3 1
      let active : Connection := { opened with session := some session, state := .active }
      have fields := fields_of_decodeAuthorize isAuthorize
      have selected : request.protocolVersion = opened.handshake.selectedVersion := version
      have sameFeatures : session.features = license.features := by
        rcases SessionManager.create_eq_ok granted with ⟨id, -, -, made, -⟩
        rw [made]
      have encodable : ∃ encoded,
          encodeAuthResult fb (grantedResult opened request session) = .ok encoded :=
        encodeAuthResult_granted fields.1 (selected ▸ fields.2.1) (sameFeatures.symm ▸ features)
      rcases encodable with ⟨encoded, encodes⟩
      rcases encryptedResponse_unfailing unfailing sessions
        (rfl : active.handshake = establishedWith options.handshake answer 3 1) (by decide)
        (MessageKind.length_of_encode lawful .authResult encodes) false with
        ⟨response, -, responds⟩
      refine ⟨Connection.answer fb call.ssl
        { connection := active, sessions, response := grantedResult opened request session
          error := none, created := some session }, ?_, ?_⟩
      · rw [handleAt_authorizing record]
        unfold Connection.handleAuthorize
        rw [isAuthorize]
        dsimp only
        rw [if_neg (not_not.mpr selected), authorize_of_create_ok product unexpired granted]
      · rw [answer_of_encode encodes]
        exact congrArg Handled.connection responds
  | @heartbeat answer session heartbeats plaintext request record isHeartbeat version sameSession
      unexpired =>
      let opened := (Stage.active answer session heartbeats).opened license options answer
        (heartbeats + 4) (heartbeats + 2)
      have selected : request.protocolVersion = opened.handshake.selectedVersion := version
      rcases SessionManager.heartbeat_of_mem call.nowMonotonicMs (held session rfl) with
        ⟨entry, -, renewed⟩
      rcases acknowledge_unfailing lawful unfailing (rfl : opened.handshake = _) _ sound.1 sound.2
        isHeartbeat selected unexpired with ⟨response, acknowledged⟩
      refine ⟨opened.acknowledge fb call.ssl _ session request call.nowUnixSeconds, ?_,
        congrArg Handled.connection acknowledged⟩
      rw [handleAt_active sound.2 record]
      unfold Connection.handleActive
      rw [isHeartbeat]
      dsimp only
      unfold Connection.handleHeartbeat
      rw [if_neg (not_not.mpr selected)]
      have current : opened.session = some session := rfl
      rw [current]
      dsimp only
      rw [if_neg (not_not.mpr sameSession), renewed]

end

end YoAuthorize.Service
