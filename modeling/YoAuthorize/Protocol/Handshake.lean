import YoAuthorize.Protocol.MessageCodec
import YoAuthorize.Protocol.Record

/-!
# The handshake objects

`ClientHandshake` and `ServerHandshake` (`handshake.cpp`).  A call takes the
library it runs against, so a failure of any single library call is a choice of
`ssl`.  The checks of `handleServerHello` and `handleClientHello` up to the
derived keys are `acceptServerHello` and `answerClientHello`; every failure of
a call runs `fail`, which wipes the private key and drops both record objects.
-/

namespace YoAuthorize.Protocol

open Octets Crypto FlatBuffer Schema

inductive HandshakeError : Type
  | invalidState
  | invalidMessage
  | unsupportedVersion
  | unknownServiceKey
  | invalidServiceSignature
  | keyExchangeFailed
  | invalidFinished
  | internalError
  deriving DecidableEq, Repr

abbrev HandshakeResult (α : Type) : Type := Except HandshakeError α

inductive HandshakeState : Type
  | initial
  | helloSent
  | awaitingFinished
  | established
  | failed
  deriving DecidableEq, Repr

def recordKey (key : DirectionalKey) : RecordKey where
  key := key.key
  nonceSalt := key.nonceSalt

def transcriptFor (client : ClientHelloMessage) (server : ServerHelloMessage) :
    HandshakeTranscript where
  minVersion := client.minVersion
  maxVersion := client.maxVersion
  selectedVersion := server.selectedVersion
  clientNonce := client.nonce
  serverNonce := server.nonce
  clientPublicKey := client.publicKey
  serverPublicKey := server.publicKey
  serviceKeyId := server.serviceKeyId

/-- The key exchange of both sides. -/
def exchangeKeys (ssl : OpenSsl) (privateKey peerPublicKey : Key) (transcriptHash : Sha256Digest) :
    CryptoResult SessionKeys :=
  match deriveX25519 ssl privateKey peerPublicKey with
  | .error _ => .error .derivationFailed
  | .ok shared => deriveSessionKeys ssl shared transcriptHash

/-- `seal` of both sides: only an established side with a writer seals. -/
def sealRecord (ssl : OpenSsl) (state : HandshakeState) (writer : Option RecordWriter)
    (plaintext : Bytes) : Option RecordWriter × RecordResult :=
  match state, writer with
  | .established, some writer =>
      let (writer, result) := writer.seal ssl plaintext
      (some writer, result)
  | _, writer => (writer, .error .invalidFrame)

/-- `open` of both sides. -/
def openRecord (ssl : OpenSsl) (state : HandshakeState) (reader : Option RecordReader)
    (frame : Bytes) : Option RecordReader × RecordResult :=
  match state, reader with
  | .established, some reader =>
      let (reader, result) := reader.open ssl frame
      (some reader, result)
  | _, reader => (reader, .error .invalidFrame)

/-! ## Client -/

structure ClientHandshake : Type where
  trustedKeys : Bytes → Option Key
  sdkVersion : Bytes
  requestId : UInt64
  minVersion : UInt16 := 1
  maxVersion : UInt16 := 1
  selectedVersion : UInt16 := 0
  nonce : Key := .zeros kKeySize
  ephemeral : KeyPair := {}
  writer : Option RecordWriter := none
  reader : Option RecordReader := none
  state : HandshakeState := .initial

namespace ClientHandshake

def fail (client : ClientHandshake) : ClientHandshake :=
  { client with
    ephemeral := { client.ephemeral with privateKey := cleanse client.ephemeral.privateKey }
    writer := none
    reader := none
    state := .failed }

/-- The `ClientHello` of this client, which it builds again to check the answer. -/
def hello (client : ClientHandshake) : ClientHelloMessage where
  requestId := client.requestId
  minVersion := client.minVersion
  maxVersion := client.maxVersion
  nonce := client.nonce
  publicKey := client.ephemeral.publicKey
  sdkVersion := client.sdkVersion

section

variable (fb : Binding Envelope) (ssl : OpenSsl)

def start (client : ClientHandshake) : ClientHandshake × HandshakeResult Bytes :=
  if client.state ≠ .initial ∨ client.requestId = 0 ∨ client.minVersion = 0 ∨
      client.minVersion > client.maxVersion then
    (client.fail, .error .invalidState)
  else
    match randomBytes ssl kKeySize with
    | .error _ => (client.fail, .error .internalError)
    | .ok nonce =>
        let client := { client with nonce := nonce }
        match generateX25519KeyPair ssl with
        | .error _ => (client.fail, .error .keyExchangeFailed)
        | .ok keyPair =>
            let client := { client with ephemeral := keyPair }
            match encodeClientHello fb client.hello with
            | .error _ => (client.fail, .error .invalidMessage)
            | .ok encoded => ({ client with state := .helloSent }, .ok encoded)

/-- What a client knows of an answer it accepts. -/
structure Accepted : Type where
  server : ServerHelloMessage
  transcriptHash : Sha256Digest
  keys : SessionKeys

/-- The checks of `handleServerHello` after the decoder. -/
def checkServerHello (client : ClientHandshake) (server : ServerHelloMessage) :
    HandshakeResult Accepted :=
  if server.requestId ≠ client.requestId then .error .invalidMessage
  else if server.selectedVersion < client.minVersion ∨
      server.selectedVersion > client.maxVersion then .error .unsupportedVersion
  else
    match client.trustedKeys server.serviceKeyId with
    | none => .error .unknownServiceKey
    | some trustedKey =>
        let transcript := transcriptFor client.hello server
        match encodeTranscript transcript, hashTranscript ssl transcript with
        | .ok encodedTranscript, .ok transcriptHash =>
            match verifyEd25519 ssl trustedKey encodedTranscript server.signature with
            | .error _ => .error .invalidServiceSignature
            | .ok () =>
                match exchangeKeys ssl client.ephemeral.privateKey server.publicKey
                    transcriptHash with
                | .error _ => .error .keyExchangeFailed
                | .ok keys => .ok { server, transcriptHash, keys }
        | _, _ => .error .invalidServiceSignature

def acceptServerHello (client : ClientHandshake) (message : Bytes) :
    Call (HandshakeResult Accepted) :=
  if client.state ≠ .helloSent then some (.error .invalidState)
  else
    match decodeServerHello fb message with
    | none => none
    | some (.error _) => some (.error .invalidMessage)
    | some (.ok server) => some (client.checkServerHello ssl server)

/-- The record objects and the version of an accepted answer. -/
def adopt (client : ClientHandshake) (accepted : Accepted) : ClientHandshake :=
  { client with
    writer := some { key := recordKey accepted.keys.clientToService }
    reader := some { key := recordKey accepted.keys.serviceToClient }
    ephemeral := { client.ephemeral with privateKey := cleanse client.ephemeral.privateKey }
    selectedVersion := accepted.server.selectedVersion }

def finished (client : ClientHandshake) (accepted : Accepted) : ClientFinishedMessage where
  requestId := client.requestId
  protocolVersion := accepted.server.selectedVersion
  transcriptHash := accepted.transcriptHash

def handleServerHello (client : ClientHandshake) (message : Bytes) :
    Call (ClientHandshake × HandshakeResult Bytes) :=
  match client.acceptServerHello fb ssl message with
  | none => none
  | some (.error error) => some (client.fail, .error error)
  | some (.ok accepted) =>
      let client := client.adopt accepted
      match encodeClientFinished fb (client.finished accepted) with
      | .error _ => some (client.fail, .error .invalidMessage)
      | .ok plaintext =>
          let writer : RecordWriter := { key := recordKey accepted.keys.clientToService }
          match writer.seal ssl plaintext with
          | (_, .error _) => some (client.fail, .error .internalError)
          | (writer, .ok encrypted) =>
              some ({ client with writer := some writer, state := .established }, .ok encrypted)

end

end ClientHandshake

def ClientHandshake.seal (ssl : OpenSsl) (client : ClientHandshake) (plaintext : Bytes) :
    ClientHandshake × RecordResult :=
  let (writer, result) := sealRecord ssl client.state client.writer plaintext
  ({ client with writer := writer }, result)

def ClientHandshake.open (ssl : OpenSsl) (client : ClientHandshake) (frame : Bytes) :
    ClientHandshake × RecordResult :=
  let (reader, result) := openRecord ssl client.state client.reader frame
  ({ client with reader := reader }, result)

/-! ## Server -/

structure ServerHandshake : Type where
  serviceKeyId : Bytes
  identityPrivateKey : Key
  minVersion : UInt16 := 1
  maxVersion : UInt16 := 1
  selectedVersion : UInt16 := 0
  requestId : UInt64 := 0
  transcriptHash : Sha256Digest := .zeros kSha256Size
  writer : Option RecordWriter := none
  reader : Option RecordReader := none
  state : HandshakeState := .initial
  deriving DecidableEq

namespace ServerHandshake

def fail (server : ServerHandshake) : ServerHandshake :=
  { server with
    identityPrivateKey := cleanse server.identityPrivateKey
    writer := none
    reader := none
    state := .failed }

section

variable (fb : Binding Envelope) (ssl : OpenSsl)

/-- What a server computes for the `ClientHello` it answers. -/
structure Answer : Type where
  client : ClientHelloMessage
  ephemeral : KeyPair
  server : ServerHelloMessage
  transcriptHash : Sha256Digest
  keys : SessionKeys
  encoded : Bytes

/-- The signature, the encoding and the keys for the chosen server fields. -/
def signServerHello (identityPrivateKey : Key) (client : ClientHelloMessage) (ephemeral : KeyPair)
    (server : ServerHelloMessage) : HandshakeResult Answer :=
  let transcript := transcriptFor client server
  match encodeTranscript transcript, hashTranscript ssl transcript with
  | .ok encodedTranscript, .ok transcriptHash =>
      match signEd25519 ssl identityPrivateKey encodedTranscript with
      | .error _ => .error .internalError
      | .ok signature =>
          let server := { server with signature := signature }
          match encodeServerHello fb server,
              exchangeKeys ssl ephemeral.privateKey client.publicKey transcriptHash with
          | .ok encoded, .ok keys =>
              .ok { client, ephemeral, server, transcriptHash, keys, encoded }
          | _, _ => .error .keyExchangeFailed
  | _, _ => .error .invalidMessage

/-- The version choice and the fresh server fields for a decoded `ClientHello`. -/
def chooseServerHello (server : ServerHandshake) (client : ClientHelloMessage) :
    HandshakeResult Answer :=
  let lowest := max server.minVersion client.minVersion
  let highest := min server.maxVersion client.maxVersion
  if lowest > highest then .error .unsupportedVersion
  else
    match generateX25519KeyPair ssl, randomBytes ssl kKeySize with
    | .ok ephemeral, .ok nonce =>
        signServerHello fb ssl server.identityPrivateKey client ephemeral
          { requestId := client.requestId
            selectedVersion := highest
            nonce := nonce
            publicKey := ephemeral.publicKey
            serviceKeyId := server.serviceKeyId }
    | _, _ => .error .internalError

def answerClientHello (server : ServerHandshake) (message : Bytes) :
    Call (HandshakeResult Answer) :=
  if server.state ≠ .initial then some (.error .invalidState)
  else
    match decodeClientHello fb message with
    | none => none
    | some (.error _) => some (.error .invalidMessage)
    | some (.ok client) => some (server.chooseServerHello fb ssl client)

/-- The reader of an answer, before any record. -/
def Answer.reader (answer : Answer) : RecordReader where
  key := recordKey answer.keys.clientToService

def adopt (server : ServerHandshake) (answer : Answer) : ServerHandshake :=
  { server with
    identityPrivateKey := cleanse server.identityPrivateKey
    requestId := answer.client.requestId
    selectedVersion := answer.server.selectedVersion
    transcriptHash := answer.transcriptHash
    reader := some { key := recordKey answer.keys.clientToService }
    writer := some { key := recordKey answer.keys.serviceToClient }
    state := .awaitingFinished }

def handleClientHello (server : ServerHandshake) (message : Bytes) :
    Call (ServerHandshake × HandshakeResult Bytes) :=
  match server.answerClientHello fb ssl message with
  | none => none
  | some (.error error) => some (server.fail, .error error)
  | some (.ok answer) => some (server.adopt answer, .ok answer.encoded)

/-- The `ClientFinished` this server waits for. -/
def expected (server : ServerHandshake) : ClientFinishedMessage where
  requestId := server.requestId
  protocolVersion := server.selectedVersion
  transcriptHash := server.transcriptHash

def handleClientFinished (server : ServerHandshake) (encryptedFrame : Bytes) :
    Call (ServerHandshake × HandshakeResult Unit) :=
  match server.state, server.reader with
  | .awaitingFinished, some reader =>
      match reader.open ssl encryptedFrame with
      | (_, .error _) => some (server.fail, .error .invalidFinished)
      | (reader, .ok plaintext) =>
          match decodeClientFinished fb plaintext with
          | none => none
          | some (.error _) => some (server.fail, .error .invalidFinished)
          | some (.ok finished) =>
              if finished.requestId ≠ server.requestId ∨
                  finished.protocolVersion ≠ server.selectedVersion ∨
                  finished.transcriptHash ≠ server.transcriptHash then
                some (server.fail, .error .invalidFinished)
              else some ({ server with reader := some reader, state := .established }, .ok ())
  | _, _ => some (server.fail, .error .invalidState)

end

end ServerHandshake

def ServerHandshake.seal (ssl : OpenSsl) (server : ServerHandshake) (plaintext : Bytes) :
    ServerHandshake × RecordResult :=
  let (writer, result) := sealRecord ssl server.state server.writer plaintext
  ({ server with writer := writer }, result)

def ServerHandshake.open (ssl : OpenSsl) (server : ServerHandshake) (frame : Bytes) :
    ServerHandshake × RecordResult :=
  let (reader, result) := openRecord ssl server.state server.reader frame
  ({ server with reader := reader }, result)

/-! ## Version ranges -/

/-- The highest version that two ranges share. -/
structure IsHighestCommon (leftMin leftMax rightMin rightMax version : UInt16) : Prop where
  left : leftMin ≤ version ∧ version ≤ leftMax
  right : rightMin ≤ version ∧ version ≤ rightMax
  highest : ∀ other, leftMin ≤ other → other ≤ leftMax → rightMin ≤ other → other ≤ rightMax →
    other ≤ version

theorem UInt16.toNat_min (left right : UInt16) :
    (min left right).toNat = min left.toNat right.toNat := by
  change (if left ≤ right then left else right).toNat = _
  split <;> rename_i order <;> rw [UInt16.le_iff_toNat_le] at order <;> omega

theorem UInt16.toNat_max (left right : UInt16) :
    (max left right).toNat = max left.toNat right.toNat := by
  change (if left ≤ right then right else left).toNat = _
  split <;> rename_i order <;> rw [UInt16.le_iff_toNat_le] at order <;> omega

theorem isHighestCommon_min {leftMin leftMax rightMin rightMax : UInt16}
    (overlap : max leftMin rightMin ≤ min leftMax rightMax) :
    IsHighestCommon rightMin rightMax leftMin leftMax (min leftMax rightMax) := by
  rw [UInt16.le_iff_toNat_le, UInt16.toNat_min, UInt16.toNat_max] at overlap
  constructor
  · rw [UInt16.le_iff_toNat_le, UInt16.le_iff_toNat_le, UInt16.toNat_min]
    omega
  · rw [UInt16.le_iff_toNat_le, UInt16.le_iff_toNat_le, UInt16.toNat_min]
    omega
  · intro other
    rw [UInt16.le_iff_toNat_le, UInt16.le_iff_toNat_le, UInt16.le_iff_toNat_le,
      UInt16.le_iff_toNat_le, UInt16.le_iff_toNat_le, UInt16.toNat_min]
    omega

/-! ## What one call does -/

theorem sealRecord_cases (ssl : OpenSsl) (state : HandshakeState) (writer : Option RecordWriter)
    (plaintext : Bytes) :
    (∃ error, sealRecord ssl state writer plaintext = (writer, .error error)) ∨
      ∃ current encrypted, state = .established ∧ writer = some current ∧
        current.seal ssl plaintext =
          ({ current with nextSequence := current.nextSequence + 1 }, .ok encrypted) ∧
        sealRecord ssl state writer plaintext =
          (some { current with nextSequence := current.nextSequence + 1 }, .ok encrypted) := by
  unfold sealRecord
  split
  · rename_i current
    rcases current.seal_cases ssl plaintext with ⟨error, refused⟩ | ⟨encrypted, -, -, -, -, sealed⟩
    · rw [refused]
      exact .inl ⟨error, rfl⟩
    · rw [sealed]
      exact .inr ⟨current, _, rfl, rfl, sealed, rfl⟩
  · exact .inl ⟨_, rfl⟩

theorem openRecord_cases (ssl : OpenSsl) (state : HandshakeState) (reader : Option RecordReader)
    (frame : Bytes) :
    (∃ error, openRecord ssl state reader frame = (reader, .error error)) ∨
      ∃ current plaintext, state = .established ∧ reader = some current ∧
        current.open ssl frame =
          ({ current with nextSequence := current.nextSequence + 1 }, .ok plaintext) ∧
        openRecord ssl state reader frame =
          (some { current with nextSequence := current.nextSequence + 1 }, .ok plaintext) := by
  unfold openRecord
  split
  · rename_i current
    rcases current.open_cases ssl frame with
      ⟨error, refused⟩ | ⟨_, _, plaintext, -, -, -, -, -, opened⟩
    · rw [refused]
      exact .inl ⟨error, rfl⟩
    · rw [opened]
      exact .inr ⟨current, plaintext, rfl, rfl, opened, rfl⟩
  · exact .inl ⟨_, rfl⟩

theorem ClientHandshake.seal_cases (ssl : OpenSsl) (client : ClientHandshake)
    (plaintext : Bytes) :
    (∃ error, client.seal ssl plaintext = (client, .error error)) ∨
      ∃ writer frame, client.state = .established ∧ client.writer = some writer ∧
        writer.seal ssl plaintext =
          ({ writer with nextSequence := writer.nextSequence + 1 }, .ok frame) ∧
        client.seal ssl plaintext =
          ({ client with
            writer := some { writer with nextSequence := writer.nextSequence + 1 } },
            .ok frame) := by
  unfold ClientHandshake.seal
  rcases sealRecord_cases ssl client.state client.writer plaintext with
    ⟨error, refused⟩ | ⟨writer, frame, established, current, sealed, accepted⟩
  · rw [refused]
    exact .inl ⟨error, rfl⟩
  · rw [accepted]
    exact .inr ⟨writer, frame, established, current, sealed, rfl⟩

theorem ClientHandshake.open_cases (ssl : OpenSsl) (client : ClientHandshake) (frame : Bytes) :
    (∃ error, client.open ssl frame = (client, .error error)) ∨
      ∃ reader plaintext, client.state = .established ∧ client.reader = some reader ∧
        reader.open ssl frame =
          ({ reader with nextSequence := reader.nextSequence + 1 }, .ok plaintext) ∧
        client.open ssl frame =
          ({ client with
            reader := some { reader with nextSequence := reader.nextSequence + 1 } },
            .ok plaintext) := by
  unfold ClientHandshake.open
  rcases openRecord_cases ssl client.state client.reader frame with
    ⟨error, refused⟩ | ⟨reader, plaintext, established, current, opened, accepted⟩
  · rw [refused]
    exact .inl ⟨error, rfl⟩
  · rw [accepted]
    exact .inr ⟨reader, plaintext, established, current, opened, rfl⟩

theorem ServerHandshake.seal_cases (ssl : OpenSsl) (server : ServerHandshake)
    (plaintext : Bytes) :
    (∃ error, server.seal ssl plaintext = (server, .error error)) ∨
      ∃ writer frame, server.state = .established ∧ server.writer = some writer ∧
        writer.seal ssl plaintext =
          ({ writer with nextSequence := writer.nextSequence + 1 }, .ok frame) ∧
        server.seal ssl plaintext =
          ({ server with
            writer := some { writer with nextSequence := writer.nextSequence + 1 } },
            .ok frame) := by
  unfold ServerHandshake.seal
  rcases sealRecord_cases ssl server.state server.writer plaintext with
    ⟨error, refused⟩ | ⟨writer, frame, established, current, sealed, accepted⟩
  · rw [refused]
    exact .inl ⟨error, rfl⟩
  · rw [accepted]
    exact .inr ⟨writer, frame, established, current, sealed, rfl⟩

theorem ServerHandshake.open_cases (ssl : OpenSsl) (server : ServerHandshake) (frame : Bytes) :
    (∃ error, server.open ssl frame = (server, .error error)) ∨
      ∃ reader plaintext, server.state = .established ∧ server.reader = some reader ∧
        reader.open ssl frame =
          ({ reader with nextSequence := reader.nextSequence + 1 }, .ok plaintext) ∧
        server.open ssl frame =
          ({ server with
            reader := some { reader with nextSequence := reader.nextSequence + 1 } },
            .ok plaintext) := by
  unfold ServerHandshake.open
  rcases openRecord_cases ssl server.state server.reader frame with
    ⟨error, refused⟩ | ⟨reader, plaintext, established, current, opened, accepted⟩
  · rw [refused]
    exact .inl ⟨error, rfl⟩
  · rw [accepted]
    exact .inr ⟨reader, plaintext, established, current, opened, rfl⟩

/-- What `checkServerHello` establishes about an answer it accepts. -/
structure ClientHandshake.Accepts (ssl : OpenSsl) (client : ClientHandshake)
    (accepted : ClientHandshake.Accepted) : Prop where
  requestId : accepted.server.requestId = client.requestId
  minVersion : client.minVersion ≤ accepted.server.selectedVersion
  maxVersion : accepted.server.selectedVersion ≤ client.maxVersion
  signed : ∃ trustedKey encodedTranscript,
    client.trustedKeys accepted.server.serviceKeyId = some trustedKey ∧
    encodeTranscript (transcriptFor client.hello accepted.server) = .ok encodedTranscript ∧
    verifyEd25519 ssl trustedKey encodedTranscript accepted.server.signature = .ok ()
  hashed : hashTranscript ssl (transcriptFor client.hello accepted.server) =
    .ok accepted.transcriptHash
  exchanged : exchangeKeys ssl client.ephemeral.privateKey accepted.server.publicKey
    accepted.transcriptHash = .ok accepted.keys

theorem ClientHandshake.accepts_of_check {ssl : OpenSsl} {client : ClientHandshake}
    {server : ServerHelloMessage} {accepted : ClientHandshake.Accepted}
    (checked : client.checkServerHello ssl server = .ok accepted) :
    accepted.server = server ∧ client.Accepts ssl accepted := by
  unfold ClientHandshake.checkServerHello at checked
  split at checked
  · cases checked
  rename_i requestId
  split at checked
  · cases checked
  rename_i range
  split at checked
  · cases checked
  rename_i trustedKey trusted
  simp only at checked
  split at checked
  · rename_i encodedTranscript transcriptHash encoded hashed
    split at checked
    · cases checked
    rename_i verified
    split at checked
    · cases checked
    rename_i keys exchanged
    cases checked
    rw [not_or] at range
    exact ⟨rfl, not_not.mp requestId, UInt16.not_lt.mp range.1, UInt16.not_lt.mp range.2,
      ⟨trustedKey, encodedTranscript, trusted, encoded, verified⟩, hashed, exchanged⟩
  · cases checked

theorem ClientHandshake.accepts_of_accept {fb : Binding Envelope} {ssl : OpenSsl}
    {client : ClientHandshake} {message : Bytes} {accepted : ClientHandshake.Accepted}
    (accept : client.acceptServerHello fb ssl message = some (.ok accepted)) :
    client.state = .helloSent ∧ decodeServerHello fb message = some (.ok accepted.server) ∧
      client.Accepts ssl accepted := by
  unfold ClientHandshake.acceptServerHello at accept
  split at accept
  · cases accept
  rename_i sent
  split at accept
  · cases accept
  · cases accept
  · rename_i server decoded
    obtain ⟨same, accepts⟩ := ClientHandshake.accepts_of_check (Option.some.inj accept)
    rw [same]
    exact ⟨not_not.mp sent, decoded, accepts⟩

/-- A start fails, or sends a hello with a fresh nonce and key pair. -/
theorem ClientHandshake.start_cases (fb : Binding Envelope) (ssl : OpenSsl)
    (client : ClientHandshake) :
    (∃ (before : ClientHandshake) (error : HandshakeError),
        client.start fb ssl = (before.fail, .error error)) ∨
      ∃ nonce keyPair encoded, client.state = .initial ∧
        generateX25519KeyPair ssl = .ok keyPair ∧
        client.start fb ssl =
          ({ client with nonce := nonce, ephemeral := keyPair, state := .helloSent },
            .ok encoded) := by
  unfold ClientHandshake.start
  split
  · exact .inl ⟨client, _, rfl⟩
  rename_i ready
  split
  · exact .inl ⟨client, _, rfl⟩
  rename_i nonce _
  simp only
  split
  · exact .inl ⟨_, _, rfl⟩
  rename_i keyPair generated
  split
  · exact .inl ⟨_, _, rfl⟩
  · rename_i encoded _
    have initial : client.state = .initial := not_not.mp (not_or.mp ready).1
    exact .inr ⟨nonce, keyPair, encoded, initial, generated, rfl⟩

/-- The writer of an accepted answer, before it sealed the `ClientFinished`. -/
def ClientHandshake.Accepted.writer (accepted : ClientHandshake.Accepted) : RecordWriter where
  key := recordKey accepted.keys.clientToService

/-- A `ServerHello` ends the process, fails, or is accepted and answered with a
sealed `ClientFinished`. -/
theorem ClientHandshake.handleServerHello_cases (fb : Binding Envelope) (ssl : OpenSsl)
    (client : ClientHandshake) (message : Bytes) :
    client.handleServerHello fb ssl message = none ∨
      (∃ (before : ClientHandshake) (error : HandshakeError),
        client.handleServerHello fb ssl message = some (before.fail, .error error)) ∨
      ∃ accepted plaintext encrypted,
        client.acceptServerHello fb ssl message = some (.ok accepted) ∧
        encodeClientFinished fb (client.finished accepted) = .ok plaintext ∧
        accepted.writer.seal ssl plaintext =
          ({ accepted.writer with nextSequence := 2 }, .ok encrypted) ∧
        client.handleServerHello fb ssl message =
          some ({ client.adopt accepted with
            writer := some { accepted.writer with nextSequence := 2 }
            state := .established }, .ok encrypted) := by
  unfold ClientHandshake.handleServerHello
  split
  · exact .inl rfl
  · exact .inr (.inl ⟨client, _, rfl⟩)
  rename_i accepted accept
  simp only
  split
  · exact .inr (.inl ⟨_, _, rfl⟩)
  rename_i plaintext encoded
  rcases accepted.writer.seal_cases ssl plaintext with
    ⟨error, refused⟩ | ⟨encrypted, -, -, -, -, sealed⟩
  · simp only [ClientHandshake.Accepted.writer] at refused
    rw [refused]
    exact .inr (.inl ⟨_, _, rfl⟩)
  · refine .inr (.inr ⟨accepted, plaintext, _, accept, encoded, sealed, ?_⟩)
    simp only [ClientHandshake.Accepted.writer] at sealed ⊢
    rw [sealed]
    rfl

/-- What `chooseServerHello` establishes about the answer it gives. -/
structure ServerHandshake.Answers (fb : Binding Envelope) (ssl : OpenSsl)
    (server : ServerHandshake) (answer : ServerHandshake.Answer) : Prop where
  requestId : answer.server.requestId = answer.client.requestId
  overlap : max server.minVersion answer.client.minVersion ≤
    min server.maxVersion answer.client.maxVersion
  selectedVersion : answer.server.selectedVersion =
    min server.maxVersion answer.client.maxVersion
  generated : generateX25519KeyPair ssl = .ok answer.ephemeral
  publicKey : answer.server.publicKey = answer.ephemeral.publicKey
  serviceKeyId : answer.server.serviceKeyId = server.serviceKeyId
  signed : ∃ encodedTranscript,
    encodeTranscript (transcriptFor answer.client answer.server) = .ok encodedTranscript ∧
    signEd25519 ssl server.identityPrivateKey encodedTranscript = .ok answer.server.signature
  hashed : hashTranscript ssl (transcriptFor answer.client answer.server) =
    .ok answer.transcriptHash
  exchanged : exchangeKeys ssl answer.ephemeral.privateKey answer.client.publicKey
    answer.transcriptHash = .ok answer.keys
  encoded : encodeServerHello fb answer.server = .ok answer.encoded

theorem ServerHandshake.answers_of_choose {fb : Binding Envelope} {ssl : OpenSsl}
    {server : ServerHandshake} {client : ClientHelloMessage} {answer : ServerHandshake.Answer}
    (chosen : server.chooseServerHello fb ssl client = .ok answer) :
    answer.client = client ∧ server.Answers fb ssl answer := by
  unfold ServerHandshake.chooseServerHello at chosen
  simp only at chosen
  split at chosen
  · cases chosen
  rename_i overlap
  split at chosen
  · rename_i ephemeral nonce generated _
    unfold ServerHandshake.signServerHello at chosen
    simp only at chosen
    split at chosen
    · rename_i encodedTranscript transcriptHash transcript hashed
      split at chosen
      · cases chosen
      rename_i signature signed
      split at chosen
      · rename_i encoded keys encodes exchanged
        cases chosen
        exact ⟨rfl, rfl, UInt16.not_lt.mp overlap, rfl, generated, rfl, rfl,
          ⟨encodedTranscript, transcript, signed⟩, hashed, exchanged, encodes⟩
      · cases chosen
    · cases chosen
  · cases chosen

theorem ServerHandshake.answers_of_answer {fb : Binding Envelope} {ssl : OpenSsl}
    {server : ServerHandshake} {message : Bytes} {answer : ServerHandshake.Answer}
    (answered : server.answerClientHello fb ssl message = some (.ok answer)) :
    server.state = .initial ∧ decodeClientHello fb message = some (.ok answer.client) ∧
      server.Answers fb ssl answer := by
  unfold ServerHandshake.answerClientHello at answered
  split at answered
  · cases answered
  rename_i initial
  split at answered
  · cases answered
  · cases answered
  · rename_i client decoded
    obtain ⟨same, answers⟩ := ServerHandshake.answers_of_choose (Option.some.inj answered)
    rw [same]
    exact ⟨not_not.mp initial, decoded, answers⟩

/-- A `ClientHello` ends the process, fails, or is answered. -/
theorem ServerHandshake.handleClientHello_cases (fb : Binding Envelope) (ssl : OpenSsl)
    (server : ServerHandshake) (message : Bytes) :
    server.handleClientHello fb ssl message = none ∨
      (∃ error, server.handleClientHello fb ssl message = some (server.fail, .error error)) ∨
      ∃ answer, server.answerClientHello fb ssl message = some (.ok answer) ∧
        server.handleClientHello fb ssl message =
          some (server.adopt answer, .ok answer.encoded) := by
  unfold ServerHandshake.handleClientHello
  split
  · exact .inl rfl
  · exact .inr (.inl ⟨_, rfl⟩)
  · rename_i answer answered
    exact .inr (.inr ⟨answer, answered, rfl⟩)

theorem ServerHandshake.handleClientHello_of_answer {fb : Binding Envelope} {ssl : OpenSsl}
    {server : ServerHandshake} {message : Bytes} {answer : ServerHandshake.Answer}
    (answered : server.answerClientHello fb ssl message = some (.ok answer)) :
    server.handleClientHello fb ssl message = some (server.adopt answer, .ok answer.encoded) := by
  rw [ServerHandshake.handleClientHello, answered]

/-- A `ClientFinished` frame ends the process, fails, or is the next record of
the reader and holds the expected message. -/
theorem ServerHandshake.handleClientFinished_cases (fb : Binding Envelope) (ssl : OpenSsl)
    (server : ServerHandshake) (frame : Bytes) :
    server.handleClientFinished fb ssl frame = none ∨
      (∃ error, server.handleClientFinished fb ssl frame = some (server.fail, .error error)) ∨
      ∃ reader plaintext, server.state = .awaitingFinished ∧ server.reader = some reader ∧
        reader.open ssl frame =
          ({ reader with nextSequence := reader.nextSequence + 1 }, .ok plaintext) ∧
        decodeClientFinished fb plaintext = some (.ok server.expected) ∧
        server.handleClientFinished fb ssl frame =
          some ({ server with
            reader := some { reader with nextSequence := reader.nextSequence + 1 }
            state := .established }, .ok ()) := by
  unfold ServerHandshake.handleClientFinished
  split
  · rename_i reader awaiting current
    rcases reader.open_cases ssl frame with
      ⟨error, refused⟩ | ⟨_, _, plaintext, -, -, -, -, -, opened⟩
    · rw [refused]
      exact .inr (.inl ⟨_, rfl⟩)
    rw [opened]
    simp only
    split
    · exact .inl rfl
    · exact .inr (.inl ⟨_, rfl⟩)
    rename_i finished decoded
    split
    · exact .inr (.inl ⟨_, rfl⟩)
    rename_i same
    simp only [not_or, not_not] at same
    obtain ⟨requestId, protocolVersion, transcriptHash⟩ := same
    have expected : finished = server.expected := by
      cases finished
      exact ClientFinishedMessage.mk.injEq .. ▸ ⟨requestId, protocolVersion, transcriptHash⟩
    rw [expected] at decoded
    exact .inr (.inr ⟨reader, plaintext, awaiting, current, opened, decoded, rfl⟩)
  · exact .inr (.inl ⟨_, rfl⟩)

end YoAuthorize.Protocol
