import YoAuthorize.Library
import YoAuthorize.Protocol.Handshake

/-!
# The honest exchange

What the two sides do when no call of the library fails and no message is
changed: each step of the handshake succeeds, both sides end with the keys of
the server's answer, and a record that one side seals the other side opens.
-/

namespace YoAuthorize.Crypto

open Octets

theorem lastTag_append {ciphertext : Bytes} {tag : Tag}
    (long : ¬ (ciphertext ++ tag.val).length < kTagSize) :
    lastTag (ciphertext ++ tag.val) long = tag := by
  apply Subtype.ext
  change (ciphertext ++ tag.val).drop ((ciphertext ++ tag.val).length - kTagSize) = tag.val
  rw [List.length_append, tag.2, Nat.add_sub_cancel]
  exact List.drop_left' rfl

/-- Opening a ciphertext with its tag behind it. -/
theorem openChaCha20Poly1305_append {ssl : OpenSsl} {key : Key} {nonce : Nonce}
    {ciphertext aad plaintext : Bytes} {tag : Tag} (ciphertextSize : ciphertext.length ≤ intMax)
    (aadSize : aad.length ≤ intMax)
    (decrypted : ssl.decryptChaCha20Poly1305 key nonce ciphertext tag aad = some plaintext) :
    openChaCha20Poly1305 ssl key nonce (ciphertext ++ tag.val) aad = .ok plaintext := by
  have length : (ciphertext ++ tag.val).length - kTagSize = ciphertext.length := by
    rw [List.length_append, tag.2, Nat.add_sub_cancel]
  have long : ¬ (ciphertext ++ tag.val).length < kTagSize := by
    rw [List.length_append, tag.2]
    omega
  unfold openChaCha20Poly1305 validSize
  rw [dif_neg long, length, decide_eq_true ciphertextSize, decide_eq_true aadSize]
  simp only [Bool.not_true, Bool.false_eq_true, or_self, if_false]
  rw [lastTag_append long, List.take_left' rfl, decrypted]

end YoAuthorize.Crypto

namespace YoAuthorize.Protocol

open Octets Crypto FlatBuffer Schema

section

variable {fb : Binding Envelope} {ssl : OpenSsl} {suite : CryptoSuite}

/-! ## Records -/

theorem firstSequence_ne_max : (1 : UInt64) ≠ uint64Max := by decide

/-- The ciphertext and tag of a record under a suite. -/
def sealedPayload (suite : CryptoSuite) (key : RecordKey) (sequence : UInt64)
    (plaintext : Bytes) : Bytes :=
  let aad := (encodeHeader (recordHeader sequence plaintext)).val
  let sealed := suite.encrypt key.key (makeRecordNonce key.nonceSalt sequence) plaintext aad
  sealed.1 ++ sealed.2.val

theorem length_sealedPayload (key : RecordKey) (sequence : UInt64) (plaintext : Bytes) :
    (sealedPayload suite key sequence plaintext).length = plaintext.length + kTagSize := by
  unfold sealedPayload
  rw [List.length_append, suite.length_encrypt]
  exact congrArg _ (suite.encrypt _ _ _ _).2.property

/-- The frame of a record under a suite. -/
def sealedFrame (suite : CryptoSuite) (key : RecordKey) (sequence : UInt64) (plaintext : Bytes) :
    Bytes :=
  (encodeHeader (recordHeader sequence plaintext)).val ++
    sealedPayload suite key sequence plaintext

theorem RecordWriter.seal_honest (honest : ssl.Honest suite) (writer : RecordWriter)
    {plaintext : Bytes} (unexhausted : writer.nextSequence ≠ uint64Max)
    (nonempty : plaintext ≠ [])
    (short : plaintext.length ≤ kDefaultMaxPayloadSize.toNat - kTagSize) :
    writer.seal ssl plaintext =
      ({ writer with nextSequence := writer.nextSequence + 1 },
        .ok (sealedFrame suite writer.key writer.nextSequence plaintext)) := by
  have plaintextSize : plaintext.length ≤ intMax := Nat.le_trans short (by decide)
  have aadSize : (encodeHeader (recordHeader writer.nextSequence plaintext)).val.length ≤ intMax :=
    by rw [(encodeHeader _).2]; decide
  unfold RecordWriter.seal
  rw [if_neg unexhausted, if_neg (not_or.mpr ⟨nonempty, Nat.not_lt.mpr short⟩)]
  simp only [sealChaCha20Poly1305_honest honest _ _ plaintextSize aadSize]
  rfl

/-- The frame of a record decodes to its header and payload. -/
theorem decodeFrame_sealedFrame (key : RecordKey) (sequence : UInt64) {plaintext : Bytes}
    (short : plaintext.length ≤ kDefaultMaxPayloadSize.toNat - kTagSize) :
    decodeFrame (sealedFrame suite key sequence plaintext) =
      .ok (recordHeader sequence plaintext, sealedPayload suite key sequence plaintext) :=
  decodeFrame_record sequence short (length_sealedPayload key sequence plaintext)

/-- A library that opens one sealed record. -/
def OpensRecord (ssl : OpenSsl) (suite : CryptoSuite) (key : RecordKey) (sequence : UInt64)
    (plaintext : Bytes) : Prop :=
  openChaCha20Poly1305 ssl key.key (makeRecordNonce key.nonceSalt sequence)
    (sealedPayload suite key sequence plaintext)
    (encodeHeader (recordHeader sequence plaintext)).val = .ok plaintext

theorem RecordReader.open_honest (reader : RecordReader) {plaintext : Bytes}
    (unexhausted : reader.nextSequence ≠ uint64Max)
    (short : plaintext.length ≤ kDefaultMaxPayloadSize.toNat - kTagSize)
    (opens : OpensRecord ssl suite reader.key reader.nextSequence plaintext) :
    reader.open ssl (sealedFrame suite reader.key reader.nextSequence plaintext) =
      ({ reader with nextSequence := reader.nextSequence + 1 }, .ok plaintext) :=
  reader.open_record ssl unexhausted short (length_sealedPayload _ _ _) opens

/-! ## Handshake -/

theorem randomBytes_honest (honest : ssl.Honest suite) (size : Nat) (positive : size ≠ 0)
    (small : size ≤ intMax) : ∃ bytes, randomBytes ssl size = .ok bytes := by
  obtain ⟨bytes, drawn⟩ := honest.random size small
  refine ⟨bytes, ?_⟩
  unfold randomBytes validSize
  rw [decide_eq_true small, drawn, if_neg]
  simpa using positive

theorem generateX25519KeyPair_honest (honest : ssl.Honest suite) :
    ∃ pair, generateX25519KeyPair ssl = .ok pair ∧ suite.IsKeyPair pair := by
  obtain ⟨pair, drawn, isKeyPair⟩ := honest.keyPair
  exact ⟨pair, by rw [generateX25519KeyPair, drawn], isKeyPair⟩

theorem exchangeKeys_honest (honest : ssl.Honest suite) {left right : KeyPair}
    (leftPair : suite.IsKeyPair left) (rightPair : suite.IsKeyPair right)
    (transcriptHash : Sha256Digest) :
    exchangeKeys ssl left.privateKey right.publicKey transcriptHash =
      .ok (suite.sessionKeys (suite.dh left.privateKey right.publicKey) transcriptHash) := by
  unfold exchangeKeys deriveX25519
  rw [honest.dh left right leftPair rightPair]
  exact deriveSessionKeys_honest honest _ _

/-- A client as its constructor makes it, with arguments that `start` accepts. -/
structure ClientHandshake.Ready (client : ClientHandshake) : Prop where
  initial : client.state = .initial
  requestId : client.requestId ≠ 0
  minVersion : client.minVersion ≠ 0
  range : client.minVersion ≤ client.maxVersion
  sdkVersion : client.sdkVersion ≠ []
  sdkVersionSize : client.sdkVersion.length ≤ kMaxSdkVersionSize

def ClientHandshake.sent (client : ClientHandshake) (nonce : Key) (keyPair : KeyPair) :
    ClientHandshake :=
  { client with nonce := nonce, ephemeral := keyPair, state := .helloSent }

theorem ClientHandshake.start_honest (fb : Binding Envelope) (honest : ssl.Honest suite)
    {client : ClientHandshake} (ready : client.Ready) :
    ∃ nonce keyPair encoded, suite.IsKeyPair keyPair ∧ ssl.keygenX25519 = some keyPair ∧
      encodeClientHello fb (client.sent nonce keyPair).hello = .ok encoded ∧
      client.start fb ssl = (client.sent nonce keyPair, .ok encoded) := by
  obtain ⟨nonce, drawn⟩ := randomBytes_honest honest kKeySize (by decide) (by decide)
  obtain ⟨keyPair, generated, isKeyPair⟩ := honest.keyPair
  obtain ⟨encoded, encodes⟩ : ∃ encoded,
      encodeClientHello fb (client.sent nonce keyPair).hello = .ok encoded := by
    refine ⟨_, if_neg ?_⟩
    simp only [not_or]
    exact ⟨ready.requestId, ready.minVersion, UInt16.not_lt.mpr ready.range, ready.sdkVersion,
      Nat.not_lt.mpr ready.sdkVersionSize⟩
  refine ⟨nonce, keyPair, encoded, isKeyPair, generated, encodes, ?_⟩
  have accepted : ¬ (client.state ≠ .initial ∨ client.requestId = 0 ∨ client.minVersion = 0 ∨
      client.minVersion > client.maxVersion) := by
    simp only [not_or, not_not]
    exact ⟨ready.initial, ready.requestId, ready.minVersion, UInt16.not_lt.mpr ready.range⟩
  unfold ClientHandshake.start generateX25519KeyPair
  rw [if_neg accepted, drawn, generated]
  simp only
  have same : encodeClientHello fb
      ({ client with nonce := nonce, ephemeral := keyPair } : ClientHandshake).hello =
        .ok encoded := encodes
  rw [same]
  rfl

/-- The answer of a server whose calls all succeeded, to a hello with a
generated key. -/
structure ServerHandshake.Answer.IsHonest (fb : Binding Envelope) (suite : CryptoSuite)
    (server : ServerHandshake) (hello : ClientHelloMessage) (keyPair : KeyPair)
    (answer : ServerHandshake.Answer) : Prop where
  client : answer.client = hello
  requestId : answer.server.requestId = hello.requestId
  selectedVersion : answer.server.selectedVersion = min server.maxVersion hello.maxVersion
  serviceKeyId : answer.server.serviceKeyId = server.serviceKeyId
  isKeyPair : suite.IsKeyPair answer.ephemeral
  publicKey : answer.server.publicKey = answer.ephemeral.publicKey
  signed : ∃ encodedTranscript,
    encodeTranscript (transcriptFor hello answer.server) = .ok encodedTranscript ∧
    answer.server.signature = suite.sign server.identityPrivateKey encodedTranscript ∧
    answer.transcriptHash = suite.hash encodedTranscript
  keys : answer.keys = suite.sessionKeys
    (suite.dh answer.ephemeral.privateKey keyPair.publicKey) answer.transcriptHash
  encoded : encodeServerHello fb answer.server = .ok answer.encoded

/-- The hello of an honest client is answered, when the versions overlap and
the answer fits its wire limits. -/
theorem ServerHandshake.answer_honest (honest : ssl.Honest suite) {server : ServerHandshake}
    {message : Bytes} {hello : ClientHelloMessage} {keyPair : KeyPair}
    (initial : server.state = .initial) (nonempty : server.serviceKeyId ≠ [])
    (short : server.serviceKeyId.length ≤ kMaxKeyIdSize)
    (decoded : decodeClientHello fb message = some (.ok hello)) (requestId : hello.requestId ≠ 0)
    (isKeyPair : suite.IsKeyPair keyPair) (publicKey : hello.publicKey = keyPair.publicKey)
    (overlap : max server.minVersion hello.minVersion ≤ min server.maxVersion hello.maxVersion)
    (version : min server.maxVersion hello.maxVersion ≠ 0) :
    ∃ answer, server.answerClientHello fb ssl message = some (.ok answer) ∧
      answer.IsHonest fb suite server hello keyPair := by
  obtain ⟨nonce, drawn⟩ := randomBytes_honest honest kKeySize (by decide) (by decide)
  obtain ⟨ephemeral, generated, ephemeralPair⟩ := generateX25519KeyPair_honest honest
  let unsigned : ServerHelloMessage :=
    { requestId := hello.requestId, selectedVersion := min server.maxVersion hello.maxVersion,
      nonce := nonce, publicKey := ephemeral.publicKey, serviceKeyId := server.serviceKeyId }
  have short16 : server.serviceKeyId.length ≤ uint16Max := Nat.le_trans short (by decide)
  obtain ⟨encodedTranscript, encode⟩ :=
    encodeTranscript_honest (transcriptFor hello unsigned) nonempty short16
  let signed : ServerHelloMessage :=
    { unsigned with signature := suite.sign server.identityPrivateKey encodedTranscript }
  obtain ⟨encoded, encodes⟩ : ∃ encoded, encodeServerHello fb signed = .ok encoded := by
    refine ⟨_, if_neg ?_⟩
    simp only [not_or]
    exact ⟨requestId, version, nonempty, Nat.not_lt.mpr short⟩
  have exchanged := exchangeKeys_honest honest ephemeralPair isKeyPair
    (suite.hash encodedTranscript)
  have chosen : server.chooseServerHello fb ssl hello = .ok
      { client := hello, ephemeral, server := signed,
        transcriptHash := suite.hash encodedTranscript,
        keys := suite.sessionKeys (suite.dh ephemeral.privateKey keyPair.publicKey)
          (suite.hash encodedTranscript), encoded } := by
    unfold ServerHandshake.chooseServerHello
    simp only
    rw [if_neg (UInt16.not_lt.mpr overlap), generated, drawn]
    simp only
    unfold ServerHandshake.signServerHello signEd25519
    simp only
    rw [show encodeTranscript (transcriptFor hello unsigned) = .ok encodedTranscript from encode,
      hashTranscript_honest honest encode]
    simp only [honest.sign]
    rw [show encodeServerHello fb signed = .ok encoded from encodes, publicKey, exchanged]
  have answered : server.answerClientHello fb ssl message =
      some (server.chooseServerHello fb ssl hello) := by
    unfold ServerHandshake.answerClientHello
    rw [if_neg (not_not.mpr initial), decoded]
  rw [chosen] at answered
  exact ⟨_, answered, rfl, rfl, rfl, rfl, ephemeralPair, rfl, ⟨encodedTranscript, encode, rfl, rfl⟩,
    rfl, encodes⟩

section Client

variable {server : ServerHandshake} {client : ClientHandshake} {answer : ServerHandshake.Answer}

def ServerHandshake.Answer.accepted (answer : ServerHandshake.Answer) :
    ClientHandshake.Accepted where
  server := answer.server
  transcriptHash := answer.transcriptHash
  keys := answer.keys

/-- The client accepts the honest answer to its hello. -/
theorem ClientHandshake.accept_honest
    (lawful : fb.Lawful fb envelopeIdentifier Envelope.contentSize) (honest : ssl.Honest suite)
    (sent : client.state = .helloSent) (isKeyPair : suite.IsKeyPair client.ephemeral)
    (answered : answer.IsHonest fb suite server client.hello client.ephemeral)
    (trusted : client.trustedKeys server.serviceKeyId =
      some (suite.publicKey server.identityPrivateKey))
    (verifies : ∀ encodedTranscript,
      encodeTranscript (transcriptFor client.hello answer.server) = .ok encodedTranscript →
      ssl.Verifies suite server.identityPrivateKey encodedTranscript)
    (minVersion : client.minVersion ≤ answer.server.selectedVersion)
    (maxVersion : answer.server.selectedVersion ≤ client.maxVersion) :
    client.acceptServerHello fb ssl answer.encoded = some (.ok answer.accepted) := by
  have decoded : decodeServerHello fb answer.encoded = some (.ok answer.server) :=
    MessageKind.decode_encode lawful .serverHello answered.encoded
  obtain ⟨encodedTranscript, encode, signature, hash⟩ := answered.signed
  have exchanged := exchangeKeys_honest honest isKeyPair answered.isKeyPair answer.transcriptHash
  rw [suite.agree _ _ isKeyPair answered.isKeyPair, ← answered.keys, ← answered.publicKey]
    at exchanged
  have requestId : answer.server.requestId = client.requestId := answered.requestId
  have inRange : ¬ (answer.server.selectedVersion < client.minVersion ∨
      answer.server.selectedVersion > client.maxVersion) :=
    not_or.mpr ⟨UInt16.not_lt.mpr minVersion, UInt16.not_lt.mpr maxVersion⟩
  unfold ClientHandshake.acceptServerHello
  rw [if_neg (not_not.mpr sent), decoded]
  simp only
  unfold ClientHandshake.checkServerHello verifyEd25519
  rw [if_neg (not_not.mpr requestId), if_neg inRange, answered.serviceKeyId, trusted]
  simp only
  rw [encode, hashTranscript_honest honest encode]
  simp only
  rw [signature, show ssl.digestVerifyEd25519 _ _ _ = .ok () from verifies _ encode, ← hash]
  simp only
  rw [exchanged]
  rfl

/-- It then sends its `ClientFinished` and is established. -/
theorem ClientHandshake.handleServerHello_honest
    (lawful : fb.Lawful fb envelopeIdentifier Envelope.contentSize) (honest : ssl.Honest suite)
    {message : Bytes} {accepted : ClientHandshake.Accepted}
    (accept : client.acceptServerHello fb ssl message = some (.ok accepted))
    (requestId : client.requestId ≠ 0) (version : accepted.server.selectedVersion ≠ 0) :
    ∃ plaintext, encodeClientFinished fb (client.finished accepted) = .ok plaintext ∧
      client.handleServerHello fb ssl message =
        some ({ client.adopt accepted with
          writer := some { accepted.writer with nextSequence := 2 }
          state := .established },
          .ok (sealedFrame suite (recordKey accepted.keys.clientToService) 1 plaintext)) := by
  obtain ⟨plaintext, encoded⟩ : ∃ plaintext,
      encodeClientFinished fb (client.finished accepted) = .ok plaintext :=
    ⟨_, if_neg (not_or.mpr ⟨requestId, version⟩)⟩
  refine ⟨plaintext, encoded, ?_⟩
  obtain ⟨nonempty, short⟩ :=
    MessageKind.length_of_encode lawful .clientFinished encoded
  have sealed := RecordWriter.seal_honest honest accepted.writer
    firstSequence_ne_max nonempty (Nat.le_trans short (by decide))
  unfold ClientHandshake.handleServerHello
  rw [accept]
  simp only
  rw [show encodeClientFinished fb ((client.adopt accepted).finished accepted) = .ok plaintext
    from encoded]
  simp only [ClientHandshake.Accepted.writer] at sealed ⊢
  rw [sealed]
  rfl

end Client

/-- The server opens the `ClientFinished` it expects and is established. -/
theorem ServerHandshake.handleClientFinished_honest
    (lawful : fb.Lawful fb envelopeIdentifier Envelope.contentSize) {server : ServerHandshake}
    {reader : RecordReader} {plaintext : Bytes}
    (awaiting : server.state = .awaitingFinished) (current : server.reader = some reader)
    (unexhausted : reader.nextSequence ≠ uint64Max)
    (encoded : encodeClientFinished fb server.expected = .ok plaintext)
    (opens : OpensRecord ssl suite reader.key reader.nextSequence plaintext) :
    server.handleClientFinished fb ssl
        (sealedFrame suite reader.key reader.nextSequence plaintext) =
      some ({ server with
        reader := some { reader with nextSequence := reader.nextSequence + 1 }
        state := .established }, .ok ()) := by
  obtain ⟨-, short⟩ := MessageKind.length_of_encode lawful .clientFinished encoded
  have decoded : decodeClientFinished fb plaintext = some (.ok server.expected) :=
    MessageKind.decode_encode lawful .clientFinished encoded
  have opened := reader.open_honest unexhausted (Nat.le_trans short (by decide)) opens
  unfold ServerHandshake.handleClientFinished
  rw [awaiting, current]
  simp only
  rw [opened]
  simp only
  rw [decoded]
  simp only [ServerHandshake.expected, ne_eq, not_true_eq_false, or_self, if_false]

/-! ## Application records -/

theorem sealRecord_honest (honest : ssl.Honest suite) {writer : RecordWriter} {plaintext : Bytes}
    (unexhausted : writer.nextSequence ≠ uint64Max) (nonempty : plaintext ≠ [])
    (short : plaintext.length ≤ kDefaultMaxPayloadSize.toNat - kTagSize) :
    sealRecord ssl .established (some writer) plaintext =
      (some { writer with nextSequence := writer.nextSequence + 1 },
        .ok (sealedFrame suite writer.key writer.nextSequence plaintext)) := by
  unfold sealRecord
  dsimp only
  rw [writer.seal_honest honest unexhausted nonempty short]

theorem openRecord_honest {reader : RecordReader} {plaintext : Bytes}
    (unexhausted : reader.nextSequence ≠ uint64Max)
    (short : plaintext.length ≤ kDefaultMaxPayloadSize.toNat - kTagSize)
    (opens : OpensRecord ssl suite reader.key reader.nextSequence plaintext) :
    openRecord ssl .established (some reader)
        (sealedFrame suite reader.key reader.nextSequence plaintext) =
      (some { reader with nextSequence := reader.nextSequence + 1 }, .ok plaintext) := by
  unfold openRecord
  dsimp only
  rw [reader.open_honest unexhausted short opens]

theorem ClientHandshake.seal_honest (honest : ssl.Honest suite) {client : ClientHandshake}
    {writer : RecordWriter} {plaintext : Bytes} (established : client.state = .established)
    (current : client.writer = some writer) (unexhausted : writer.nextSequence ≠ uint64Max)
    (nonempty : plaintext ≠ [])
    (short : plaintext.length ≤ kDefaultMaxPayloadSize.toNat - kTagSize) :
    client.seal ssl plaintext =
      ({ client with writer := some { writer with nextSequence := writer.nextSequence + 1 } },
        .ok (sealedFrame suite writer.key writer.nextSequence plaintext)) := by
  have sealed := sealRecord_honest honest unexhausted nonempty short
  rw [← current, ← established] at sealed
  rw [ClientHandshake.seal, sealed]

theorem ClientHandshake.open_honest {client : ClientHandshake} {reader : RecordReader}
    {plaintext : Bytes} (established : client.state = .established)
    (current : client.reader = some reader) (unexhausted : reader.nextSequence ≠ uint64Max)
    (short : plaintext.length ≤ kDefaultMaxPayloadSize.toNat - kTagSize)
    (opens : OpensRecord ssl suite reader.key reader.nextSequence plaintext) :
    client.open ssl (sealedFrame suite reader.key reader.nextSequence plaintext) =
      ({ client with reader := some { reader with nextSequence := reader.nextSequence + 1 } },
        .ok plaintext) := by
  have opened := openRecord_honest unexhausted short opens
  rw [← current, ← established] at opened
  rw [ClientHandshake.open, opened]

theorem ServerHandshake.seal_honest (honest : ssl.Honest suite) {server : ServerHandshake}
    {writer : RecordWriter} {plaintext : Bytes} (established : server.state = .established)
    (current : server.writer = some writer) (unexhausted : writer.nextSequence ≠ uint64Max)
    (nonempty : plaintext ≠ [])
    (short : plaintext.length ≤ kDefaultMaxPayloadSize.toNat - kTagSize) :
    server.seal ssl plaintext =
      ({ server with writer := some { writer with nextSequence := writer.nextSequence + 1 } },
        .ok (sealedFrame suite writer.key writer.nextSequence plaintext)) := by
  have sealed := sealRecord_honest honest unexhausted nonempty short
  rw [← current, ← established] at sealed
  rw [ServerHandshake.seal, sealed]

theorem ServerHandshake.open_honest {server : ServerHandshake} {reader : RecordReader}
    {plaintext : Bytes} (established : server.state = .established)
    (current : server.reader = some reader) (unexhausted : reader.nextSequence ≠ uint64Max)
    (short : plaintext.length ≤ kDefaultMaxPayloadSize.toNat - kTagSize)
    (opens : OpensRecord ssl suite reader.key reader.nextSequence plaintext) :
    server.open ssl (sealedFrame suite reader.key reader.nextSequence plaintext) =
      ({ server with reader := some { reader with nextSequence := reader.nextSequence + 1 } },
        .ok plaintext) := by
  have opened := openRecord_honest unexhausted short opens
  rw [← current, ← established] at opened
  rw [ServerHandshake.open, opened]

end

end YoAuthorize.Protocol
