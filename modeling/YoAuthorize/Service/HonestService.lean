import YoAuthorize.Protocol.HonestRun
import YoAuthorize.Service.Connection

/-!
# The exchange of an honest client with a connection

`exchange` runs a client against a connection up to the answer to its
`Authorize` request: the frames of each side go to the other unchanged.  Each
call has a library of its own, and other connections may have changed the
session manager between the calls.  `exchange_honest` says that the client is
authorized when no library call fails and everything fits its wire limits.
-/

namespace YoAuthorize.Crypto

open Octets

/-- A library whose calls succeed and which accepts every signature and opens
every ciphertext of the suite. -/
structure OpenSsl.Correct (ssl : OpenSsl) (suite : CryptoSuite) : Prop extends
    ssl.Honest suite where
  verifies : ∀ privateKey message, ssl.Verifies suite privateKey message
  decrypts : ∀ key nonce plaintext aad, plaintext.length ≤ intMax → aad.length ≤ intMax →
    ssl.decryptChaCha20Poly1305 key nonce (suite.encrypt key nonce plaintext aad).1
      (suite.encrypt key nonce plaintext aad).2 aad = some plaintext

end YoAuthorize.Crypto

namespace YoAuthorize.Service

open Octets Crypto FlatBuffer Protocol Protocol.Schema YoAuthorize.Core

/-! ## Plaintext frames -/

/-- `unwrapPlaintext` of the SDK: a frame it does not accept is empty. -/
def unwrapPlaintext (frame : Bytes) : Bytes :=
  match decodeFrame frame with
  | .error _ => []
  | .ok (header, payload) => if header.flags ≠ 0 ∨ header.sequence ≠ 0 then [] else payload

theorem decodeFrame_wrapPlaintext {payload : Bytes} (nonempty : payload ≠ [])
    (short : payload.length ≤ kDefaultMaxPayloadSize.toNat) :
    decodeFrame (wrapPlaintext payload) =
      .ok ({ payloadSize := UInt32.ofNat payload.length }, payload) := by
  have size : (UInt32.ofNat payload.length).toNat = payload.length :=
    UInt32.toNat_ofNat_of_lt' (Nat.lt_of_le_of_lt short (by decide))
  refine decodeFrame_eq_ok_iff.mpr ⟨rfl, ⟨rfl, .inl rfl, ?_, ?_⟩, size.symm⟩
  · intro zero
    change UInt32.ofNat payload.length = 0 at zero
    rw [zero] at size
    exact nonempty (List.length_eq_zero_iff.mp size.symm)
  · rw [UInt32.le_iff_toNat_le]
    exact Nat.le_trans (Nat.le_of_eq size) short

theorem unwrapPlaintext_wrapPlaintext {payload : Bytes} (nonempty : payload ≠ [])
    (short : payload.length ≤ kDefaultMaxPayloadSize.toNat) :
    unwrapPlaintext (wrapPlaintext payload) = payload := by
  rw [unwrapPlaintext, decodeFrame_wrapPlaintext nonempty short]
  exact if_neg (not_or.mpr ⟨not_not.mpr rfl, not_not.mpr rfl⟩)

/-! ## The exchange -/

/-- What a call of `handle` runs with, besides the frame. -/
structure HandleCall : Type where
  ssl : OpenSsl
  sessions : SessionManager
  draws : List Core.SessionId
  nowMonotonicMs : UInt64
  nowUnixSeconds : UInt64

def Connection.handleAt (fb : Binding Envelope) (connection : Connection) (call : HandleCall)
    (frame : Bytes) : Call Handled :=
  connection.handle fb call.ssl call.sessions call.draws frame call.nowMonotonicMs
    call.nowUnixSeconds

/-- The calls of an exchange in their order. -/
structure ExchangeCalls : Type where
  start : OpenSsl
  hello : HandleCall
  serverHello : OpenSsl
  finished : HandleCall
  sealing : OpenSsl
  authorize : HandleCall
  opening : OpenSsl

structure ExchangeCalls.Correct (calls : ExchangeCalls) (suite : CryptoSuite) : Prop where
  start : calls.start.Correct suite
  hello : calls.hello.ssl.Correct suite
  serverHello : calls.serverHello.Correct suite
  finished : calls.finished.ssl.Correct suite
  sealing : calls.sealing.Correct suite
  authorize : calls.authorize.ssl.Correct suite
  opening : calls.opening.Correct suite

/-- The result of a call that did not fail. -/
def succeeded {σ ε α : Type} : σ × Except ε α → Option (σ × α)
  | (_, .error _) => none
  | (state, .ok value) => some (state, value)

/-- What a client asks for. -/
structure AuthorizeRequest : Type where
  requestId : UInt64
  productId : Bytes
  processId : UInt64
  processStartTime : UInt64 := 0

def AuthorizeRequest.message (request : AuthorizeRequest) (protocolVersion : UInt16) :
    AuthorizeMessage where
  requestId := request.requestId
  protocolVersion := protocolVersion
  productId := request.productId
  processId := request.processId
  processStartTime := request.processStartTime

/-- The handshake part: the client and the connection after the `ClientFinished`. -/
def establish (fb : Binding Envelope) (client : ClientHandshake) (connection : Connection)
    (calls : ExchangeCalls) : Option (ClientHandshake × Connection) := do
  let (client, hello) ← succeeded (client.start fb calls.start)
  let handled ← connection.handleAt fb calls.hello (wrapPlaintext hello)
  let serverHello ← handled.result.response
  let (client, finished) ←
    (client.handleServerHello fb calls.serverHello (unwrapPlaintext serverHello)).bind succeeded
  let handled ← handled.connection.handleAt fb calls.finished finished
  return (client, handled.connection)

/-- What the client reads in the record that answers its request. -/
def openAuthResult (fb : Binding Envelope) (client : ClientHandshake) (ssl : OpenSsl)
    (response : Bytes) : Option AuthResultMessage := do
  let (_, plaintext) ← succeeded (client.open ssl response)
  let result ← decodeAuthResult fb plaintext
  result.toOption

/-- The request on an established connection and the answer the client reads. -/
def requestAuthorization (fb : Binding Envelope) (client : ClientHandshake)
    (connection : Connection) (calls : ExchangeCalls) (request : AuthorizeRequest) :
    Option AuthResultMessage := do
  let plaintext ← (encodeAuthorize fb (request.message client.selectedVersion)).toOption
  let (client, frame) ← succeeded (client.seal calls.sealing plaintext)
  let handled ← connection.handleAt fb calls.authorize frame
  let response ← handled.result.response
  openAuthResult fb client calls.opening response

def exchange (fb : Binding Envelope) (client : ClientHandshake) (connection : Connection)
    (calls : ExchangeCalls) (request : AuthorizeRequest) : Option AuthResultMessage := do
  let (client, connection) ← establish fb client connection calls
  requestAuthorization fb client connection calls request

section

variable {fb : Binding Envelope} {suite : CryptoSuite}

theorem opensRecord_correct {ssl : OpenSsl} (correct : ssl.Correct suite) (key : RecordKey)
    (sequence : UInt64) {plaintext : Bytes}
    (short : plaintext.length ≤ kDefaultMaxPayloadSize.toNat - kTagSize) :
    OpensRecord ssl suite key sequence plaintext := by
  have plaintextSize : plaintext.length ≤ intMax := Nat.le_trans short (by decide)
  have headerSize : (encodeHeader (recordHeader sequence plaintext)).val.length ≤ intMax := by
    rw [(encodeHeader _).2]
    decide
  apply openChaCha20Poly1305_append
  · rw [suite.length_encrypt]
    exact plaintextSize
  · exact headerSize
  · exact correct.decrypts _ _ _ _ plaintextSize headerSize

/-- Both sides of an established session, before any application record. -/
structure Paired (client : ClientHandshake) (server : ServerHandshake) (keys : SessionKeys) :
    Prop where
  clientState : client.state = .established
  clientWriter : client.writer = some { key := recordKey keys.clientToService, nextSequence := 2 }
  clientReader : client.reader = some { key := recordKey keys.serviceToClient }
  serverState : server.state = .established
  serverReader : server.reader = some { key := recordKey keys.clientToService, nextSequence := 2 }
  serverWriter : server.writer = some { key := recordKey keys.serviceToClient }
  version : server.selectedVersion = client.selectedVersion

theorem handleAt_hello (lawful : fb.Lawful fb envelopeIdentifier Envelope.contentSize)
    {call : HandleCall} {connection : Connection} {hello : Bytes}
    {answer : ServerHandshake.Answer} {message : ClientHelloMessage}
    (state : connection.state = .awaitingHello)
    (encoded : encodeClientHello fb message = .ok hello)
    (answered : connection.handshake.answerClientHello fb call.ssl hello = some (.ok answer)) :
    connection.handleAt fb call (wrapPlaintext hello) =
      some
        { connection :=
            { connection with
              handshake := connection.handshake.adopt answer
              state := .awaitingFinished }
          sessions := call.sessions
          result := { response := some (wrapPlaintext answer.encoded) } } := by
  rcases MessageKind.length_of_encode lawful .clientHello encoded with ⟨nonempty, short⟩
  unfold Connection.handleAt Connection.handle
  rw [state]
  dsimp only
  unfold Connection.handleHello
  rw [decodeFrame_wrapPlaintext nonempty (Nat.le_trans short (by decide))]
  dsimp only
  rw [if_neg (not_or.mpr ⟨not_not.mpr rfl, not_not.mpr rfl⟩),
    ServerHandshake.handleClientHello_of_answer answered]

theorem handleAt_finished {call : HandleCall} {connection : Connection} {frame : Bytes}
    {handshake : ServerHandshake} (state : connection.state = .awaitingFinished)
    (finished : connection.handshake.handleClientFinished fb call.ssl frame =
      some (handshake, .ok ())) :
    connection.handleAt fb call frame =
      some
        { connection := { connection with handshake, state := .awaitingAuthorize }
          sessions := call.sessions
          result := {} } := by
  unfold Connection.handleAt Connection.handle
  rw [state]
  dsimp only
  unfold Connection.handleFinished
  rw [finished]

/-- The calls of an honest handshake, in their order. -/
theorem handshake_honest (lawful : fb.Lawful fb envelopeIdentifier Envelope.contentSize)
    {calls : ExchangeCalls} (correct : calls.Correct suite) {client : ClientHandshake}
    {connection : Connection} (ready : client.Ready) (new : connection.state = .awaitingHello)
    (initial : connection.handshake.state = .initial)
    (nonempty : connection.handshake.serviceKeyId ≠ [])
    (short : connection.handshake.serviceKeyId.length ≤ kMaxKeyIdSize)
    (trusted : client.trustedKeys connection.handshake.serviceKeyId =
      some (suite.publicKey connection.handshake.identityPrivateKey))
    (overlap : max connection.handshake.minVersion client.minVersion ≤
      min connection.handshake.maxVersion client.maxVersion)
    (version : min connection.handshake.maxVersion client.maxVersion ≠ 0) :
    ∃ sent hello awaiting serverHello established finished handshake keys,
      client.start fb calls.start = (sent, .ok hello) ∧
      connection.handleAt fb calls.hello (wrapPlaintext hello) =
        some
          { connection := awaiting
            sessions := calls.hello.sessions
            result := { response := some (wrapPlaintext serverHello) } } ∧
      sent.handleServerHello fb calls.serverHello
          (unwrapPlaintext (wrapPlaintext serverHello)) =
        some (established, .ok finished) ∧
      awaiting.handleAt fb calls.finished finished =
        some
          { connection := { connection with handshake, state := .awaitingAuthorize }
            sessions := calls.finished.sessions
            result := {} } ∧
      Paired established handshake keys ∧ established.selectedVersion ≠ 0 := by
  -- the client sends its hello
  rcases ClientHandshake.start_honest fb correct.start.toHonest ready with
    ⟨nonce, keyPair, hello, isKeyPair, -, encodeHello, start⟩
  -- the connection answers it
  have decodeHello : decodeClientHello fb hello = some (.ok (client.sent nonce keyPair).hello) :=
    MessageKind.decode_encode lawful .clientHello encodeHello
  rcases ServerHandshake.answer_honest correct.hello.toHonest initial nonempty short decodeHello
    ready.requestId isKeyPair rfl overlap version with ⟨answer, answered, isHonest⟩
  have handledHello := handleAt_hello lawful new encodeHello answered
  rcases MessageKind.length_of_encode lawful .serverHello isHonest.encoded with
    ⟨answerPresent, answerShort⟩
  have unwrapped : unwrapPlaintext (wrapPlaintext answer.encoded) = answer.encoded :=
    unwrapPlaintext_wrapPlaintext answerPresent (Nat.le_trans answerShort (by decide))
  -- the client accepts the answer
  have highest := isHighestCommon_min overlap
  have selected : answer.server.selectedVersion =
      min connection.handshake.maxVersion client.maxVersion := isHonest.selectedVersion
  rw [← selected] at highest version
  have accept := ClientHandshake.accept_honest lawful correct.serverHello.toHonest rfl isKeyPair
    isHonest trusted (fun message _ => correct.serverHello.verifies _ message) highest.left.1
    highest.left.2
  rcases ClientHandshake.handleServerHello_honest lawful correct.serverHello.toHonest accept
    ready.requestId version with ⟨plaintext, encode, accepted⟩
  rw [← unwrapped] at accepted
  -- the connection opens the client's `ClientFinished`
  rcases MessageKind.length_of_encode lawful .clientFinished encode with ⟨-, fits⟩
  have expected : encodeClientFinished fb (connection.handshake.adopt answer).expected =
      .ok plaintext := by
    have same : (connection.handshake.adopt answer).expected =
        (client.sent nonce keyPair).finished answer.accepted := by
      change ClientFinishedMessage.mk answer.client.requestId _ _ = _
      rw [isHonest.client]
      rfl
    rw [same]
    exact encode
  have opens := opensRecord_correct correct.finished answer.reader.key 1
    (Nat.le_trans fits (by decide))
  have finished := ServerHandshake.handleClientFinished_honest lawful
    (rfl : (connection.handshake.adopt answer).state = .awaitingFinished) rfl firstSequence_ne_max
    expected opens
  let awaiting : Connection :=
    { connection with
      handshake := connection.handshake.adopt answer
      state := .awaitingFinished }
  have handledFinished := handleAt_finished (rfl : awaiting.state = .awaitingFinished) finished
  exact ⟨_, hello, awaiting, answer.encoded, _, _, _, answer.keys, start, handledHello, accepted,
    handledFinished, ⟨rfl, rfl, rfl, rfl, rfl, rfl, rfl⟩, version⟩

theorem establish_honest (lawful : fb.Lawful fb envelopeIdentifier Envelope.contentSize)
    {calls : ExchangeCalls} (correct : calls.Correct suite) {client : ClientHandshake}
    {connection : Connection} (ready : client.Ready) (new : connection.state = .awaitingHello)
    (initial : connection.handshake.state = .initial)
    (nonempty : connection.handshake.serviceKeyId ≠ [])
    (short : connection.handshake.serviceKeyId.length ≤ kMaxKeyIdSize)
    (trusted : client.trustedKeys connection.handshake.serviceKeyId =
      some (suite.publicKey connection.handshake.identityPrivateKey))
    (overlap : max connection.handshake.minVersion client.minVersion ≤
      min connection.handshake.maxVersion client.maxVersion)
    (version : min connection.handshake.maxVersion client.maxVersion ≠ 0) :
    ∃ established handshake keys,
      establish fb client connection calls =
        some (established, { connection with handshake, state := .awaitingAuthorize }) ∧
      Paired established handshake keys ∧ established.selectedVersion ≠ 0 := by
  rcases handshake_honest lawful correct ready new initial nonempty short trusted overlap version
    with ⟨sent, hello, awaiting, serverHello, established, finished, handshake, keys, starts,
      greets, accepts, finishes, paired, selected⟩
  refine ⟨established, handshake, keys, ?_, paired, selected⟩
  unfold establish
  rw [starts]
  simp only [succeeded, Option.bind_eq_bind, Option.bind_some]
  rw [greets]
  simp only [Option.bind_some]
  rw [accepts]
  simp only [succeeded, Option.bind_some]
  rw [finishes]
  rfl

/-! ## The request -/

theorem secondSequence_ne_max : (2 : UInt64) ≠ uint64Max := by decide

theorem encodeAuthorize_request {request : AuthorizeRequest} {version : UInt16}
    (requestId : request.requestId ≠ 0) (selected : version ≠ 0) (present : request.productId ≠ [])
    (short : request.productId.length ≤ kMaxProductIdSize) (processId : request.processId ≠ 0) :
    ∃ plaintext, encodeAuthorize fb (request.message version) = .ok plaintext := by
  refine ⟨_, if_neg ?_⟩
  simp only [not_or]
  exact ⟨requestId, selected, present, Nat.not_lt.mpr short, processId⟩

/-- The answer to a request that is granted. -/
def grantedResult (connection : Connection) (request : AuthorizeMessage) (session : Session) :
    AuthResultMessage where
  requestId := request.requestId
  protocolVersion := connection.handshake.selectedVersion
  sessionId := some (protocolId session.id)
  features := session.features
  expireTime := session.expireTime
  heartbeatIntervalMs := connection.heartbeatIntervalMs
  heartbeatTimeoutMs := connection.heartbeatTimeoutMs

/-- What a request needs to be granted. -/
structure Grantable (connection : Connection) (call : HandleCall) (request : AuthorizeMessage) :
    Prop where
  product : request.productId = connection.license.productId
  unexpired : licenseExpired connection.license call.nowUnixSeconds = false
  free : call.sessions.active connection.license.productId < connection.license.maxSessions.toNat
  drawn : Core.SessionManager.drawId call.sessions.sessions call.draws ≠ none
  named : connection.license.productId ≠ []
  peer : connection.peerIdentity ≠ []

theorem authorize_granted {connection : Connection} {call : HandleCall} {request : AuthorizeMessage}
    (grantable : Grantable connection call request) :
    ∃ session sessions, session.features = connection.license.features ∧
      connection.authorize call.sessions call.draws request call.nowMonotonicMs
          call.nowUnixSeconds =
        { connection := { connection with session := some session, state := .active }
          sessions
          response := grantedResult connection request session
          error := none
          created := some session } := by
  cases draw : Core.SessionManager.drawId call.sessions.sessions call.draws with
  | none => exact absurd draw grantable.drawn
  | some id =>
      unfold Connection.authorize
      dsimp only
      rw [if_neg (not_not.mpr grantable.product), if_neg (by rw [grantable.unexpired]; decide),
        Core.SessionManager.create_of_room grantable.free grantable.named grantable.peer draw]
      exact ⟨_, _, rfl, rfl⟩

theorem encodeAuthResult_granted {connection : Connection} {request : AuthorizeMessage}
    {session : Session} (requestId : request.requestId ≠ 0)
    (version : connection.handshake.selectedVersion ≠ 0)
    (features : validFeatures session.features = true) :
    ∃ encoded, encodeAuthResult fb (grantedResult connection request session) = .ok encoded := by
  refine ⟨_, if_neg ?_⟩
  have known : validAuthorizationError .none = true := by decide
  simp only [not_or, grantedResult, known, features, not_and]
  exact ⟨requestId, version, by decide, by decide, fun _ => nofun, fun other => absurd rfl other⟩

theorem encryptedResponse_honest {ssl : OpenSsl} (honest : ssl.Honest suite)
    (connection : Connection) {writer : RecordWriter} (sessions : SessionManager)
    {plaintext : Bytes} (established : connection.handshake.state = .established)
    (current : connection.handshake.writer = some writer)
    (unexhausted : writer.nextSequence ≠ uint64Max) (nonempty : plaintext ≠ [])
    (short : plaintext.length ≤ kDefaultMaxPayloadSize.toNat - kTagSize) :
    connection.encryptedResponse ssl sessions plaintext =
      { connection :=
          { connection with
            handshake :=
              { connection.handshake with
                writer := some { writer with nextSequence := writer.nextSequence + 1 } } }
        sessions
        result :=
          { response := some (sealedFrame suite writer.key writer.nextSequence plaintext) } } := by
  unfold Connection.encryptedResponse
  rw [ServerHandshake.seal_honest honest established current unexhausted nonempty short]
  rfl

/-- The connection grants the request and answers it in a record. -/
theorem handleAt_authorize (lawful : fb.Lawful fb envelopeIdentifier Envelope.contentSize)
    {call : HandleCall} (correct : call.ssl.Correct suite) {connection : Connection}
    {client : ClientHandshake} {keys : SessionKeys} {request : AuthorizeMessage}
    {plaintext : Bytes} (state : connection.state = .awaitingAuthorize)
    (paired : Paired client connection.handshake keys)
    (version : request.protocolVersion = connection.handshake.selectedVersion)
    (encode : encodeAuthorize fb request = .ok plaintext)
    (grantable : Grantable connection call request)
    (features : validFeatures connection.license.features = true) :
    ∃ handled session encoded,
      connection.handleAt fb call
        (sealedFrame suite (recordKey keys.clientToService) 2 plaintext) = some handled ∧
      session.features = connection.license.features ∧
      encodeAuthResult fb (grantedResult connection request session) = .ok encoded ∧
      handled.connection.state = .active ∧ handled.result.closed = false ∧
      handled.result.response =
        some (sealedFrame suite (recordKey keys.serviceToClient) 1 encoded) := by
  rcases MessageKind.length_of_encode lawful .authorize encode with ⟨-, short⟩
  have decoded : decodeAuthorize fb plaintext = some (.ok request) :=
    MessageKind.decode_encode lawful .authorize encode
  have fields : request.requestId ≠ 0 ∧ request.protocolVersion ≠ 0 := by
    unfold encodeAuthorize at encode
    split at encode
    · cases encode
    · rename_i accepted
      rw [not_or, not_or] at accepted
      exact ⟨accepted.1, accepted.2.1⟩
  have opened := ServerHandshake.open_honest paired.serverState paired.serverReader
    secondSequence_ne_max (Nat.le_trans short (by decide))
    (opensRecord_correct correct _ _ (Nat.le_trans short (by decide)))
  dsimp only at opened
  let handshake : ServerHandshake :=
    { connection.handshake with
      reader := some { key := recordKey keys.clientToService, nextSequence := 2 + 1 } }
  let current : Connection := { connection with handshake, state := .awaitingAuthorize }
  have grants : Grantable current call request :=
    ⟨grantable.product, grantable.unexpired, grantable.free, grantable.drawn, grantable.named,
      grantable.peer⟩
  rcases authorize_granted grants with ⟨session, sessions, sameFeatures, decides⟩
  have encodable : ∃ encoded,
      encodeAuthResult fb (grantedResult current request session) = .ok encoded :=
    encodeAuthResult_granted fields.1 (version ▸ fields.2) (sameFeatures.symm ▸ features)
  rcases encodable with ⟨encoded, encodes⟩
  rcases MessageKind.length_of_encode lawful .authResult encodes with ⟨present, small⟩
  let active : Connection := { current with session := some session, state := .active }
  have sealed := encryptedResponse_honest correct.toHonest active sessions paired.serverState
    paired.serverWriter firstSequence_ne_max present (Nat.le_trans small (by decide))
  have answered : Connection.answer fb call.ssl
      (current.authorize call.sessions call.draws request call.nowMonotonicMs
        call.nowUnixSeconds) =
        { active.encryptedResponse call.ssl sessions encoded with created := some session } := by
    rw [decides]
    unfold Connection.answer
    dsimp only
    rw [encodes]
    dsimp only
    rw [Option.isSome_none, sealed]
  refine ⟨{ active.encryptedResponse call.ssl sessions encoded with created := some session },
    session, encoded, ?_, sameFeatures, encodes, congrArg (·.connection.state) sealed,
    congrArg (·.result.closed) sealed, congrArg (·.result.response) sealed⟩
  unfold Connection.handleAt Connection.handle
  rw [state]
  dsimp only
  rw [opened]
  dsimp only
  rw [if_pos rfl]
  unfold Connection.handleAuthorize
  rw [decoded]
  dsimp only
  rw [if_neg (not_not.mpr version)]
  exact congrArg some answered

theorem openAuthResult_honest (lawful : fb.Lawful fb envelopeIdentifier Envelope.contentSize)
    {ssl : OpenSsl} (correct : ssl.Correct suite) {client : ClientHandshake} {key : RecordKey}
    {result : AuthResultMessage} {encoded : Bytes} (state : client.state = .established)
    (reader : client.reader = some { key }) (encodes : encodeAuthResult fb result = .ok encoded) :
    openAuthResult fb client ssl (sealedFrame suite key 1 encoded) = some result := by
  rcases MessageKind.length_of_encode lawful .authResult encodes with ⟨-, short⟩
  have opened := ClientHandshake.open_honest state reader firstSequence_ne_max
    (Nat.le_trans short (by decide))
    (opensRecord_correct correct key 1 (Nat.le_trans short (by decide)))
  have decoded : decodeAuthResult fb encoded = some (.ok result) :=
    MessageKind.decode_encode lawful .authResult encodes
  unfold openAuthResult
  rw [opened]
  simp only [succeeded, Option.bind_eq_bind, Option.bind_some]
  rw [decoded]
  rfl

/-- The client reads the grant of its request. -/
theorem requestAuthorization_honest
    (lawful : fb.Lawful fb envelopeIdentifier Envelope.contentSize) {calls : ExchangeCalls}
    (correct : calls.Correct suite) {connection : Connection} {client : ClientHandshake}
    {keys : SessionKeys} {request : AuthorizeRequest}
    (state : connection.state = .awaitingAuthorize)
    (paired : Paired client connection.handshake keys) (version : client.selectedVersion ≠ 0)
    (requestId : request.requestId ≠ 0) (processId : request.processId ≠ 0)
    (productSize : request.productId.length ≤ kMaxProductIdSize)
    (grantable : Grantable connection calls.authorize (request.message client.selectedVersion))
    (features : validFeatures connection.license.features = true) :
    ∃ result, requestAuthorization fb client connection calls request = some result ∧
      result.error = .none ∧ result.features = connection.license.features := by
  have productPresent : request.productId ≠ [] := by
    have product : request.productId = connection.license.productId := grantable.product
    rw [product]
    exact grantable.named
  have encodable : ∃ plaintext,
      encodeAuthorize fb (request.message client.selectedVersion) = .ok plaintext :=
    encodeAuthorize_request requestId version productPresent productSize processId
  rcases encodable with ⟨plaintext, encode⟩
  rcases MessageKind.length_of_encode lawful .authorize encode with ⟨present, short⟩
  have sealed := ClientHandshake.seal_honest correct.sealing.toHonest paired.clientState
    paired.clientWriter secondSequence_ne_max present (Nat.le_trans short (by decide))
  rcases handleAt_authorize lawful correct.authorize state paired paired.version.symm encode
    grantable features with
    ⟨handled, session, encoded, handles, sameFeatures, encodes, -, -, response⟩
  refine ⟨grantedResult connection (request.message client.selectedVersion) session, ?_, rfl,
    sameFeatures⟩
  unfold requestAuthorization
  rw [encode]
  simp only [Except.toOption, Option.bind_eq_bind, Option.bind_some]
  rw [sealed]
  simp only [succeeded, Option.bind_some]
  rw [handles]
  simp only [Option.bind_some]
  rw [response]
  exact openAuthResult_honest lawful correct.opening paired.clientState paired.clientReader encodes

/-- An honest client is authorized, with the features of the license, when the
names and the features fit the wire. -/
theorem exchange_honest (lawful : fb.Lawful fb envelopeIdentifier Envelope.contentSize)
    {calls : ExchangeCalls} (correct : calls.Correct suite) {client : ClientHandshake}
    {connection : Connection} {request : AuthorizeRequest} (ready : client.Ready)
    (new : connection.state = .awaitingHello) (initial : connection.handshake.state = .initial)
    (nonempty : connection.handshake.serviceKeyId ≠ [])
    (trusted : client.trustedKeys connection.handshake.serviceKeyId =
      some (suite.publicKey connection.handshake.identityPrivateKey))
    (overlap : max connection.handshake.minVersion client.minVersion ≤
      min connection.handshake.maxVersion client.maxVersion)
    (version : min connection.handshake.maxVersion client.maxVersion ≠ 0)
    (requestId : request.requestId ≠ 0) (processId : request.processId ≠ 0)
    (grantable : ∀ version, Grantable connection calls.authorize (request.message version))
    (keyIdSize : connection.handshake.serviceKeyId.length ≤ kMaxKeyIdSize)
    (productSize : request.productId.length ≤ kMaxProductIdSize)
    (features : validFeatures connection.license.features = true) :
    ∃ result, exchange fb client connection calls request = some result ∧
      result.error = .none ∧ result.features = connection.license.features := by
  rcases establish_honest lawful correct ready new initial nonempty keyIdSize trusted overlap
    version with ⟨established, handshake, keys, establishes, paired, selected⟩
  let current : Connection := { connection with handshake, state := .awaitingAuthorize }
  have grants := grantable established.selectedVersion
  have same : Grantable current calls.authorize (request.message established.selectedVersion) :=
    ⟨grants.product, grants.unexpired, grants.free, grants.drawn, grants.named, grants.peer⟩
  rcases requestAuthorization_honest lawful correct (rfl : current.state = .awaitingAuthorize)
    paired selected requestId processId productSize same features with ⟨result, reads, granted⟩
  refine ⟨result, ?_, granted⟩
  unfold exchange
  rw [establishes]
  exact reads

end

/-! ## A library without a log -/

/-- The library of `referenceSuite` that accepts what the suite can have made. -/
def referenceSsl : OpenSsl where
  randPrivBytes size := some (.zeros size)
  digestSha256 message := some (referenceSuite.hash message)
  digestSignEd25519 key message := some (referenceSuite.sign key message)
  digestVerifyEd25519 _ _ signature :=
    if signature = .zeros kSignatureSize then .ok () else .error .invalidSignature
  keygenX25519 := some {}
  pkeyDeriveX25519 privateKey publicKey := .ok (referenceSuite.dh privateKey publicKey)
  kdfDeriveHkdf key salt info size := some (referenceSuite.hkdf key salt info size)
  encryptChaCha20Poly1305 key nonce plaintext aad :=
    some (referenceSuite.encrypt key nonce plaintext aad)
  decryptChaCha20Poly1305 _ _ ciphertext tag _ :=
    if tag = .zeros kTagSize then some ciphertext else none

theorem referenceSsl_correct : referenceSsl.Correct referenceSuite where
  random size _ := ⟨_, rfl⟩
  hash message := rfl
  keyPair := ⟨{}, rfl, trivial⟩
  dh left right _ _ := rfl
  hkdf key salt info size _ _ _ := rfl
  sign key message := rfl
  encrypt key nonce plaintext aad _ _ := rfl
  verifies privateKey message := by simp [OpenSsl.Verifies, referenceSsl, referenceSuite]
  decrypts key nonce plaintext aad _ _ := by simp [referenceSsl, referenceSuite]

def referenceCall : HandleCall where
  ssl := referenceSsl
  sessions := {}
  draws := [.zeros 16]
  nowMonotonicMs := 0
  nowUnixSeconds := 15

def referenceCalls : ExchangeCalls where
  start := referenceSsl
  hello := referenceCall
  serverHello := referenceSsl
  finished := referenceCall
  sealing := referenceSsl
  authorize := referenceCall
  opening := referenceSsl

theorem referenceCalls_correct : referenceCalls.Correct referenceSuite :=
  ⟨referenceSsl_correct, referenceSsl_correct, referenceSsl_correct, referenceSsl_correct,
    referenceSsl_correct, referenceSsl_correct, referenceSsl_correct⟩

def referenceRequest : AuthorizeRequest where
  requestId := 2
  productId := utf8 "product-qt"
  processId := 7

end YoAuthorize.Service
