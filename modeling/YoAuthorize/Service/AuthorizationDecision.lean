import YoAuthorize.Service.ConnectionLanguage

/-!
# The authorization decision

What the answer to an `Authorize` request says, and what it does to the shared
manager, for any connection, manager and clocks.  `authorizationError` is the
decision as it is meant: the product first, then the license, then the quota.
The last part is about the answers of an active connection.
-/

namespace YoAuthorize.Service

open Octets Crypto FlatBuffer Protocol Protocol.Schema YoAuthorize.Core

/-- The error that a request is to be answered with. -/
def authorizationError (license : LicenseSnapshot) (sessions : SessionManager)
    (productId : Bytes) (nowUnixSeconds : UInt64) : AuthorizationError :=
  if productId ≠ license.productId then .productMismatch
  else if license.expireTime ≠ 0 ∧ nowUnixSeconds ≥ license.expireTime then .expired
  else if sessions.active license.productId ≥ license.maxSessions.toNat then
    .sessionLimitExceeded
  else .none

/-- A frame that opens to a request of the negotiated version, with a library
and a random generator that do not fail. -/
structure Asks (fb : Binding Envelope) (connection : Connection) (call : HandleCall)
    (frame : Bytes) (request : AuthorizeMessage) : Prop where
  state : connection.state = .awaitingAuthorize
  opens : ∃ plaintext, (connection.handshake.open call.ssl frame).2 = .ok plaintext ∧
    decodeAuthorize fb plaintext = some (.ok request)
  version : request.protocolVersion = connection.handshake.selectedVersion
  seals : ∀ encoded, encoded ≠ [] → encoded.length ≤ kDefaultMaxPayloadSize.toNat - kTagSize →
    ∃ response, ((connection.handshake.open call.ssl frame).1.seal call.ssl encoded).2 =
      .ok response
  draws : SessionManager.drawId call.sessions.sessions call.draws ≠ none

/-- What a call does that answers a request with a message. -/
structure Decides (fb : Binding Envelope) (connection : Connection) (call : HandleCall)
    (frame : Bytes) (request : AuthorizeMessage) (handled : Handled)
    (message : AuthResultMessage) : Prop where
  sent : ∃ encoded response, encodeAuthResult fb message = .ok encoded ∧
    ((connection.handshake.open call.ssl frame).1.seal call.ssl encoded).2 = .ok response ∧
    handled.result.response = some response
  requestId : message.requestId = request.requestId
  version : message.protocolVersion = connection.handshake.selectedVersion
  error : message.error = authorizationError connection.license call.sessions request.productId
    call.nowUnixSeconds
  granted : message.error = .none → ∃ session : Session, session.id ∉ call.sessions.sessions ∧
    handled.sessions.sessions = call.sessions.sessions.insert session.id session ∧
    handled.connection.session = some session ∧ handled.connection.state = .active
  denied : message.error ≠ .none → handled.sessions = call.sessions ∧
    handled.connection.state = .closed

section

variable {fb : Binding Envelope} {connection : Connection} {call : HandleCall} {frame : Bytes}
  {request : AuthorizeMessage}

/-- The answer of the connection that has opened the frame. -/
theorem Asks.handleAt_eq (asks : Asks fb connection call frame request) :
    connection.handleAt fb call frame =
      some (Connection.answer fb call.ssl
        (({ connection with handshake := (connection.handshake.open call.ssl frame).1 } :
          Connection).authorize call.sessions call.draws request call.nowMonotonicMs
          call.nowUnixSeconds)) := by
  rcases asks.opens with ⟨plaintext, opened, isAuthorize⟩
  have opens : connection.handshake.open call.ssl frame =
      ((connection.handshake.open call.ssl frame).1, .ok plaintext) := Prod.ext rfl opened
  have version : request.protocolVersion =
    (connection.handshake.open call.ssl frame).1.selectedVersion := asks.version
  unfold Connection.handleAt Connection.handle
  rw [asks.state]
  dsimp only
  rw [opens]
  dsimp only
  rw [if_pos rfl]
  unfold Connection.handleAuthorize
  rw [isAuthorize]
  dsimp only
  rw [if_neg (not_not.mpr version)]

theorem encryptedResponse_of_seal {ssl : OpenSsl} (sender : Connection) {encoded response : Bytes}
    (sealed : (sender.handshake.seal ssl encoded).2 = .ok response) (sessions : SessionManager)
    (closeAfter : Bool) :
    sender.encryptedResponse ssl sessions encoded closeAfter =
      { connection :=
          { sender with
            handshake := (sender.handshake.seal ssl encoded).1
            state := if closeAfter then .closed else sender.state }
        sessions
        result := { response := some response, closed := closeAfter } } := by
  have seals : sender.handshake.seal ssl encoded =
      ((sender.handshake.seal ssl encoded).1, .ok response) := Prod.ext rfl sealed
  unfold Connection.encryptedResponse
  rw [seals]

theorem encodeAuthResult_denied {error : AuthorizationError} (requestId : request.requestId ≠ 0)
    (version : connection.handshake.selectedVersion ≠ 0)
    (known : validAuthorizationError error = true) (other : error ≠ .none) :
    ∃ encoded, encodeAuthResult fb (deniedResult connection request error) = .ok encoded := by
  refine ⟨_, if_neg ?_⟩
  have empty : validFeatures [] = true := by decide
  simp only [not_or, deniedResult, known, empty, not_and]
  exact ⟨requestId, version, by decide, by decide, fun same => absurd same other, fun _ => nofun⟩

/-- A refusal closes the connection and leaves the manager alone. -/
theorem Asks.decides_of_denial (lawful : fb.Lawful fb envelopeIdentifier Envelope.contentSize)
    (asks : Asks fb connection call frame request) (error : AuthorizationError)
    (connectionError : ConnectionError) (known : validAuthorizationError error = true)
    (other : error ≠ .none)
    (decided : authorizationError connection.license call.sessions request.productId
      call.nowUnixSeconds = error)
    (authorizes : ∀ opened : Connection,
      opened = { connection with handshake := (connection.handshake.open call.ssl frame).1 } →
      opened.authorize call.sessions call.draws request call.nowMonotonicMs call.nowUnixSeconds =
        { connection := opened, sessions := call.sessions
          response := deniedResult opened request error, error := some connectionError }) :
    ∃ handled message, connection.handleAt fb call frame = some handled ∧
      Decides fb connection call frame request handled message := by
  let opened : Connection :=
    { connection with handshake := (connection.handshake.open call.ssl frame).1 }
  rcases asks.opens with ⟨plaintext, -, isAuthorize⟩
  have fields := fields_of_decodeAuthorize isAuthorize
  rw [asks.version] at fields
  have encodable : ∃ encoded, encodeAuthResult fb (deniedResult opened request error) =
      .ok encoded := encodeAuthResult_denied fields.1 fields.2.1 known other
  rcases encodable with ⟨encoded, encodes⟩
  rcases MessageKind.length_of_encode lawful .authResult encodes with ⟨present, short⟩
  rcases asks.seals encoded present (Nat.le_trans short (by decide)) with ⟨response, sealed⟩
  have responds := encryptedResponse_of_seal opened sealed call.sessions true
  refine ⟨_, deniedResult opened request error, asks.handleAt_eq, ?_⟩
  rw [authorizes opened rfl, answer_of_encode encodes, Option.isSome_some, responds]
  exact
    { sent := ⟨encoded, response, encodes, sealed, rfl⟩
      requestId := rfl
      version := rfl
      error := decided.symm
      granted := fun same => absurd same other
      denied := fun _ => ⟨rfl, rfl⟩ }

/-- The answer to a request says what the product, the license and the quota
call for, and only a grant changes the manager. -/
theorem Asks.decides (lawful : fb.Lawful fb envelopeIdentifier Envelope.contentSize)
    (asks : Asks fb connection call frame request)
    (features : validFeatures connection.license.features = true)
    (peer : connection.peerIdentity ≠ []) :
    ∃ handled message, connection.handleAt fb call frame = some handled ∧
      Decides fb connection call frame request handled message := by
  by_cases product : request.productId = connection.license.productId
  swap
  · refine asks.decides_of_denial lawful .productMismatch .productMismatch (by decide) (by decide)
      (if_pos product) ?_
    rintro opened rfl
    exact authorize_of_mismatch product
  by_cases expired : connection.license.expireTime ≠ 0 ∧
      call.nowUnixSeconds ≥ connection.license.expireTime
  · refine asks.decides_of_denial lawful .expired .licenseExpired (by decide) (by decide) ?_ ?_
    · unfold authorizationError
      rw [if_neg (not_not.mpr product), if_pos expired]
    · rintro opened rfl
      exact authorize_of_expired product (decide_eq_true expired)
  have unexpired : licenseExpired connection.license call.nowUnixSeconds = false :=
    decide_eq_false expired
  by_cases full : call.sessions.active connection.license.productId ≥
      connection.license.maxSessions.toNat
  · rcases SessionManager.create_of_full full call.draws connection.peerIdentity
      connection.license.features connection.license.expireTime call.nowMonotonicMs with
      ⟨error, refused⟩
    refine asks.decides_of_denial lawful .sessionLimitExceeded .sessionLimitExceeded (by decide)
      (by decide) ?_ ?_
    · unfold authorizationError
      rw [if_neg (not_not.mpr product), if_neg expired, if_pos full]
    · rintro opened rfl
      refine authorize_of_create_error ?_ ?_ refused
      · exact product
      · exact unexpired
  · have room : call.sessions.active connection.license.productId <
        connection.license.maxSessions.toNat := Nat.lt_of_not_le full
    rcases asks.opens with ⟨plaintext, -, isAuthorize⟩
    have fields := fields_of_decodeAuthorize isAuthorize
    have named : connection.license.productId ≠ [] :=
      product ▸ fields.2.2
    rw [asks.version] at fields
    rcases Option.ne_none_iff_exists'.mp asks.draws with ⟨id, drawn⟩
    have created := SessionManager.create_of_room room named peer drawn
      connection.license.features connection.license.expireTime call.nowMonotonicMs
    let opened : Connection :=
      { connection with handshake := (connection.handshake.open call.ssl frame).1 }
    let session : Session :=
      { id, productId := connection.license.productId, peerIdentity := connection.peerIdentity
        features := connection.license.features, expireTime := connection.license.expireTime
        lastHeartbeatMs := call.nowMonotonicMs }
    have granted : opened.authorize call.sessions call.draws request call.nowMonotonicMs
        call.nowUnixSeconds =
          { connection := { opened with session := some session, state := .active }
            sessions := { sessions := call.sessions.sessions.insert id session }
            response := grantedResult opened request session
            error := none
            created := some session } := by
      refine authorize_of_create_ok ?_ ?_ ?_
      · exact product
      · exact unexpired
      · exact created
    have encodable : ∃ encoded, encodeAuthResult fb (grantedResult opened request session) =
        .ok encoded := encodeAuthResult_granted fields.1 fields.2.1 features
    rcases encodable with ⟨encoded, encodes⟩
    rcases MessageKind.length_of_encode lawful .authResult encodes with ⟨present, short⟩
    rcases asks.seals encoded present (Nat.le_trans short (by decide)) with ⟨response, sealed⟩
    have responds := encryptedResponse_of_seal
      { opened with session := some session, state := .active } sealed
      { sessions := call.sessions.sessions.insert id session } false
    refine ⟨_, grantedResult opened request session, asks.handleAt_eq, ?_⟩
    rw [granted, answer_of_encode encodes, Option.isSome_none, responds]
    exact
      { sent := ⟨encoded, response, encodes, sealed, rfl⟩
        requestId := rfl
        version := rfl
        error := by
          unfold authorizationError
          rw [if_neg (not_not.mpr product), if_neg expired, if_neg full]
          rfl
        granted := fun _ => ⟨session, SessionManager.drawId_notMem drawn, rfl, rfl, rfl⟩
        denied := fun other => absurd rfl other }

/-! ## Acknowledgements -/

theorem seal_of_encryptedResponse {ssl : OpenSsl} {sender : Connection} {sessions : SessionManager}
    {encoded response : Bytes} {closeAfter : Bool}
    (responds : (sender.encryptedResponse ssl sessions encoded closeAfter).result.response =
      some response) : (sender.handshake.seal ssl encoded).2 = .ok response := by
  unfold Connection.encryptedResponse at responds
  split at responds
  · cases responds
  · rename_i handshake encrypted sealed
    cases responds
    exact congrArg Prod.snd sealed

theorem not_mem_closeSession {holder : Connection} {session : Session}
    (held : holder.session = some session) (sessions : SessionManager) :
    session.id ∉ (holder.closeSession sessions).2.sessions := by
  unfold Connection.closeSession
  rw [held]
  intro present
  exact (AList.mem_erase.mp present).1 rfl

/-- The answer is a valid acknowledgement before the license expires, or an
expired one that ends the session. -/
def Acknowledges (fb : Binding Envelope) (ssl : OpenSsl) (sender : ServerHandshake)
    (connection : Connection) (nowUnixSeconds : UInt64) (handled : Handled) (response : Bytes) :
    Prop :=
  ∃ (ack : HeartbeatAckMessage) (encoded : Bytes),
    encodeHeartbeatAck fb ack = .ok encoded ∧ (sender.seal ssl encoded).2 = .ok response ∧
    (ack.state = .valid ∧
        (connection.license.expireTime = 0 ∨ nowUnixSeconds < connection.license.expireTime) ∨
      ack.state = .expired ∧ handled.connection.state = .closed ∧
        handled.connection.session = none ∧
        ∀ session, connection.session = some session → session.id ∉ handled.sessions.sessions)

theorem acknowledges_of_acknowledge {ssl : OpenSsl} {sessions : SessionManager} {session : Session}
    {heartbeat : HeartbeatMessage} {nowUnixSeconds : UInt64} {handled : Handled} {response : Bytes}
    (handles : connection.acknowledge fb ssl sessions session heartbeat nowUnixSeconds = handled)
    (responds : handled.result.response = some response) :
    Acknowledges fb ssl connection.handshake connection nowUnixSeconds handled response := by
  unfold Connection.acknowledge at handles
  dsimp only at handles
  split at handles
  · subst handles
    cases responds
  rename_i encoded encodes
  cases expired : licenseExpired connection.license nowUnixSeconds with
  | true =>
      rw [expired] at handles encodes
      subst handles
      have sealed := seal_of_encryptedResponse responds
      have own := connection.closeSession_handshake sessions
      refine ⟨_, encoded, encodes, own ▸ sealed, .inr ⟨rfl, ?_⟩⟩
      rw [if_pos rfl]
      dsimp only
      rw [encryptedResponse_of_seal _ sealed]
      exact ⟨rfl, Connection.closeSession_session .., fun _ held => not_mem_closeSession held _⟩
  | false =>
      rw [expired] at handles encodes
      subst handles
      refine ⟨_, encoded, encodes, seal_of_encryptedResponse responds, .inl ⟨rfl, ?_⟩⟩
      have unexpired := of_decide_eq_false expired
      by_cases zero : connection.license.expireTime = 0
      · exact .inl zero
      · exact .inr (UInt64.not_le.mp fun reached => unexpired ⟨zero, reached⟩)

/-- Every answer of an active connection is an acknowledgement. -/
theorem acknowledges_of_active {handled : Handled} {response : Bytes}
    (active : connection.state = .active)
    (handles : connection.handleAt fb call frame = some handled)
    (responds : handled.result.response = some response) :
    Acknowledges fb call.ssl (connection.sender call.ssl frame) connection call.nowUnixSeconds
      handled response := by
  unfold Connection.handleAt Connection.handle at handles
  rw [active] at handles
  dsimp only at handles
  split at handles
  · cases handles
    cases responds
  rename_i handshake plaintext opened
  have sender : connection.sender call.ssl frame = handshake := congrArg Prod.fst opened
  rw [if_neg (nofun : ConnectionState.active ≠ .awaitingAuthorize)] at handles
  rcases Connection.handleActive_cases handles with
    ⟨error, rfl⟩ | ⟨request, session, later, -, -, -, -, -, acknowledged⟩ | ⟨close, -, -, rfl⟩
  · cases responds
  · rw [sender]
    have acknowledges := acknowledges_of_acknowledge acknowledged.symm responds
    exact acknowledges
  · cases responds

/-- The decisions of every connection that waits for a request, and the
acknowledgements of every active one. -/
theorem authorizationDecision (lawful : fb.Lawful fb envelopeIdentifier Envelope.contentSize) :
    (∀ {connection : Connection} {call : HandleCall} {frame : Bytes} {request : AuthorizeMessage},
      Asks fb connection call frame request →
      validFeatures connection.license.features = true → connection.peerIdentity ≠ [] →
      ∃ handled message, connection.handleAt fb call frame = some handled ∧
        Decides fb connection call frame request handled message) ∧
      ∀ {connection : Connection} {call : HandleCall} {frame response : Bytes} {handled : Handled},
        connection.state = .active → connection.handleAt fb call frame = some handled →
        handled.result.response = some response →
        Acknowledges fb call.ssl (connection.sender call.ssl frame) connection
          call.nowUnixSeconds handled response :=
  ⟨fun asks features peer => asks.decides lawful features peer, acknowledges_of_active⟩

end

open ServiceWorld in
/-- The request of an honest client is granted. -/
theorem authorizationDecision_honest :
    ∃ connection call frame request handled message,
      Asks referenceEnvelopes connection call frame request ∧
      connection.handleAt referenceEnvelopes call frame = some handled ∧
      Decides referenceEnvelopes connection call frame request handled message ∧
      message.error = .none := by
  rcases exists_reference_waiting with ⟨trace, handshake, client, keys, runs, paired, selected⟩
  rcases exists_reference_request selected with ⟨plaintext, encodes⟩
  rcases MessageKind.length_of_encode referenceEnvelopes_lawful .authorize encodes with ⟨-, short⟩
  have opened := ServerHandshake.open_honest paired.serverState paired.serverReader
    secondSequence_ne_max (Nat.le_trans short (by decide))
    (opensRecord_correct referenceSsl_correct _ _ (Nat.le_trans short (by decide)))
  let connection : Connection :=
    { Connection.construct referenceLicense referenceOptions with
      handshake
      state := .awaitingAuthorize }
  have asks : Asks referenceEnvelopes connection referenceCall
      (sealedFrame referenceSuite (recordKey keys.clientToService) 2 plaintext)
      (referenceRequest.message client.selectedVersion) :=
    { state := rfl
      opens := ⟨plaintext, congrArg Prod.snd opened,
        MessageKind.decode_encode referenceEnvelopes_lawful .authorize encodes⟩
      version := paired.version.symm
      seals := by
        intro encoded present fits
        let next : ServerHandshake := (handshake.open referenceSsl (sealedFrame referenceSuite
          (recordKey keys.clientToService) 2 plaintext)).1
        have state : next.state = .established := paired.serverState
        have writer : next.writer = some { key := recordKey keys.serviceToClient } :=
          paired.serverWriter
        have sealed := ServerHandshake.seal_honest referenceSsl_correct.toHonest state writer
          firstSequence_ne_max present fits
        exact ⟨_, congrArg Prod.snd sealed⟩
      draws := nofun }
  rcases (authorizationDecision referenceEnvelopes_lawful).1 asks referenceLicense_features
    referenceOptions_peerIdentity with ⟨handled, message, handles, decides⟩
  exact ⟨connection, referenceCall, _, _, handled, message, asks, handles, decides,
    decides.error⟩

end YoAuthorize.Service
