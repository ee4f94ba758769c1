import YoAuthorize.Sdk.Host

/-!
# The client and the service in lockstep

`Lockstep rounds` relates a client to the service behind its socket after a
number of heartbeats.  Four counters move together: the two record counters of
each side, the request id and the number of handled frames; and the session of
the manager carries the time of the last heartbeat.  `initialize` ends in
`Lockstep 0` (`initializeClient_lockstep`) and a heartbeat takes `Lockstep rounds` to
`Lockstep (rounds + 1)` (`heartbeatRound_lockstep`), as long as the license has not
expired and the sequence numbers have not run out.
-/

namespace YoAuthorize.Sdk

open Octets Crypto FlatBuffer Protocol Protocol.Schema
open YoAuthorize.Service (Connection ConnectionOptions HandleCall Handled wrapPlaintext
  unwrapPlaintext)

/-! ## One request -/

/-- The host after a turn whose answer the client has read. -/
def Host.settled (host : Host) (handled : Handled) : Host where
  connection := handled.connection
  sessions := handled.sessions
  handled := host.handled ++ [handled]

section

variable {fb : Binding Envelope} {turns : Nat → Turn} {suite : CryptoSuite} {keys : SessionKeys}
  {reads writes : Nat} {host : Host} {handled : Handled}

/-- The call of the next turn. -/
def Host.call (turns : Nat → Turn) (host : Host) : HandleCall :=
  (turns host.handled.length).call host.sessions

/-- The client reads what the turn has answered. -/
theorem readFrame_answered {frame payload : Bytes} {header : FrameHeader}
    (toClient : host.toClient = []) (response : handled.result.response = some frame)
    (decoded : decodeFrame frame = .ok (header, payload)) :
    readFrame (Host.transport fb turns) (host.answered [] handled) =
      (host.settled handled, .ok frame) := by
  have arrived : (host.answered [] handled).toClient = frame := by
    change host.toClient ++ handled.result.response.getD [] = frame
    rw [toClient, response]
    rfl
  rw [← arrived] at decoded
  rw [readFrame_transport decoded, arrived]
  rfl

theorem exchangeRecord_transport {sealing opening : OpenSsl} (seals : sealing.Correct suite)
    (opens : opening.Correct suite) (client : ClientHandshake) {plaintext encoded : Bytes}
    (toService : host.toService = []) (toClient : host.toClient = [])
    (running : host.connection.state ≠ .closed) (moreWrites : writes + 1 < sequenceCount)
    (moreReads : reads + 1 < sequenceCount) (fits : FitsRecord plaintext)
    (answerFits : FitsRecord encoded)
    (handles : host.connection.handleAt fb (host.call turns)
      (requestFrame suite keys writes plaintext) = some handled)
    (response : handled.result.response = some (responseFrame suite keys reads encoded)) :
    exchangeRecord (Host.transport fb turns) sealing opening (client.inSession keys writes reads)
        plaintext host =
      (host.settled handled, client.inSession keys (writes + 1) (reads + 1), .ok encoded) := by
  unfold exchangeRecord
  rw [client.seal_inSession seals moreWrites fits]
  dsimp only
  rw [writeAll_transport toService running (decodeFrame_requestFrame keys writes fits) handles]
  dsimp only
  rw [readFrame_answered toClient response (decodeFrame_responseFrame keys reads answerFits)]
  dsimp only
  rw [client.open_inSession opens moreReads answerFits]

end

/-! ## The relation -/

/-- A client and its service after a number of heartbeats in the session `keys`. -/
structure Lockstep (license : Core.LicenseSnapshot) (turns : Nat → Turn) (keys : SessionKeys)
    (initial : Core.SessionManager) (session : Core.Session) (rounds : Nat)
    (client : LicenseClient) (host : Host) : Prop where
  snapshot : client.snapshot =
    { state := .valid, features := license.features, expireTime := license.expireTime }
  thread : client.heartbeatThread = .waiting
  sessionId : client.sessionId = Service.protocolId session.id
  nextRequestId : client.nextRequestId = .ofNat (rounds + 3)
  hasTransport : client.hasTransport = true
  handshakes : ∃ (near : ClientHandshake) (far : ServerHandshake),
    client.handshake = some (near.inSession keys (rounds + 3) (rounds + 2)) ∧
    host.connection.handshake = far.inSession keys (rounds + 3) (rounds + 2) ∧
    far.selectedVersion = near.selectedVersion ∧ near.selectedVersion ≠ 0
  state : host.connection.state = .active
  licensed : host.connection.license = license
  holds : host.connection.session = some session
  features : session.features = license.features
  expireTime : session.expireTime = license.expireTime
  sessions : host.sessions.sessions = initial.sessions.insert session.id
    (renewed session (turns (rounds + 2)).nowMonotonicMs)
  toService : host.toService = []
  toClient : host.toClient = []
  handled : host.handled.length = rounds + 3

/-- The heartbeat that a client in lockstep sends next. -/
def Lockstep.heartbeat (near : ClientHandshake) (session : Core.Session) (rounds : Nat) :
    HeartbeatMessage where
  requestId := .ofNat (rounds + 3)
  protocolVersion := near.selectedVersion
  sessionId := Service.protocolId session.id

/-- A heartbeat and the acknowledgement that was accepted for it. -/
def Answered (fb : Binding Envelope) (number : Nat) (state : AuthorizationState)
    (exchanged : HeartbeatMessage × Option Bytes) : Prop :=
  exchanged.1.requestId = .ofNat number ∧ ∃ opened ack, exchanged.2 = some opened ∧
    decodeHeartbeatAck fb opened = some (.ok ack) ∧ ack.requestId = exchanged.1.requestId ∧
    ack.state = state

section

variable {fb : Binding Envelope} {turns : Nat → Turn} {suite : CryptoSuite} {keys : SessionKeys}
  {license : Core.LicenseSnapshot} {initial : Core.SessionManager} {session : Core.Session}
  {rounds : Nat} {client : LicenseClient} {host : Host} {calls : LicenseClient.RoundCalls}

structure RoundCallsCorrect (calls : LicenseClient.RoundCalls) (suite : CryptoSuite) : Prop where
  sealing : calls.sealing.Correct suite
  opening : calls.opening.Correct suite

theorem Lockstep.call_eq
    (lockstep : Lockstep license turns keys initial session rounds client host) :
    host.call turns = (turns (rounds + 3)).call host.sessions := by
  unfold Host.call
  rw [lockstep.handled]

theorem requestId_ne_zero {number : Nat} (positive : 0 < number) (bound : number < sequenceCount) :
    UInt64.ofNat number ≠ 0 := by
  intro zero
  have same := congrArg UInt64.toNat zero
  rw [UInt64.toNat_ofNat_of_lt' bound] at same
  change number = 0 at same
  omega

/-- The heartbeat of every round before the last sequence number can be encoded. -/
theorem exists_encodeHeartbeat {version : UInt16} (selected : version ≠ 0)
    (bound : rounds + 3 < sequenceCount) (sessionId : SessionId) :
    ∃ plaintext, encodeHeartbeat fb
      { requestId := .ofNat (rounds + 3), protocolVersion := version, sessionId } =
        .ok plaintext := by
  have requestId : UInt64.ofNat (rounds + 3) ≠ 0 := requestId_ne_zero (by omega) bound
  exact ⟨_, if_neg (not_or.mpr ⟨requestId, selected⟩)⟩

/-- The round of a heartbeat whose answer the service gives as `ack`. -/
theorem heartbeatRound_answered (turns : Nat → Turn)
    (lawful : fb.Lawful fb envelopeIdentifier Envelope.contentSize)
    (correct : RoundCallsCorrect calls suite) {near : ClientHandshake}
    (handshake : client.handshake = some (near.inSession keys (rounds + 3) (rounds + 2)))
    (nextRequestId : client.nextRequestId = .ofNat (rounds + 3))
    (sessionId : client.sessionId = Service.protocolId session.id)
    (version : near.selectedVersion ≠ 0) (bound : rounds + 4 < sequenceCount)
    (toService : host.toService = []) (toClient : host.toClient = [])
    (running : host.connection.state ≠ .closed) :
    ∃ plaintext, encodeHeartbeat fb (Lockstep.heartbeat near session rounds) = .ok plaintext ∧
      ∀ handled ack encoded,
        host.connection.handleAt fb (host.call turns)
          (requestFrame suite keys (rounds + 3) plaintext) = some handled →
        handled.result.response = some (responseFrame suite keys (rounds + 2) encoded) →
        encodeHeartbeatAck fb ack = .ok encoded →
        ack.requestId = .ofNat (rounds + 3) → ack.protocolVersion = near.selectedVersion →
        client.heartbeatRound fb (Host.transport fb turns) calls host =
          some
            { client :=
                { client with
                  nextRequestId := .ofNat (rounds + 4)
                  handshake := some (near.inSession keys (rounds + 4) (rounds + 3)) }.acknowledged
                  ack
              world := host.settled handled
              sent := Lockstep.heartbeat near session rounds
              opened := some encoded } := by
  have encodable : ∃ plaintext,
      encodeHeartbeat fb (Lockstep.heartbeat near session rounds) = .ok plaintext :=
    exists_encodeHeartbeat version (by omega) (Service.protocolId session.id)
  obtain ⟨plaintext, encodes⟩ := encodable
  refine ⟨plaintext, encodes, ?_⟩
  intro handled ack encoded handles response encodesAck sameId sameVersion
  have decoded : decodeHeartbeatAck fb encoded = some (.ok ack) :=
    MessageKind.decode_encode lawful .heartbeatAck encodesAck
  have exchanged := exchangeRecord_transport correct.sealing correct.opening near toService toClient
    running bound (by omega) (fits_of_encode lawful .heartbeat encodes)
    (fits_of_encode lawful .heartbeatAck encodesAck) handles response
  have nextId : UInt64.ofNat (rounds + 3) + 1 = .ofNat (rounds + 4) :=
    (UInt64.ofNat_add (rounds + 3) 1).symm
  have sent : HeartbeatMessage.mk (.ofNat (rounds + 3))
      (near.inSession keys (rounds + 3) (rounds + 2)).selectedVersion client.sessionId =
        Lockstep.heartbeat near session rounds := by
    rw [sessionId]
    rfl
  have checks : ¬ (ack.requestId ≠ .ofNat (rounds + 3) ∨ ack.protocolVersion ≠
      (near.inSession keys (rounds + 3 + 1) (rounds + 2 + 1)).selectedVersion) :=
    not_or.mpr ⟨not_not.mpr sameId, not_not.mpr sameVersion⟩
  unfold LicenseClient.heartbeatRound
  rw [handshake]
  dsimp only
  rw [← sent] at encodes ⊢
  rw [nextRequestId, encodes]
  dsimp only
  rw [exchanged]
  dsimp only
  rw [decoded]
  dsimp only
  rw [if_neg checks, nextId]

/-- The service side of a heartbeat up to its acknowledgement. -/
theorem Lockstep.round (lawful : fb.Lawful fb envelopeIdentifier Envelope.contentSize)
    (correct : RoundCallsCorrect calls suite) (turn : (turns (rounds + 3)).ssl.Correct suite)
    (bound : rounds + 4 < sequenceCount)
    (lockstep : Lockstep license turns keys initial session rounds client host) :
    ∃ (near : ClientHandshake) (far : ServerHandshake),
      far.selectedVersion = near.selectedVersion ∧ near.selectedVersion ≠ 0 ∧
      ∀ handled ack encoded,
        { host.connection with
          handshake := far.inSession keys (rounds + 4) (rounds + 2) }.acknowledge fb
            (turns (rounds + 3)).ssl
            { sessions := initial.sessions.insert session.id
                (renewed session (turns (rounds + 3)).nowMonotonicMs) }
            session (heartbeat near session rounds) (turns (rounds + 3)).nowUnixSeconds =
          handled →
        handled.result.response = some (responseFrame suite keys (rounds + 2) encoded) →
        encodeHeartbeatAck fb ack = .ok encoded →
        ack.requestId = .ofNat (rounds + 3) → ack.protocolVersion = near.selectedVersion →
        client.heartbeatRound fb (Host.transport fb turns) calls host =
          some
            { client :=
                { client with
                  nextRequestId := .ofNat (rounds + 4)
                  handshake := some (near.inSession keys (rounds + 4) (rounds + 3)) }.acknowledged
                  ack
              world := host.settled handled
              sent := heartbeat near session rounds
              opened := some encoded } := by
  obtain ⟨near, far, clientSide, serviceSide, sameVersion, version⟩ := lockstep.handshakes
  have running : host.connection.state ≠ .closed := by
    rw [lockstep.state]
    decide
  obtain ⟨plaintext, encodes, round⟩ := heartbeatRound_answered turns lawful correct clientSide
    lockstep.nextRequestId lockstep.sessionId version bound lockstep.toService lockstep.toClient
    running
  have present : (host.call turns).sessions.sessions.lookup session.id =
      some (renewed session (turns (rounds + 2)).nowMonotonicMs) := by
    change host.sessions.sessions.lookup session.id = _
    rw [lockstep.sessions, AList.lookup_insert]
  have turnCorrect : (host.call turns).ssl.Correct suite := by
    rw [lockstep.call_eq]
    exact turn
  have handles := handleAt_heartbeat_inSession lawful turnCorrect lockstep.state serviceSide
    lockstep.holds (by omega) encodes sameVersion.symm rfl present
  refine ⟨near, far, sameVersion, version, ?_⟩
  intro handled ack encoded acknowledges response encodesAck sameId ackVersion
  refine round handled ack encoded ?_ response encodesAck sameId ackVersion
  have sessions : host.sessions.sessions.insert session.id
      (renewed session (turns (rounds + 3)).nowMonotonicMs) =
        initial.sessions.insert session.id
          (renewed session (turns (rounds + 3)).nowMonotonicMs) := by
    rw [lockstep.sessions, AList.insert_insert]
  rw [handles, ← acknowledges, lockstep.call_eq, ← sessions]
  rfl

/-- Closing the session that a grant added restores the manager. -/
theorem close_insert {manager : Core.SessionManager} {id : Core.SessionId}
    (new : id ∉ manager.sessions) (session : Core.Session) :
    Core.SessionManager.close { sessions := manager.sessions.insert id session } id = manager := by
  refine congrArg Core.SessionManager.mk (AList.ext ?_)
  change (manager.sessions.insert id session).entries.kerase id = manager.sessions.entries
  rw [AList.entries_insert_of_notMem new]
  exact List.kerase_cons_eq rfl

theorem acknowledged_valid (client : LicenseClient) {ack : HeartbeatAckMessage}
    (valid : ack.state = .valid) :
    client.acknowledged ack =
      { client with
        snapshot := { state := .valid, features := ack.features, expireTime := ack.expireTime }
        heartbeatThread := .waiting } := by
  unfold LicenseClient.acknowledged
  rw [valid]
  rfl

theorem acknowledged_expired (client : LicenseClient) {ack : HeartbeatAckMessage}
    (expired : ack.state = .expired) :
    client.acknowledged ack =
      { client with
        snapshot := { state := .expired, features := [], expireTime := ack.expireTime }
        heartbeatThread := .returned } := by
  unfold LicenseClient.acknowledged
  rw [expired]
  rfl

/-- A heartbeat on an unexpired license. -/
theorem heartbeatRound_lockstep (lawful : fb.Lawful fb envelopeIdentifier Envelope.contentSize)
    (correct : RoundCallsCorrect calls suite) (turn : (turns (rounds + 3)).ssl.Correct suite)
    (features : validFeatures license.features = true) (bound : rounds + 4 < sequenceCount)
    (lockstep : Lockstep license turns keys initial session rounds client host)
    (unexpired : Service.licenseExpired license (turns (rounds + 3)).nowUnixSeconds = false) :
    ∃ beaten, client.heartbeatRound fb (Host.transport fb turns) calls host = some beaten ∧
      Lockstep license turns keys initial session (rounds + 1) beaten.client beaten.world ∧
      Answered fb (rounds + 3) .valid (beaten.sent, beaten.opened) := by
  obtain ⟨near, far, sameVersion, version, round⟩ := lockstep.round lawful correct turn bound
  let opened : Connection :=
    { host.connection with handshake := far.inSession keys (rounds + 4) (rounds + 2) }
  have requestId : UInt64.ofNat (rounds + 3) ≠ 0 := requestId_ne_zero (by omega) (by omega)
  have acknowledges := @acknowledge_inSession fb suite opened far keys (rounds + 4) (rounds + 2)
    lawful _ turn
    { sessions := initial.sessions.insert session.id
        (renewed session (turns (rounds + 3)).nowMonotonicMs) }
    session (Lockstep.heartbeat near session rounds) (turns (rounds + 3)).nowUnixSeconds rfl
    (by omega) requestId (sameVersion ▸ version) (lockstep.features ▸ features)
    (lockstep.licensed ▸ unexpired)
  obtain ⟨encoded, encodes, acknowledges⟩ := acknowledges
  refine ⟨_, round _ _ encoded acknowledges rfl encodes rfl sameVersion, ?_, ?_⟩
  · rw [acknowledged_valid _ rfl]
    refine
      { snapshot := ?_
        thread := rfl
        sessionId := lockstep.sessionId
        nextRequestId := rfl
        hasTransport := lockstep.hasTransport
        handshakes := ⟨near, far, rfl, rfl, sameVersion, version⟩
        state := lockstep.state
        licensed := lockstep.licensed
        holds := lockstep.holds
        features := lockstep.features
        expireTime := lockstep.expireTime
        sessions := rfl
        toService := rfl
        toClient := rfl
        handled := ?_ }
    · change LicenseSnapshot.mk .valid session.features session.expireTime = _
      rw [lockstep.features, lockstep.expireTime]
    · change (host.handled ++ [_]).length = _
      rw [List.length_append, lockstep.handled]
      rfl
  · exact ⟨rfl, encoded, _, rfl, MessageKind.decode_encode lawful .heartbeatAck encodes, rfl, rfl⟩

/-- The heartbeat that finds the license expired ends the session on both sides. -/
theorem heartbeatRound_expired (lawful : fb.Lawful fb envelopeIdentifier Envelope.contentSize)
    (correct : RoundCallsCorrect calls suite) (turn : (turns (rounds + 3)).ssl.Correct suite)
    (features : validFeatures license.features = true) (bound : rounds + 4 < sequenceCount)
    (lockstep : Lockstep license turns keys initial session rounds client host)
    (new : session.id ∉ initial.sessions)
    (expired : Service.licenseExpired license (turns (rounds + 3)).nowUnixSeconds = true) :
    ∃ beaten, client.heartbeatRound fb (Host.transport fb turns) calls host = some beaten ∧
      beaten.client.snapshot.state = .expired ∧ beaten.client.snapshot.features = [] ∧
      beaten.world.connection.state = .closed ∧ beaten.world.connection.session = none ∧
      beaten.world.sessions = initial ∧
      Answered fb (rounds + 3) .expired (beaten.sent, beaten.opened) := by
  obtain ⟨near, far, sameVersion, version, round⟩ := lockstep.round lawful correct turn bound
  let opened : Connection :=
    { host.connection with handshake := far.inSession keys (rounds + 4) (rounds + 2) }
  have requestId : UInt64.ofNat (rounds + 3) ≠ 0 := requestId_ne_zero (by omega) (by omega)
  have acknowledges := @acknowledge_expired_inSession fb suite opened far keys (rounds + 4)
    (rounds + 2) lawful _ turn
    { sessions := initial.sessions.insert session.id
        (renewed session (turns (rounds + 3)).nowMonotonicMs) }
    session (Lockstep.heartbeat near session rounds) (turns (rounds + 3)).nowUnixSeconds rfl
    lockstep.holds (by omega) requestId (sameVersion ▸ version) (lockstep.features ▸ features)
    (lockstep.licensed ▸ expired)
  obtain ⟨encoded, encodes, acknowledges⟩ := acknowledges
  refine ⟨_, round _ _ encoded acknowledges rfl encodes rfl sameVersion, ?_, ?_, rfl, rfl, ?_, ?_⟩
  · rw [acknowledged_expired _ rfl]
  · rw [acknowledged_expired _ rfl]
  · exact close_insert new _
  · exact ⟨rfl, encoded, _, rfl, MessageKind.decode_encode lawful .heartbeatAck encodes, rfl, rfl⟩

theorem sendCloseSession_established {World : Type} {transport : Transport World}
    {handshake next : ClientHandshake} {plaintext frame : Bytes} {ssl : OpenSsl} {world : World}
    (present : client.hasTransport = true) (held : client.handshake = some handshake)
    (established : handshake.state = .established)
    (encodes : encodeCloseSession fb
      { requestId := client.nextRequestId, protocolVersion := handshake.selectedVersion } =
        .ok plaintext)
    (seals : handshake.seal ssl plaintext = (next, .ok frame)) :
    client.sendCloseSession fb transport ssl world =
      ({ client with nextRequestId := client.nextRequestId + 1 },
        (transport.writeAll frame world).1) := by
  unfold LicenseClient.sendCloseSession
  split
  · rename_i _ same
    cases held.symm.trans same
    rw [if_neg (not_not.mpr established)]
    dsimp only
    rw [encodes]
    dsimp only
    rw [seals]
  · rename_i absent
    exact absurd held (absent handshake present)

/-- A `shutdown` closes the connection without an error. -/
theorem finishShutdown_lockstep (lawful : fb.Lawful fb envelopeIdentifier Envelope.contentSize)
    {ssl : OpenSsl} (correct : ssl.Correct suite) (turn : (turns (rounds + 3)).ssl.Correct suite)
    (bound : rounds + 4 < sequenceCount)
    (lockstep : Lockstep license turns keys initial session rounds client host)
    (new : session.id ∉ initial.sessions) :
    ∃ last,
      (client.requestStop.finishShutdown fb (Host.transport fb turns) ssl host).2 =
        host.settled last ∧
      last.result = { closed := true } ∧ last.connection.state = .closed ∧
      last.connection.session = none ∧ last.sessions = initial := by
  obtain ⟨near, far, clientSide, serviceSide, sameVersion, version⟩ := lockstep.handshakes
  have running : host.connection.state ≠ .closed := by
    rw [lockstep.state]
    decide
  have requestId : UInt64.ofNat (rounds + 3) ≠ 0 := requestId_ne_zero (by omega) (by omega)
  let close : CloseSessionMessage :=
    { requestId := .ofNat (rounds + 3), protocolVersion := near.selectedVersion }
  have encodable : ∃ plaintext, encodeCloseSession fb close = .ok plaintext :=
    ⟨_, if_neg (not_or.mpr ⟨requestId, version⟩)⟩
  obtain ⟨plaintext, encodes⟩ := encodable
  have fits := fits_of_encode lawful .closeSession encodes
  have turnCorrect : (host.call turns).ssl.Correct suite := by
    rw [lockstep.call_eq]
    exact turn
  let last : Handled :=
    { connection :=
        { host.connection with
          handshake := far.inSession keys (rounds + 4) (rounds + 2)
          session := none
          state := .closed }
      sessions := (host.call turns).sessions.close session.id
      result := { closed := true } }
  have handles : host.connection.handleAt fb (host.call turns)
      (requestFrame suite keys (rounds + 3) plaintext) = some last :=
    handleAt_close_inSession lawful turnCorrect lockstep.state serviceSide lockstep.holds bound
      encodes sameVersion.symm
  have written := writeAll_transport lockstep.toService running
    (decodeFrame_requestFrame keys (rounds + 3) fits) handles
  have encodesHere : encodeCloseSession fb
      { requestId := client.requestStop.nextRequestId
        protocolVersion := (near.inSession keys (rounds + 3) (rounds + 2)).selectedVersion } =
        .ok plaintext := by
    change encodeCloseSession fb ⟨client.nextRequestId, near.selectedVersion⟩ = _
    rw [lockstep.nextRequestId]
    exact encodes
  have sends := @sendCloseSession_established fb client.requestStop Host (Host.transport fb turns)
    _ _ _ _ ssl host lockstep.hasTransport clientSide rfl encodesHere
    (near.seal_inSession correct bound fits)
  have settled : host.answered [] last = host.settled last := by
    unfold Host.answered Host.settled
    rw [lockstep.toClient]
    rfl
  have hangsUp : client.requestStop.hasTransport = true := lockstep.hasTransport
  refine ⟨last, ?_, rfl, rfl, rfl, ?_⟩
  · unfold LicenseClient.finishShutdown
    rw [sends, written, settled]
    dsimp only
    unfold LicenseClient.disconnect
    dsimp only
    rw [if_pos hangsUp, close_transport rfl]
  · have manager : host.sessions =
        { sessions := initial.sessions.insert session.id
            (renewed session (turns (rounds + 2)).nowMonotonicMs) } :=
      congrArg Core.SessionManager.mk lockstep.sessions
    change Core.SessionManager.close host.sessions session.id = initial
    rw [manager]
    exact close_insert new _

end

/-! ## Initialization -/

/-- A client and a service that fit each other and the wire.  The intervals are
checked when the service loads its configuration. -/
structure Setting (suite : CryptoSuite) (license : Core.LicenseSnapshot)
    (options : ConnectionOptions) (config : ClientConfig) : Prop where
  complete : config.incomplete = false
  product : config.productId = license.productId
  productSize : license.productId.length ≤ kMaxProductIdSize
  features : validFeatures license.features = true
  keyId : options.serviceKeyId ≠ []
  keyIdSize : options.serviceKeyId.length ≤ kMaxKeyIdSize
  trusted : config.trustedServiceKeys.lookup options.serviceKeyId =
    some (suite.publicKey options.identityPrivateKey)
  peer : options.peerIdentity ≠ []
  interval : 0 < options.heartbeatIntervalMs
  timeout : options.heartbeatIntervalMs < options.heartbeatTimeoutMs

structure InitializeCallsCorrect (calls : LicenseClient.InitializeCalls) (suite : CryptoSuite) :
    Prop where
  start : calls.start.Correct suite
  serverHello : calls.serverHello.Correct suite
  sealing : calls.sealing.Correct suite
  opening : calls.opening.Correct suite
  processId : calls.processId ≠ 0

/-- The service before the client connects. -/
def Host.fresh (license : Core.LicenseSnapshot) (options : ConnectionOptions)
    (sessions : Core.SessionManager) : Host where
  connection := .construct license options
  sessions := sessions

/-- What the service has after the `ClientFinished`, which it does not answer. -/
def finished (license : Core.LicenseSnapshot) (options : ConnectionOptions)
    (sessions : Core.SessionManager) (far : ServerHandshake) (keys : SessionKeys) : Handled where
  connection :=
    { Connection.construct license options with
      handshake := far.inSession keys 2 1
      state := .awaitingAuthorize }
  sessions := sessions
  result := {}

theorem sdkHandshake_ready (config : ClientConfig) :
    (LicenseClient.sdkHandshake config).Ready where
  initial := rfl
  requestId := (by decide : (1 : UInt64) ≠ 0)
  minVersion := (by decide : (1 : UInt16) ≠ 0)
  range := UInt16.le_refl 1
  sdkVersion := (by decide : ofAscii "yoauthorize-cpp/0.1" ≠ [])
  sdkVersionSize := (by decide : (ofAscii "yoauthorize-cpp/0.1").length ≤ kMaxSdkVersionSize)

section

variable {fb : Binding Envelope} {turns : Nat → Turn} {suite : CryptoSuite}
  {license : Core.LicenseSnapshot} {options : ConnectionOptions} {config : ClientConfig}
  {calls : LicenseClient.InitializeCalls} {initial : Core.SessionManager}

theorem decodeFrame_of_unwrapPlaintext {frame : Bytes} (present : unwrapPlaintext frame ≠ []) :
    ∃ header payload, decodeFrame frame = .ok (header, payload) := by
  unfold Service.unwrapPlaintext at present
  split at present
  · exact absurd rfl present
  · rename_i header payload decoded
    exact ⟨header, payload, decoded⟩

/-- The answer that a client accepts is to its own hello. -/
theorem requestId_of_handleServerHello {start serverHello : OpenSsl}
    {client sent established : ClientHandshake} {hello message finished : Bytes}
    (starts : client.start fb start = (sent, .ok hello))
    (accepts : sent.handleServerHello fb serverHello message = some (established, .ok finished)) :
    ∃ server, decodeServerHello fb message = some (.ok server) ∧
      server.requestId = client.requestId := by
  rcases ClientHandshake.start_cases fb start client with
    ⟨before, error, failed⟩ | ⟨nonce, keyPair, encoded, -, -, began⟩
  · rw [failed] at starts
    cases starts
  rw [began] at starts
  cases starts
  rcases ClientHandshake.handleServerHello_cases fb serverHello _ message with
    crashed | ⟨before, error, failed⟩ | ⟨accepted, _, _, accept, -, -, -⟩
  · rw [crashed] at accepts
    cases accepts
  · rw [failed] at accepts
    cases accepts
  · obtain ⟨-, decoded, checked⟩ := ClientHandshake.accepts_of_accept accept
    exact ⟨accepted.server, decoded, checked.requestId⟩

/-- An empty message is no `ServerHello`. -/
theorem ne_nil_of_decodeServerHello {message : Bytes} {server : ServerHelloMessage}
    (decoded : decodeServerHello fb message = some (.ok server)) : message ≠ [] := by
  rintro rfl
  cases decoded

theorem inSession_of_paired {client : ClientHandshake} {server : ServerHandshake}
    {keys : SessionKeys} (paired : Service.Paired client server keys) :
    client = client.inSession keys 2 1 ∧ server = server.inSession keys 2 1 := by
  constructor
  · unfold ClientHandshake.inSession
    rw [← paired.clientState]
    have writer : some { key := recordKey keys.clientToService, nextSequence := .ofNat 2 } =
        client.writer := paired.clientWriter.symm
    have reader : some { key := recordKey keys.serviceToClient, nextSequence := .ofNat 1 } =
        client.reader := paired.clientReader.symm
    rw [writer, reader]
  · unfold ServerHandshake.inSession
    rw [← paired.serverState]
    have reader : some { key := recordKey keys.clientToService, nextSequence := .ofNat 2 } =
        server.reader := paired.serverReader.symm
    have writer : some { key := recordKey keys.serviceToClient, nextSequence := .ofNat 1 } =
        server.writer := paired.serverWriter.symm
    rw [reader, writer]

/-- The handshake of the SDK with the service. -/
theorem establish_transport (lawful : fb.Lawful fb envelopeIdentifier Envelope.contentSize)
    (setting : Setting suite license options config) (correct : InitializeCallsCorrect calls suite)
    (turn : ∀ k, (turns k).ssl.Correct suite) (initial : Core.SessionManager) :
    ∃ near far keys greeted serverHello server,
      LicenseClient.establish fb (Host.transport fb turns) calls (LicenseClient.sdkHandshake config)
          (.fresh license options initial) =
        some (((Host.fresh license options initial).settled greeted).settled
            (finished license options initial far keys),
          .ok (ClientHandshake.inSession near keys 2 1)) ∧
      greeted.result.response = some serverHello ∧
      decodeServerHello fb (unwrapPlaintext serverHello) = some (.ok server) ∧
      server.requestId = 1 ∧ far.selectedVersion = near.selectedVersion ∧
        near.selectedVersion ≠ 0 := by
  let exchange : Service.ExchangeCalls :=
    { start := calls.start
      hello := (turns 0).call initial
      serverHello := calls.serverHello
      finished := (turns 1).call initial
      sealing := calls.sealing
      authorize := (turns 2).call initial
      opening := calls.opening }
  have honest : exchange.Correct suite :=
    ⟨correct.start, turn 0, correct.serverHello, turn 1, correct.sealing, turn 2, correct.opening⟩
  rcases Service.handshake_honest lawful honest (sdkHandshake_ready config)
    (rfl : (Connection.construct license options).state = .awaitingHello) rfl setting.keyId
    setting.keyIdSize setting.trusted (by decide : max (1 : UInt16) 1 ≤ min 1 1)
    (by decide : min (1 : UInt16) 1 ≠ 0) with
    ⟨sent, hello, awaiting, serverHello, established, record, handshake, keys, starts, greets,
      accepts, finishes, paired, version⟩
  obtain ⟨server, decoded, requestId⟩ := requestId_of_handleServerHello starts accepts
  obtain ⟨nearSide, farSide⟩ := inSession_of_paired paired
  have present := ne_nil_of_decodeServerHello decoded
  obtain ⟨-, _, _, helloFrame⟩ := decodeFrame_of_handleAt greets rfl
  obtain ⟨running, _, _, finishedFrame⟩ := decodeFrame_of_handleAt finishes rfl
  obtain ⟨_, _, serverFrame⟩ := decodeFrame_of_unwrapPlaintext present
  let host : Host := .fresh license options initial
  let greeted : Handled :=
    { connection := awaiting, sessions := initial
      result := { response := some (wrapPlaintext serverHello) } }
  refine ⟨established, handshake, keys, greeted, wrapPlaintext serverHello, server, ?_, rfl,
    decoded, requestId, paired.version, version⟩
  have finishesHere : awaiting.handleAt fb ((turns 1).call initial) record =
      some (finished license options initial handshake keys) := by
    rw [finishes]
    unfold finished
    rw [← farSide]
    rfl
  have writesHello : (Host.transport fb turns).writeAll (wrapPlaintext hello) host =
      (host.answered [] greeted, true) := writeAll_transport rfl nofun helloFrame greets
  have readsHello := @readFrame_answered fb turns host greeted _ _ _ rfl rfl serverFrame
  have writesFinished := @writeAll_transport fb turns (host.settled greeted) _ _ _ _ rfl running
    finishedFrame finishesHere
  unfold LicenseClient.establish
  rw [starts]
  dsimp only
  rw [writesHello]
  dsimp only
  rw [readsHello]
  dsimp only
  rw [if_neg present, accepts]
  dsimp only
  rw [writesFinished, ← nearSide]
  rfl

/-- The session that the service makes for the client. -/
def sdkSession (license : Core.LicenseSnapshot) (options : ConnectionOptions) (turns : Nat → Turn)
    (id : Core.SessionId) : Core.Session where
  id := id
  productId := license.productId
  peerIdentity := options.peerIdentity
  features := license.features
  expireTime := license.expireTime
  lastHeartbeatMs := (turns 2).nowMonotonicMs

theorem not_denies {handshake : ClientHandshake} {response : AuthResultMessage}
    (error : response.error = .none) (requestId : response.requestId = 2)
    (version : response.protocolVersion = handshake.selectedVersion)
    (session : response.sessionId ≠ none) (interval : 0 < response.heartbeatIntervalMs)
    (timeout : response.heartbeatIntervalMs < response.heartbeatTimeoutMs) :
    LicenseClient.denies handshake response = false := by
  rw [UInt32.lt_iff_toNat_lt] at interval timeout
  refine decide_eq_false ?_
  simp only [not_or, not_not]
  refine ⟨error, requestId, version, session, ?_, ?_, ?_⟩
  · intro zero
    rw [zero] at interval
    exact Nat.lt_irrefl _ interval
  · intro zero
    rw [zero] at timeout
    exact Nat.not_lt_zero _ timeout
  · rw [ge_iff_le, UInt32.le_iff_toNat_le]
    omega

theorem productId_of_setting (setting : Setting suite license options config) :
    license.productId ≠ [] := by
  intro empty
  have checks := of_decide_eq_false setting.complete
  rw [setting.product, empty] at checks
  exact checks (.inl rfl)

/-- The client is granted a session and starts in lockstep with the service. -/
theorem initializeClient_lockstep
    (lawful : fb.Lawful fb envelopeIdentifier Envelope.contentSize)
    (setting : Setting suite license options config) (correct : InitializeCallsCorrect calls suite)
    (turn : ∀ k, (turns k).ssl.Correct suite)
    (unexpired : Service.licenseExpired license (turns 2).nowUnixSeconds = false)
    (free : initial.active license.productId < license.maxSessions.toNat) {id : Core.SessionId}
    (drawn : Core.SessionManager.drawId initial.sessions (turns 2).draws = some id) :
    ∃ keys initialized opened response,
      LicenseClient.initializeClient fb (Host.transport fb turns) calls config {}
        (.fresh license options initial) = some initialized ∧
      initialized.status = {} ∧ initialized.opened = some opened ∧
      decodeAuthResult fb opened = some (.ok response) ∧ response.requestId = 2 ∧
      (response.heartbeatIntervalMs = options.heartbeatIntervalMs ∧
        response.heartbeatTimeoutMs = options.heartbeatTimeoutMs ∧
        initialized.client.heartbeatIntervalMs = response.heartbeatIntervalMs) ∧
      (∃ greeted serverHello server, initialized.world.handled.head? = some greeted ∧
        greeted.result.response = some serverHello ∧
        decodeServerHello fb (unwrapPlaintext serverHello) = some (.ok server) ∧
        server.requestId = 1) ∧
      Lockstep license turns keys initial (sdkSession license options turns id) 0
        initialized.client initialized.world := by
  obtain ⟨near, far, keys, greeted, serverHello, server, establishes, greets, decodes, serverId,
    sameVersion, version⟩ := establish_transport lawful setting correct turn initial
  let host : Host := ((Host.fresh license options initial).settled greeted).settled
    (finished license options initial far keys)
  let request : AuthorizeMessage :=
    { requestId := 2
      protocolVersion := near.selectedVersion
      productId := config.productId
      processId := calls.processId }
  have encodable : ∃ plaintext, encodeAuthorize fb request = .ok plaintext := by
    refine ⟨_, if_neg ?_⟩
    simp only [not_or]
    refine ⟨(by decide : (2 : UInt64) ≠ 0), version, ?_, ?_, correct.processId⟩
    · change config.productId ≠ []
      rw [setting.product]
      exact productId_of_setting setting
    · change ¬ config.productId.length > kMaxProductIdSize
      rw [setting.product]
      exact Nat.not_lt.mpr setting.productSize
  obtain ⟨plaintext, encodes⟩ := encodable
  have grantable : Service.Grantable host.connection (host.call turns) request :=
    ⟨setting.product, unexpired, free, Option.ne_none_iff_exists'.mpr ⟨id, drawn⟩,
      productId_of_setting setting, setting.peer⟩
  obtain ⟨drawnId, encoded, draw, encodesResult, handles⟩ := handleAt_authorize_inSession lawful
    (turn 2 : (host.call turns).ssl.Correct suite) rfl (rfl : host.connection.handshake = _)
    (by decide) (by decide) encodes sameVersion.symm grantable setting.features
  cases drawn.symm.trans draw
  let session := grantedSession host.connection (host.call turns) id
  let response := Service.grantedResult host.connection request session
  let handled : Handled :=
    { connection :=
        { host.connection with
          handshake := far.inSession keys 3 2
          session := some session
          state := .active }
      sessions := { sessions := initial.sessions.insert id session }
      result := { response := some (responseFrame suite keys 1 encoded) }
      created := some session }
  have decoded : decodeAuthResult fb encoded = some (.ok response) :=
    MessageKind.decode_encode lawful .authResult encodesResult
  have exchanged := @exchangeRecord_transport fb turns suite keys 1 2 host handled _ _
    correct.sealing correct.opening near _ _ rfl rfl nofun (by decide) (by decide)
    (fits_of_encode lawful .authorize encodes) (fits_of_encode lawful .authResult encodesResult)
    handles rfl
  have granted : LicenseClient.denies (near.inSession keys 3 2) response = false :=
    not_denies rfl rfl sameVersion nofun setting.interval setting.timeout
  have connects : (Host.transport fb turns).connect (.fresh license options initial) =
      (.fresh license options initial, true) := rfl
  have encodesHere : encodeAuthorize fb
      { requestId := 2
        protocolVersion := (near.inSession keys 2 1).selectedVersion
        productId := config.productId
        processId := calls.processId } = .ok plaintext := encodes
  let connecting : LicenseClient := { snapshot := { state := .connecting }, hasTransport := true }
  refine ⟨keys,
    { client := connecting.begin config (near.inSession keys 3 2) response (Service.protocolId id)
      world := host.settled handled
      status := {}
      opened := some encoded }, encoded, response, ?_, rfl, rfl, decoded, rfl, ⟨rfl, rfl, rfl⟩,
    ⟨greeted, serverHello, server, rfl, greets, decodes, serverId⟩, ?_⟩
  · unfold LicenseClient.initializeClient
    rw [if_neg (not_not.mpr rfl), if_neg (by rw [setting.complete]; decide)]
    dsimp only
    rw [connects]
    dsimp only
    rw [establishes]
    dsimp only
    unfold LicenseClient.requestAuthorization
    rw [encodesHere]
    dsimp only
    rw [exchanged]
    dsimp only
    rw [decoded]
    dsimp only
    rw [granted]
    rfl
  · exact
      { snapshot := rfl
        thread := rfl
        sessionId := rfl
        nextRequestId := rfl
        hasTransport := rfl
        handshakes := ⟨near, far, rfl, rfl, sameVersion, version⟩
        state := rfl
        licensed := rfl
        holds := rfl
        features := rfl
        expireTime := rfl
        sessions := rfl
        toService := rfl
        toClient := rfl
        handled := rfl }

end

/-! ## Whole runs -/

section

variable {fb : Binding Envelope} {turns : Nat → Turn} {suite : CryptoSuite} {keys : SessionKeys}
  {license : Core.LicenseSnapshot} {initial : Core.SessionManager} {session : Core.Session}
  {client : LicenseClient} {host : Host}

/-- The loop goes on from a round that left the thread waiting. -/
theorem heartbeatLoop_succ {World : Type} {transport : Transport World}
    {calls : Nat → LicenseClient.RoundCalls} {client after : LicenseClient}
    {world service : World} {rounds : Nat} {exchanged : List (HeartbeatMessage × Option Bytes)}
    {beaten : LicenseClient.Beaten World}
    (loops : client.heartbeatLoop fb transport calls world rounds =
      some (after, service, exchanged)) (waiting : after.heartbeatThread = .waiting)
    (beats : after.heartbeatRound fb transport (calls rounds) service = some beaten) :
    client.heartbeatLoop fb transport calls world (rounds + 1) =
      some (beaten.client, beaten.world, exchanged ++ [(beaten.sent, beaten.opened)]) := by
  unfold LicenseClient.heartbeatLoop
  rw [loops]
  dsimp only
  rw [if_neg (not_not.mpr waiting), beats]

/-- What the client and the service have after a number of rounds. -/
theorem heartbeatLoop_lockstep (lawful : fb.Lawful fb envelopeIdentifier Envelope.contentSize)
    {calls : Nat → LicenseClient.RoundCalls} (correct : ∀ k, RoundCallsCorrect (calls k) suite)
    (turn : ∀ k, (turns k).ssl.Correct suite) (features : validFeatures license.features = true)
    (start : Lockstep license turns keys initial session 0 client host) (rounds : Nat)
    (bound : rounds + 4 ≤ sequenceCount)
    (unexpired : ∀ k < rounds,
      Service.licenseExpired license (turns (k + 3)).nowUnixSeconds = false) :
    ∃ after service exchanged,
      client.heartbeatLoop fb (Host.transport fb turns) calls host rounds =
        some (after, service, exchanged) ∧
      Lockstep license turns keys initial session rounds after service ∧
      exchanged.length = rounds ∧
      ∀ k pair, exchanged[k]? = some pair → Answered fb (k + 3) .valid pair := by
  induction rounds with
  | zero => exact ⟨client, host, [], rfl, start, rfl, nofun⟩
  | succ rounds ih =>
      obtain ⟨after, service, exchanged, runs, lockstep, length, answered⟩ :=
        ih (by omega) fun k inside => unexpired k (by omega)
      obtain ⟨beaten, beats, next, last⟩ := heartbeatRound_lockstep lawful (correct rounds)
        (turn (rounds + 3)) features (by omega) lockstep (unexpired rounds (by omega))
      refine ⟨beaten.client, beaten.world, exchanged ++ [(beaten.sent, beaten.opened)],
        heartbeatLoop_succ runs lockstep.thread beats, next, ?_, ?_⟩
      · rw [List.length_append, length]
        rfl
      · intro k pair found
        rcases Nat.lt_or_ge k rounds with earlier | later
        · rw [List.getElem?_append_left (by omega)] at found
          exact answered k pair found
        · rw [List.getElem?_append_right (by omega), length, List.getElem?_singleton] at found
          split at found
          · rename_i first
            cases found
            rw [show k = rounds by omega]
            exact last
          · cases found

/-- The client that has used its last sequence number is done. -/
theorem heartbeatRound_exhausted {rounds : Nat} {calls : LicenseClient.RoundCalls}
    (exhausted : rounds + 4 = sequenceCount)
    (lockstep : Lockstep license turns keys initial session rounds client host) :
    ∃ beaten, client.heartbeatRound fb (Host.transport fb turns) calls host = some beaten ∧
      beaten.client.snapshot.state = .error := by
  obtain ⟨near, far, clientSide, -, -, version⟩ := lockstep.handshakes
  have selected : (near.inSession keys (rounds + 3) (rounds + 2)).selectedVersion ≠ 0 := version
  obtain ⟨plaintext, encodes⟩ := @exists_encodeHeartbeat fb rounds _ selected (by omega)
    client.sessionId
  have exchanged : exchangeRecord (Host.transport fb turns) calls.sealing calls.opening
      (near.inSession keys (rounds + 3) (rounds + 2)) plaintext host =
        (host, near.inSession keys (rounds + 3) (rounds + 2), .error .notSent) := by
    unfold exchangeRecord
    rw [near.seal_inSession_exhausted calls.sealing plaintext exhausted]
  unfold LicenseClient.heartbeatRound
  rw [clientSide]
  dsimp only
  rw [lockstep.nextRequestId, encodes]
  dsimp only
  rw [exchanged]
  exact ⟨_, rfl, rfl⟩

end

section

variable {fb : Binding Envelope} {turns : Nat → Turn} {suite : CryptoSuite}
  {license : Core.LicenseSnapshot} {options : ConnectionOptions} {config : ClientConfig}
  {calls : LicenseClient.InitializeCalls} {rounds : Nat → LicenseClient.RoundCalls}
  {closing : OpenSsl} {initial : Core.SessionManager} {id : Core.SessionId}

/-- Everything that runs between a client and its service is in order: the
library does not fail, a session is free and the license covers the request. -/
structure Undisturbed (suite : CryptoSuite) (license : Core.LicenseSnapshot)
    (calls : LicenseClient.InitializeCalls) (rounds : Nat → LicenseClient.RoundCalls)
    (closing : OpenSsl) (turns : Nat → Turn) (initial : Core.SessionManager)
    (id : Core.SessionId) : Prop where
  initializes : InitializeCallsCorrect calls suite
  beats : ∀ k, RoundCallsCorrect (rounds k) suite
  closes : closing.Correct suite
  serves : ∀ k, (turns k).ssl.Correct suite
  free : initial.active license.productId < license.maxSessions.toNat
  drawn : Core.SessionManager.drawId initial.sessions (turns 2).draws = some id
  unexpired : Service.licenseExpired license (turns 2).nowUnixSeconds = false

/-- The client and the service stay in lockstep while sequence numbers are left:
a client with an unexpired license is valid after any number of heartbeats, its
session is in the manager with the time of the last one, and a `shutdown` ends
the connection without an error; the first heartbeat on an expired license ends
the session on both sides. -/
theorem sdk_service_lockstep (lawful : fb.Lawful fb envelopeIdentifier Envelope.contentSize)
    (setting : Setting suite license options config)
    (undisturbed : Undisturbed suite license calls rounds closing turns initial id) :
    ∃ initialized opened response,
      LicenseClient.initializeClient fb (Host.transport fb turns) calls config {}
        (.fresh license options initial) = some initialized ∧
      initialized.status = {} ∧
      initialized.opened = some opened ∧ decodeAuthResult fb opened = some (.ok response) ∧
      response.requestId = 2 ∧
      (∃ greeted serverHello server, initialized.world.handled.head? = some greeted ∧
        greeted.result.response = some serverHello ∧
        decodeServerHello fb (unwrapPlaintext serverHello) = some (.ok server) ∧
        server.requestId = 1) ∧
      (∀ n, n + 4 ≤ sequenceCount →
        (∀ k < n, Service.licenseExpired license (turns (k + 3)).nowUnixSeconds = false) →
        ∃ client host exchanged,
          initialized.client.heartbeatLoop fb (Host.transport fb turns) rounds initialized.world n =
            some (client, host, exchanged) ∧
          client.snapshot =
            { state := .valid, features := license.features, expireTime := license.expireTime } ∧
          client.sessionId = Service.protocolId id ∧ id ∉ initial.sessions ∧
          host.sessions.sessions = initial.sessions.insert id
            (renewed (sdkSession license options turns id) (turns (n + 2)).nowMonotonicMs) ∧
          exchanged.length = n ∧
          (∀ k pair, exchanged[k]? = some pair → Answered fb (k + 3) .valid pair) ∧
          (n + 4 < sequenceCount → ∃ last,
            (client.requestStop.finishShutdown fb (Host.transport fb turns) closing host).2 =
              host.settled last ∧
            last.result = { closed := true } ∧ last.connection.state = .closed ∧
            last.connection.session = none ∧ last.sessions = initial)) ∧
      ∀ n, n + 4 < sequenceCount →
        (∀ k < n, Service.licenseExpired license (turns (k + 3)).nowUnixSeconds = false) →
        Service.licenseExpired license (turns (n + 3)).nowUnixSeconds = true →
        ∃ client host exchanged,
          initialized.client.heartbeatLoop fb (Host.transport fb turns) rounds initialized.world
            (n + 1) = some (client, host, exchanged) ∧
          client.snapshot.state = .expired ∧ client.snapshot.features = [] ∧
          host.connection.state = .closed ∧ host.connection.session = none ∧
          host.sessions = initial ∧
          ∀ pair, exchanged[n]? = some pair → Answered fb (n + 3) .expired pair := by
  obtain ⟨keys, initialized, opened, response, runs, status, opens, decoded, requestId, -, greeting,
    start⟩ := initializeClient_lockstep lawful setting undisturbed.initializes undisturbed.serves
      undisturbed.unexpired undisturbed.free undisturbed.drawn
  have new : id ∉ initial.sessions := Core.SessionManager.drawId_notMem undisturbed.drawn
  refine ⟨initialized, opened, response, runs, status, opens, decoded, requestId, greeting, ?_, ?_⟩
  · intro n bound unexpired
    obtain ⟨client, host, exchanged, loops, lockstep, length, answered⟩ := heartbeatLoop_lockstep
      lawful undisturbed.beats undisturbed.serves setting.features start n bound unexpired
    refine ⟨client, host, exchanged, loops, lockstep.snapshot, lockstep.sessionId, new,
      lockstep.sessions, length, answered, ?_⟩
    intro left
    exact finishShutdown_lockstep lawful undisturbed.closes (undisturbed.serves (n + 3)) left
      lockstep new
  · intro n bound unexpired expired
    obtain ⟨client, host, exchanged, loops, lockstep, length, answered⟩ := heartbeatLoop_lockstep
      lawful undisturbed.beats undisturbed.serves setting.features start n (Nat.le_of_lt bound)
      unexpired
    obtain ⟨beaten, beats, state, features, closed, ended, sessions, last⟩ :=
      heartbeatRound_expired lawful (undisturbed.beats n) (undisturbed.serves (n + 3))
        setting.features bound lockstep new expired
    refine ⟨beaten.client, beaten.world, exchanged ++ [(beaten.sent, beaten.opened)],
      heartbeatLoop_succ loops lockstep.thread beats, state, features, closed, ended, sessions, ?_⟩
    intro pair found
    rw [List.getElem?_append_right (by omega), length, Nat.sub_self] at found
    cases found
    exact last

/-- With the last sequence number the client leaves the session. -/
theorem heartbeatLoop_exhausted (lawful : fb.Lawful fb envelopeIdentifier Envelope.contentSize)
    (setting : Setting suite license options config)
    (undisturbed : Undisturbed suite license calls rounds closing turns initial id) {n : Nat}
    (exhausted : n + 4 = sequenceCount)
    (unexpired : ∀ k < n, Service.licenseExpired license (turns (k + 3)).nowUnixSeconds = false) :
    ∃ initialized client host exchanged,
      LicenseClient.initializeClient fb (Host.transport fb turns) calls config {}
        (.fresh license options initial) = some initialized ∧
      initialized.client.heartbeatLoop fb (Host.transport fb turns) rounds initialized.world
        (n + 1) = some (client, host, exchanged) ∧
      client.snapshot.state = .error := by
  obtain ⟨keys, initialized, opened, response, runs, -, -, -, -, -, -, start⟩ :=
    initializeClient_lockstep lawful setting undisturbed.initializes undisturbed.serves
      undisturbed.unexpired undisturbed.free undisturbed.drawn
  obtain ⟨client, host, exchanged, loops, lockstep, -, -⟩ := heartbeatLoop_lockstep lawful
    undisturbed.beats undisturbed.serves setting.features start n (Nat.le_of_eq exhausted) unexpired
  obtain ⟨beaten, beats, state⟩ := @heartbeatRound_exhausted fb _ _ _ _ _ _ _ _ (rounds n)
    exhausted lockstep
  exact ⟨initialized, beaten.client, beaten.world, _, runs,
    heartbeatLoop_succ loops lockstep.thread beats, state⟩

end

/-! ## A permanent license -/

def sdkLicense : Core.LicenseSnapshot where
  productId := ofAscii "product-1"
  type := .permanent
  features := [ofAscii "capture", ofAscii "export"]
  maxSessions := 1

def sdkOptions : ConnectionOptions where
  serviceKeyId := ofAscii "service-1"
  identityPrivateKey := .zeros kKeySize
  peerIdentity := ofAscii "uid=1000"
  heartbeatIntervalMs := 20
  heartbeatTimeoutMs := 200

def sdkConfig : ClientConfig where
  productId := ofAscii "product-1"
  trustedServiceKeys :=
    (∅ : AList fun _ : Bytes => Key).insert (ofAscii "service-1") (.zeros kKeySize)

def sdkCalls : LicenseClient.InitializeCalls where
  start := Service.referenceSsl
  serverHello := Service.referenceSsl
  sealing := Service.referenceSsl
  opening := Service.referenceSsl
  processId := 7

def sdkRounds (_ : Nat) : LicenseClient.RoundCalls where
  sealing := Service.referenceSsl
  opening := Service.referenceSsl

def sdkTurns (_ : Nat) : Turn where
  ssl := Service.referenceSsl
  draws := [.zeros 16]
  nowMonotonicMs := 10
  nowUnixSeconds := 10

theorem sdkSetting : Setting referenceSuite sdkLicense sdkOptions sdkConfig where
  complete := by decide
  product := rfl
  productSize := by decide
  features := by decide
  keyId := by decide
  keyIdSize := by decide
  trusted := by decide
  peer := by decide
  interval := by decide
  timeout := by decide

theorem sdkUndisturbed : Undisturbed referenceSuite sdkLicense sdkCalls sdkRounds
    Service.referenceSsl sdkTurns {} (.zeros 16) where
  initializes := ⟨Service.referenceSsl_correct, Service.referenceSsl_correct,
    Service.referenceSsl_correct, Service.referenceSsl_correct, by decide⟩
  beats _ := ⟨Service.referenceSsl_correct, Service.referenceSsl_correct⟩
  closes := Service.referenceSsl_correct
  serves _ := Service.referenceSsl_correct
  free := by decide
  drawn := rfl
  unexpired := rfl

theorem sdkLicense_unexpired (now : UInt64) : Service.licenseExpired sdkLicense now = false :=
  decide_eq_false fun expired => expired.1 rfl

/-- A client with a permanent license is valid after any number of heartbeats
that leaves sequence numbers. -/
theorem sdk_service_lockstep_permanent :
    ∃ initialized,
      LicenseClient.initializeClient referenceEnvelopes
        (Host.transport referenceEnvelopes sdkTurns) sdkCalls sdkConfig {}
        (.fresh sdkLicense sdkOptions {}) = some initialized ∧
      ∀ n, n + 4 ≤ sequenceCount → ∃ client host exchanged,
        initialized.client.heartbeatLoop referenceEnvelopes
          (Host.transport referenceEnvelopes sdkTurns) sdkRounds initialized.world n =
            some (client, host, exchanged) ∧
        client.snapshot =
          { state := .valid, features := [ofAscii "capture", ofAscii "export"]
            expireTime := 0 } := by
  obtain ⟨initialized, opened, response, runs, -, -, -, -, -, valid, -⟩ :=
    sdk_service_lockstep referenceEnvelopes_lawful sdkSetting sdkUndisturbed
  refine ⟨initialized, runs, ?_⟩
  intro n bound
  obtain ⟨client, host, exchanged, loops, snapshot, -⟩ :=
    valid n bound fun k _ => sdkLicense_unexpired _
  exact ⟨client, host, exchanged, loops, snapshot⟩

/-- After 2^64 - 4 heartbeats the client has no sequence number left, and the
next round ends in `Error` although the license has not expired. -/
theorem sequence_numbers_run_out :
    ∃ initialized client host exchanged,
      LicenseClient.initializeClient referenceEnvelopes
        (Host.transport referenceEnvelopes sdkTurns) sdkCalls sdkConfig {}
        (.fresh sdkLicense sdkOptions {}) = some initialized ∧
      initialized.client.heartbeatLoop referenceEnvelopes
        (Host.transport referenceEnvelopes sdkTurns) sdkRounds initialized.world
        18446744073709551613 = some (client, host, exchanged) ∧
      client.snapshot.state = .error :=
  heartbeatLoop_exhausted referenceEnvelopes_lawful sdkSetting sdkUndisturbed rfl
    fun _ _ => sdkLicense_unexpired _

end YoAuthorize.Sdk
