import YoAuthorize.Sdk.Client
import YoAuthorize.Service.ConnectionStage

/-!
# A connection at the other end of the socket

`Host` is the loop of `AuthorizationService::serve` for one connection, with the
bytes that are on their way in either direction.  `Host.transport` is a socket
that loses and reorders nothing: what the client writes reaches the loop, which
handles each frame it completes, and what the connection answers can be read.

`ClientHandshake.inSession` and `ServerHandshake.inSession` are the two ends of
an established session with the next sequence numbers of their records.
-/

namespace YoAuthorize.Protocol

open Octets Crypto

/-! ## Both ends of a session -/

def ClientHandshake.inSession (client : ClientHandshake) (keys : SessionKeys)
    (writes reads : Nat) : ClientHandshake :=
  { client with
    state := .established
    writer := some { key := recordKey keys.clientToService, nextSequence := .ofNat writes }
    reader := some { key := recordKey keys.serviceToClient, nextSequence := .ofNat reads } }

def ServerHandshake.inSession (server : ServerHandshake) (keys : SessionKeys)
    (reads writes : Nat) : ServerHandshake :=
  { server with
    state := .established
    reader := some { key := recordKey keys.clientToService, nextSequence := .ofNat reads }
    writer := some { key := recordKey keys.serviceToClient, nextSequence := .ofNat writes } }

/-- The frame of a record that a client of the session sends. -/
def requestFrame (suite : CryptoSuite) (keys : SessionKeys) (number : Nat) (plaintext : Bytes) :
    Bytes :=
  sealedFrame suite (recordKey keys.clientToService) (.ofNat number) plaintext

def responseFrame (suite : CryptoSuite) (keys : SessionKeys) (number : Nat) (plaintext : Bytes) :
    Bytes :=
  sealedFrame suite (recordKey keys.serviceToClient) (.ofNat number) plaintext

/-- A plaintext that a record can hold. -/
def FitsRecord (plaintext : Bytes) : Prop :=
  plaintext ≠ [] ∧ plaintext.length ≤ kDefaultMaxPayloadSize.toNat - kTagSize

section

variable {suite : CryptoSuite} {ssl : OpenSsl} {keys : SessionKeys} {reads writes : Nat}
  {plaintext : Bytes}

theorem ClientHandshake.seal_inSession (client : ClientHandshake) (correct : ssl.Correct suite)
    (unexhausted : writes + 1 < sequenceCount) (fits : FitsRecord plaintext) :
    (client.inSession keys writes reads).seal ssl plaintext =
      (client.inSession keys (writes + 1) reads,
        .ok (requestFrame suite keys writes plaintext)) := by
  have sealed := ClientHandshake.seal_honest correct.toHonest
    (rfl : (client.inSession keys writes reads).state = .established) rfl
    (Service.sequence_ne_max unexhausted) fits.1 fits.2
  rw [sealed]
  unfold ClientHandshake.inSession
  rw [UInt64.ofNat_add]
  rfl

theorem ClientHandshake.open_inSession (client : ClientHandshake) (correct : ssl.Correct suite)
    (unexhausted : reads + 1 < sequenceCount) (fits : FitsRecord plaintext) :
    (client.inSession keys writes reads).open ssl (responseFrame suite keys reads plaintext) =
      (client.inSession keys writes (reads + 1), .ok plaintext) := by
  have opened := ClientHandshake.open_honest
    (rfl : (client.inSession keys writes reads).state = .established) rfl
    (Service.sequence_ne_max unexhausted) fits.2
    (Service.opensRecord_correct correct _ _ fits.2)
  refine opened.trans ?_
  unfold ClientHandshake.inSession
  rw [UInt64.ofNat_add]
  rfl

theorem ServerHandshake.seal_inSession (server : ServerHandshake) (correct : ssl.Correct suite)
    (unexhausted : writes + 1 < sequenceCount) (fits : FitsRecord plaintext) :
    (server.inSession keys reads writes).seal ssl plaintext =
      (server.inSession keys reads (writes + 1),
        .ok (responseFrame suite keys writes plaintext)) := by
  have sealed := ServerHandshake.seal_honest correct.toHonest
    (rfl : (server.inSession keys reads writes).state = .established) rfl
    (Service.sequence_ne_max unexhausted) fits.1 fits.2
  rw [sealed]
  unfold ServerHandshake.inSession
  rw [UInt64.ofNat_add]
  rfl

theorem ServerHandshake.open_inSession (server : ServerHandshake) (correct : ssl.Correct suite)
    (unexhausted : reads + 1 < sequenceCount) (fits : FitsRecord plaintext) :
    (server.inSession keys reads writes).open ssl (requestFrame suite keys reads plaintext) =
      (server.inSession keys (reads + 1) writes, .ok plaintext) := by
  have opened := ServerHandshake.open_honest
    (rfl : (server.inSession keys reads writes).state = .established) rfl
    (Service.sequence_ne_max unexhausted) fits.2
    (Service.opensRecord_correct correct _ _ fits.2)
  refine opened.trans ?_
  unfold ServerHandshake.inSession
  rw [UInt64.ofNat_add]
  rfl

/-- The last 64-bit number is never used. -/
theorem ClientHandshake.seal_inSession_exhausted (client : ClientHandshake) (ssl : OpenSsl)
    (plaintext : Bytes) (exhausted : writes + 1 = sequenceCount) :
    (client.inSession keys writes reads).seal ssl plaintext =
      (client.inSession keys writes reads, .error .sequenceExhausted) := by
  have last : UInt64.ofNat writes = uint64Max := by
    rw [show writes = 18446744073709551615 from Nat.succ.inj exhausted]
    rfl
  unfold ClientHandshake.seal
  unfold ClientHandshake.inSession
  dsimp only
  unfold sealRecord RecordWriter.seal
  dsimp only
  rw [if_pos last]

theorem fits_of_encode {fb : FlatBuffer.Binding Schema.Envelope}
    (lawful : fb.Lawful fb Schema.envelopeIdentifier Schema.Envelope.contentSize)
    (kind : MessageKind) {message : kind.Payload} {encoded : Bytes}
    (encodes : kind.encode fb message = .ok encoded) : FitsRecord encoded := by
  obtain ⟨nonempty, short⟩ := MessageKind.length_of_encode lawful kind encodes
  exact ⟨nonempty, Nat.le_trans short (by decide)⟩

theorem decodeFrame_requestFrame (keys : SessionKeys) (number : Nat) (fits : FitsRecord plaintext) :
    decodeFrame (requestFrame suite keys number plaintext) =
      .ok (recordHeader (.ofNat number) plaintext,
        sealedPayload suite (recordKey keys.clientToService) (.ofNat number) plaintext) :=
  decodeFrame_sealedFrame _ _ fits.2

theorem decodeFrame_responseFrame (keys : SessionKeys) (number : Nat)
    (fits : FitsRecord plaintext) :
    decodeFrame (responseFrame suite keys number plaintext) =
      .ok (recordHeader (.ofNat number) plaintext,
        sealedPayload suite (recordKey keys.serviceToClient) (.ofNat number) plaintext) :=
  decodeFrame_sealedFrame _ _ fits.2

end

end YoAuthorize.Protocol

namespace YoAuthorize.Sdk

open Octets Crypto FlatBuffer Protocol Protocol.Schema
open YoAuthorize.Service (Connection ConnectionResult HandleCall Handled wrapPlaintext
  unwrapPlaintext)

/-! ## The loop of the service -/

/-- What one turn of the loop runs with. -/
structure Turn : Type where
  ssl : OpenSsl
  draws : List Core.SessionId
  nowMonotonicMs : UInt64
  nowUnixSeconds : UInt64

def Turn.call (turn : Turn) (sessions : Core.SessionManager) : HandleCall where
  ssl := turn.ssl
  sessions := sessions
  draws := turn.draws
  nowMonotonicMs := turn.nowMonotonicMs
  nowUnixSeconds := turn.nowUnixSeconds

/-- `handled` lists what the calls of `handle` returned. -/
structure Host : Type where
  connection : Connection
  sessions : Core.SessionManager := {}
  toService : Bytes := []
  toClient : Bytes := []
  handled : List Handled := []

/-- What `readFrame` of the service finds in the bytes that have arrived. -/
inductive Arrival : Type
  | incomplete
  | invalid
  | frame (frame rest : Bytes)

def arrival (bytes : Bytes) : Arrival :=
  if bytes.length < kFrameHeaderSize then .incomplete
  else
    match decodeHeader (bytes.take kFrameHeaderSize) with
    | .error _ => .invalid
    | .ok header =>
        let size := kFrameHeaderSize + header.payloadSize.toNat
        if bytes.length < size then .incomplete
        else .frame (bytes.take size) (bytes.drop size)

namespace Host

/-- `serve` returns, which destroys the connection. -/
def leave (host : Host) : Host :=
  { host with
    connection := { (host.connection.closeSession host.sessions).1 with state := .closed }
    sessions := host.connection.destruct host.sessions }

def answered (host : Host) (rest : Bytes) (handled : Handled) : Host where
  connection := handled.connection
  sessions := handled.sessions
  toService := rest
  toClient := host.toClient ++ handled.result.response.getD []
  handled := host.handled ++ [handled]

/-- One turn of the loop, when a frame has arrived.  A connection whose decoder
reads through a null pointer takes the service with it. -/
def turn (fb : Binding Envelope) (turns : Nat → Turn) (host : Host) : Host :=
  match arrival host.toService with
  | .incomplete => host
  | .invalid => host.leave
  | .frame frame rest =>
      let call := (turns host.handled.length).call host.sessions
      match host.connection.handleAt fb call frame with
      | none => host.leave
      | some handled => host.answered rest handled

/-- A socket that loses and reorders nothing.  A client writes whole frames, so
that each write completes one frame; once the loop has ended nobody reads. -/
def transport (fb : Binding Envelope) (turns : Nat → Turn) : Transport Host where
  connect host := (host, true)
  writeAll bytes host :=
    if host.connection.state = .closed then (host, false)
    else (turn fb turns { host with toService := host.toService ++ bytes }, true)
  readExact size host :=
    if long : size ≤ host.toClient.length then
      ({ host with toClient := host.toClient.drop size },
        some ⟨host.toClient.take size, List.length_take_of_le long⟩)
    else (host, none)
  close host := if host.connection.state = .closed then host else host.leave

end Host

/-! ## Whole frames -/

section

variable {fb : Binding Envelope} {turns : Nat → Turn}

theorem decodeHeader_of_decodeFrame {frame payload : Bytes} {header : FrameHeader}
    (decoded : decodeFrame frame = .ok (header, payload)) :
    decodeHeader (frame.take kFrameHeaderSize) = .ok header ∧
      frame.length = kFrameHeaderSize + header.payloadSize.toNat := by
  obtain ⟨rfl, accepted, size⟩ := decodeFrame_eq_ok_iff.mp decoded
  have whole : ((encodeHeader header).val ++ payload).take kFrameHeaderSize =
      (encodeHeader header).val := List.take_left' (encodeHeader header).2
  constructor
  · rw [whole]
    refine decodeHeader_eq_ok_iff.mpr ⟨Nat.le_of_eq (encodeHeader header).2.symm, rfl, ?_, accepted⟩
    have read := readHeader_encodeHeader header []
    rw [List.append_nil] at read
    exact read.symm
  · rw [List.length_append, (encodeHeader header).2, size]

theorem arrival_of_decodeFrame {frame payload : Bytes} {header : FrameHeader}
    (decoded : decodeFrame frame = .ok (header, payload)) : arrival frame = .frame frame [] := by
  obtain ⟨head, length⟩ := decodeHeader_of_decodeFrame decoded
  unfold arrival
  rw [if_neg (by omega), head]
  dsimp only
  rw [if_neg (by omega), ← length, List.take_length, List.drop_length]

theorem readExact_transport {host : Host} {size : Nat} (long : size ≤ host.toClient.length) :
    (Host.transport fb turns).readExact size host =
      ({ host with toClient := host.toClient.drop size },
        some ⟨host.toClient.take size, List.length_take_of_le long⟩) :=
  dif_pos long

/-- A client reads back the one frame that is on its way. -/
theorem readFrame_transport {host : Host} {header : FrameHeader} {payload : Bytes}
    (decoded : decodeFrame host.toClient = .ok (header, payload)) :
    readFrame (Host.transport fb turns) host =
      ({ host with toClient := [] }, .ok host.toClient) := by
  obtain ⟨head, length⟩ := decodeHeader_of_decodeFrame decoded
  have rest : (host.toClient.drop kFrameHeaderSize).length = header.payloadSize.toNat := by
    rw [List.length_drop, length, Nat.add_sub_cancel_left]
  unfold readFrame
  rw [readExact_transport (by omega)]
  dsimp only
  rw [head]
  dsimp only
  rw [readExact_transport (Nat.le_of_eq rest.symm)]
  dsimp only
  rw [← rest, List.take_length, List.drop_length, List.take_append_drop]

/-- A frame that the connection handles is answered. -/
theorem writeAll_transport {host : Host} {frame payload : Bytes} {header : FrameHeader}
    {handled : Handled} (idle : host.toService = []) (running : host.connection.state ≠ .closed)
    (decoded : decodeFrame frame = .ok (header, payload))
    (handles : host.connection.handleAt fb ((turns host.handled.length).call host.sessions) frame =
      some handled) :
    (Host.transport fb turns).writeAll frame host = (host.answered [] handled, true) := by
  change (if host.connection.state = .closed then (host, false)
    else (Host.turn fb turns { host with toService := host.toService ++ frame }, true)) = _
  rw [if_neg running, idle, List.nil_append]
  unfold Host.turn
  dsimp only
  rw [arrival_of_decodeFrame decoded]
  dsimp only
  rw [handles]
  rfl

theorem close_transport {host : Host} (closed : host.connection.state = .closed) :
    (Host.transport fb turns).close host = host := by
  change (if host.connection.state = .closed then host else host.leave) = host
  rw [if_pos closed]

theorem decodeFrame_of_open {reader next : RecordReader} {ssl : OpenSsl} {frame plaintext : Bytes}
    (opened : reader.open ssl frame = (next, .ok plaintext)) :
    ∃ header payload, decodeFrame frame = .ok (header, payload) := by
  rcases reader.open_cases ssl frame with
    ⟨error, refused⟩ | ⟨header, payload, _, -, decoded, -, -, -, -⟩
  · rw [refused] at opened
    cases opened
  · exact ⟨header, payload, decoded⟩

theorem decodeFrame_of_handleHello {connection : Connection} {ssl : OpenSsl}
    {sessions : Core.SessionManager} {frame : Bytes} {handled : Handled}
    (handles : connection.handleHello fb ssl sessions frame = some handled)
    (accepted : handled.result.error = none) :
    ∃ header payload, decodeFrame frame = .ok (header, payload) := by
  unfold Connection.handleHello at handles
  split at handles
  · cases handles
    cases accepted
  · rename_i header payload decoded
    exact ⟨header, payload, decoded⟩

theorem decodeFrame_of_handleFinished {connection : Connection} {ssl : OpenSsl}
    {sessions : Core.SessionManager} {frame : Bytes} {handled : Handled}
    (handles : connection.handleFinished fb ssl sessions frame = some handled)
    (accepted : handled.result.error = none) :
    ∃ header payload, decodeFrame frame = .ok (header, payload) := by
  unfold Connection.handleFinished ServerHandshake.handleClientFinished at handles
  split at handles
  · cases handles
  · cases handles
    cases accepted
  rename_i finished
  split at finished
  · rename_i reader _ _
    split at finished
    · cases finished
    · rename_i opened
      exact decodeFrame_of_open opened
  · cases finished

theorem decodeFrame_of_open_inSession {server next : ServerHandshake} {ssl : OpenSsl}
    {frame plaintext : Bytes} (opened : server.open ssl frame = (next, .ok plaintext)) :
    ∃ header payload, decodeFrame frame = .ok (header, payload) := by
  unfold ServerHandshake.open at opened
  rcases openRecord_cases ssl server.state server.reader frame with
    ⟨error, refused⟩ | ⟨current, plaintext, -, -, opens, -⟩
  · rw [refused] at opened
    cases opened
  · exact decodeFrame_of_open opens

/-- A frame that a connection handles without an error is whole. -/
theorem decodeFrame_of_handleAt {connection : Connection} {call : HandleCall} {frame : Bytes}
    {handled : Handled} (handles : connection.handleAt fb call frame = some handled)
    (accepted : handled.result.error = none) :
    connection.state ≠ .closed ∧ ∃ header payload, decodeFrame frame = .ok (header, payload) := by
  unfold Connection.handleAt Connection.handle at handles
  split at handles
  · cases handles
    cases accepted
  · rename_i state
    rw [state]
    exact ⟨by decide, decodeFrame_of_handleHello handles accepted⟩
  · rename_i state
    rw [state]
    exact ⟨by decide, decodeFrame_of_handleFinished handles accepted⟩
  · rename_i running _ _
    refine ⟨running, ?_⟩
    split at handles
    · cases handles
      change some _ = none at accepted
      cases accepted
    · rename_i opened
      exact decodeFrame_of_open_inSession opened

end

/-! ## The requests of a session -/

section

variable {fb : Binding Envelope} {suite : CryptoSuite} {connection : Connection}
  {server : ServerHandshake} {keys : SessionKeys} {reads writes : Nat}

theorem handleAt_inSession {call : HandleCall} {plaintext : Bytes}
    (correct : call.ssl.Correct suite)
    (handshake : connection.handshake = server.inSession keys reads writes)
    (unexhausted : reads + 1 < sequenceCount) (fits : FitsRecord plaintext)
    (running : connection.state = .awaitingAuthorize ∨ connection.state = .active) :
    connection.handleAt fb call (requestFrame suite keys reads plaintext) =
      if connection.state = .awaitingAuthorize then
        { connection with handshake := server.inSession keys (reads + 1) writes }.handleAuthorize
          fb call.ssl call.sessions call.draws plaintext call.nowMonotonicMs call.nowUnixSeconds
      else
        { connection with handshake := server.inSession keys (reads + 1) writes }.handleActive
          fb call.ssl call.sessions plaintext call.nowMonotonicMs call.nowUnixSeconds := by
  have opened : (server.inSession keys reads writes).open call.ssl
      (requestFrame suite keys reads plaintext) =
        (server.inSession keys (reads + 1) writes, .ok plaintext) :=
    server.open_inSession correct unexhausted fits
  unfold Connection.handleAt Connection.handle
  rcases running with state | state
  all_goals
    rw [state, handshake]
    dsimp only
    rw [opened]

theorem encryptedResponse_inSession {ssl : OpenSsl} (correct : ssl.Correct suite)
    (sessions : Core.SessionManager) {plaintext : Bytes}
    (handshake : connection.handshake = server.inSession keys reads writes)
    (unexhausted : writes + 1 < sequenceCount) (fits : FitsRecord plaintext) (closeAfter : Bool) :
    connection.encryptedResponse ssl sessions plaintext closeAfter =
      { connection :=
          { connection with
            handshake := server.inSession keys reads (writes + 1)
            state := if closeAfter then .closed else connection.state }
        sessions
        result :=
          { response := some (responseFrame suite keys writes plaintext)
            closed := closeAfter } } := by
  unfold Connection.encryptedResponse
  rw [handshake, server.seal_inSession correct unexhausted fits]

/-- The session that a granted request makes. -/
def grantedSession (connection : Connection) (call : HandleCall) (id : Core.SessionId) :
    Core.Session where
  id := id
  productId := connection.license.productId
  peerIdentity := connection.peerIdentity
  features := connection.license.features
  expireTime := connection.license.expireTime
  lastHeartbeatMs := call.nowMonotonicMs

/-- The first request of a session, when it can be granted. -/
theorem handleAt_authorize_inSession
    (lawful : fb.Lawful fb envelopeIdentifier Envelope.contentSize) {call : HandleCall}
    (correct : call.ssl.Correct suite) {request : AuthorizeMessage} {plaintext : Bytes}
    (state : connection.state = .awaitingAuthorize)
    (handshake : connection.handshake = server.inSession keys reads writes)
    (moreReads : reads + 1 < sequenceCount) (moreWrites : writes + 1 < sequenceCount)
    (encode : encodeAuthorize fb request = .ok plaintext)
    (version : request.protocolVersion = server.selectedVersion)
    (grantable : Service.Grantable connection call request)
    (features : validFeatures connection.license.features = true) :
    ∃ id encoded, Core.SessionManager.drawId call.sessions.sessions call.draws = some id ∧
      encodeAuthResult fb (Service.grantedResult connection request
        (grantedSession connection call id)) = .ok encoded ∧
      connection.handleAt fb call (requestFrame suite keys reads plaintext) =
        some
          { connection :=
              { connection with
                handshake := server.inSession keys (reads + 1) (writes + 1)
                session := some (grantedSession connection call id)
                state := .active }
            sessions :=
              { sessions := call.sessions.sessions.insert id (grantedSession connection call id) }
            result := { response := some (responseFrame suite keys writes encoded) }
            created := some (grantedSession connection call id) } := by
  have decoded : decodeAuthorize fb plaintext = some (.ok request) :=
    MessageKind.decode_encode lawful .authorize encode
  obtain ⟨requestId, versioned, -⟩ := Service.fields_of_decodeAuthorize decoded
  obtain ⟨id, draw⟩ := Option.ne_none_iff_exists'.mp grantable.drawn
  let opened : Connection :=
    { connection with handshake := server.inSession keys (reads + 1) writes }
  let session := grantedSession connection call id
  let active : Connection := { opened with session := some session, state := .active }
  let sessions : Core.SessionManager :=
    { sessions := call.sessions.sessions.insert id session }
  have decides : opened.authorize call.sessions call.draws request call.nowMonotonicMs
      call.nowUnixSeconds =
        { connection := active, sessions, response := Service.grantedResult opened request session
          error := none, created := some session } := by
    have product : request.productId = opened.license.productId := grantable.product
    have unexpired : Service.licenseExpired opened.license call.nowUnixSeconds = false :=
      grantable.unexpired
    apply Service.authorize_of_create_ok product unexpired
    exact Core.SessionManager.create_of_room grantable.free grantable.named grantable.peer draw ..
  have selected : request.protocolVersion = opened.handshake.selectedVersion := version
  have encodable : ∃ encoded,
      encodeAuthResult fb (Service.grantedResult opened request session) = .ok encoded :=
    Service.encodeAuthResult_granted requestId (selected ▸ versioned) features
  obtain ⟨encoded, encodes⟩ := encodable
  have sameResult : Service.grantedResult connection request session =
      Service.grantedResult opened request session := by
    unfold Service.grantedResult
    rw [handshake]
    rfl
  refine ⟨id, encoded, draw, ?_, ?_⟩
  · rw [← encodes, ← sameResult]
  have responds := encryptedResponse_inSession correct sessions
    (rfl : active.handshake = server.inSession keys (reads + 1) writes) moreWrites
    (fits_of_encode lawful .authResult encodes) false
  rw [handleAt_inSession correct handshake moreReads (fits_of_encode lawful .authorize encode)
    (.inl state), if_pos state]
  unfold Connection.handleAuthorize
  rw [decoded]
  dsimp only
  rw [if_neg (not_not.mpr selected), decides, Service.answer_of_encode encodes]
  dsimp only
  rw [Option.isSome_none, responds]
  rfl

/-- What the service answers to a heartbeat. -/
def heartbeatAck (connection : Connection) (session : Core.Session) (requestId : UInt64)
    (state : AuthorizationState) : HeartbeatAckMessage where
  requestId := requestId
  protocolVersion := connection.handshake.selectedVersion
  state := state
  features := session.features
  expireTime := session.expireTime

/-- The session of a connection with the time of a heartbeat. -/
def renewed (session : Core.Session) (nowMonotonicMs : UInt64) : Core.Session :=
  { session with lastHeartbeatMs := nowMonotonicMs }

/-- A heartbeat before its acknowledgement. -/
theorem handleAt_heartbeat_inSession
    (lawful : fb.Lawful fb envelopeIdentifier Envelope.contentSize) {call : HandleCall}
    (correct : call.ssl.Correct suite) {session entry : Core.Session} {request : HeartbeatMessage}
    {plaintext : Bytes} (state : connection.state = .active)
    (handshake : connection.handshake = server.inSession keys reads writes)
    (current : connection.session = some session) (moreReads : reads + 1 < sequenceCount)
    (encode : encodeHeartbeat fb request = .ok plaintext)
    (version : request.protocolVersion = server.selectedVersion)
    (sameSession : request.sessionId = Service.protocolId session.id)
    (present : call.sessions.sessions.lookup session.id = some entry) :
    connection.handleAt fb call (requestFrame suite keys reads plaintext) =
      some ({ connection with
        handshake := server.inSession keys (reads + 1) writes }.acknowledge fb call.ssl
          { sessions := call.sessions.sessions.insert session.id
              (renewed entry call.nowMonotonicMs) } session request call.nowUnixSeconds) := by
  have decoded : decodeHeartbeat fb plaintext = some (.ok request) :=
    MessageKind.decode_encode lawful .heartbeat encode
  let opened : Connection :=
    { connection with handshake := server.inSession keys (reads + 1) writes }
  have selected : request.protocolVersion = opened.handshake.selectedVersion := version
  have same : opened.session = some session := current
  have beats : call.sessions.heartbeat session.id call.nowMonotonicMs =
      ({ sessions := call.sessions.sessions.insert session.id
          (renewed entry call.nowMonotonicMs) }, .ok ()) := by
    unfold Core.SessionManager.heartbeat
    rw [present]
    rfl
  rw [handleAt_inSession correct handshake moreReads (fits_of_encode lawful .heartbeat encode)
    (.inr state), if_neg (by rw [state]; decide)]
  unfold Connection.handleActive
  rw [decoded]
  dsimp only
  unfold Connection.handleHeartbeat
  rw [if_neg (not_not.mpr selected), same]
  dsimp only
  rw [if_neg (not_not.mpr sameSession), beats]

theorem exists_encodeHeartbeatAck (fb : Binding Envelope) {session : Core.Session}
    {requestId : UInt64} {state : AuthorizationState}
    (handshake : connection.handshake = server.inSession keys reads writes)
    (version : server.selectedVersion ≠ 0) (named : requestId ≠ 0)
    (features : validFeatures session.features = true) (known : state = .valid ∨ state = .expired) :
    ∃ encoded, encodeHeartbeatAck fb (heartbeatAck connection session requestId state) =
      .ok encoded := by
  refine Service.encodeHeartbeatAck_valid named ?_ known features
  change connection.handshake.selectedVersion ≠ 0
  rw [handshake]
  exact version

/-- The acknowledgement of a heartbeat on an unexpired license. -/
theorem acknowledge_inSession (lawful : fb.Lawful fb envelopeIdentifier Envelope.contentSize)
    {ssl : OpenSsl} (correct : ssl.Correct suite) (sessions : Core.SessionManager)
    {session : Core.Session} {request : HeartbeatMessage} {nowUnixSeconds : UInt64}
    (handshake : connection.handshake = server.inSession keys reads writes)
    (moreWrites : writes + 1 < sequenceCount) (requestId : request.requestId ≠ 0)
    (version : server.selectedVersion ≠ 0) (features : validFeatures session.features = true)
    (unexpired : Service.licenseExpired connection.license nowUnixSeconds = false) :
    ∃ encoded,
      encodeHeartbeatAck fb (heartbeatAck connection session request.requestId .valid) =
        .ok encoded ∧
      connection.acknowledge fb ssl sessions session request nowUnixSeconds =
        { connection :=
            { connection with handshake := server.inSession keys reads (writes + 1) }
          sessions
          result := { response := some (responseFrame suite keys writes encoded) } } := by
  have known : AuthorizationState.valid = .valid ∨ AuthorizationState.valid = .expired := .inl rfl
  obtain ⟨encoded, encodes⟩ :=
    exists_encodeHeartbeatAck fb handshake version requestId features known
  refine ⟨encoded, encodes, ?_⟩
  rw [Connection.acknowledge_of_unexpired unexpired encodes]
  exact encryptedResponse_inSession correct sessions handshake moreWrites
    (fits_of_encode lawful .heartbeatAck encodes) false

/-- The acknowledgement of a heartbeat on an expired license ends the session. -/
theorem acknowledge_expired_inSession
    (lawful : fb.Lawful fb envelopeIdentifier Envelope.contentSize) {ssl : OpenSsl}
    (correct : ssl.Correct suite) (sessions : Core.SessionManager) {session : Core.Session}
    {request : HeartbeatMessage} {nowUnixSeconds : UInt64}
    (handshake : connection.handshake = server.inSession keys reads writes)
    (current : connection.session = some session)
    (moreWrites : writes + 1 < sequenceCount) (requestId : request.requestId ≠ 0)
    (version : server.selectedVersion ≠ 0) (features : validFeatures session.features = true)
    (expired : Service.licenseExpired connection.license nowUnixSeconds = true) :
    ∃ encoded,
      encodeHeartbeatAck fb (heartbeatAck connection session request.requestId .expired) =
        .ok encoded ∧
      connection.acknowledge fb ssl sessions session request nowUnixSeconds =
        { connection :=
            { connection with
              handshake := server.inSession keys reads (writes + 1)
              session := none
              state := .closed }
          sessions := sessions.close session.id
          result :=
            { error := some .licenseExpired
              response := some (responseFrame suite keys writes encoded)
              closed := true } } := by
  have known : AuthorizationState.expired = .valid ∨ AuthorizationState.expired = .expired :=
    .inr rfl
  obtain ⟨encoded, encodes⟩ :=
    exists_encodeHeartbeatAck fb handshake version requestId features known
  refine ⟨encoded, encodes, ?_⟩
  let ended : Connection := { connection with session := none }
  have responds := @encryptedResponse_inSession suite ended server keys reads writes ssl correct
    (sessions.close session.id) encoded handshake moreWrites
    (fits_of_encode lawful .heartbeatAck encodes) true
  have encodes' := encodes
  unfold heartbeatAck at encodes'
  unfold Connection.acknowledge
  simp only [expired, if_true, encodes']
  unfold Connection.closeSession
  rw [current]
  dsimp only
  rw [responds]
  rfl

/-- A `CloseSession` ends the session without an answer. -/
theorem handleAt_close_inSession
    (lawful : fb.Lawful fb envelopeIdentifier Envelope.contentSize) {call : HandleCall}
    (correct : call.ssl.Correct suite) {session : Core.Session} {request : CloseSessionMessage}
    {plaintext : Bytes} (state : connection.state = .active)
    (handshake : connection.handshake = server.inSession keys reads writes)
    (current : connection.session = some session) (moreReads : reads + 1 < sequenceCount)
    (encode : encodeCloseSession fb request = .ok plaintext)
    (version : request.protocolVersion = server.selectedVersion) :
    connection.handleAt fb call (requestFrame suite keys reads plaintext) =
      some
        { connection :=
            { connection with
              handshake := server.inSession keys (reads + 1) writes
              session := none
              state := .closed }
          sessions := call.sessions.close session.id
          result := { closed := true } } := by
  have decoded : decodeCloseSession fb plaintext = some (.ok request) :=
    MessageKind.decode_encode lawful .closeSession encode
  have notHeartbeat : decodeHeartbeat fb plaintext = some (.error .unexpectedType) :=
    @MessageKind.decode_other fb lawful .closeSession .heartbeat _ _ encode (by decide)
  rw [handleAt_inSession correct handshake moreReads (fits_of_encode lawful .closeSession encode)
    (.inr state), if_neg (by rw [state]; decide)]
  unfold Connection.handleActive
  rw [notHeartbeat]
  dsimp only
  rw [decoded]
  dsimp only
  rw [if_pos (show request.protocolVersion = (server.inSession keys (reads + 1)
    writes).selectedVersion from version)]
  unfold Connection.closeSession
  rw [current]

end

end YoAuthorize.Sdk
