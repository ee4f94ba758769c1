import YoAuthorize.Core.License
import YoAuthorize.Protocol.Handshake

/-!
# Service connections

`Connection` (`connection.cpp`).  A call takes the session manager that the
connections of a service share and returns it with its changes; it also takes
the library it runs against and the ids that `SessionManager::create` may draw.
`Handled.created` is the session that the call's `create` returned, which the
program does not keep once the session is closed.
-/

namespace YoAuthorize.Service

open Octets Crypto FlatBuffer Protocol Protocol.Schema YoAuthorize.Core

/-- `ConnectionError` without `None`. -/
inductive ConnectionError : Type
  | invalidFrame
  | handshakeFailed
  | invalidMessage
  | productMismatch
  | sessionLimitExceeded
  | invalidSession
  | licenseExpired
  | closed
  deriving DecidableEq, Repr

structure ConnectionResult : Type where
  error : Option ConnectionError := none
  response : Option Bytes := none
  closed : Bool := false
  deriving DecidableEq

inductive ConnectionState : Type
  | awaitingHello
  | awaitingFinished
  | awaitingAuthorize
  | active
  | closed
  deriving DecidableEq, Repr

structure Connection : Type where
  handshake : ServerHandshake
  license : LicenseSnapshot
  peerIdentity : Bytes
  heartbeatIntervalMs : UInt32
  heartbeatTimeoutMs : UInt32
  session : Option Session := none
  state : ConnectionState := .awaitingHello
  deriving DecidableEq

/-- The arguments of the constructor besides the license and the manager. -/
structure ConnectionOptions : Type where
  serviceKeyId : Bytes
  identityPrivateKey : Key
  peerIdentity : Bytes
  heartbeatIntervalMs : UInt32
  heartbeatTimeoutMs : UInt32
  deriving DecidableEq

def Connection.construct (license : LicenseSnapshot) (options : ConnectionOptions) :
    Connection where
  handshake :=
    { serviceKeyId := options.serviceKeyId, identityPrivateKey := options.identityPrivateKey }
  license := license
  peerIdentity := options.peerIdentity
  heartbeatIntervalMs := options.heartbeatIntervalMs
  heartbeatTimeoutMs := options.heartbeatTimeoutMs

/-- The state after a call and what the call returned. -/
structure Handled : Type where
  connection : Connection
  sessions : SessionManager
  result : ConnectionResult
  created : Option Session := none
  deriving DecidableEq

def wrapPlaintext (payload : Bytes) : Bytes :=
  (encodeHeader { payloadSize := UInt32.ofNat payload.length }).val ++ payload

def protocolId (id : Core.SessionId) : Protocol.SessionId := id

def licenseExpired (license : LicenseSnapshot) (nowUnixSeconds : UInt64) : Bool :=
  license.expireTime ≠ 0 ∧ nowUnixSeconds ≥ license.expireTime

namespace Connection

def closeSession (connection : Connection) (sessions : SessionManager) :
    Connection × SessionManager :=
  match connection.session with
  | none => (connection, sessions)
  | some session => ({ connection with session := none }, sessions.close session.id)

/-- `state_ = State::Closed`, then the error. -/
def reject (connection : Connection) (sessions : SessionManager) (error : ConnectionError) :
    Handled where
  connection := { connection with state := .closed }
  sessions := sessions
  result := { error := some error, closed := true }

/-- `state_ = State::Closed; closeSession()`, then the error. -/
def abort (connection : Connection) (sessions : SessionManager) (error : ConnectionError) :
    Handled :=
  let (connection, sessions) := { connection with state := .closed }.closeSession sessions
  { connection, sessions, result := { error := some error, closed := true } }

section

variable (fb : Binding Envelope) (ssl : OpenSsl)

def encryptedResponse (connection : Connection) (sessions : SessionManager) (plaintext : Bytes)
    (closeAfter : Bool := false) : Handled :=
  match connection.handshake.seal ssl plaintext with
  | (handshake, .error _) => { connection with handshake }.abort sessions .invalidFrame
  | (handshake, .ok encrypted) =>
      { connection :=
          { connection with
            handshake
            state := if closeAfter then .closed else connection.state }
        sessions
        result := { response := some encrypted, closed := closeAfter } }

def handleHello (connection : Connection) (sessions : SessionManager) (frame : Bytes) :
    Call Handled :=
  match decodeFrame frame with
  | .error _ => some (connection.reject sessions .invalidFrame)
  | .ok (header, payload) =>
      if header.flags ≠ 0 ∨ header.sequence ≠ 0 then
        some (connection.reject sessions .invalidFrame)
      else
        match connection.handshake.handleClientHello fb ssl payload with
        | none => none
        | some (handshake, .error _) =>
            some ({ connection with handshake }.reject sessions .handshakeFailed)
        | some (handshake, .ok encoded) =>
            some
              { connection := { connection with handshake, state := .awaitingFinished }
                sessions
                result := { response := some (wrapPlaintext encoded) } }

def handleFinished (connection : Connection) (sessions : SessionManager) (frame : Bytes) :
    Call Handled :=
  match connection.handshake.handleClientFinished fb ssl frame with
  | none => none
  | some (handshake, .error _) =>
      some ({ connection with handshake }.reject sessions .handshakeFailed)
  | some (handshake, .ok ()) =>
      some
        { connection := { connection with handshake, state := .awaitingAuthorize }
          sessions
          result := {} }

/-- The answer to an `Authorize` request before it is encoded. -/
structure Decision : Type where
  connection : Connection
  sessions : SessionManager
  response : AuthResultMessage
  error : Option ConnectionError
  created : Option Session := none

def authorize (connection : Connection) (sessions : SessionManager) (draws : List Core.SessionId)
    (request : AuthorizeMessage) (nowMonotonicMs nowUnixSeconds : UInt64) : Decision :=
  let response : AuthResultMessage :=
    { requestId := request.requestId
      protocolVersion := connection.handshake.selectedVersion
      heartbeatIntervalMs := connection.heartbeatIntervalMs
      heartbeatTimeoutMs := connection.heartbeatTimeoutMs }
  let license := connection.license
  if request.productId ≠ license.productId then
    { connection, sessions, response := { response with error := .productMismatch }
      error := some .productMismatch }
  else if licenseExpired license nowUnixSeconds then
    { connection, sessions, response := { response with error := .expired }
      error := some .licenseExpired }
  else
    match sessions.create draws license.productId connection.peerIdentity license.features
        license.expireTime nowMonotonicMs license.maxSessions with
    | (sessions, .error _) =>
        { connection, sessions, response := { response with error := .sessionLimitExceeded }
          error := some .sessionLimitExceeded }
    | (sessions, .ok session) =>
        { connection := { connection with session := some session, state := .active }
          sessions
          response :=
            { response with
              sessionId := some (protocolId session.id)
              features := session.features
              expireTime := session.expireTime }
          error := none
          created := some session }

/-- The encoding and the record of a decision. -/
def answer (decision : Decision) : Handled :=
  match encodeAuthResult fb decision.response with
  | .error _ =>
      { decision.connection.abort decision.sessions .invalidMessage with
        created := decision.created }
  | .ok encoded =>
      let handled := decision.connection.encryptedResponse ssl decision.sessions encoded
        decision.error.isSome
      { handled with
        result := { handled.result with error := decision.error }
        created := decision.created }

def handleAuthorize (connection : Connection) (sessions : SessionManager)
    (draws : List Core.SessionId) (plaintext : Bytes) (nowMonotonicMs nowUnixSeconds : UInt64) :
    Call Handled :=
  match decodeAuthorize fb plaintext with
  | none => none
  | some (.error _) => some (connection.reject sessions .invalidMessage)
  | some (.ok request) =>
      if request.protocolVersion ≠ connection.handshake.selectedVersion then
        some (connection.reject sessions .invalidMessage)
      else
        some (answer fb ssl
          (connection.authorize sessions draws request nowMonotonicMs nowUnixSeconds))

/-- The acknowledgement of a heartbeat that the manager has recorded. -/
def acknowledge (connection : Connection) (sessions : SessionManager) (session : Session)
    (request : HeartbeatMessage) (nowUnixSeconds : UInt64) : Handled :=
  let expired := licenseExpired connection.license nowUnixSeconds
  let ack : HeartbeatAckMessage :=
    { requestId := request.requestId
      protocolVersion := connection.handshake.selectedVersion
      state := if expired then .expired else .valid
      features := session.features
      expireTime := session.expireTime }
  match encodeHeartbeatAck fb ack with
  | .error _ => connection.abort sessions .invalidMessage
  | .ok encoded =>
      if expired then
        let (connection, sessions) := connection.closeSession sessions
        let handled := connection.encryptedResponse ssl sessions encoded true
        { handled with result := { handled.result with error := some .licenseExpired } }
      else connection.encryptedResponse ssl sessions encoded

def handleHeartbeat (connection : Connection) (sessions : SessionManager)
    (request : HeartbeatMessage) (nowMonotonicMs nowUnixSeconds : UInt64) : Handled :=
  if request.protocolVersion ≠ connection.handshake.selectedVersion then
    connection.abort sessions .invalidSession
  else
    match connection.session with
    | none => connection.abort sessions .invalidSession
    | some session =>
        if request.sessionId ≠ protocolId session.id then connection.abort sessions .invalidSession
        else
          match sessions.heartbeat session.id nowMonotonicMs with
          | (sessions, .error _) => connection.abort sessions .invalidSession
          | (sessions, .ok ()) =>
              connection.acknowledge fb ssl sessions session request nowUnixSeconds

def handleActive (connection : Connection) (sessions : SessionManager) (plaintext : Bytes)
    (nowMonotonicMs nowUnixSeconds : UInt64) : Call Handled :=
  match decodeHeartbeat fb plaintext with
  | none => none
  | some (.ok request) =>
      some (connection.handleHeartbeat fb ssl sessions request nowMonotonicMs nowUnixSeconds)
  | some (.error _) =>
      match decodeCloseSession fb plaintext with
      | none => none
      | some (.error _) => some (connection.abort sessions .invalidMessage)
      | some (.ok close) =>
          if close.protocolVersion = connection.handshake.selectedVersion then
            let (connection, sessions) := connection.closeSession sessions
            some
              { connection := { connection with state := .closed }
                sessions
                result := { closed := true } }
          else some (connection.abort sessions .invalidMessage)

def handle (connection : Connection) (sessions : SessionManager) (draws : List Core.SessionId)
    (frame : Bytes) (nowMonotonicMs nowUnixSeconds : UInt64) : Call Handled :=
  match connection.state with
  | .closed => some { connection, sessions, result := { error := some .closed } }
  | .awaitingHello => connection.handleHello fb ssl sessions frame
  | .awaitingFinished => connection.handleFinished fb ssl sessions frame
  | state =>
      match connection.handshake.open ssl frame with
      | (handshake, .error _) => some ({ connection with handshake }.abort sessions .invalidFrame)
      | (handshake, .ok plaintext) =>
          if state = .awaitingAuthorize then
            { connection with handshake }.handleAuthorize fb ssl sessions draws plaintext
              nowMonotonicMs nowUnixSeconds
          else
            { connection with handshake }.handleActive fb ssl sessions plaintext nowMonotonicMs
              nowUnixSeconds

/-- The handshake that answers a frame: the connection's own, after the frame. -/
def sender (connection : Connection) (frame : Bytes) : ServerHandshake :=
  (connection.handshake.open ssl frame).1

def established (connection : Connection) : Bool :=
  connection.state = .awaitingAuthorize || connection.state = .active

/-- `~Connection`. -/
def destruct (connection : Connection) (sessions : SessionManager) : SessionManager :=
  (connection.closeSession sessions).2

end

end Connection

end YoAuthorize.Service
