import YoAuthorize.Service.HonestService

/-!
# The license client

`LicenseClient::Impl` (`client.cpp`).  `Transport World` is the socket of one
client: each call may do anything to the rest of the world and returns what the
client sees of it, so a deadline that passes is one more way to fail.  A call
of the client takes the library of each of its OpenSSL calls.

`heartbeatLoop` is cut at its wait: `heartbeatRound` is the body of the loop
after the wait, and `heartbeatThread` says where the thread stands.
`shutdown` is cut at its join: `requestStop` comes before it, `finishShutdown`
after it.
-/

namespace YoAuthorize.Sdk

open Octets Crypto FlatBuffer Protocol Protocol.Schema
open YoAuthorize.Service (wrapPlaintext unwrapPlaintext)

inductive ClientState : Type
  | uninitialized
  | connecting
  | valid
  | grace
  | expired
  | revoked
  | error
  | closed
  deriving DecidableEq, Repr

/-- `ClientError` without the errors that no call returns. -/
inductive ClientError : Type
  | none
  | invalidConfig
  | transport
  | protocol
  | serviceIdentityInvalid
  | authorizationDenied
  | alreadyInitialized
  deriving DecidableEq, Repr

structure Status : Type where
  error : ClientError := .none
  message : String := ""
  deriving DecidableEq, Repr

/-- `Status::operator bool`. -/
def Status.succeeds (status : Status) : Bool := status.error = .none

/-- The timeouts are in milliseconds. -/
structure ClientConfig : Type where
  productId : Bytes := []
  endpoint : Bytes := ofAscii "/run/yoauthorize/license-v1.sock"
  trustedServiceKeys : AList fun _ : Bytes => Key := ∅
  connectTimeout : Int := 5000
  ioTimeout : Int := 5000

def ClientConfig.incomplete (config : ClientConfig) : Bool :=
  config.productId = [] ∨ config.endpoint = [] ∨ config.trustedServiceKeys.entries = [] ∨
    config.connectTimeout ≤ 0 ∨ config.ioTimeout ≤ 0

structure LicenseSnapshot : Type where
  state : ClientState := .uninitialized
  features : List Bytes := []
  expireTime : UInt64 := 0
  deriving DecidableEq

/-! ## Frames -/

/-- `UnixSocketTransport` as one client sees it. -/
structure Transport (World : Type) : Type where
  connect : World → World × Bool
  writeAll : Bytes → World → World × Bool
  readExact : (size : Nat) → World → World × Option (FixedBytes size)
  close : World → World

section

variable {World : Type} (fb : Binding Envelope) (transport : Transport World)

def readFrame (world : World) : World × Except Status Bytes :=
  match transport.readExact kFrameHeaderSize world with
  | (world, none) =>
      (world, .error { error := .transport, message := "failed to read service frame" })
  | (world, some headerBytes) =>
      match decodeHeader headerBytes.val with
      | .error _ =>
          (world, .error { error := .protocol, message := "service sent an invalid frame" })
      | .ok header =>
          match transport.readExact header.payloadSize.toNat world with
          | (world, none) =>
              (world, .error { error := .transport, message := "failed to read service payload" })
          | (world, some payload) => (world, .ok (headerBytes.val ++ payload.val))

/-- Where the exchange of one record for another stopped. -/
inductive ExchangeFailure : Type
  | notSent
  | notRead (status : Status)
  | notOpened
  deriving DecidableEq

/-- The status of an `Authorize` request that got no answer. -/
def ExchangeFailure.status : ExchangeFailure → Status
  | .notSent => { error := .transport, message := "failed to send authorization" }
  | .notRead status => status
  | .notOpened => { error := .protocol, message := "authorization response is invalid" }

/-- `seal`, `writeFrame`, `readFrame` and `open`, which `initialize` and a
heartbeat both go through.  A plaintext in the result is one that
`ClientHandshake::open` accepted. -/
def exchangeRecord (sealing opening : OpenSsl) (handshake : ClientHandshake) (plaintext : Bytes)
    (world : World) : World × ClientHandshake × Except ExchangeFailure Bytes :=
  match handshake.seal sealing plaintext with
  | (handshake, .error _) => (world, handshake, .error .notSent)
  | (handshake, .ok frame) =>
      match transport.writeAll frame world with
      | (world, false) => (world, handshake, .error .notSent)
      | (world, true) =>
          match readFrame transport world with
          | (world, .error status) => (world, handshake, .error (.notRead status))
          | (world, .ok response) =>
              match handshake.open opening response with
              | (handshake, .error _) => (world, handshake, .error .notOpened)
              | (handshake, .ok opened) => (world, handshake, .ok opened)

/-! ## The client -/

/-- Where `heartbeat_thread_` stands; a thread that was joined is `none` again. -/
inductive HeartbeatThread : Type
  | none
  | waiting
  | beating
  | returned
  deriving DecidableEq, Repr

structure LicenseClient : Type where
  snapshot : LicenseSnapshot := {}
  config : ClientConfig := {}
  sessionId : Protocol.SessionId := .zeros kSessionIdSize
  heartbeatIntervalMs : UInt32 := 0
  nextRequestId : UInt64 := 3
  stopRequested : Bool := false
  hasTransport : Bool := false
  handshake : Option ClientHandshake := none
  heartbeatThread : HeartbeatThread := .none

namespace LicenseClient

def hasFeature (client : LicenseClient) (feature : Bytes) : Bool :=
  client.snapshot.state = .valid ∧ feature ∈ client.snapshot.features

/-- Closes and drops the transport and drops the handshake. -/
def disconnect (client : LicenseClient) (world : World) : LicenseClient × World :=
  ({ client with hasTransport := false, handshake := none },
    if client.hasTransport then transport.close world else world)

/-- What a call of `initialize` leaves; `opened` is the plaintext that its
`ClientHandshake::open` accepted, which the program does not keep. -/
structure Initialized (World : Type) : Type where
  client : LicenseClient
  world : World
  status : Status
  opened : Option Bytes := none

def fail (client : LicenseClient) (world : World) (status : Status)
    (opened : Option Bytes := none) : Initialized World :=
  let (client, world) := client.disconnect transport world
  { client :=
      { client with snapshot := { client.snapshot with state := .error, features := [] } }
    world, status, opened }

/-- What the calls of `initialize` run with. -/
structure InitializeCalls : Type where
  start : OpenSsl
  serverHello : OpenSsl
  sealing : OpenSsl
  opening : OpenSsl
  processId : UInt64

/-- The part of `initialize` from the `ClientHello` to the `ClientFinished`. -/
def establish (calls : InitializeCalls) (handshake : ClientHandshake) (world : World) :
    Call (World × Except Status ClientHandshake) :=
  match handshake.start fb calls.start with
  | (_, .error _) =>
      some (world, .error { error := .protocol, message := "failed to start service handshake" })
  | (handshake, .ok hello) =>
      match transport.writeAll (wrapPlaintext hello) world with
      | (world, false) =>
          some (world,
            .error { error := .protocol, message := "failed to start service handshake" })
      | (world, true) =>
          match readFrame transport world with
          | (world, .error status) => some (world, .error status)
          | (world, .ok frame) =>
              if unwrapPlaintext frame = [] then
                some (world,
                  .error { error := .protocol, message := "service hello frame is invalid" })
              else
                match handshake.handleServerHello fb calls.serverHello (unwrapPlaintext frame) with
                | none => none
                | some (_, .error _) =>
                    some (world,
                      .error
                        { error := .serviceIdentityInvalid
                          message := "service identity authentication failed" })
                | some (handshake, .ok finished) =>
                    match transport.writeAll finished world with
                    | (world, false) =>
                        some (world,
                          .error
                            { error := .transport
                              message := "failed to finish service handshake" })
                    | (world, true) => some (world, .ok handshake)

/-- The checks of `initialize` on a decoded `AuthResult`. -/
def denies (handshake : ClientHandshake) (response : AuthResultMessage) : Bool :=
  response.error ≠ .none ∨ response.requestId ≠ 2 ∨
    response.protocolVersion ≠ handshake.selectedVersion ∨ response.sessionId = none ∨
    response.heartbeatIntervalMs = 0 ∨ response.heartbeatTimeoutMs = 0 ∨
    response.heartbeatIntervalMs ≥ response.heartbeatTimeoutMs

/-- The client that starts its heartbeats on a granted `AuthResult`. -/
def begin (client : LicenseClient) (config : ClientConfig) (handshake : ClientHandshake)
    (response : AuthResultMessage) (sessionId : Protocol.SessionId) : LicenseClient :=
  { client with
    config
    sessionId
    heartbeatIntervalMs := response.heartbeatIntervalMs
    snapshot :=
      { state := .valid, features := response.features, expireTime := response.expireTime }
    handshake := some handshake
    heartbeatThread := .waiting }

def denied : Status where
  error := .authorizationDenied
  message := "service denied authorization"

/-- The part of `initialize` after the `ClientFinished`. -/
def requestAuthorization (calls : InitializeCalls) (config : ClientConfig)
    (client : LicenseClient) (handshake : ClientHandshake) (world : World) :
    Call (Initialized World) :=
  match encodeAuthorize fb
      { requestId := 2
        protocolVersion := handshake.selectedVersion
        productId := config.productId
        processId := calls.processId } with
  | .error _ =>
      some (client.fail transport world
        { error := .protocol, message := "failed to encode authorization" })
  | .ok authorize =>
      match exchangeRecord transport calls.sealing calls.opening handshake authorize world with
      | (world, _, .error failure) => some (client.fail transport world failure.status)
      | (world, handshake, .ok opened) =>
          match decodeAuthResult fb opened with
          | none => none
          | some (.error _) => some (client.fail transport world denied (some opened))
          | some (.ok response) =>
              match denies handshake response, response.sessionId with
              | false, some sessionId =>
                  some
                    { client := client.begin config handshake response sessionId
                      world
                      status := {}
                      opened := some opened }
              | _, _ => some (client.fail transport world denied (some opened))

/-- `ClientHandshake(trusted_service_keys, "yoauthorize-cpp/0.1", 1)`. -/
def sdkHandshake (config : ClientConfig) : ClientHandshake where
  trustedKeys := config.trustedServiceKeys.lookup
  sdkVersion := ofAscii "yoauthorize-cpp/0.1"
  requestId := 1

/-- `initialize`. -/
def initializeClient (calls : InitializeCalls) (config : ClientConfig) (client : LicenseClient)
    (world : World) : Call (Initialized World) :=
  if client.snapshot.state ≠ .uninitialized then
    some
      { client, world
        status := { error := .alreadyInitialized, message := "client is already initialized" } }
  else if config.incomplete then
    some
      { client := { client with snapshot := { client.snapshot with state := .error } }
        world
        status := { error := .invalidConfig, message := "client configuration is incomplete" } }
  else
    let client :=
      { client with
        snapshot := { client.snapshot with state := .connecting }
        hasTransport := true }
    match transport.connect world with
    | (world, false) =>
        some (client.fail transport world
          { error := .transport, message := "failed to connect to service" })
    | (world, true) =>
        match establish fb transport calls (sdkHandshake config) world with
        | none => none
        | some (world, .error status) => some (client.fail transport world status)
        | some (world, .ok handshake) =>
            requestAuthorization fb transport calls config client handshake world

/-! ## Heartbeats -/

/-- What a heartbeat round leaves; the program keeps neither the request nor
the plaintext that `ClientHandshake::open` accepted. -/
structure Beaten (World : Type) : Type where
  client : LicenseClient
  world : World
  sent : HeartbeatMessage
  opened : Option Bytes := none

/-- `heartbeatFailed`, after which the thread returns. -/
def heartbeatFailed (client : LicenseClient) : LicenseClient :=
  { client with
    snapshot := { client.snapshot with state := .error, features := [] }
    heartbeatThread := .returned }

/-- The `switch` over the acknowledged state, which has no default. -/
def acknowledgedState (current : ClientState) (state : AuthorizationState) : ClientState :=
  if state = .valid then .valid
  else if state = .grace then .grace
  else if state = .expired then .expired
  else if state = .revoked then .revoked
  else if state = .unknown then .error
  else current

def acknowledged (client : LicenseClient) (ack : HeartbeatAckMessage) : LicenseClient :=
  let state := acknowledgedState client.snapshot.state ack.state
  { client with
    snapshot :=
      { state
        features := if state = .valid then ack.features else []
        expireTime := ack.expireTime }
    heartbeatThread := if state = .valid then .waiting else .returned }

/-- What a heartbeat runs with. -/
structure RoundCalls : Type where
  sealing : OpenSsl
  opening : OpenSsl

/-- The body of `heartbeatLoop` after the wait; a null handshake is read through. -/
def heartbeatRound (calls : RoundCalls) (client : LicenseClient) (world : World) :
    Call (Beaten World) :=
  match client.handshake with
  | none => none
  | some handshake =>
      let sent : HeartbeatMessage :=
        { requestId := client.nextRequestId
          protocolVersion := handshake.selectedVersion
          sessionId := client.sessionId }
      let client := { client with nextRequestId := client.nextRequestId + 1 }
      match encodeHeartbeat fb sent with
      | .error _ => some { client := client.heartbeatFailed, world, sent }
      | .ok heartbeat =>
          match exchangeRecord transport calls.sealing calls.opening handshake heartbeat world with
          | (world, handshake, .error _) =>
              some
                { client := { client with handshake := some handshake }.heartbeatFailed
                  world, sent }
          | (world, handshake, .ok opened) =>
              let client := { client with handshake := some handshake }
              match decodeHeartbeatAck fb opened with
              | none => none
              | some (.error _) =>
                  some { client := client.heartbeatFailed, world, sent, opened := some opened }
              | some (.ok ack) =>
                  if ack.requestId ≠ sent.requestId ∨
                      ack.protocolVersion ≠ handshake.selectedVersion then
                    some { client := client.heartbeatFailed, world, sent, opened := some opened }
                  else
                    some { client := client.acknowledged ack, world, sent, opened := some opened }

/-- The two ends of a round: it fails, or an acknowledgement of its heartbeat is accepted. -/
theorem heartbeatRound_ends {fb : Binding Envelope} {transport : Transport World}
    {calls : RoundCalls} {client : LicenseClient} {world : World} {beaten : Beaten World}
    (returned : client.heartbeatRound fb transport calls world = some beaten) :
    (∃ handshake, beaten.client =
      { client with nextRequestId := client.nextRequestId + 1, handshake }.heartbeatFailed) ∨
    ∃ handshake opened ack, beaten.opened = some opened ∧
      decodeHeartbeatAck fb opened = some (.ok ack) ∧ ack.requestId = beaten.sent.requestId ∧
      ack.protocolVersion = handshake.selectedVersion ∧
      beaten.client =
        { client with
          nextRequestId := client.nextRequestId + 1
          handshake := some handshake }.acknowledged ack := by
  unfold heartbeatRound at returned
  split at returned
  · cases returned
  dsimp only at returned
  split at returned
  · cases returned
    exact .inl ⟨_, rfl⟩
  split at returned
  · cases returned
    exact .inl ⟨_, rfl⟩
  split at returned
  · cases returned
  · cases returned
    exact .inl ⟨_, rfl⟩
  rename_i after opened exchanged _ ack decoded
  split at returned
  · cases returned
    exact .inl ⟨_, rfl⟩
  · rename_i checks
    simp only [not_or, not_not] at checks
    cases returned
    exact .inr ⟨after, opened, ack, rfl, decoded, checks.1, checks.2, rfl⟩

/-- Turns of `heartbeatLoop` in which no stop is requested: it returns as soon
as the client is not valid.  The list holds the heartbeats with the plaintexts
that were accepted for them. -/
def heartbeatLoop (calls : Nat → RoundCalls) (client : LicenseClient) (world : World) :
    Nat → Call (LicenseClient × World × List (HeartbeatMessage × Option Bytes))
  | 0 => some (client, world, [])
  | rounds + 1 =>
      match heartbeatLoop calls client world rounds with
      | none => none
      | some (client, world, exchanged) =>
          if client.heartbeatThread ≠ .waiting then some (client, world, exchanged)
          else
            match client.heartbeatRound fb transport (calls rounds) world with
            | none => none
            | some beaten =>
                some (beaten.client, beaten.world, exchanged ++ [(beaten.sent, beaten.opened)])

/-! ## Shutdown -/

def requestStop (client : LicenseClient) : LicenseClient := { client with stopRequested := true }

/-- The `CloseSession` of an established session; no failure is reported. -/
def sendCloseSession (ssl : OpenSsl) (client : LicenseClient) (world : World) :
    LicenseClient × World :=
  match client.hasTransport, client.handshake with
  | true, some handshake =>
      if handshake.state ≠ .established then (client, world)
      else
        let requestId := client.nextRequestId
        let client := { client with nextRequestId := requestId + 1 }
        match encodeCloseSession fb
            { requestId, protocolVersion := handshake.selectedVersion } with
        | .error _ => (client, world)
        | .ok close =>
            match handshake.seal ssl close with
            | (_, .error _) => (client, world)
            | (_, .ok frame) => (client, (transport.writeAll frame world).1)
  | _, _ => (client, world)

/-- The part of `shutdown` from the join on. -/
def finishShutdown (ssl : OpenSsl) (client : LicenseClient) (world : World) :
    LicenseClient × World :=
  let (client, world) := sendCloseSession fb transport ssl client world
  let (client, world) := client.disconnect transport world
  ({ client with
      snapshot := { client.snapshot with state := .closed, features := [] }
      heartbeatThread := .none },
    world)

end LicenseClient

end

end YoAuthorize.Sdk
