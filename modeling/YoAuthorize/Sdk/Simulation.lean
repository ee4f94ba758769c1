import YoAuthorize.Sdk.Client

/-!
# Clients over related transports

A client sees of its socket what the calls return.  Two transports that return the
same in related worlds, and lead to related worlds, are the same to it: `initialize`
and every heartbeat then end alike, in related worlds again.
-/

namespace YoAuthorize.Sdk

open Octets Crypto FlatBuffer Protocol Protocol.Schema

variable {World Other : Type}

/-- Two results with related worlds and otherwise the same. -/
inductive Agree {α : Type} (related : World → Other → Prop) : World × α → Other × α → Prop
  | intro {world : World} {otherWorld : Other} (worlds : related world otherWorld) (value : α) :
      Agree related (world, value) (otherWorld, value)

structure Transport.Simulates (transport : Transport World) (other : Transport Other)
    (related : World → Other → Prop) : Prop where
  connect : ∀ {world otherWorld}, related world otherWorld →
    Agree related (transport.connect world) (other.connect otherWorld)
  writeAll : ∀ {world otherWorld} (bytes : Bytes), related world otherWorld →
    Agree related (transport.writeAll bytes world) (other.writeAll bytes otherWorld)
  readExact : ∀ {world otherWorld} (size : Nat), related world otherWorld →
    Agree related (transport.readExact size world) (other.readExact size otherWorld)
  close : ∀ {world otherWorld}, related world otherWorld →
    related (transport.close world) (other.close otherWorld)

section

variable {transport : Transport World} {other : Transport Other}
  {related : World → Other → Prop} {world : World} {otherWorld : Other}
  {fb : Binding Envelope}

theorem readFrame_simulates (simulates : transport.Simulates other related)
    (start : related world otherWorld) :
    Agree related (readFrame transport world) (readFrame other otherWorld) := by
  have readHeader := simulates.readExact kFrameHeaderSize start
  unfold readFrame
  generalize transport.readExact kFrameHeaderSize world = left at readHeader ⊢
  generalize other.readExact kFrameHeaderSize otherWorld = right at readHeader ⊢
  obtain @⟨middle, otherMiddle, worlds, _ | headerBytes⟩ := readHeader
  · exact .intro worlds _
  dsimp only
  cases decodeHeader headerBytes.val with
  | error error => exact .intro worlds _
  | ok header =>
      dsimp only
      have readPayload := simulates.readExact header.payloadSize.toNat worlds
      generalize transport.readExact header.payloadSize.toNat middle = left at readPayload ⊢
      generalize other.readExact header.payloadSize.toNat otherMiddle = right at readPayload ⊢
      obtain @⟨last, otherLast, worlds, _ | payload⟩ := readPayload
      · exact .intro worlds _
      · exact .intro worlds _

theorem exchangeRecord_simulates (simulates : transport.Simulates other related)
    (sealing opening : OpenSsl) (handshake : ClientHandshake) (plaintext : Bytes)
    (start : related world otherWorld) :
    Agree related (exchangeRecord transport sealing opening handshake plaintext world)
      (exchangeRecord other sealing opening handshake plaintext otherWorld) := by
  unfold exchangeRecord
  rcases handshake.seal sealing plaintext with ⟨sealed, error | frame⟩
  · exact .intro start _
  dsimp only
  have writes := simulates.writeAll frame start
  generalize transport.writeAll frame world = left at writes ⊢
  generalize other.writeAll frame otherWorld = right at writes ⊢
  obtain @⟨middle, otherMiddle, worlds, _ | _⟩ := writes
  · exact .intro worlds _
  dsimp only
  have reads := readFrame_simulates simulates worlds
  generalize readFrame transport middle = left at reads ⊢
  generalize readFrame other otherMiddle = right at reads ⊢
  obtain @⟨last, otherLast, worlds, status | response⟩ := reads
  · exact .intro worlds _
  dsimp only
  rcases sealed.open opening response with ⟨opened, error | plaintext⟩
  · exact .intro worlds _
  · exact .intro worlds _

namespace LicenseClient

/-- Two calls that both do not return, or agree. -/
inductive AgreeCall {α : Type} (related : World → Other → Prop) :
    Call (World × α) → Call (Other × α) → Prop
  | diverges : AgreeCall related none none
  | returns {left : World × α} {right : Other × α} (agree : Agree related left right) :
      AgreeCall related (some left) (some right)

theorem establish_simulates (simulates : transport.Simulates other related)
    (calls : InitializeCalls) (handshake : ClientHandshake) (start : related world otherWorld) :
    AgreeCall related (establish fb transport calls handshake world)
      (establish fb other calls handshake otherWorld) := by
  unfold establish
  rcases handshake.start fb calls.start with ⟨started, error | hello⟩
  · exact .returns (.intro start _)
  dsimp only
  have writes := simulates.writeAll (YoAuthorize.Service.wrapPlaintext hello) start
  generalize transport.writeAll _ world = left at writes ⊢
  generalize other.writeAll _ otherWorld = right at writes ⊢
  obtain @⟨middle, otherMiddle, worlds, _ | _⟩ := writes
  · exact .returns (.intro worlds _)
  dsimp only
  have reads := readFrame_simulates simulates worlds
  generalize readFrame transport middle = left at reads ⊢
  generalize readFrame other otherMiddle = right at reads ⊢
  obtain @⟨last, otherLast, worlds, status | frame⟩ := reads
  · exact .returns (.intro worlds _)
  dsimp only
  split
  · exact .returns (.intro worlds _)
  rcases started.handleServerHello fb calls.serverHello
    (YoAuthorize.Service.unwrapPlaintext frame) with _ | ⟨answered, error | finished⟩
  · exact .diverges
  · exact .returns (.intro worlds _)
  dsimp only
  have writes := simulates.writeAll finished worlds
  generalize transport.writeAll _ last = left at writes ⊢
  generalize other.writeAll _ otherLast = right at writes ⊢
  obtain @⟨after, otherAfter, worlds, _ | _⟩ := writes
  · exact .returns (.intro worlds _)
  · exact .returns (.intro worlds _)

/-- Two calls of `initialize` that end alike. -/
inductive SameInitialized (related : World → Other → Prop) :
    Call (Initialized World) → Call (Initialized Other) → Prop
  | diverges : SameInitialized related none none
  | returns {left : World} {right : Other} (worlds : related left right) (client : LicenseClient)
      (status : Status) (opened : Option Bytes) :
      SameInitialized related (some { client, world := left, status, opened })
        (some { client, world := right, status, opened })

theorem fail_simulates (simulates : transport.Simulates other related) (client : LicenseClient)
    (status : Status) (opened : Option Bytes) (start : related world otherWorld) :
    SameInitialized related (some (client.fail transport world status opened))
      (some (client.fail other otherWorld status opened)) := by
  unfold fail disconnect
  dsimp only
  cases client.hasTransport with
  | false => exact .returns start _ _ _
  | true => exact .returns (simulates.close start) _ _ _

theorem requestAuthorization_simulates (simulates : transport.Simulates other related)
    (calls : InitializeCalls) (config : ClientConfig) (client : LicenseClient)
    (handshake : ClientHandshake) (start : related world otherWorld) :
    SameInitialized related
      (requestAuthorization fb transport calls config client handshake world)
      (requestAuthorization fb other calls config client handshake otherWorld) := by
  unfold requestAuthorization
  cases encodeAuthorize fb
      { requestId := 2
        protocolVersion := handshake.selectedVersion
        productId := config.productId
        processId := calls.processId } with
  | error error => exact fail_simulates simulates _ _ _ start
  | ok authorize =>
      dsimp only
      have exchanges := exchangeRecord_simulates simulates calls.sealing calls.opening handshake
        authorize start
      generalize exchangeRecord transport calls.sealing calls.opening handshake authorize world =
        left at exchanges ⊢
      generalize exchangeRecord other calls.sealing calls.opening handshake authorize otherWorld =
        right at exchanges ⊢
      obtain @⟨after, otherAfter, worlds, next, failure | opened⟩ := exchanges
      · exact fail_simulates simulates _ _ _ worlds
      dsimp only
      rcases decodeAuthResult fb opened with _ | error | response
      · exact .diverges
      · exact fail_simulates simulates _ _ _ worlds
      dsimp only
      cases denies next response with
      | true => exact fail_simulates simulates _ _ _ worlds
      | false =>
          cases response.sessionId with
          | none => exact fail_simulates simulates _ _ _ worlds
          | some sessionId => exact .returns worlds _ _ _

theorem initializeClient_simulates (simulates : transport.Simulates other related)
    (calls : InitializeCalls) (config : ClientConfig) (client : LicenseClient)
    (start : related world otherWorld) :
    SameInitialized related (initializeClient fb transport calls config client world)
      (initializeClient fb other calls config client otherWorld) := by
  unfold initializeClient
  split
  · exact .returns start _ _ _
  split
  · exact .returns start _ _ _
  dsimp only
  have connects := simulates.connect start
  generalize transport.connect world = left at connects ⊢
  generalize other.connect otherWorld = right at connects ⊢
  obtain @⟨middle, otherMiddle, worlds, _ | _⟩ := connects
  · exact fail_simulates simulates _ _ _ worlds
  dsimp only
  have establishes := @establish_simulates _ _ _ _ _ _ _ fb simulates calls (sdkHandshake config)
    worlds
  generalize establish fb transport calls (sdkHandshake config) middle = left at establishes ⊢
  generalize establish fb other calls (sdkHandshake config) otherMiddle = right at establishes ⊢
  obtain _ | ⟨agree⟩ := establishes
  · exact .diverges
  obtain @⟨last, otherLast, worlds, status | handshake⟩ := agree
  · exact fail_simulates simulates _ _ _ worlds
  · exact requestAuthorization_simulates simulates calls config _ handshake worlds

/-- Two heartbeats that end alike. -/
inductive SameBeaten (related : World → Other → Prop) :
    Call (Beaten World) → Call (Beaten Other) → Prop
  | diverges : SameBeaten related none none
  | returns {left : World} {right : Other} (worlds : related left right) (client : LicenseClient)
      (sent : HeartbeatMessage) (opened : Option Bytes) :
      SameBeaten related (some { client, world := left, sent, opened })
        (some { client, world := right, sent, opened })

theorem heartbeatRound_simulates (simulates : transport.Simulates other related)
    (calls : RoundCalls) (client : LicenseClient) (start : related world otherWorld) :
    SameBeaten related (client.heartbeatRound fb transport calls world)
      (client.heartbeatRound fb other calls otherWorld) := by
  unfold heartbeatRound
  rcases client.handshake with _ | handshake
  · exact .diverges
  dsimp only
  cases encodeHeartbeat fb
      { requestId := client.nextRequestId
        protocolVersion := handshake.selectedVersion
        sessionId := client.sessionId } with
  | error error => exact .returns start _ _ _
  | ok heartbeat =>
      dsimp only
      have exchanges := exchangeRecord_simulates simulates calls.sealing calls.opening handshake
        heartbeat start
      generalize exchangeRecord transport calls.sealing calls.opening handshake heartbeat world =
        left at exchanges ⊢
      generalize exchangeRecord other calls.sealing calls.opening handshake heartbeat otherWorld =
        right at exchanges ⊢
      obtain @⟨after, otherAfter, worlds, next, failure | opened⟩ := exchanges
      · exact .returns worlds _ _ _
      dsimp only
      rcases decodeHeartbeatAck fb opened with _ | error | ack
      · exact .diverges
      · exact .returns worlds _ _ _
      dsimp only
      split
      · exact .returns worlds _ _ _
      · exact .returns worlds _ _ _

end LicenseClient

end

end YoAuthorize.Sdk
