import YoAuthorize.Service.ConnectionLanguage
import YoAuthorize.Service.Serviceability

/-!
# The loop of the service

`AuthorizationService::run`, `serve` and `peerAllowed` (`service.cpp`).  `run`
accepts one client at a time and serves it to its end, so that no two connections
hold a session at once.  What comes from outside is an argument: an `Iteration` is
what `accept` returns and what the two reads of the stop flag give, and an `Exchange`
is one turn of the loop of `serve`.
-/

namespace YoAuthorize.Service

open Octets Crypto FlatBuffer Protocol Protocol.Schema YoAuthorize.Core License

/-! ## One client -/

/-- The errors of `ServiceError` that `run` and `serve` return. -/
inductive RunError : Type
  | listen
  | transport
  deriving DecidableEq, Repr

/-- What `readFrame` returns, what `handle` runs with, and whether `writeAll`
succeeds. -/
structure Exchange : Type where
  frame : Option Bytes
  ssl : OpenSsl
  draws : List Core.SessionId
  nowMonotonicMs : UInt64
  nowUnixSeconds : UInt64
  written : Bool

def Exchange.call (exchange : Exchange) (sessions : SessionManager) : HandleCall where
  ssl := exchange.ssl
  sessions := sessions
  draws := exchange.draws
  nowMonotonicMs := exchange.nowMonotonicMs
  nowUnixSeconds := exchange.nowUnixSeconds

structure PeerCredentials : Type where
  pid : Int
  uid : UInt32
  gid : UInt32
  deriving DecidableEq

/-- What `serve` returns for a client, with the calls of `handle` it has made. -/
structure Visit : Type where
  peer : PeerCredentials
  error : Option RunError := none
  handled : List (Exchange × Handled) := []

section

variable (fb : Binding Envelope) (peer : PeerCredentials)

/-- The loop of `serve` and the destructor of the connection.  After its last
exchange a client sends nothing more. -/
def serveFrom (connection : Connection) (sessions : SessionManager) :
    List Exchange → Call (SessionManager × Visit)
  | [] =>
      some (connection.destruct sessions,
        { peer, error := if connection.state = .closed then none else some .transport })
  | exchange :: rest =>
      if connection.state = .closed then some (connection.destruct sessions, { peer })
      else
        match exchange.frame with
        | none => some (connection.destruct sessions, { peer, error := some .transport })
        | some frame =>
            match connection.handleAt fb (exchange.call sessions) frame with
            | none => none
            | some handled =>
                let left := handled.connection.destruct handled.sessions
                let turn := (exchange, handled)
                if handled.result.response.isSome ∧ exchange.written = false then
                  some (left, { peer, error := some .transport, handled := [turn] })
                else if handled.result.closed then some (left, { peer, handled := [turn] })
                else
                  match serveFrom handled.connection handled.sessions rest with
                  | none => none
                  | some (sessions, visit) =>
                      some (sessions, { visit with handled := turn :: visit.handled })

end

namespace AuthorizationService

def serve (fb : Binding Envelope) (service : AuthorizationService) (peer : PeerCredentials)
    (sessions : SessionManager) (exchanges : List Exchange) : Call (SessionManager × Visit) :=
  serveFrom fb peer (service.connection (peerIdentity peer.uid peer.gid peer.pid)) sessions
    exchanges

end AuthorizationService

/-! ## All clients -/

def peerAllowed (config : ServiceConfig) (peer : PeerCredentials) : Bool :=
  peer.uid ∈ config.allowedUids ∨ peer.gid ∈ config.allowedGids

inductive Accepted : Type
  | timeout
  | failed
  /-- The credentials, unless `peerCredentials` fails, and what the client does. -/
  | client (peer : Option PeerCredentials) (exchanges : List Exchange)

structure Iteration : Type where
  stop : Bool := false
  accepted : Accepted
  /-- The stop flag after `accept` has failed. -/
  stopAfter : Bool := false

inductive RunResult : Type
  /-- The iterations are used up. -/
  | running
  /-- A decoder has read through a null pointer. -/
  | crashed
  | returned (error : Option RunError)
  deriving DecidableEq, Repr

structure Ran : Type where
  sessions : SessionManager
  visits : List Visit := []
  result : RunResult

namespace AuthorizationService

section

variable (fb : Binding Envelope) (service : AuthorizationService)

/-- The loop of `run`. -/
def runFrom (sessions : SessionManager) : List Iteration → Ran
  | [] => { sessions, result := .running }
  | iteration :: rest =>
      if iteration.stop then { sessions, result := .returned none }
      else
        match iteration.accepted with
        | .timeout => runFrom sessions rest
        | .failed =>
            { sessions
              result := .returned (if iteration.stopAfter then none else some .transport) }
        | .client none _ => runFrom sessions rest
        | .client (some peer) exchanges =>
            if !peerAllowed service.config peer then runFrom sessions rest
            else
              match service.serve fb peer sessions exchanges with
              | none => { sessions, result := .crashed }
              | some (left, visit) =>
                  { runFrom left rest with visits := visit :: (runFrom left rest).visits }

/-- `run`, with what `listen` returns. -/
def run (listens : Bool) (iterations : List Iteration) : Ran :=
  if !listens then { sessions := {}, result := .returned (some .listen) }
  else service.runFrom fb {} iterations

end

end AuthorizationService

/-! ## Why a session is refused -/

namespace Connection

variable {fb : Binding Envelope} {ssl : OpenSsl} {connection : Connection}
  {sessions : SessionManager} {draws : List Core.SessionId}
  {nowMonotonicMs nowUnixSeconds : UInt64} {handled : Handled}

/-- `create` refuses a session to the connection. -/
def Refused (connection : Connection) (sessions : SessionManager) (draws : List Core.SessionId)
    (nowMonotonicMs : UInt64) : Prop :=
  ∃ next error, sessions.create draws connection.license.productId connection.peerIdentity
    connection.license.features connection.license.expireTime nowMonotonicMs
    connection.license.maxSessions = (next, .error error)

theorem encryptedResponse_error (plaintext : Bytes) (closeAfter : Bool) :
    (connection.encryptedResponse ssl sessions plaintext closeAfter).result.error ≠
      some .sessionLimitExceeded := by
  unfold encryptedResponse
  split
  · exact nofun
  · exact nofun

theorem refused_of_answer {request : AuthorizeMessage}
    (limited : (answer fb ssl (connection.authorize sessions draws request nowMonotonicMs
      nowUnixSeconds)).result.error = some .sessionLimitExceeded) :
    connection.Refused sessions draws nowMonotonicMs := by
  have decided : (connection.authorize sessions draws request nowMonotonicMs nowUnixSeconds).error =
      some .sessionLimitExceeded := by
    unfold answer at limited
    split at limited
    · cases limited
    · exact limited
  unfold authorize at decided
  dsimp only at decided
  split at decided
  · cases decided
  split at decided
  · cases decided
  split at decided
  · rename_i next error refused
    exact ⟨next, error, refused⟩
  · cases decided

theorem acknowledge_error {session : Session} {request : HeartbeatMessage} :
    (connection.acknowledge fb ssl sessions session request nowUnixSeconds).result.error ≠
      some .sessionLimitExceeded := by
  unfold acknowledge
  dsimp only
  split
  · exact nofun
  · split
    · exact nofun
    · exact encryptedResponse_error _ false

theorem handleHeartbeat_error {request : HeartbeatMessage} :
    (connection.handleHeartbeat fb ssl sessions request nowMonotonicMs
        nowUnixSeconds).result.error ≠
      some .sessionLimitExceeded := by
  unfold handleHeartbeat
  split
  · exact nofun
  split
  · exact nofun
  split
  · exact nofun
  split
  · exact nofun
  · exact acknowledge_error

theorem handleHello_error {frame : Bytes}
    (handles : connection.handleHello fb ssl sessions frame = some handled) :
    handled.result.error ≠ some .sessionLimitExceeded := by
  unfold handleHello at handles
  split at handles
  · cases handles
    exact nofun
  split at handles
  · cases handles
    exact nofun
  split at handles
  · cases handles
  · cases handles
    exact nofun
  · cases handles
    exact nofun

theorem handleFinished_error {frame : Bytes}
    (handles : connection.handleFinished fb ssl sessions frame = some handled) :
    handled.result.error ≠ some .sessionLimitExceeded := by
  unfold handleFinished at handles
  split at handles
  · cases handles
  · cases handles
    exact nofun
  · cases handles
    exact nofun

theorem refused_of_handleAuthorize {plaintext : Bytes}
    (handles : connection.handleAuthorize fb ssl sessions draws plaintext nowMonotonicMs
      nowUnixSeconds = some handled)
    (limited : handled.result.error = some .sessionLimitExceeded) :
    connection.Refused sessions draws nowMonotonicMs := by
  unfold handleAuthorize at handles
  split at handles
  · cases handles
  · cases handles
    cases limited
  split at handles
  · cases handles
    cases limited
  · cases handles
    exact refused_of_answer limited

theorem handleActive_error {plaintext : Bytes}
    (handles : connection.handleActive fb ssl sessions plaintext nowMonotonicMs nowUnixSeconds =
      some handled) :
    handled.result.error ≠ some .sessionLimitExceeded := by
  unfold handleActive at handles
  split at handles
  · cases handles
  · cases handles
    exact handleHeartbeat_error
  split at handles
  · cases handles
  · cases handles
    exact nofun
  split at handles
  · cases handles
    exact nofun
  · cases handles
    exact nofun

/-- Only a refusal of `create` is reported as an exceeded session limit. -/
theorem refused_of_handle {frame : Bytes}
    (handles : connection.handle fb ssl sessions draws frame nowMonotonicMs nowUnixSeconds =
      some handled) (limited : handled.result.error = some .sessionLimitExceeded) :
    connection.state = .awaitingAuthorize ∧ connection.Refused sessions draws nowMonotonicMs := by
  unfold handle at handles
  split at handles
  · cases handles
    cases limited
  · exact absurd limited (handleHello_error handles)
  · exact absurd limited (handleFinished_error handles)
  split at handles
  · cases handles
    cases limited
  split at handles
  · rename_i waiting
    have refused := refused_of_handleAuthorize handles limited
    exact ⟨waiting, refused⟩
  · exact absurd limited (handleActive_error handles)

end Connection

/-! ## Calls without a result -/

section

variable {fb : Binding Envelope} {connection : Connection} {call : HandleCall} {frame : Bytes}

theorem decodes_of_handleHello {ssl : OpenSsl} {sessions : SessionManager}
    (fails : connection.handleHello fb ssl sessions frame = none) :
    ∃ header payload, decodeFrame frame = .ok (header, payload) ∧
      ¬ (header.flags ≠ 0 ∨ header.sequence ≠ 0) ∧ decodeClientHello fb payload = none := by
  unfold Connection.handleHello at fails
  split at fails
  · cases fails
  rename_i header payload decodes
  split at fails
  · cases fails
  rename_i plain
  refine ⟨header, payload, decodes, plain, ?_⟩
  split at fails
  · rename_i crashed
    unfold ServerHandshake.handleClientHello ServerHandshake.answerClientHello at crashed
    split at crashed
    · rename_i unanswered
      split at unanswered
      · cases unanswered
      split at unanswered
      · assumption
      · cases unanswered
      · cases unanswered
    · cases crashed
    · cases crashed
  · cases fails
  · cases fails

theorem decodes_of_handleFinished {ssl : OpenSsl} {sessions : SessionManager}
    (fails : connection.handleFinished fb ssl sessions frame = none) :
    ∃ reader next plaintext, connection.handshake.reader = some reader ∧
      reader.open ssl frame = (next, .ok plaintext) ∧ decodeClientFinished fb plaintext = none := by
  unfold Connection.handleFinished at fails
  split at fails
  · rename_i crashed
    unfold ServerHandshake.handleClientFinished at crashed
    split at crashed
    · rename_i reader _ present
      split at crashed
      · cases crashed
      rename_i next plaintext opens
      refine ⟨reader, next, plaintext, present, opens, ?_⟩
      split at crashed
      · assumption
      · cases crashed
      · split at crashed <;> cases crashed
    · cases crashed
  · cases fails
  · cases fails

theorem decodes_of_handleAuthorize {ssl : OpenSsl} {sessions : SessionManager}
    {draws : List Core.SessionId} {plaintext : Bytes} {nowMonotonicMs nowUnixSeconds : UInt64}
    (fails : connection.handleAuthorize fb ssl sessions draws plaintext nowMonotonicMs
      nowUnixSeconds = none) : decodeAuthorize fb plaintext = none := by
  unfold Connection.handleAuthorize at fails
  split at fails
  · assumption
  · cases fails
  · split at fails <;> cases fails

theorem decodes_of_handleActive {ssl : OpenSsl} {sessions : SessionManager} {plaintext : Bytes}
    {nowMonotonicMs nowUnixSeconds : UInt64}
    (fails : connection.handleActive fb ssl sessions plaintext nowMonotonicMs nowUnixSeconds =
      none) : decodeHeartbeat fb plaintext = none := by
  unfold Connection.handleActive at fails
  split at fails
  · assumption
  · cases fails
  split at fails
  · rename_i closes
    exact absurd closes (decodeCloseSession_ne_none plaintext)
  · cases fails
  · split at fails <;> cases fails

/-- A call without a result has met a message without its body. -/
theorem not_bodied_of_handleAt (fails : connection.handleAt fb call frame = none) :
    ¬ connection.Bodied fb call.ssl frame := by
  have absent {kind : MessageKind} {bytes : Bytes} (reads : kind ≠ .closeSession)
      (crashed : kind.decode fb bytes = none)
      (received : connection.received call.ssl frame = some (kind, bytes)) :
      ¬ connection.Bodied fb call.ssl frame := by
    rw [bodied_of_received received, ← MessageKind.decode_ne_none_iff reads]
    exact not_not.mpr crashed
  unfold Connection.handleAt Connection.handle at fails
  split at fails
  · cases fails
  · rename_i state
    rcases decodes_of_handleHello fails with ⟨header, payload, decodes, plain, crashed⟩
    refine absent (nofun : MessageKind.clientHello ≠ .closeSession) crashed ?_
    unfold Connection.received
    rw [state, decodes]
    exact if_neg plain
  · rename_i state
    rcases decodes_of_handleFinished fails with ⟨reader, next, plaintext, present, opens, crashed⟩
    refine absent (nofun : MessageKind.clientFinished ≠ .closeSession) crashed ?_
    unfold Connection.received
    rw [state, present]
    dsimp only [Option.bind]
    rw [opens]
    rfl
  rename_i closed hello finished
  split at fails
  · cases fails
  rename_i handshake plaintext opens
  split at fails
  · rename_i waiting
    refine absent (nofun : MessageKind.authorize ≠ .closeSession)
      (decodes_of_handleAuthorize fails) ?_
    unfold Connection.received
    rw [waiting]
    dsimp only
    rw [opens]
    rfl
  · rename_i waiting
    have active : connection.state = .active := by
      cases state : connection.state with
      | active => rfl
      | closed => exact absurd state closed
      | awaitingHello => exact absurd state hello
      | awaitingFinished => exact absurd state finished
      | awaitingAuthorize => exact absurd state waiting
    refine absent (nofun : MessageKind.heartbeat ≠ .closeSession) (decodes_of_handleActive fails) ?_
    unfold Connection.received
    rw [active]
    dsimp only
    rw [opens]
    rfl

end

/-! ## One connection at a time -/

namespace ServiceWorld

variable {fb : Binding Envelope} {license : LicenseSnapshot} {connection : Connection}
  {created : List Session} {sessions : SessionManager}

/-- A connection that is alone and holds no session leaves the table empty. -/
theorem empty_of_single (reachable : Reachable fb license (single connection created sessions))
    (session : connection.session = none) : sessions.sessions = ∅ := by
  apply reachable.balanced.table_eq_empty
  intro index
  change holding connection.session = none
  rw [session]
  rfl

theorem empty_of_destruct (reachable : Reachable fb license (single connection created sessions)) :
    connection.destruct sessions = {} := by
  have step : Step fb license (single connection created sessions) _ :=
    .destruct (rfl : (single connection created sessions).slots () = _)
  have empty := Reachable.empty_of_closed (reachable.tail step) (by
    intro index other here
    unfold ServiceWorld.connection at here
    dsimp only at here
    rw [Function.update_self] at here
    cases here)
  exact congrArg SessionManager.mk empty

theorem settled_of_single (reachable : Reachable fb license (single connection created sessions)) :
    connection.license = license ∧ connection.Settled := by
  have sound : SlotSound license (.live connection created) := reachable.slotSound ()
  exact ⟨sound.sameLicense, sound.settled⟩

end ServiceWorld

/-- The table has room for a session of a license that a service accepts. -/
theorem create_of_empty {license : LicenseSnapshot} {peerIdentity : Bytes}
    {draws : List Core.SessionId} (product : license.productId ≠ []) (peer : peerIdentity ≠ [])
    (room : license.maxSessions ≠ 0) (drawn : draws ≠ []) (features : List Bytes)
    (expireTime nowMonotonicMs : UInt64) (next : SessionManager) (error : Core.ErrorCode) :
    SessionManager.create {} draws license.productId peerIdentity features expireTime
      nowMonotonicMs license.maxSessions ≠ (next, .error error) := by
  cases draws with
  | nil => exact absurd rfl drawn
  | cons id rest =>
      have positive : SessionManager.active {} license.productId < license.maxSessions.toNat :=
        Nat.pos_of_ne_zero fun zero => room (UInt32.toNat_inj.mp zero)
      have draw : SessionManager.drawId (∅ : AList fun _ : Core.SessionId => Session) (id :: rest) =
          some id := if_neg (AList.notMem_empty id)
      rw [SessionManager.create_of_room positive product peer draw]
      exact fun same => by cases same

/-- The calls of a visit were not refused for want of room. -/
def Visit.Granted (visit : Visit) : Prop :=
  ∀ turn ∈ visit.handled, turn.1.draws ≠ [] →
    turn.2.result.error ≠ some .sessionLimitExceeded

section

variable {fb : Binding Envelope} {license : LicenseSnapshot} {peer : PeerCredentials}

/-- One of the messages has no body where the connection, as it then is, reads it. -/
def Bodiless (fb : Binding Envelope) (license : LicenseSnapshot) (exchanges : List Exchange) :
    Prop :=
  ∃ exchange ∈ exchanges, ∃ connection created sessions frame,
    ServiceWorld.Reachable fb license (ServiceWorld.single connection created sessions) ∧
      exchange.frame = some frame ∧ ¬ connection.Bodied fb exchange.ssl frame

/-- The loop of `serve` reads null only in a message without its body. -/
theorem bodiless_of_serveFrom {exchanges : List Exchange} {connection : Connection}
    {created : List Session} {sessions : SessionManager}
    (reachable : ServiceWorld.Reachable fb license
      (ServiceWorld.single connection created sessions))
    (crashes : serveFrom fb peer connection sessions exchanges = none) :
    Bodiless fb license exchanges := by
  induction exchanges generalizing connection created sessions with
  | nil => cases crashes
  | cons exchange rest ih =>
      unfold serveFrom at crashes
      split at crashes
      · cases crashes
      split at crashes
      · cases crashes
      rename_i frame framed
      split at crashes
      · rename_i fails
        have read : ¬ connection.Bodied fb (exchange.call sessions).ssl frame :=
          not_bodied_of_handleAt fails
        exact ⟨exchange, List.mem_cons_self, connection, created, sessions, frame, reachable,
          framed, read⟩
      rename_i handled handles
      dsimp only at crashes
      split at crashes
      · cases crashes
      split at crashes
      · cases crashes
      split at crashes
      · rename_i follows
        rcases ih (ServiceWorld.single_handleAt reachable handles) follows with
          ⟨other, member, found⟩
        exact ⟨other, List.mem_cons_of_mem exchange member, found⟩
      · cases crashes

/-- The loop of `serve` leaves no session behind. -/
theorem serveFrom_sound (product : license.productId ≠ []) (room : license.maxSessions ≠ 0)
    {exchanges : List Exchange} {connection : Connection} {created : List Session}
    {sessions left : SessionManager} {visit : Visit}
    (reachable : ServiceWorld.Reachable fb license
      (ServiceWorld.single connection created sessions))
    (named : connection.peerIdentity ≠ [])
    (serves : serveFrom fb peer connection sessions exchanges = some (left, visit)) :
    left = {} ∧ visit.peer = peer ∧ visit.Granted := by
  induction exchanges generalizing connection created sessions visit with
  | nil =>
      unfold serveFrom at serves
      cases serves
      exact ⟨ServiceWorld.empty_of_destruct reachable, rfl, List.forall_mem_nil _⟩
  | cons exchange rest ih =>
      unfold serveFrom at serves
      split at serves
      · cases serves
        exact ⟨ServiceWorld.empty_of_destruct reachable, rfl, List.forall_mem_nil _⟩
      split at serves
      · cases serves
        exact ⟨ServiceWorld.empty_of_destruct reachable, rfl, List.forall_mem_nil _⟩
      rename_i frame _
      split at serves
      · cases serves
      rename_i handled handles
      obtain ⟨same, settled⟩ := ServiceWorld.settled_of_single reachable
      have next := ServiceWorld.single_handleAt reachable handles
      have effect := Connection.handle_effect settled handles
      have granted : exchange.draws ≠ [] →
          handled.result.error ≠ some .sessionLimitExceeded := by
        intro drawn limited
        obtain ⟨waiting, refused⟩ := Connection.refused_of_handle handles limited
        have idle : connection.session = none := settled.session_eq_none (by rw [waiting]; nofun)
        have empty : sessions = {} :=
          congrArg SessionManager.mk (ServiceWorld.empty_of_single reachable idle)
        obtain ⟨later, error, refused⟩ := refused
        rw [same] at refused
        change SessionManager.create sessions _ _ _ _ _ _ _ = _ at refused
        rw [empty] at refused
        exact create_of_empty product named room drawn _ _ _ _ _ refused
      have alone : Visit.Granted { peer, handled := [(exchange, handled)] } := by
        intro turn mem
        rw [List.mem_singleton.mp mem]
        exact granted
      dsimp only at serves
      split at serves
      · cases serves
        exact ⟨ServiceWorld.empty_of_destruct next, rfl, alone⟩
      split at serves
      · cases serves
        exact ⟨ServiceWorld.empty_of_destruct next, rfl, alone⟩
      split at serves
      · cases serves
      · rename_i after later follows
        cases serves
        obtain ⟨empty, samePeer, rest⟩ := ih next (effect.evolves.peerIdentity ▸ named) follows
        refine ⟨empty, samePeer, fun turn mem => ?_⟩
        rcases List.mem_cons.mp mem with rfl | mem
        · exact granted
        · exact rest turn mem

end

/-! ## Every run -/

theorem maxSessions_of_validate {packages : Binding (LicensePackage Bytes)}
    {payloads : Binding (LicensePayload Bytes)} {ssl : OpenSsl} {validator : LicenseValidator}
    {package expectedProduct machineId : Bytes} {now : UInt64} {snapshot : LicenseSnapshot}
    (validated : validator.validate packages payloads ssl package expectedProduct machineId now =
      .ok snapshot) : snapshot.maxSessions ≠ 0 := by
  obtain ⟨data, same⟩ := validator.readPayload_of_validate validated
  rw [same] at validated
  obtain ⟨policy, acceptable, -, -, rfl⟩ := readPayload_eq_ok_iff.mp validated
  exact acceptable.maxSessions

/-- The allowed peer that an iteration serves. -/
def Iteration.served (config : ServiceConfig) (iteration : Iteration) : Option PeerCredentials :=
  match iteration.accepted with
  | .client (some peer) _ => if peerAllowed config peer then some peer else none
  | _ => none

/-- Nobody asks the service to stop and `accept` does not fail. -/
def Iteration.Quiet (iteration : Iteration) : Prop :=
  iteration.stop = false ∧ iteration.accepted ≠ .failed

/-- An allowed client sends a message without its body. -/
def Iteration.Bodiless (fb : Binding Envelope) (service : AuthorizationService)
    (iteration : Iteration) : Prop :=
  ∃ peer exchanges, iteration.accepted = .client (some peer) exchanges ∧
    peerAllowed service.config peer = true ∧ Service.Bodiless fb service.license exchanges

/-- What holds of a run, whatever its clients do. -/
structure RunSound (fb : Binding Envelope) (service : AuthorizationService)
    (iterations : List Iteration) (ran : Ran) : Prop where
  /-- Only allowed peers are served. -/
  allowed : ∀ visit ∈ ran.visits, peerAllowed service.config visit.peer = true
  /-- A client is never refused because of another one. -/
  granted : ∀ visit ∈ ran.visits, visit.Granted
  /-- No client leaves a session behind. -/
  empty : ran.sessions = {}
  /-- No client ends the loop, except by a read through a null pointer. -/
  quiet : (∀ iteration ∈ iterations, iteration.Quiet) →
    ran.result = .running ∨ ran.result = .crashed
  /-- That is a message without its body. -/
  crashed : ran.result = .crashed → ∃ iteration ∈ iterations, iteration.Bodiless fb service
  /-- While the loop runs every allowed client is served, in the order of arrival. -/
  served : ran.result = .running →
    ran.visits.map Visit.peer = iterations.filterMap (Iteration.served service.config)

namespace RunSound

variable {fb : Binding Envelope} {service : AuthorizationService} {iteration : Iteration}
  {rest : List Iteration} {ran : Ran}

theorem later (sound : RunSound fb service rest ran) (crashed : ran.result = .crashed) :
    ∃ other ∈ iteration :: rest, other.Bodiless fb service := by
  obtain ⟨other, mem, bodiless⟩ := sound.crashed crashed
  exact ⟨other, List.mem_cons_of_mem _ mem, bodiless⟩

/-- An iteration that serves nobody leaves what the rest of the loop does. -/
theorem skip (sound : RunSound fb service rest ran)
    (nobody : iteration.served service.config = none) :
    RunSound fb service (iteration :: rest) ran := by
  refine ⟨sound.allowed, sound.granted, sound.empty, fun quiet => sound.quiet fun other mem =>
    quiet other (List.mem_cons_of_mem _ mem), sound.later, fun running => ?_⟩
  rw [List.filterMap_cons_none nobody]
  exact sound.served running

theorem ended {error : Option RunError} (noisy : ¬ iteration.Quiet) :
    RunSound fb service (iteration :: rest) { sessions := {}, result := .returned error } :=
  ⟨List.forall_mem_nil _, List.forall_mem_nil _, rfl,
    fun quiet => absurd (quiet iteration List.mem_cons_self) noisy, nofun, nofun⟩

/-- An iteration that serves a client puts its visit in front. -/
theorem visited (sound : RunSound fb service rest ran) {visit : Visit}
    (here : iteration.served service.config = some visit.peer)
    (allowed : peerAllowed service.config visit.peer = true) (granted : visit.Granted) :
    RunSound fb service (iteration :: rest) { ran with visits := visit :: ran.visits } := by
  refine ⟨?_, ?_, sound.empty, fun quiet => sound.quiet fun other mem =>
    quiet other (List.mem_cons_of_mem _ mem), sound.later, fun running => ?_⟩
  · intro other mem
    rcases List.mem_cons.mp mem with rfl | mem
    · exact allowed
    · exact sound.allowed other mem
  · intro other mem
    rcases List.mem_cons.mp mem with rfl | mem
    · exact granted
    · exact sound.granted other mem
  · rw [List.filterMap_cons_some here, List.map_cons]
    exact congrArg _ (sound.served running)

end RunSound

namespace AuthorizationService

variable {fb : Binding Envelope} {service : AuthorizationService}

theorem runFrom_sound (product : service.license.productId ≠ [])
    (room : service.license.maxSessions ≠ 0) (iterations : List Iteration) :
    RunSound fb service iterations (service.runFrom fb {} iterations) := by
  induction iterations with
  | nil =>
      exact ⟨List.forall_mem_nil _, List.forall_mem_nil _, rfl, fun _ => .inl rfl, nofun,
        fun _ => rfl⟩
  | cons iteration rest ih =>
      unfold runFrom
      split
      · rename_i stop
        refine .ended fun quiet => ?_
        rw [quiet.1] at stop
        cases stop
      split
      · rename_i accepted
        exact ih.skip (by rw [Iteration.served, accepted])
      · rename_i accepted
        exact .ended fun quiet => quiet.2 accepted
      · rename_i accepted
        exact ih.skip (by rw [Iteration.served, accepted])
      rename_i peer exchanges accepted
      split
      · rename_i refused
        exact ih.skip (by
          rw [Iteration.served, accepted]
          exact if_neg (by simpa using refused))
      rename_i allows
      have allowed : peerAllowed service.config peer = true := by simpa using allows
      split
      · rename_i crashes
        refine ⟨List.forall_mem_nil _, List.forall_mem_nil _, rfl, fun _ => .inr rfl, fun _ => ?_,
          nofun⟩
        exact ⟨iteration, List.mem_cons_self, peer, exchanges, accepted, allowed,
          bodiless_of_serveFrom (ServiceWorld.single_construct fb service.license _) crashes⟩
      · rename_i left visit serves
        have named : (service.connection (peerIdentity peer.uid peer.gid peer.pid)).peerIdentity ≠
            [] := peerIdentity_ne_nil peer.uid peer.gid peer.pid
        obtain ⟨rfl, rfl, granted⟩ := serveFrom_sound product room
          (ServiceWorld.single_construct fb service.license _) named serves
        refine ih.visited ?_ allowed granted
        rw [Iteration.served, accepted]
        exact if_pos allowed

/-- A service that has started serves its clients one after the other. -/
theorem runSound {packages : Binding (LicensePackage Bytes)}
    {payloads : Binding (LicensePayload Bytes)} {ssl : OpenSsl} {platform : Platform}
    (created : create packages payloads ssl platform = .ok service) (iterations : List Iteration) :
    RunSound fb service iterations (service.run fb true iterations) := by
  have started := started_of_create created
  obtain ⟨_, _, -, -, -, -, validates⟩ := create_eq_ok_iff.mp created
  have room := maxSessions_of_validate validates
  refine runFrom_sound ?_ room iterations
  rw [started.license.productId]
  exact started.named.productId

end AuthorizationService

/-! ## Two clients that are granted a session -/

section

variable {fb : Binding Envelope} {peer : PeerCredentials} {connection : Connection}
  {sessions left : SessionManager} {exchange : Exchange} {rest : List Exchange} {frame : Bytes}
  {handled : Handled} {visit : Visit}

/-- One turn that leaves the connection open. -/
theorem serveFrom_cons (live : connection.state ≠ .closed) (framed : exchange.frame = some frame)
    (written : exchange.written = true)
    (handles : connection.handleAt fb (exchange.call sessions) frame = some handled)
    (further : handled.result.closed = false)
    (follows : serveFrom fb peer handled.connection handled.sessions rest = some (left, visit)) :
    serveFrom fb peer connection sessions (exchange :: rest) =
      some (left, { visit with handled := (exchange, handled) :: visit.handled }) := by
  unfold serveFrom
  rw [if_neg live, framed]
  dsimp only
  rw [handles]
  dsimp only
  rw [if_neg (fun failed => by rw [written] at failed; cases failed.2), further,
    if_neg Bool.false_ne_true, follows]

end

namespace AuthorizationService

/-- What the reference client sends in a frame. -/
def referenceExchange (frame : Bytes) : Exchange where
  frame := some frame
  ssl := referenceSsl
  draws := referenceCall.draws
  nowMonotonicMs := 0
  nowUnixSeconds := 15
  written := true

def referencePeer : PeerCredentials where
  pid := 7
  uid := 1000
  gid := 1000

/-- The peer is refused a session. -/
def strangerPeer : PeerCredentials where
  pid := 8
  uid := 1001
  gid := 1001

/-- The frames of an honest client, after which it goes away with its session. -/
theorem serve_reference : ∃ exchanges visit,
    (referenceService ["capture"]).serve referenceEnvelopes referencePeer {} exchanges =
      some ({}, visit) ∧ ∃ turn ∈ visit.handled, turn.2.connection.state = .active := by
  let first : Connection := (referenceService ["capture"]).connection (peerIdentity 1000 1000 7)
  rcases handshake_honest referenceEnvelopes_lawful referenceCalls_correct referenceClient_ready
    (rfl : first.state = .awaitingHello) rfl (by decide) (by decide) rfl (by decide) (by decide)
    with ⟨sent, hello, awaiting, serverHello, established, finished, handshake, keys, -, greets, -,
      finishes, paired, selected⟩
  rcases exists_reference_request selected with ⟨plaintext, encodes⟩
  let waiting : Connection := { first with handshake, state := .awaitingAuthorize }
  have grantable : Grantable waiting referenceCall
      (referenceRequest.message established.selectedVersion) :=
    ⟨rfl, rfl, Nat.zero_lt_succ 1, nofun, ServiceWorld.referenceLicense_productId,
      peerIdentity_ne_nil 1000 1000 7⟩
  rcases handleAt_authorize referenceEnvelopes_lawful referenceSsl_correct
    (rfl : waiting.state = .awaitingAuthorize) paired paired.version.symm encodes grantable
    ServiceWorld.referenceLicense_features with
    ⟨handled, session, encoded, authorizes, -, -, active, further, -⟩
  have live : awaiting.state ≠ .closed := by
    intro closed
    cases (handleAt_closed closed).symm.trans finishes
  let request := referenceExchange (sealedFrame referenceSuite (recordKey keys.clientToService) 2
    plaintext)
  have third : serveFrom referenceEnvelopes referencePeer waiting {} [request] = some _ :=
    serveFrom_cons (nofun : waiting.state ≠ .closed) rfl rfl authorizes further rfl
  have second : serveFrom referenceEnvelopes referencePeer awaiting {}
      [referenceExchange finished, request] = some _ :=
    serveFrom_cons live rfl rfl finishes rfl third
  have whole : serveFrom referenceEnvelopes referencePeer first {}
      [referenceExchange (wrapPlaintext hello), referenceExchange finished, request] = some _ :=
    serveFrom_cons (nofun : first.state ≠ .closed) rfl rfl greets rfl second
  have product : (referenceService ["capture"]).license.productId ≠ [] :=
    ServiceWorld.referenceLicense_productId
  have named : first.peerIdentity ≠ [] := peerIdentity_ne_nil 1000 1000 7
  have sound :=
    serveFrom_sound product (by decide) (ServiceWorld.single_construct _ _ _) named whole
  rw [sound.1] at whole
  refine ⟨_, _, whole, (request, handled), ?_, active⟩
  exact List.mem_cons_of_mem _ (List.mem_cons_of_mem _ List.mem_cons_self)

/-- A client that is granted a session comes, goes away without closing it, and comes
again; the license has one session. -/
theorem runSound_reference :
    ∃ package iterations,
      create Backend.referenceLibraries.packages Backend.referenceLibraries.payloads
        Backend.referenceLibraries.ssl (referencePlatform package) =
          .ok (referenceService ["capture"]) ∧
      (∃ visit, ((referenceService ["capture"]).run referenceEnvelopes true iterations).visits =
          [visit, visit] ∧ ∃ turn ∈ visit.handled, turn.2.connection.state = .active) ∧
      RunSound referenceEnvelopes (referenceService ["capture"]) iterations
        ((referenceService ["capture"]).run referenceEnvelopes true iterations) := by
  have accepted : Backend.validate (offering ["capture"]) = .ok () := rfl
  rcases create_reference accepted with ⟨package, -, created⟩
  rcases serve_reference with ⟨exchanges, visit, serves, granted⟩
  let iterations : List Iteration :=
    [{ accepted := .client (some referencePeer) exchanges },
      { accepted := .client (some strangerPeer) exchanges },
      { accepted := .client (some referencePeer) exchanges }]
  refine ⟨package, iterations, created, ⟨visit, ?_, granted⟩, runSound created iterations⟩
  have refused : peerAllowed (referenceService ["capture"]).config strangerPeer = false := by decide
  have allowed : peerAllowed (referenceService ["capture"]).config referencePeer = true := by decide
  change ((referenceService ["capture"]).runFrom referenceEnvelopes {} iterations).visits = _
  simp [iterations, runFrom, refused, allowed, serves]

end AuthorizationService

end YoAuthorize.Service
