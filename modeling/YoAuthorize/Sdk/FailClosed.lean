import YoAuthorize.Sdk.Lockstep
import Mathlib.Logic.Relation

/-!
# The client fails closed

`Step` interleaves the calls of an application with the heartbeat thread, for
any behaviour of the transport: a `shutdown` may find the thread anywhere in
its loop and then waits for it, and the rest of the world moves whenever it
likes.  `initializeClient_cases` and `heartbeatRound_cases` say what the two
calls that read from the service can leave behind.  The invariant `Closed`
follows from them: features are published only in the state `Valid`, which a
message that passed all checks has set, and a thread that is still alive finds
the client in that state.
-/

namespace YoAuthorize.Sdk

open Octets Crypto FlatBuffer Protocol Protocol.Schema

/-- A client with the rest of the world.  The program keeps neither the last
plaintext that `ClientHandshake::open` accepted nor the last heartbeat;
`shuttingDown` says that a `shutdown` holds `operation_mutex_` in its join. -/
structure Machine (World : Type) : Type where
  client : LicenseClient := {}
  world : World
  opened : Option Bytes := none
  sent : Option HeartbeatMessage := none
  shuttingDown : Bool := false

namespace Machine

variable {World : Type}

def state (machine : Machine World) : ClientState := machine.client.snapshot.state

def Valid (machine : Machine World) : Prop := machine.state = .valid

end Machine

inductive Event : Type
  | initializes (status : Status)
  | wakes
  | beats
  | leaves
  | stops
  | closes
  | moves
  deriving DecidableEq

section

variable {World : Type} (fb : Binding Envelope) (transport : Transport World)

inductive Step : Machine World → Event → Machine World → Prop
  | initializes {machine : Machine World} {initialized : LicenseClient.Initialized World}
      (calls : LicenseClient.InitializeCalls) (config : ClientConfig) :
    machine.shuttingDown = false →
    machine.client.initializeClient fb transport calls config machine.world = some initialized →
    Step machine (.initializes initialized.status)
      { machine with
        client := initialized.client
        world := initialized.world
        opened := initialized.opened.or machine.opened }
  | wakes {machine : Machine World} :
    machine.client.heartbeatThread = .waiting → machine.client.stopRequested = false →
    Step machine .wakes
      { machine with client := { machine.client with heartbeatThread := .beating } }
  | beats {machine : Machine World} {beaten : LicenseClient.Beaten World}
      (calls : LicenseClient.RoundCalls) :
    machine.client.heartbeatThread = .beating →
    machine.client.heartbeatRound fb transport calls machine.world = some beaten →
    Step machine .beats
      { machine with
        client := beaten.client
        world := beaten.world
        opened := beaten.opened.or machine.opened
        sent := some beaten.sent }
  | leaves {machine : Machine World} :
    machine.client.heartbeatThread = .waiting → machine.client.stopRequested = true →
    Step machine .leaves
      { machine with client := { machine.client with heartbeatThread := .returned } }
  | stops {machine : Machine World} :
    machine.shuttingDown = false →
    Step machine .stops { machine with client := machine.client.requestStop, shuttingDown := true }
  | closes {machine : Machine World} (ssl : OpenSsl) :
    machine.shuttingDown = true →
    machine.client.heartbeatThread = .none ∨ machine.client.heartbeatThread = .returned →
    Step machine .closes
      { machine with
        client := (machine.client.finishShutdown fb transport ssl machine.world).1
        world := (machine.client.finishShutdown fb transport ssl machine.world).2
        shuttingDown := false }
  | moves {machine : Machine World} (world : World) :
    Step machine .moves { machine with world }

/-- One machine comes after another in a run. -/
def Later : Machine World → Machine World → Prop :=
  Relation.ReflTransGen fun before after => ∃ event, Step fb transport before event after

/-- The machines of the runs of a new client. -/
def Reachable (machine : Machine World) : Prop :=
  ∃ world, Later fb transport { world } machine

end

/-! ## What one call does -/

section

variable {World : Type} {fb : Binding Envelope} {transport : Transport World}

theorem succeeds_of_readFrame {world next : World} {status : Status}
    (failed : readFrame transport world = (next, .error status)) : status.succeeds = false := by
  unfold readFrame at failed
  split at failed
  · cases failed
    rfl
  split at failed
  · cases failed
    rfl
  split at failed
  · cases failed
    rfl
  · cases failed

theorem succeeds_of_exchangeRecord {sealing opening : OpenSsl} {handshake after : ClientHandshake}
    {plaintext : Bytes} {world next : World} {failure : ExchangeFailure}
    (failed : exchangeRecord transport sealing opening handshake plaintext world =
      (next, after, .error failure)) : failure.status.succeeds = false := by
  unfold exchangeRecord at failed
  split at failed
  · cases failed
    rfl
  split at failed
  · cases failed
    rfl
  split at failed
  · rename_i unread
    cases failed
    exact succeeds_of_readFrame unread
  split at failed
  · cases failed
    rfl
  · cases failed

namespace LicenseClient

theorem succeeds_of_establish {calls : InitializeCalls} {handshake : ClientHandshake}
    {world next : World} {status : Status}
    (failed : establish fb transport calls handshake world = some (next, .error status)) :
    status.succeeds = false := by
  unfold establish at failed
  split at failed
  · cases failed
    rfl
  split at failed
  · cases failed
    rfl
  split at failed
  · rename_i unread
    cases failed
    exact succeeds_of_readFrame unread
  split at failed
  · cases failed
    rfl
  split at failed
  · cases failed
  · cases failed
    rfl
  split at failed
  · cases failed
    rfl
  · cases failed

/-- A call of `initialize` on a new client that failed. -/
structure Fails (before : LicenseClient) (initialized : Initialized World) : Prop where
  status : initialized.status.succeeds = false
  state : initialized.client.snapshot.state = .error
  features : initialized.client.snapshot.features = [] ∨
    initialized.client.snapshot.features = before.snapshot.features
  thread : initialized.client.heartbeatThread = before.heartbeatThread

theorem fails_fail (client : LicenseClient) (world : World) {status : Status}
    (opened : Option Bytes) (failed : status.succeeds = false) :
    client.Fails (client.fail transport world status opened) :=
  ⟨failed, rfl, .inl rfl, rfl⟩

/-- An `AuthResult` that `initialize` takes for a grant. -/
structure Grants (handshake : ClientHandshake) (response : AuthResultMessage) : Prop where
  error : response.error = .none
  requestId : response.requestId = 2
  protocolVersion : response.protocolVersion = handshake.selectedVersion
  sessionId : response.sessionId ≠ none
  interval : 0 < response.heartbeatIntervalMs
  timeout : response.heartbeatIntervalMs < response.heartbeatTimeoutMs

theorem grants_of_not_denies {handshake : ClientHandshake} {response : AuthResultMessage}
    (granted : denies handshake response = false) : Grants handshake response := by
  unfold denies at granted
  have checks := of_decide_eq_false granted
  simp only [not_or, not_not] at checks
  obtain ⟨error, requestId, version, session, interval, -, order⟩ := checks
  refine ⟨error, requestId, version, session, ?_, UInt32.not_le.mp order⟩
  rw [UInt32.lt_iff_toNat_lt]
  exact Nat.pos_of_ne_zero fun zero => interval (UInt32.toNat_inj.mp zero)

/-- A call of `initialize` that got a grant. -/
structure Granted (fb : Binding Envelope) (initialized : Initialized World)
    (handshake : ClientHandshake) (opened : Bytes) (response : AuthResultMessage) : Prop where
  status : initialized.status = {}
  opens : initialized.opened = some opened
  decoded : decodeAuthResult fb opened = some (.ok response)
  grants : Grants handshake response
  keeps : initialized.client.handshake = some handshake
  snapshot : initialized.client.snapshot =
    { state := .valid, features := response.features, expireTime := response.expireTime }

/-- What the part of `initialize` after the handshake can leave. -/
theorem requestAuthorization_cases {calls : InitializeCalls} {config : ClientConfig}
    {client : LicenseClient} {handshake : ClientHandshake} {world : World}
    {initialized : Initialized World}
    (returned : requestAuthorization fb transport calls config client handshake world =
      some initialized) :
    client.Fails initialized ∨
      ∃ handshake opened response, Granted fb initialized handshake opened response := by
  unfold requestAuthorization at returned
  split at returned
  · cases returned
    exact .inl (client.fails_fail world none rfl)
  split at returned
  · rename_i failed
    cases returned
    exact .inl (client.fails_fail _ none (succeeds_of_exchangeRecord failed))
  rename_i next after opened exchanged
  split at returned
  · cases returned
  · cases returned
    exact .inl (client.fails_fail next (some opened) rfl)
  rename_i response decoded
  split at returned
  · rename_i sessionId granted session
    cases returned
    exact .inr ⟨after, opened, response, rfl, rfl, decoded, grants_of_not_denies granted, rfl, rfl⟩
  · cases returned
    exact .inl (client.fails_fail next (some opened) rfl)

/-- A call of `initialize` refuses a client that is not new, fails, or gets a grant. -/
theorem initializeClient_cases {calls : InitializeCalls} {config : ClientConfig}
    {client : LicenseClient} {world : World} {initialized : Initialized World}
    (returned : client.initializeClient fb transport calls config world = some initialized) :
    (client.snapshot.state ≠ .uninitialized ∧ initialized.status.succeeds = false ∧
        initialized.client = client ∧ initialized.opened = none) ∨
      client.snapshot.state = .uninitialized ∧
        (client.Fails initialized ∨
          ∃ handshake opened response, Granted fb initialized handshake opened response) := by
  unfold initializeClient at returned
  split at returned
  · rename_i used
    cases returned
    exact .inl ⟨used, rfl, rfl, rfl⟩
  rename_i new
  refine .inr ⟨not_not.mp new, ?_⟩
  split at returned
  · cases returned
    exact .inl ⟨rfl, rfl, .inr rfl, rfl⟩
  dsimp only at returned
  split at returned
  · cases returned
    exact .inl ⟨rfl, rfl, .inl rfl, rfl⟩
  split at returned
  · cases returned
  · rename_i failed
    cases returned
    exact .inl ⟨succeeds_of_establish failed, rfl, .inl rfl, rfl⟩
  · rcases requestAuthorization_cases returned with fails | granted
    · exact .inl ⟨fails.status, fails.state, fails.features, fails.thread⟩
    · exact .inr granted

/-! ## Heartbeats -/

theorem validAuthorizationState_of_decode {bytes : Bytes} {ack : HeartbeatAckMessage}
    (decoded : decodeHeartbeatAck fb bytes = some (.ok ack)) :
    validAuthorizationState ack.state = true := by
  have ofKind : MessageKind.heartbeatAck.decode fb bytes = some (.ok ack) := decoded
  rcases MessageKind.decode_eq_ok ofKind with ⟨envelope, -, valid, reads⟩
  rcases MessageKind.encode_of_read fb valid reads with ⟨encoded, encodes⟩
  change encodeHeartbeatAck fb ack = .ok encoded at encodes
  unfold encodeHeartbeatAck at encodes
  split at encodes
  · cases encodes
  · rename_i accepted
    simp only [not_or, Bool.not_eq_true', Bool.not_eq_false] at accepted
    exact accepted.2.2.1

/-- The states of an acknowledgement that decodes, of which only `Valid` keeps
a client valid. -/
theorem acknowledgedState_eq_valid_iff {current : ClientState} {state : AuthorizationState}
    (known : validAuthorizationState state = true) :
    acknowledgedState current state = .valid ↔ state = .valid := by
  have states := of_decide_eq_true known
  simp only [List.mem_cons, List.not_mem_nil, or_false] at states
  rcases states with rfl | rfl | rfl | rfl <;> simp [acknowledgedState, AuthorizationState.valid,
    AuthorizationState.grace, AuthorizationState.expired, AuthorizationState.revoked]

theorem acknowledgedState_valid_ne (state : AuthorizationState) :
    acknowledgedState .valid state ≠ .uninitialized := by
  unfold acknowledgedState
  repeat' split
  all_goals decide

/-- A heartbeat that was acknowledged. -/
structure Acknowledges (fb : Binding Envelope) (before : LicenseClient) (beaten : Beaten World)
    (handshake : ClientHandshake) (opened : Bytes) (ack : HeartbeatAckMessage) : Prop where
  opens : beaten.opened = some opened
  decoded : decodeHeartbeatAck fb opened = some (.ok ack)
  requestId : ack.requestId = beaten.sent.requestId
  protocolVersion : ack.protocolVersion = handshake.selectedVersion
  keeps : beaten.client.handshake = some handshake
  snapshot : beaten.client.snapshot.state =
      acknowledgedState before.snapshot.state ack.state ∧
    beaten.client.snapshot.features =
      (if beaten.client.snapshot.state = .valid then ack.features else []) ∧
    beaten.client.snapshot.expireTime = ack.expireTime
  thread : beaten.client.heartbeatThread =
    if beaten.client.snapshot.state = .valid then .waiting else .returned

/-- A round fails closed, or its acknowledgement passed every check. -/
theorem heartbeatRound_cases {calls : RoundCalls} {client : LicenseClient} {world : World}
    {beaten : Beaten World}
    (returned : client.heartbeatRound fb transport calls world = some beaten) :
    (beaten.client.snapshot.state = .error ∧ beaten.client.snapshot.features = [] ∧
        beaten.client.heartbeatThread = .returned) ∨
      ∃ handshake opened ack, Acknowledges fb client beaten handshake opened ack := by
  rcases heartbeatRound_ends returned with
    ⟨handshake, failed⟩ | ⟨handshake, opened, ack, opens, decoded, requestId, version, same⟩
  · rw [failed]
    exact .inl ⟨rfl, rfl, rfl⟩
  · refine .inr ⟨handshake, opened, ack, opens, decoded, requestId, version, ?_, ?_, ?_⟩
    all_goals rw [same]
    · rfl
    · exact ⟨rfl, rfl, rfl⟩
    · rfl

end LicenseClient

/-! ## The invariant -/

/-- The last plaintext that `ClientHandshake::open` accepted is a message that
passed every check and carries `features` and `expireTime`. -/
inductive Accepted (fb : Binding Envelope) (machine : Machine World) (features : List Bytes)
    (expireTime : UInt64) : Prop
  | granted {handshake : ClientHandshake} {opened : Bytes} {response : AuthResultMessage} :
    machine.client.handshake = some handshake → machine.opened = some opened →
    decodeAuthResult fb opened = some (.ok response) →
    LicenseClient.Grants handshake response →
    features = response.features → expireTime = response.expireTime →
    Accepted fb machine features expireTime
  | acknowledged {handshake : ClientHandshake} {sent : HeartbeatMessage} {opened : Bytes}
      {ack : HeartbeatAckMessage} :
    machine.client.handshake = some handshake → machine.sent = some sent →
    machine.opened = some opened → decodeHeartbeatAck fb opened = some (.ok ack) →
    ack.state = .valid → ack.protocolVersion = handshake.selectedVersion →
    ack.requestId = sent.requestId →
    features = ack.features → expireTime = ack.expireTime →
    Accepted fb machine features expireTime

structure FailsClosed (fb : Binding Envelope) (machine : Machine World) : Prop where
  features : machine.client.snapshot.features ≠ [] → machine.Valid
  accepted : machine.Valid →
    Accepted fb machine machine.client.snapshot.features machine.client.snapshot.expireTime
  alive : machine.client.heartbeatThread = .waiting ∨ machine.client.heartbeatThread = .beating →
    machine.Valid

/-- A machine that is not valid only has to be empty and without a thread. -/
theorem failsClosed_of_not_valid {machine : Machine World} (invalid : ¬ machine.Valid)
    (features : machine.client.snapshot.features = [])
    (thread : ¬ (machine.client.heartbeatThread = .waiting ∨
      machine.client.heartbeatThread = .beating)) : FailsClosed fb machine where
  features some := absurd features some
  accepted valid := absurd valid invalid
  alive alive := absurd alive thread

namespace FailsClosed

theorem features_eq_nil {machine : Machine World} (closed : FailsClosed fb machine)
    (invalid : ¬ machine.Valid) : machine.client.snapshot.features = [] :=
  not_not.mp fun features => invalid (closed.features features)

/-- What the client has published does not depend on the rest of the world, on
`stop_requested_` or on where a thread that is alive stands. -/
theorem of_kept {before after : Machine World} (closed : FailsClosed fb before)
    (snapshot : after.client.snapshot = before.client.snapshot)
    (handshake : after.client.handshake = before.client.handshake)
    (opened : after.opened = before.opened) (sent : after.sent = before.sent)
    (alive : after.client.heartbeatThread = .waiting ∨ after.client.heartbeatThread = .beating →
      before.client.heartbeatThread = .waiting ∨ before.client.heartbeatThread = .beating) :
    FailsClosed fb after := by
  have valid : after.Valid ↔ before.Valid := by
    unfold Machine.Valid Machine.state
    rw [snapshot]
  refine ⟨fun features => ?_, fun published => ?_, fun running => ?_⟩
  · rw [snapshot] at features
    exact valid.mpr (closed.features features)
  · rw [snapshot]
    cases closed.accepted (valid.mp published) with
    | granted held opens decoded grants sameFeatures sameTime =>
        exact .granted (handshake.trans held) (opened.trans opens) decoded grants sameFeatures
          sameTime
    | acknowledged held sends opens decoded accepted version requestId sameFeatures sameTime =>
        exact .acknowledged (handshake.trans held) (sent.trans sends) (opened.trans opens) decoded
          accepted version requestId sameFeatures sameTime
  · exact valid.mpr (closed.alive (alive running))

theorem of_initialized {machine : Machine World} (closed : FailsClosed fb machine)
    {calls : LicenseClient.InitializeCalls} {config : ClientConfig}
    {initialized : LicenseClient.Initialized World}
    (returned : machine.client.initializeClient fb transport calls config machine.world =
      some initialized) :
    FailsClosed fb
      { machine with
        client := initialized.client
        world := initialized.world
        opened := initialized.opened.or machine.opened } := by
  rcases LicenseClient.initializeClient_cases returned with
    ⟨-, -, same, unopened⟩ | ⟨new, fails | ⟨handshake, opened, response, granted⟩⟩
  · rw [same, unopened]
    exact closed.of_kept rfl rfl rfl rfl id
  · have invalid : ¬ machine.Valid := by
      intro valid
      exact absurd (new.symm.trans valid) nofun
    apply failsClosed_of_not_valid
    · intro valid
      exact absurd (fails.state.symm.trans valid) nofun
    · rcases fails.features with empty | same
      · exact empty
      · exact same.trans (closed.features_eq_nil invalid)
    · intro alive
      refine invalid (closed.alive ?_)
      rw [← fails.thread]
      exact alive
  · have valid : initialized.client.snapshot.state = .valid := by rw [granted.snapshot]
    refine ⟨fun _ => valid, fun _ => ?_, fun _ => valid⟩
    apply Accepted.granted granted.keeps _ granted.decoded granted.grants
    · exact congrArg (·.features) granted.snapshot
    · exact congrArg (·.expireTime) granted.snapshot
    · change initialized.opened.or machine.opened = some opened
      rw [granted.opens]
      rfl

theorem of_beaten {machine : Machine World} {calls : LicenseClient.RoundCalls}
    {beaten : LicenseClient.Beaten World}
    (returned : machine.client.heartbeatRound fb transport calls machine.world = some beaten) :
    FailsClosed fb
      { machine with
        client := beaten.client
        world := beaten.world
        opened := beaten.opened.or machine.opened
        sent := some beaten.sent } := by
  rcases LicenseClient.heartbeatRound_cases returned with
    ⟨state, features, thread⟩ | ⟨handshake, opened, ack, acknowledges⟩
  · apply failsClosed_of_not_valid _ features
    · change ¬ (beaten.client.heartbeatThread = .waiting ∨ beaten.client.heartbeatThread = .beating)
      rw [thread]
      decide
    · intro valid
      exact absurd (state.symm.trans valid) nofun
  obtain ⟨state, features, expireTime⟩ := acknowledges.snapshot
  have known := LicenseClient.validAuthorizationState_of_decode acknowledges.decoded
  by_cases valid : beaten.client.snapshot.state = .valid
  · rw [if_pos valid] at features
    refine ⟨fun _ => valid, fun _ => ?_, fun _ => valid⟩
    have accepts := (LicenseClient.acknowledgedState_eq_valid_iff known).mp (state.symm.trans valid)
    apply Accepted.acknowledged acknowledges.keeps rfl _ acknowledges.decoded accepts
      acknowledges.protocolVersion acknowledges.requestId features expireTime
    change beaten.opened.or machine.opened = some opened
    rw [acknowledges.opens]
    rfl
  · rw [if_neg valid] at features
    apply failsClosed_of_not_valid _ features
    · change ¬ (beaten.client.heartbeatThread = .waiting ∨ beaten.client.heartbeatThread = .beating)
      rw [acknowledges.thread, if_neg valid]
      decide
    · exact valid

theorem step {before after : Machine World} {event : Event} (closed : FailsClosed fb before)
    (step : Step fb transport before event after) : FailsClosed fb after := by
  cases step with
  | initializes calls config _ returned => exact closed.of_initialized returned
  | wakes waiting _ => exact closed.of_kept rfl rfl rfl rfl fun _ => .inl waiting
  | beats calls _ returned => exact of_beaten returned
  | leaves waiting _ => exact closed.of_kept rfl rfl rfl rfl fun _ => .inl waiting
  | stops _ => exact closed.of_kept rfl rfl rfl rfl id
  | closes ssl _ _ =>
      apply failsClosed_of_not_valid
      · exact nofun
      · rfl
      · exact nofun
  | moves world => exact closed.of_kept rfl rfl rfl rfl id

theorem later {before after : Machine World} (closed : FailsClosed fb before)
    (run : Later fb transport before after) : FailsClosed fb after := by
  induction run with
  | refl => exact closed
  | tail _ step ih =>
      obtain ⟨event, step⟩ := step
      exact ih.step step

theorem of_reachable {machine : Machine World} (reachable : Reachable fb transport machine) :
    FailsClosed fb machine := by
  obtain ⟨world, run⟩ := reachable
  refine later ?_ run
  exact failsClosed_of_not_valid nofun rfl nofun

end FailsClosed

/-! ## No way back -/

/-- Only a granted `initialize` of a new client makes it valid. -/
theorem valid_of_step {before after : Machine World} {event : Event}
    (closed : FailsClosed fb before) (step : Step fb transport before event after)
    (valid : after.Valid) :
    before.Valid ∨ before.state = .uninitialized ∧ event = .initializes {} := by
  cases step with
  | initializes calls config _ returned =>
      rcases LicenseClient.initializeClient_cases returned with
        ⟨-, -, same, -⟩ | ⟨new, fails | ⟨handshake, opened, response, granted⟩⟩
      · left
        change before.client.snapshot.state = .valid
        rw [← same]
        exact valid
      · exact absurd (fails.state.symm.trans valid) nofun
      · rw [granted.status]
        exact .inr ⟨new, rfl⟩
  | wakes waiting _ => exact .inl (closed.alive (.inl waiting))
  | beats calls beating _ => exact .inl (closed.alive (.inr beating))
  | leaves waiting _ => exact .inl (closed.alive (.inl waiting))
  | stops _ => exact .inl valid
  | closes ssl _ _ => exact absurd valid nofun
  | moves world => exact .inl valid

/-- A client is new until its first call of `initialize`. -/
theorem uninitialized_of_step {before after : Machine World} {event : Event}
    (closed : FailsClosed fb before) (step : Step fb transport before event after)
    (new : after.state = .uninitialized) :
    before.state = .uninitialized ∧ ∀ status, event ≠ .initializes status := by
  cases step with
  | @initializes initialized calls config _ returned =>
      rcases LicenseClient.initializeClient_cases returned with
        ⟨used, -, same, -⟩ | ⟨-, fails | ⟨handshake, opened, response, granted⟩⟩
      · change initialized.client.snapshot.state = .uninitialized at new
        rw [same] at new
        exact absurd new used
      · exact absurd (fails.state.symm.trans new) nofun
      · change initialized.client.snapshot.state = .uninitialized at new
        rw [granted.snapshot] at new
        cases new
  | wakes waiting _ => exact ⟨new, nofun⟩
  | @beats beaten calls beating returned =>
      change beaten.client.snapshot.state = .uninitialized at new
      rcases LicenseClient.heartbeatRound_cases returned with
        ⟨state, -, -⟩ | ⟨handshake, opened, ack, acknowledges⟩
      · exact absurd (state.symm.trans new) nofun
      · have valid : before.client.snapshot.state = .valid := closed.alive (.inr beating)
        rw [acknowledges.snapshot.1, valid] at new
        exact absurd new (LicenseClient.acknowledgedState_valid_ne ack.state)
  | leaves waiting _ => exact ⟨new, nofun⟩
  | stops _ => exact ⟨new, nofun⟩
  | closes ssl _ _ => exact absurd new nofun
  | moves world => exact ⟨new, nofun⟩

theorem used_of_later {before after : Machine World} (closed : FailsClosed fb before)
    (used : before.state ≠ .uninitialized) (run : Later fb transport before after) :
    after.state ≠ .uninitialized := by
  induction run with
  | refl => exact used
  | tail run step ih =>
      obtain ⟨event, step⟩ := step
      exact fun new => ih (uninitialized_of_step (closed.later run) step new).1

/-- A client that is neither valid nor new never becomes valid. -/
theorem not_valid_of_later {before after : Machine World} (closed : FailsClosed fb before)
    (invalid : ¬ before.Valid) (used : before.state ≠ .uninitialized)
    (run : Later fb transport before after) : ¬ after.Valid := by
  induction run with
  | refl => exact invalid
  | tail run step ih =>
      obtain ⟨event, step⟩ := step
      intro valid
      rcases valid_of_step (closed.later run) step valid with earlier | ⟨new, -⟩
      · exact ih earlier
      · exact used_of_later closed used run new

/-- The client fails closed in every run, whatever the transport and the peer
do: what it publishes comes from the last message it accepted, and once it left
`Valid`, or once an `initialize` failed, nothing makes it valid. -/
theorem licenseClient_failsClosed {machine : Machine World}
    (reachable : Reachable fb transport machine) :
    (machine.client.snapshot.features ≠ [] → machine.Valid) ∧
    (machine.Valid →
      Accepted fb machine machine.client.snapshot.features machine.client.snapshot.expireTime) ∧
    (∀ feature, machine.client.hasFeature feature = true →
      machine.Valid ∧ ∃ features expireTime,
        Accepted fb machine features expireTime ∧ feature ∈ features) ∧
    (machine.Valid → ∀ left, Later fb transport machine left → ¬ left.Valid →
      ∀ later, Later fb transport left later → ¬ later.Valid) ∧
    (∀ status after, Step fb transport machine (.initializes status) after →
      status.succeeds = false → ∀ before last event, Later fb transport after before →
        Step fb transport before event last → last.Valid → before.Valid) := by
  have closed := FailsClosed.of_reachable reachable
  refine ⟨closed.features, closed.accepted, ?_, ?_, ?_⟩
  · intro feature has
    obtain ⟨valid, member⟩ := of_decide_eq_true has
    exact ⟨valid, _, _, closed.accepted valid, member⟩
  · intro valid left run invalid later rest
    have used : machine.state ≠ .uninitialized := by
      rw [show machine.state = .valid from valid]
      decide
    exact not_valid_of_later (closed.later run) invalid (used_of_later closed used run) rest
  · intro status after step failed before last event run next valid
    have used : after.state ≠ .uninitialized :=
      fun new => (uninitialized_of_step closed step new).2 status rfl
    rcases valid_of_step ((closed.step step).later run) next valid with earlier | ⟨new, -⟩
    · exact earlier
    · exact absurd new (used_of_later (closed.step step) used run)

end

/-- A client that was granted the features of a permanent license. -/
theorem licenseClient_failsClosed_granted :
    ∃ machine : Machine Host,
      Reachable referenceEnvelopes (Host.transport referenceEnvelopes sdkTurns) machine ∧
      machine.client.hasFeature (ofAscii "capture") = true ∧
      machine.client.hasFeature (ofAscii "admin") = false ∧
      ∃ features expireTime, Accepted referenceEnvelopes machine features expireTime ∧
        ofAscii "capture" ∈ features := by
  obtain ⟨keys, initialized, opened, response, runs, -, -, -, -, -, -, start⟩ :=
    initializeClient_lockstep referenceEnvelopes_lawful sdkSetting sdkUndisturbed.initializes
      sdkUndisturbed.serves sdkUndisturbed.unexpired sdkUndisturbed.free sdkUndisturbed.drawn
  have step := @Step.initializes Host referenceEnvelopes
    (Host.transport referenceEnvelopes sdkTurns) { world := .fresh sdkLicense sdkOptions {} }
    initialized sdkCalls sdkConfig rfl runs
  have run : Later referenceEnvelopes (Host.transport referenceEnvelopes sdkTurns)
      { world := .fresh sdkLicense sdkOptions {} } _ := .single ⟨_, step⟩
  have has : initialized.client.hasFeature (ofAscii "capture") = true := by
    unfold LicenseClient.hasFeature
    rw [start.snapshot]
    decide
  have lacks : initialized.client.hasFeature (ofAscii "admin") = false := by
    unfold LicenseClient.hasFeature
    rw [start.snapshot]
    decide
  obtain ⟨-, -, accepted, -⟩ := licenseClient_failsClosed ⟨_, run⟩
  exact ⟨_, ⟨_, run⟩, has, lacks, (accepted _ has).2⟩

end YoAuthorize.Sdk
