import YoAuthorize.Sdk.Lockstep
import YoAuthorize.Sdk.Simulation
import YoAuthorize.Service.Startup

/-!
# Heartbeats and the idle deadline

`serve` gives every read a deadline, `idle_timeout_ms` after it begins once the
handshake is done.  `TimedHost` adds a clock to the service behind the socket: the
time in milliseconds and the time at which its current read began.  The transport
takes no time, so only the wait of `heartbeatLoop` moves the clock, and before any
call of the client the service has returned if its deadline is past.

As long as it is not, the client cannot tell the timed transport from the untimed
one (`simulates_host`), so the lockstep of the two sides carries over.
-/

namespace YoAuthorize.Sdk

open Octets Crypto FlatBuffer Protocol Protocol.Schema
open YoAuthorize.Service (AuthorizationService Connection ConnectionOptions ServiceConfig
  ConfigResult TomlTable loadConfig)

/-- `expired` records that `readFrame` of the service ran into its deadline. -/
structure TimedHost : Type where
  host : Host
  now : Nat := 0
  since : Nat := 0
  expired : Bool := false

namespace TimedHost

/-- The timeout of the read that `serve` is in. -/
def timeout (config : ServiceConfig) (timed : TimedHost) : Nat :=
  if timed.host.connection.established then config.idleTimeoutMs.toNat
  else config.handshakeTimeoutMs.toNat

/-- The deadline of the read has come. -/
def overdue (config : ServiceConfig) (timed : TimedHost) : Prop :=
  timed.host.connection.state ≠ .closed ∧ timed.since + timed.timeout config ≤ timed.now

instance (config : ServiceConfig) (timed : TimedHost) : Decidable (timed.overdue config) :=
  inferInstanceAs (Decidable (_ ∧ _))

/-- `serve` returns at its deadline. -/
def catchUp (config : ServiceConfig) (timed : TimedHost) : TimedHost :=
  if timed.overdue config then { timed with host := timed.host.leave, expired := true } else timed

/-- A new read begins after each frame that was handled. -/
def write (fb : Binding Envelope) (turns : Nat → Turn) (bytes : Bytes) (timed : TimedHost) :
    TimedHost × Bool :=
  let written := (Host.transport fb turns).writeAll bytes timed.host
  ({ timed with
      host := written.1
      since :=
        if written.1.handled.length = timed.host.handled.length then timed.since
        else timed.now },
    written.2)

def transport (fb : Binding Envelope) (turns : Nat → Turn) (config : ServiceConfig) :
    Transport TimedHost where
  connect timed := (timed.catchUp config, true)
  writeAll bytes timed := write fb turns bytes (timed.catchUp config)
  readExact size timed :=
    let timed := timed.catchUp config
    let read := (Host.transport fb turns).readExact size timed.host
    ({ timed with host := read.1 }, read.2)
  close timed :=
    let timed := timed.catchUp config
    { timed with host := (Host.transport fb turns).close timed.host }

/-- `wait_for` of the client, which nobody stops. -/
def wait (milliseconds : Nat) (timed : TimedHost) : TimedHost :=
  { timed with now := timed.now + milliseconds }

end TimedHost

/-- Turns of `heartbeatLoop` with their waits. -/
def LicenseClient.timedLoop (fb : Binding Envelope) (turns : Nat → Turn) (config : ServiceConfig)
    (calls : Nat → LicenseClient.RoundCalls) (client : LicenseClient) (timed : TimedHost) :
    Nat → Call (LicenseClient × TimedHost)
  | 0 => some (client, timed)
  | rounds + 1 =>
      match client.timedLoop fb turns config calls timed rounds with
      | none => none
      | some (client, timed) =>
          if client.heartbeatThread ≠ .waiting then some (client, timed)
          else
            match client.heartbeatRound fb (TimedHost.transport fb turns config) (calls rounds)
                (timed.wait client.heartbeatIntervalMs.toNat) with
            | none => none
            | some beaten => some (beaten.client, beaten.world)

/-! ## Before the deadline -/

section

variable {fb : Binding Envelope} {turns : Nat → Turn} {config : ServiceConfig}

/-- The timed service at a time, with a read that began at that time or before any
frame past the given number. -/
structure InTime (config : ServiceConfig) (now handled : Nat) (timed : TimedHost) (host : Host) :
    Prop where
  sameHost : timed.host = host
  clock : timed.now = now
  unexpired : timed.expired = false
  timely : ¬ timed.overdue config
  since : timed.since = now ∨ host.handled.length = handled

theorem TimedHost.catchUp_of_timely {timed : TimedHost} (timely : ¬ timed.overdue config) :
    timed.catchUp config = timed := if_neg timely

/-- What one turn of the service leaves, by whether it handled a frame. -/
theorem Host.turn_cases (fb : Binding Envelope) (turns : Nat → Turn) (host : Host) :
    ((host.turn fb turns).handled.length = host.handled.length ∧
      ((host.turn fb turns).connection = host.connection ∨
        (host.turn fb turns).connection.state = .closed)) ∨
      (host.turn fb turns).handled.length = host.handled.length + 1 := by
  unfold Host.turn
  split
  · exact .inl ⟨rfl, .inl rfl⟩
  · exact .inl ⟨rfl, .inr rfl⟩
  · dsimp only
    split
    · exact .inl ⟨rfl, .inr rfl⟩
    · exact .inr (by simp [Host.answered])

theorem not_overdue_of_closed {timed : TimedHost} (closed : timed.host.connection.state = .closed) :
    ¬ timed.overdue config := fun overdue => overdue.1 closed

theorem timeout_pos (timed : config.Timed) (host : TimedHost) : 0 < host.timeout config := by
  unfold TimedHost.timeout
  split
  · exact timed.idle
  · exact timed.handshake

theorem writeAll_closed {host : Host} {bytes : Bytes} (closed : host.connection.state = .closed) :
    (Host.transport fb turns).writeAll bytes host = (host, false) := if_pos closed

/-- A client of the timed service that is in time sees the untimed one. -/
theorem simulates_host (timed : config.Timed) (now handled : Nat) :
    (TimedHost.transport fb turns config).Simulates (Host.transport fb turns)
      (InTime config now handled) where
  connect := by
    intro world host start
    change Agree _ (world.catchUp config, true) (host, true)
    rw [TimedHost.catchUp_of_timely start.timely]
    exact .intro start true
  writeAll := by
    rintro world _ bytes ⟨rfl, rfl, unexpired, timely, since⟩
    change Agree _ (TimedHost.write fb turns bytes (world.catchUp config)) _
    rw [TimedHost.catchUp_of_timely timely]
    unfold TimedHost.write
    by_cases closed : world.host.connection.state = .closed
    · rw [writeAll_closed closed]
      refine .intro ⟨rfl, rfl, unexpired, ?_, ?_⟩ false
      · exact not_overdue_of_closed closed
      · rw [if_pos rfl]
        exact since
    · let arrived : Host := { world.host with toService := world.host.toService ++ bytes }
      have read : (Host.transport fb turns).writeAll bytes world.host =
          (arrived.turn fb turns, true) := if_neg closed
      rw [read]
      dsimp only
      refine .intro ⟨rfl, rfl, unexpired, ?_, ?_⟩ true
      · rcases arrived.turn_cases fb turns with ⟨same, connection | ended⟩ | more
        · rw [if_pos same]
          intro overdue
          apply timely
          unfold TimedHost.overdue TimedHost.timeout at overdue ⊢
          rwa [connection] at overdue
        · exact not_overdue_of_closed ended
        · have changed : (arrived.turn fb turns).handled.length ≠ world.host.handled.length := by
            rw [more]
            exact Nat.succ_ne_self _
          rw [if_neg changed]
          intro overdue
          have positive := timeout_pos timed
            { world with host := arrived.turn fb turns, since := world.now }
          have passed := overdue.2
          dsimp only at passed
          omega
      · rcases arrived.turn_cases fb turns with ⟨same, -⟩ | more
        · rw [if_pos same]
          exact since.imp_right same.trans
        · have changed : (arrived.turn fb turns).handled.length ≠ world.host.handled.length := by
            rw [more]
            exact Nat.succ_ne_self _
          rw [if_neg changed]
          exact .inl rfl
  readExact := by
    rintro world _ size ⟨rfl, rfl, unexpired, timely, since⟩
    change Agree _ ({ world.catchUp config with
      host := ((Host.transport fb turns).readExact size (world.catchUp config).host).1 },
        ((Host.transport fb turns).readExact size (world.catchUp config).host).2) _
    rw [TimedHost.catchUp_of_timely timely]
    by_cases long : size ≤ world.host.toClient.length
    · have read : (Host.transport fb turns).readExact size world.host =
          ({ world.host with toClient := world.host.toClient.drop size },
            some ⟨world.host.toClient.take size, List.length_take_of_le long⟩) := dif_pos long
      rw [read]
      exact .intro ⟨rfl, rfl, unexpired, timely, since⟩ _
    · have unread : (Host.transport fb turns).readExact size world.host = (world.host, none) :=
        dif_neg long
      rw [unread]
      exact .intro ⟨rfl, rfl, unexpired, timely, since⟩ _
  close := by
    rintro world _ ⟨rfl, rfl, unexpired, timely, since⟩
    change InTime config _ _ { world.catchUp config with
      host := (Host.transport fb turns).close (world.catchUp config).host } _
    rw [TimedHost.catchUp_of_timely timely]
    by_cases closed : world.host.connection.state = .closed
    · have same : (Host.transport fb turns).close world.host = world.host := if_pos closed
      rw [same]
      exact ⟨rfl, rfl, unexpired, timely, since⟩
    · have left : (Host.transport fb turns).close world.host = world.host.leave := if_neg closed
      rw [left]
      exact ⟨rfl, rfl, unexpired, not_overdue_of_closed rfl, since⟩

/-- A heartbeat leaves the interval as it is. -/
theorem heartbeatRound_interval {World : Type} {transport : Transport World}
    {calls : LicenseClient.RoundCalls} {client : LicenseClient} {world : World}
    {beaten : LicenseClient.Beaten World}
    (beats : client.heartbeatRound fb transport calls world = some beaten) :
    beaten.client.heartbeatIntervalMs = client.heartbeatIntervalMs := by
  rcases LicenseClient.heartbeatRound_ends beats with
    ⟨handshake, failed⟩ | ⟨handshake, opened, ack, -, -, -, -, acknowledged⟩
  · rw [failed]
    rfl
  · rw [acknowledged]
    rfl

/-- A thread that goes on waiting has a valid license. -/
theorem heartbeatRound_waiting {World : Type} {transport : Transport World}
    {calls : LicenseClient.RoundCalls} {client : LicenseClient} {world : World}
    {beaten : LicenseClient.Beaten World}
    (beats : client.heartbeatRound fb transport calls world = some beaten)
    (waiting : beaten.client.heartbeatThread = .waiting) :
    beaten.client.snapshot.state = .valid := by
  rcases LicenseClient.heartbeatRound_ends beats with
    ⟨handshake, failed⟩ | ⟨handshake, opened, ack, -, -, -, -, acknowledged⟩
  · rw [failed] at waiting
    cases waiting
  · rw [acknowledged] at waiting ⊢
    unfold LicenseClient.acknowledged at waiting ⊢
    dsimp only at waiting ⊢
    split at waiting
    · assumption
    · cases waiting

variable {suite : CryptoSuite} {keys : SessionKeys} {license : Core.LicenseSnapshot}
  {initial : Core.SessionManager} {session : Core.Session} {client : LicenseClient}
  {calls : Nat → LicenseClient.RoundCalls} {timed : TimedHost}

/-- The timed service in lockstep with its client: the read that it is in began with
the wait of the client. -/
structure TimedLockstep (license : Core.LicenseSnapshot) (turns : Nat → Turn)
    (keys : SessionKeys) (initial : Core.SessionManager) (session : Core.Session)
    (interval : UInt32) (rounds : Nat) (client : LicenseClient) (timed : TimedHost) : Prop where
  lockstep : Lockstep license turns keys initial session rounds client timed.host
  unexpired : timed.expired = false
  since : timed.since = timed.now
  interval : client.heartbeatIntervalMs = interval

/-- The heartbeat of a client that has waited for less than the idle timeout is in
time. -/
theorem TimedLockstep.inTime {interval : UInt32} {rounds : Nat}
    (paced : TimedLockstep license turns keys initial session interval rounds client timed)
    (within : interval < config.idleTimeoutMs) :
    InTime config (timed.now + interval.toNat) (rounds + 3) (timed.wait interval.toNat)
      timed.host where
  sameHost := rfl
  clock := rfl
  unexpired := paced.unexpired
  timely := by
    rintro ⟨-, late⟩
    have established : timed.host.connection.established = true := by
      unfold Connection.established
      rw [paced.lockstep.state]
      rfl
    have idle : (timed.wait interval.toNat).timeout config = config.idleTimeoutMs.toNat :=
      if_pos established
    have since := paced.since
    rw [UInt32.lt_iff_toNat_lt] at within
    rw [idle] at late
    unfold TimedHost.wait at late
    dsimp only at late
    omega
  since := .inr paced.lockstep.handled

/-- A round of a client that is in time. -/
theorem TimedLockstep.round (intervals : config.Timed) {interval : UInt32} {rounds : Nat}
    (paced : TimedLockstep license turns keys initial session interval rounds client timed)
    (within : interval < config.idleTimeoutMs) {call : LicenseClient.RoundCalls}
    {beaten : LicenseClient.Beaten Host}
    (beats : client.heartbeatRound fb (Host.transport fb turns) call timed.host = some beaten) :
    ∃ world, client.heartbeatRound fb (TimedHost.transport fb turns config) call
        (timed.wait client.heartbeatIntervalMs.toNat) =
          some { client := beaten.client, world, sent := beaten.sent, opened := beaten.opened } ∧
      InTime config (timed.now + interval.toNat) (rounds + 3) world beaten.world := by
  have same := @LicenseClient.heartbeatRound_simulates _ _ _ _ _ _ _ fb
    (@simulates_host fb turns config intervals (timed.now + interval.toNat) (rounds + 3)) call
    client (paced.inTime within)
  rw [beats] at same
  rw [paced.interval]
  generalize client.heartbeatRound fb (TimedHost.transport fb turns config) call
    (timed.wait interval.toNat) = result at same ⊢
  cases same with
  | returns worlds client sent opened => exact ⟨_, rfl, worlds⟩

/-- What a timed loop has come to: it is in lockstep, or the thread has returned
because the sequence numbers have run out or the license has expired. -/
inductive Paced (license : Core.LicenseSnapshot) (turns : Nat → Turn)
    (keys : SessionKeys) (initial : Core.SessionManager) (session : Core.Session)
    (interval : UInt32) (rounds : Nat) (client : LicenseClient) (timed : TimedHost) : Prop
  | beating (bound : rounds + 4 ≤ sequenceCount)
      (paced : TimedLockstep license turns keys initial session interval rounds client timed)
  | returned (thread : client.heartbeatThread ≠ .waiting) (unexpired : timed.expired = false)
      (ended : sequenceCount < rounds + 4 ∨
        ∃ k < rounds, Service.licenseExpired license (turns (k + 3)).nowUnixSeconds = true)

/-- A thread whose heartbeat did not find a valid license has returned. -/
theorem TimedLockstep.returned (intervals : config.Timed) {interval : UInt32} {rounds : Nat}
    (paced : TimedLockstep license turns keys initial session interval rounds client timed)
    (within : interval < config.idleTimeoutMs) {call : LicenseClient.RoundCalls}
    {beaten : LicenseClient.Beaten Host}
    (beats : client.heartbeatRound fb (Host.transport fb turns) call timed.host = some beaten)
    (invalid : beaten.client.snapshot.state ≠ .valid)
    (ended : sequenceCount < rounds + 1 + 4 ∨
      ∃ k < rounds + 1, Service.licenseExpired license (turns (k + 3)).nowUnixSeconds = true) :
    ∃ next, client.heartbeatRound fb (TimedHost.transport fb turns config) call
        (timed.wait client.heartbeatIntervalMs.toNat) = some next ∧
      Paced license turns keys initial session interval (rounds + 1) next.client next.world := by
  obtain ⟨world, timedBeats, inTime⟩ := paced.round intervals within beats
  have thread : beaten.client.heartbeatThread ≠ .waiting := fun waiting =>
    invalid (heartbeatRound_waiting beats waiting)
  exact ⟨_, timedBeats, .returned thread inTime.unexpired ended⟩

/-- One turn of the loop. -/
theorem TimedLockstep.step (lawful : fb.Lawful fb envelopeIdentifier Envelope.contentSize)
    (intervals : config.Timed) {call : LicenseClient.RoundCalls}
    (correct : RoundCallsCorrect call suite) (turn : ∀ k, (turns k).ssl.Correct suite)
    (features : validFeatures license.features = true) (new : session.id ∉ initial.sessions)
    {interval : UInt32} {rounds : Nat} (bound : rounds + 4 ≤ sequenceCount)
    (paced : TimedLockstep license turns keys initial session interval rounds client timed)
    (within : interval < config.idleTimeoutMs) :
    ∃ next, client.heartbeatRound fb (TimedHost.transport fb turns config) call
        (timed.wait client.heartbeatIntervalMs.toNat) = some next ∧
      Paced license turns keys initial session interval (rounds + 1) next.client next.world := by
  rcases Nat.eq_or_lt_of_le bound with exhausted | more
  · obtain ⟨beaten, beats, state⟩ := @heartbeatRound_exhausted fb _ _ _ _ _ _ _ _ call exhausted
      paced.lockstep
    refine paced.returned intervals within beats ?_ (.inl (by omega))
    rw [state]
    decide
  cases expiry : Service.licenseExpired license (turns (rounds + 3)).nowUnixSeconds with
  | true =>
      obtain ⟨beaten, beats, state, -⟩ := heartbeatRound_expired lawful correct (turn (rounds + 3))
        features more paced.lockstep new expiry
      refine paced.returned intervals within beats ?_ (.inr ⟨rounds, Nat.lt_succ_self _, expiry⟩)
      rw [state]
      decide
  | false =>
      obtain ⟨beaten, beats, lockstep, -⟩ := heartbeatRound_lockstep lawful correct
        (turn (rounds + 3)) features more paced.lockstep expiry
      obtain ⟨world, timedBeats, inTime⟩ := paced.round intervals within beats
      have handled : beaten.world.handled.length ≠ rounds + 3 := by
        rw [lockstep.handled]
        exact Nat.succ_ne_self _
      refine ⟨_, timedBeats, .beating more ?_⟩
      exact
        { lockstep := inTime.sameHost ▸ lockstep
          unexpired := inTime.unexpired
          since := (inTime.since.resolve_right handled).trans inTime.clock.symm
          interval := (heartbeatRound_interval beats).trans paced.interval }

/-- A client whose interval is below the idle timeout never meets the deadline. -/
theorem timedLoop_paced (lawful : fb.Lawful fb envelopeIdentifier Envelope.contentSize)
    (intervals : config.Timed) (correct : ∀ k, RoundCallsCorrect (calls k) suite)
    (turn : ∀ k, (turns k).ssl.Correct suite) (features : validFeatures license.features = true)
    (new : session.id ∉ initial.sessions) {interval : UInt32}
    (start : TimedLockstep license turns keys initial session interval 0 client timed)
    (within : interval < config.idleTimeoutMs) (rounds : Nat) :
    ∃ after later, client.timedLoop fb turns config calls timed rounds = some (after, later) ∧
      Paced license turns keys initial session interval rounds after later := by
  induction rounds with
  | zero => exact ⟨client, timed, rfl, .beating (by decide) start⟩
  | succ rounds ih =>
      obtain ⟨after, later, runs, paced⟩ := ih
      unfold LicenseClient.timedLoop
      rw [runs]
      dsimp only
      cases paced with
      | returned thread unexpired ended =>
          rw [if_pos thread]
          refine ⟨after, later, rfl, .returned thread unexpired ?_⟩
          rcases ended with exhausted | ⟨k, earlier, expired⟩
          · exact .inl (by omega)
          · exact .inr ⟨k, by omega, expired⟩
      | beating bound paced =>
          rw [if_neg (not_not.mpr paced.lockstep.thread)]
          obtain ⟨next, beats, nextPaced⟩ := paced.step lawful intervals (correct rounds) turn
            features new bound within
          rw [beats]
          exact ⟨next.client, next.world, rfl, nextPaced⟩

/-! ## At the deadline -/

/-- A client that waits for the idle timeout or longer finds the service gone. -/
theorem TimedLockstep.late {interval : UInt32} {rounds : Nat}
    (paced : TimedLockstep license turns keys initial session interval rounds client timed)
    (late : config.idleTimeoutMs ≤ interval) :
    (timed.wait interval.toNat).catchUp config =
      { timed.wait interval.toNat with host := timed.host.leave, expired := true } := by
  refine if_pos ⟨?_, ?_⟩
  · change timed.host.connection.state ≠ .closed
    rw [paced.lockstep.state]
    decide
  · have established : timed.host.connection.established = true := by
      unfold Connection.established
      rw [paced.lockstep.state]
      rfl
    have idle : (timed.wait interval.toNat).timeout config = config.idleTimeoutMs.toNat :=
      if_pos established
    have since := paced.since
    rw [UInt32.le_iff_toNat_le] at late
    rw [idle]
    unfold TimedHost.wait
    dsimp only
    omega

/-- The first heartbeat of such a client fails at its write. -/
theorem timedLoop_overdue (lawful : fb.Lawful fb envelopeIdentifier Envelope.contentSize)
    (correct : RoundCallsCorrect (calls 0) suite) {interval : UInt32}
    (start : TimedLockstep license turns keys initial session interval 0 client timed)
    (late : config.idleTimeoutMs ≤ interval) :
    ∃ after later, client.timedLoop fb turns config calls timed 1 = some (after, later) ∧
      later.expired = true := by
  obtain ⟨near, far, clientSide, -, -, version⟩ := start.lockstep.handshakes
  have selected : (near.inSession keys (0 + 3) (0 + 2)).selectedVersion ≠ 0 := version
  obtain ⟨plaintext, encodes⟩ := @exists_encodeHeartbeat fb 0 _ selected (by decide)
    client.sessionId
  have fits : FitsRecord plaintext := fits_of_encode lawful .heartbeat encodes
  have sealed : (near.inSession keys (0 + 3) (0 + 2)).seal (calls 0).sealing plaintext = _ :=
    near.seal_inSession correct.sealing (by decide) fits
  have refused : ∀ frame,
      (TimedHost.transport fb turns config).writeAll frame (timed.wait interval.toNat) =
        ({ timed.wait interval.toNat with host := timed.host.leave, expired := true }, false) := by
    intro frame
    change TimedHost.write fb turns frame ((timed.wait interval.toNat).catchUp config) = _
    rw [start.late late]
    unfold TimedHost.write
    rw [writeAll_closed (rfl : timed.host.leave.connection.state = .closed)]
    dsimp only
    rw [if_pos rfl]
  unfold LicenseClient.timedLoop LicenseClient.timedLoop
  dsimp only
  rw [if_neg (not_not.mpr start.lockstep.thread), start.interval]
  unfold LicenseClient.heartbeatRound exchangeRecord
  rw [clientSide]
  dsimp only
  rw [start.lockstep.nextRequestId, encodes]
  dsimp only
  rw [sealed]
  dsimp only
  rw [refused]
  exact ⟨_, _, rfl, rfl⟩

end

/-! ## A service with its configuration -/

/-- `serve` begins its first read. -/
def TimedHost.fresh (service : AuthorizationService) (peerIdentity : Bytes)
    (sessions : Core.SessionManager) : TimedHost where
  host :=
    { connection := service.connection peerIdentity
      sessions := sessions }

section

variable {fb : Binding Envelope} {turns : Nat → Turn} {suite : CryptoSuite}
  {service : AuthorizationService} {peerIdentity : Bytes} {config : ClientConfig}
  {calls : LicenseClient.InitializeCalls} {rounds : Nat → LicenseClient.RoundCalls}
  {closing : OpenSsl} {initial : Core.SessionManager} {id : Core.SessionId}

/-- A client of a service that trusts its key and asks for its product, and whose
messages fit the wire. -/
structure Wired (suite : CryptoSuite) (service : AuthorizationService) (peerIdentity : Bytes)
    (config : ClientConfig) : Prop where
  complete : config.incomplete = false
  product : config.productId = service.license.productId
  productSize : service.license.productId.length ≤ kMaxProductIdSize
  features : validFeatures service.license.features = true
  keyId : service.keys.identityKeyId ≠ []
  keyIdSize : service.keys.identityKeyId.length ≤ kMaxKeyIdSize
  trusted : config.trustedServiceKeys.lookup service.keys.identityKeyId =
    some (suite.publicKey service.keys.identityPrivateKey)
  peer : peerIdentity ≠ []

/-- The options of the connection that `serve` constructs. -/
def serveOptions (service : AuthorizationService) (peerIdentity : Bytes) : ConnectionOptions where
  serviceKeyId := service.keys.identityKeyId
  identityPrivateKey := service.keys.identityPrivateKey
  peerIdentity := peerIdentity
  heartbeatIntervalMs := service.config.heartbeatIntervalMs
  heartbeatTimeoutMs := service.config.heartbeatTimeoutMs

theorem Wired.setting (wired : Wired suite service peerIdentity config)
    (intervals : service.config.Timed) :
    Setting suite service.license (serveOptions service peerIdentity) config where
  complete := wired.complete
  product := wired.product
  productSize := wired.productSize
  features := wired.features
  keyId := wired.keyId
  keyIdSize := wired.keyIdSize
  trusted := wired.trusted
  peer := wired.peer
  interval := intervals.interval
  timeout := intervals.timeout

theorem TimedHost.fresh_inTime (intervals : service.config.Timed) :
    InTime service.config 0 0 (.fresh service peerIdentity initial)
      (.fresh service.license (serveOptions service peerIdentity) initial) where
  sameHost := rfl
  clock := rfl
  unexpired := rfl
  timely := by
    rintro ⟨-, late⟩
    have positive := timeout_pos intervals (.fresh service peerIdentity initial)
    change 0 + _ ≤ 0 at late
    omega
  since := .inl rfl

/-- `initialize` takes no time; it ends with the parameters of the configuration. -/
theorem initializeClient_timed (lawful : fb.Lawful fb envelopeIdentifier Envelope.contentSize)
    (intervals : service.config.Timed) (wired : Wired suite service peerIdentity config)
    (undisturbed : Undisturbed suite service.license calls rounds closing turns initial id) :
    ∃ keys initialized opened response,
      LicenseClient.initializeClient fb (TimedHost.transport fb turns service.config) calls config
        {} (.fresh service peerIdentity initial) = some initialized ∧
      initialized.status = {} ∧ initialized.opened = some opened ∧
      decodeAuthResult fb opened = some (.ok response) ∧
      response.heartbeatIntervalMs = service.config.heartbeatIntervalMs ∧
      response.heartbeatTimeoutMs = service.config.heartbeatTimeoutMs ∧
      TimedLockstep service.license turns keys initial
        (sdkSession service.license (serveOptions service peerIdentity) turns id)
        service.config.heartbeatIntervalMs 0 initialized.client initialized.world := by
  obtain ⟨keys, initialized, opened, response, runs, status, opens, decoded, -,
    ⟨interval, timeout, clientInterval⟩, -, lockstep⟩ :=
      initializeClient_lockstep lawful (wired.setting intervals) undisturbed.initializes
        undisturbed.serves undisturbed.unexpired undisturbed.free undisturbed.drawn
  have same := @LicenseClient.initializeClient_simulates _ _ _ _ _ _ _ fb
    (@simulates_host fb turns service.config intervals 0 0) calls config {}
    (@TimedHost.fresh_inTime service peerIdentity initial intervals)
  rw [runs] at same
  generalize LicenseClient.initializeClient fb (TimedHost.transport fb turns service.config) calls
    config {} (.fresh service peerIdentity initial) = result at same ⊢
  cases same with
  | @returns world host inTime client status' opened' =>
      have handled : host.handled.length ≠ 0 := by
        rw [lockstep.handled]
        decide
      refine ⟨keys, _, opened, response, rfl, status, opens, decoded, interval, timeout, ?_⟩
      exact
        { lockstep := inTime.sameHost ▸ lockstep
          unexpired := inTime.unexpired
          since := (inTime.since.resolve_right handled).trans inTime.clock.symm
          interval := clientInterval.trans interval }

/-- An initialized client stays connected: in no round has the service returned at
its deadline, and the client is valid for as long as its license and its sequence
numbers last. -/
def StaysConnected (fb : Binding Envelope) (turns : Nat → Turn) (service : AuthorizationService)
    (rounds : Nat → LicenseClient.RoundCalls) (initialized : LicenseClient.Initialized TimedHost) :
    Prop :=
  ∀ n, ∃ client timed,
    initialized.client.timedLoop fb turns service.config rounds initialized.world n =
      some (client, timed) ∧
    timed.expired = false ∧
    (n + 4 ≤ sequenceCount →
      (∀ k < n, Service.licenseExpired service.license (turns (k + 3)).nowUnixSeconds = false) →
      client.snapshot.state = .valid)

/-- The parameters that a service with an accepted configuration sends pass the checks
of the client; its deadline for the next frame is met by every heartbeat exactly when
the heartbeat interval is below the idle timeout, which `loadConfig` does not check. -/
theorem staysConnected_iff (lawful : fb.Lawful fb envelopeIdentifier Envelope.contentSize)
    {file : ConfigResult TomlTable} (loaded : loadConfig file = .ok service.config)
    (wired : Wired suite service peerIdentity config)
    (undisturbed : Undisturbed suite service.license calls rounds closing turns initial id) :
    ∃ initialized opened response,
      LicenseClient.initializeClient fb (TimedHost.transport fb turns service.config) calls config
        {} (.fresh service peerIdentity initial) = some initialized ∧
      initialized.status = {} ∧ initialized.opened = some opened ∧
      decodeAuthResult fb opened = some (.ok response) ∧
      response.heartbeatIntervalMs = service.config.heartbeatIntervalMs ∧
      response.heartbeatTimeoutMs = service.config.heartbeatTimeoutMs ∧
      0 < response.heartbeatIntervalMs ∧
      response.heartbeatIntervalMs < response.heartbeatTimeoutMs ∧
      (StaysConnected fb turns service rounds initialized ↔
        service.config.heartbeatIntervalMs < service.config.idleTimeoutMs) := by
  have intervals := Service.timed_of_loadConfig loaded
  obtain ⟨keys, initialized, opened, response, runs, status, opens, decoded, interval, timeout,
    start⟩ := initializeClient_timed lawful intervals wired undisturbed
  refine ⟨initialized, opened, response, runs, status, opens, decoded, interval, timeout,
    interval ▸ intervals.interval, interval ▸ timeout ▸ intervals.timeout, ?_, ?_⟩
  · intro connected
    by_contra late
    obtain ⟨after, later, loops, expired⟩ := timedLoop_overdue lawful (undisturbed.beats 0) start
      (UInt32.not_lt.mp late)
    obtain ⟨client, timed, connects, unexpired, -⟩ := connected 1
    rw [loops] at connects
    cases connects
    rw [expired] at unexpired
    cases unexpired
  · intro within n
    have new : id ∉ initial.sessions := Core.SessionManager.drawId_notMem undisturbed.drawn
    obtain ⟨client, timed, loops, paced⟩ := timedLoop_paced lawful intervals undisturbed.beats
      undisturbed.serves wired.features new start within n
    refine ⟨client, timed, loops, ?_⟩
    cases paced with
    | beating bound paced =>
        refine ⟨paced.unexpired, fun _ _ => ?_⟩
        rw [paced.lockstep.snapshot]
    | returned thread unexpired ended =>
        refine ⟨unexpired, ?_⟩
        intro bound valid
        rcases ended with exhausted | ⟨k, earlier, expired⟩
        · omega
        · rw [valid k earlier] at expired
          cases expired

end

/-! ## Two configurations -/

/-- A configuration file with the given times. -/
def pacedDocument (times : TomlTable) : TomlTable :=
  [(utf8 "service", .table
      ([(utf8 "identity_key_id", .string (utf8 "service-1")),
        (utf8 "identity_private_key", .string (utf8 "/etc/yoauthorize/identity.key")),
        (utf8 "license", .string (utf8 "/etc/yoauthorize/license.bin")),
        (utf8 "product_id", .string (utf8 "product-1")),
        (utf8 "allowed_uids", .array [.integer 1000])] ++ times)),
    (utf8 "license_keys", .array
      [.table
        [(utf8 "id", .string (utf8 "key-1")),
          (utf8 "public_key", .string (utf8 "/etc/yoauthorize/license.pub"))]])]

def defaultConfig : ServiceConfig where
  identityKeyId := utf8 "service-1"
  identityPrivateKeyPath := utf8 "/etc/yoauthorize/identity.key"
  licensePath := utf8 "/etc/yoauthorize/license.bin"
  productId := utf8 "product-1"
  licenseKeys := [{ id := utf8 "key-1", publicKeyPath := utf8 "/etc/yoauthorize/license.pub" }]
  allowedUids := [1000]

/-- A service that reads for one second and asks for a heartbeat every minute. -/
def impatientConfig : ServiceConfig :=
  { defaultConfig with
    idleTimeoutMs := 1000
    heartbeatIntervalMs := 60000
    heartbeatTimeoutMs := 300000 }

theorem loadConfig_defaultConfig : loadConfig (.ok (pacedDocument [])) = .ok defaultConfig := by
  rfl

theorem loadConfig_impatientConfig :
    loadConfig (.ok (pacedDocument
      [(utf8 "idle_timeout_ms", .integer 1000), (utf8 "heartbeat_interval_ms", .integer 60000),
        (utf8 "heartbeat_timeout_ms", .integer 300000)])) = .ok impatientConfig := by
  rfl

def pacedService (config : ServiceConfig) : AuthorizationService where
  config := config
  keys :=
    { identityKeyId := ofAscii "service-1"
      identityPrivateKey := .zeros kKeySize
      licensePublicKeys :=
        (∅ : AList fun _ : Bytes => Key).insert (utf8 "key-1") (.zeros kKeySize) }
  license := sdkLicense

theorem pacedWired (config : ServiceConfig) :
    Wired referenceSuite (pacedService config) (AuthorizationService.peerIdentity 1000 1000 7)
      sdkConfig where
  complete := sdkSetting.complete
  product := sdkSetting.product
  productSize := sdkSetting.productSize
  features := sdkSetting.features
  keyId := sdkSetting.keyId
  keyIdSize := sdkSetting.keyIdSize
  trusted := sdkSetting.trusted
  peer := by decide

/-- With the default times a client with a permanent license stays connected. -/
theorem staysConnected_default :
    ∃ initialized,
      LicenseClient.initializeClient referenceEnvelopes
        (TimedHost.transport referenceEnvelopes sdkTurns defaultConfig) sdkCalls sdkConfig {}
        (.fresh (pacedService defaultConfig) (AuthorizationService.peerIdentity 1000 1000 7) {}) =
          some initialized ∧
      StaysConnected referenceEnvelopes sdkTurns (pacedService defaultConfig) sdkRounds
        initialized := by
  obtain ⟨initialized, -, -, runs, -, -, -, -, -, -, -, connected⟩ :=
    staysConnected_iff referenceEnvelopes_lawful loadConfig_defaultConfig (pacedWired defaultConfig)
      sdkUndisturbed
  refine ⟨initialized, runs, connected.mpr ?_⟩
  decide

/-- A service whose idle timeout is below its heartbeat interval is gone at the first
heartbeat of its client. -/
theorem staysConnected_impatient :
    ∃ file initialized,
      loadConfig (.ok file) = .ok (pacedService impatientConfig).config ∧
      LicenseClient.initializeClient referenceEnvelopes
        (TimedHost.transport referenceEnvelopes sdkTurns impatientConfig) sdkCalls sdkConfig {}
        (.fresh (pacedService impatientConfig) (AuthorizationService.peerIdentity 1000 1000 7) {}) =
          some initialized ∧
      initialized.status = {} ∧
      (∃ client timed, initialized.client.timedLoop referenceEnvelopes sdkTurns impatientConfig
        sdkRounds initialized.world 1 = some (client, timed) ∧ timed.expired = true) ∧
      ¬ StaysConnected referenceEnvelopes sdkTurns (pacedService impatientConfig) sdkRounds
        initialized := by
  have intervals := Service.timed_of_loadConfig loadConfig_impatientConfig
  obtain ⟨keys, initialized, -, -, runs, status, -, -, -, -, start⟩ :=
    @initializeClient_timed _ _ _ (pacedService impatientConfig) _ _ _ _ _ _ _
      referenceEnvelopes_lawful intervals (pacedWired impatientConfig) sdkUndisturbed
  have late : impatientConfig.idleTimeoutMs ≤ impatientConfig.heartbeatIntervalMs := by decide
  obtain ⟨client, timed, loops, expired⟩ :=
    timedLoop_overdue referenceEnvelopes_lawful (sdkUndisturbed.beats 0) start late
  refine ⟨_, initialized, loadConfig_impatientConfig, runs, status, ⟨client, timed, loops, expired⟩,
    ?_⟩
  intro connected
  obtain ⟨after, later, connects, unexpired, -⟩ := connected 1
  have same := loops.symm.trans connects
  cases same
  rw [expired] at unexpired
  cases unexpired

end YoAuthorize.Sdk
