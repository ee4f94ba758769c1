import YoAuthorize.Service.Connection

/-!
# What a connection does to the session manager

A connection changes the session it holds and the shared table in three ways:
it acquires a session, renews it and releases it.  `Connection.handle_effect`
says for every exit of `handle` that the call is a sequence of such moves, that
a session is held afterwards exactly when the connection is active, and that
only a connection that was neither authorized nor closed creates one.
-/

namespace YoAuthorize.Service

open Octets Crypto FlatBuffer Protocol Protocol.Schema YoAuthorize.Core
open Function Relation

/-! ## Steps of one connection on the shared table -/

/-- One change to the session of a connection and to the shared manager. -/
inductive SessionMove (license : LicenseSnapshot) (peerIdentity : Bytes) :
    Option Session × SessionManager → Option Session × SessionManager → Prop
  | acquire {manager : SessionManager} {session : Session} (new : session.id ∉ manager.sessions)
      (room : manager.active license.productId < license.maxSessions.toNat)
      (product : session.productId = license.productId)
      (peer : session.peerIdentity = peerIdentity) :
      SessionMove license peerIdentity (none, manager)
        (some session, { sessions := manager.sessions.insert session.id session })
  | renew {manager : SessionManager} {session entry renewed : Session}
      (present : manager.sessions.lookup session.id = some entry)
      (sameIdentity : renewed.identity = entry.identity) :
      SessionMove license peerIdentity (some session, manager)
        (some session, { sessions := manager.sessions.insert session.id renewed })
  | release {manager : SessionManager} {session : Session} :
      SessionMove license peerIdentity (some session, manager) (none, manager.close session.id)

/-- How a call may change a connection and the manager. -/
structure Evolves (connection : Connection) (manager : SessionManager) (next : Connection)
    (nextManager : SessionManager) : Prop where
  license : next.license = connection.license
  peerIdentity : next.peerIdentity = connection.peerIdentity
  moves : ReflTransGen (SessionMove connection.license connection.peerIdentity)
    (connection.session, manager) (next.session, nextManager)

theorem Evolves.trans {first second third : Connection} {before between after : SessionManager}
    (left : Evolves first before second between) (right : Evolves second between third after) :
    Evolves first before third after where
  license := right.license.trans left.license
  peerIdentity := right.peerIdentity.trans left.peerIdentity
  moves := left.moves.trans (left.license ▸ left.peerIdentity ▸ right.moves)

/-- A call that leaves the session and the manager alone. -/
theorem Evolves.still {connection next : Connection} {manager : SessionManager}
    (license : next.license = connection.license)
    (peerIdentity : next.peerIdentity = connection.peerIdentity)
    (session : next.session = connection.session) :
    Evolves connection manager next manager where
  license := license
  peerIdentity := peerIdentity
  moves := by rw [session]

namespace Connection

/-- A session is held exactly while the connection is active. -/
def Settled (connection : Connection) : Prop :=
  connection.session.isSome = true ↔ connection.state = .active

/-- Neither authorized nor closed yet. -/
def Pending (connection : Connection) : Prop :=
  connection.state ≠ .active ∧ connection.state ≠ .closed

theorem settled_of_closed {connection : Connection} (state : connection.state = .closed)
    (session : connection.session = none) : connection.Settled := by
  constructor
  · intro held
    rw [session] at held
    cases held
  · intro active
    rw [state] at active
    cases active

theorem Settled.session_eq_none {connection : Connection} (settled : connection.Settled)
    (inactive : connection.state ≠ .active) : connection.session = none := by
  cases held : connection.session with
  | none => rfl
  | some session => exact absurd (settled.mp (by rw [held]; rfl)) inactive

/-- What a call of `handle` did. -/
structure Effect (connection : Connection) (manager : SessionManager) (handled : Handled) :
    Prop where
  evolves : Evolves connection manager handled.connection handled.sessions
  settled : handled.connection.Settled
  created : handled.created ≠ none → connection.Pending
  pending : handled.connection.Pending → connection.Pending ∧ handled.created = none

/-! ## The exits of `handle` -/

theorem closeSession_session (connection : Connection) (manager : SessionManager) :
    (connection.closeSession manager).1.session = none := by
  unfold closeSession
  split
  · assumption
  · rfl

theorem closeSession_handshake (connection : Connection) (manager : SessionManager) :
    (connection.closeSession manager).1.handshake = connection.handshake := by
  unfold closeSession
  split <;> rfl

theorem closeSession_state (connection : Connection) (manager : SessionManager) :
    (connection.closeSession manager).1.state = connection.state := by
  unfold closeSession
  split <;> rfl

theorem closeSession_evolves (connection : Connection) (manager : SessionManager) :
    Evolves connection manager (connection.closeSession manager).1
      (connection.closeSession manager).2 := by
  unfold closeSession
  split
  · exact .still rfl rfl rfl
  · rename_i session held
    refine ⟨rfl, rfl, ?_⟩
    rw [held]
    exact .single .release

theorem abort_evolves (connection : Connection) (manager : SessionManager)
    (error : ConnectionError) :
    Evolves connection manager (connection.abort manager error).connection
      (connection.abort manager error).sessions := by
  have closed : Evolves connection manager { connection with state := .closed } manager :=
    .still rfl rfl rfl
  exact closed.trans (closeSession_evolves { connection with state := .closed } manager)

theorem abort_state (connection : Connection) (manager : SessionManager) (error : ConnectionError) :
    (connection.abort manager error).connection.state = .closed :=
  closeSession_state { connection with state := .closed } manager

theorem abort_settled (connection : Connection) (manager : SessionManager)
    (error : ConnectionError) : (connection.abort manager error).connection.Settled :=
  settled_of_closed (connection.abort_state manager error)
    (closeSession_session { connection with state := .closed } manager)

theorem encryptedResponse_evolves (ssl : OpenSsl) (connection : Connection)
    (manager : SessionManager) (plaintext : Bytes) (closeAfter : Bool) :
    Evolves connection manager
      (connection.encryptedResponse ssl manager plaintext closeAfter).connection
      (connection.encryptedResponse ssl manager plaintext closeAfter).sessions := by
  unfold encryptedResponse
  split
  · rename_i handshake _ _
    have next : Evolves connection manager { connection with handshake } manager :=
      .still rfl rfl rfl
    exact next.trans (abort_evolves ..)
  · exact .still rfl rfl rfl

/-- A response leaves the connection as it was, unless it closes it. -/
theorem encryptedResponse_settled (ssl : OpenSsl) {connection : Connection}
    (manager : SessionManager) (plaintext : Bytes) {closeAfter : Bool}
    (settled : if closeAfter then connection.session = none else connection.Settled) :
    (connection.encryptedResponse ssl manager plaintext closeAfter).connection.Settled := by
  unfold encryptedResponse
  split
  · exact abort_settled ..
  · cases closeAfter with
    | true => exact settled_of_closed rfl settled
    | false => exact settled

theorem encryptedResponse_state (ssl : OpenSsl) (connection : Connection)
    (manager : SessionManager) (plaintext : Bytes) (closeAfter : Bool) :
    (connection.encryptedResponse ssl manager plaintext closeAfter).connection.state = .closed ∨
      (closeAfter = false ∧
        (connection.encryptedResponse ssl manager plaintext closeAfter).connection.state =
          connection.state) := by
  unfold encryptedResponse
  split
  · exact .inl (abort_state ..)
  · cases closeAfter with
    | true => exact .inl rfl
    | false => exact .inr ⟨rfl, rfl⟩

theorem encryptedResponse_created (ssl : OpenSsl) (connection : Connection)
    (manager : SessionManager) (plaintext : Bytes) (closeAfter : Bool) :
    (connection.encryptedResponse ssl manager plaintext closeAfter).created = none := by
  unfold encryptedResponse
  split <;> rfl

section

variable {fb : Binding Envelope} {ssl : OpenSsl} {connection : Connection}
  {manager : SessionManager}

theorem not_pending_of_closed {next : Connection} (state : next.state = .closed) :
    ¬ next.Pending :=
  fun pending => pending.2 state

theorem effect_of_closed {handled : Handled}
    (evolves : Evolves connection manager handled.connection handled.sessions)
    (settled : handled.connection.Settled) (state : handled.connection.state = .closed)
    (created : handled.created = none) : connection.Effect manager handled where
  evolves := evolves
  settled := settled
  created something := absurd created something
  pending pending := absurd pending (not_pending_of_closed state)

theorem abort_effect (connection : Connection) (manager : SessionManager)
    (error : ConnectionError) : connection.Effect manager (connection.abort manager error) :=
  effect_of_closed (abort_evolves ..) (abort_settled ..) (abort_state ..) rfl

/-- Before a session exists there is nothing to release. -/
theorem reject_effect (manager : SessionManager) (error : ConnectionError)
    (session : connection.session = none) :
    connection.Effect manager (connection.reject manager error) :=
  effect_of_closed (.still rfl rfl rfl) (settled_of_closed rfl session) rfl rfl

theorem Effect.after {between : SessionManager} {handled : Handled}
    (evolves : Evolves connection manager connection between)
    (effect : connection.Effect between handled) : connection.Effect manager handled :=
  { effect with evolves := evolves.trans effect.evolves }

/-- The handshake object plays no part in the accounting. -/
theorem Effect.of_handshake {handshake : ServerHandshake} {handled : Handled}
    (effect : { connection with handshake }.Effect manager handled) :
    connection.Effect manager handled where
  evolves :=
    have next : Evolves connection manager { connection with handshake } manager :=
      .still rfl rfl rfl
    next.trans effect.evolves
  settled := effect.settled
  created := effect.created
  pending := effect.pending

/-- The next handshake message keeps a connection without a session pending. -/
theorem effect_of_pending {handled : Handled} (pending : connection.Pending)
    (session : connection.session = none)
    (next : handled.connection.Pending ∧ handled.connection.session = none)
    (license : handled.connection.license = connection.license)
    (peerIdentity : handled.connection.peerIdentity = connection.peerIdentity)
    (sessions : handled.sessions = manager) (created : handled.created = none) :
    connection.Effect manager handled where
  evolves := sessions ▸ .still license peerIdentity (next.2.trans session.symm)
  settled := by
    rw [Settled, next.2]
    exact ⟨nofun, fun active => absurd active next.1.1⟩
  created something := absurd created something
  pending _ := ⟨pending, created⟩

theorem handleHello_effect {frame : Bytes} {handled : Handled} (pending : connection.Pending)
    (session : connection.session = none)
    (call : connection.handleHello fb ssl manager frame = some handled) :
    connection.Effect manager handled := by
  unfold handleHello at call
  split at call
  · cases call
    exact reject_effect manager _ session
  split at call
  · cases call
    exact reject_effect manager _ session
  split at call
  · cases call
  · cases call
    apply Effect.of_handshake
    exact reject_effect manager _ session
  · cases call
    exact effect_of_pending pending session ⟨⟨nofun, nofun⟩, session⟩ rfl rfl rfl rfl

theorem handleFinished_effect {frame : Bytes} {handled : Handled} (pending : connection.Pending)
    (session : connection.session = none)
    (call : connection.handleFinished fb ssl manager frame = some handled) :
    connection.Effect manager handled := by
  unfold handleFinished at call
  split at call
  · cases call
  · cases call
    apply Effect.of_handshake
    exact reject_effect manager _ session
  · cases call
    exact effect_of_pending pending session ⟨⟨nofun, nofun⟩, session⟩ rfl rfl rfl rfl

/-- A decision either leaves everything alone or acquires a session. -/
theorem authorize_effect {draws : List Core.SessionId} {request : AuthorizeMessage}
    {nowMonotonicMs nowUnixSeconds : UInt64} (session : connection.session = none)
    {decision : Decision}
    (decided : connection.authorize manager draws request nowMonotonicMs nowUnixSeconds =
      decision) :
    Evolves connection manager decision.connection decision.sessions ∧
      ((decision.error.isSome = true ∧ decision.connection.session = none) ∨
        (decision.error.isSome = false ∧ decision.connection.Settled ∧
          decision.connection.state = .active)) := by
  unfold authorize at decided
  dsimp only at decided
  split at decided
  · subst decided
    exact ⟨.still rfl rfl rfl, .inl ⟨rfl, session⟩⟩
  split at decided
  · subst decided
    exact ⟨.still rfl rfl rfl, .inl ⟨rfl, session⟩⟩
  rcases manager.create_cases draws connection.license.productId connection.peerIdentity
      connection.license.features connection.license.expireTime nowMonotonicMs
      connection.license.maxSessions with
    ⟨error, refused⟩ | ⟨created, accepted, new, room, product, peer, -, -⟩
  · rw [refused] at decided
    subst decided
    exact ⟨.still rfl rfl rfl, .inl ⟨rfl, session⟩⟩
  · rw [accepted] at decided
    subst decided
    refine ⟨⟨rfl, rfl, ?_⟩, .inr ⟨rfl, ⟨fun _ => rfl, fun _ => rfl⟩, rfl⟩⟩
    rw [session]
    exact .single (.acquire new room product peer)

theorem answer_effect {decision : Decision} (pending : connection.Pending)
    (evolves : Evolves connection manager decision.connection decision.sessions)
    (decided : (decision.error.isSome = true ∧ decision.connection.session = none) ∨
      (decision.error.isSome = false ∧ decision.connection.Settled ∧
        decision.connection.state = .active)) :
    connection.Effect manager (answer fb ssl decision) := by
  unfold answer
  split
  · have aborted := abort_effect decision.connection decision.sessions .invalidMessage
    refine ⟨evolves.trans aborted.evolves, aborted.settled, fun _ => pending, ?_⟩
    intro next
    exact absurd next (not_pending_of_closed
      (abort_state decision.connection decision.sessions .invalidMessage))
  · rename_i encoded _
    refine ⟨evolves.trans (encryptedResponse_evolves ..), ?_, fun _ => pending, ?_⟩
    · apply encryptedResponse_settled
      rcases decided with ⟨refused, session⟩ | ⟨granted, settled, -⟩
      · rw [refused]
        exact session
      · rw [granted]
        exact settled
    · intro next
      rcases encryptedResponse_state ssl decision.connection decision.sessions encoded
          decision.error.isSome with closed | ⟨notRefused, same⟩
      · exact absurd next (not_pending_of_closed closed)
      · rcases decided with ⟨refused, -⟩ | ⟨-, -, active⟩
        · rw [refused] at notRefused
          cases notRefused
        · exact absurd (same.trans active) next.1

theorem handleAuthorize_effect {draws : List Core.SessionId} {plaintext : Bytes}
    {nowMonotonicMs nowUnixSeconds : UInt64} {handled : Handled} (pending : connection.Pending)
    (session : connection.session = none)
    (call : connection.handleAuthorize fb ssl manager draws plaintext nowMonotonicMs
      nowUnixSeconds = some handled) :
    connection.Effect manager handled := by
  unfold handleAuthorize at call
  split at call
  · cases call
  · cases call
    exact reject_effect manager _ session
  split at call
  · cases call
    exact reject_effect manager _ session
  · cases call
    rcases authorize_effect session rfl with ⟨evolves, decided⟩
    exact answer_effect pending evolves decided

/-- On a license that has not expired a heartbeat is answered with its acknowledgement. -/
theorem acknowledge_of_unexpired {session : Session} {request : HeartbeatMessage}
    {nowUnixSeconds : UInt64} {encoded : Bytes}
    (unexpired : licenseExpired connection.license nowUnixSeconds = false)
    (encodes : encodeHeartbeatAck fb
      { requestId := request.requestId
        protocolVersion := connection.handshake.selectedVersion
        state := .valid
        features := session.features
        expireTime := session.expireTime } = .ok encoded) :
    connection.acknowledge fb ssl manager session request nowUnixSeconds =
      connection.encryptedResponse ssl manager encoded := by
  unfold acknowledge
  simp only [unexpired, Bool.false_eq_true, if_false, encodes]

theorem acknowledge_effect {session : Session} {request : HeartbeatMessage}
    {nowUnixSeconds : UInt64} (held : connection.session = some session)
    (state : connection.state = .active) :
    connection.Effect manager
      (connection.acknowledge fb ssl manager session request nowUnixSeconds) := by
  have settled : connection.Settled := ⟨fun _ => state, fun _ => by rw [held]; rfl⟩
  unfold acknowledge
  dsimp only
  split
  · exact abort_effect ..
  split
  · -- The session is released before the last response closes the connection.
    refine effect_of_closed ((closeSession_evolves ..).trans (encryptedResponse_evolves ..))
      (encryptedResponse_settled _ _ _ (closeSession_session ..)) ?_
      (encryptedResponse_created ..)
    rcases encryptedResponse_state ssl (connection.closeSession manager).1
      (connection.closeSession manager).2 _ true with closed | ⟨granted, -⟩
    · exact closed
    · cases granted
  · exact
      { evolves := encryptedResponse_evolves ..
        settled := encryptedResponse_settled _ _ _ settled
        created := fun something => absurd (encryptedResponse_created ..) something
        pending := by
          intro next
          rcases encryptedResponse_state ssl connection manager _ false with closed | ⟨-, same⟩
          · exact absurd next (not_pending_of_closed closed)
          · exact absurd (same.trans state) next.1 }

/-- The three things that a frame does to an active connection: it aborts it, it is a
heartbeat of its session, or it closes the session. -/
theorem handleActive_cases {plaintext : Bytes} {nowMonotonicMs nowUnixSeconds : UInt64}
    {handled : Handled}
    (call : connection.handleActive fb ssl manager plaintext nowMonotonicMs nowUnixSeconds =
      some handled) :
    (∃ error, handled = connection.abort manager error) ∨
    (∃ request session later, decodeHeartbeat fb plaintext = some (.ok request) ∧
      request.protocolVersion = connection.handshake.selectedVersion ∧
      connection.session = some session ∧ request.sessionId = protocolId session.id ∧
      manager.heartbeat session.id nowMonotonicMs = (later, .ok ()) ∧
      handled = connection.acknowledge fb ssl later session request nowUnixSeconds) ∨
    ∃ close, decodeCloseSession fb plaintext = some (.ok close) ∧
      close.protocolVersion = connection.handshake.selectedVersion ∧
      handled =
        { connection := { (connection.closeSession manager).1 with state := .closed }
          sessions := (connection.closeSession manager).2
          result := { closed := true } } := by
  unfold handleActive at call
  split at call
  · cases call
  · rename_i request isHeartbeat
    cases call
    unfold handleHeartbeat
    split
    · exact .inl ⟨_, rfl⟩
    rename_i version
    split
    · exact .inl ⟨_, rfl⟩
    rename_i session held
    split
    · exact .inl ⟨_, rfl⟩
    rename_i sameSession
    rcases manager.heartbeat_cases session.id nowMonotonicMs with
      ⟨error, refused⟩ | ⟨entry, renewed, present, sameIdentity, recorded⟩
    · rw [refused]
      exact .inl ⟨_, rfl⟩
    · refine .inr (.inl ⟨request, session, _, isHeartbeat, not_not.mp version, held,
        not_not.mp sameSession, recorded, ?_⟩)
      rw [recorded]
  · split at call
    · cases call
    · cases call
      exact .inl ⟨_, rfl⟩
    rename_i close isClose
    split at call
    · rename_i version
      cases call
      exact .inr (.inr ⟨close, isClose, version, rfl⟩)
    · cases call
      exact .inl ⟨_, rfl⟩

/-- A heartbeat that is recorded renews the session. -/
theorem heartbeat_evolves {session : Session} {nowMonotonicMs : UInt64} {later : SessionManager}
    (held : connection.session = some session)
    (recorded : manager.heartbeat session.id nowMonotonicMs = (later, .ok ())) :
    Evolves connection manager connection later := by
  rcases manager.heartbeat_cases session.id nowMonotonicMs with
    ⟨error, refused⟩ | ⟨entry, renewed, present, sameIdentity, renews⟩
  · cases refused.symm.trans recorded
  · cases renews.symm.trans recorded
    refine ⟨rfl, rfl, ?_⟩
    rw [held]
    exact .single (.renew present sameIdentity)

theorem handleActive_effect {plaintext : Bytes} {nowMonotonicMs nowUnixSeconds : UInt64}
    {handled : Handled} (state : connection.state = .active)
    (call : connection.handleActive fb ssl manager plaintext nowMonotonicMs nowUnixSeconds =
      some handled) :
    connection.Effect manager handled := by
  rcases handleActive_cases call with
    ⟨error, rfl⟩ | ⟨request, session, later, -, -, held, -, recorded, rfl⟩ | ⟨close, -, -, rfl⟩
  · exact abort_effect ..
  · exact Effect.after (heartbeat_evolves held recorded) (acknowledge_effect held state)
  · have closes := closeSession_evolves connection manager
    exact effect_of_closed ⟨closes.license, closes.peerIdentity, closes.moves⟩
      (settled_of_closed rfl (closeSession_session ..)) rfl rfl

/-- Every exit of `handle` pairs the state with the session and the shared table. -/
theorem handle_effect {draws : List Core.SessionId} {frame : Bytes}
    {nowMonotonicMs nowUnixSeconds : UInt64} {handled : Handled} (settled : connection.Settled)
    (call : connection.handle fb ssl manager draws frame nowMonotonicMs nowUnixSeconds =
      some handled) :
    connection.Effect manager handled := by
  unfold handle at call
  split at call
  · rename_i state
    cases call
    exact effect_of_closed (.still rfl rfl rfl) settled state rfl
  · rename_i state
    have pending : connection.Pending := by
      rw [Pending, state]
      exact ⟨nofun, nofun⟩
    exact handleHello_effect pending (settled.session_eq_none pending.1) call
  · rename_i state
    have pending : connection.Pending := by
      rw [Pending, state]
      exact ⟨nofun, nofun⟩
    exact handleFinished_effect pending (settled.session_eq_none pending.1) call
  · rename_i notClosed notHello notFinished
    split at call
    · cases call
      apply Effect.of_handshake
      exact abort_effect ..
    split at call
    · rename_i state
      have pending : connection.Pending := by
        rw [Pending, state]
        exact ⟨nofun, nofun⟩
      apply Effect.of_handshake
      refine handleAuthorize_effect ?_ ?_ call
      · exact pending
      · exact settled.session_eq_none pending.1
    · rename_i notAuthorize
      apply Effect.of_handshake
      refine handleActive_effect ?_ call
      cases state : connection.state <;> simp_all

end

end Connection

end YoAuthorize.Service
