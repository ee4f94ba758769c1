import YoAuthorize.Service.ConnectionLanguage
import YoAuthorize.Service.AuthorizationDecision

/-!
# The results that a connection reports

`Connection::handle` returns an error and a `closed` flag.  Most exits set both
next to the change they report.  `handleAuthorize` is different: it assigns its
own error after `encryptedResponse` returned, and for a granted request that
error is `None`.  A seal that fails there closes the connection and the new
session, and the call still reports no error.  Every other call reports
faithfully.
-/

namespace YoAuthorize.Service

open Octets Crypto FlatBuffer Protocol Protocol.Schema YoAuthorize.Core

/-! ## Reports -/

/-- The call brought the protocol forward, or processed a `CloseSession`. -/
inductive Advances (fb : Binding Envelope) (connection : Connection) (call : HandleCall)
    (frame : Bytes) (handled : Handled) : Prop
  | serverHello {next : ServerHandshake} {payload encoded : Bytes}
      (before : connection.state = .awaitingHello)
      (answered : connection.handshake.handleClientHello fb call.ssl payload =
        some (next, .ok encoded))
      (sent : handled.result.response = some (wrapPlaintext encoded))
      (after : handled.connection.state = .awaitingFinished)
  | clientFinished {next : ServerHandshake} (before : connection.state = .awaitingFinished)
      (accepted : connection.handshake.handleClientFinished fb call.ssl frame =
        some (next, .ok ()))
      (after : handled.connection.state = .awaitingAuthorize)
  | authResult {message : AuthResultMessage} {session : Session} {encoded response : Bytes}
      (before : connection.state = .awaitingAuthorize)
      (granted : message.error = .none) (encodes : encodeAuthResult fb message = .ok encoded)
      (seals : ((connection.sender call.ssl frame).seal call.ssl encoded).2 = .ok response)
      (sent : handled.result.response = some response)
      (held : handled.connection.session = some session)
      (live : handled.sessions.sessions.lookup session.id = some session)
      (after : handled.connection.state = .active)
  | heartbeatAck {message : HeartbeatAckMessage} {encoded response : Bytes}
      (before : connection.state = .active)
      (valid : message.state = .valid) (encodes : encodeHeartbeatAck fb message = .ok encoded)
      (seals : ((connection.sender call.ssl frame).seal call.ssl encoded).2 = .ok response)
      (sent : handled.result.response = some response)
      (after : handled.connection.state = .active)
  | closeSession {plaintext : Bytes} {message : CloseSessionMessage}
      (before : connection.state = .active)
      (opens : (connection.handshake.open call.ssl frame).2 = .ok plaintext)
      (decodes : decodeCloseSession fb plaintext = some (.ok message))
      (version : message.protocolVersion = connection.handshake.selectedVersion)

/-- The flag reports the move to `Closed`, and no error is reported only for a
call that advanced. -/
structure Faithful (fb : Binding Envelope) (connection : Connection) (call : HandleCall)
    (frame : Bytes) (handled : Handled) : Prop where
  closed : handled.result.closed = true ↔
    connection.state ≠ .closed ∧ handled.connection.state = .closed
  error : handled.result.error = none → Advances fb connection call frame handled

/-- The call that goes wrong: a request is granted, and its answer encodes but
cannot be sealed. -/
structure GrantUnsealed (fb : Binding Envelope) (connection : Connection) (call : HandleCall)
    (frame : Bytes) : Prop where
  state : connection.state = .awaitingAuthorize
  failure : ∃ plaintext request sessions session encoded error,
    let opened := { connection with handshake := (connection.handshake.open call.ssl frame).1 }
    (connection.handshake.open call.ssl frame).2 = .ok plaintext ∧
    decodeAuthorize fb plaintext = some (.ok request) ∧
    request.protocolVersion = connection.handshake.selectedVersion ∧
    request.productId = connection.license.productId ∧
    licenseExpired connection.license call.nowUnixSeconds = false ∧
    call.sessions.create call.draws connection.license.productId connection.peerIdentity
      connection.license.features connection.license.expireTime call.nowMonotonicMs
      connection.license.maxSessions = (sessions, .ok session) ∧
    encodeAuthResult fb (grantedResult opened request session) = .ok encoded ∧
    (opened.handshake.seal call.ssl encoded).2 = .error error

section

variable {fb : Binding Envelope} {connection : Connection} {call : HandleCall} {frame : Bytes}
  {handled : Handled}

/-- An exit that closed the connection and says why. -/
structure Handled.Refused (handled : Handled) : Prop where
  state : handled.connection.state = .closed
  closed : handled.result.closed = true
  error : handled.result.error ≠ none

theorem faithful_of_refused (before : connection.state ≠ .closed) (refused : handled.Refused) :
    Faithful fb connection call frame handled where
  closed := ⟨fun _ => ⟨before, refused.state⟩, fun _ => refused.closed⟩
  error none := absurd none refused.error

theorem faithful_of_advances (before : handled.result.closed = false)
    (after : handled.connection.state ≠ .closed)
    (advances : Advances fb connection call frame handled) :
    Faithful fb connection call frame handled where
  closed := by
    rw [before]
    exact ⟨nofun, fun moved => absurd moved.2 after⟩
  error _ := advances

theorem refused_reject (connection : Connection) (sessions : SessionManager)
    (error : ConnectionError) : (connection.reject sessions error).Refused :=
  ⟨rfl, rfl, nofun⟩

theorem refused_abort (connection : Connection) (sessions : SessionManager)
    (error : ConnectionError) : (connection.abort sessions error).Refused :=
  ⟨connection.abort_state sessions error, rfl, nofun⟩

/-- A response is sent and changes the state as it says, or the call is an abort. -/
theorem encryptedResponse_outcome (ssl : OpenSsl) (sender : Connection)
    (sessions : SessionManager) (encoded : Bytes) (closeAfter : Bool) :
    (∃ response, (sender.handshake.seal ssl encoded).2 = .ok response ∧
      sender.encryptedResponse ssl sessions encoded closeAfter =
        { connection :=
            { sender with
              handshake := (sender.handshake.seal ssl encoded).1
              state := if closeAfter then .closed else sender.state }
          sessions
          result := { response := some response, closed := closeAfter } }) ∨
    ∃ error, (sender.handshake.seal ssl encoded).2 = .error error ∧
      (sender.encryptedResponse ssl sessions encoded closeAfter).Refused := by
  cases seals : (sender.handshake.seal ssl encoded).2 with
  | ok response =>
      exact .inl ⟨response, rfl, encryptedResponse_of_seal sender seals sessions closeAfter⟩
  | error error =>
      refine .inr ⟨error, rfl, ?_⟩
      have same : sender.handshake.seal ssl encoded =
          ((sender.handshake.seal ssl encoded).1, .error error) := Prod.ext rfl seals
      unfold Connection.encryptedResponse
      rw [same]
      exact refused_abort ..

/-! ## The calls before a request -/

theorem faithful_of_closed (state : connection.state = .closed)
    (handles : connection.handleAt fb call frame = some handled) :
    Faithful fb connection call frame handled := by
  unfold Connection.handleAt Connection.handle at handles
  rw [state] at handles
  cases handles
  exact ⟨⟨nofun, fun moved => absurd state moved.1⟩, nofun⟩

theorem faithful_of_hello (state : connection.state = .awaitingHello)
    (handles : connection.handleAt fb call frame = some handled) :
    Faithful fb connection call frame handled := by
  have before : connection.state ≠ .closed := by
    rw [state]
    nofun
  unfold Connection.handleAt Connection.handle at handles
  rw [state] at handles
  change connection.handleHello fb call.ssl call.sessions frame = some handled at handles
  unfold Connection.handleHello at handles
  split at handles
  · cases handles
    exact faithful_of_refused before (refused_reject ..)
  split at handles
  · cases handles
    exact faithful_of_refused before (refused_reject ..)
  split at handles
  · cases handles
  · cases handles
    exact faithful_of_refused before (refused_reject ..)
  · rename_i next encoded answered
    cases handles
    exact faithful_of_advances rfl nofun (.serverHello state answered rfl rfl)

theorem faithful_of_finished (state : connection.state = .awaitingFinished)
    (handles : connection.handleAt fb call frame = some handled) :
    Faithful fb connection call frame handled := by
  have before : connection.state ≠ .closed := by
    rw [state]
    nofun
  unfold Connection.handleAt Connection.handle at handles
  rw [state] at handles
  change connection.handleFinished fb call.ssl call.sessions frame = some handled at handles
  unfold Connection.handleFinished at handles
  split at handles
  · cases handles
  · cases handles
    exact faithful_of_refused before (refused_reject ..)
  · rename_i next accepted
    cases handles
    exact faithful_of_advances rfl nofun (.clientFinished state accepted rfl)

/-! ## Heartbeats and the end of a session -/

theorem faithful_of_acknowledge {opened : Connection} {sessions : SessionManager}
    {session : Session} {request : HeartbeatMessage} (state : connection.state = .active)
    (active : opened.state = .active)
    (sender : opened.handshake = connection.sender call.ssl frame)
    (handles : handled = opened.acknowledge fb call.ssl sessions session request
      call.nowUnixSeconds) : Faithful fb connection call frame handled := by
  have before : connection.state ≠ .closed := by
    rw [state]
    nofun
  unfold Connection.acknowledge at handles
  dsimp only at handles
  split at handles
  · rw [handles]
    exact faithful_of_refused before (refused_abort ..)
  rename_i encoded encodes
  cases expired : licenseExpired opened.license call.nowUnixSeconds with
  | true =>
      rw [expired, if_pos rfl] at handles
      rw [handles]
      -- `LicenseExpired` replaces whatever `encryptedResponse` returned, and is an error too.
      rcases encryptedResponse_outcome call.ssl (opened.closeSession sessions).1
        (opened.closeSession sessions).2 encoded true with ⟨response, -, same⟩ | ⟨_, -, refused⟩
      · rw [same]
        exact faithful_of_refused before ⟨rfl, rfl, nofun⟩
      · exact faithful_of_refused before ⟨refused.state, refused.closed, nofun⟩
  | false =>
      rw [expired] at encodes handles
      rw [handles]
      rcases encryptedResponse_outcome call.ssl opened sessions encoded false with
        ⟨response, seals, same⟩ | ⟨_, -, refused⟩
      · rw [if_neg Bool.false_ne_true, same]
        rw [sender] at seals
        refine faithful_of_advances rfl ?_ (.heartbeatAck state rfl encodes seals rfl active)
        rw [if_neg Bool.false_ne_true, active]
        nofun
      · rw [if_neg Bool.false_ne_true]
        exact faithful_of_refused before refused

theorem faithful_of_active (state : connection.state = .active)
    (handles : connection.handleAt fb call frame = some handled) :
    Faithful fb connection call frame handled := by
  have before : connection.state ≠ .closed := by
    rw [state]
    nofun
  unfold Connection.handleAt Connection.handle at handles
  rw [state] at handles
  dsimp only at handles
  split at handles
  · cases handles
    exact faithful_of_refused before (refused_abort ..)
  rename_i handshake plaintext opens
  rw [if_neg (by decide)] at handles
  have version : handshake.selectedVersion = connection.handshake.selectedVersion :=
    congrArg (fun opened => opened.1.selectedVersion) opens.symm
  rcases Connection.handleActive_cases handles with
    ⟨error, rfl⟩ | ⟨request, session, later, -, -, -, -, -, acknowledged⟩ |
      ⟨close, decodes, same, rfl⟩
  · exact faithful_of_refused before (refused_abort ..)
  · exact faithful_of_acknowledge state rfl (congrArg Prod.fst opens).symm acknowledged
  · refine ⟨⟨fun _ => ⟨before, rfl⟩, fun _ => rfl⟩, fun _ => ?_⟩
    exact .closeSession state (congrArg Prod.snd opens) decodes (same.trans version)

/-! ## Requests -/

/-- A denial keeps its error, whether it is sent or not. -/
theorem faithful_of_denial {decision : Connection.Decision}
    (state : connection.state = .awaitingAuthorize) (denied : decision.error.isSome = true)
    (handles : handled = Connection.answer fb call.ssl decision) :
    Faithful fb connection call frame handled := by
  have before : connection.state ≠ .closed := by
    rw [state]
    nofun
  have error : decision.error ≠ none := Option.isSome_iff_ne_none.mp denied
  unfold Connection.answer at handles
  split at handles
  · have refused := refused_abort decision.connection decision.sessions .invalidMessage
    rw [handles]
    exact faithful_of_refused before ⟨refused.state, refused.closed, refused.error⟩
  · rename_i encoded _
    rw [denied] at handles
    rw [handles]
    rcases encryptedResponse_outcome call.ssl decision.connection decision.sessions encoded true
      with ⟨response, -, same⟩ | ⟨_, -, refused⟩
    · rw [same]
      exact faithful_of_refused before ⟨rfl, rfl, error⟩
    · exact faithful_of_refused before ⟨refused.state, refused.closed, error⟩

/-- A call on a connection that waits for a request, past its frame. -/
theorem handles_authorize (state : connection.state = .awaitingAuthorize) {plaintext : Bytes}
    (opens : (connection.handshake.open call.ssl frame).2 = .ok plaintext) :
    connection.handleAt fb call frame =
      Connection.handleAuthorize fb call.ssl
        { connection with handshake := (connection.handshake.open call.ssl frame).1 }
        call.sessions call.draws plaintext call.nowMonotonicMs call.nowUnixSeconds := by
  have opened : connection.handshake.open call.ssl frame =
      ((connection.handshake.open call.ssl frame).1, .ok plaintext) := Prod.ext rfl opens
  unfold Connection.handleAt Connection.handle
  rw [state]
  dsimp only
  rw [opened]
  exact if_pos rfl

/-- A grant whose answer cannot be sealed: the session is gone, and the error of
`encryptedResponse` is overwritten. -/
theorem lost_grant {decision : Connection.Decision} {encoded : Bytes} {error : RecordError}
    (granted : decision.error = none)
    (encodes : encodeAuthResult fb decision.response = .ok encoded)
    (seals : (decision.connection.handshake.seal call.ssl encoded).2 = .error error)
    (handles : handled = Connection.answer fb call.ssl decision) :
    handled.result.error = none ∧ handled.connection.state = .closed ∧
      handled.connection.session = none := by
  have failed : decision.connection.handshake.seal call.ssl encoded =
      ((decision.connection.handshake.seal call.ssl encoded).1, .error error) := Prod.ext rfl seals
  rw [handles, answer_of_encode encodes]
  unfold Connection.encryptedResponse
  rw [failed]
  exact ⟨granted, Connection.abort_state _ _ .invalidFrame, Connection.closeSession_session ..⟩

/-- The live session of a grant, and no report of a seal that failed. -/
theorem faithful_grant_iff {request : AuthorizeMessage} {sessions : SessionManager}
    {session : Session} {opened : Connection} {encoded : Bytes}
    (state : connection.state = .awaitingAuthorize)
    (sender : opened.handshake = connection.sender call.ssl frame)
    (live : sessions.sessions.lookup session.id = some session)
    (encodes : encodeAuthResult fb (grantedResult opened request session) = .ok encoded)
    (handles : handled = Connection.answer fb call.ssl
      { connection := { opened with session := some session, state := .active }
        sessions
        response := grantedResult opened request session
        error := none
        created := some session }) :
    Faithful fb connection call frame handled ↔
      ∃ response, (opened.handshake.seal call.ssl encoded).2 = .ok response := by
  rcases encryptedResponse_outcome call.ssl
    { opened with session := some session, state := .active } sessions encoded false with
    ⟨response, seals, same⟩ | ⟨error, seals, -⟩
  · refine ⟨fun _ => ⟨response, seals⟩, fun _ => ?_⟩
    have answers := handles.trans (answer_of_encode encodes)
    rw [Option.isSome_none, same] at answers
    rw [answers]
    rw [sender] at seals
    exact faithful_of_advances rfl nofun (.authResult state rfl encodes seals rfl rfl live rfl)
  · constructor
    · intro faithful
      obtain ⟨silent, closed, -⟩ := lost_grant rfl encodes seals handles
      -- No way to advance from here ends in `Closed`.
      cases faithful.error silent with
      | serverHello before => cases state.symm.trans before
      | clientFinished before => cases state.symm.trans before
      | authResult _ _ _ _ _ _ _ after => cases closed.symm.trans after
      | heartbeatAck before => cases state.symm.trans before
      | closeSession before => cases state.symm.trans before
    · rintro ⟨response, sealed⟩
      cases seals.symm.trans sealed

/-- What is left of `GrantUnsealed` once the request is known. -/
theorem grantUnsealed_iff {plaintext : Bytes} {request : AuthorizeMessage}
    (state : connection.state = .awaitingAuthorize)
    (opens : (connection.handshake.open call.ssl frame).2 = .ok plaintext)
    (decodes : decodeAuthorize fb plaintext = some (.ok request))
    (version : request.protocolVersion = connection.handshake.selectedVersion) :
    let opened := { connection with handshake := (connection.handshake.open call.ssl frame).1 }
    GrantUnsealed fb connection call frame ↔
      request.productId = opened.license.productId ∧
      licenseExpired opened.license call.nowUnixSeconds = false ∧
      ∃ sessions session encoded error,
        call.sessions.create call.draws opened.license.productId opened.peerIdentity
          opened.license.features opened.license.expireTime call.nowMonotonicMs
          opened.license.maxSessions = (sessions, .ok session) ∧
        encodeAuthResult fb (grantedResult opened request session) = .ok encoded ∧
        (opened.handshake.seal call.ssl encoded).2 = .error error := by
  intro opened
  constructor
  · rintro ⟨-, _, _, sessions, session, encoded, error, same, otherDecodes, -, product, unexpired,
      granted, encodes, seals⟩
    cases opens.symm.trans same
    cases decodes.symm.trans otherDecodes
    exact ⟨product, unexpired, sessions, session, encoded, error, granted, encodes, seals⟩
  · rintro ⟨product, unexpired, sessions, session, encoded, error, granted, encodes, seals⟩
    exact ⟨state, plaintext, request, sessions, session, encoded, error, opens, decodes, version,
      product, unexpired, granted, encodes, seals⟩

/-- The answer to a request is faithful unless it is a grant that cannot be sealed. -/
theorem faithful_answer_iff {request : AuthorizeMessage} (opened : Connection)
    (state : connection.state = .awaitingAuthorize)
    (sender : opened.handshake = connection.sender call.ssl frame)
    (handles : handled = Connection.answer fb call.ssl (opened.authorize call.sessions call.draws
      request call.nowMonotonicMs call.nowUnixSeconds)) :
    Faithful fb connection call frame handled ↔
      ¬ (request.productId = opened.license.productId ∧
        licenseExpired opened.license call.nowUnixSeconds = false ∧
        ∃ sessions session encoded error,
          call.sessions.create call.draws opened.license.productId opened.peerIdentity
            opened.license.features opened.license.expireTime call.nowMonotonicMs
            opened.license.maxSessions = (sessions, .ok session) ∧
          encodeAuthResult fb (grantedResult opened request session) = .ok encoded ∧
          (opened.handshake.seal call.ssl encoded).2 = .error error) := by
  have before : connection.state ≠ .closed := by
    rw [state]
    nofun
  by_cases product : request.productId = opened.license.productId
  swap
  · rw [authorize_of_mismatch product] at handles
    exact ⟨fun _ granted => product granted.1, fun _ => faithful_of_denial state rfl handles⟩
  cases expired : licenseExpired opened.license call.nowUnixSeconds with
  | true =>
      rw [authorize_of_expired product expired] at handles
      exact ⟨fun _ granted => absurd granted.2.1 nofun,
        fun _ => faithful_of_denial state rfl handles⟩
  | false =>
      rcases created : call.sessions.create call.draws opened.license.productId
        opened.peerIdentity opened.license.features opened.license.expireTime
        call.nowMonotonicMs opened.license.maxSessions with ⟨sessions, error | session⟩
      · rw [authorize_of_create_error product expired created] at handles
        refine ⟨fun _ => ?_, fun _ => faithful_of_denial state rfl handles⟩
        rintro ⟨-, -, _, _, _, _, granted, -⟩
        cases granted
      · obtain ⟨id, -, -, made, added⟩ := SessionManager.create_eq_ok created
        have live : sessions.sessions.lookup session.id = some session := by
          rw [added, made]
          exact AList.lookup_insert _
        rw [authorize_of_create_ok product expired created] at handles
        cases encodes : encodeAuthResult fb (grantedResult opened request session) with
        | error error =>
            have refused := refused_abort
              { opened with session := some session, state := .active } sessions .invalidMessage
            have aborted : handled.Refused := by
              rw [handles]
              unfold Connection.answer
              dsimp only
              rw [encodes]
              exact ⟨refused.state, refused.closed, refused.error⟩
            refine ⟨fun _ => ?_, fun _ => faithful_of_refused before aborted⟩
            rintro ⟨-, -, _, _, _, _, granted, encoded, -⟩
            cases granted
            cases encodes.symm.trans encoded
        | ok encoded =>
            rw [faithful_grant_iff state sender live encodes handles]
            constructor
            · rintro ⟨response, seals⟩ ⟨-, -, _, _, _, _, granted, encoded, fails⟩
              cases granted
              cases encodes.symm.trans encoded
              cases seals.symm.trans fails
            · intro unaffected
              cases seals : (opened.handshake.seal call.ssl encoded).2 with
              | ok response => exact ⟨response, rfl⟩
              | error error =>
                  exact absurd ⟨product, rfl, sessions, session, encoded, error, rfl, encodes,
                    seals⟩ unaffected

theorem faithful_authorize_iff (state : connection.state = .awaitingAuthorize)
    (handles : connection.handleAt fb call frame = some handled) :
    Faithful fb connection call frame handled ↔ ¬ GrantUnsealed fb connection call frame := by
  have before : connection.state ≠ .closed := by
    rw [state]
    nofun
  cases opens : (connection.handshake.open call.ssl frame).2 with
  | error error =>
      have refused : connection.handshake.open call.ssl frame =
          ((connection.handshake.open call.ssl frame).1, .error error) := Prod.ext rfl opens
      rw [handleAt_of_open_error (.inl state) refused] at handles
      cases handles
      refine ⟨fun _ => ?_, fun _ => faithful_of_refused before (refused_abort ..)⟩
      rintro ⟨-, plaintext, _, _, _, _, _, same, -⟩
      cases opens.symm.trans same
  | ok plaintext =>
      rw [handles_authorize state opens] at handles
      unfold Connection.handleAuthorize at handles
      split at handles
      · cases handles
      · rename_i _ refused
        cases handles
        refine ⟨fun _ => ?_, fun _ => faithful_of_refused before (refused_reject ..)⟩
        rintro ⟨-, _, _, _, _, _, _, same, decodes, -⟩
        cases opens.symm.trans same
        cases refused.symm.trans decodes
      rename_i request decodes
      split at handles
      · rename_i other
        cases handles
        refine ⟨fun _ => ?_, fun _ => faithful_of_refused before (refused_reject ..)⟩
        rintro ⟨-, _, _, _, _, _, _, same, otherDecodes, version, -⟩
        cases opens.symm.trans same
        cases decodes.symm.trans otherDecodes
        exact other version
      · rename_i version
        have unsealed := grantUnsealed_iff state opens decodes (not_not.mp version)
        exact (faithful_answer_iff _ state rfl (Option.some.inj handles).symm).trans
          (not_congr unsealed).symm

/-- A call of `handle` reports faithfully exactly when it is not a granted
request whose answer cannot be sealed. -/
theorem handle_faithful_iff (handles : connection.handleAt fb call frame = some handled) :
    Faithful fb connection call frame handled ↔ ¬ GrantUnsealed fb connection call frame := by
  have other : ∀ state, connection.state = state → state ≠ .awaitingAuthorize →
      ¬ GrantUnsealed fb connection call frame := by
    intro state here different unsealed
    exact different (here.symm.trans unsealed.state)
  cases state : connection.state with
  | awaitingHello => exact ⟨fun _ => other _ state nofun, fun _ => faithful_of_hello state handles⟩
  | awaitingFinished =>
      exact ⟨fun _ => other _ state nofun, fun _ => faithful_of_finished state handles⟩
  | awaitingAuthorize => exact faithful_authorize_iff state handles
  | active => exact ⟨fun _ => other _ state nofun, fun _ => faithful_of_active state handles⟩
  | closed => exact ⟨fun _ => other _ state nofun, fun _ => faithful_of_closed state handles⟩

end

/-! ## Runs -/

/-- A call in the life of a connection, with the state it found. -/
structure Reported : Type where
  before : Connection
  call : HandleCall
  frame : Bytes
  handled : Handled

def Reported.Faithful (fb : Binding Envelope) (reported : Reported) : Prop :=
  Service.Faithful fb reported.before reported.call reported.frame reported.handled

def Reported.GrantUnsealed (fb : Binding Envelope) (reported : Reported) : Prop :=
  Service.GrantUnsealed fb reported.before reported.call reported.frame

/-- The calls of one connection, each with any frame, any clocks, any state of
the shared manager and a library that may fail. -/
inductive Lives (fb : Binding Envelope) (license : LicenseSnapshot) (options : ConnectionOptions) :
    List Reported → Connection → Prop
  | constructed : Lives fb license options [] (.construct license options)
  | called {reports : List Reported} {connection : Connection} {call : HandleCall} {frame : Bytes}
      {handled : Handled} (prior : Lives fb license options reports connection)
      (handles : connection.handleAt fb call frame = some handled) :
      Lives fb license options (reports ++ [⟨connection, call, frame, handled⟩])
        handled.connection

theorem Lives.handles {fb : Binding Envelope} {license : LicenseSnapshot}
    {options : ConnectionOptions} {reports : List Reported} {connection : Connection}
    (lives : Lives fb license options reports connection) :
    ∀ reported ∈ reports,
      reported.before.handleAt fb reported.call reported.frame = some reported.handled := by
  induction lives with
  | constructed =>
      intro reported mem
      cases mem
  | called prior handles ih =>
      intro reported mem
      rcases List.mem_append.mp mem with earlier | last
      · exact ih reported earlier
      · cases List.mem_singleton.mp last
        exact handles

/-- In every run of a connection, the calls that report faithfully are exactly
those that are not a granted request whose answer cannot be sealed. -/
theorem connection_reports_iff {fb : Binding Envelope} {license : LicenseSnapshot}
    {options : ConnectionOptions} {reports : List Reported} {connection : Connection}
    (lives : Lives fb license options reports connection) :
    (∀ reported ∈ reports, reported.Faithful fb ↔ ¬ reported.GrantUnsealed fb) ∧
      ∀ {call frame handled}, connection.handleAt fb call frame = some handled →
        (Faithful fb connection call frame handled ↔
          ¬ GrantUnsealed fb connection call frame) := by
  refine ⟨?_, fun handles => handle_faithful_iff handles⟩
  intro reported mem
  exact handle_faithful_iff (lives.handles reported mem)

/-! ## A grant that is lost -/

theorem Lives.of_runs {fb : Binding Envelope} {license : LicenseSnapshot}
    {options : ConnectionOptions} {trace : List Exchanged} {connection : Connection}
    (runs : Runs fb license options trace connection) :
    ∃ reports, Lives fb license options reports connection := by
  induction runs with
  | nil => exact ⟨[], .constructed⟩
  | snoc _ _ _ _ handles ih =>
      obtain ⟨reports, lives⟩ := ih
      exact ⟨_, .called lives handles⟩

/-- The reference library when its cipher cannot be set up. -/
def unsealingSsl : OpenSsl :=
  { referenceSsl with encryptChaCha20Poly1305 := fun _ _ _ _ => none }

def unsealingCall : HandleCall := { referenceCall with ssl := unsealingSsl }

theorem unsealingSsl_seal (server : ServerHandshake) (plaintext : Bytes) :
    ∃ error, (server.seal unsealingSsl plaintext).2 = .error error := by
  rcases server.seal_cases unsealingSsl plaintext with
    ⟨error, refused⟩ | ⟨writer, frame, -, -, seals, -⟩
  · rw [refused]
    exact ⟨error, rfl⟩
  · rcases writer.seal_cases unsealingSsl plaintext with
      ⟨_, refused⟩ | ⟨encrypted, -, -, -, sealed, -⟩
    · rw [refused] at seals
      cases congrArg Prod.snd seals
    · unfold sealChaCha20Poly1305 at sealed
      split at sealed
      · cases sealed
      · cases sealed

open ServiceWorld in
/-- An honest client is granted its request and the answer cannot be sealed. -/
theorem exists_reference_unsealed :
    ∃ reports connection frame handled,
      Lives referenceEnvelopes referenceLicense referenceOptions reports connection ∧
      connection.handleAt referenceEnvelopes unsealingCall frame = some handled ∧
      GrantUnsealed referenceEnvelopes connection unsealingCall frame := by
  rcases exists_reference_waiting with ⟨trace, handshake, client, keys, runs, paired, selected⟩
  rcases exists_reference_request selected with ⟨plaintext, encodes⟩
  rcases MessageKind.length_of_encode referenceEnvelopes_lawful .authorize encodes with ⟨-, short⟩
  obtain ⟨reports, lives⟩ := Lives.of_runs runs
  let connection : Connection :=
    { Connection.construct referenceLicense referenceOptions with
      handshake
      state := .awaitingAuthorize }
  let frame := sealedFrame referenceSuite (recordKey keys.clientToService) 2 plaintext
  let request := referenceRequest.message client.selectedVersion
  have opens :
      OpensRecord unsealingSsl referenceSuite (recordKey keys.clientToService) 2 plaintext :=
    opensRecord_correct referenceSsl_correct _ _ (Nat.le_trans short (by decide))
  have opened := ServerHandshake.open_honest paired.serverState paired.serverReader
    secondSequence_ne_max (Nat.le_trans short (by decide)) opens
  have decodes : decodeAuthorize referenceEnvelopes plaintext = some (.ok request) :=
    MessageKind.decode_encode referenceEnvelopes_lawful .authorize encodes
  have version : request.protocolVersion = handshake.selectedVersion := paired.version.symm
  let session : Session :=
    { id := .zeros 16, productId := referenceLicense.productId
      peerIdentity := referenceOptions.peerIdentity, features := referenceLicense.features
      expireTime := referenceLicense.expireTime, lastHeartbeatMs := 0 }
  have created : unsealingCall.sessions.create unsealingCall.draws referenceLicense.productId
      referenceOptions.peerIdentity referenceLicense.features referenceLicense.expireTime
      unsealingCall.nowMonotonicMs referenceLicense.maxSessions =
        (⟨unsealingCall.sessions.sessions.insert session.id session⟩, .ok session) := by
    have room : unsealingCall.sessions.active referenceLicense.productId <
        referenceLicense.maxSessions.toNat := Nat.zero_lt_one
    exact SessionManager.create_of_room room referenceLicense_productId
      referenceOptions_peerIdentity rfl _ _ _
  let current : Connection :=
    { connection with handshake := (handshake.open unsealingSsl frame).1 }
  have encodable : ∃ encoded, encodeAuthResult referenceEnvelopes
      (grantedResult current request session) = .ok encoded :=
    encodeAuthResult_granted (by decide : referenceRequest.requestId ≠ 0)
      (version ▸ selected : handshake.selectedVersion ≠ 0) referenceLicense_features
  obtain ⟨encoded, encodesResult⟩ := encodable
  obtain ⟨error, unsealed⟩ := unsealingSsl_seal current.handshake encoded
  have grant : GrantUnsealed referenceEnvelopes connection unsealingCall frame :=
    ⟨rfl, plaintext, request, _, session, encoded, error, congrArg Prod.snd opened, decodes,
      version, rfl, rfl, created, encodesResult, unsealed⟩
  have returns : ∃ handled, connection.handleAt referenceEnvelopes unsealingCall frame =
      some handled := by
    rw [handles_authorize rfl (congrArg Prod.snd opened)]
    unfold Connection.handleAuthorize
    rw [decodes]
    dsimp only
    split
    · exact ⟨_, rfl⟩
    · exact ⟨_, rfl⟩
  obtain ⟨handled, handles⟩ := returns
  exact ⟨reports, connection, frame, handled, lives, handles, grant⟩

theorem GrantUnsealed.reports {fb : Binding Envelope} {connection : Connection} {call : HandleCall}
    {frame : Bytes} {handled : Handled} (unsealed : GrantUnsealed fb connection call frame)
    (handles : connection.handleAt fb call frame = some handled) :
    handled.result.error = none ∧ handled.connection.state = .closed ∧
      handled.connection.session = none := by
  obtain ⟨state, plaintext, request, sessions, session, encoded, error, opens, decodes, version,
    product, unexpired, created, encodes, seals⟩ := unsealed
  let opened := { connection with handshake := (connection.handshake.open call.ssl frame).1 }
  have sameVersion : request.protocolVersion = opened.handshake.selectedVersion := version
  rw [handles_authorize state opens] at handles
  unfold Connection.handleAuthorize at handles
  rw [decodes] at handles
  dsimp only at handles
  rw [if_neg (not_not.mpr sameVersion)] at handles
  have answers : handled = Connection.answer fb call.ssl (opened.authorize call.sessions call.draws
      request call.nowMonotonicMs call.nowUnixSeconds) := (Option.some.inj handles).symm
  have sameProduct : request.productId = opened.license.productId := product
  have grants : opened.authorize call.sessions call.draws request call.nowMonotonicMs
      call.nowUnixSeconds =
        { connection := { opened with session := some session, state := .active }
          sessions
          response := grantedResult opened request session
          error := none
          created := some session } := authorize_of_create_ok sameProduct unexpired created
  rw [grants] at answers
  exact lost_grant rfl encodes seals answers

open ServiceWorld in
/-- A granted request whose answer cannot be sealed reports no error. -/
theorem connection_reports_lost_grant :
    ¬ ∀ (reports : List Reported) (connection : Connection),
      Lives referenceEnvelopes referenceLicense referenceOptions reports connection →
        ∀ (call : HandleCall) (frame : Bytes) (handled : Handled),
          connection.handleAt referenceEnvelopes call frame = some handled →
            (handled.result.closed = true ↔
              connection.state ≠ .closed ∧ handled.connection.state = .closed) ∧
            (handled.result.error = none →
              Advances referenceEnvelopes connection call frame handled) := by
  intro faithful
  obtain ⟨reports, connection, frame, handled, lives, handles, unsealed⟩ :=
    exists_reference_unsealed
  obtain ⟨silent, closed, -⟩ := unsealed.reports handles
  have advances := (faithful reports connection lives unsealingCall frame handled handles).2 silent
  cases advances with
  | serverHello before => cases unsealed.state.symm.trans before
  | clientFinished before => cases unsealed.state.symm.trans before
  | authResult _ _ _ _ _ _ _ after => cases closed.symm.trans after
  | heartbeatAck before => cases unsealed.state.symm.trans before
  | closeSession before => cases unsealed.state.symm.trans before

open ServiceWorld in
/-- The handshake of an honest client, reported faithfully, and its lost grant. -/
theorem connection_reports_iff_honest :
    ∃ reports connection frame handled,
      Lives referenceEnvelopes referenceLicense referenceOptions reports connection ∧
      connection.handleAt referenceEnvelopes unsealingCall frame = some handled ∧
      (∀ reported ∈ reports,
        reported.Faithful referenceEnvelopes ↔ ¬ reported.GrantUnsealed referenceEnvelopes) ∧
      ¬ Faithful referenceEnvelopes connection unsealingCall frame handled := by
  obtain ⟨reports, connection, frame, handled, lives, handles, unsealed⟩ :=
    exists_reference_unsealed
  have reported := connection_reports_iff lives
  refine ⟨reports, connection, frame, handled, lives, handles, reported.1, ?_⟩
  intro faithful
  exact (reported.2 handles).mp faithful unsealed

end YoAuthorize.Service
