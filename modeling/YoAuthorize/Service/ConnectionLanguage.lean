import YoAuthorize.Service.ConnectionStage
import YoAuthorize.Service.SessionAccounting

/-!
# The protocol language of a connection

`Language` is the set of frame sequences that `Accepts` allows: a `ClientHello`,
a `ClientFinished`, one granted `Authorize`, then heartbeats, or a prefix of
that.  A connection that is fed any frames stays open exactly as long as they
are in the language, and closes with the first that is not.

A decoder that meets an accepted envelope without a body does not return.
`Bodied` says of a frame that this does not happen to the message that the
connection reads in it.
-/

namespace YoAuthorize.Service

open Octets Crypto FlatBuffer Protocol Protocol.Schema YoAuthorize.Core

/-- The sequences of frames that a connection accepts, each with the stage at its end. -/
inductive Language (fb : Binding Envelope) (license : LicenseSnapshot)
    (options : ConnectionOptions) : List (HandleCall × Bytes) → Stage → Prop
  | nil : Language fb license options [] .greeting
  | snoc {inputs : List (HandleCall × Bytes)} {stage next : Stage} {call : HandleCall}
      {frame : Bytes} (prior : Language fb license options inputs stage)
      (accepts : Accepts fb license options call frame stage next) :
      Language fb license options (inputs ++ [(call, frame)]) next


/-! ## The language is deterministic -/

section

variable {fb : Binding Envelope} {license : LicenseSnapshot} {options : ConnectionOptions}
  {call : HandleCall} {frame : Bytes}

theorem HoldsRecord.unique {ssl : OpenSsl} {answer : ServerHandshake.Answer} {number : Nat}
    {left right : Bytes} (holdsLeft : HoldsRecord ssl answer number frame left)
    (holdsRight : HoldsRecord ssl answer number frame right) : left = right := by
  rcases holdsLeft with ⟨header, payload, decoded, -, -, -, opened⟩
  rcases holdsRight with ⟨otherHeader, otherPayload, otherDecoded, -, -, -, otherOpened⟩
  cases decoded.symm.trans otherDecoded
  exact Except.ok.inj (opened.symm.trans otherOpened)

theorem Accepts.unique {stage left right : Stage}
    (acceptsLeft : Accepts fb license options call frame stage left)
    (acceptsRight : Accepts fb license options call frame stage right) : left = right := by
  cases acceptsLeft with
  | hello decodes flags sequence isHello common answers =>
      cases acceptsRight with
      | hello otherDecodes _ _ otherIsHello _ otherAnswers =>
          cases decodes.symm.trans otherDecodes
          cases isHello.symm.trans otherIsHello
          exact congrArg Stage.finishing (Except.ok.inj (answers.symm.trans otherAnswers))
  | finished record isFinished =>
      cases acceptsRight with
      | finished otherRecord otherIsFinished => rfl
  | authorize record isAuthorize version product unexpired granted features =>
      cases acceptsRight with
      | authorize otherRecord _ _ _ _ otherGranted _ =>
          cases granted.symm.trans otherGranted
          rfl
  | heartbeat record isHeartbeat version sameSession unexpired =>
      cases acceptsRight with
      | heartbeat otherRecord _ _ _ _ => rfl

theorem Accepts.sound {stage next : Stage}
    (accepts : Accepts fb license options call frame stage next) (sound : stage.Sound) :
    next.Sound := by
  cases accepts with
  | hello => trivial
  | finished => trivial
  | authorize record isAuthorize version product unexpired granted features =>
      rcases SessionManager.create_eq_ok granted with ⟨id, -, -, made, -⟩
      refine ⟨?_, by decide⟩
      rw [made]
      exact features
  | @heartbeat answer session heartbeats plaintext request record =>
      refine ⟨sound.1, ?_⟩
      rcases record with ⟨header, payload, -, -, sequence, unexhausted, -⟩
      have below : header.sequence.toNat ≠ uint64Max.toNat := fun same =>
        unexhausted (UInt64.toNat_inj.mp same)
      have last : uint64Max.toNat + 1 = sequenceCount := rfl
      have inRange : header.sequence.toNat < sequenceCount := header.sequence.toNat_lt
      omega

theorem Language.sound {inputs : List (HandleCall × Bytes)} {stage : Stage}
    (accepted : Language fb license options inputs stage) : stage.Sound := by
  induction accepted with
  | nil => trivial
  | snoc prior accepts ih => exact accepts.sound ih

/-- A sequence that ends in a frame of the language. -/
theorem language_snoc_iff {inputs : List (HandleCall × Bytes)} {next : Stage} :
    Language fb license options (inputs ++ [(call, frame)]) next ↔
      ∃ stage, Language fb license options inputs stage ∧
        Accepts fb license options call frame stage next := by
  constructor
  · intro accepted
    generalize same : inputs ++ [(call, frame)] = all at accepted
    cases accepted with
    | nil => simp at same
    | snoc prior accepts =>
        rcases List.append_inj' same rfl with ⟨rfl, last⟩
        cases last
        exact ⟨_, prior, accepts⟩
  · rintro ⟨stage, prior, accepts⟩
    exact .snoc prior accepts

theorem Language.unique {inputs : List (HandleCall × Bytes)} {left right : Stage}
    (acceptedLeft : Language fb license options inputs left)
    (acceptedRight : Language fb license options inputs right) : left = right := by
  induction acceptedLeft generalizing right with
  | nil =>
      generalize same : ([] : List (HandleCall × Bytes)) = none at acceptedRight
      cases acceptedRight with
      | nil => rfl
      | snoc => simp at same
  | snoc prior accepts ih =>
      rcases language_snoc_iff.mp acceptedRight with ⟨stage, otherPrior, otherAccepts⟩
      cases ih otherPrior
      exact accepts.unique otherAccepts

end

/-! ## Calls that return -/

/-- The bytes that a connection decodes first in a frame, and as what. -/
def Connection.received (ssl : OpenSsl) (connection : Connection) (frame : Bytes) :
    Option (MessageKind × Bytes) :=
  match connection.state with
  | .awaitingHello =>
      match decodeFrame frame with
      | .error _ => none
      | .ok (header, payload) =>
          if header.flags ≠ 0 ∨ header.sequence ≠ 0 then none else some (.clientHello, payload)
  | .awaitingFinished =>
      connection.handshake.reader.bind fun reader =>
        (reader.open ssl frame).2.toOption.map fun plaintext => (.clientFinished, plaintext)
  | .awaitingAuthorize =>
      (connection.handshake.open ssl frame).2.toOption.map fun plaintext => (.authorize, plaintext)
  | .active =>
      (connection.handshake.open ssl frame).2.toOption.map fun plaintext => (.heartbeat, plaintext)
  | .closed => none

/-- The message that the connection reads in the frame has its body. -/
def Connection.Bodied (fb : Binding Envelope) (ssl : OpenSsl) (connection : Connection)
    (frame : Bytes) : Prop :=
  ∀ kind bytes, connection.received ssl frame = some (kind, bytes) → kind.bodied fb bytes = true

section

variable {fb : Binding Envelope} {license : LicenseSnapshot} {options : ConnectionOptions}
  {call : HandleCall} {frame : Bytes}

theorem bodied_of_received {connection : Connection} {ssl : OpenSsl} {kind : MessageKind}
    {bytes : Bytes} (received : connection.received ssl frame = some (kind, bytes)) :
    connection.Bodied fb ssl frame ↔ kind.bodied fb bytes = true := by
  constructor
  · intro bodied
    exact bodied kind bytes received
  · intro present other otherBytes same
    cases received.symm.trans same
    exact present

theorem bodied_of_nothing {connection : Connection} {ssl : OpenSsl}
    (received : connection.received ssl frame = none) : connection.Bodied fb ssl frame := by
  intro kind bytes same
  cases received.symm.trans same

theorem returns_greeting_iff :
    (Stage.greeting.connection license options).handleAt fb call frame ≠ none ↔
      (Stage.greeting.connection license options).Bodied fb call.ssl frame := by
  let connection := Stage.greeting.connection license options
  have state : connection.state = .awaitingHello := rfl
  have initial : connection.handshake.state = .initial := rfl
  change connection.handleHello fb call.ssl call.sessions frame ≠ none ↔ _
  unfold Connection.handleHello
  cases decodes : decodeFrame frame with
  | error error =>
      have nothing : connection.received call.ssl frame = none := by
        unfold Connection.received
        rw [state, decodes]
      exact ⟨fun _ => bodied_of_nothing nothing, fun _ => Option.some_ne_none _⟩
  | ok decoded =>
      rcases decoded with ⟨header, payload⟩
      dsimp only
      split
      · rename_i other
        have nothing : connection.received call.ssl frame = none := by
          unfold Connection.received
          rw [state, decodes]
          exact if_pos other
        exact ⟨fun _ => bodied_of_nothing nothing, fun _ => Option.some_ne_none _⟩
      · rename_i plain
        have received : connection.received call.ssl frame = some (.clientHello, payload) := by
          unfold Connection.received
          rw [state, decodes]
          exact if_neg plain
        rw [bodied_of_received received, ← MessageKind.decode_ne_none_iff (by decide)]
        change _ ↔ decodeClientHello fb payload ≠ none
        unfold ServerHandshake.handleClientHello ServerHandshake.answerClientHello
        rw [if_neg (not_not.mpr initial)]
        cases decodeClientHello fb payload with
        | none => exact ⟨fun returns => absurd rfl returns, fun returns => absurd rfl returns⟩
        | some result =>
            refine ⟨fun _ => Option.some_ne_none _, fun _ => ?_⟩
            cases result with
            | error => exact Option.some_ne_none _
            | ok client =>
                dsimp only
                cases connection.handshake.chooseServerHello fb call.ssl client with
                | error => exact Option.some_ne_none _
                | ok answer => exact Option.some_ne_none _

theorem returns_finishing_iff {answer : ServerHandshake.Answer} :
    ((Stage.finishing answer).connection license options).handleAt fb call frame ≠ none ↔
      ((Stage.finishing answer).connection license options).Bodied fb call.ssl frame := by
  let connection := (Stage.finishing answer).connection license options
  have state : connection.state = .awaitingFinished := rfl
  have awaiting : connection.handshake.state = .awaitingFinished := rfl
  have reader : connection.handshake.reader = some (readerAt answer 1) := rfl
  change connection.handleFinished fb call.ssl call.sessions frame ≠ none ↔ _
  unfold Connection.handleFinished ServerHandshake.handleClientFinished
  rw [awaiting, reader]
  dsimp only
  have received : connection.received call.ssl frame =
      ((readerAt answer 1).open call.ssl frame).2.toOption.map
        fun plaintext => (.clientFinished, plaintext) := by
    unfold Connection.received
    rw [state, reader]
    rfl
  rcases opens : (readerAt answer 1).open call.ssl frame with ⟨next, error | plaintext⟩
  · rw [opens] at received
    exact ⟨fun _ => bodied_of_nothing received, fun _ => Option.some_ne_none _⟩
  · rw [opens] at received
    rw [bodied_of_received received, ← MessageKind.decode_ne_none_iff (by decide)]
    change _ ↔ decodeClientFinished fb plaintext ≠ none
    dsimp only
    cases decodeClientFinished fb plaintext with
    | none => exact ⟨fun returns => absurd rfl returns, fun returns => absurd rfl returns⟩
    | some result =>
        refine ⟨fun _ => Option.some_ne_none _, fun _ => ?_⟩
        cases result with
        | error => exact Option.some_ne_none _
        | ok finished =>
            dsimp only
            split
            · rename_i crashed
              split at crashed <;> cases crashed
            · exact Option.some_ne_none _
            · exact Option.some_ne_none _

/-- A record that does not open is refused, whatever the connection waits for. -/
theorem returns_of_open_error {connection : Connection} {handshake : ServerHandshake}
    {error : RecordError}
    (state : connection.state = .awaitingAuthorize ∨ connection.state = .active)
    (refused : connection.handshake.open call.ssl frame = (handshake, .error error)) :
    connection.handleAt fb call frame ≠ none ↔ connection.Bodied fb call.ssl frame := by
  have nothing : connection.received call.ssl frame = none := by
    unfold Connection.received
    rcases state with state | state
    all_goals
      rw [state]
      dsimp only
      rw [refused]
      rfl
  rw [handleAt_of_open_error state refused]
  exact ⟨fun _ => bodied_of_nothing nothing, fun _ => Option.some_ne_none _⟩

theorem received_establishedWith {connection : Connection} {answer : ServerHandshake.Answer}
    {reads writes : Nat} {plaintext : Bytes}
    (handshake : connection.handshake = establishedWith options.handshake answer reads writes)
    (bound : reads < sequenceCount) (record : HoldsRecord call.ssl answer reads frame plaintext) :
    (connection.handshake.open call.ssl frame).2 = .ok plaintext := by
  rw [handshake, open_establishedWith, open_of_holdsRecord bound record]

theorem returns_authorizing_iff {answer : ServerHandshake.Answer} :
    ((Stage.authorizing answer).connection license options).handleAt fb call frame ≠ none ↔
      ((Stage.authorizing answer).connection license options).Bodied fb call.ssl frame := by
  have bound : 2 < sequenceCount := by decide
  rcases open_establishedWith_cases frame bound with ⟨error, refused⟩ | ⟨plaintext, record⟩
  · exact returns_of_open_error (.inl rfl) refused
  have received : ((Stage.authorizing answer).connection license options).received call.ssl frame =
      some (.authorize, plaintext) := by
    change ((Stage.authorizing answer).connection license
      options |>.handshake.open call.ssl frame).2.toOption.map _ = _
    rw [received_establishedWith rfl bound record]
    rfl
  rw [handleAt_authorizing record, bodied_of_received received,
    ← MessageKind.decode_ne_none_iff (by decide)]
  change _ ↔ decodeAuthorize fb plaintext ≠ none
  unfold Connection.handleAuthorize
  cases decodeAuthorize fb plaintext with
  | none => exact ⟨fun returns => absurd rfl returns, fun returns => absurd rfl returns⟩
  | some result =>
      refine ⟨fun _ => Option.some_ne_none _, fun _ => ?_⟩
      cases result with
      | error => exact Option.some_ne_none _
      | ok request =>
          dsimp only
          split <;> exact Option.some_ne_none _

theorem decodeCloseSession_ne_none (bytes : Bytes) : decodeCloseSession fb bytes ≠ none := by
  unfold decodeCloseSession decodeBody
  split
  · exact Option.some_ne_none _
  · split <;> exact Option.some_ne_none _

theorem returns_active_iff {answer : ServerHandshake.Answer} {session : Session} {heartbeats : Nat}
    (bound : heartbeats + 3 < sequenceCount) :
    ((Stage.active answer session heartbeats).connection license options).handleAt fb call frame ≠
        none ↔
      ((Stage.active answer session heartbeats).connection license options).Bodied fb call.ssl
        frame := by
  rcases open_establishedWith_cases frame bound with ⟨error, refused⟩ | ⟨plaintext, record⟩
  · exact returns_of_open_error (.inr rfl) refused
  have received : ((Stage.active answer session heartbeats).connection license options).received
      call.ssl frame = some (.heartbeat, plaintext) := by
    change ((Stage.active answer session heartbeats).connection license
      options |>.handshake.open call.ssl frame).2.toOption.map _ = _
    rw [received_establishedWith rfl bound record]
    rfl
  rw [handleAt_active bound record, bodied_of_received received,
    ← MessageKind.decode_ne_none_iff (by decide)]
  change _ ↔ decodeHeartbeat fb plaintext ≠ none
  unfold Connection.handleActive
  cases decodeHeartbeat fb plaintext with
  | none => exact ⟨fun returns => absurd rfl returns, fun returns => absurd rfl returns⟩
  | some result =>
      refine ⟨fun _ => Option.some_ne_none _, fun _ => ?_⟩
      cases result with
      | ok request => exact Option.some_ne_none _
      | error =>
          dsimp only
          split
          · rename_i crashed
            exact absurd crashed (decodeCloseSession_ne_none plaintext)
          · exact Option.some_ne_none _
          · split <;> exact Option.some_ne_none _

/-- A call returns exactly when the message it reads has its body. -/
theorem returns_iff {stage : Stage} (sound : stage.Sound) :
    (stage.connection license options).handleAt fb call frame ≠ none ↔
      (stage.connection license options).Bodied fb call.ssl frame := by
  cases stage with
  | greeting => exact returns_greeting_iff
  | finishing answer => exact returns_finishing_iff
  | authorizing answer => exact returns_authorizing_iff
  | active answer session heartbeats => exact returns_active_iff sound.2

end

/-! ## Runs -/

/-- A call of a run and what it returned. -/
structure Exchanged : Type where
  call : HandleCall
  frame : Bytes
  handled : Handled

def inputs (trace : List Exchanged) : List (HandleCall × Bytes) :=
  trace.map fun exchanged => (exchanged.call, exchanged.frame)

/-- The connection after the calls of a run. -/
def reached (license : LicenseSnapshot) (options : ConnectionOptions) (trace : List Exchanged) :
    Connection :=
  match trace.getLast? with
  | none => .construct license options
  | some exchanged => exchanged.handled.connection

theorem inputs_snoc (trace : List Exchanged) (exchanged : Exchanged) :
    inputs (trace ++ [exchanged]) = inputs trace ++ [(exchanged.call, exchanged.frame)] :=
  List.map_append

/-- The calls of one connection.  Others may change the manager between them,
but leave the session that the connection holds. -/
inductive Runs (fb : Binding Envelope) (license : LicenseSnapshot) (options : ConnectionOptions) :
    List Exchanged → Connection → Prop
  | nil : Runs fb license options [] (.construct license options)
  | snoc {trace : List Exchanged} {connection : Connection} {call : HandleCall} {frame : Bytes}
      {handled : Handled} (prior : Runs fb license options trace connection)
      (unfailing : call.ssl.Unfailing)
      (held : ∀ session, connection.session = some session → session.id ∈ call.sessions.sessions)
      (bodied : connection.Bodied fb call.ssl frame)
      (handles : connection.handleAt fb call frame = some handled) :
      Runs fb license options (trace ++ [⟨call, frame, handled⟩]) handled.connection

/-- How the frames of a run, its states and its answers belong together. -/
structure Conforms (fb : Binding Envelope) (license : LicenseSnapshot) (options : ConnectionOptions)
    (trace : List Exchanged) (connection : Connection) : Prop where
  /-- Every `ClientHello` of version 1 whose key is not of low order begins a
  sequence of the language. -/
  greets : ∀ (call : HandleCall) {frame payload : Bytes} {header : FrameHeader}
    {client : ClientHelloMessage}, call.ssl.Unfailing →
    decodeFrame frame = .ok (header, payload) → header.flags = 0 → header.sequence = 0 →
    decodeClientHello fb payload = some (.ok client) →
    call.ssl.Agrees client.publicKey → client.minVersion ≤ 1 ∧ 1 ≤ client.maxVersion →
    ∃ stage, Language fb license options [(call, frame)] stage
  /-- Exactly the frames with a body are handled. -/
  returns : ∀ call frame, connection.handleAt fb call frame ≠ none ↔
    connection.Bodied fb call.ssl frame
  /-- The connection is open exactly on the sequences of the language. -/
  accepted : connection.state ≠ .closed ↔
    ∃ stage, Language fb license options (inputs trace) stage
  /-- Every other frame closes it and is granted nothing. -/
  refused : ∀ before exchanged, before ++ [exchanged] <+: trace →
    (¬ ∃ stage, Language fb license options (inputs (before ++ [exchanged])) stage) →
    exchanged.handled.connection.state = .closed ∧
      ∀ response, exchanged.handled.result.response = some response →
        ∃ encoded, IsDenial fb encoded ∧
          (((reached license options before).sender exchanged.call.ssl exchanged.frame).seal
            exchanged.call.ssl encoded).2 = .ok response
  /-- A closed connection stays closed and does nothing. -/
  absorbing : ∀ before exchanged, before ++ [exchanged] <+: trace →
    (¬ ∃ stage, Language fb license options (inputs before) stage) →
    exchanged.handled.result = { error := some .closed } ∧
      exchanged.handled.sessions = exchanged.call.sessions ∧
      exchanged.handled.connection.state = .closed
  /-- There is no session before a `ClientFinished` was verified. -/
  verified : ∀ before exchanged, before ++ [exchanged] <+: trace →
    exchanged.handled.sessions ≠ exchanged.call.sessions ∨
      exchanged.handled.connection.session ≠ none →
    ∃ answer earlier, earlier <+: inputs before ∧
      Language fb license options earlier (.authorizing answer)

section

variable {fb : Binding Envelope} {license : LicenseSnapshot} {options : ConnectionOptions}
  {call : HandleCall} {frame : Bytes} {trace : List Exchanged} {connection : Connection}
  {handled : Handled}

/-- The connection after a run is the one of its stage, or it is closed. -/
def Tracks (fb : Binding Envelope) (license : LicenseSnapshot) (options : ConnectionOptions)
    (trace : List Exchanged) (connection : Connection) : Prop :=
  (∃ stage, Language fb license options (inputs trace) stage ∧
      connection = stage.connection license options) ∨
    (¬ ∃ stage, Language fb license options (inputs trace) stage) ∧ connection.state = .closed

theorem handleAt_closed (closed : connection.state = .closed) :
    connection.handleAt fb call frame =
      some { connection, sessions := call.sessions, result := { error := some .closed } } := by
  unfold Connection.handleAt Connection.handle
  rw [closed]

theorem Stage.connection_state_ne_closed (stage : Stage) :
    (stage.connection license options).state ≠ .closed := by
  cases stage <;> exact nofun

theorem Tracks.step (lawful : fb.Lawful fb envelopeIdentifier Envelope.contentSize)
    (tracks : Tracks fb license options trace connection) (unfailing : call.ssl.Unfailing)
    (held : ∀ session, connection.session = some session → session.id ∈ call.sessions.sessions)
    (handles : connection.handleAt fb call frame = some handled) :
    Tracks fb license options (trace ++ [⟨call, frame, handled⟩]) handled.connection := by
  unfold Tracks
  rw [inputs_snoc]
  rcases tracks with ⟨stage, accepted, rfl⟩ | ⟨refused, closed⟩
  · rcases continues_of_handleAt accepted.sound handles with ⟨next, accepts, same⟩ | refuses
    · exact .inl ⟨next, .snoc accepted accepts, same⟩
    · refine .inr ⟨?_, refuses.state⟩
      rintro ⟨next, longer⟩
      rcases language_snoc_iff.mp longer with ⟨other, otherAccepted, accepts⟩
      cases accepted.unique otherAccepted
      rcases handleAt_of_accepts lawful unfailing accepted.sound held accepts with
        ⟨found, finds, same⟩
      cases handles.symm.trans finds
      exact next.connection_state_ne_closed (same ▸ refuses.state)
  · rw [handleAt_closed closed] at handles
    cases handles
    refine .inr ⟨?_, closed⟩
    rintro ⟨next, longer⟩
    rcases language_snoc_iff.mp longer with ⟨stage, accepted, -⟩
    exact refused ⟨stage, accepted⟩

theorem Runs.tracks (lawful : fb.Lawful fb envelopeIdentifier Envelope.contentSize)
    (runs : Runs fb license options trace connection) :
    Tracks fb license options trace connection := by
  induction runs with
  | nil => exact .inl ⟨.greeting, .nil, rfl⟩
  | snoc prior unfailing held bodied handles ih => exact ih.step lawful unfailing held handles

theorem Runs.reached_eq (runs : Runs fb license options trace connection) :
    reached license options trace = connection := by
  cases runs with
  | nil => rfl
  | snoc prior unfailing held bodied handles =>
      unfold reached
      rw [List.getLast?_concat]

theorem Runs.settled (runs : Runs fb license options trace connection) : connection.Settled := by
  induction runs with
  | nil => exact ⟨nofun, nofun⟩
  | snoc prior unfailing held bodied handles ih =>
      exact (Connection.handle_effect ih handles).settled

theorem Tracks.returns_iff (tracks : Tracks fb license options trace connection)
    (call : HandleCall) (frame : Bytes) :
    connection.handleAt fb call frame ≠ none ↔ connection.Bodied fb call.ssl frame := by
  rcases tracks with ⟨stage, accepted, rfl⟩ | ⟨-, closed⟩
  · exact Service.returns_iff accepted.sound
  · have nothing : connection.received call.ssl frame = none := by
      unfold Connection.received
      rw [closed]
    rw [handleAt_closed closed]
    exact ⟨fun _ => bodied_of_nothing nothing, fun _ => Option.some_ne_none _⟩

theorem Tracks.accepted_iff (tracks : Tracks fb license options trace connection) :
    connection.state ≠ .closed ↔ ∃ stage, Language fb license options (inputs trace) stage := by
  rcases tracks with ⟨stage, accepted, rfl⟩ | ⟨refused, closed⟩
  · exact ⟨fun _ => ⟨stage, accepted⟩, fun _ => stage.connection_state_ne_closed⟩
  · exact ⟨fun other => absurd closed other, fun accepted => absurd accepted refused⟩

/-- The `ClientFinished` of a sequence that reaches a request. -/
theorem Language.verified {all : List (HandleCall × Bytes)} {stage : Stage}
    (accepted : Language fb license options all stage)
    (reached : (∃ answer, stage = .authorizing answer) ∨
      ∃ answer session heartbeats, stage = .active answer session heartbeats) :
    ∃ answer earlier, earlier <+: all ∧
      Language fb license options earlier (.authorizing answer) := by
  induction accepted with
  | nil => rcases reached with ⟨_, same⟩ | ⟨_, _, _, same⟩ <;> cases same
  | snoc prior accepts ih =>
      cases accepts with
      | hello => rcases reached with ⟨_, same⟩ | ⟨_, _, _, same⟩ <;> cases same
      | finished record isFinished =>
          exact ⟨_, _, List.prefix_rfl, .snoc prior (.finished record isFinished)⟩
      | authorize =>
          rcases ih (.inl ⟨_, rfl⟩) with ⟨answer, earlier, begins, reaches⟩
          exact ⟨answer, earlier, begins.trans (List.prefix_append ..), reaches⟩
      | heartbeat =>
          rcases ih (.inr ⟨_, _, _, rfl⟩) with ⟨answer, earlier, begins, reaches⟩
          exact ⟨answer, earlier, begins.trans (List.prefix_append ..), reaches⟩

theorem sessions_of_handshake
    (state : connection.state = .awaitingHello ∨ connection.state = .awaitingFinished)
    (handles : connection.handleAt fb call frame = some handled) :
    handled.sessions = call.sessions := by
  unfold Connection.handleAt Connection.handle at handles
  rcases state with state | state
  · rw [state] at handles
    dsimp only at handles
    unfold Connection.handleHello at handles
    split at handles
    · cases handles
      rfl
    split at handles
    · cases handles
      rfl
    split at handles <;> cases handles <;> rfl
  · rw [state] at handles
    dsimp only at handles
    unfold Connection.handleFinished at handles
    split at handles <;> cases handles <;> rfl

/-- A call that touches sessions comes after a verified `ClientFinished`. -/
theorem Tracks.verified (tracks : Tracks fb license options trace connection)
    (settled : connection.Settled) (handles : connection.handleAt fb call frame = some handled)
    (touched : handled.sessions ≠ call.sessions ∨ handled.connection.session ≠ none) :
    ∃ answer earlier, earlier <+: inputs trace ∧
      Language fb license options earlier (.authorizing answer) := by
  have next : handled.connection.Settled := (Connection.handle_effect settled handles).settled
  rcases tracks with ⟨stage, accepted, rfl⟩ | ⟨-, closed⟩
  · cases stage with
    | greeting =>
        refine absurd touched (not_or.mpr ⟨not_not.mpr (sessions_of_handshake (.inl rfl) handles),
          not_not.mpr (next.session_eq_none ?_)⟩)
        rcases continues_greeting handles with ⟨stage, accepts, same⟩ | refuses
        · cases accepts
          rw [same]
          exact nofun
        · rw [refuses.state]
          exact nofun
    | finishing answer =>
        refine absurd touched (not_or.mpr ⟨not_not.mpr (sessions_of_handshake (.inr rfl) handles),
          not_not.mpr (next.session_eq_none ?_)⟩)
        rcases continues_finishing handles with ⟨stage, accepts, same⟩ | refuses
        · cases accepts
          rw [same]
          exact nofun
        · rw [refuses.state]
          exact nofun
    | authorizing answer => exact accepted.verified (.inl ⟨_, rfl⟩)
    | active answer session heartbeats => exact accepted.verified (.inr ⟨_, _, _, rfl⟩)
  · have inactive : connection.state ≠ .active := by
      rw [closed]
      exact nofun
    rw [handleAt_closed closed] at handles
    cases handles
    exact absurd touched (not_or.mpr ⟨not_not.mpr rfl,
      not_not.mpr (settled.session_eq_none inactive)⟩)

/-- The connection accepts exactly the frames of the protocol, in every run
whose messages have their bodies. -/
theorem connectionLanguage (lawful : fb.Lawful fb envelopeIdentifier Envelope.contentSize)
    (nonempty : options.serviceKeyId ≠ []) (short : options.serviceKeyId.length ≤ kMaxKeyIdSize)
    (runs : Runs fb license options trace connection) :
    Conforms fb license options trace connection := by
  have greets : ∀ (call : HandleCall) {frame payload : Bytes} {header : FrameHeader}
      {client : ClientHelloMessage}, call.ssl.Unfailing →
      decodeFrame frame = .ok (header, payload) → header.flags = 0 → header.sequence = 0 →
      decodeClientHello fb payload = some (.ok client) →
      call.ssl.Agrees client.publicKey → client.minVersion ≤ 1 ∧ 1 ≤ client.maxVersion →
      ∃ stage, Language fb license options [(call, frame)] stage := by
    intro call frame payload header client unfailing decodes flags sequence isHello agrees common
    rcases exists_answer unfailing nonempty short isHello agrees common with ⟨answer, answers⟩
    exact ⟨.finishing answer, .snoc .nil (.hello decodes flags sequence isHello common answers)⟩
  induction runs with
  | nil =>
      have tracks : Tracks fb license options [] (.construct license options) :=
        .inl ⟨.greeting, .nil, rfl⟩
      refine ⟨greets, tracks.returns_iff, tracks.accepted_iff, ?_, ?_, ?_⟩
      all_goals
        intro before exchanged begins
        simp at begins
  | @snoc trace connection call frame handled prior unfailing held bodied handles ih =>
      have tracks := prior.tracks lawful
      have next := tracks.step lawful unfailing held handles
      refine ⟨greets, next.returns_iff, next.accepted_iff, ?_, ?_, ?_⟩
      · intro before exchanged begins outside
        rcases List.prefix_concat_iff.mp begins with last | inside
        · rcases List.append_inj' last rfl with ⟨rfl, same⟩
          cases same
          rw [prior.reached_eq]
          rcases tracks with ⟨stage, accepted, rfl⟩ | ⟨-, closed⟩
          · rcases continues_of_handleAt accepted.sound handles with ⟨found, accepts, -⟩ | refuses
            · rw [inputs_snoc] at outside
              exact absurd ⟨found, .snoc accepted accepts⟩ outside
            · exact ⟨refuses.state, refuses.denies⟩
          · rw [handleAt_closed closed] at handles
            cases handles
            exact ⟨closed, nofun⟩
        · exact ih.refused before exchanged inside outside
      · intro before exchanged begins outside
        rcases List.prefix_concat_iff.mp begins with last | inside
        · rcases List.append_inj' last rfl with ⟨rfl, same⟩
          cases same
          rcases tracks with ⟨stage, accepted, rfl⟩ | ⟨-, closed⟩
          · exact absurd ⟨stage, accepted⟩ outside
          · rw [handleAt_closed closed] at handles
            cases handles
            exact ⟨rfl, rfl, closed⟩
        · exact ih.absorbing before exchanged inside outside
      · intro before exchanged begins touched
        rcases List.prefix_concat_iff.mp begins with last | inside
        · rcases List.append_inj' last rfl with ⟨rfl, same⟩
          cases same
          exact tracks.verified prior.settled handles touched
        · exact ih.verified before exchanged inside touched

/-- A run goes on with any call that returns. -/
theorem Runs.next (lawful : fb.Lawful fb envelopeIdentifier Envelope.contentSize)
    (prior : Runs fb license options trace connection) (unfailing : call.ssl.Unfailing)
    (held : ∀ session, connection.session = some session → session.id ∈ call.sessions.sessions)
    (handles : connection.handleAt fb call frame = some handled) :
    Runs fb license options (trace ++ [⟨call, frame, handled⟩]) handled.connection := by
  refine .snoc prior unfailing held ?_ handles
  rw [← (prior.tracks lawful).returns_iff, handles]
  exact Option.some_ne_none _

end

/-! ## Frames of an honest client, and one without a body -/

theorem referenceSsl_unfailing : referenceSsl.Unfailing :=
  ⟨fun _ _ => ⟨_, rfl⟩, fun _ => ⟨_, rfl⟩, fun _ _ => ⟨_, rfl⟩, ⟨_, rfl⟩,
    fun _ _ _ _ _ _ _ => ⟨_, rfl⟩, fun _ _ _ _ _ _ => ⟨_, rfl⟩⟩

open ServiceWorld in
/-- The connection that has finished the handshake of an honest client. -/
theorem exists_reference_waiting :
    ∃ trace handshake client keys,
      Runs referenceEnvelopes referenceLicense referenceOptions trace
        { Connection.construct referenceLicense referenceOptions with
          handshake
          state := .awaitingAuthorize } ∧
      Paired client handshake keys ∧ client.selectedVersion ≠ 0 := by
  let first : Connection := .construct referenceLicense referenceOptions
  rcases handshake_honest referenceEnvelopes_lawful referenceCalls_correct referenceClient_ready
    (rfl : first.state = .awaitingHello) rfl (by decide) (by decide) rfl (by decide) (by decide)
    with ⟨sent, hello, awaiting, serverHello, established, finished, handshake, keys, -, greets, -,
      finishes, paired, selected⟩
  have sessionless : awaiting.session = none := by
    rcases continues_greeting greets with ⟨next, accepts, same⟩ | refuses
    · cases accepts
      change awaiting = _ at same
      rw [same]
      rfl
    · cases refuses.closed
  have greeted : Runs referenceEnvelopes referenceLicense referenceOptions _ awaiting :=
    Runs.nil.next referenceEnvelopes_lawful referenceSsl_unfailing nofun greets
  have opened := greeted.next referenceEnvelopes_lawful referenceSsl_unfailing
    (fun session held => by rw [sessionless] at held; cases held) finishes
  exact ⟨_, handshake, established, keys, opened, paired, selected⟩

theorem exists_reference_request {version : UInt16} (selected : version ≠ 0) :
    ∃ plaintext, encodeAuthorize referenceEnvelopes (referenceRequest.message version) =
      .ok plaintext :=
  encodeAuthorize_request (by decide) selected (by decide) (by decide) (by decide)

open ServiceWorld in
/-- The frames of an honest client up to its request are in the language. -/
theorem connectionLanguage_honest :
    ∃ trace connection, Runs referenceEnvelopes referenceLicense referenceOptions trace connection ∧
      connection.state = .active ∧
      Conforms referenceEnvelopes referenceLicense referenceOptions trace connection := by
  rcases exists_reference_waiting with ⟨trace, handshake, client, keys, runs, paired, selected⟩
  rcases exists_reference_request selected with ⟨plaintext, encodes⟩
  let waiting : Connection :=
    { Connection.construct referenceLicense referenceOptions with
      handshake
      state := .awaitingAuthorize }
  have grantable : Grantable waiting referenceCall
      (referenceRequest.message client.selectedVersion) :=
    ⟨rfl, rfl, Nat.zero_lt_one, nofun, referenceLicense_productId, referenceOptions_peerIdentity⟩
  rcases handleAt_authorize referenceEnvelopes_lawful referenceSsl_correct
    (rfl : waiting.state = .awaitingAuthorize) paired paired.version.symm encodes grantable
    referenceLicense_features with
    ⟨handled, session, encoded, handles, -, -, active, -⟩
  have authorized := runs.next referenceEnvelopes_lawful referenceSsl_unfailing nofun handles
  exact ⟨_, _, authorized, active,
    connectionLanguage referenceEnvelopes_lawful (by decide) (by decide) authorized⟩

open ServiceWorld in
/-- A `ClientHello` tag without a body: the first frame of a connection is not
refused. -/
theorem greeting_without_body :
    ¬ ∀ fb : Binding Envelope, fb.Lawful fb envelopeIdentifier Envelope.contentSize →
      ∀ (license : LicenseSnapshot) (options : ConnectionOptions) (call : HandleCall)
        (frame : Bytes), call.ssl.Unfailing →
        (¬ ∃ next, Accepts fb license options call frame .greeting next) →
        ∃ handled, (Connection.construct license options).handleAt fb call frame = some handled ∧
          handled.connection.state = .closed := by
  intro closes
  let envelope := createEnvelope 0 1 (.clientHello none)
  let payload := referenceEnvelopes.build envelope
  have fits : tableSize + envelope.contentSize ≤ maxBufferSize := by decide
  have long := referenceEnvelopes_lawful.eight_le_build envelope fits
  have short := referenceEnvelopes_lawful.build_le envelope fits
  have nonempty : payload ≠ [] := by
    intro empty
    change 8 ≤ payload.length at long
    rw [empty] at long
    cases long
  have decodes := decodeFrame_wrapPlaintext nonempty (Nat.le_trans short (by decide))
  have crashes : decodeClientHello referenceEnvelopes payload = none := by
    change MessageKind.decode referenceEnvelopes .clientHello payload = none
    rw [MessageKind.decode_of_checked .clientHello
      (checkedEnvelope_build referenceEnvelopes_lawful (Nat.zero_le _))]
    rfl
  have outside : ¬ ∃ next, Accepts referenceEnvelopes referenceLicense referenceOptions
      referenceCall (wrapPlaintext payload) .greeting next := by
    rintro ⟨next, accepts⟩
    cases accepts with
    | hello otherDecodes _ _ isHello =>
        cases decodes.symm.trans otherDecodes
        rw [crashes] at isHello
        cases isHello
  rcases closes referenceEnvelopes referenceEnvelopes_lawful referenceLicense referenceOptions
    referenceCall (wrapPlaintext payload) referenceSsl_unfailing outside with ⟨handled, handles, -⟩
  have received : (Stage.greeting.connection referenceLicense referenceOptions).received
      referenceSsl (wrapPlaintext payload) = some (.clientHello, payload) := by
    change (match decodeFrame (wrapPlaintext payload) with
      | .error _ => none
      | .ok (header, payload) => _) = _
    rw [decodes]
    rfl
  have bodied := returns_greeting_iff.mp (handles ▸ Option.some_ne_none handled)
  have present := (bodied_of_received received).mp bodied
  exact (MessageKind.decode_ne_none_iff (by decide) payload).mpr present crashes

end YoAuthorize.Service
