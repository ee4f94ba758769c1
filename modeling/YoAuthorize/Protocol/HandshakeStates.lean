import YoAuthorize.Protocol.HonestRun

/-!
# The handshake state machines

The two handshake objects under calls in any order, with any messages and any
failure of the library.  Each handler leaves through one of many exits, between
updates of the keys and of the record objects, and a failed exit runs `fail`.
`ClientHandshake.Consistent` and `ServerHandshake.Consistent` say what exists
and what is wiped in which state; one call keeps them and only moves the state
forward, and so does every run.  The objects of a `World` move by such calls, so
the honest run shows that both sides can be established.
-/

namespace YoAuthorize.Protocol

open Octets Crypto FlatBuffer Schema

/-! ## Order of the states -/

def HandshakeState.rank : HandshakeState → Nat
  | .initial => 0
  | .helloSent => 1
  | .awaitingFinished => 1
  | .established => 2
  | .failed => 3

/-- The state stays or moves towards `established` or `failed`. -/
def HandshakeState.Forward (before after : HandshakeState) : Prop :=
  before = after ∨ before.rank < after.rank

namespace HandshakeState.Forward

variable {before middle after : HandshakeState}

theorem refl (state : HandshakeState) : state.Forward state := .inl rfl

theorem trans (first : before.Forward middle) (second : middle.Forward after) :
    before.Forward after := by
  rcases first with rfl | first
  · exact second
  · rcases second with rfl | second
    · exact .inr first
    · exact .inr (Nat.lt_trans first second)

theorem failed (state : HandshakeState) : state.Forward .failed := by
  cases state with
  | initial => exact .inr (by decide)
  | helloSent => exact .inr (by decide)
  | awaitingFinished => exact .inr (by decide)
  | established => exact .inr (by decide)
  | failed => exact .inl rfl

theorem eq_failed (moved : HandshakeState.Forward .failed after) : after = .failed := by
  rcases moved with same | higher
  · exact same.symm
  · cases after <;> cases Nat.not_lt.mpr (by decide) higher

end HandshakeState.Forward

/-! ## Client -/

/-- What a client holds in which state, for the version range it was built with. -/
structure ClientHandshake.Consistent (minVersion maxVersion : UInt16) (client : ClientHandshake) :
    Prop where
  states : client.state ≠ .awaitingFinished
  range : client.state ≠ .failed →
    client.minVersion = minVersion ∧ client.maxVersion = maxVersion
  wiped : client.state ≠ .helloSent → client.ephemeral.privateKey = .zeros kKeySize
  established : client.state = .established → client.writer.isSome ∧ client.reader.isSome ∧
    minVersion ≤ client.selectedVersion ∧ client.selectedVersion ≤ maxVersion
  dropped : client.state = .failed → client.writer = none ∧ client.reader = none

theorem ClientHandshake.consistent_fail (minVersion maxVersion : UInt16)
    (client : ClientHandshake) : client.fail.Consistent minVersion maxVersion where
  states := nofun
  range running := absurd rfl running
  wiped _ := rfl
  established := nofun
  dropped _ := ⟨rfl, rfl⟩

section

variable (fb : Binding Envelope)

/-- One call on a client, on any library. -/
def ClientHandshake.Step (client next : ClientHandshake) : Prop :=
  ∃ ssl action, client.perform fb ssl action = some next

abbrev ClientHandshake.Reach : ClientHandshake → ClientHandshake → Prop :=
  Relation.ReflTransGen (ClientHandshake.Step fb)

variable {fb} {minVersion maxVersion : UInt16} {client next : ClientHandshake}

theorem ClientHandshake.Consistent.step (consistent : client.Consistent minVersion maxVersion)
    (step : ClientHandshake.Step fb client next) :
    next.Consistent minVersion maxVersion ∧ client.state.Forward next.state := by
  obtain ⟨ssl, action, performed⟩ := step
  cases action with
  | start =>
      rcases client.start_cases fb ssl with
        ⟨before, error, failed⟩ | ⟨nonce, keyPair, encoded, initial, -, started⟩
      · rw [ClientHandshake.perform, failed] at performed
        cases performed
        exact ⟨before.consistent_fail minVersion maxVersion, .failed _⟩
      · rw [ClientHandshake.perform, started] at performed
        cases performed
        have running : client.state ≠ .failed := by
          rw [initial]
          intro same
          cases same
        refine ⟨⟨(fun same => by cases same), fun _ => consistent.range running,
          fun other => absurd rfl other, (fun same => by cases same),
          fun same => by cases same⟩, ?_⟩
        rw [initial]
        exact .inr Nat.zero_lt_one
  | handleServerHello message =>
      rcases client.handleServerHello_cases fb ssl message with
        crashed | ⟨before, error, failed⟩ | ⟨accepted, _, _, accept, -, -, success⟩
      · rw [ClientHandshake.perform, crashed] at performed
        cases performed
      · rw [ClientHandshake.perform, failed] at performed
        cases performed
        exact ⟨before.consistent_fail minVersion maxVersion, .failed _⟩
      · rw [ClientHandshake.perform, success] at performed
        cases performed
        obtain ⟨sent, -, accepts⟩ := ClientHandshake.accepts_of_accept accept
        have running : client.state ≠ .failed := by
          rw [sent]
          intro same
          cases same
        have range := consistent.range running
        refine ⟨⟨(fun same => by cases same), fun _ => range, fun _ => rfl,
          fun _ => ⟨rfl, rfl, ?_, ?_⟩, fun same => by cases same⟩, ?_⟩
        · rw [← range.1]
          exact accepts.minVersion
        · rw [← range.2]
          exact accepts.maxVersion
        · rw [sent]
          exact .inr Nat.one_lt_two
  | sealPlaintext plaintext =>
      rcases client.seal_cases ssl plaintext with
        ⟨error, refused⟩ | ⟨writer, frame, established, -, -, success⟩
      · rw [ClientHandshake.perform, refused] at performed
        cases performed
        exact ⟨consistent, .refl _⟩
      · rw [ClientHandshake.perform, success] at performed
        cases performed
        refine ⟨⟨consistent.states, consistent.range, consistent.wiped, ?_, ?_⟩, .refl _⟩
        · exact fun here => ⟨rfl, (consistent.established here).2⟩
        · intro failed
          cases established.symm.trans failed
  | openFrame frame =>
      rcases client.open_cases ssl frame with
        ⟨error, refused⟩ | ⟨reader, plaintext, established, -, -, success⟩
      · rw [ClientHandshake.perform, refused] at performed
        cases performed
        exact ⟨consistent, .refl _⟩
      · rw [ClientHandshake.perform, success] at performed
        cases performed
        refine ⟨⟨consistent.states, consistent.range, consistent.wiped, ?_, ?_⟩, .refl _⟩
        · intro here
          obtain ⟨writes, -, range⟩ := consistent.established here
          exact ⟨writes, rfl, range⟩
        · intro failed
          cases established.symm.trans failed

theorem ClientHandshake.Consistent.reach (consistent : client.Consistent minVersion maxVersion)
    (reach : ClientHandshake.Reach fb client next) :
    next.Consistent minVersion maxVersion ∧ client.state.Forward next.state := by
  induction reach with
  | refl => exact ⟨consistent, .refl _⟩
  | tail _ step ih =>
      obtain ⟨kept, moved⟩ := ih.1.step step
      exact ⟨kept, ih.2.trans moved⟩

end

/-- A client as its constructor leaves it. -/
def ClientHandshake.create (trustedKeys : Bytes → Option Key) (sdkVersion : Bytes)
    (requestId : UInt64) (minVersion maxVersion : UInt16) : ClientHandshake :=
  { trustedKeys, sdkVersion, requestId, minVersion, maxVersion }

theorem ClientHandshake.consistent_create (trustedKeys : Bytes → Option Key) (sdkVersion : Bytes)
    (requestId : UInt64) (minVersion maxVersion : UInt16) :
    (ClientHandshake.create trustedKeys sdkVersion requestId minVersion maxVersion).Consistent
      minVersion maxVersion where
  states := nofun
  range _ := ⟨rfl, rfl⟩
  wiped _ := rfl
  established := nofun
  dropped := nofun

/-! ## Server -/

/-- What a server holds in which state. -/
structure ServerHandshake.Consistent (minVersion maxVersion : UInt16) (server : ServerHandshake) :
    Prop where
  states : server.state ≠ .helloSent
  range : server.state ≠ .failed →
    server.minVersion = minVersion ∧ server.maxVersion = maxVersion
  wiped : server.state ≠ .initial → server.identityPrivateKey = .zeros kKeySize
  answered : server.state = .awaitingFinished ∨ server.state = .established →
    server.writer.isSome ∧ server.reader.isSome ∧
      minVersion ≤ server.selectedVersion ∧ server.selectedVersion ≤ maxVersion
  dropped : server.state = .failed → server.writer = none ∧ server.reader = none

theorem ServerHandshake.consistent_fail (minVersion maxVersion : UInt16)
    (server : ServerHandshake) : server.fail.Consistent minVersion maxVersion where
  states := nofun
  range running := absurd rfl running
  wiped _ := rfl
  answered := nofun
  dropped _ := ⟨rfl, rfl⟩

section

variable (fb : Binding Envelope)

/-- One call on a server, on any library. -/
def ServerHandshake.Step (server next : ServerHandshake) : Prop :=
  ∃ ssl action, server.perform fb ssl action = some next

abbrev ServerHandshake.Reach : ServerHandshake → ServerHandshake → Prop :=
  Relation.ReflTransGen (ServerHandshake.Step fb)

variable {fb} {minVersion maxVersion : UInt16} {server next : ServerHandshake}

theorem ServerHandshake.Consistent.step (consistent : server.Consistent minVersion maxVersion)
    (step : ServerHandshake.Step fb server next) :
    next.Consistent minVersion maxVersion ∧ server.state.Forward next.state := by
  obtain ⟨ssl, action, performed⟩ := step
  cases action with
  | handleClientHello message =>
      rcases server.handleClientHello_cases fb ssl message with
        crashed | ⟨error, failed⟩ | ⟨answer, answered, success⟩
      · rw [ServerHandshake.perform, crashed] at performed
        cases performed
      · rw [ServerHandshake.perform, failed] at performed
        cases performed
        exact ⟨server.consistent_fail minVersion maxVersion, .failed _⟩
      · rw [ServerHandshake.perform, success] at performed
        cases performed
        obtain ⟨initial, -, answers⟩ := ServerHandshake.answers_of_answer answered
        have running : server.state ≠ .failed := by
          rw [initial]
          intro same
          cases same
        have range := consistent.range running
        have common := (isHighestCommon_min answers.overlap).right
        rw [← answers.selectedVersion, range.1, range.2] at common
        refine ⟨⟨(fun same => by cases same), fun _ => range, fun _ => rfl,
          fun _ => ⟨rfl, rfl, common⟩, fun same => by cases same⟩, ?_⟩
        rw [initial]
        exact .inr Nat.zero_lt_one
  | handleClientFinished frame =>
      rcases server.handleClientFinished_cases fb ssl frame with
        crashed | ⟨error, failed⟩ | ⟨reader, plaintext, awaiting, -, -, -, success⟩
      · rw [ServerHandshake.perform, crashed] at performed
        cases performed
      · rw [ServerHandshake.perform, failed] at performed
        cases performed
        exact ⟨server.consistent_fail minVersion maxVersion, .failed _⟩
      · rw [ServerHandshake.perform, success] at performed
        cases performed
        obtain ⟨writes, -, range⟩ := consistent.answered (.inl awaiting)
        refine ⟨⟨(fun same => by cases same), ?_, ?_, fun _ => ⟨writes, rfl, range⟩,
          fun same => by cases same⟩, ?_⟩
        · intro _
          apply consistent.range
          rw [awaiting]
          intro same
          cases same
        · intro _
          apply consistent.wiped
          rw [awaiting]
          intro same
          cases same
        · rw [awaiting]
          exact .inr Nat.one_lt_two
  | sealPlaintext plaintext =>
      rcases server.seal_cases ssl plaintext with
        ⟨error, refused⟩ | ⟨writer, frame, established, -, -, success⟩
      · rw [ServerHandshake.perform, refused] at performed
        cases performed
        exact ⟨consistent, .refl _⟩
      · rw [ServerHandshake.perform, success] at performed
        cases performed
        refine ⟨⟨consistent.states, consistent.range, consistent.wiped, ?_, ?_⟩, .refl _⟩
        · exact fun here => ⟨rfl, (consistent.answered here).2⟩
        · intro failed
          cases established.symm.trans failed
  | openFrame frame =>
      rcases server.open_cases ssl frame with
        ⟨error, refused⟩ | ⟨reader, plaintext, established, -, -, success⟩
      · rw [ServerHandshake.perform, refused] at performed
        cases performed
        exact ⟨consistent, .refl _⟩
      · rw [ServerHandshake.perform, success] at performed
        cases performed
        refine ⟨⟨consistent.states, consistent.range, consistent.wiped, ?_, ?_⟩, .refl _⟩
        · intro here
          obtain ⟨writes, -, range⟩ := consistent.answered here
          exact ⟨writes, rfl, range⟩
        · intro failed
          cases established.symm.trans failed

theorem ServerHandshake.Consistent.reach (consistent : server.Consistent minVersion maxVersion)
    (reach : ServerHandshake.Reach fb server next) :
    next.Consistent minVersion maxVersion ∧ server.state.Forward next.state := by
  induction reach with
  | refl => exact ⟨consistent, .refl _⟩
  | tail _ step ih =>
      obtain ⟨kept, moved⟩ := ih.1.step step
      exact ⟨kept, ih.2.trans moved⟩

end

/-- A server as its constructor leaves it. -/
def ServerHandshake.create (serviceKeyId : Bytes) (identityPrivateKey : Key)
    (minVersion maxVersion : UInt16) : ServerHandshake :=
  { serviceKeyId, identityPrivateKey, minVersion, maxVersion }

theorem ServerHandshake.consistent_create (serviceKeyId : Bytes) (identityPrivateKey : Key)
    (minVersion maxVersion : UInt16) :
    (ServerHandshake.create serviceKeyId identityPrivateKey minVersion maxVersion).Consistent
      minVersion maxVersion where
  states := nofun
  range _ := ⟨rfl, rfl⟩
  wiped other := absurd rfl other
  answered here := by cases here <;> contradiction
  dropped := nofun

/-! ## Calls that fail -/

section

variable {fb : Binding Envelope} {ssl : OpenSsl}

/-- `start` returns an error exactly when it ends in `failed`. -/
theorem ClientHandshake.start_failed {client : ClientHandshake} {error : HandshakeError}
    (refused : (client.start fb ssl).2 = .error error) :
    (client.start fb ssl).1.state = .failed := by
  rcases client.start_cases fb ssl with ⟨before, _, failed⟩ | ⟨_, _, _, -, -, started⟩
  · rw [failed]
    rfl
  · rw [started] at refused
    cases refused

theorem ClientHandshake.start_outOfOrder {client : ClientHandshake}
    (other : client.state ≠ .initial) :
    client.start fb ssl = (client.fail, .error .invalidState) :=
  if_pos (.inl other)

theorem ClientHandshake.handleServerHello_failed {client next : ClientHandshake} {message : Bytes}
    {error : HandshakeError}
    (refused : client.handleServerHello fb ssl message = some (next, .error error)) :
    next.state = .failed := by
  rcases client.handleServerHello_cases fb ssl message with
    crashed | ⟨before, _, failed⟩ | ⟨_, _, _, -, -, -, success⟩
  · rw [crashed] at refused
    cases refused
  · rw [failed] at refused
    cases refused
    rfl
  · rw [success] at refused
    cases congrArg Prod.snd (Option.some.inj refused)

theorem ClientHandshake.handleServerHello_outOfOrder {client : ClientHandshake}
    (other : client.state ≠ .helloSent) (message : Bytes) :
    client.handleServerHello fb ssl message = some (client.fail, .error .invalidState) := by
  unfold ClientHandshake.handleServerHello ClientHandshake.acceptServerHello
  rw [if_pos other]

theorem ServerHandshake.handleClientHello_failed {server next : ServerHandshake} {message : Bytes}
    {error : HandshakeError}
    (refused : server.handleClientHello fb ssl message = some (next, .error error)) :
    next.state = .failed := by
  rcases server.handleClientHello_cases fb ssl message with
    crashed | ⟨_, failed⟩ | ⟨_, -, success⟩
  · rw [crashed] at refused
    cases refused
  · rw [failed] at refused
    cases refused
    rfl
  · rw [success] at refused
    cases congrArg Prod.snd (Option.some.inj refused)

theorem ServerHandshake.handleClientHello_outOfOrder {server : ServerHandshake}
    (other : server.state ≠ .initial) (message : Bytes) :
    server.handleClientHello fb ssl message = some (server.fail, .error .invalidState) := by
  unfold ServerHandshake.handleClientHello ServerHandshake.answerClientHello
  rw [if_pos other]

theorem ServerHandshake.handleClientFinished_failed {server next : ServerHandshake}
    {frame : Bytes} {error : HandshakeError}
    (refused : server.handleClientFinished fb ssl frame = some (next, .error error)) :
    next.state = .failed := by
  rcases server.handleClientFinished_cases fb ssl frame with
    crashed | ⟨_, failed⟩ | ⟨_, _, -, -, -, -, success⟩
  · rw [crashed] at refused
    cases refused
  · rw [failed] at refused
    cases refused
    rfl
  · rw [success] at refused
    cases congrArg Prod.snd (Option.some.inj refused)

theorem ServerHandshake.handleClientFinished_outOfOrder {server : ServerHandshake}
    (other : server.state ≠ .awaitingFinished) (frame : Bytes) :
    server.handleClientFinished fb ssl frame = some (server.fail, .error .invalidState) := by
  unfold ServerHandshake.handleClientFinished
  split
  · rename_i awaiting _
    exact absurd awaiting other
  · rfl

/-- Only an established side seals. -/
theorem sealRecord_unestablished {state : HandshakeState} (other : state ≠ .established)
    (writer : Option RecordWriter) (plaintext : Bytes) :
    (sealRecord ssl state writer plaintext).2 = .error .invalidFrame := by
  unfold sealRecord
  split
  · exact absurd rfl other
  · rfl

theorem openRecord_unestablished {state : HandshakeState} (other : state ≠ .established)
    (reader : Option RecordReader) (frame : Bytes) :
    (openRecord ssl state reader frame).2 = .error .invalidFrame := by
  unfold openRecord
  split
  · exact absurd rfl other
  · rfl

end

/-! ## Both machines -/

/-- What holds of a client in every state that any sequence of calls reaches. -/
structure ClientHandshake.WellBehaved (fb : Binding Envelope) (minVersion maxVersion : UInt16)
    (client : ClientHandshake) : Prop where
  states : client.state ≠ .awaitingFinished
  forward : ∀ {next}, ClientHandshake.Reach fb client next → client.state.Forward next.state
  absorbing : ∀ {next}, ClientHandshake.Reach fb client next → client.state = .failed →
    next.state = .failed
  startOutOfOrder : ∀ ssl, client.state ≠ .initial → (client.start fb ssl).1.state = .failed
  startFailed : ∀ ssl error, (client.start fb ssl).2 = .error error →
    (client.start fb ssl).1.state = .failed
  helloOutOfOrder : ∀ ssl message, client.state ≠ .helloSent → ∃ next error,
    client.handleServerHello fb ssl message = some (next, .error error) ∧ next.state = .failed
  helloFailed : ∀ ssl message (next : ClientHandshake) error,
    client.handleServerHello fb ssl message = some (next, .error error) → next.state = .failed
  established : client.state = .established → client.writer.isSome ∧ client.reader.isSome ∧
    minVersion ≤ client.selectedVersion ∧ client.selectedVersion ≤ maxVersion
  failed : client.state = .failed → client.writer = none ∧ client.reader = none ∧
    (∀ ssl plaintext, ∃ error, (client.seal ssl plaintext).2 = .error error) ∧
    ∀ ssl frame, ∃ error, (client.open ssl frame).2 = .error error
  wiped : client.state ≠ .helloSent → client.ephemeral.privateKey = .zeros kKeySize

/-- What holds of a server in every state that any sequence of calls reaches. -/
structure ServerHandshake.WellBehaved (fb : Binding Envelope) (minVersion maxVersion : UInt16)
    (server : ServerHandshake) : Prop where
  states : server.state ≠ .helloSent
  forward : ∀ {next}, ServerHandshake.Reach fb server next → server.state.Forward next.state
  absorbing : ∀ {next}, ServerHandshake.Reach fb server next → server.state = .failed →
    next.state = .failed
  helloOutOfOrder : ∀ ssl message, server.state ≠ .initial → ∃ next error,
    server.handleClientHello fb ssl message = some (next, .error error) ∧ next.state = .failed
  helloFailed : ∀ ssl message (next : ServerHandshake) error,
    server.handleClientHello fb ssl message = some (next, .error error) → next.state = .failed
  finishedOutOfOrder : ∀ ssl frame, server.state ≠ .awaitingFinished → ∃ next error,
    server.handleClientFinished fb ssl frame = some (next, .error error) ∧ next.state = .failed
  finishedFailed : ∀ ssl frame (next : ServerHandshake) error,
    server.handleClientFinished fb ssl frame = some (next, .error error) → next.state = .failed
  established : server.state = .established → server.writer.isSome ∧ server.reader.isSome ∧
    minVersion ≤ server.selectedVersion ∧ server.selectedVersion ≤ maxVersion
  failed : server.state = .failed → server.writer = none ∧ server.reader = none ∧
    (∀ ssl plaintext, ∃ error, (server.seal ssl plaintext).2 = .error error) ∧
    ∀ ssl frame, ∃ error, (server.open ssl frame).2 = .error error
  wiped : server.state ≠ .initial → server.identityPrivateKey = .zeros kKeySize

section

variable {fb : Binding Envelope} {minVersion maxVersion : UInt16}

theorem ClientHandshake.Consistent.wellBehaved {client : ClientHandshake}
    (consistent : client.Consistent minVersion maxVersion) :
    client.WellBehaved fb minVersion maxVersion where
  states := consistent.states
  forward reach := (consistent.reach reach).2
  absorbing reach failed := by
    have moved := (consistent.reach reach).2
    rw [failed] at moved
    exact moved.eq_failed
  startOutOfOrder ssl other := by
    rw [ClientHandshake.start_outOfOrder other]
    rfl
  startFailed ssl error := ClientHandshake.start_failed
  helloOutOfOrder ssl message other :=
    ⟨_, _, ClientHandshake.handleServerHello_outOfOrder other message, rfl⟩
  helloFailed ssl message next error := ClientHandshake.handleServerHello_failed
  established := consistent.established
  failed failed := by
    have other : client.state ≠ .established := by
      rw [failed]
      nofun
    obtain ⟨writer, reader⟩ := consistent.dropped failed
    exact ⟨writer, reader, fun ssl plaintext => ⟨_, sealRecord_unestablished other _ plaintext⟩,
      fun ssl frame => ⟨_, openRecord_unestablished other _ frame⟩⟩
  wiped := consistent.wiped

theorem ServerHandshake.Consistent.wellBehaved {server : ServerHandshake}
    (consistent : server.Consistent minVersion maxVersion) :
    server.WellBehaved fb minVersion maxVersion where
  states := consistent.states
  forward reach := (consistent.reach reach).2
  absorbing reach failed := by
    have moved := (consistent.reach reach).2
    rw [failed] at moved
    exact moved.eq_failed
  helloOutOfOrder ssl message other :=
    ⟨_, _, ServerHandshake.handleClientHello_outOfOrder other message, rfl⟩
  helloFailed ssl message next error := ServerHandshake.handleClientHello_failed
  finishedOutOfOrder ssl frame other :=
    ⟨_, _, ServerHandshake.handleClientFinished_outOfOrder other frame, rfl⟩
  finishedFailed ssl frame next error := ServerHandshake.handleClientFinished_failed
  established here := consistent.answered (.inr here)
  failed failed := by
    have other : server.state ≠ .established := by
      rw [failed]
      nofun
    obtain ⟨writer, reader⟩ := consistent.dropped failed
    exact ⟨writer, reader, fun ssl plaintext => ⟨_, sealRecord_unestablished other _ plaintext⟩,
      fun ssl frame => ⟨_, openRecord_unestablished other _ frame⟩⟩
  wiped := consistent.wiped

end

/-- Every sequence of calls on a new client or server, in any order, with any
messages and any failure of the library, only visits well-behaved states. -/
theorem handshake_stateMachines (fb : Binding Envelope) (minVersion maxVersion : UInt16) :
    (∀ trustedKeys sdkVersion requestId client, ClientHandshake.Reach fb
      (.create trustedKeys sdkVersion requestId minVersion maxVersion) client →
        client.WellBehaved fb minVersion maxVersion) ∧
    ∀ serviceKeyId identityPrivateKey server, ServerHandshake.Reach fb
      (.create serviceKeyId identityPrivateKey minVersion maxVersion) server →
        server.WellBehaved fb minVersion maxVersion := by
  refine ⟨?_, ?_⟩
  · intro trustedKeys sdkVersion requestId client reach
    have fresh := ClientHandshake.consistent_create trustedKeys sdkVersion requestId minVersion
      maxVersion
    exact (fresh.reach reach).1.wellBehaved
  · intro serviceKeyId identityPrivateKey server reach
    have fresh := ServerHandshake.consistent_create serviceKeyId identityPrivateKey minVersion
      maxVersion
    exact (fresh.reach reach).1.wellBehaved

/-! ## The objects of a world -/

section

variable {fb : Binding Envelope} {ssl : OpenSsl} {made : List SealCall}

theorem ClientRun.Step.performed {run next : ClientRun}
    (step : ClientRun.Step fb ssl run next made) :
    ClientHandshake.Step fb run.handshake next.handshake := by
  cases step with
  | startFailed call => exact ⟨ssl, .start, congrArg (some ∘ Prod.fst) call⟩
  | started call => exact ⟨ssl, .start, congrArg (some ∘ Prod.fst) call⟩
  | helloRefused call => exact ⟨ssl, .handleServerHello _, congrArg (Option.map Prod.fst) call⟩
  | helloAccepted _ _ call =>
      exact ⟨ssl, .handleServerHello _, congrArg (Option.map Prod.fst) call⟩
  | sealFailed call => exact ⟨ssl, .sealPlaintext _, congrArg (some ∘ Prod.fst) call⟩
  | sealed _ call => exact ⟨ssl, .sealPlaintext _, congrArg (some ∘ Prod.fst) call⟩
  | openFailed call => exact ⟨ssl, .openFrame _, congrArg (some ∘ Prod.fst) call⟩
  | opened call => exact ⟨ssl, .openFrame _, congrArg (some ∘ Prod.fst) call⟩

theorem ServerRun.Step.performed {run next : ServerRun}
    (step : ServerRun.Step fb ssl run next made) :
    ServerHandshake.Step fb run.handshake next.handshake := by
  cases step with
  | helloRefused call => exact ⟨ssl, .handleClientHello _, congrArg (Option.map Prod.fst) call⟩
  | helloAnswered _ call =>
      exact ⟨ssl, .handleClientHello _, congrArg (Option.map Prod.fst) call⟩
  | finishedRefused call =>
      exact ⟨ssl, .handleClientFinished _, congrArg (Option.map Prod.fst) call⟩
  | finishedAccepted _ _ call =>
      exact ⟨ssl, .handleClientFinished _, congrArg (Option.map Prod.fst) call⟩
  | sealFailed call => exact ⟨ssl, .sealPlaintext _, congrArg (some ∘ Prod.fst) call⟩
  | sealed _ call => exact ⟨ssl, .sealPlaintext _, congrArg (some ∘ Prod.fst) call⟩
  | openFailed call => exact ⟨ssl, .openFrame _, congrArg (some ∘ Prod.fst) call⟩
  | opened call => exact ⟨ssl, .openFrame _, congrArg (some ∘ Prod.fst) call⟩

variable {ι κ : Type} [DecidableEq ι] [DecidableEq κ] {assume : World ι κ → OpenSsl → Prop}
  {first last : World ι κ}

/-- Every object of a run of many clients and servers makes calls of its own. -/
theorem World.Reaches.objects (run : World.Reaches fb assume first last) :
    (∀ i, ClientHandshake.Reach fb (first.clients i).handshake (last.clients i).handshake) ∧
      ∀ j, ServerHandshake.Reach fb (first.servers j).handshake (last.servers j).handshake := by
  induction run with
  | refl => exact ⟨fun _ => .refl, fun _ => .refl⟩
  | tail _ stepped ih =>
      obtain ⟨ssl, -, step⟩ := stepped
      cases step with
      | client i step =>
          refine ⟨fun other => ?_, ih.2⟩
          rcases eq_or_ne other i with rfl | different
          · simpa only [Function.update_self] using (ih.1 other).tail step.performed
          · simpa only [Function.update_of_ne different] using ih.1 other
      | server j step =>
          refine ⟨ih.1, fun other => ?_⟩
          rcases eq_or_ne other j with rfl | different
          · simpa only [Function.update_self] using (ih.2 other).tail step.performed
          · simpa only [Function.update_of_ne different] using ih.2 other

end

/-- The calls of the honest run establish both sides, which then hold their
record keys and have wiped their private keys. -/
theorem handshake_stateMachines_established :
    ∃ client server,
      ClientHandshake.Reach referenceEnvelopes referenceClient client ∧
      client.state = .established ∧ client.WellBehaved referenceEnvelopes 1 1 ∧
      ServerHandshake.Reach referenceEnvelopes referenceServer server ∧
      server.state = .established ∧ server.WellBehaved referenceEnvelopes 1 1 := by
  have serves : Serves referenceSuite (fun _ _ => True) _ _ :=
    referenceLibrary_serves fun _ => trivial
  obtain ⟨last, -, run, clientEstablished, serverEstablished, -⟩ :=
    World.exists_honest_run referenceEnvelopes_lawful serves referenceClient_ready rfl
      (by decide) (by decide) rfl (by decide) (by decide)
  obtain ⟨clients, servers⟩ := run.objects
  obtain ⟨ofClient, ofServer⟩ := handshake_stateMachines referenceEnvelopes 1 1
  exact ⟨_, _, clients (), clientEstablished, ofClient _ _ _ _ (clients ()), servers (),
    serverEstablished, ofServer _ _ _ (servers ())⟩

end YoAuthorize.Protocol
