import YoAuthorize.Protocol.HonestRun

/-!
# Handshake agreement

The adversary of `World` may rewrite, swap, replay or forge any hello.  The
argument needs an `AgreementLibrary` at every call: every library computes the
same functions, X25519 agrees on generated key pairs, and a signature that
verifies under a trusted key was made by an answering server.

The request id stands outside the signed transcript, in the `ClientFinished`.
Only its agreement also needs an `OriginLibrary` (opening a record needs its seal
and generated keys are new), `CollisionFree` and `SeparateKeys`.

`ClientRun.Agreed` and `ServerRun.Agreed` say what an object's state means in
terms of its session; `World.Agreed` adds that every accepted session was
answered, and `World.Origins` where records and keys come from.
`handshakeAgreement` is assembled from them.
-/

namespace YoAuthorize.Protocol

open Octets Crypto FlatBuffer Schema

section Computes

variable {ssl : OpenSsl} {exchange : KeyExchange} (computes : ssl.Computes exchange)
include computes

theorem hashTranscript_ok {transcript : HandshakeTranscript} {digest : Sha256Digest}
    (hashed : hashTranscript ssl transcript = .ok digest) :
    ∃ encoded, encodeTranscript transcript = .ok encoded ∧ digest = exchange.hash encoded := by
  unfold hashTranscript sha256 at hashed
  split at hashed
  · cases hashed
  rename_i encoded encode
  split at hashed
  · cases hashed
  rename_i value digested
  cases hashed
  exact ⟨encoded, encode, computes.hash digested⟩

theorem derive_ok {sharedSecret : Key} {transcriptHash : Sha256Digest} {label : Bytes} {size : Nat}
    {output : FixedBytes size}
    (derived : derive ssl sharedSecret transcriptHash label size = .ok output) :
    output = exchange.hkdf sharedSecret.val transcriptHash.val label size := by
  unfold derive hkdfSha256 at derived
  split at derived
  · cases derived
  split at derived
  · cases derived
  rename_i value computed
  cases derived
  exact computes.hkdf computed

theorem exchangeKeys_ok {privateKey peerPublicKey : Key} {transcriptHash : Sha256Digest}
    {keys : SessionKeys}
    (exchanged : exchangeKeys ssl privateKey peerPublicKey transcriptHash = .ok keys) :
    keys = exchange.sessionKeys (exchange.dh privateKey peerPublicKey) transcriptHash := by
  unfold exchangeKeys deriveX25519 at exchanged
  split at exchanged
  · cases exchanged
  rename_i shared agreed
  unfold deriveSessionKeys at exchanged
  split at exchanged
  · rename_i c2sKey s2cKey c2sNonce s2cNonce c2s s2c c2sSalt s2cSalt
    cases exchanged
    rw [derive_ok computes c2s, derive_ok computes s2c, derive_ok computes c2sSalt,
      derive_ok computes s2cSalt, computes.dh agreed]
    rfl
  · cases exchanged

theorem generateX25519KeyPair_ok {pair : KeyPair}
    (generated : generateX25519KeyPair ssl = .ok pair) : exchange.IsKeyPair pair := by
  unfold generateX25519KeyPair at generated
  split at generated
  · cases generated
  rename_i value key
  cases generated
  exact computes.keyPair key

end Computes

/-! ## Clients -/

def ClientSession.transcript (session : ClientSession) : HandshakeTranscript :=
  transcriptFor session.hello session.accepted.server

def ClientSession.finished (session : ClientSession) : ClientFinishedMessage where
  requestId := session.hello.requestId
  protocolVersion := session.accepted.server.selectedVersion
  transcriptHash := session.accepted.transcriptHash

/-- An accepted session: its keys and hash come from the client's key pair and
hello, and its first sealed record is the `ClientFinished`. -/
structure ClientSession.Sound (fb : Binding Envelope) (exchange : KeyExchange)
    (keyPair : Option KeyPair) (endpoint : Endpoint) (session : ClientSession) : Prop where
  exchanged : ∃ pair, keyPair = some pair ∧ exchange.IsKeyPair pair ∧
    session.hello.publicKey = pair.publicKey ∧
    session.accepted.keys = exchange.sessionKeys
      (exchange.dh pair.privateKey session.accepted.server.publicKey)
      session.accepted.transcriptHash
  hashed : ∃ encoded, encodeTranscript session.transcript = .ok encoded ∧
    session.accepted.transcriptHash = exchange.hash encoded
  keyed : endpoint.keys = some (clientEndpointKeys session.accepted.keys)
  finished : ∃ plaintext, encodeClientFinished fb session.finished = .ok plaintext ∧
    endpoint.sealed[0]? = some plaintext

/-- The object still holds what the session set. -/
structure ClientSession.HeldBy (client : ClientHandshake) (session : ClientSession) : Prop where
  hello : client.hello = session.hello
  selectedVersion : client.selectedVersion = session.accepted.server.selectedVersion
  writer : client.writer.map RecordWriter.key =
    some (recordKey session.accepted.keys.clientToService)
  reader : client.reader.map RecordReader.key =
    some (recordKey session.accepted.keys.serviceToClient)

structure ClientRun.Agreed (fb : Binding Envelope) (exchange : KeyExchange) (run : ClientRun) :
    Prop where
  early : run.handshake.state = .initial ∨ run.handshake.state = .helloSent → run.session = none
  sent : run.handshake.state = .helloSent → run.keyPair = some run.handshake.ephemeral ∧
    exchange.IsKeyPair run.handshake.ephemeral
  session : ∀ session, run.session = some session →
    session.Sound fb exchange run.keyPair run.endpoint
  keyed : ∀ keys, run.endpoint.keys = some keys → ∃ session, run.session = some session
  established : run.handshake.state = .established →
    ∃ session, run.session = some session ∧ session.HeldBy run.handshake

section Calls

variable {fb : Binding Envelope} {ssl : OpenSsl} {exchange : KeyExchange} {made : List SealCall}

theorem ClientSession.Sound.sealed {keyPair : Option KeyPair} {endpoint : Endpoint}
    {session : ClientSession} (sound : session.Sound fb exchange keyPair endpoint)
    (more : List Bytes) :
    session.Sound fb exchange keyPair { endpoint with sealed := endpoint.sealed ++ more } where
  exchanged := sound.exchanged
  hashed := sound.hashed
  keyed := sound.keyed
  finished := by
    obtain ⟨plaintext, encode, first⟩ := sound.finished
    obtain ⟨inside, -⟩ := List.getElem?_eq_some_iff.mp first
    exact ⟨plaintext, encode, (List.getElem?_append_left inside).trans first⟩

theorem ClientSession.Sound.opened {keyPair : Option KeyPair} {endpoint : Endpoint}
    {session : ClientSession} (sound : session.Sound fb exchange keyPair endpoint)
    (accepted : List Bytes) :
    session.Sound fb exchange keyPair { endpoint with accepted := accepted } :=
  ⟨sound.exchanged, sound.hashed, sound.keyed, sound.finished⟩

/-- The session a client accepts is sound. -/
theorem ClientRun.sound_of_accept {run : ClientRun} (computes : ssl.Computes exchange)
    (agreed : run.Agreed fb exchange) {message plaintext : Bytes}
    {accepted : ClientHandshake.Accepted}
    (accept : run.handshake.acceptServerHello fb ssl message = some (.ok accepted))
    (encode : encodeClientFinished fb (run.handshake.finished accepted) = .ok plaintext) :
    ClientSession.Sound fb exchange run.keyPair
      { keys := some (clientEndpointKeys accepted.keys), sealed := [plaintext] }
      { hello := run.handshake.hello, accepted } := by
  obtain ⟨sent, -, accepts⟩ := ClientHandshake.accepts_of_accept accept
  obtain ⟨keyPair, isKeyPair⟩ := agreed.sent sent
  exact ⟨⟨_, keyPair, isKeyPair, rfl, exchangeKeys_ok computes accepts.exchanged⟩,
    hashTranscript_ok computes accepts.hashed, rfl, plaintext, encode, rfl⟩

theorem ClientRun.agreed_of_step {run next : ClientRun} (computes : ssl.Computes exchange)
    (agreed : run.Agreed fb exchange) (step : ClientRun.Step fb ssl run next made) :
    next.Agreed fb exchange := by
  cases step.effect with
  | failed before =>
      refine ⟨?_, ?_, agreed.session, agreed.keyed, ?_⟩
      · rintro (early | early) <;> cases early
      · intro sent
        cases sent
      · intro established
        cases established
  | unchanged => exact agreed
  | started initial generated =>
      have fresh := agreed.early (.inl initial)
      have isKeyPair := generateX25519KeyPair_ok computes generated
      refine ⟨fun _ => fresh, fun _ => ⟨rfl, isKeyPair⟩, ?_, agreed.keyed, ?_⟩
      · intro session present
        rw [fresh] at present
        cases present
      · intro established
        cases established
  | helloAccepted accept encode sealed =>
      have sound := ClientRun.sound_of_accept computes agreed accept encode
      refine ⟨?_, ?_, ?_, fun _ _ => ⟨_, rfl⟩, fun _ => ⟨_, rfl, rfl, rfl, rfl, rfl⟩⟩
      · rintro (early | early) <;> cases early
      · intro sent
        cases sent
      · intro session present
        cases present
        exact sound
  | sealed established current sealed =>
      refine ⟨agreed.early, agreed.sent, ?_, agreed.keyed, ?_⟩
      · intro session present
        exact (agreed.session session present).sealed _
      · intro _
        obtain ⟨session, present, held⟩ := agreed.established established
        refine ⟨session, present, held.hello, held.selectedVersion, ?_, held.reader⟩
        rw [← held.writer, current]
        rfl
  | opened established current opened =>
      refine ⟨agreed.early, agreed.sent, ?_, agreed.keyed, ?_⟩
      · intro session present
        exact (agreed.session session present).opened _
      · intro _
        obtain ⟨session, present, held⟩ := agreed.established established
        refine ⟨session, present, held.hello, held.selectedVersion, held.writer, ?_⟩
        rw [← held.reader, current]
        rfl

/-- A client's session and key pair are set by one call each. -/
theorem ClientRun.session_of_step {run next : ClientRun}
    (step : ClientRun.Step fb ssl run next made) :
    (next.session = run.session ∨ ∃ message accepted,
        run.handshake.acceptServerHello fb ssl message = some (.ok accepted) ∧
        next.session = some { hello := run.handshake.hello, accepted }) ∧
      (next.keyPair = run.keyPair ∨ ∃ pair,
        ssl.keygenX25519 = some pair ∧ next.keyPair = some pair) := by
  cases step.effect with
  | failed | unchanged | sealed | opened => exact ⟨.inl rfl, .inl rfl⟩
  | started initial generated =>
      refine ⟨.inl rfl, .inr ⟨_, ?_, rfl⟩⟩
      unfold generateX25519KeyPair at generated
      split at generated
      · cases generated
      · cases generated
        assumption
  | helloAccepted accept encode sealed => exact ⟨.inr ⟨_, _, accept, rfl⟩, .inl rfl⟩

end Calls

/-! ## Servers -/

def ServerHandshake.Answer.transcript (answer : ServerHandshake.Answer) : HandshakeTranscript :=
  transcriptFor answer.client answer.server

/-- An answer: its keys and hash come from the server's key pair, and its
version is the highest one of both ranges. -/
structure ServerHandshake.Answer.Sound (exchange : KeyExchange) (server : ServerHandshake)
    (endpoint : Endpoint) (answer : ServerHandshake.Answer) : Prop where
  isKeyPair : exchange.IsKeyPair answer.ephemeral
  publicKey : answer.server.publicKey = answer.ephemeral.publicKey
  exchanged : answer.keys = exchange.sessionKeys
    (exchange.dh answer.ephemeral.privateKey answer.client.publicKey) answer.transcriptHash
  hashed : ∃ encoded, encodeTranscript answer.transcript = .ok encoded ∧
    answer.transcriptHash = exchange.hash encoded
  overlap : max server.minVersion answer.client.minVersion ≤
    min server.maxVersion answer.client.maxVersion
  selectedVersion : answer.server.selectedVersion =
    min server.maxVersion answer.client.maxVersion
  keyed : endpoint.keys = some (serverEndpointKeys answer.keys)

/-- The object still holds what the answer set. -/
structure ServerHandshake.Answer.HeldBy (server : ServerHandshake)
    (answer : ServerHandshake.Answer) : Prop where
  requestId : server.requestId = answer.client.requestId
  selectedVersion : server.selectedVersion = answer.server.selectedVersion
  transcriptHash : server.transcriptHash = answer.transcriptHash
  writer : server.writer.map RecordWriter.key = some (recordKey answer.keys.serviceToClient)
  reader : server.reader.map RecordReader.key = some (recordKey answer.keys.clientToService)

structure ServerRun.Agreed (fb : Binding Envelope) (exchange : KeyExchange) (run : ServerRun) :
    Prop where
  early : run.handshake.state = .initial → run.answer = none
  answer : ∀ answer, run.answer = some answer →
    answer.Sound exchange run.handshake run.endpoint
  keyed : ∀ keys, run.endpoint.keys = some keys → ∃ answer, run.answer = some answer
  live : run.handshake.state = .awaitingFinished ∨ run.handshake.state = .established →
    ∃ answer, run.answer = some answer ∧ answer.HeldBy run.handshake
  awaiting : run.handshake.state = .awaitingFinished → run.endpoint.accepted = []
  finished : run.handshake.state = .established → ∃ plaintext,
    run.endpoint.accepted[0]? = some plaintext ∧
    decodeClientFinished fb plaintext = some (.ok run.handshake.expected)

section Calls

variable {fb : Binding Envelope} {ssl : OpenSsl} {exchange : KeyExchange} {made : List SealCall}

theorem ServerRun.sound_of_answer {run : ServerRun} (computes : ssl.Computes exchange)
    {message : Bytes} {answer : ServerHandshake.Answer}
    (answered : run.handshake.answerClientHello fb ssl message = some (.ok answer)) :
    answer.Sound exchange (run.handshake.adopt answer)
      { keys := some (serverEndpointKeys answer.keys) } := by
  obtain ⟨-, -, answers⟩ := ServerHandshake.answers_of_answer answered
  exact ⟨generateX25519KeyPair_ok computes answers.generated, answers.publicKey,
    exchangeKeys_ok computes answers.exchanged, hashTranscript_ok computes answers.hashed,
    answers.overlap, answers.selectedVersion, rfl⟩

theorem ServerRun.agreed_of_step {run next : ServerRun} (computes : ssl.Computes exchange)
    (agreed : run.Agreed fb exchange) (step : ServerRun.Step fb ssl run next made) :
    next.Agreed fb exchange := by
  cases step.effect with
  | failed =>
      refine ⟨?_, ?_, agreed.keyed, ?_, ?_, ?_⟩
      · intro early
        cases early
      · intro answer present
        obtain ⟨isKeyPair, publicKey, exchanged, hashed, overlap, selected, keyed⟩ :=
          agreed.answer answer present
        exact ⟨isKeyPair, publicKey, exchanged, hashed, overlap, selected, keyed⟩
      · rintro (live | live) <;> cases live
      · intro awaiting
        cases awaiting
      · intro established
        cases established
  | unchanged => exact agreed
  | helloAnswered answered =>
      have sound := ServerRun.sound_of_answer computes answered
      refine ⟨?_, ?_, fun _ _ => ⟨_, rfl⟩, fun _ => ⟨_, rfl, rfl, rfl, rfl, rfl, rfl⟩,
        fun _ => rfl, ?_⟩
      · intro early
        cases early
      · intro answer present
        cases present
        exact sound
      · intro established
        cases established
  | finishedAccepted awaiting current opened decoded =>
      refine ⟨?_, ?_, agreed.keyed, ?_, ?_, ?_⟩
      · intro early
        cases early
      · intro answer present
        obtain ⟨isKeyPair, publicKey, exchanged, hashed, overlap, selected, keyed⟩ :=
          agreed.answer answer present
        exact ⟨isKeyPair, publicKey, exchanged, hashed, overlap, selected, keyed⟩
      · intro _
        obtain ⟨answer, present, held⟩ := agreed.live (.inl awaiting)
        refine ⟨answer, present, held.requestId, held.selectedVersion, held.transcriptHash,
          held.writer, ?_⟩
        rw [← held.reader, current]
        rfl
      · intro awaiting
        cases awaiting
      · intro _
        refine ⟨_, ?_, decoded⟩
        rw [agreed.awaiting awaiting]
        rfl
  | sealed established current sealed =>
      refine ⟨agreed.early, ?_, agreed.keyed, ?_, agreed.awaiting, agreed.finished⟩
      · intro answer present
        obtain ⟨isKeyPair, publicKey, exchanged, hashed, overlap, selected, keyed⟩ :=
          agreed.answer answer present
        exact ⟨isKeyPair, publicKey, exchanged, hashed, overlap, selected, keyed⟩
      · intro live
        obtain ⟨answer, present, held⟩ := agreed.live live
        refine ⟨answer, present, held.requestId, held.selectedVersion, held.transcriptHash, ?_,
          held.reader⟩
        rw [← held.writer, current]
        rfl
  | opened established current opened =>
      refine ⟨agreed.early, ?_, agreed.keyed, ?_, ?_, ?_⟩
      · intro answer present
        obtain ⟨isKeyPair, publicKey, exchanged, hashed, overlap, selected, keyed⟩ :=
          agreed.answer answer present
        exact ⟨isKeyPair, publicKey, exchanged, hashed, overlap, selected, keyed⟩
      · intro live
        obtain ⟨answer, present, held⟩ := agreed.live live
        refine ⟨answer, present, held.requestId, held.selectedVersion, held.transcriptHash,
          held.writer, ?_⟩
        rw [← held.reader, current]
        rfl
      · intro awaiting
        change run.handshake.state = .awaitingFinished at awaiting
        rw [established] at awaiting
        cases awaiting
      · intro _
        obtain ⟨plaintext, first, decoded⟩ := agreed.finished established
        obtain ⟨inside, -⟩ := List.getElem?_eq_some_iff.mp first
        exact ⟨plaintext, (List.getElem?_append_left inside).trans first, decoded⟩

/-- A server answers one hello only. -/
theorem ServerRun.answer_of_step {run next : ServerRun} {answer : ServerHandshake.Answer}
    (agreed : run.Agreed fb exchange) (step : ServerRun.Step fb ssl run next made)
    (present : run.answer = some answer) : next.answer = some answer := by
  cases step.effect with
  | failed | unchanged | finishedAccepted | sealed | opened => exact present
  | helloAnswered answered =>
      have early := agreed.early (ServerHandshake.answers_of_answer answered).1
      rw [early] at present
      cases present

end Calls

/-! ## The world -/

/-- What a step may assume of its library. -/
structure AgreementLibrary {ι κ : Type} (exchange : KeyExchange) (world : World ι κ)
    (ssl : OpenSsl) : Prop where
  computes : ssl.Computes exchange
  /-- A signature under a trusted key is on a transcript that a server answered with. -/
  unforgeable : ∀ i keyId trustedKey message signature,
    (world.clients i).handshake.trustedKeys keyId = some trustedKey →
    verifyEd25519 ssl trustedKey message signature = .ok () →
    ∃ j answer, (world.servers j).answer = some answer ∧
      encodeTranscript answer.transcript = .ok message

/-- What tells who sealed a record and whose a key pair is. -/
structure OriginLibrary {ι κ : Type} (world : World ι κ) (ssl : OpenSsl) : Prop where
  ideal : IdealAead ssl world.sealCalls
  /-- A generated key is new. -/
  freshKey : ∀ pair, ssl.keygenX25519 = some pair →
    ∀ i old, (world.clients i).keyPair = some old → old.publicKey ≠ pair.publicKey

section World

variable {ι κ : Type}

/-- The transcripts that were hashed in a run do not collide. -/
def CollisionFree (exchange : KeyExchange) (world : World ι κ) : Prop :=
  ∀ i session j answer left right, (world.clients i).session = some session →
    (world.servers j).answer = some answer → encodeTranscript session.transcript = .ok left →
    encodeTranscript answer.transcript = .ok right → exchange.hash left = exchange.hash right →
    left = right

/-- No service-to-client key of a run is a client-to-service key of it. -/
def SeparateKeys (world : World ι κ) : Prop :=
  ∀ j j' answer answer', (world.servers j).answer = some answer →
    (world.servers j').answer = some answer' →
    answer.keys.serviceToClient.key ≠ answer'.keys.clientToService.key

structure World.Agreed (fb : Binding Envelope) (exchange : KeyExchange) (world : World ι κ) :
    Prop where
  clients : ∀ i, (world.clients i).Agreed fb exchange
  servers : ∀ j, (world.servers j).Agreed fb exchange
  answered : ∀ i session, (world.clients i).session = some session →
    ∃ j answer, (world.servers j).answer = some answer ∧
      encodeTranscript answer.transcript = encodeTranscript session.transcript

structure World.Origins (world : World ι κ) : Prop where
  recorded : world.Recorded
  distinct : ∀ i i' pair pair', (world.clients i).keyPair = some pair →
    (world.clients i').keyPair = some pair' → pair.publicKey = pair'.publicKey → i = i'

theorem World.agreed_of_fresh (fb : Binding Envelope) (exchange : KeyExchange)
    {world : World ι κ} (fresh : world.Fresh) : world.Agreed fb exchange where
  clients i := by
    obtain ⟨_, _, _, _, _, created⟩ := fresh.clients i
    rw [created]
    refine ⟨fun _ => rfl, ?_, ?_, ?_, ?_⟩
    · intro sent
      cases sent
    · intro session present
      cases present
    · intro keys keyed
      cases keyed
    · intro established
      cases established
  servers j := by
    obtain ⟨_, _, _, _, created⟩ := fresh.servers j
    rw [created]
    refine ⟨fun _ => rfl, ?_, ?_, ?_, fun _ => rfl, ?_⟩
    · intro answer present
      cases present
    · intro keys keyed
      cases keyed
    · rintro (live | live) <;> cases live
    · intro established
      cases established
  answered i session present := by
    obtain ⟨_, _, _, _, _, created⟩ := fresh.clients i
    rw [created] at present
    cases present

theorem World.origins_of_fresh {world : World ι κ} (fresh : world.Fresh) : world.Origins where
  recorded := World.recorded_of_fresh fresh
  distinct i _ pair _ present _ _ := by
    obtain ⟨_, _, _, _, _, created⟩ := fresh.clients i
    rw [created] at present
    cases present

variable [DecidableEq ι] [DecidableEq κ]

theorem World.agreed_of_step {fb : Binding Envelope} {exchange : KeyExchange} {ssl : OpenSsl}
    {world next : World ι κ} (agreed : world.Agreed fb exchange)
    (library : AgreementLibrary exchange world ssl) (step : World.Step fb ssl world next) :
    next.Agreed fb exchange := by
  cases step with
  | client i step =>
      obtain ⟨session, -⟩ := ClientRun.session_of_step step
      refine ⟨?_, agreed.servers, ?_⟩
      · intro other
        rcases eq_or_ne other i with rfl | different
        · simpa only [Function.update_self] using
            ClientRun.agreed_of_step library.computes (agreed.clients other) step
        · simpa only [Function.update_of_ne different] using agreed.clients other
      · intro other accepted present
        rcases eq_or_ne other i with rfl | different
        · simp only [Function.update_self] at present
          rcases session with same | ⟨message, answer, accept, set⟩
          · exact agreed.answered other accepted (same.symm.trans present)
          · -- a new session: its signature leads to the server that answered
            obtain ⟨-, -, accepts⟩ := ClientHandshake.accepts_of_accept accept
            obtain ⟨trustedKey, encoded, trusted, encode, verified⟩ := accepts.signed
            obtain ⟨j, served, answered, transcript⟩ :=
              library.unforgeable _ _ _ _ _ trusted verified
            rw [set] at present
            cases present
            exact ⟨j, served, answered, transcript.trans encode.symm⟩
        · simp only [Function.update_of_ne different] at present
          exact agreed.answered other accepted present
  | server j step =>
      refine ⟨agreed.clients, ?_, ?_⟩
      · intro other
        rcases eq_or_ne other j with rfl | different
        · simpa only [Function.update_self] using
            ServerRun.agreed_of_step library.computes (agreed.servers other) step
        · simpa only [Function.update_of_ne different] using agreed.servers other
      · intro i session present
        obtain ⟨other, answer, answered, transcript⟩ := agreed.answered i session present
        refine ⟨other, answer, ?_, transcript⟩
        rcases eq_or_ne other j with rfl | different
        · simpa only [Function.update_self] using
            ServerRun.answer_of_step (agreed.servers other) step answered
        · simpa only [Function.update_of_ne different] using answered

theorem World.origins_of_step {fb : Binding Envelope} {ssl : OpenSsl} {world next : World ι κ}
    (origins : world.Origins) (library : OriginLibrary world ssl)
    (step : World.Step fb ssl world next) : next.Origins := by
  have recorded := World.recorded_of_step origins.recorded library.ideal step
  cases step with
  | server j step => exact ⟨recorded, origins.distinct⟩
  | client i step =>
      rename_i run made
      refine ⟨recorded, ?_⟩
      obtain ⟨-, keyPair⟩ := ClientRun.session_of_step step
      -- only the stepping client can have a new key pair, which is fresh
      have old : ∀ other pair, (Function.update world.clients i run other).keyPair = some pair →
          (world.clients other).keyPair = some pair ∨
            other = i ∧ ssl.keygenX25519 = some pair := by
        intro other pair present
        rcases eq_or_ne other i with rfl | different
        · simp only [Function.update_self] at present
          rcases keyPair with same | ⟨generated, drawn, set⟩
          · exact .inl (same.symm.trans present)
          · rw [set] at present
            cases present
            exact .inr ⟨rfl, drawn⟩
        · simp only [Function.update_of_ne different] at present
          exact .inl present
      intro left right pair pair' leftPair rightPair same
      rcases old left pair leftPair with leftOld | ⟨rfl, leftNew⟩
      · rcases old right pair' rightPair with rightOld | ⟨rfl, rightNew⟩
        · exact origins.distinct left right pair pair' leftOld rightOld same
        · exact absurd same (library.freshKey pair' rightNew left pair leftOld)
      · rcases old right pair' rightPair with rightOld | ⟨rfl, rightNew⟩
        · exact absurd same.symm (library.freshKey pair leftNew right pair' rightOld)
        · rfl

theorem World.agreed_of_reaches {fb : Binding Envelope} {exchange : KeyExchange}
    {first last : World ι κ} (fresh : first.Fresh)
    (run : World.Reaches fb (AgreementLibrary exchange) first last) : last.Agreed fb exchange :=
  run.invariant (World.agreed_of_fresh fb exchange fresh) World.agreed_of_step

theorem World.origins_of_reaches {fb : Binding Envelope} {first last : World ι κ}
    (fresh : first.Fresh) (run : World.Reaches fb OriginLibrary first last) : last.Origins :=
  run.invariant (World.origins_of_fresh fresh) World.origins_of_step

end World

/-! ## Agreement -/

/-- A client and a server share a session. -/
structure Matching (client : ClientHandshake) (server : ServerHandshake) (session : ClientSession)
    (answer : ServerHandshake.Answer) : Prop where
  minVersion : answer.client.minVersion = client.minVersion
  maxVersion : answer.client.maxVersion = client.maxVersion
  nonce : answer.client.nonce = client.nonce
  publicKey : answer.client.publicKey = client.ephemeral.publicKey
  selectedVersion : answer.server.selectedVersion = client.selectedVersion
  transcriptHash : answer.transcriptHash = session.accepted.transcriptHash
  keys : answer.keys = session.accepted.keys
  clientHolds : session.HeldBy client
  serverHolds : server.state = .awaitingFinished ∨ server.state = .established →
    server.selectedVersion = client.selectedVersion ∧
    server.transcriptHash = session.accepted.transcriptHash ∧
    server.reader.map RecordReader.key = client.writer.map RecordWriter.key ∧
    server.writer.map RecordWriter.key = client.reader.map RecordReader.key
  highest : IsHighestCommon client.minVersion client.maxVersion server.minVersion
    server.maxVersion client.selectedVersion

section Agreement

variable {fb : Binding Envelope} {exchange : KeyExchange}

/-- Two sides with one transcript derive the same hash and keys. -/
theorem keys_of_transcript {keyPair : Option KeyPair} {clientEnd serverEnd : Endpoint}
    {server : ServerHandshake} {session : ClientSession} {answer : ServerHandshake.Answer}
    (client : session.Sound fb exchange keyPair clientEnd)
    (answered : answer.Sound exchange server serverEnd)
    (same : answer.transcript = session.transcript) :
    answer.transcriptHash = session.accepted.transcriptHash ∧
      answer.keys = session.accepted.keys := by
  obtain ⟨encoded, encode, hash⟩ := client.hashed
  obtain ⟨encoded', encode', hash'⟩ := answered.hashed
  rw [same, encode] at encode'
  cases encode'
  obtain ⟨pair, -, isKeyPair, publicKey, keys⟩ := client.exchanged
  have clientKey : answer.client.publicKey = pair.publicKey := by
    rw [← publicKey]
    exact congrArg HandshakeTranscript.clientPublicKey same
  have serverKey : session.accepted.server.publicKey = answer.ephemeral.publicKey := by
    rw [← answered.publicKey]
    exact (congrArg HandshakeTranscript.serverPublicKey same).symm
  have sameHash : answer.transcriptHash = session.accepted.transcriptHash := hash'.trans hash.symm
  refine ⟨sameHash, ?_⟩
  rw [answered.exchanged, keys, sameHash, clientKey, serverKey,
    exchange.agree pair answer.ephemeral isKeyPair answered.isKeyPair]

theorem transcript_of_encode {session : ClientSession} {answer : ServerHandshake.Answer}
    {encoded : Bytes} (client : encodeTranscript session.transcript = .ok encoded)
    (server : encodeTranscript answer.transcript = .ok encoded) :
    answer.transcript = session.transcript :=
  encodeTranscript_inj server client

variable {ι κ : Type} {world : World ι κ}

/-- The `ClientFinished` that established a server was sealed by the client of
the same transcript, so it carries that client's request id. -/
theorem World.Agreed.requestId (lawful : fb.Lawful fb envelopeIdentifier Envelope.contentSize)
    (agreed : world.Agreed fb exchange) (origins : world.Origins)
    (collisionFree : CollisionFree exchange world) (separate : SeparateKeys world) {i : ι} {j : κ}
    {session : ClientSession}
    {answer : ServerHandshake.Answer} (accepted : (world.clients i).session = some session)
    (answered : (world.servers j).answer = some answer)
    (same : answer.transcript = session.transcript)
    (established : (world.servers j).handshake.state = .established) :
    (world.servers j).handshake.requestId = session.hello.requestId := by
  have answerSound := (agreed.servers j).answer answer answered
  obtain ⟨held, present, holds⟩ := (agreed.servers j).live (.inr established)
  rw [answered] at present
  cases present
  obtain ⟨plaintext, first, decoded⟩ := (agreed.servers j).finished established
  obtain ⟨call, logged, ⟨keys, keyed, key, nonce, small⟩, content⟩ :=
    (origins.recorded.servers j).sound.accepted 0 plaintext first
  rw [answerSound.keyed] at keyed
  cases keyed
  rcases origins.recorded.origin call logged with
    ⟨i', clientKeys, index, clientKeyed, -, clientNonce, clientSmall, sealed⟩ |
      ⟨j', serverKeys, index, serverKeyed, serverKey, -⟩
  · -- sealed by a client: at sequence number 1, where every client seals its `ClientFinished`
    have position := sequenceOf_inj small clientSmall
      (makeRecordNonce_inj (nonce.symm.trans clientNonce)).2
    subst position
    obtain ⟨session', accepted'⟩ := (agreed.clients i').keyed clientKeys clientKeyed
    have sound' := (agreed.clients i').session session' accepted'
    obtain ⟨finished, encode, sealedFirst⟩ := sound'.finished
    have sameBytes : finished = plaintext := by
      rw [sealed, content] at sealedFirst
      exact (Option.some.inj sealedFirst).symm
    subst sameBytes
    have roundTrip : decodeClientFinished fb finished = some (.ok session'.finished) :=
      MessageKind.decode_encode lawful .clientFinished encode
    rw [roundTrip] at decoded
    have expected : session'.finished = (world.servers j).handshake.expected :=
      Except.ok.inj (Option.some.inj decoded)
    -- its transcript hash is the server's, so its transcript is the session's
    obtain ⟨left, leftEncode, leftHash⟩ := sound'.hashed
    obtain ⟨right, rightEncode, rightHash⟩ := answerSound.hashed
    have hashes : exchange.hash left = exchange.hash right := by
      rw [← leftHash, ← rightHash, ← holds.transcriptHash]
      exact congrArg ClientFinishedMessage.transcriptHash expected
    have encodings := collisionFree i' session' j answer left right accepted' answered leftEncode
      rightEncode hashes
    subst encodings
    have sameTranscript := transcript_of_encode leftEncode rightEncode
    -- and its key pair is the client's own, which no other client has
    obtain ⟨pair, paired, -, publicKey, -⟩ := sound'.exchanged
    obtain ⟨own, ownPaired, -, ownPublicKey, -⟩ :=
      ((agreed.clients i).session session accepted).exchanged
    have samePublicKey : pair.publicKey = own.publicKey := by
      rw [← publicKey, ← ownPublicKey]
      exact congrArg HandshakeTranscript.clientPublicKey (sameTranscript.symm.trans same)
    have sameClient := origins.distinct i' i pair own paired ownPaired samePublicKey
    subst sameClient
    rw [accepted] at accepted'
    cases accepted'
    exact (congrArg ClientFinishedMessage.requestId expected).symm
  · -- sealed by a server: its write key is not a read key
    obtain ⟨answer', answered'⟩ := (agreed.servers j').keyed serverKeys serverKeyed
    have sound' := (agreed.servers j').answer answer' answered'
    rw [sound'.keyed] at serverKeyed
    cases serverKeyed
    exact absurd (serverKey.symm.trans key) (separate j' j answer' answer answered' answered)

variable [DecidableEq ι] [DecidableEq κ]

/-- Agreement and downgrade resistance: an established client shares its
session with a server that answered exactly its hello.  If that server is
established too, it also holds the client's request id. -/
theorem handshakeAgreement (lawful : fb.Lawful fb envelopeIdentifier Envelope.contentSize)
    {first last : World ι κ} (fresh : first.Fresh)
    (run : World.Reaches fb (AgreementLibrary exchange) first last) (i : ι)
    (established : (last.clients i).handshake.state = .established) :
    ∃ j session answer, (last.clients i).session = some session ∧
      (last.servers j).answer = some answer ∧
      Matching (last.clients i).handshake (last.servers j).handshake session answer ∧
      (World.Reaches fb OriginLibrary first last → CollisionFree exchange last →
        SeparateKeys last → (last.servers j).handshake.state = .established →
        (last.servers j).handshake.requestId = (last.clients i).handshake.requestId) := by
  have agreed := World.agreed_of_reaches fresh run
  obtain ⟨session, accepted, held⟩ := (agreed.clients i).established established
  have sound := (agreed.clients i).session session accepted
  obtain ⟨j, answer, answered, encodings⟩ := agreed.answered i session accepted
  have answerSound := (agreed.servers j).answer answer answered
  obtain ⟨encoded, encode, -⟩ := sound.hashed
  have same := transcript_of_encode encode (encodings.trans encode)
  obtain ⟨sameHash, sameKeys⟩ := keys_of_transcript sound answerSound same
  have minVersion : answer.client.minVersion = (last.clients i).handshake.minVersion :=
    (congrArg HandshakeTranscript.minVersion same).trans
      (congrArg ClientHelloMessage.minVersion held.hello).symm
  have maxVersion : answer.client.maxVersion = (last.clients i).handshake.maxVersion :=
    (congrArg HandshakeTranscript.maxVersion same).trans
      (congrArg ClientHelloMessage.maxVersion held.hello).symm
  have selectedVersion :
      answer.server.selectedVersion = (last.clients i).handshake.selectedVersion :=
    (congrArg HandshakeTranscript.selectedVersion same).trans held.selectedVersion.symm
  refine ⟨j, session, answer, accepted, answered, ?_, ?_⟩
  refine
    { minVersion := minVersion
      maxVersion := maxVersion
      nonce := (congrArg HandshakeTranscript.clientNonce same).trans
        (congrArg ClientHelloMessage.nonce held.hello).symm
      publicKey := (congrArg HandshakeTranscript.clientPublicKey same).trans
        (congrArg ClientHelloMessage.publicKey held.hello).symm
      selectedVersion := selectedVersion
      transcriptHash := sameHash
      keys := sameKeys
      clientHolds := held
      serverHolds := ?_
      highest := ?_ }
  · intro live
    obtain ⟨current, present, holds⟩ := (agreed.servers j).live live
    rw [answered] at present
    cases present
    refine ⟨holds.selectedVersion.trans selectedVersion,
      holds.transcriptHash.trans sameHash, ?_, ?_⟩
    · rw [holds.reader, held.writer, sameKeys]
    · rw [holds.writer, held.reader, sameKeys]
  · have highest := isHighestCommon_min answerSound.overlap
    rwa [← answerSound.selectedVersion, selectedVersion, minVersion, maxVersion] at highest
  · intro origin collisionFree separate finished
    have requestId := agreed.requestId lawful (World.origins_of_reaches fresh origin)
      collisionFree separate accepted answered same finished
    exact requestId.trans (congrArg ClientHelloMessage.requestId held.hello).symm

end Agreement

/-! ## The reference library -/

theorem referenceLibrary_computes (world : World Unit Unit) :
    (referenceLibrary world).Computes referenceSuite.toKeyExchange where
  hash digested := (Option.some.inj digested).symm
  dh derived := (Except.ok.inj derived).symm
  hkdf derived := (Option.some.inj derived).symm
  keyPair _ := trivial

theorem referenceLibrary_agreement (world : World Unit Unit) :
    AgreementLibrary referenceSuite.toKeyExchange world (referenceLibrary world) where
  computes := referenceLibrary_computes world
  unforgeable i keyId trustedKey message signature _ verified := by
    simp only [verifyEd25519, referenceLibrary] at verified
    split at verified
    · cases verified
    rename_i answer answered
    split at verified
    · cases verified
    rename_i encoded encode
    split at verified
    · rename_i same
      subst same
      exact ⟨(), answer, answered, encode⟩
    · cases verified

theorem referenceLibrary_origin (world : World Unit Unit) :
    OriginLibrary world (referenceLibrary world) where
  ideal := referenceLibrary_ideal world
  freshKey pair generated i old present := by
    simp only [referenceLibrary] at generated
    rw [show (world.clients ()).keyPair = some old from present] at generated
    cases generated
    exact referencePublicKey_ne old.publicKey

/-- Both sides of the honest run share one session and one request id. -/
theorem handshakeAgreement_honest_run :
    ∃ (last : World Unit Unit) (session : ClientSession) (answer : ServerHandshake.Answer),
      (last.clients ()).handshake.state = .established ∧
      (last.servers ()).handshake.state = .established ∧
      Matching (last.clients ()).handshake (last.servers ()).handshake session answer ∧
      (last.servers ()).handshake.requestId = (last.clients ()).handshake.requestId := by
  have serves : Serves referenceSuite (fun world ssl =>
      AgreementLibrary referenceSuite.toKeyExchange world ssl ∧ OriginLibrary world ssl) _ _ :=
    referenceLibrary_serves fun world =>
      ⟨referenceLibrary_agreement world, referenceLibrary_origin world⟩
  obtain ⟨last, answer, run, clientEstablished, serverEstablished, accepted, answered,
      ⟨secret, hash, keys⟩, -, -, -⟩ :=
    World.exists_honest_run referenceEnvelopes_lawful serves referenceClient_ready rfl
      (by decide) (by decide) rfl (by decide) (by decide)
  have collisionFree : CollisionFree referenceSuite.toKeyExchange last := by
    intro _ session _ served left right present served' leftEncode rightEncode _
    cases accepted.symm.trans present
    cases answered.symm.trans served'
    exact Except.ok.inj (leftEncode.symm.trans rightEncode)
  have separate : SeparateKeys last := by
    intro _ _ left right leftServed rightServed
    cases answered.symm.trans leftServed
    cases answered.symm.trans rightServed
    rw [keys]
    change referenceSuite.hkdf [] [] s2cKeyLabel kKeySize ≠
      referenceSuite.hkdf [] [] c2sKeyLabel kKeySize
    decide
  have agreement := run.mono fun _ _ assumed => assumed.left
  have origin := run.mono fun _ _ assumed => assumed.right
  obtain ⟨_, session, served, -, -, matching, identified⟩ := handshakeAgreement
    referenceEnvelopes_lawful referenceWorld_fresh agreement () clientEstablished
  exact ⟨last, session, served, clientEstablished, serverEstablished, matching,
    identified origin collisionFree separate serverEstablished⟩

end YoAuthorize.Protocol
