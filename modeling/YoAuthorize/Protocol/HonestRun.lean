import YoAuthorize.Protocol.HonestExchange
import YoAuthorize.Protocol.RecordLayer

/-!
# An honest run

A world of one client and one server in which every message is delivered as it
was sent.  `World.exists_honest_run` runs the handshake to its end under any
library that serves the calls of this run; both sides are then established with
the keys of one session.  `referenceLibrary` is such a library.
-/

namespace YoAuthorize.Protocol

open Octets Crypto FlatBuffer Schema

def World.pair (client : ClientRun) (server : ServerRun) (sealCalls : List SealCall) :
    World Unit Unit where
  clients _ := client
  servers _ := server
  sealCalls := sealCalls

section

variable {fb : Binding Envelope} {suite : CryptoSuite}

theorem World.pair_client {ssl : OpenSsl} {client next : ClientRun} {made : List SealCall}
    (server : ServerRun) (calls : List SealCall) (step : ClientRun.Step fb ssl client next made) :
    World.Step fb ssl (World.pair client server calls)
      (World.pair next server (calls ++ made)) := by
  have stepped : World.Step fb ssl (World.pair client server calls) _ := .client () step
  rwa [show Function.update (World.pair client server calls).clients () next = fun _ => next from
    funext fun _ => Function.update_self ..] at stepped

theorem World.pair_server {ssl : OpenSsl} {server next : ServerRun} {made : List SealCall}
    (client : ClientRun) (calls : List SealCall) (step : ServerRun.Step fb ssl server next made) :
    World.Step fb ssl (World.pair client server calls)
      (World.pair client next (calls ++ made)) := by
  have stepped : World.Step fb ssl (World.pair client server calls) _ := .server () step
  rwa [show Function.update (World.pair client server calls).servers () next = fun _ => next from
    funext fun _ => Function.update_self ..] at stepped

/-- The library of each world serves the honest exchange: its calls succeed, it
accepts the signature of the server that answered and it opens the one record
that was sealed. -/
structure Serves (suite : CryptoSuite) (assume : World Unit Unit → OpenSsl → Prop)
    (identityPrivateKey : Key) (library : World Unit Unit → OpenSsl) : Prop where
  assumed : ∀ world, assume world (library world)
  honest : ∀ world, (library world).Honest suite
  verifies : ∀ world answer message, (world.servers ()).answer = some answer →
    encodeTranscript (transcriptFor answer.client answer.server) = .ok message →
    (library world).Verifies suite identityPrivateKey message
  opens : ∀ world (writer : RecordWriter) plaintext,
    plaintext.length ≤ kDefaultMaxPayloadSize.toNat - kTagSize →
    world.sealCalls = [writer.sealCall plaintext
      (sealedFrame suite writer.key writer.nextSequence plaintext)] →
    OpensRecord (library world) suite writer.key writer.nextSequence plaintext

/-- The honest exchange reaches a world in which both sides are established
with the same keys and the server has accepted the client's first record. -/
theorem World.exists_honest_run (lawful : fb.Lawful fb envelopeIdentifier Envelope.contentSize)
    {assume : World Unit Unit → OpenSsl → Prop} {library : World Unit Unit → OpenSsl}
    {client : ClientHandshake} {server : ServerHandshake}
    (serves : Serves suite assume server.identityPrivateKey library) (ready : client.Ready)
    (initial : server.state = .initial) (nonempty : server.serviceKeyId ≠ [])
    (short : server.serviceKeyId.length ≤ kMaxKeyIdSize)
    (trusted : client.trustedKeys server.serviceKeyId =
      some (suite.publicKey server.identityPrivateKey))
    (overlap : max server.minVersion client.minVersion ≤
      min server.maxVersion client.maxVersion)
    (version : min server.maxVersion client.maxVersion ≠ 0) :
    ∃ last answer, World.Reaches fb assume
        (World.pair { handshake := client } { handshake := server } []) last ∧
      (last.clients ()).handshake.state = .established ∧
      (last.servers ()).handshake.state = .established ∧
      (last.clients ()).session =
        some { hello := answer.client, accepted := answer.accepted } ∧
      (last.servers ()).answer = some answer ∧
      (∃ secret hash, answer.keys = suite.sessionKeys secret hash) ∧
      (last.clients ()).endpoint.keys = some (clientEndpointKeys answer.keys) ∧
      (last.servers ()).endpoint.keys = some (serverEndpointKeys answer.keys) ∧
      (last.servers ()).endpoint.accepted ≠ [] := by
  -- the client sends its hello
  obtain ⟨nonce, keyPair, hello, isKeyPair, -, encodeHello, start⟩ :=
    ClientHandshake.start_honest fb
      (serves.honest (World.pair { handshake := client } { handshake := server } [])) ready
  let client1 : ClientRun := { handshake := client.sent nonce keyPair, keyPair := some keyPair }
  have sends : ClientRun.Step fb _ { handshake := client } client1 [] := .started start
  have step1 := World.pair_client { handshake := server } [] sends
  -- the server answers it
  have decodeHello : decodeClientHello fb hello = some (.ok (client.sent nonce keyPair).hello) :=
    MessageKind.decode_encode lawful .clientHello encodeHello
  obtain ⟨answer, answered, isHonest⟩ := ServerHandshake.answer_honest
    (serves.honest (World.pair client1 { handshake := server } [])) initial nonempty short
    decodeHello ready.requestId isKeyPair rfl overlap version
  let server1 : ServerRun :=
    { handshake := server.adopt answer
      answer := some answer
      endpoint := { keys := some (serverEndpointKeys answer.keys) } }
  have answers : ServerRun.Step fb _ { handshake := server } server1 [] :=
    .helloAnswered answered (ServerHandshake.handleClientHello_of_answer answered)
  have step2 := World.pair_server client1 [] answers
  -- the client accepts the answer
  have highest := isHighestCommon_min overlap
  have selected : answer.server.selectedVersion = min server.maxVersion client.maxVersion :=
    isHonest.selectedVersion
  rw [← selected] at highest version
  have accept := ClientHandshake.accept_honest lawful
    (serves.honest (World.pair client1 server1 [])) rfl isKeyPair isHonest trusted
    (fun message encode => serves.verifies (World.pair client1 server1 []) answer message rfl
      (by rw [isHonest.client]; exact encode))
    highest.left.1 highest.left.2
  obtain ⟨plaintext, encode, accepted⟩ := ClientHandshake.handleServerHello_honest lawful
    (serves.honest (World.pair client1 server1 [])) accept ready.requestId version
  let client2 : ClientRun :=
    { handshake :=
        { (client.sent nonce keyPair).adopt answer.accepted with
          writer := some { answer.accepted.writer with nextSequence := 2 }
          state := .established }
      keyPair := some keyPair
      session := some { hello := (client.sent nonce keyPair).hello, accepted := answer.accepted }
      endpoint := { keys := some (clientEndpointKeys answer.keys), sealed := [plaintext] } }
  let calls := [answer.accepted.writer.sealCall plaintext
    (sealedFrame suite answer.accepted.writer.key answer.accepted.writer.nextSequence plaintext)]
  have accepts : ClientRun.Step fb _ client1 client2 calls := .helloAccepted accept encode accepted
  have step3 := World.pair_client server1 [] accepts
  -- the server opens the client's `ClientFinished`
  obtain ⟨-, fits⟩ := MessageKind.length_of_encode lawful .clientFinished encode
  have expected : encodeClientFinished fb (server.adopt answer).expected = .ok plaintext := by
    have same : (server.adopt answer).expected =
        (client.sent nonce keyPair).finished answer.accepted := by
      change ClientFinishedMessage.mk answer.client.requestId _ _ = _
      rw [isHonest.client]
      rfl
    rw [same]
    exact encode
  have opens := serves.opens (World.pair client2 server1 calls) answer.accepted.writer plaintext
    (Nat.le_trans fits (by decide)) rfl
  have finished := ServerHandshake.handleClientFinished_honest lawful
    (rfl : (server.adopt answer).state = .awaitingFinished) rfl firstSequence_ne_max expected opens
  have opened := answer.reader.open_honest firstSequence_ne_max
    (Nat.le_trans fits (by decide)) opens
  have establishes : ServerRun.Step fb _ server1 _ [] :=
    .finishedAccepted (rfl : _ = some answer.reader) (congrArg Prod.snd opened) finished
  have step4 := World.pair_server client2 calls establishes
  refine ⟨_, answer, ((((Relation.ReflTransGen.refl).tail ⟨_, serves.assumed _, step1⟩).tail
    ⟨_, serves.assumed _, step2⟩).tail ⟨_, serves.assumed _, step3⟩).tail
    ⟨_, serves.assumed _, step4⟩, rfl, rfl, ?_, rfl, ⟨_, _, isHonest.keys⟩, rfl, rfl, ?_⟩
  · rw [isHonest.client]
    rfl
  · exact List.cons_ne_nil _ _

end

/-! ## A library -/

/-- A suite with one key per direction, whose cipher leaves the plaintext. -/
def referenceSuite : CryptoSuite where
  hash _ := .zeros kSha256Size
  dh _ _ := .zeros kKeySize
  hkdf _ _ info size :=
    ⟨List.replicate size (if info = c2sKeyLabel then 1 else 2), List.length_replicate⟩
  IsKeyPair _ := True
  agree _ _ _ _ := rfl
  publicKey _ := .zeros kKeySize
  sign _ _ := .zeros kSignatureSize
  encrypt _ _ plaintext _ := (plaintext, .zeros kTagSize)
  length_encrypt _ _ _ _ := rfl

/-- A public key that differs from the client's. -/
def referencePublicKey (old : Key) : Key :=
  if old = .zeros kKeySize then ⟨List.replicate kKeySize 1, List.length_replicate⟩
  else .zeros kKeySize

theorem referencePublicKey_ne (old : Key) : old ≠ referencePublicKey old := by
  unfold referencePublicKey
  split
  · rename_i zero
    rw [zero]
    decide
  · assumption

/-- The library of `referenceSuite` in a world: it verifies what the server
signed and opens what was sealed. -/
def referenceLibrary (world : World Unit Unit) : OpenSsl where
  randPrivBytes size := some (.zeros size)
  digestSha256 message := some (referenceSuite.hash message)
  digestSignEd25519 key message := some (referenceSuite.sign key message)
  digestVerifyEd25519 _ message _ :=
    match (world.servers ()).answer with
    | none => .error .invalidSignature
    | some answer =>
        match encodeTranscript (transcriptFor answer.client answer.server) with
        | .error error => .error error
        | .ok encoded => if encoded = message then .ok () else .error .invalidSignature
  keygenX25519 :=
    match (world.clients ()).keyPair with
    | none => some {}
    | some old => some { publicKey := referencePublicKey old.publicKey }
  pkeyDeriveX25519 privateKey publicKey := .ok (referenceSuite.dh privateKey publicKey)
  kdfDeriveHkdf key salt info size := some (referenceSuite.hkdf key salt info size)
  encryptChaCha20Poly1305 key nonce plaintext aad :=
    some (referenceSuite.encrypt key nonce plaintext aad)
  decryptChaCha20Poly1305 key nonce ciphertext tag aad :=
    (world.sealCalls.find? fun call => call.key = key ∧ call.nonce = nonce ∧ call.aad = aad ∧
      call.ciphertext = ciphertext ++ tag.val).map SealCall.plaintext

section

variable (world : World Unit Unit)

theorem referenceLibrary_honest : (referenceLibrary world).Honest referenceSuite where
  random size _ := ⟨_, rfl⟩
  hash message := rfl
  keyPair := by
    cases present : (world.clients ()).keyPair with
    | none => exact ⟨{}, by simp only [referenceLibrary, present], trivial⟩
    | some old =>
        exact ⟨{ publicKey := referencePublicKey old.publicKey },
          by simp only [referenceLibrary, present], trivial⟩
  dh left right _ _ := rfl
  hkdf key salt info size _ _ _ := rfl
  sign key message := rfl
  encrypt key nonce plaintext aad _ _ := rfl

theorem referenceLibrary_ideal : IdealAead (referenceLibrary world) world.sealCalls := by
  intro key nonce ciphertext aad plaintext opened
  unfold openChaCha20Poly1305 at opened
  split at opened
  · cases opened
  rename_i long
  split at opened
  · cases opened
  simp only at opened
  split at opened
  · cases opened
  rename_i found decrypted
  cases opened
  obtain ⟨call, lookup, content⟩ := Option.map_eq_some_iff.mp decrypted
  have mem := List.mem_of_find?_eq_some lookup
  have matched := List.find?_some lookup
  simp only [decide_eq_true_eq] at matched
  obtain ⟨sameKey, sameNonce, sameAad, sameCiphertext⟩ := matched
  have whole : ciphertext.take (ciphertext.length - kTagSize) ++ (lastTag ciphertext long).val =
      ciphertext := List.take_append_drop _ _
  rw [whole] at sameCiphertext
  subst sameKey sameNonce sameAad sameCiphertext content
  exact mem

theorem referenceLibrary_verifies (identityPrivateKey : Key) {answer : ServerHandshake.Answer}
    {message : Bytes} (answered : (world.servers ()).answer = some answer)
    (encode : encodeTranscript (transcriptFor answer.client answer.server) = .ok message) :
    (referenceLibrary world).Verifies referenceSuite identityPrivateKey message := by
  simp only [OpenSsl.Verifies, referenceLibrary, answered, encode, if_true]

theorem referenceLibrary_opens (writer : RecordWriter) {plaintext : Bytes}
    (short : plaintext.length ≤ kDefaultMaxPayloadSize.toNat - kTagSize)
    (logged : world.sealCalls = [writer.sealCall plaintext
      (sealedFrame referenceSuite writer.key writer.nextSequence plaintext)]) :
    OpensRecord (referenceLibrary world) referenceSuite writer.key writer.nextSequence
      plaintext := by
  have header := (encodeHeader (recordHeader writer.nextSequence plaintext)).2
  have aad : (sealedFrame referenceSuite writer.key writer.nextSequence plaintext).take
      kFrameHeaderSize = (encodeHeader (recordHeader writer.nextSequence plaintext)).val :=
    List.take_left' header
  have ciphertext : (sealedFrame referenceSuite writer.key writer.nextSequence plaintext).drop
      kFrameHeaderSize = plaintext ++ (FixedBytes.zeros kTagSize).val :=
    List.drop_left' header
  refine openChaCha20Poly1305_append (Nat.le_trans short (by decide)) ?_ ?_
  · rw [header]
    decide
  · simp only [referenceLibrary, logged, RecordWriter.sealCall, aad, ciphertext, List.find?_cons]
    simp [referenceSuite]

end

/-- A client that trusts the reference service. -/
def referenceClient : ClientHandshake where
  trustedKeys _ := some (.zeros kKeySize)
  sdkVersion := ofAscii "1.0"
  requestId := 1

def referenceServer : ServerHandshake where
  serviceKeyId := ofAscii "service"
  identityPrivateKey := .zeros kKeySize

theorem referenceClient_ready : referenceClient.Ready :=
  ⟨rfl, by decide, by decide, by decide, by decide, by decide⟩

theorem referenceLibrary_serves {assume : World Unit Unit → OpenSsl → Prop}
    (assumed : ∀ world, assume world (referenceLibrary world)) :
    Serves referenceSuite assume referenceServer.identityPrivateKey referenceLibrary where
  assumed := assumed
  honest := referenceLibrary_honest
  verifies world _ _ := referenceLibrary_verifies world _
  opens world writer _ := referenceLibrary_opens world writer

theorem referenceWorld_fresh : (World.pair { handshake := referenceClient }
    { handshake := referenceServer } []).Fresh :=
  ⟨fun _ => ⟨_, _, _, _, _, rfl⟩, fun _ => ⟨_, _, _, _, rfl⟩, rfl⟩

end YoAuthorize.Protocol
