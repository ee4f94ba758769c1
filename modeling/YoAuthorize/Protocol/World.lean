import YoAuthorize.Protocol.Handshake
import Mathlib.Logic.Function.Basic
import Mathlib.Logic.Relation

/-!
# Runs of many clients and servers

A `World` holds any number of client and server handshake objects, which an
adversary drives: it chooses the next call, its arguments (any message, any
frame) and the library the call runs against.  Beside each object stands a
record of its past that the program itself does not keep: the keys it adopted,
the plaintexts it sealed and accepted, and what it knew of the hello it
accepted or answered.  `sealCalls` lists the AEAD seals of all of them.

`World.Reaches assume` is a run in which the library of every step satisfies
`assume` in the world before the step.
-/

namespace YoAuthorize.Protocol

open Octets Crypto FlatBuffer Schema

/-! ## Records of the past -/

/-- One successful `sealChaCha20Poly1305`. -/
structure SealCall : Type where
  key : Key
  nonce : Nonce
  aad : Bytes
  plaintext : Bytes
  ciphertext : Bytes
  deriving DecidableEq

/-- The library call behind a frame that `seal` returned. -/
def RecordWriter.sealCall (writer : RecordWriter) (plaintext frame : Bytes) : SealCall where
  key := writer.key.key
  nonce := makeRecordNonce writer.key.nonceSalt writer.nextSequence
  aad := frame.take kFrameHeaderSize
  plaintext := plaintext
  ciphertext := frame.drop kFrameHeaderSize

/-- The keys of one side of a session. -/
structure EndpointKeys : Type where
  write : RecordKey
  read : RecordKey
  deriving DecidableEq

def EndpointKeys.swap (keys : EndpointKeys) : EndpointKeys where
  write := keys.read
  read := keys.write

/-- The record layer of one side: its keys, and the plaintexts it sealed and
accepted so far, oldest first. -/
structure Endpoint : Type where
  keys : Option EndpointKeys := none
  sealed : List Bytes := []
  accepted : List Bytes := []
  deriving DecidableEq

def clientEndpointKeys (keys : SessionKeys) : EndpointKeys where
  write := recordKey keys.clientToService
  read := recordKey keys.serviceToClient

def serverEndpointKeys (keys : SessionKeys) : EndpointKeys where
  write := recordKey keys.serviceToClient
  read := recordKey keys.clientToService

/-! ## One client -/

/-- The hello of a client and the answer it accepted. -/
structure ClientSession : Type where
  hello : ClientHelloMessage
  accepted : ClientHandshake.Accepted

structure ClientRun : Type where
  handshake : ClientHandshake
  keyPair : Option KeyPair := none
  session : Option ClientSession := none
  endpoint : Endpoint := {}

inductive ClientAction : Type
  | start
  | handleServerHello (message : Bytes)
  | sealPlaintext (plaintext : Bytes)
  | openFrame (frame : Bytes)

section

variable (fb : Binding Envelope) (ssl : OpenSsl)

/-- The object after a call. -/
def ClientHandshake.perform (client : ClientHandshake) : ClientAction → Call ClientHandshake
  | .start => some (client.start fb ssl).1
  | .handleServerHello message => (client.handleServerHello fb ssl message).map Prod.fst
  | .sealPlaintext plaintext => some (client.seal ssl plaintext).1
  | .openFrame frame => some (client.open ssl frame).1

/-- One call on a client, with the seals it made. -/
inductive ClientRun.Step : ClientRun → ClientRun → List SealCall → Prop
  | startFailed {run : ClientRun} {client : ClientHandshake} {error : HandshakeError}
      (call : run.handshake.start fb ssl = (client, .error error)) :
      Step run { run with handshake := client } []
  | started {run : ClientRun} {client : ClientHandshake} {encoded : Bytes}
      (call : run.handshake.start fb ssl = (client, .ok encoded)) :
      Step run { run with handshake := client, keyPair := some client.ephemeral } []
  | helloRefused {run : ClientRun} {client : ClientHandshake} {error : HandshakeError}
      {message : Bytes}
      (call : run.handshake.handleServerHello fb ssl message = some (client, .error error)) :
      Step run { run with handshake := client } []
  | helloAccepted {run : ClientRun} {client : ClientHandshake} {message plaintext frame : Bytes}
      {accepted : ClientHandshake.Accepted}
      (accept : run.handshake.acceptServerHello fb ssl message = some (.ok accepted))
      (encode : encodeClientFinished fb (run.handshake.finished accepted) = .ok plaintext)
      (call : run.handshake.handleServerHello fb ssl message = some (client, .ok frame)) :
      Step run
        { handshake := client
          keyPair := run.keyPair
          session := some { hello := run.handshake.hello, accepted }
          endpoint :=
            { keys := some (clientEndpointKeys accepted.keys), sealed := [plaintext] } }
        [accepted.writer.sealCall plaintext frame]
  | sealFailed {run : ClientRun} {client : ClientHandshake} {plaintext : Bytes}
      {error : RecordError} (call : run.handshake.seal ssl plaintext = (client, .error error)) :
      Step run { run with handshake := client } []
  | sealed {run : ClientRun} {client : ClientHandshake} {writer : RecordWriter}
      {plaintext frame : Bytes} (current : run.handshake.writer = some writer)
      (call : run.handshake.seal ssl plaintext = (client, .ok frame)) :
      Step run
        { run with
          handshake := client
          endpoint := { run.endpoint with sealed := run.endpoint.sealed ++ [plaintext] } }
        [writer.sealCall plaintext frame]
  | openFailed {run : ClientRun} {client : ClientHandshake} {frame : Bytes} {error : RecordError}
      (call : run.handshake.open ssl frame = (client, .error error)) :
      Step run { run with handshake := client } []
  | opened {run : ClientRun} {client : ClientHandshake} {frame plaintext : Bytes}
      (call : run.handshake.open ssl frame = (client, .ok plaintext)) :
      Step run
        { run with
          handshake := client
          endpoint := { run.endpoint with accepted := run.endpoint.accepted ++ [plaintext] } } []

/-- Every call that returns is a step. -/
theorem ClientRun.exists_step {run : ClientRun} {client : ClientHandshake} (action : ClientAction)
    (returned : run.handshake.perform fb ssl action = some client) :
    ∃ next calls, ClientRun.Step fb ssl run next calls ∧ next.handshake = client := by
  cases action with
  | start =>
      cases Option.some.inj returned
      rcases call : run.handshake.start fb ssl with ⟨client, error | encoded⟩
      · exact ⟨_, _, .startFailed call, rfl⟩
      · exact ⟨_, _, .started call, rfl⟩
  | handleServerHello message =>
      rcases run.handshake.handleServerHello_cases fb ssl message with
        ended | ⟨before, error, call⟩ | ⟨accepted, plaintext, frame, accept, encode, -, call⟩
      · rw [ClientHandshake.perform, ended] at returned
        cases returned
      · rw [ClientHandshake.perform, call] at returned
        cases returned
        exact ⟨_, _, .helloRefused call, rfl⟩
      · rw [ClientHandshake.perform, call] at returned
        cases returned
        exact ⟨_, _, .helloAccepted accept encode call, rfl⟩
  | sealPlaintext plaintext =>
      cases Option.some.inj returned
      rcases run.handshake.seal_cases ssl plaintext with
        ⟨error, call⟩ | ⟨writer, frame, -, current, -, call⟩
      · exact ⟨_, _, .sealFailed call, by rw [call]⟩
      · exact ⟨_, _, .sealed current call, by rw [call]⟩
  | openFrame frame =>
      cases Option.some.inj returned
      rcases call : run.handshake.open ssl frame with ⟨client, error | plaintext⟩
      · exact ⟨_, _, .openFailed call, rfl⟩
      · exact ⟨_, _, .opened call, rfl⟩

/-- What a step does, by its effect: the calls that return an error either ran
`fail` or changed nothing. -/
inductive ClientRun.Effect : ClientRun → ClientRun → List SealCall → Prop
  | failed {run : ClientRun} (before : ClientHandshake) :
      Effect run { run with handshake := before.fail } []
  | unchanged {run : ClientRun} : Effect run run []
  | started {run : ClientRun} {nonce : Key} {keyPair : KeyPair}
      (initial : run.handshake.state = .initial)
      (generated : generateX25519KeyPair ssl = .ok keyPair) :
      Effect run
        { run with
          handshake := { run.handshake with nonce, ephemeral := keyPair, state := .helloSent }
          keyPair := some keyPair } []
  | helloAccepted {run : ClientRun} {message plaintext frame : Bytes}
      {accepted : ClientHandshake.Accepted}
      (accept : run.handshake.acceptServerHello fb ssl message = some (.ok accepted))
      (encode : encodeClientFinished fb (run.handshake.finished accepted) = .ok plaintext)
      (sealed : accepted.writer.seal ssl plaintext =
        ({ accepted.writer with nextSequence := 2 }, .ok frame)) :
      Effect run
        { handshake :=
            { run.handshake.adopt accepted with
              writer := some { accepted.writer with nextSequence := 2 }
              state := .established }
          keyPair := run.keyPair
          session := some { hello := run.handshake.hello, accepted }
          endpoint :=
            { keys := some (clientEndpointKeys accepted.keys), sealed := [plaintext] } }
        [accepted.writer.sealCall plaintext frame]
  | sealed {run : ClientRun} {writer : RecordWriter} {plaintext frame : Bytes}
      (established : run.handshake.state = .established)
      (current : run.handshake.writer = some writer)
      (sealed : writer.seal ssl plaintext =
        ({ writer with nextSequence := writer.nextSequence + 1 }, .ok frame)) :
      Effect run
        { run with
          handshake :=
            { run.handshake with
              writer := some { writer with nextSequence := writer.nextSequence + 1 } }
          endpoint := { run.endpoint with sealed := run.endpoint.sealed ++ [plaintext] } }
        [writer.sealCall plaintext frame]
  | opened {run : ClientRun} {reader : RecordReader} {frame plaintext : Bytes}
      (established : run.handshake.state = .established)
      (current : run.handshake.reader = some reader)
      (opened : reader.open ssl frame =
        ({ reader with nextSequence := reader.nextSequence + 1 }, .ok plaintext)) :
      Effect run
        { run with
          handshake :=
            { run.handshake with
              reader := some { reader with nextSequence := reader.nextSequence + 1 } }
          endpoint := { run.endpoint with accepted := run.endpoint.accepted ++ [plaintext] } } []

theorem ClientRun.Step.effect {run next : ClientRun} {made : List SealCall}
    (step : ClientRun.Step fb ssl run next made) : ClientRun.Effect fb ssl run next made := by
  cases step with
  | startFailed call =>
      rcases run.handshake.start_cases fb ssl with
        ⟨before, _, failed⟩ | ⟨_, _, _, -, -, success⟩
      · rw [failed] at call
        cases call
        exact .failed before
      · rw [success] at call
        cases congrArg Prod.snd call
  | started call =>
      rcases run.handshake.start_cases fb ssl with
        ⟨_, _, failed⟩ | ⟨_, _, _, initial, generated, success⟩
      · rw [failed] at call
        cases congrArg Prod.snd call
      · rw [success] at call
        cases call
        exact .started initial generated
  | helloRefused call =>
      rename_i message
      rcases run.handshake.handleServerHello_cases fb ssl message with
        ended | ⟨before, _, failed⟩ | ⟨_, _, _, -, -, -, success⟩
      · rw [ended] at call
        cases call
      · rw [failed] at call
        cases call
        exact .failed before
      · rw [success] at call
        cases congrArg Prod.snd (Option.some.inj call)
  | helloAccepted accept encode call =>
      rename_i message _ _ _
      rcases run.handshake.handleServerHello_cases fb ssl message with
        ended | ⟨_, _, failed⟩ | ⟨_, _, _, sameAccept, sameEncode, sealed, success⟩
      · rw [ended] at call
        cases call
      · rw [failed] at call
        cases congrArg Prod.snd (Option.some.inj call)
      · cases accept.symm.trans sameAccept
        cases encode.symm.trans sameEncode
        rw [success] at call
        cases call
        exact .helloAccepted accept encode sealed
  | sealFailed call =>
      rename_i plaintext _
      rcases run.handshake.seal_cases ssl plaintext with ⟨_, failed⟩ | ⟨_, _, -, -, -, success⟩
      · rw [failed] at call
        cases call
        exact .unchanged
      · rw [success] at call
        cases congrArg Prod.snd call
  | sealed current call =>
      rename_i plaintext _
      rcases run.handshake.seal_cases ssl plaintext with
        ⟨_, failed⟩ | ⟨_, _, established, same, sealed, success⟩
      · rw [failed] at call
        cases congrArg Prod.snd call
      · cases current.symm.trans same
        rw [success] at call
        cases call
        exact .sealed established current sealed
  | openFailed call =>
      rename_i frame _
      rcases run.handshake.open_cases ssl frame with ⟨_, failed⟩ | ⟨_, _, -, -, -, success⟩
      · rw [failed] at call
        cases call
        exact .unchanged
      · rw [success] at call
        cases congrArg Prod.snd call
  | opened call =>
      rename_i frame _
      rcases run.handshake.open_cases ssl frame with
        ⟨_, failed⟩ | ⟨_, _, established, current, opened, success⟩
      · rw [failed] at call
        cases congrArg Prod.snd call
      · rw [success] at call
        cases call
        exact .opened established current opened

end

/-! ## One server -/

structure ServerRun : Type where
  handshake : ServerHandshake
  answer : Option ServerHandshake.Answer := none
  endpoint : Endpoint := {}

inductive ServerAction : Type
  | handleClientHello (message : Bytes)
  | handleClientFinished (frame : Bytes)
  | sealPlaintext (plaintext : Bytes)
  | openFrame (frame : Bytes)

section

variable (fb : Binding Envelope) (ssl : OpenSsl)

def ServerHandshake.perform (server : ServerHandshake) : ServerAction → Call ServerHandshake
  | .handleClientHello message => (server.handleClientHello fb ssl message).map Prod.fst
  | .handleClientFinished frame => (server.handleClientFinished fb ssl frame).map Prod.fst
  | .sealPlaintext plaintext => some (server.seal ssl plaintext).1
  | .openFrame frame => some (server.open ssl frame).1

/-- One call on a server, with the seals it made. -/
inductive ServerRun.Step : ServerRun → ServerRun → List SealCall → Prop
  | helloRefused {run : ServerRun} {server : ServerHandshake} {error : HandshakeError}
      {message : Bytes}
      (call : run.handshake.handleClientHello fb ssl message = some (server, .error error)) :
      Step run { run with handshake := server } []
  | helloAnswered {run : ServerRun} {server : ServerHandshake} {message encoded : Bytes}
      {answer : ServerHandshake.Answer}
      (answered : run.handshake.answerClientHello fb ssl message = some (.ok answer))
      (call : run.handshake.handleClientHello fb ssl message = some (server, .ok encoded)) :
      Step run
        { handshake := server
          answer := some answer
          endpoint := { keys := some (serverEndpointKeys answer.keys) } } []
  | finishedRefused {run : ServerRun} {server : ServerHandshake} {error : HandshakeError}
      {frame : Bytes}
      (call : run.handshake.handleClientFinished fb ssl frame = some (server, .error error)) :
      Step run { run with handshake := server } []
  | finishedAccepted {run : ServerRun} {server : ServerHandshake} {reader : RecordReader}
      {frame plaintext : Bytes} (current : run.handshake.reader = some reader)
      (opened : (reader.open ssl frame).2 = .ok plaintext)
      (call : run.handshake.handleClientFinished fb ssl frame = some (server, .ok ())) :
      Step run
        { run with
          handshake := server
          endpoint := { run.endpoint with accepted := run.endpoint.accepted ++ [plaintext] } } []
  | sealFailed {run : ServerRun} {server : ServerHandshake} {plaintext : Bytes}
      {error : RecordError} (call : run.handshake.seal ssl plaintext = (server, .error error)) :
      Step run { run with handshake := server } []
  | sealed {run : ServerRun} {server : ServerHandshake} {writer : RecordWriter}
      {plaintext frame : Bytes} (current : run.handshake.writer = some writer)
      (call : run.handshake.seal ssl plaintext = (server, .ok frame)) :
      Step run
        { run with
          handshake := server
          endpoint := { run.endpoint with sealed := run.endpoint.sealed ++ [plaintext] } }
        [writer.sealCall plaintext frame]
  | openFailed {run : ServerRun} {server : ServerHandshake} {frame : Bytes} {error : RecordError}
      (call : run.handshake.open ssl frame = (server, .error error)) :
      Step run { run with handshake := server } []
  | opened {run : ServerRun} {server : ServerHandshake} {frame plaintext : Bytes}
      (call : run.handshake.open ssl frame = (server, .ok plaintext)) :
      Step run
        { run with
          handshake := server
          endpoint := { run.endpoint with accepted := run.endpoint.accepted ++ [plaintext] } } []

/-- Every call that returns is a step. -/
theorem ServerRun.exists_step {run : ServerRun} {server : ServerHandshake} (action : ServerAction)
    (returned : run.handshake.perform fb ssl action = some server) :
    ∃ next calls, ServerRun.Step fb ssl run next calls ∧ next.handshake = server := by
  cases action with
  | handleClientHello message =>
      rcases run.handshake.handleClientHello_cases fb ssl message with
        ended | ⟨error, call⟩ | ⟨answer, answered, call⟩
      · rw [ServerHandshake.perform, ended] at returned
        cases returned
      · rw [ServerHandshake.perform, call] at returned
        cases returned
        exact ⟨_, _, .helloRefused call, rfl⟩
      · rw [ServerHandshake.perform, call] at returned
        cases returned
        exact ⟨_, _, .helloAnswered answered call, rfl⟩
  | handleClientFinished frame =>
      rcases run.handshake.handleClientFinished_cases fb ssl frame with
        ended | ⟨error, call⟩ | ⟨reader, plaintext, -, current, opened, -, call⟩
      · rw [ServerHandshake.perform, ended] at returned
        cases returned
      · rw [ServerHandshake.perform, call] at returned
        cases returned
        exact ⟨_, _, .finishedRefused call, rfl⟩
      · rw [ServerHandshake.perform, call] at returned
        cases returned
        exact ⟨_, _, .finishedAccepted current (congrArg Prod.snd opened) call, rfl⟩
  | sealPlaintext plaintext =>
      cases Option.some.inj returned
      rcases run.handshake.seal_cases ssl plaintext with
        ⟨error, call⟩ | ⟨writer, frame, -, current, -, call⟩
      · exact ⟨_, _, .sealFailed call, by rw [call]⟩
      · exact ⟨_, _, .sealed current call, by rw [call]⟩
  | openFrame frame =>
      cases Option.some.inj returned
      rcases call : run.handshake.open ssl frame with ⟨server, error | plaintext⟩
      · exact ⟨_, _, .openFailed call, rfl⟩
      · exact ⟨_, _, .opened call, rfl⟩

inductive ServerRun.Effect : ServerRun → ServerRun → List SealCall → Prop
  | failed {run : ServerRun} : Effect run { run with handshake := run.handshake.fail } []
  | unchanged {run : ServerRun} : Effect run run []
  | helloAnswered {run : ServerRun} {message : Bytes} {answer : ServerHandshake.Answer}
      (answered : run.handshake.answerClientHello fb ssl message = some (.ok answer)) :
      Effect run
        { handshake := run.handshake.adopt answer
          answer := some answer
          endpoint := { keys := some (serverEndpointKeys answer.keys) } } []
  | finishedAccepted {run : ServerRun} {reader : RecordReader} {frame plaintext : Bytes}
      (awaiting : run.handshake.state = .awaitingFinished)
      (current : run.handshake.reader = some reader)
      (opened : reader.open ssl frame =
        ({ reader with nextSequence := reader.nextSequence + 1 }, .ok plaintext))
      (decoded : decodeClientFinished fb plaintext = some (.ok run.handshake.expected)) :
      Effect run
        { run with
          handshake :=
            { run.handshake with
              reader := some { reader with nextSequence := reader.nextSequence + 1 }
              state := .established }
          endpoint := { run.endpoint with accepted := run.endpoint.accepted ++ [plaintext] } } []
  | sealed {run : ServerRun} {writer : RecordWriter} {plaintext frame : Bytes}
      (established : run.handshake.state = .established)
      (current : run.handshake.writer = some writer)
      (sealed : writer.seal ssl plaintext =
        ({ writer with nextSequence := writer.nextSequence + 1 }, .ok frame)) :
      Effect run
        { run with
          handshake :=
            { run.handshake with
              writer := some { writer with nextSequence := writer.nextSequence + 1 } }
          endpoint := { run.endpoint with sealed := run.endpoint.sealed ++ [plaintext] } }
        [writer.sealCall plaintext frame]
  | opened {run : ServerRun} {reader : RecordReader} {frame plaintext : Bytes}
      (established : run.handshake.state = .established)
      (current : run.handshake.reader = some reader)
      (opened : reader.open ssl frame =
        ({ reader with nextSequence := reader.nextSequence + 1 }, .ok plaintext)) :
      Effect run
        { run with
          handshake :=
            { run.handshake with
              reader := some { reader with nextSequence := reader.nextSequence + 1 } }
          endpoint := { run.endpoint with accepted := run.endpoint.accepted ++ [plaintext] } } []

theorem ServerRun.Step.effect {run next : ServerRun} {made : List SealCall}
    (step : ServerRun.Step fb ssl run next made) : ServerRun.Effect fb ssl run next made := by
  cases step with
  | helloRefused call =>
      rename_i message
      rcases run.handshake.handleClientHello_cases fb ssl message with
        ended | ⟨_, failed⟩ | ⟨_, -, success⟩
      · rw [ended] at call
        cases call
      · rw [failed] at call
        cases call
        exact .failed
      · rw [success] at call
        cases congrArg Prod.snd (Option.some.inj call)
  | helloAnswered answered call =>
      rename_i message _ _
      rcases run.handshake.handleClientHello_cases fb ssl message with
        ended | ⟨_, failed⟩ | ⟨_, same, success⟩
      · rw [ended] at call
        cases call
      · rw [failed] at call
        cases congrArg Prod.snd (Option.some.inj call)
      · cases answered.symm.trans same
        rw [success] at call
        cases call
        exact .helloAnswered answered
  | finishedRefused call =>
      rename_i frame
      rcases run.handshake.handleClientFinished_cases fb ssl frame with
        ended | ⟨_, failed⟩ | ⟨_, _, -, -, -, -, success⟩
      · rw [ended] at call
        cases call
      · rw [failed] at call
        cases call
        exact .failed
      · rw [success] at call
        cases congrArg Prod.snd (Option.some.inj call)
  | finishedAccepted current opened call =>
      rename_i frame _
      rcases run.handshake.handleClientFinished_cases fb ssl frame with
        ended | ⟨_, failed⟩ | ⟨_, _, awaiting, same, result, decoded, success⟩
      · rw [ended] at call
        cases call
      · rw [failed] at call
        cases congrArg Prod.snd (Option.some.inj call)
      · cases current.symm.trans same
        cases opened.symm.trans (congrArg Prod.snd result)
        rw [success] at call
        cases call
        exact .finishedAccepted awaiting current result decoded
  | sealFailed call =>
      rename_i plaintext _
      rcases run.handshake.seal_cases ssl plaintext with ⟨_, failed⟩ | ⟨_, _, -, -, -, success⟩
      · rw [failed] at call
        cases call
        exact .unchanged
      · rw [success] at call
        cases congrArg Prod.snd call
  | sealed current call =>
      rename_i plaintext _
      rcases run.handshake.seal_cases ssl plaintext with
        ⟨_, failed⟩ | ⟨_, _, established, same, sealed, success⟩
      · rw [failed] at call
        cases congrArg Prod.snd call
      · cases current.symm.trans same
        rw [success] at call
        cases call
        exact .sealed established current sealed
  | openFailed call =>
      rename_i frame _
      rcases run.handshake.open_cases ssl frame with ⟨_, failed⟩ | ⟨_, _, -, -, -, success⟩
      · rw [failed] at call
        cases call
        exact .unchanged
      · rw [success] at call
        cases congrArg Prod.snd call
  | opened call =>
      rename_i frame _
      rcases run.handshake.open_cases ssl frame with
        ⟨_, failed⟩ | ⟨_, _, established, current, opened, success⟩
      · rw [failed] at call
        cases congrArg Prod.snd call
      · rw [success] at call
        cases call
        exact .opened established current opened

end

/-! ## The world -/

structure World (ι κ : Type) : Type where
  clients : ι → ClientRun
  servers : κ → ServerRun
  sealCalls : List SealCall := []

section

variable {ι κ : Type} [DecidableEq ι] [DecidableEq κ]

/-- Newly constructed objects, with any constructor arguments. -/
structure World.Fresh (world : World ι κ) : Prop where
  clients : ∀ i, ∃ trustedKeys sdkVersion requestId minVersion maxVersion,
    world.clients i =
      { handshake := { trustedKeys, sdkVersion, requestId, minVersion, maxVersion } }
  servers : ∀ j, ∃ serviceKeyId identityPrivateKey minVersion maxVersion,
    world.servers j =
      { handshake := { serviceKeyId, identityPrivateKey, minVersion, maxVersion } }
  sealCalls : world.sealCalls = []

inductive World.Step (fb : Binding Envelope) (ssl : OpenSsl) : World ι κ → World ι κ → Prop
  | client {world : World ι κ} (i : ι) {next : ClientRun} {calls : List SealCall}
      (step : ClientRun.Step fb ssl (world.clients i) next calls) :
      Step fb ssl world
        { world with
          clients := Function.update world.clients i next
          sealCalls := world.sealCalls ++ calls }
  | server {world : World ι κ} (j : κ) {next : ServerRun} {calls : List SealCall}
      (step : ServerRun.Step fb ssl (world.servers j) next calls) :
      Step fb ssl world
        { world with
          servers := Function.update world.servers j next
          sealCalls := world.sealCalls ++ calls }

/-- A run whose every step uses a library that `assume` allows there. -/
def World.Reaches (fb : Binding Envelope) (assume : World ι κ → OpenSsl → Prop) :
    World ι κ → World ι κ → Prop :=
  Relation.ReflTransGen fun world next => ∃ ssl, assume world ssl ∧ World.Step fb ssl world next

theorem World.Reaches.mono {fb : Binding Envelope} {assume weaker : World ι κ → OpenSsl → Prop}
    {first last : World ι κ} (run : World.Reaches fb assume first last)
    (implies : ∀ world ssl, assume world ssl → weaker world ssl) :
    World.Reaches fb weaker first last := by
  refine Relation.ReflTransGen.mono (fun world next => ?_) _ _ run
  rintro ⟨ssl, assumed, step⟩
  exact ⟨ssl, implies world ssl assumed, step⟩

/-- What holds of fresh objects and is kept by every step holds in every world
a run reaches. -/
theorem World.Reaches.invariant {fb : Binding Envelope} {assume : World ι κ → OpenSsl → Prop}
    {property : World ι κ → Prop} {first last : World ι κ}
    (run : World.Reaches fb assume first last) (initial : property first)
    (preserved : ∀ {world next ssl}, property world → assume world ssl →
      World.Step fb ssl world next → property next) : property last := by
  induction run with
  | refl => exact initial
  | tail _ step kept =>
      obtain ⟨ssl, assumed, stepped⟩ := step
      exact preserved kept assumed stepped

end

end YoAuthorize.Protocol
