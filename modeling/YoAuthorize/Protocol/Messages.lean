import YoAuthorize.Crypto
import YoAuthorize.Protocol.Schema

/-!
# Message encoders and decoders

`verifyEnvelope` and the eighteen codec functions of `messages.cpp`.  A decoder
is a `Call`: it returns a message or an error, unless it reads a field through
a null table pointer, which ends the process (`none`).
-/

namespace YoAuthorize.Protocol

open Octets Crypto FlatBuffer Schema

/-- A call that may read through a null pointer instead of returning. -/
abbrev Call (α : Type) : Type := Option α

/-- `enum class EnvelopeError`: why the bytes are no envelope. -/
inductive EnvelopeError : Type
  | empty
  | tooLarge
  | invalidIdentifier
  | invalidBuffer
  deriving DecidableEq, Repr

/-- `enum class MessageError`: the bytes are no envelope, the envelope is of another kind, or a
field is out of its range. -/
inductive MessageError : Type
  | invalidEnvelope
  | unexpectedType
  | invalidField
  deriving DecidableEq, Repr

abbrev MessageResult (α : Type) : Type := Except MessageError α

/-! ## Messages -/

/-- The first message of a handshake; its nonce and key are fresh. -/
structure ClientHelloMessage : Type where
  requestId : UInt64 := 0
  minVersion : UInt16 := 0
  maxVersion : UInt16 := 0
  nonce : Key := .zeros kKeySize
  publicKey : Key := .zeros kKeySize
  sdkVersion : Bytes := []
  deriving DecidableEq

/-- The answer, signed with the service's identity key over the transcript of both hellos. -/
structure ServerHelloMessage : Type where
  requestId : UInt64 := 0
  selectedVersion : UInt16 := 0
  nonce : Key := .zeros kKeySize
  publicKey : Key := .zeros kKeySize
  serviceKeyId : Bytes := []
  signature : Signature := .zeros kSignatureSize
  deriving DecidableEq

/-- The first record: the client has the same transcript. -/
structure ClientFinishedMessage : Type where
  requestId : UInt64 := 0
  protocolVersion : UInt16 := 0
  transcriptHash : Sha256Digest := .zeros kSha256Size
  deriving DecidableEq

def kSessionIdSize : Nat := 16

/-- Sixteen random bytes. -/
abbrev SessionId : Type := FixedBytes kSessionIdSize

/-- `enum class AuthorizationError : uint16_t`, whose values are all 16-bit
numbers; the enumerators are the constants below. -/
structure AuthorizationError : Type where
  code : UInt16
  deriving DecidableEq

namespace AuthorizationError

def none : AuthorizationError := ⟨0⟩
def invalidFrame : AuthorizationError := ⟨1001⟩
def unsupportedVersion : AuthorizationError := ⟨1002⟩
def unsupportedMessage : AuthorizationError := ⟨1003⟩
def licenseNotFound : AuthorizationError := ⟨2001⟩
def invalidLicense : AuthorizationError := ⟨2002⟩
def invalidSignature : AuthorizationError := ⟨2003⟩
def notYetValid : AuthorizationError := ⟨2004⟩
def expired : AuthorizationError := ⟨2005⟩
def machineMismatch : AuthorizationError := ⟨2006⟩
def productMismatch : AuthorizationError := ⟨2007⟩
def revoked : AuthorizationError := ⟨2008⟩
def invalidSession : AuthorizationError := ⟨3001⟩
def sessionExpired : AuthorizationError := ⟨3002⟩
def sessionLimitExceeded : AuthorizationError := ⟨3003⟩
def duplicateRequest : AuthorizationError := ⟨3004⟩
def authenticationFailed : AuthorizationError := ⟨4001⟩
def serviceIdentityInvalid : AuthorizationError := ⟨4002⟩
def internalError : AuthorizationError := ⟨5001⟩
def storageError : AuthorizationError := ⟨5002⟩

end AuthorizationError

/-- `enum class AuthorizationState : uint8_t`. -/
structure AuthorizationState : Type where
  code : UInt8
  deriving DecidableEq

namespace AuthorizationState

def unknown : AuthorizationState := ⟨0⟩
def valid : AuthorizationState := ⟨1⟩
def grace : AuthorizationState := ⟨2⟩
def expired : AuthorizationState := ⟨3⟩
def revoked : AuthorizationState := ⟨4⟩

end AuthorizationState

/-- The request for a session of a product. -/
structure AuthorizeMessage : Type where
  requestId : UInt64 := 0
  protocolVersion : UInt16 := 0
  productId : Bytes := []
  processId : UInt64 := 0
  processStartTime : UInt64 := 0
  deriving DecidableEq

/-- The answer: a session and its terms, or the reason why there is none. -/
structure AuthResultMessage : Type where
  requestId : UInt64 := 0
  protocolVersion : UInt16 := 0
  error : AuthorizationError := .none
  sessionId : Option SessionId := none
  features : List Bytes := []
  expireTime : UInt64 := 0
  heartbeatIntervalMs : UInt32 := 0
  heartbeatTimeoutMs : UInt32 := 0
  deriving DecidableEq

/-- Keeps the session it names alive. -/
structure HeartbeatMessage : Type where
  requestId : UInt64 := 0
  protocolVersion : UInt16 := 0
  sessionId : SessionId := .zeros kSessionIdSize
  deriving DecidableEq

/-- The state of the license at the time of the beat. -/
structure HeartbeatAckMessage : Type where
  requestId : UInt64 := 0
  protocolVersion : UInt16 := 0
  state : AuthorizationState := .unknown
  features : List Bytes := []
  expireTime : UInt64 := 0
  deriving DecidableEq

/-- Ends the session; it has no fields of its own. -/
structure CloseSessionMessage : Type where
  requestId : UInt64 := 0
  protocolVersion : UInt16 := 0
  deriving DecidableEq

/-- An error code with a text. -/
structure ErrorMessage : Type where
  requestId : UInt64 := 0
  protocolVersion : UInt16 := 0
  code : AuthorizationError := .internalError
  message : Bytes := []
  deriving DecidableEq

/-! ## Field checks -/

/-- The limits of `messages.cpp`, which the encoders and the decoders share. -/
def kMaxSdkVersionSize : Nat := 64
def kMaxKeyIdSize : Nat := 255
def kMaxProductIdSize : Nat := 255
def kMaxFeatureSize : Nat := 128
def kMaxFeatures : Nat := 256
def kMaxErrorMessageSize : Nat := 256

/-- A vector of exactly the given size; an absent one is refused like a wrong one. -/
def copyFixed (source : Option Bytes) (size : Nat) : Option (FixedBytes size) :=
  match source with
  | none => none
  | some bytes => if length : bytes.length = size then some ⟨bytes, length⟩ else none

/-- A feature has between 1 and 128 bytes. -/
def validFeature (feature : Bytes) : Bool :=
  feature ≠ [] ∧ feature.length ≤ kMaxFeatureSize

/-- What the encoders require of a list of features. -/
def validFeatures (features : List Bytes) : Bool :=
  features.length ≤ kMaxFeatures ∧ features.all validFeature

/-- The code is one of the enumerators. -/
def validAuthorizationError (error : AuthorizationError) : Bool :=
  error ∈ [AuthorizationError.none, .invalidFrame, .unsupportedVersion, .unsupportedMessage,
    .licenseNotFound, .invalidLicense, .invalidSignature, .notYetValid, .expired,
    .machineMismatch, .productMismatch, .revoked, .invalidSession, .sessionExpired,
    .sessionLimitExceeded, .duplicateRequest, .authenticationFailed, .serviceIdentityInvalid,
    .internalError, .storageError]

/-- The code is an enumerator other than `unknown`. -/
def validAuthorizationState (state : AuthorizationState) : Bool :=
  state ∈ [AuthorizationState.valid, .grace, .expired, .revoked]

/-- Returns an empty list for a source it does not accept. -/
def copyFeatures (source : Option (List Bytes)) : List Bytes :=
  match source with
  | none => []
  | some features =>
      if features.length > kMaxFeatures then []
      else if features.any fun feature => feature = [] ∨ feature.length > kMaxFeatureSize then []
      else features

/-- An absent string reads as the empty one. -/
def stringOrEmpty (field : Option Bytes) : Bytes := field.getD []

section Codec

variable (fb : Binding Envelope)

/-- The verifier behind `fb` runs with `max_depth` 16 and `max_tables` 256. -/
def verifyEnvelope (bytes : Bytes) (maxSize : Nat := 1024 * 1024) : Except EnvelopeError Unit :=
  if bytes = [] then .error .empty
  else if bytes.length > maxSize then .error .tooLarge
  else if bytes.length < 4 + 4 ∨ !hasIdentifier envelopeIdentifier bytes then
    .error .invalidIdentifier
  else if fb.verify bytes then .ok ()
  else .error .invalidBuffer

/-- The envelope of bytes that the verifier accepts. -/
def checkedEnvelope (bytes : Bytes) : Option Envelope :=
  match verifyEnvelope fb bytes with
  | .ok () => some (fb.root bytes)
  | .error _ => none

/-- Builds the envelope around a body. -/
def finish (body : Message) (protocolVersion : UInt16) (requestId : UInt64) : Bytes :=
  fb.build (createEnvelope protocolVersion requestId body)

/-- The envelope check of the two hello decoders. -/
def validHelloEnvelope (envelope : Envelope) (type : MessageType) : Bool :=
  envelope.protocolVersion = 0 ∧ envelope.requestId ≠ 0 ∧ envelope.bodyType = type

/-- The envelope check of the other decoders: the version has been negotiated. -/
def validApplicationEnvelope (envelope : Envelope) (type : MessageType) : Bool :=
  envelope.protocolVersion ≠ 0 ∧ envelope.requestId ≠ 0 ∧ envelope.bodyType = type

/-- The head every decoder starts with: the verifier, then the envelope check,
then the message's own fields. -/
def decodeBody {α : Type} (bytes : Bytes) (valid : Envelope → Bool)
    (read : Envelope → Call (MessageResult α)) : Call (MessageResult α) :=
  match checkedEnvelope fb bytes with
  | none => some (.error .invalidEnvelope)
  | some envelope => if valid envelope then read envelope else some (.error .unexpectedType)

/-! ## Handshake messages -/

/-- Refuses an empty or reversed range of versions. -/
def encodeClientHello (message : ClientHelloMessage) : MessageResult Bytes :=
  if message.requestId = 0 ∨ message.minVersion = 0 ∨ message.minVersion > message.maxVersion ∨
      message.sdkVersion = [] ∨ message.sdkVersion.length > kMaxSdkVersionSize then
    .error .invalidField
  else
    .ok (finish fb (.clientHello (some (createClientHello message.minVersion message.maxVersion
      message.nonce.val message.publicKey.val message.sdkVersion))) 0 message.requestId)

/-- The checks of the encoder, made again on what a peer sent, and the sizes of the nonce and
the key. -/
def readClientHello (envelope : Envelope) : Call (MessageResult ClientHelloMessage) := do
  let body ← envelope.bodyAsClientHello
  let minVersion := body.minProtocolVersion
  let maxVersion := body.maxProtocolVersion
  let sdkVersion := stringOrEmpty body.sdkVersion
  return if minVersion = 0 ∨ minVersion > maxVersion ∨ sdkVersion = [] ∨
      sdkVersion.length > kMaxSdkVersionSize then .error .invalidField
    else
      match copyFixed body.clientNonce kKeySize, copyFixed body.ephemeralPublicKey kKeySize with
      | some nonce, some publicKey =>
          .ok { requestId := envelope.requestId, minVersion, maxVersion, nonce, publicKey,
                sdkVersion }
      | _, _ => .error .invalidField

def decodeClientHello (bytes : Bytes) : Call (MessageResult ClientHelloMessage) :=
  decodeBody fb bytes (validHelloEnvelope · .clientHello) readClientHello

/-- The signature is made by the caller. -/
def encodeServerHello (message : ServerHelloMessage) : MessageResult Bytes :=
  if message.requestId = 0 ∨ message.selectedVersion = 0 ∨ message.serviceKeyId = [] ∨
      message.serviceKeyId.length > kMaxKeyIdSize then
    .error .invalidField
  else
    .ok (finish fb (.serverHello (some (createServerHello message.selectedVersion
      message.nonce.val message.publicKey.val message.serviceKeyId message.signature.val)))
      0 message.requestId)

/-- Does not verify the signature: the handshake does. -/
def readServerHello (envelope : Envelope) : Call (MessageResult ServerHelloMessage) := do
  let body ← envelope.bodyAsServerHello
  let selectedVersion := body.selectedProtocolVersion
  let serviceKeyId := stringOrEmpty body.serviceKeyId
  return if selectedVersion = 0 ∨ serviceKeyId = [] ∨ serviceKeyId.length > kMaxKeyIdSize then
      .error .invalidField
    else
      match copyFixed body.serverNonce kKeySize, copyFixed body.ephemeralPublicKey kKeySize,
          copyFixed body.signature kSignatureSize with
      | some nonce, some publicKey, some signature =>
          .ok { requestId := envelope.requestId, selectedVersion, nonce, publicKey, serviceKeyId,
                signature }
      | _, _, _ => .error .invalidField

def decodeServerHello (bytes : Bytes) : Call (MessageResult ServerHelloMessage) :=
  decodeBody fb bytes (validHelloEnvelope · .serverHello) readServerHello

def encodeClientFinished (message : ClientFinishedMessage) : MessageResult Bytes :=
  if message.requestId = 0 ∨ message.protocolVersion = 0 then .error .invalidField
  else
    .ok (finish fb (.clientFinished (some (createClientFinished message.transcriptHash.val)))
      message.protocolVersion message.requestId)

def readClientFinished (envelope : Envelope) : Call (MessageResult ClientFinishedMessage) := do
  let body ← envelope.bodyAsClientFinished
  return match copyFixed body.transcriptHash kSha256Size with
    | some transcriptHash =>
        .ok { requestId := envelope.requestId, protocolVersion := envelope.protocolVersion,
              transcriptHash }
    | none => .error .invalidField

def decodeClientFinished (bytes : Bytes) : Call (MessageResult ClientFinishedMessage) :=
  decodeBody fb bytes (validApplicationEnvelope · .clientFinished) readClientFinished

/-! ## Application messages -/

/-- A product and a process are required; the start time of the process may be 0. -/
def encodeAuthorize (message : AuthorizeMessage) : MessageResult Bytes :=
  if message.requestId = 0 ∨ message.protocolVersion = 0 ∨ message.productId = [] ∨
      message.productId.length > kMaxProductIdSize ∨ message.processId = 0 then
    .error .invalidField
  else
    .ok (finish fb (.authorize (some (createAuthorize message.productId message.processId
      message.processStartTime))) message.protocolVersion message.requestId)

def readAuthorize (envelope : Envelope) : Call (MessageResult AuthorizeMessage) := do
  let body ← envelope.bodyAsAuthorize
  let productId := stringOrEmpty body.productId
  return if productId = [] ∨ productId.length > kMaxProductIdSize ∨ body.processId = 0 then
      .error .invalidField
    else
      .ok { requestId := envelope.requestId, protocolVersion := envelope.protocolVersion,
            productId, processId := body.processId, processStartTime := body.processStartTime }

def decodeAuthorize (bytes : Bytes) : Call (MessageResult AuthorizeMessage) :=
  decodeBody fb bytes (validApplicationEnvelope · .authorize) readAuthorize

/-- A session id goes with `none` and only with it. -/
def encodeAuthResult (message : AuthResultMessage) : MessageResult Bytes :=
  if message.requestId = 0 ∨ message.protocolVersion = 0 ∨
      !validAuthorizationError message.error ∨ !validFeatures message.features ∨
      (message.error = .none ∧ message.sessionId = none) ∨
      (message.error ≠ .none ∧ message.sessionId ≠ none) then
    .error .invalidField
  else
    .ok (finish fb (.authResult (some (createAuthResult message.error.code
      (message.sessionId.map Subtype.val) message.features message.expireTime
      message.heartbeatIntervalMs message.heartbeatTimeoutMs)))
      message.protocolVersion message.requestId)

/-- The session id of an `AuthResult` table: an absent or empty vector is no
session id, and `none` is a vector of the wrong size. -/
def readSessionId (field : Option Bytes) : Option (Option SessionId) :=
  match field with
  | none => some none
  | some [] => some none
  | some bytes =>
      match copyFixed (some bytes) kSessionIdSize with
      | some id => some (some id)
      | none => none

/-- A list with a feature that `copyFeatures` refuses is caught by its length. -/
def readAuthResult (envelope : Envelope) : Call (MessageResult AuthResultMessage) := do
  let body ← envelope.bodyAsAuthResult
  let error : AuthorizationError := ⟨body.error⟩
  let features := copyFeatures body.features
  return if body.features.any fun source => source.length ≠ features.length then
      .error .invalidField
    else
      match readSessionId body.sessionId with
      | none => .error .invalidField
      | some sessionId =>
          if !validAuthorizationError error ∨ (error = .none ∧ sessionId = none) ∨
              (error ≠ .none ∧ sessionId ≠ none) then .error .invalidField
          else
            .ok { requestId := envelope.requestId, protocolVersion := envelope.protocolVersion,
                  error, sessionId, features, expireTime := body.expireTime,
                  heartbeatIntervalMs := body.heartbeatIntervalMs,
                  heartbeatTimeoutMs := body.heartbeatTimeoutMs }

def decodeAuthResult (bytes : Bytes) : Call (MessageResult AuthResultMessage) :=
  decodeBody fb bytes (validApplicationEnvelope · .authResult) readAuthResult

def encodeHeartbeat (message : HeartbeatMessage) : MessageResult Bytes :=
  if message.requestId = 0 ∨ message.protocolVersion = 0 then .error .invalidField
  else
    .ok (finish fb (.heartbeat (some (createHeartbeat message.sessionId.val)))
      message.protocolVersion message.requestId)

def readHeartbeat (envelope : Envelope) : Call (MessageResult HeartbeatMessage) := do
  let body ← envelope.bodyAsHeartbeat
  return match copyFixed body.sessionId kSessionIdSize with
    | some sessionId =>
        .ok { requestId := envelope.requestId, protocolVersion := envelope.protocolVersion,
              sessionId }
    | none => .error .invalidField

def decodeHeartbeat (bytes : Bytes) : Call (MessageResult HeartbeatMessage) :=
  decodeBody fb bytes (validApplicationEnvelope · .heartbeat) readHeartbeat

/-- The encoder and the decoder both refuse the state `unknown`. -/
def encodeHeartbeatAck (message : HeartbeatAckMessage) : MessageResult Bytes :=
  if message.requestId = 0 ∨ message.protocolVersion = 0 ∨
      !validAuthorizationState message.state ∨ !validFeatures message.features then
    .error .invalidField
  else
    .ok (finish fb (.heartbeatAck (some (createHeartbeatAck message.state.code message.features
      message.expireTime))) message.protocolVersion message.requestId)

def readHeartbeatAck (envelope : Envelope) : Call (MessageResult HeartbeatAckMessage) := do
  let body ← envelope.bodyAsHeartbeatAck
  let state : AuthorizationState := ⟨body.state⟩
  let features := copyFeatures body.features
  return if !validAuthorizationState state ∨
      body.features.any (fun source => source.length ≠ features.length) then
      .error .invalidField
    else
      .ok { requestId := envelope.requestId, protocolVersion := envelope.protocolVersion, state,
            features, expireTime := body.expireTime }

def decodeHeartbeatAck (bytes : Bytes) : Call (MessageResult HeartbeatAckMessage) :=
  decodeBody fb bytes (validApplicationEnvelope · .heartbeatAck) readHeartbeatAck

def encodeCloseSession (message : CloseSessionMessage) : MessageResult Bytes :=
  if message.requestId = 0 ∨ message.protocolVersion = 0 then .error .invalidField
  else
    .ok (finish fb (.closeSession (some createCloseSession)) message.protocolVersion
      message.requestId)

/-- Reads nothing of the body. -/
def readCloseSession (envelope : Envelope) : Call (MessageResult CloseSessionMessage) :=
  some (.ok { requestId := envelope.requestId, protocolVersion := envelope.protocolVersion })

def decodeCloseSession (bytes : Bytes) : Call (MessageResult CloseSessionMessage) :=
  decodeBody fb bytes (validApplicationEnvelope · .closeSession) readCloseSession

/-- An error message has a code other than `none` and a text. -/
def encodeError (message : ErrorMessage) : MessageResult Bytes :=
  if message.requestId = 0 ∨ message.protocolVersion = 0 ∨
      !validAuthorizationError message.code ∨ message.code = .none ∨ message.message = [] ∨
      message.message.length > kMaxErrorMessageSize then
    .error .invalidField
  else
    .ok (finish fb (.error (some (createError message.code.code message.message)))
      message.protocolVersion message.requestId)

def readError (envelope : Envelope) : Call (MessageResult ErrorMessage) := do
  let body ← envelope.bodyAsError
  let code : AuthorizationError := ⟨body.code⟩
  let message := stringOrEmpty body.message
  return if !validAuthorizationError code ∨ code = .none ∨ message = [] ∨
      message.length > kMaxErrorMessageSize then .error .invalidField
    else
      .ok { requestId := envelope.requestId, protocolVersion := envelope.protocolVersion, code,
            message }

def decodeError (bytes : Bytes) : Call (MessageResult ErrorMessage) :=
  decodeBody fb bytes (validApplicationEnvelope · .error) readError

end Codec

end YoAuthorize.Protocol
