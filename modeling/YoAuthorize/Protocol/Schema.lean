import YoAuthorize.Lib.FlatBuffer

/-!
# The wire schema

The tables of `schema/protocol.fbs` that a message codec reads or writes, in
the form the generated code gives them: a `vt` field is a vtable slot, and the
accessor of the same name applies the schema default.  `Message` is the union
of the envelope: its constructor is the type tag, and the value behind the tag
may be absent.  The verifier accepts a tag without a value, so `bodyAs…` can
return a null pointer for the very type the tag names.
-/

namespace YoAuthorize.Protocol.Schema

open Octets FlatBuffer

/-- `table ClientHello`; the sizes of its vectors are checked by the codec. -/
structure ClientHello : Type where
  vtMinProtocolVersion : Scalar UInt16 0
  vtMaxProtocolVersion : Scalar UInt16 0
  clientNonce : Option Bytes
  ephemeralPublicKey : Option Bytes
  sdkVersion : Option Bytes
  deriving DecidableEq

/-- The accessors of the hello: an absent version reads as 0. -/
def ClientHello.minProtocolVersion (table : ClientHello) : UInt16 :=
  getField table.vtMinProtocolVersion

def ClientHello.maxProtocolVersion (table : ClientHello) : UInt16 :=
  getField table.vtMaxProtocolVersion

/-- The `Create…` functions write every string and vector, also an empty one. -/
def createClientHello (minProtocolVersion maxProtocolVersion : UInt16)
    (clientNonce ephemeralPublicKey sdkVersion : Bytes) : ClientHello where
  vtMinProtocolVersion := addElement minProtocolVersion 0
  vtMaxProtocolVersion := addElement maxProtocolVersion 0
  clientNonce := some clientNonce
  ephemeralPublicKey := some ephemeralPublicKey
  sdkVersion := some sdkVersion

/-- `table ServerHello`. -/
structure ServerHello : Type where
  vtSelectedProtocolVersion : Scalar UInt16 0
  serverNonce : Option Bytes
  ephemeralPublicKey : Option Bytes
  serviceKeyId : Option Bytes
  signature : Option Bytes
  deriving DecidableEq

def ServerHello.selectedProtocolVersion (table : ServerHello) : UInt16 :=
  getField table.vtSelectedProtocolVersion

def createServerHello (selectedProtocolVersion : UInt16)
    (serverNonce ephemeralPublicKey serviceKeyId signature : Bytes) : ServerHello where
  vtSelectedProtocolVersion := addElement selectedProtocolVersion 0
  serverNonce := some serverNonce
  ephemeralPublicKey := some ephemeralPublicKey
  serviceKeyId := some serviceKeyId
  signature := some signature

/-- `table ClientFinished`. -/
structure ClientFinished : Type where
  transcriptHash : Option Bytes
  deriving DecidableEq

def createClientFinished (transcriptHash : Bytes) : ClientFinished where
  transcriptHash := some transcriptHash

/-- `table Authorize`. -/
structure Authorize : Type where
  productId : Option Bytes
  vtProcessId : Scalar UInt64 0
  vtProcessStartTime : Scalar UInt64 0
  deriving DecidableEq

/-- An absent process id reads as 0, which the codec refuses. -/
def Authorize.processId (table : Authorize) : UInt64 := getField table.vtProcessId

def Authorize.processStartTime (table : Authorize) : UInt64 := getField table.vtProcessStartTime

def createAuthorize (productId : Bytes) (processId processStartTime : UInt64) : Authorize where
  productId := some productId
  vtProcessId := addElement processId 0
  vtProcessStartTime := addElement processStartTime 0

/-- `error` holds an `ErrorCode`, an unchecked 16-bit number on the wire. -/
structure AuthResult : Type where
  vtError : Scalar UInt16 0
  sessionId : Option Bytes
  features : Option (List Bytes)
  vtExpireTime : Scalar UInt64 0
  vtHeartbeatIntervalMs : Scalar UInt32 0
  vtHeartbeatTimeoutMs : Scalar UInt32 0
  deriving DecidableEq

def AuthResult.error (table : AuthResult) : UInt16 := getField table.vtError

def AuthResult.expireTime (table : AuthResult) : UInt64 := getField table.vtExpireTime

def AuthResult.heartbeatIntervalMs (table : AuthResult) : UInt32 :=
  getField table.vtHeartbeatIntervalMs

def AuthResult.heartbeatTimeoutMs (table : AuthResult) : UInt32 :=
  getField table.vtHeartbeatTimeoutMs

/-- A zero offset leaves `session_id` absent. -/
def createAuthResult (error : UInt16) (sessionId : Option Bytes) (features : List Bytes)
    (expireTime : UInt64) (heartbeatIntervalMs heartbeatTimeoutMs : UInt32) : AuthResult where
  vtError := addElement error 0
  sessionId := sessionId
  features := some features
  vtExpireTime := addElement expireTime 0
  vtHeartbeatIntervalMs := addElement heartbeatIntervalMs 0
  vtHeartbeatTimeoutMs := addElement heartbeatTimeoutMs 0

/-- `table Heartbeat`. -/
structure Heartbeat : Type where
  sessionId : Option Bytes
  deriving DecidableEq

def createHeartbeat (sessionId : Bytes) : Heartbeat where
  sessionId := some sessionId

/-- `state` holds a `LicenseState`, an unchecked byte on the wire. -/
structure HeartbeatAck : Type where
  vtState : Scalar UInt8 0
  features : Option (List Bytes)
  vtExpireTime : Scalar UInt64 0
  deriving DecidableEq

def HeartbeatAck.state (table : HeartbeatAck) : UInt8 := getField table.vtState

def HeartbeatAck.expireTime (table : HeartbeatAck) : UInt64 := getField table.vtExpireTime

def createHeartbeatAck (state : UInt8) (features : List Bytes) (expireTime : UInt64) :
    HeartbeatAck where
  vtState := addElement state 0
  features := some features
  vtExpireTime := addElement expireTime 0

/-- `table CloseSession {}`. -/
structure CloseSession : Type where
  deriving DecidableEq

def createCloseSession : CloseSession where

/-- The schema default of `code` is `InternalError`. -/
def internalErrorCode : UInt16 := 5001

/-- `table Error`. -/
structure Error : Type where
  vtCode : Scalar UInt16 internalErrorCode
  message : Option Bytes
  deriving DecidableEq

/-- An absent code reads as `InternalError`. -/
def Error.code (table : Error) : UInt16 := getField table.vtCode

/-- A code of `InternalError` is left out of the buffer. -/
def createError (code : UInt16) (message : Bytes) : Error where
  vtCode := addElement code internalErrorCode
  message := some message

/-! ## The envelope -/

/-- A tag behind those of this schema. -/
abbrev NewerTag : Type := { tag : UInt8 // 17 < tag }

/-- The type tag of the union; a newer peer may send a tag this schema lacks. -/
inductive MessageType : Type
  | noBody
  | clientHello
  | serverHello
  | unsupportedVersion
  | clientFinished
  | authorize
  | authResult
  | heartbeat
  | heartbeatAck
  | queryLicense
  | queryFeatures
  | closeSession
  | licenseChanged
  | featureChanged
  | licenseExpired
  | licenseRevoked
  | ping
  | error
  | unknown (tag : NewerTag)
  deriving DecidableEq

/-- The union: a type tag with a value that may be absent.  The values of the
types that no codec reads are left out. -/
inductive Message : Type
  | noBody
  | clientHello (value : Option ClientHello)
  | serverHello (value : Option ServerHello)
  | unsupportedVersion
  | clientFinished (value : Option ClientFinished)
  | authorize (value : Option Authorize)
  | authResult (value : Option AuthResult)
  | heartbeat (value : Option Heartbeat)
  | heartbeatAck (value : Option HeartbeatAck)
  | queryLicense
  | queryFeatures
  | closeSession (value : Option CloseSession)
  | licenseChanged
  | featureChanged
  | licenseExpired
  | licenseRevoked
  | ping
  | error (value : Option Error)
  | unknown (tag : NewerTag)
  deriving DecidableEq

/-- The tag of a union, with or without a value behind it. -/
def Message.type : Message → MessageType
  | .noBody => .noBody
  | .clientHello _ => .clientHello
  | .serverHello _ => .serverHello
  | .unsupportedVersion => .unsupportedVersion
  | .clientFinished _ => .clientFinished
  | .authorize _ => .authorize
  | .authResult _ => .authResult
  | .heartbeat _ => .heartbeat
  | .heartbeatAck _ => .heartbeatAck
  | .queryLicense => .queryLicense
  | .queryFeatures => .queryFeatures
  | .closeSession _ => .closeSession
  | .licenseChanged => .licenseChanged
  | .featureChanged => .featureChanged
  | .licenseExpired => .licenseExpired
  | .licenseRevoked => .licenseRevoked
  | .ping => .ping
  | .error _ => .error
  | .unknown tag => .unknown tag

/-- `table Envelope`, the root of every message. -/
structure Envelope : Type where
  vtProtocolVersion : Scalar UInt16 0
  vtRequestId : Scalar UInt64 0
  body : Message
  deriving DecidableEq

def Envelope.protocolVersion (envelope : Envelope) : UInt16 :=
  getField envelope.vtProtocolVersion

def Envelope.requestId (envelope : Envelope) : UInt64 := getField envelope.vtRequestId

/-- `body_type`. -/
def Envelope.bodyType (envelope : Envelope) : MessageType := envelope.body.type

/-- `CreateEnvelope`: a version of 0, as in the hellos, is left out of the buffer. -/
def createEnvelope (protocolVersion : UInt16) (requestId : UInt64) (body : Message) : Envelope where
  vtProtocolVersion := addElement protocolVersion 0
  vtRequestId := addElement requestId 0
  body := body

/-- The accessors of a built envelope give back what it was built from, defaults included. -/
@[simp] theorem protocolVersion_createEnvelope (protocolVersion : UInt16) (requestId : UInt64)
    (body : Message) :
    (createEnvelope protocolVersion requestId body).protocolVersion = protocolVersion :=
  getField_addElement _ _

@[simp] theorem requestId_createEnvelope (protocolVersion : UInt16) (requestId : UInt64)
    (body : Message) : (createEnvelope protocolVersion requestId body).requestId = requestId :=
  getField_addElement _ _

@[simp] theorem body_createEnvelope (protocolVersion : UInt16) (requestId : UInt64)
    (body : Message) : (createEnvelope protocolVersion requestId body).body = body := rfl

@[simp] theorem bodyType_createEnvelope (protocolVersion : UInt16) (requestId : UInt64)
    (body : Message) : (createEnvelope protocolVersion requestId body).bodyType = body.type := rfl

/-! The `body_as_X` accessors: the value when the tag is `X` and the value is
present, else a null pointer. -/

def Envelope.bodyAsClientHello (envelope : Envelope) : Option ClientHello :=
  match envelope.body with
  | .clientHello value => value
  | _ => none

def Envelope.bodyAsServerHello (envelope : Envelope) : Option ServerHello :=
  match envelope.body with
  | .serverHello value => value
  | _ => none

def Envelope.bodyAsClientFinished (envelope : Envelope) : Option ClientFinished :=
  match envelope.body with
  | .clientFinished value => value
  | _ => none

def Envelope.bodyAsAuthorize (envelope : Envelope) : Option Authorize :=
  match envelope.body with
  | .authorize value => value
  | _ => none

def Envelope.bodyAsAuthResult (envelope : Envelope) : Option AuthResult :=
  match envelope.body with
  | .authResult value => value
  | _ => none

def Envelope.bodyAsHeartbeat (envelope : Envelope) : Option Heartbeat :=
  match envelope.body with
  | .heartbeat value => value
  | _ => none

def Envelope.bodyAsHeartbeatAck (envelope : Envelope) : Option HeartbeatAck :=
  match envelope.body with
  | .heartbeatAck value => value
  | _ => none

def Envelope.bodyAsError (envelope : Envelope) : Option Error :=
  match envelope.body with
  | .error value => value
  | _ => none

/-- The union value is absent (for the types whose value is modelled). -/
def Message.absent : Message → Bool
  | .clientHello value => value.isNone
  | .serverHello value => value.isNone
  | .clientFinished value => value.isNone
  | .authorize value => value.isNone
  | .authResult value => value.isNone
  | .heartbeat value => value.isNone
  | .heartbeatAck value => value.isNone
  | .closeSession value => value.isNone
  | .error value => value.isNone
  | _ => false

/-! ## Content sizes -/

/-- The bytes of the strings and vectors of a message; the rest of its buffer has a bounded size. -/
def Message.contentSize : Message → Nat
  | .clientHello (some table) =>
      optionSize table.clientNonce + optionSize table.ephemeralPublicKey +
        optionSize table.sdkVersion
  | .serverHello (some table) =>
      optionSize table.serverNonce + optionSize table.ephemeralPublicKey +
        optionSize table.serviceKeyId + optionSize table.signature
  | .clientFinished (some table) => optionSize table.transcriptHash
  | .authorize (some table) => optionSize table.productId
  | .authResult (some table) => optionSize table.sessionId + stringsSize table.features
  | .heartbeat (some table) => optionSize table.sessionId
  | .heartbeatAck (some table) => stringsSize table.features
  | .error (some table) => optionSize table.message
  | _ => 0

def Envelope.contentSize (envelope : Envelope) : Nat := envelope.body.contentSize

/-- `file_identifier`. -/
def envelopeIdentifier : Bytes := ofAscii "YAMS"

end YoAuthorize.Protocol.Schema
