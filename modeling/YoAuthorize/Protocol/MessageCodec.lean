import YoAuthorize.Protocol.Messages
import YoAuthorize.Protocol.SchemaReference

/-!
# The message codec as a whole

`MessageKind` names the nine messages, so that a result about all encoders and
decoders is one statement.  `MessageKind.encode_cases` says what an encoder
does: it refuses the message, or it builds an envelope that is small, carries
the message's type and reads back as the message.  `MessageKind.encode_of_read`
is the other direction: what a decoder accepts, the encoder accepts.
-/

namespace YoAuthorize.Protocol

open Octets Crypto FlatBuffer Schema

inductive MessageKind : Type
  | clientHello
  | serverHello
  | clientFinished
  | authorize
  | authResult
  | heartbeat
  | heartbeatAck
  | closeSession
  | error
  deriving DecidableEq, Repr

namespace MessageKind

abbrev Payload : MessageKind → Type
  | clientHello => ClientHelloMessage
  | serverHello => ServerHelloMessage
  | clientFinished => ClientFinishedMessage
  | authorize => AuthorizeMessage
  | authResult => AuthResultMessage
  | heartbeat => HeartbeatMessage
  | heartbeatAck => HeartbeatAckMessage
  | closeSession => CloseSessionMessage
  | error => ErrorMessage

/-- The `body_type` a decoder expects. -/
def type : MessageKind → MessageType
  | clientHello => .clientHello
  | serverHello => .serverHello
  | clientFinished => .clientFinished
  | authorize => .authorize
  | authResult => .authResult
  | heartbeat => .heartbeat
  | heartbeatAck => .heartbeatAck
  | closeSession => .closeSession
  | error => .error

/-- The hello messages are sent before a version is selected. -/
def isHello : MessageKind → Bool
  | clientHello | serverHello => true
  | _ => false

/-- The envelope check of a decoder. -/
def valid (kind : MessageKind) (envelope : Envelope) : Bool :=
  if kind.isHello then validHelloEnvelope envelope kind.type
  else validApplicationEnvelope envelope kind.type

def read : (kind : MessageKind) → Envelope → Call (MessageResult kind.Payload)
  | clientHello => readClientHello
  | serverHello => readServerHello
  | clientFinished => readClientFinished
  | authorize => readAuthorize
  | authResult => readAuthResult
  | heartbeat => readHeartbeat
  | heartbeatAck => readHeartbeatAck
  | closeSession => readCloseSession
  | error => readError

section

variable (fb : Binding Envelope)

def encode : (kind : MessageKind) → kind.Payload → MessageResult Bytes
  | clientHello => encodeClientHello fb
  | serverHello => encodeServerHello fb
  | clientFinished => encodeClientFinished fb
  | authorize => encodeAuthorize fb
  | authResult => encodeAuthResult fb
  | heartbeat => encodeHeartbeat fb
  | heartbeatAck => encodeHeartbeatAck fb
  | closeSession => encodeCloseSession fb
  | error => encodeError fb

def decode : (kind : MessageKind) → Bytes → Call (MessageResult kind.Payload)
  | clientHello => decodeClientHello fb
  | serverHello => decodeServerHello fb
  | clientFinished => decodeClientFinished fb
  | authorize => decodeAuthorize fb
  | authResult => decodeAuthResult fb
  | heartbeat => decodeHeartbeat fb
  | heartbeatAck => decodeHeartbeatAck fb
  | closeSession => decodeCloseSession fb
  | error => decodeError fb

theorem decode_eq (kind : MessageKind) (bytes : Bytes) :
    kind.decode fb bytes = decodeBody fb bytes kind.valid kind.read := by
  cases kind <;> rfl

end

theorem type_inj {left right : MessageKind} (same : left.type = right.type) : left = right := by
  cases left <;> cases right <;> first | rfl | cases same

/-- A hello envelope has version 0 and every other one does not. -/
theorem valid_iff {kind : MessageKind} {envelope : Envelope} :
    kind.valid envelope = true ↔
      (envelope.protocolVersion = 0 ↔ kind.isHello = true) ∧ envelope.requestId ≠ 0 ∧
        envelope.bodyType = kind.type := by
  unfold MessageKind.valid validHelloEnvelope validApplicationEnvelope
  by_cases hello : kind.isHello = true
  · simp [hello]
  · simp [hello]

theorem valid_createEnvelope {kind : MessageKind} {version : UInt16} {requestId : UInt64}
    {body : Message} (versioned : version = 0 ↔ kind.isHello = true) (requested : requestId ≠ 0)
    (typed : body.type = kind.type) :
    kind.valid (createEnvelope version requestId body) = true := by
  rw [valid_iff]
  simpa [requested] using ⟨versioned, typed⟩

/-- An envelope passes the check of one decoder at most. -/
theorem valid_unique {left right : MessageKind} {envelope : Envelope}
    (leftValid : left.valid envelope = true) (rightValid : right.valid envelope = true) :
    left = right :=
  type_inj ((valid_iff.mp leftValid).2.2.symm.trans (valid_iff.mp rightValid).2.2)

end MessageKind

/-! ## Field checks -/

@[simp] theorem copyFixed_some {size : Nat} (array : FixedBytes size) :
    copyFixed (some array.val) size = some array := by
  exact dif_pos array.2

theorem validFeatures_iff {features : List Bytes} :
    validFeatures features = true ↔ features.length ≤ kMaxFeatures ∧
      ∀ feature ∈ features, feature ≠ [] ∧ feature.length ≤ kMaxFeatureSize := by
  simp [validFeatures, validFeature]

theorem copyFeatures_of_valid {features : List Bytes} (valid : validFeatures features = true) :
    copyFeatures (some features) = features := by
  obtain ⟨few, each⟩ := validFeatures_iff.mp valid
  have noneRefused : (features.any fun feature =>
      feature = [] ∨ feature.length > kMaxFeatureSize) = false := by
    rw [List.any_eq_false]
    intro feature mem
    obtain ⟨nonempty, short⟩ := each feature mem
    simp [nonempty, short]
  unfold copyFeatures
  simp only [noneRefused, Nat.not_lt.mpr few, if_false, Bool.false_eq_true]

/-- A list that survives the size comparison after `copyFeatures` is valid. -/
theorem validFeatures_copyFeatures (source : Option (List Bytes)) :
    validFeatures (copyFeatures source) = true := by
  unfold copyFeatures
  split
  · rfl
  split
  · rfl
  split
  · rfl
  rename_i features few accepted
  refine validFeatures_iff.mpr ⟨Nat.le_of_not_lt few, ?_⟩
  intro feature mem
  have one := accepted
  simp only [List.any_eq_true, decide_eq_true_eq, not_exists, not_and, not_or, not_lt] at one
  exact one feature mem

/-- The content of a valid feature list, with its offsets. -/
theorem stringsSize_le {features : List Bytes} (valid : validFeatures features = true) :
    stringsSize (some features) ≤ 40000 := by
  obtain ⟨few, each⟩ := validFeatures_iff.mp valid
  have bound := stringsSize_le_of_bounds few fun feature mem => (each feature mem).2
  exact Nat.le_trans bound (by decide)

theorem readSessionId_map (sessionId : Option SessionId) :
    readSessionId (sessionId.map Subtype.val) = some sessionId := by
  cases sessionId with
  | none => rfl
  | some id =>
      obtain ⟨bytes, length⟩ := id
      cases bytes with
      | nil => cases length
      | cons byte bytes =>
          have copied := copyFixed_some (⟨byte :: bytes, length⟩ : SessionId)
          simp only [Option.map_some, readSessionId, copied]

/-! ## What an encoder builds -/

/-- The envelope carries the message: the decoder of its kind accepts it and
reads the message back, and it fits the wire. -/
structure MessageKind.Carries (kind : MessageKind) (message : kind.Payload)
    (envelope : Envelope) : Prop where
  small : envelope.contentSize ≤ 50000
  valid : kind.valid envelope = true
  reads : kind.read envelope = some (.ok message)

section Encoders

variable (fb : Binding Envelope)

theorem encodeClientHello_cases (message : ClientHelloMessage) :
    encodeClientHello fb message = .error .invalidField ∨
      ∃ envelope, encodeClientHello fb message = .ok (fb.build envelope) ∧
        MessageKind.clientHello.Carries message envelope := by
  unfold encodeClientHello
  split
  · exact .inl rfl
  rename_i accepted
  simp only [not_or, not_lt] at accepted
  obtain ⟨requestId, minVersion, range, sdkVersion, sdkVersionSize⟩ := accepted
  refine .inr ⟨_, rfl, ?_, ?_, ?_⟩
  · change message.nonce.val.length + 16 + (message.publicKey.val.length + 16) +
      (message.sdkVersion.length + 16) ≤ 50000
    rw [message.nonce.2, message.publicKey.2]
    unfold kMaxSdkVersionSize at sdkVersionSize
    unfold kKeySize
    omega
  · exact MessageKind.valid_createEnvelope (by decide) requestId rfl
  · simp [MessageKind.read, readClientHello, Envelope.bodyAsClientHello, createClientHello,
      ClientHello.minProtocolVersion, ClientHello.maxProtocolVersion, stringOrEmpty, minVersion,
      range, sdkVersion, sdkVersionSize]

theorem encodeServerHello_cases (message : ServerHelloMessage) :
    encodeServerHello fb message = .error .invalidField ∨
      ∃ envelope, encodeServerHello fb message = .ok (fb.build envelope) ∧
        MessageKind.serverHello.Carries message envelope := by
  unfold encodeServerHello
  split
  · exact .inl rfl
  rename_i accepted
  simp only [not_or, not_lt] at accepted
  obtain ⟨requestId, selectedVersion, serviceKeyId, serviceKeyIdSize⟩ := accepted
  refine .inr ⟨_, rfl, ?_, ?_, ?_⟩
  · change message.nonce.val.length + 16 + (message.publicKey.val.length + 16) +
      (message.serviceKeyId.length + 16) + (message.signature.val.length + 16) ≤ 50000
    rw [message.nonce.2, message.publicKey.2, message.signature.2]
    unfold kMaxKeyIdSize at serviceKeyIdSize
    unfold kKeySize kSignatureSize
    omega
  · exact MessageKind.valid_createEnvelope (by decide) requestId rfl
  · simp [MessageKind.read, readServerHello, Envelope.bodyAsServerHello, createServerHello,
      ServerHello.selectedProtocolVersion, stringOrEmpty, selectedVersion, serviceKeyId,
      serviceKeyIdSize]

theorem encodeClientFinished_cases (message : ClientFinishedMessage) :
    encodeClientFinished fb message = .error .invalidField ∨
      ∃ envelope, encodeClientFinished fb message = .ok (fb.build envelope) ∧
        MessageKind.clientFinished.Carries message envelope := by
  unfold encodeClientFinished
  split
  · exact .inl rfl
  rename_i accepted
  rw [not_or] at accepted
  obtain ⟨requestId, protocolVersion⟩ := accepted
  refine .inr ⟨_, rfl, ?_, ?_, ?_⟩
  · change message.transcriptHash.val.length + 16 ≤ 50000
    rw [message.transcriptHash.2]
    decide
  · exact MessageKind.valid_createEnvelope (by simp [protocolVersion, MessageKind.isHello])
      requestId rfl
  · simp [MessageKind.read, readClientFinished, Envelope.bodyAsClientFinished,
      createClientFinished]

theorem encodeAuthorize_cases (message : AuthorizeMessage) :
    encodeAuthorize fb message = .error .invalidField ∨
      ∃ envelope, encodeAuthorize fb message = .ok (fb.build envelope) ∧
        MessageKind.authorize.Carries message envelope := by
  unfold encodeAuthorize
  split
  · exact .inl rfl
  rename_i accepted
  simp only [not_or, not_lt] at accepted
  obtain ⟨requestId, protocolVersion, productId, productIdSize, processId⟩ := accepted
  refine .inr ⟨_, rfl, ?_, ?_, ?_⟩
  · change message.productId.length + 16 ≤ 50000
    unfold kMaxProductIdSize at productIdSize
    omega
  · exact MessageKind.valid_createEnvelope (by simp [protocolVersion, MessageKind.isHello])
      requestId rfl
  · simp [MessageKind.read, readAuthorize, Envelope.bodyAsAuthorize, createAuthorize,
      Authorize.processId, Authorize.processStartTime, stringOrEmpty, productId, productIdSize,
      processId]

theorem encodeAuthResult_cases (message : AuthResultMessage) :
    encodeAuthResult fb message = .error .invalidField ∨
      ∃ envelope, encodeAuthResult fb message = .ok (fb.build envelope) ∧
        MessageKind.authResult.Carries message envelope := by
  unfold encodeAuthResult
  split
  · exact .inl rfl
  rename_i accepted
  simp only [not_or, Bool.not_eq_true', Bool.not_eq_false] at accepted
  obtain ⟨requestId, protocolVersion, knownError, features, granted, refused⟩ := accepted
  refine .inr ⟨_, rfl, ?_, ?_, ?_⟩
  · have featuresSize := stringsSize_le features
    have sessionSize : optionSize (message.sessionId.map Subtype.val) ≤ 32 := by
      cases message.sessionId with
      | none => decide
      | some id =>
          change id.val.length + 16 ≤ 32
          rw [id.2]
          decide
    exact Nat.le_trans (Nat.add_le_add sessionSize featuresSize) (by decide)
  · exact MessageKind.valid_createEnvelope (by simp [protocolVersion, MessageKind.isHello])
      requestId rfl
  · have session := readSessionId_map message.sessionId
    simpa [-Option.map_subtype, MessageKind.read, readAuthResult, Envelope.bodyAsAuthResult,
      createAuthResult, AuthResult.error, AuthResult.expireTime, AuthResult.heartbeatIntervalMs,
      AuthResult.heartbeatTimeoutMs, copyFeatures_of_valid features, session, knownError]
      using And.intro granted refused

theorem encodeHeartbeat_cases (message : HeartbeatMessage) :
    encodeHeartbeat fb message = .error .invalidField ∨
      ∃ envelope, encodeHeartbeat fb message = .ok (fb.build envelope) ∧
        MessageKind.heartbeat.Carries message envelope := by
  unfold encodeHeartbeat
  split
  · exact .inl rfl
  rename_i accepted
  rw [not_or] at accepted
  obtain ⟨requestId, protocolVersion⟩ := accepted
  refine .inr ⟨_, rfl, ?_, ?_, ?_⟩
  · change message.sessionId.val.length + 16 ≤ 50000
    rw [message.sessionId.2]
    decide
  · exact MessageKind.valid_createEnvelope (by simp [protocolVersion, MessageKind.isHello])
      requestId rfl
  · simp [MessageKind.read, readHeartbeat, Envelope.bodyAsHeartbeat, createHeartbeat]

theorem encodeHeartbeatAck_cases (message : HeartbeatAckMessage) :
    encodeHeartbeatAck fb message = .error .invalidField ∨
      ∃ envelope, encodeHeartbeatAck fb message = .ok (fb.build envelope) ∧
        MessageKind.heartbeatAck.Carries message envelope := by
  unfold encodeHeartbeatAck
  split
  · exact .inl rfl
  rename_i accepted
  simp only [not_or, Bool.not_eq_true', Bool.not_eq_false] at accepted
  obtain ⟨requestId, protocolVersion, knownState, features⟩ := accepted
  refine .inr ⟨_, rfl, ?_, ?_, ?_⟩
  · exact Nat.le_trans (stringsSize_le features) (by decide)
  · exact MessageKind.valid_createEnvelope (by simp [protocolVersion, MessageKind.isHello])
      requestId rfl
  · simp [MessageKind.read, readHeartbeatAck, Envelope.bodyAsHeartbeatAck, createHeartbeatAck,
      HeartbeatAck.state, HeartbeatAck.expireTime, copyFeatures_of_valid features, knownState]

theorem encodeCloseSession_cases (message : CloseSessionMessage) :
    encodeCloseSession fb message = .error .invalidField ∨
      ∃ envelope, encodeCloseSession fb message = .ok (fb.build envelope) ∧
        MessageKind.closeSession.Carries message envelope := by
  unfold encodeCloseSession
  split
  · exact .inl rfl
  rename_i accepted
  rw [not_or] at accepted
  obtain ⟨requestId, protocolVersion⟩ := accepted
  refine .inr ⟨_, rfl, Nat.zero_le _, ?_, ?_⟩
  · exact MessageKind.valid_createEnvelope (by simp [protocolVersion, MessageKind.isHello])
      requestId rfl
  · simp [MessageKind.read, readCloseSession]

theorem encodeError_cases (message : ErrorMessage) :
    encodeError fb message = .error .invalidField ∨
      ∃ envelope, encodeError fb message = .ok (fb.build envelope) ∧
        MessageKind.error.Carries message envelope := by
  unfold encodeError
  split
  · exact .inl rfl
  rename_i accepted
  simp only [not_or, not_lt, Bool.not_eq_true', Bool.not_eq_false] at accepted
  obtain ⟨requestId, protocolVersion, knownError, isError, text, textSize⟩ := accepted
  refine .inr ⟨_, rfl, ?_, ?_, ?_⟩
  · change message.message.length + 16 ≤ 50000
    unfold kMaxErrorMessageSize at textSize
    omega
  · exact MessageKind.valid_createEnvelope (by simp [protocolVersion, MessageKind.isHello])
      requestId rfl
  · simp [MessageKind.read, readError, Envelope.bodyAsError, createError, Error.code,
      stringOrEmpty, knownError, isError, text, textSize]

/-- An encoder refuses its message or builds an envelope that carries it. -/
theorem MessageKind.encode_cases (kind : MessageKind) (message : kind.Payload) :
    kind.encode fb message = .error .invalidField ∨
      ∃ envelope, kind.encode fb message = .ok (fb.build envelope) ∧
        kind.Carries message envelope := by
  cases kind with
  | clientHello => exact encodeClientHello_cases fb message
  | serverHello => exact encodeServerHello_cases fb message
  | clientFinished => exact encodeClientFinished_cases fb message
  | authorize => exact encodeAuthorize_cases fb message
  | authResult => exact encodeAuthResult_cases fb message
  | heartbeat => exact encodeHeartbeat_cases fb message
  | heartbeatAck => exact encodeHeartbeatAck_cases fb message
  | closeSession => exact encodeCloseSession_cases fb message
  | error => exact encodeError_cases fb message

/-! ## What a decoder accepts -/

variable {envelope : Envelope}

theorem encodeClientHello_of_read {message : ClientHelloMessage}
    (valid : MessageKind.clientHello.valid envelope = true)
    (reads : readClientHello envelope = some (.ok message)) :
    ∃ bytes, encodeClientHello fb message = .ok bytes := by
  obtain ⟨-, requestId, -⟩ := MessageKind.valid_iff.mp valid
  unfold readClientHello at reads
  obtain ⟨table, -, reads⟩ := Option.bind_eq_some_iff.mp reads
  replace reads := Option.some.inj reads
  split at reads
  · cases reads
  rename_i accepted
  split at reads
  · cases reads
    exact ⟨_, if_neg (not_or.mpr ⟨requestId, accepted⟩)⟩
  · cases reads

theorem encodeServerHello_of_read {message : ServerHelloMessage}
    (valid : MessageKind.serverHello.valid envelope = true)
    (reads : readServerHello envelope = some (.ok message)) :
    ∃ bytes, encodeServerHello fb message = .ok bytes := by
  obtain ⟨-, requestId, -⟩ := MessageKind.valid_iff.mp valid
  unfold readServerHello at reads
  obtain ⟨table, -, reads⟩ := Option.bind_eq_some_iff.mp reads
  replace reads := Option.some.inj reads
  split at reads
  · cases reads
  rename_i accepted
  split at reads
  · cases reads
    exact ⟨_, if_neg (not_or.mpr ⟨requestId, accepted⟩)⟩
  · cases reads

/-- An accepted application envelope passes the two checks every encoder
starts with. -/
theorem MessageKind.application_of_valid {kind : MessageKind}
    (valid : kind.valid envelope = true) (application : kind.isHello = false) :
    envelope.requestId ≠ 0 ∧ envelope.protocolVersion ≠ 0 := by
  obtain ⟨version, requestId, -⟩ := MessageKind.valid_iff.mp valid
  refine ⟨requestId, fun zero => ?_⟩
  rw [version.mp zero] at application
  cases application

theorem encodeClientFinished_of_read {message : ClientFinishedMessage}
    (valid : MessageKind.clientFinished.valid envelope = true)
    (reads : readClientFinished envelope = some (.ok message)) :
    ∃ bytes, encodeClientFinished fb message = .ok bytes := by
  obtain ⟨requestId, version⟩ := MessageKind.application_of_valid valid rfl
  unfold readClientFinished at reads
  obtain ⟨table, -, reads⟩ := Option.bind_eq_some_iff.mp reads
  replace reads := Option.some.inj reads
  split at reads
  · cases reads
    exact ⟨_, if_neg (not_or.mpr ⟨requestId, version⟩)⟩
  · cases reads

theorem encodeAuthorize_of_read {message : AuthorizeMessage}
    (valid : MessageKind.authorize.valid envelope = true)
    (reads : readAuthorize envelope = some (.ok message)) :
    ∃ bytes, encodeAuthorize fb message = .ok bytes := by
  obtain ⟨requestId, version⟩ := MessageKind.application_of_valid valid rfl
  unfold readAuthorize at reads
  obtain ⟨table, -, reads⟩ := Option.bind_eq_some_iff.mp reads
  replace reads := Option.some.inj reads
  split at reads
  · cases reads
  · rename_i accepted
    cases reads
    exact ⟨_, if_neg (not_or.mpr ⟨requestId, not_or.mpr ⟨version, accepted⟩⟩)⟩

theorem encodeAuthResult_of_read {message : AuthResultMessage}
    (valid : MessageKind.authResult.valid envelope = true)
    (reads : readAuthResult envelope = some (.ok message)) :
    ∃ bytes, encodeAuthResult fb message = .ok bytes := by
  obtain ⟨requestId, version⟩ := MessageKind.application_of_valid valid rfl
  unfold readAuthResult at reads
  obtain ⟨table, -, reads⟩ := Option.bind_eq_some_iff.mp reads
  replace reads := Option.some.inj reads
  split at reads
  · cases reads
  split at reads
  · cases reads
  split at reads
  · cases reads
  rename_i accepted
  cases reads
  rw [not_or] at accepted
  have features := validFeatures_copyFeatures table.features
  refine ⟨_, if_neg ?_⟩
  simp only [not_or]
  exact ⟨requestId, version, accepted.1, by rw [features]; decide, not_or.mp accepted.2⟩

theorem encodeHeartbeat_of_read {message : HeartbeatMessage}
    (valid : MessageKind.heartbeat.valid envelope = true)
    (reads : readHeartbeat envelope = some (.ok message)) :
    ∃ bytes, encodeHeartbeat fb message = .ok bytes := by
  obtain ⟨requestId, version⟩ := MessageKind.application_of_valid valid rfl
  unfold readHeartbeat at reads
  obtain ⟨table, -, reads⟩ := Option.bind_eq_some_iff.mp reads
  replace reads := Option.some.inj reads
  split at reads
  · cases reads
    exact ⟨_, if_neg (not_or.mpr ⟨requestId, version⟩)⟩
  · cases reads

theorem encodeHeartbeatAck_of_read {message : HeartbeatAckMessage}
    (valid : MessageKind.heartbeatAck.valid envelope = true)
    (reads : readHeartbeatAck envelope = some (.ok message)) :
    ∃ bytes, encodeHeartbeatAck fb message = .ok bytes := by
  obtain ⟨requestId, version⟩ := MessageKind.application_of_valid valid rfl
  unfold readHeartbeatAck at reads
  obtain ⟨table, -, reads⟩ := Option.bind_eq_some_iff.mp reads
  replace reads := Option.some.inj reads
  split at reads
  · cases reads
  · rename_i accepted
    cases reads
    rw [not_or] at accepted
    have features := validFeatures_copyFeatures table.features
    refine ⟨_, if_neg ?_⟩
    simp only [not_or]
    exact ⟨requestId, version, accepted.1, by rw [features]; decide⟩

theorem encodeCloseSession_of_read {message : CloseSessionMessage}
    (valid : MessageKind.closeSession.valid envelope = true)
    (reads : readCloseSession envelope = some (.ok message)) :
    ∃ bytes, encodeCloseSession fb message = .ok bytes := by
  obtain ⟨requestId, version⟩ := MessageKind.application_of_valid valid rfl
  cases reads
  exact ⟨_, if_neg (not_or.mpr ⟨requestId, version⟩)⟩

theorem encodeError_of_read {message : ErrorMessage}
    (valid : MessageKind.error.valid envelope = true)
    (reads : readError envelope = some (.ok message)) :
    ∃ bytes, encodeError fb message = .ok bytes := by
  obtain ⟨requestId, version⟩ := MessageKind.application_of_valid valid rfl
  unfold readError at reads
  obtain ⟨table, -, reads⟩ := Option.bind_eq_some_iff.mp reads
  replace reads := Option.some.inj reads
  split at reads
  · cases reads
  · rename_i accepted
    cases reads
    exact ⟨_, if_neg (not_or.mpr ⟨requestId, not_or.mpr ⟨version, accepted⟩⟩)⟩

/-- What a decoder reads, the encoder of the same kind accepts. -/
theorem MessageKind.encode_of_read {kind : MessageKind} {message : kind.Payload}
    (valid : kind.valid envelope = true) (reads : kind.read envelope = some (.ok message)) :
    ∃ bytes, kind.encode fb message = .ok bytes := by
  cases kind with
  | clientHello => exact encodeClientHello_of_read fb valid reads
  | serverHello => exact encodeServerHello_of_read fb valid reads
  | clientFinished => exact encodeClientFinished_of_read fb valid reads
  | authorize => exact encodeAuthorize_of_read fb valid reads
  | authResult => exact encodeAuthResult_of_read fb valid reads
  | heartbeat => exact encodeHeartbeat_of_read fb valid reads
  | heartbeatAck => exact encodeHeartbeatAck_of_read fb valid reads
  | closeSession => exact encodeCloseSession_of_read fb valid reads
  | error => exact encodeError_of_read fb valid reads

end Encoders

/-! ## Through the verifier -/

section Verified

variable {fb : Binding Envelope}

/-- A built envelope of wire size passes the verifier and reads back. -/
theorem checkedEnvelope_build
    (lawful : fb.Lawful fb envelopeIdentifier Envelope.contentSize) {envelope : Envelope}
    (small : envelope.contentSize ≤ 50000) :
    checkedEnvelope fb (fb.build envelope) = some envelope := by
  have fits : tableSize + envelope.contentSize ≤ maxBufferSize :=
    Nat.le_trans (Nat.add_le_add_left small _) (by decide)
  have long := lawful.eight_le_build envelope fits
  have short := lawful.build_le envelope fits
  have nonempty : fb.build envelope ≠ [] := by
    intro empty
    rw [empty] at long
    cases long
  have bounded : ¬ (fb.build envelope).length > 1024 * 1024 := by
    have : tableSize + envelope.contentSize ≤ 50256 := Nat.add_le_add_left small 256
    omega
  have identified : hasIdentifier envelopeIdentifier (fb.build envelope) = true :=
    decide_eq_true (lawful.identifier_build envelope fits)
  unfold checkedEnvelope verifyEnvelope
  rw [if_neg nonempty, if_neg bounded, if_neg, lawful.verify_build envelope fits,
    lawful.root_build envelope fits]
  · rfl
  · rw [identified]
    simpa using long

theorem MessageKind.decode_of_checked (kind : MessageKind) {bytes : Bytes} {envelope : Envelope}
    (checked : checkedEnvelope fb bytes = some envelope) :
    kind.decode fb bytes =
      if kind.valid envelope then kind.read envelope else some (.error .unexpectedType) := by
  rw [decode_eq, decodeBody, checked]

/-- What a decoder accepts went through the verifier and the envelope check. -/
theorem MessageKind.decode_eq_ok {kind : MessageKind} {bytes : Bytes} {message : kind.Payload}
    (decoded : kind.decode fb bytes = some (.ok message)) :
    ∃ envelope, checkedEnvelope fb bytes = some envelope ∧ kind.valid envelope = true ∧
      kind.read envelope = some (.ok message) := by
  cases checked : checkedEnvelope fb bytes with
  | none =>
      rw [decode_eq, decodeBody, checked] at decoded
      cases decoded
  | some envelope =>
      rw [kind.decode_of_checked checked] at decoded
      split at decoded
      · rename_i valid
        exact ⟨envelope, rfl, valid, decoded⟩
      · cases decoded

/-- The bytes of an encoded message pass the verifier as an envelope that
carries it. -/
theorem MessageKind.carries_of_encode
    (lawful : fb.Lawful fb envelopeIdentifier Envelope.contentSize) {kind : MessageKind}
    {message : kind.Payload} {bytes : Bytes} (encoded : kind.encode fb message = .ok bytes) :
    ∃ envelope, checkedEnvelope fb bytes = some envelope ∧ kind.Carries message envelope := by
  rcases kind.encode_cases fb message with refused | ⟨envelope, built, carries⟩
  · rw [refused] at encoded
    cases encoded
  · rw [built] at encoded
    cases encoded
    exact ⟨envelope, checkedEnvelope_build lawful carries.small, carries⟩

/-- Every encoded message fits a record. -/
theorem MessageKind.length_of_encode
    (lawful : fb.Lawful fb envelopeIdentifier Envelope.contentSize) (kind : MessageKind)
    {message : kind.Payload} {bytes : Bytes} (encoded : kind.encode fb message = .ok bytes) :
    bytes ≠ [] ∧ bytes.length ≤ 50256 := by
  rcases kind.encode_cases fb message with refused | ⟨envelope, built, carries⟩
  · rw [refused] at encoded
    cases encoded
  rw [built] at encoded
  cases encoded
  have fits : tableSize + envelope.contentSize ≤ maxBufferSize :=
    Nat.le_trans (Nat.add_le_add_left carries.small _) (by decide)
  constructor
  · intro empty
    have long := lawful.eight_le_build envelope fits
    rw [empty] at long
    cases long
  · exact Nat.le_trans (lawful.build_le envelope fits) (Nat.add_le_add_left carries.small 256)

/-- An encoded message decodes to itself. -/
theorem MessageKind.decode_encode
    (lawful : fb.Lawful fb envelopeIdentifier Envelope.contentSize) (kind : MessageKind)
    {message : kind.Payload} {bytes : Bytes} (encoded : kind.encode fb message = .ok bytes) :
    kind.decode fb bytes = some (.ok message) := by
  obtain ⟨envelope, checked, carries⟩ := MessageKind.carries_of_encode lawful encoded
  rw [kind.decode_of_checked checked, if_pos carries.valid]
  exact carries.reads

theorem MessageKind.decode_other
    (lawful : fb.Lawful fb envelopeIdentifier Envelope.contentSize) {kind other : MessageKind}
    {message : kind.Payload} {bytes : Bytes} (encoded : kind.encode fb message = .ok bytes)
    (different : other ≠ kind) : other.decode fb bytes = some (.error .unexpectedType) := by
  obtain ⟨envelope, checked, carries⟩ := MessageKind.carries_of_encode lawful encoded
  have refused : ¬ other.valid envelope = true := fun valid =>
    different (MessageKind.valid_unique valid carries.valid)
  rw [other.decode_of_checked checked, if_neg refused]

/-- The codec of every message: an encoded message decodes to itself and to no
other kind, and what decodes could have been encoded. -/
theorem messageCodec_roundTrip
    (lawful : fb.Lawful fb envelopeIdentifier Envelope.contentSize) (kind : MessageKind) :
    (∀ message bytes, kind.encode fb message = .ok bytes →
      kind.decode fb bytes = some (.ok message) ∧
        ∀ other : MessageKind, other ≠ kind →
          other.decode fb bytes = some (.error .unexpectedType)) ∧
      ∀ bytes message, kind.decode fb bytes = some (.ok message) →
        ∃ encoded, kind.encode fb message = .ok encoded := by
  constructor
  · intro message bytes encoded
    refine ⟨MessageKind.decode_encode lawful kind encoded, ?_⟩
    intro other different
    exact MessageKind.decode_other lawful encoded different
  · intro bytes message decoded
    obtain ⟨envelope, -, valid, reads⟩ := MessageKind.decode_eq_ok decoded
    exact MessageKind.encode_of_read fb valid reads

/-- A granted session with two features. -/
def referenceAuthResult : AuthResultMessage where
  requestId := 7
  protocolVersion := 1
  sessionId := some ⟨List.replicate kSessionIdSize 5, List.length_replicate⟩
  features := [ofAscii "capture", ofAscii "export"]
  expireTime := 3000
  heartbeatIntervalMs := 5000
  heartbeatTimeoutMs := 15000

/-- An `AuthResult` on the reference binding. -/
theorem messageCodec_roundTrip_authResult :
    ∃ bytes, encodeAuthResult referenceEnvelopes referenceAuthResult = .ok bytes ∧
      decodeAuthResult referenceEnvelopes bytes = some (.ok referenceAuthResult) ∧
      decodeHeartbeat referenceEnvelopes bytes = some (.error .unexpectedType) := by
  have encodes : ∃ bytes, encodeAuthResult referenceEnvelopes referenceAuthResult = .ok bytes :=
    ⟨_, if_neg (by decide)⟩
  obtain ⟨bytes, encodes⟩ := encodes
  obtain ⟨decodes, others⟩ := (messageCodec_roundTrip referenceEnvelopes_lawful
    .authResult).1 referenceAuthResult bytes encodes
  exact ⟨bytes, encodes, decodes, others .heartbeat (by decide)⟩

/-! ## Absent bodies -/

/-- A decoder is safe on a byte string: it returns, and on an accepted
envelope of its type without a body it returns an error. -/
def MessageKind.SafeOn (fb : Binding Envelope) (kind : MessageKind) (bytes : Bytes) : Prop :=
  kind.decode fb bytes ≠ none ∧
    ∀ envelope, checkedEnvelope fb bytes = some envelope → envelope.bodyType = kind.type →
      envelope.body.absent = true → ∃ error, kind.decode fb bytes = some (.error error)

/-- Eight decoders read through the null body, and `decodeCloseSession`, which
reads no field, returns a message. -/
theorem MessageKind.read_of_absent {kind : MessageKind} {envelope : Envelope}
    (typed : envelope.bodyType = kind.type) (absent : envelope.body.absent = true) :
    kind.read envelope = none ∨ ∃ message, kind.read envelope = some (.ok message) := by
  obtain ⟨version, requestId, body⟩ := envelope
  cases kind <;> cases body <;> cases typed
  all_goals
    rename_i value
    cases value with
    | none => first | exact .inl rfl | exact .inr ⟨_, rfl⟩
    | some table => cases absent

/-- The envelope that a decoder reads a body from has one. -/
def MessageKind.bodied (fb : Binding Envelope) (kind : MessageKind) (bytes : Bytes) : Bool :=
  match checkedEnvelope fb bytes with
  | none => true
  | some envelope => !(kind.valid envelope && envelope.body.absent)

theorem MessageKind.read_of_present {kind : MessageKind} {envelope : Envelope}
    (typed : envelope.bodyType = kind.type) (present : ¬ envelope.body.absent = true) :
    kind.read envelope ≠ none := by
  obtain ⟨version, requestId, body⟩ := envelope
  cases kind <;> cases body <;> cases typed
  all_goals
    rename_i value
    cases value with
    | none => exact absurd rfl present
    | some table => exact Option.some_ne_none _

/-- A decoder that reads a body returns exactly when there is one. -/
theorem MessageKind.decode_ne_none_iff {kind : MessageKind} (reads : kind ≠ .closeSession)
    (bytes : Bytes) : kind.decode fb bytes ≠ none ↔ kind.bodied fb bytes = true := by
  unfold MessageKind.bodied
  cases checked : checkedEnvelope fb bytes with
  | none =>
      rw [MessageKind.decode_eq, decodeBody, checked]
      exact ⟨fun _ => rfl, fun _ => Option.some_ne_none _⟩
  | some envelope =>
      rw [kind.decode_of_checked checked]
      dsimp only
      cases valid : kind.valid envelope with
      | false => exact ⟨fun _ => rfl, fun _ => Option.some_ne_none _⟩
      | true =>
          have typed := (MessageKind.valid_iff.mp valid).2.2
          rw [if_pos rfl, Bool.true_and]
          cases absent : envelope.body.absent with
          | false =>
              have present := MessageKind.read_of_present typed (by rw [absent]; decide)
              exact ⟨fun _ => rfl, fun _ => present⟩
          | true =>
              refine ⟨fun returns => absurd ?_ returns, fun present => by cases present⟩
              obtain ⟨version, requestId, body⟩ := envelope
              cases kind <;> cases body <;> cases typed
              all_goals
                rename_i value
                cases value with
                | none => first | rfl | exact absurd rfl reads
                | some table => cases absent

/-- A decoder is safe exactly on the byte strings that are not an accepted
envelope of its type, version and request id without a body. -/
theorem decoder_safe_iff (fb : Binding Envelope) (kind : MessageKind) (bytes : Bytes) :
    kind.SafeOn fb bytes ↔
      ¬ ∃ envelope, checkedEnvelope fb bytes = some envelope ∧ kind.valid envelope = true ∧
        envelope.body.absent = true := by
  constructor
  · rintro ⟨returns, errors⟩ ⟨envelope, checked, valid, absent⟩
    have typed := (MessageKind.valid_iff.mp valid).2.2
    obtain ⟨error, failed⟩ := errors envelope checked typed absent
    rw [kind.decode_of_checked checked, if_pos valid] at failed returns
    rcases MessageKind.read_of_absent typed absent with null | ⟨message, reads⟩
    · exact returns null
    · rw [reads] at failed
      cases failed
  · intro bodied
    cases checked : checkedEnvelope fb bytes with
    | none =>
        have refused : kind.decode fb bytes = some (.error .invalidEnvelope) := by
          rw [MessageKind.decode_eq, decodeBody, checked]
        refine ⟨by rw [refused]; exact Option.some_ne_none _, ?_⟩
        intro envelope accepted
        rw [checked] at accepted
        cases accepted
    | some envelope =>
        have decoded := kind.decode_of_checked checked
        by_cases valid : kind.valid envelope = true
        · have typed := (MessageKind.valid_iff.mp valid).2.2
          have present : ¬ envelope.body.absent = true := fun absent =>
            bodied ⟨envelope, checked, valid, absent⟩
          rw [if_pos valid] at decoded
          refine ⟨by rw [decoded]; exact MessageKind.read_of_present typed present, ?_⟩
          intro other accepted _ absent
          rw [checked] at accepted
          cases accepted
          exact absurd absent present
        · rw [if_neg valid] at decoded
          exact ⟨by rw [decoded]; exact Option.some_ne_none _, fun _ _ _ _ => ⟨_, decoded⟩⟩

/-- A `ClientHello` tag without a body, from anyone who can connect: the
verifier accepts it and `decodeClientHello` reads through a null pointer. -/
theorem decodeClientHello_reads_null :
    ¬ ∀ fb : Binding Envelope, fb.Lawful fb envelopeIdentifier Envelope.contentSize →
      ∀ (kind : MessageKind) (bytes : Bytes), kind.SafeOn fb bytes := by
  intro safe
  have returns := (safe referenceEnvelopes referenceEnvelopes_lawful .clientHello
    (finish referenceEnvelopes (.clientHello none) 0 1)).1
  have checked : checkedEnvelope referenceEnvelopes
      (finish referenceEnvelopes (.clientHello none) 0 1) =
        some (createEnvelope 0 1 (.clientHello none)) :=
    checkedEnvelope_build referenceEnvelopes_lawful (Nat.zero_le _)
  apply returns
  rw [MessageKind.decode_of_checked .clientHello checked]
  rfl

end Verified

end YoAuthorize.Protocol
