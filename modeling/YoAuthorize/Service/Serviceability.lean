import YoAuthorize.Backend.LicenseRoundTrip
import YoAuthorize.Protocol.SchemaReference
import YoAuthorize.Service.HonestService
import YoAuthorize.Service.Startup

/-!
# Whether a started service serves its clients

The configuration and the license are accepted under limits of their own: the
wire allows shorter key ids, product ids and features.  A service that started
serves an honest client exactly when its names and features fit the wire.
-/

namespace YoAuthorize.Service

open Octets Crypto FlatBuffer Protocol Protocol.Schema YoAuthorize.Core

/-! ## What an answered client has shown -/

section

variable {fb : Binding Envelope}

theorem serviceKeyId_of_encode {message : ServerHelloMessage} {bytes : Bytes}
    (encoded : encodeServerHello fb message = .ok bytes) :
    message.serviceKeyId.length ≤ kMaxKeyIdSize := by
  unfold encodeServerHello at encoded
  split at encoded
  · cases encoded
  · rename_i accepted
    simp only [not_or] at accepted
    exact Nat.not_lt.mp accepted.2.2.2

theorem productId_of_encode {message : AuthorizeMessage} {bytes : Bytes}
    (encoded : encodeAuthorize fb message = .ok bytes) :
    message.productId.length ≤ kMaxProductIdSize := by
  unfold encodeAuthorize at encoded
  split at encoded
  · cases encoded
  · rename_i accepted
    simp only [not_or] at accepted
    exact Nat.not_lt.mp accepted.2.2.2.1

theorem validFeatures_of_encode {message : AuthResultMessage} {bytes : Bytes}
    (encoded : encodeAuthResult fb message = .ok bytes) :
    validFeatures message.features = true := by
  unfold encodeAuthResult at encoded
  split at encoded
  · cases encoded
  · rename_i accepted
    simp only [not_or, Bool.not_eq_true', Bool.not_eq_false] at accepted
    exact accepted.2.2.2.1

/-- A connection that answers a first frame could encode its key id. -/
theorem serviceKeyId_of_answer {connection : Connection} {call : HandleCall} {frame : Bytes}
    {handled : Handled} {response : Bytes} (new : connection.state = .awaitingHello)
    (handles : connection.handleAt fb call frame = some handled)
    (responds : handled.result.response = some response) :
    connection.handshake.serviceKeyId.length ≤ kMaxKeyIdSize := by
  unfold Connection.handleAt Connection.handle at handles
  rw [new] at handles
  dsimp only at handles
  unfold Connection.handleHello at handles
  split at handles
  · cases handles
    cases responds
  rename_i header payload _
  split at handles
  · cases handles
    cases responds
  rcases connection.handshake.handleClientHello_cases fb call.ssl payload with
    ends | ⟨error, fails⟩ | ⟨answer, answered, -⟩
  · rw [ends] at handles
    cases handles
  · rw [fails] at handles
    cases handles
    cases responds
  · rcases ServerHandshake.answers_of_answer answered with ⟨-, -, answers⟩
    rw [← answers.serviceKeyId]
    exact serviceKeyId_of_encode answers.encoded

theorem serviceKeyId_of_establish {client : ClientHandshake} {connection : Connection}
    {calls : ExchangeCalls} {established : ClientHandshake × Connection}
    (new : connection.state = .awaitingHello)
    (establishes : establish fb client connection calls = some established) :
    connection.handshake.serviceKeyId.length ≤ kMaxKeyIdSize := by
  unfold establish at establishes
  simp only [Option.bind_eq_bind, Option.bind_eq_some_iff] at establishes
  rcases establishes with ⟨⟨_, hello⟩, -, handled, handles, response, responds, -⟩
  exact serviceKeyId_of_answer new handles responds

theorem productId_of_request {client : ClientHandshake} {connection : Connection}
    {calls : ExchangeCalls} {request : AuthorizeRequest} {result : AuthResultMessage}
    (answered : requestAuthorization fb client connection calls request = some result) :
    request.productId.length ≤ kMaxProductIdSize := by
  unfold requestAuthorization at answered
  simp only [Option.bind_eq_bind, Option.bind_eq_some_iff] at answered
  rcases answered with ⟨plaintext, encodes, -⟩
  cases encoded : encodeAuthorize fb (request.message client.selectedVersion) with
  | error error =>
      rw [encoded] at encodes
      cases encodes
  | ok bytes => exact productId_of_encode encoded

theorem validFeatures_of_decode {bytes : Bytes} {result : AuthResultMessage}
    (decoded : decodeAuthResult fb bytes = some (.ok result)) :
    validFeatures result.features = true := by
  have ofKind : MessageKind.authResult.decode fb bytes = some (.ok result) := decoded
  rcases MessageKind.decode_eq_ok ofKind with ⟨envelope, -, valid, reads⟩
  rcases MessageKind.encode_of_read fb valid reads with ⟨encoded, encodes⟩
  exact validFeatures_of_encode encodes

theorem validFeatures_of_request {client : ClientHandshake} {connection : Connection}
    {calls : ExchangeCalls} {request : AuthorizeRequest} {result : AuthResultMessage}
    (answered : requestAuthorization fb client connection calls request = some result) :
    validFeatures result.features = true := by
  unfold requestAuthorization at answered
  simp only [Option.bind_eq_bind, Option.bind_eq_some_iff] at answered
  rcases answered with ⟨_, -, ⟨writing, frame⟩, -, handled, -, response, -, opened⟩
  unfold openAuthResult at opened
  simp only [Option.bind_eq_bind, Option.bind_eq_some_iff] at opened
  rcases opened with ⟨⟨_, plaintext⟩, -, decision, decoded, read⟩
  cases decision with
  | error error => cases read
  | ok message =>
      cases read
      exact validFeatures_of_decode decoded

end

/-! ## Serving an honest client -/

/-- A client that does its part, at a moment when the license has not expired
and a session is free, and whose calls of the library succeed. -/
structure HonestAttempt (service : AuthorizationService) (suite : CryptoSuite)
    (client : ClientHandshake) (calls : ExchangeCalls) (request : AuthorizeRequest) : Prop where
  ready : client.Ready
  trusted : client.trustedKeys service.config.identityKeyId =
    some (suite.publicKey service.keys.identityPrivateKey)
  minVersion : client.minVersion ≤ 1
  maxVersion : 1 ≤ client.maxVersion
  correct : calls.Correct suite
  requestId : request.requestId ≠ 0
  processId : request.processId ≠ 0
  product : request.productId = service.config.productId
  unexpired : licenseExpired service.license calls.authorize.nowUnixSeconds = false
  free : calls.authorize.sessions.active service.license.productId <
    service.license.maxSessions.toNat
  drawn : Core.SessionManager.drawId calls.authorize.sessions.sessions calls.authorize.draws ≠ none

/-- The client is authorized with the features of the license. -/
def Served (fb : Binding Envelope) (service : AuthorizationService) (peerIdentity : Bytes)
    (client : ClientHandshake) (calls : ExchangeCalls) (request : AuthorizeRequest) : Prop :=
  ∃ result, exchange fb client (service.connection peerIdentity) calls request = some result ∧
    result.error = .none ∧ result.features = service.license.features

/-- The limits of the wire on what a started service was configured with. -/
structure AuthorizationService.WithinWireLimits (service : AuthorizationService) : Prop where
  identityKeyId : service.config.identityKeyId.length ≤ kMaxKeyIdSize
  productId : service.config.productId.length ≤ kMaxProductIdSize
  features : service.license.features.length ≤ kMaxFeatures
  feature : ∀ feature ∈ service.license.features, feature.length ≤ kMaxFeatureSize

section

variable {fb : Binding Envelope} {service : AuthorizationService} {suite : CryptoSuite}
  {client : ClientHandshake} {calls : ExchangeCalls} {request : AuthorizeRequest}
  {peerIdentity : Bytes}

theorem peerIdentity_ne_nil (uid gid : UInt32) (pid : Int) :
    AuthorizationService.peerIdentity uid gid pid ≠ [] := by
  intro empty
  have absent : ([] : Bytes) = utf8 "" := rfl
  unfold AuthorizationService.peerIdentity at empty
  have text := congrArg String.length (utf8_inj.mp (empty.trans absent))
  simp only [String.length_append] at text
  have four : "uid=".length = 4 := rfl
  have zero : "".length = 0 := rfl
  omega

theorem withinWireLimits_of_served (started : service.Started)
    (product : request.productId = service.config.productId)
    (served : Served fb service peerIdentity client calls request) : service.WithinWireLimits := by
  rcases served with ⟨result, exchanges, -, sameFeatures⟩
  unfold exchange at exchanges
  simp only [Option.bind_eq_bind, Option.bind_eq_some_iff] at exchanges
  rcases exchanges with ⟨⟨established, connection⟩, establishes, answered⟩
  have valid := validFeatures_of_request answered
  rw [sameFeatures] at valid
  rcases validFeatures_iff.mp valid with ⟨few, each⟩
  refine ⟨?_, ?_, few, fun feature mem => (each feature mem).2⟩
  · rw [← started.identityKeyId]
    exact serviceKeyId_of_establish rfl establishes
  · rw [← product]
    exact productId_of_request answered

theorem served_of_withinWireLimits
    (lawful : fb.Lawful fb envelopeIdentifier Envelope.contentSize) (started : service.Started)
    (attempt : HonestAttempt service suite client calls request) (peer : peerIdentity ≠ [])
    (limits : service.WithinWireLimits) :
    Served fb service peerIdentity client calls request := by
  have keyId : (service.connection peerIdentity).handshake.serviceKeyId =
      service.config.identityKeyId := started.identityKeyId
  have valid : validFeatures service.license.features = true := by
    refine validFeatures_iff.mpr ⟨limits.features, ?_⟩
    intro feature mem
    refine ⟨?_, limits.feature feature mem⟩
    rintro rfl
    exact started.license.features mem
  have version : min 1 client.maxVersion = 1 := if_pos attempt.maxVersion
  have overlap : max 1 client.minVersion ≤ min 1 client.maxVersion := by
    rw [version]
    change (if 1 ≤ client.minVersion then client.minVersion else 1) ≤ 1
    split
    · exact attempt.minVersion
    · exact UInt16.le_refl 1
  refine exchange_honest lawful attempt.correct attempt.ready rfl rfl ?_ ?_ overlap ?_
    attempt.requestId attempt.processId ?_ ?_ ?_ valid
  · rw [keyId]
    exact started.named.identityKeyId
  · rw [keyId]
    exact attempt.trusted
  · intro zero
    have one : (1 : UInt16) = 0 := version.symm.trans zero
    cases one
  · intro version
    refine ⟨attempt.product.trans started.license.productId.symm, attempt.unexpired, attempt.free,
      attempt.drawn, ?_, peer⟩
    change service.license.productId ≠ []
    rw [started.license.productId]
    exact started.named.productId
  · rw [keyId]
    exact limits.identityKeyId
  · rw [attempt.product]
    exact limits.productId

/-- A service that started serves every honest client exactly when its key id,
its product id and the features of its license fit the wire. -/
theorem served_iff_withinWireLimits {packages : Binding (License.LicensePackage Bytes)}
    {payloads : Binding (License.LicensePayload Bytes)} {ssl : OpenSsl} {platform : Platform}
    (lawful : fb.Lawful fb envelopeIdentifier Envelope.contentSize)
    (created : AuthorizationService.create packages payloads ssl platform = .ok service)
    (uid gid : UInt32) (pid : Int)
    (attempt : HonestAttempt service suite client calls request) :
    Served fb service (AuthorizationService.peerIdentity uid gid pid) client calls request ↔
      service.WithinWireLimits := by
  have started := AuthorizationService.started_of_create created
  exact ⟨withinWireLimits_of_served started attempt.product,
    served_of_withinWireLimits lawful started attempt (peerIdentity_ne_nil uid gid pid)⟩

end

/-! ## A service with a license of the backend -/

def referenceDocument : TomlTable :=
  [(utf8 "service", .table
      [(utf8 "identity_key_id", .string (utf8 "service-1")),
        (utf8 "identity_private_key", .string (utf8 "/etc/yoauthorize/identity.key")),
        (utf8 "license", .string (utf8 "/etc/yoauthorize/license.bin")),
        (utf8 "product_id", .string (utf8 "product-qt")),
        (utf8 "allowed_uids", .array [.integer 1000])]),
    (utf8 "license_keys", .array
      [.table
        [(utf8 "id", .string (utf8 "key-1")),
          (utf8 "public_key", .string (utf8 "/etc/yoauthorize/license.pub"))]])]

def referenceConfig : ServiceConfig where
  identityKeyId := utf8 "service-1"
  identityPrivateKeyPath := utf8 "/etc/yoauthorize/identity.key"
  licensePath := utf8 "/etc/yoauthorize/license.bin"
  productId := utf8 "product-qt"
  licenseKeys := [{ id := utf8 "key-1", publicKeyPath := utf8 "/etc/yoauthorize/license.pub" }]
  allowedUids := [1000]

theorem loadConfig_referenceDocument :
    loadConfig (.ok referenceDocument) = .ok referenceConfig := by
  rfl

def referencePlatform (package : Bytes) : Platform where
  configFile := .ok referenceDocument
  loadRawKey _ _ := .ok (.zeros kKeySize)
  collectLinuxMachineIdentity _ := .ok (utf8 "opaque-machine")
  readLicense _ := some package
  time := 15

def referenceKeys : LoadedKeys where
  identityKeyId := utf8 "service-1"
  identityPrivateKey := .zeros kKeySize
  licensePublicKeys := (∅ : AList fun _ : Bytes => Key).insert (utf8 "key-1") (.zeros kKeySize)

/-- A license of the backend with the given features. -/
def offering (features : List String) : Backend.LicenseDefinition :=
  { Backend.referenceDefinition with features }

def referenceService (features : List String) : AuthorizationService where
  config := referenceConfig
  keys := referenceKeys
  license := (offering features).snapshot

theorem referenceDefinition_started : Backend.referenceDefinition.notBefore ≤ 15 := by
  decide

theorem referenceDefinition_unexpired : 15 < Backend.referenceDefinition.expireTime := by
  decide

/-- The license of an issued package starts the service. -/
theorem create_reference {features : List String}
    (accepted : Backend.validate (offering features) = .ok ()) :
    ∃ package,
      Backend.generate Backend.referenceLibraries.dalek Backend.referenceLibraries.rustPackages
        Backend.referenceLibraries.rustPayloads (offering features) "key-1" (.zeros kKeySize) =
          .ok package ∧
      AuthorizationService.create Backend.referenceLibraries.packages
        Backend.referenceLibraries.payloads Backend.referenceLibraries.ssl
        (referencePlatform package) = .ok (referenceService features) := by
  have keyIdFits : "key-1" ≠ "" ∧ (utf8 "key-1").length ≤ uint16Max := by decide
  rcases Backend.generate_of_validate Backend.referenceLibraries_interoperable accepted keyIdFits
    (.zeros kKeySize) with ⟨package, generated⟩
  refine ⟨package, generated, ?_⟩
  have issued := Backend.issued_of_generate generated
  let validator : LicenseValidator :=
    { trustedKeys := fun id => referenceKeys.licensePublicKeys.lookup id }
  have trusted : validator.trustedKeys (utf8 "key-1") = some (.zeros kKeySize) := rfl
  have usable : (offering features).Usable (utf8 "product-qt") (utf8 "opaque-machine") 15 :=
    ⟨rfl, referenceDefinition_started, .inr referenceDefinition_unexpired,
      fun machine here => by cases here; rfl⟩
  have validates := (Backend.validate_issued Backend.referenceLibraries_interoperable issued
    trusted).mpr ⟨usable, rfl⟩
  have loadsKeys : loadKeys (referencePlatform package) referenceConfig = .ok referenceKeys := rfl
  have loadsConfig : loadConfig (referencePlatform package).configFile = .ok referenceConfig :=
    loadConfig_referenceDocument
  unfold AuthorizationService.create
  rw [loadsConfig]
  dsimp only
  rw [loadsKeys]
  dsimp only [referencePlatform]
  rw [show LicenseValidator.validate _ _ _ _ package referenceConfig.productId _ 15 = _ from
    validates]
  rfl

theorem referenceAttempt (features : List String) :
    HonestAttempt (referenceService features) referenceSuite referenceClient referenceCalls
      referenceRequest where
  ready := referenceClient_ready
  trusted := rfl
  minVersion := UInt16.le_refl 1
  maxVersion := UInt16.le_refl 1
  correct := referenceCalls_correct
  requestId := by decide
  processId := by decide
  product := rfl
  unexpired := rfl
  free := Nat.zero_lt_succ 1
  drawn := nofun

/-- A service with two short features serves its client. -/
theorem served_reference :
    ∃ package,
      AuthorizationService.create Backend.referenceLibraries.packages
        Backend.referenceLibraries.payloads Backend.referenceLibraries.ssl
        (referencePlatform package) = .ok (referenceService ["capture", "export"]) ∧
      Served referenceEnvelopes (referenceService ["capture", "export"])
        (AuthorizationService.peerIdentity 1000 1000 7) referenceClient referenceCalls
        referenceRequest := by
  have accepted : Backend.validate (offering ["capture", "export"]) = .ok () := rfl
  rcases create_reference accepted with ⟨package, -, created⟩
  refine ⟨package, created, ?_⟩
  apply (served_iff_withinWireLimits referenceEnvelopes_lawful created 1000 1000 7
    (referenceAttempt ["capture", "export"])).mpr
  exact ⟨by decide, by decide, by decide, by decide⟩

/-- A feature of 129 bytes. -/
def longFeature : String := String.ofList (List.replicate 129 'a')

/-- A license with a feature of 129 bytes is issued and starts the service,
which then refuses an honest client. -/
theorem longFeature_refused :
    ∃ package,
      Backend.generate Backend.referenceLibraries.dalek Backend.referenceLibraries.rustPackages
        Backend.referenceLibraries.rustPayloads (offering [longFeature]) "key-1"
          (.zeros kKeySize) = .ok package ∧
      AuthorizationService.create Backend.referenceLibraries.packages
        Backend.referenceLibraries.payloads Backend.referenceLibraries.ssl
        (referencePlatform package) = .ok (referenceService [longFeature]) ∧
      HonestAttempt (referenceService [longFeature]) referenceSuite referenceClient referenceCalls
        referenceRequest ∧
      ¬ Served referenceEnvelopes (referenceService [longFeature])
        (AuthorizationService.peerIdentity 1000 1000 7) referenceClient referenceCalls
        referenceRequest := by
  have accepted : Backend.validate (offering [longFeature]) = .ok () := by decide +kernel
  rcases create_reference accepted with ⟨package, generated, created⟩
  refine ⟨package, generated, created, referenceAttempt _, ?_⟩
  intro served
  have limits := withinWireLimits_of_served (AuthorizationService.started_of_create created) rfl
    served
  have short := limits.feature (utf8 longFeature) (List.mem_singleton_self _)
  exact absurd short (by decide +kernel)

end YoAuthorize.Service
