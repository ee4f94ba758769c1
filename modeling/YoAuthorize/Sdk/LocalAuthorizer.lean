import YoAuthorize.Sdk.Client
import YoAuthorize.Service.AuthorizationDecision
import YoAuthorize.Service.KeyStore

/-!
# Local authorization

`local_authorizer.cpp`: a program that validates a license file itself.  It answers
what the service answers that has started from the same file and keys, and what the
backend has put into the license, and it grants or denies nothing that no trusted key
has signed.
-/

namespace YoAuthorize.Sdk

open Octets Crypto FlatBuffer License YoAuthorize.Core
open FileRead (File readAll)
open Service (AuthorizationService LoadedKeys Platform ServiceConfig Held licenseExpired)

/-- The values of `ClientError` that a local authorization returns. -/
inductive LocalError : Type
  | none
  | invalidConfig
  | authorizationDenied
  | licenseFile
  | invalidLicense
  | machineIdentity
  deriving DecidableEq, Repr

/-- `Status` with these errors. -/
structure LocalStatus : Type where
  error : LocalError := .none
  message : String := ""
  deriving DecidableEq, Repr

def LocalStatus.succeeds (status : LocalStatus) : Bool := status.error = .none

structure LocalAuthorizationConfig : Type where
  productId : Bytes := []
  trustedLicenseKeys : AList fun _ : Bytes => Key := ∅
  machineIdPath : Bytes := ofAscii "/etc/machine-id"
  productUuidPath : Bytes := ofAscii "/sys/class/dmi/id/product_uuid"
  requireMachineId : Bool := true
  requireProductUuid : Bool := false

structure LocalAuthorizationResult : Type where
  status : LocalStatus := {}
  snapshot : LicenseSnapshot := {}
  deriving DecidableEq

/-- What a local authorization gets from its machine. -/
structure LocalHost : Type where
  files : Bytes → File
  collectLinuxMachineIdentity : Service.LinuxMachineIdentityConfig → Result Bytes
  time : UInt64

def mapLicenseError : ErrorCode → LocalStatus
  | .expired => { error := .authorizationDenied, message := "license has expired" }
  | .notYetValid => { error := .authorizationDenied, message := "license is not yet valid" }
  | .productMismatch =>
      { error := .authorizationDenied, message := "license product does not match" }
  | .machineMismatch =>
      { error := .authorizationDenied, message := "license is bound to another machine" }
  | .unknownKey => { error := .invalidLicense, message := "license signing key is not trusted" }
  | .invalidSignature => { error := .invalidLicense, message := "license signature is invalid" }
  | _ => { error := .invalidLicense, message := "license format or policy is invalid" }

def EINTR : Int := 4

/-- Unlike the service, the loop tries an interrupted `read` again. -/
def interrupted (error : Int) : Bool := error = EINTR

def readLicense (file : File) : Except LocalStatus Bytes :=
  match file.opened with
  | .error _ => .error { error := .licenseFile, message := "license file could not be opened" }
  | .ok () =>
      match file.stat with
      | none =>
          .error { error := .licenseFile, message := "license file is invalid or too large" }
      | some info =>
          if !info.isRegular ∨ info.size ≤ 0 ∨ info.size > kMaxLicenseSize then
            .error { error := .licenseFile, message := "license file is invalid or too large" }
          else
            match readAll interrupted file info.size.toNat with
            | none =>
                .error { error := .licenseFile, message := "license file could not be read" }
            | some bytes => .ok bytes.val

def machineIdentity (host : LocalHost) (config : LocalAuthorizationConfig) :
    Except LocalStatus Bytes :=
  let machineConfig : Service.LinuxMachineIdentityConfig :=
    { machineIdPath := config.machineIdPath
      productUuidPath := config.productUuidPath
      requireMachineId := config.requireMachineId
      requireProductUuid := config.requireProductUuid }
  match host.collectLinuxMachineIdentity machineConfig with
  | .error _ => .error { error := .machineIdentity, message := "machine identity is unavailable" }
  | .ok exactId => .ok exactId

section

variable (packages : Binding (LicensePackage Bytes)) (payloads : Binding (LicensePayload Bytes))
  (ssl : OpenSsl)

def authorizeLicense (host : LocalHost) (package : Bytes) (config : LocalAuthorizationConfig) :
    LocalAuthorizationResult :=
  if config.productId = [] ∨ config.trustedLicenseKeys.entries = [] then
    { status := { error := .invalidConfig, message := "local authorization is not configured" } }
  else
    match machineIdentity host config with
    | .error status => { status }
    | .ok machineId =>
        let validator : LicenseValidator :=
          { trustedKeys := fun id => config.trustedLicenseKeys.lookup id }
        match validator.validate packages payloads ssl package config.productId machineId
            host.time with
        | .error error => { status := mapLicenseError error }
        | .ok license =>
            { snapshot :=
                { state := .valid, features := license.features
                  expireTime := license.expireTime } }

def authorizeLicenseFile (host : LocalHost) (path : Bytes) (config : LocalAuthorizationConfig) :
    LocalAuthorizationResult :=
  match readLicense (host.files path) with
  | .error status => { status }
  | .ok package => authorizeLicense packages payloads ssl host package config

end

/-- The answers of a license. -/
def denied (message : String) : LocalAuthorizationResult where
  status := { error := .authorizationDenied, message }

def granted (features : List Bytes) (expireTime : UInt64) : LocalAuthorizationResult where
  snapshot := { state := .valid, features, expireTime }

section

variable {packages : Binding (LicensePackage Bytes)} {payloads : Binding (LicensePayload Bytes)}
  {ssl : OpenSsl} {host : LocalHost} {config : LocalAuthorizationConfig}

/-- With its keys and its machine, the validator alone answers. -/
theorem authorizeLicense_eq {machineId : Bytes} (product : config.productId ≠ [])
    (keys : config.trustedLicenseKeys.entries ≠ [])
    (identified : machineIdentity host config = .ok machineId) (package : Bytes) :
    authorizeLicense packages payloads ssl host package config =
      match LicenseValidator.validate packages payloads ssl
          { trustedKeys := fun id => config.trustedLicenseKeys.lookup id } package
          config.productId machineId host.time with
      | .error error => { status := mapLicenseError error }
      | .ok license => granted license.features license.expireTime := by
  have configured : ¬ (config.productId = [] ∨ config.trustedLicenseKeys.entries = []) :=
    not_or.mpr ⟨product, keys⟩
  unfold authorizeLicense
  rw [if_neg configured, identified]
  rfl

theorem entries_of_lookup {keys : AList fun _ : Bytes => Key} {id : Bytes} {key : Key}
    (found : keys.lookup id = some key) : keys.entries ≠ [] := by
  intro empty
  have mem : id ∈ keys := AList.lookup_isSome.mp (by rw [found]; rfl)
  rw [AList.mem_keys, AList.keys, empty] at mem
  cases mem

end

/-! ## The file -/

theorem readLicense_of_service {file : File} {package : Bytes}
    (reads : Service.readLicense file = some package) : readLicense file = .ok package := by
  unfold Service.readLicense at reads
  split at reads
  · cases reads
  rename_i opened
  split at reads
  · cases reads
  rename_i info stat
  split at reads
  · cases reads
  rename_i fits
  obtain ⟨bytes, read, rfl⟩ := Option.map_eq_some_iff.mp reads
  have again : readAll interrupted file info.size.toNat = some bytes := by
    refine FileRead.readAll_mono (fun error never => ?_) read
    cases never
  unfold readLicense
  rw [opened, stat]
  dsimp only
  rw [if_neg fits, again]

theorem held_of_readLicense {file : File} {package : Bytes}
    (reads : readLicense file = .ok package) : ∃ info, Held file info package := by
  unfold readLicense at reads
  split at reads
  · cases reads
  rename_i opened
  split at reads
  · cases reads
  rename_i info stat
  split at reads
  · cases reads
  rename_i fits
  split at reads
  · cases reads
  · rename_i bytes read
    cases reads
    have regular : info.isRegular = true := by
      by_contra other
      exact fits (.inl (by simpa using other))
    have positive : ¬ info.size ≤ 0 := fun low => fits (.inr (.inl low))
    refine ⟨info, opened, stat, regular, ?_, ?_⟩
    · rw [bytes.2]
      omega
    · rw [bytes.2]
      exact FileRead.readAll_eq_some read

/-! ## The service and the program -/

/-- The configuration with what the service trusts. -/
def localConfig (service : AuthorizationService) : LocalAuthorizationConfig where
  productId := service.config.productId
  trustedLicenseKeys := service.keys.licensePublicKeys
  machineIdPath := service.config.machineIdentity.machineIdPath
  productUuidPath := service.config.machineIdentity.productUuidPath
  requireMachineId := service.config.machineIdentity.requireMachineId
  requireProductUuid := service.config.machineIdentity.requireProductUuid

/-- A program on the machine of the service, with its files and at a time. -/
def localHost (platform : Platform) (files : Bytes → File) (now : UInt64) : LocalHost where
  files := files
  collectLinuxMachineIdentity := platform.collectLinuxMachineIdentity
  time := now

/-- What the service's own program answers while the service runs. -/
structure Agrees (service : AuthorizationService) (now : UInt64)
    (result : LocalAuthorizationResult) : Prop where
  answer : result =
    if now < service.license.notBefore then denied "license is not yet valid"
    else if licenseExpired service.license now then denied "license has expired"
    else granted service.license.features service.license.expireTime
  /-- Where there is room, the service grants a session when the program is granted. -/
  session : service.license.notBefore ≤ now → ∀ sessions : SessionManager,
    sessions.active service.license.productId < service.license.maxSessions.toNat →
    (result.status.succeeds = true ↔
      Service.authorizationError service.license sessions service.config.productId now = .none)

theorem licenseExpired_snapshotOf {data : LicensePayload Bytes} {policy : MachinePolicy Bytes}
    {product machineId : Bytes} (acceptable : Acceptable data policy product machineId)
    (now : UInt64) : licenseExpired (snapshotOf data policy) now = true ↔
      data.licenseType ≠ typePermanent ∧ now ≥ data.expireTime := by
  unfold licenseExpired
  rw [decide_eq_true_iff]
  change data.expireTime ≠ 0 ∧ now ≥ data.expireTime ↔ _
  constructor
  · rintro ⟨expires, late⟩
    exact ⟨fun permanent => expires (acceptable.permanent permanent), late⟩
  · rintro ⟨type, late⟩
    refine ⟨fun never => ?_, late⟩
    have expiring := acceptable.expiring type
    rw [never] at expiring
    exact absurd expiring (UInt64.not_lt.mpr UInt64.zero_le)

theorem authorizationError_of_room {license : Core.LicenseSnapshot} {sessions : SessionManager}
    (room : sessions.active license.productId < license.maxSessions.toNat) (now : UInt64) :
    Service.authorizationError license sessions license.productId now = .none ↔
      licenseExpired license now = false := by
  have vacant : ¬ sessions.active license.productId ≥ license.maxSessions.toNat :=
    Nat.not_le.mpr room
  unfold Service.authorizationError licenseExpired
  rw [if_neg (not_not.mpr rfl), if_neg vacant, decide_eq_false_iff_not]
  by_cases expired : license.expireTime ≠ 0 ∧ now ≥ license.expireTime
  · rw [if_pos expired]
    constructor
    · intro wrong
      cases wrong
    · intro unexpired
      exact absurd expired unexpired
  · rw [if_neg expired]
    exact ⟨fun _ => expired, fun _ => rfl⟩

section

variable {packages : Binding (LicensePackage Bytes)} {payloads : Binding (LicensePayload Bytes)}
  {ssl : OpenSsl}

/-- The service and a program that reads the same file under the same keys agree at
every time. -/
theorem agrees_of_create {platform : Platform} {files : Bytes → File}
    {service : AuthorizationService}
    (created : AuthorizationService.create packages payloads ssl (platform.withFiles files) =
      .ok service) (now : UInt64) :
    Agrees service now (authorizeLicenseFile packages payloads ssl
      (localHost platform files now) service.config.licensePath (localConfig service)) := by
  obtain ⟨machineId, package, -, -, collects, reads, validates⟩ :=
    AuthorizationService.create_eq_ok_iff.mp created
  obtain ⟨data, same⟩ := LicenseValidator.readPayload_of_validate validates
  rw [same] at validates
  obtain ⟨policy, acceptable, -, -, license⟩ := readPayload_eq_ok_iff.mp validates
  obtain ⟨outer, key, -, found, -⟩ := LicenseValidator.signed_of_validate
    ((same platform.time).trans validates) fun _ wrong => by cases wrong
  have identified : machineIdentity (localHost platform files now) (localConfig service) =
      .ok machineId := by
    unfold machineIdentity
    change (match platform.collectLinuxMachineIdentity service.config.machineIdentity with
      | .error _ => _
      | .ok exactId => _) = _
    rw [show platform.collectLinuxMachineIdentity service.config.machineIdentity = .ok machineId
      from collects]
  have read : readLicense ((localHost platform files now).files service.config.licensePath) =
      .ok package := readLicense_of_service reads
  have answer : authorizeLicenseFile packages payloads ssl (localHost platform files now)
      service.config.licensePath (localConfig service) =
        if now < service.license.notBefore then denied "license is not yet valid"
        else if licenseExpired service.license now then denied "license has expired"
        else granted service.license.features service.license.expireTime := by
    unfold authorizeLicenseFile
    rw [read]
    dsimp only
    rw [authorizeLicense_eq acceptable.product.2 (entries_of_lookup found) identified]
    change (match LicenseValidator.validate packages payloads ssl
        { trustedKeys := fun id => service.keys.licensePublicKeys.lookup id } package
        service.config.productId machineId now with
      | .error error => _
      | .ok license => _) = _
    have expires := licenseExpired_snapshotOf acceptable now
    rw [same, acceptable.readPayload, license, ← if_congr expires rfl rfl]
    change (match (if now < data.notBefore then _ else _ : Result Core.LicenseSnapshot) with
      | .error error => _
      | .ok license => _) = if now < data.notBefore then _ else _
    by_cases early : now < data.notBefore
    · rw [if_pos early, if_pos early]
      rfl
    · rw [if_neg early, if_neg early]
      cases licenseExpired (snapshotOf data policy) now with
      | true => rfl
      | false => rfl
  refine ⟨answer, fun started sessions room => ?_⟩
  have product : service.license.productId = service.config.productId :=
    (acceptedFor_of_readPayload validates).productId
  rw [answer, if_neg (UInt64.not_lt.mpr started), ← product, authorizationError_of_room room]
  cases licenseExpired service.license now with
  | true => simp [denied, LocalStatus.succeeds]
  | false => simp [granted, LocalStatus.succeeds]

theorem agrees_reference :
    ∃ package, authorizeLicenseFile Backend.referenceLibraries.packages
      Backend.referenceLibraries.payloads Backend.referenceLibraries.ssl
      (localHost (Service.referencePlatform package) (Service.referenceFiles package) 19)
      Service.referenceConfig.licensePath (localConfig (Service.referenceService ["capture"])) =
        granted [utf8 "capture"] 20 := by
  rcases Service.create_referenceFiles with ⟨package, created⟩
  refine ⟨package, (agrees_of_create created 19).answer.trans ?_⟩
  rfl

/-! ## What a program can be told -/

theorem mapLicenseError_fails (error : ErrorCode) : (mapLicenseError error).succeeds = false := by
  cases error <;> rfl

theorem signed_of_mapLicenseError {error : ErrorCode}
    (denies : (mapLicenseError error).error = .authorizationDenied) : error ∉ unsignedErrors := by
  cases error with
  | expired => decide
  | notYetValid => decide
  | productMismatch => decide
  | machineMismatch => decide
  | _ => cases denies

/-- A program is denied or granted nothing but what a trusted key has signed. -/
structure Guarded (packages : Binding (LicensePackage Bytes)) (ssl : OpenSsl) (host : LocalHost)
    (path : Bytes) (config : LocalAuthorizationConfig) (result : LocalAuthorizationResult) :
    Prop where
  closed : result.status.succeeds = false → result.snapshot = {}
  signed : result.status.succeeds = true ∨ result.status.error = .authorizationDenied →
    ∃ info package, Held (host.files path) info package ∧
      LicenseValidator.Signed packages ssl
        { trustedKeys := fun id => config.trustedLicenseKeys.lookup id } package
  current : result.status.succeeds = true → result.snapshot.state = .valid ∧
    [] ∉ result.snapshot.features ∧
      (result.snapshot.expireTime = 0 ∨ host.time < result.snapshot.expireTime)

/-- An error that is no denial says nothing about a license. -/
theorem guarded_of_failure {host : LocalHost} {path : Bytes} {config : LocalAuthorizationConfig}
    {status : LocalStatus} (fails : status.succeeds = false)
    (other : status.error ≠ .authorizationDenied) :
    Guarded packages ssl host path config { status } where
  closed _ := rfl
  signed answered := by
    rcases answered with succeeds | denies
    · exact absurd (fails.symm.trans succeeds) (by decide)
    · exact absurd denies other
  current succeeds := absurd (fails.symm.trans succeeds) (by decide)

/-- A license file that is not read is no denial. -/
theorem failure_of_readLicense {file : File} {status : LocalStatus}
    (reads : readLicense file = .error status) :
    status.succeeds = false ∧ status.error ≠ .authorizationDenied := by
  unfold readLicense at reads
  split at reads
  · cases reads
    exact ⟨rfl, by decide⟩
  split at reads
  · cases reads
    exact ⟨rfl, by decide⟩
  split at reads
  · cases reads
    exact ⟨rfl, by decide⟩
  split at reads
  · cases reads
    exact ⟨rfl, by decide⟩
  · cases reads

/-- Nor is a machine without an identity. -/
theorem failure_of_machineIdentity {host : LocalHost} {config : LocalAuthorizationConfig}
    {status : LocalStatus} (identifies : machineIdentity host config = .error status) :
    status.succeeds = false ∧ status.error ≠ .authorizationDenied := by
  unfold machineIdentity at identifies
  dsimp only at identifies
  split at identifies
  · cases identifies
    exact ⟨rfl, by decide⟩
  · cases identifies

theorem unexpired_of_acceptable {data : LicensePayload Bytes} {policy : MachinePolicy Bytes}
    {product machineId : Bytes} {now : UInt64}
    (acceptable : Acceptable data policy product machineId)
    (unexpired : data.licenseType = typePermanent ∨ now < data.expireTime) :
    data.expireTime = 0 ∨ now < data.expireTime :=
  unexpired.imp_left acceptable.permanent

/-- The answer to a package that the file holds. -/
theorem authorizeLicense_guarded (host : LocalHost) {path : Bytes}
    (config : LocalAuthorizationConfig) {info : FileRead.Stat} {package : Bytes}
    (held : Held (host.files path) info package) :
    Guarded packages ssl host path config
      (authorizeLicense packages payloads ssl host package config) := by
  unfold authorizeLicense
  split
  · exact guarded_of_failure rfl (by decide)
  split
  · rename_i status identifies
    obtain ⟨fails, other⟩ := failure_of_machineIdentity identifies
    exact guarded_of_failure fails other
  rename_i machineId identified
  dsimp only
  split
  · rename_i error refused
    refine ⟨fun _ => rfl, fun answered => ?_, fun succeeds => ?_⟩
    · rcases answered with succeeds | denies
      · exact absurd ((mapLicenseError_fails error).symm.trans succeeds) (by decide)
      · refine ⟨info, package, held, LicenseValidator.signed_of_validate refused ?_⟩
        intro other same
        cases same
        exact signed_of_mapLicenseError denies
    · exact absurd ((mapLicenseError_fails error).symm.trans succeeds) (by decide)
  · rename_i license validates
    refine ⟨fun fails => ?_, fun _ => ?_, fun _ => ?_⟩
    · exact absurd (show true = false from fails) (by decide)
    · refine ⟨info, package, held, LicenseValidator.signed_of_validate validates ?_⟩
      intro other same
      cases same
    · obtain ⟨data, same⟩ := LicenseValidator.readPayload_of_validate validates
      rw [same] at validates
      obtain ⟨policy, acceptable, -, unexpired, rfl⟩ := readPayload_eq_ok_iff.mp validates
      exact ⟨rfl, acceptable.features, unexpired_of_acceptable acceptable unexpired⟩

theorem authorizeLicenseFile_guarded (host : LocalHost) (path : Bytes)
    (config : LocalAuthorizationConfig) :
    Guarded packages ssl host path config
      (authorizeLicenseFile packages payloads ssl host path config) := by
  unfold authorizeLicenseFile
  split
  · rename_i status reads
    obtain ⟨fails, other⟩ := failure_of_readLicense reads
    exact guarded_of_failure fails other
  · rename_i package reads
    obtain ⟨info, held⟩ := held_of_readLicense reads
    exact authorizeLicense_guarded host config held

end

/-! ## Issued licenses -/

section

open Backend

theorem checkMachine_policy {definition : LicenseDefinition} (valid : definition.Valid)
    (machineId : Bytes) : checkMachine definition.policy machineId =
      if definition.machineId.any fun machine => utf8 machine ≠ machineId then
        .error .machineMismatch
      else .ok () := by
  unfold LicenseDefinition.policy
  cases here : definition.machineId with
  | none => rfl
  | some machine =>
      have present : nonempty (some (utf8 machine)) = some (utf8 machine) :=
        nonempty_eq_some_iff.mpr ⟨rfl, utf8_ne_nil (valid.machineId machine here)⟩
      rw [Option.isSome_some, if_pos rfl, checkMachine_exact rfl]
      change (if nonempty (some (utf8 machine)) ≠ some machineId then _ else _) = _
      rw [present]
      simp only [Option.any_some, ne_eq, Option.some.injEq, decide_not, Bool.not_eq_true',
        decide_eq_false_iff_not]

/-- What `readPayload` says of a definition that the backend has accepted. -/
theorem readPayload_payload {definition : LicenseDefinition} (valid : definition.Valid)
    (product machineId : Bytes) (now : UInt64) :
    Core.readPayload (definition.payload.map utf8) product machineId now =
      if product ≠ utf8 definition.productId then .error .productMismatch
      else if now < definition.notBefore then .error .notYetValid
      else if definition.licenseType ≠ .permanent ∧ now ≥ definition.expireTime then
        .error .expired
      else if definition.machineId.any fun machine => utf8 machine ≠ machineId then
        .error .machineMismatch
      else .ok definition.snapshot := by
  have licensed : nonempty (definition.payload.map utf8).licenseId =
      some (utf8 definition.licenseId) :=
    nonempty_eq_some_iff.mpr ⟨rfl, utf8_ne_nil valid.licenseId⟩
  have named : nonempty (definition.payload.map utf8).productId =
      some (utf8 definition.productId) :=
    nonempty_eq_some_iff.mpr ⟨rfl, utf8_ne_nil valid.productId⟩
  have bound : (definition.payload.map utf8).machinePolicy = some definition.policy := rfl
  have known : ¬ (definition.licenseType.wire ≠ typeTrial ∧
      definition.licenseType.wire ≠ typeSubscription ∧
      definition.licenseType.wire ≠ typePermanent) := by
    cases definition.licenseType <;> decide
  have permanent : ¬ (definition.licenseType.wire = typePermanent ∧ definition.expireTime ≠ 0) := by
    rw [wire_eq_permanent]
    rintro ⟨type, expires⟩
    exact expires (valid.permanent type)
  have expired : (definition.licenseType.wire ≠ typePermanent ∧
      (definition.expireTime ≤ definition.notBefore ∨ now ≥ definition.expireTime)) ↔
        (definition.licenseType ≠ .permanent ∧ now ≥ definition.expireTime) := by
    rw [ne_eq, wire_eq_permanent]
    constructor
    · rintro ⟨type, early | late⟩
      · exact absurd early (UInt64.not_le.mpr (valid.expiring type))
      · exact ⟨type, late⟩
    · rintro ⟨type, late⟩
      exact ⟨type, .inr late⟩
  have features : readFeatures (definition.payload.map utf8).features =
      .ok ((definition.payload.map utf8).features.getD []) := by
    refine readFeatures_of_present fun mem => ?_
    obtain ⟨feature, here, empty⟩ := List.mem_map.mp mem
    exact utf8_ne_nil (valid.features feature here) empty
  have product_eq : utf8 definition.productId ≠ product ↔ product ≠ utf8 definition.productId :=
    ne_comm
  unfold Core.readPayload
  rw [licensed, named, bound]
  dsimp only
  rw [maxSessions_payload, licenseType_payload, notBefore_payload, expireTime_payload,
    if_neg valid.maxSessions, if_neg known, if_congr product_eq rfl rfl, if_neg permanent,
    if_congr expired rfl rfl, checkMachine_policy valid, features, ← snapshotOf_payload]
  cases definition.machineId.any fun machine => utf8 machine ≠ machineId with
  | true => rfl
  | false =>
      unfold snapshotOf
      rw [maxSessions_payload, licenseType_payload, notBefore_payload, expireTime_payload]
      rfl

/-- Every license that the backend issues is answered by its product, its time and its
machine, in this order. -/
theorem authorizeLicense_issued {libraries : Libraries} (interoperable : libraries.Interoperable)
    {definition : LicenseDefinition} {keyId : String} {key : Key} {package : Bytes}
    (generated : generate libraries.dalek libraries.rustPackages libraries.rustPayloads definition
      keyId key = .ok package)
    {host : LocalHost} {config : LocalAuthorizationConfig} {machineId : Bytes}
    (product : config.productId ≠ [])
    (trusted : config.trustedLicenseKeys.lookup (utf8 keyId) =
      some (libraries.dalek.verifyingKey key))
    (identified : machineIdentity host config = .ok machineId) :
    authorizeLicense libraries.packages libraries.payloads libraries.ssl host package config =
      if config.productId ≠ utf8 definition.productId then denied "license product does not match"
      else if host.time < definition.notBefore then denied "license is not yet valid"
      else if definition.licenseType ≠ .permanent ∧ host.time ≥ definition.expireTime then
        denied "license has expired"
      else if definition.machineId.any fun machine => utf8 machine ≠ machineId then
        denied "license is bound to another machine"
      else granted (definition.features.map utf8) definition.expireTime := by
  have issued := issued_of_generate generated
  have fits := payload_fits issued.valid
  rw [authorizeLicense_eq product (entries_of_lookup trusted) identified,
    LicenseValidator.validate_of_readPackage (readPackage_issued interoperable issued) trusted
      (interoperable.sslVerifies key _) (interoperable.payloads.verify_build _ fits),
    interoperable.payloads.root_build _ fits, readPayload_payload issued.valid]
  by_cases mismatch : config.productId ≠ utf8 definition.productId
  · rw [if_pos mismatch, if_pos mismatch]
    rfl
  rw [if_neg mismatch, if_neg mismatch]
  by_cases early : host.time < definition.notBefore
  · rw [if_pos early, if_pos early]
    rfl
  rw [if_neg early, if_neg early]
  by_cases late : definition.licenseType ≠ .permanent ∧ host.time ≥ definition.expireTime
  · rw [if_pos late, if_pos late]
    rfl
  rw [if_neg late, if_neg late]
  cases definition.machineId.any fun machine => utf8 machine ≠ machineId with
  | true => rfl
  | false => rfl

/-- A program for the license of `referenceDefinition`. -/
def referenceLocalConfig : LocalAuthorizationConfig where
  productId := utf8 "product-qt"
  trustedLicenseKeys := (∅ : AList fun _ : Bytes => Key).insert (utf8 "key-1") (.zeros kKeySize)

def referenceLocalHost (machineId : String) : LocalHost where
  files _ := Service.regularFile []
  collectLinuxMachineIdentity _ := .ok (utf8 machineId)
  time := 19

theorem authorizeLicense_otherMachine :
    ∃ package, generate referenceLibraries.dalek referenceLibraries.rustPackages
        referenceLibraries.rustPayloads referenceDefinition "key-1" (.zeros kKeySize) =
          .ok package ∧
      authorizeLicense referenceLibraries.packages referenceLibraries.payloads
        referenceLibraries.ssl (referenceLocalHost "other-machine") package referenceLocalConfig =
          denied "license is bound to another machine" := by
  have keyIdFits : "key-1" ≠ "" ∧ (utf8 "key-1").length ≤ uint16Max := by decide
  have product : referenceLocalConfig.productId ≠ [] := by decide
  rcases generate_of_validate referenceLibraries_interoperable validate_referenceDefinition
    keyIdFits (.zeros kKeySize) with ⟨package, generated⟩
  refine ⟨package, generated, ?_⟩
  have identified : machineIdentity (referenceLocalHost "other-machine") referenceLocalConfig =
      .ok (utf8 "other-machine") := rfl
  rw [authorizeLicense_issued referenceLibraries_interoperable generated product
    (AList.lookup_insert _) identified]
  rfl

end

end YoAuthorize.Sdk
