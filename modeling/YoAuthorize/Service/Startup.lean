import YoAuthorize.Core.LicenseValidator
import YoAuthorize.Service.Config
import YoAuthorize.Service.Connection

/-!
# Starting the service

`loadKeys` (`key_store.cpp`) and `AuthorizationService::create` and the
connection that `serve` constructs (`service.cpp`).  `Platform` is what these
functions get from the machine: parsed files, raw keys, the machine identity
and the time.
-/

namespace YoAuthorize.Service

open Octets Crypto FlatBuffer License YoAuthorize.Core

/-- `KeyStoreError` without `None`. -/
inductive KeyStoreError : Type
  | openFailed
  | invalidFile
  | invalidPermissions
  | invalidSize
  | duplicateKeyId
  deriving DecidableEq, Repr

/-- `ServiceError` without `None`, as far as `create` returns it. -/
inductive ServiceError : Type
  | config
  | keys
  | licenseFile
  | machineIdentity
  | invalidLicense
  deriving DecidableEq, Repr

structure Platform : Type where
  configFile : ConfigResult TomlTable
  loadRawKey : (path : Bytes) → (privateKey : Bool) → Except KeyStoreError Key
  collectLinuxMachineIdentity : LinuxMachineIdentityConfig → Result Bytes
  readLicense : (path : Bytes) → Option Bytes
  time : UInt64

structure LoadedKeys : Type where
  identityKeyId : Bytes
  identityPrivateKey : Key
  licensePublicKeys : AList fun _ : Bytes => Key

/-- The loop over the license keys, with the keys so far. -/
def loadLicenseKeys (platform : Platform) (keys : AList fun _ : Bytes => Key) :
    List TrustKeyConfig → Except KeyStoreError (AList fun _ : Bytes => Key)
  | [] => .ok keys
  | config :: configs =>
      match platform.loadRawKey config.publicKeyPath false with
      | .error error => .error error
      | .ok publicKey =>
          if config.id ∈ keys then .error .duplicateKeyId
          else loadLicenseKeys platform (keys.insert config.id publicKey) configs

def loadKeys (platform : Platform) (config : ServiceConfig) : Except KeyStoreError LoadedKeys :=
  match platform.loadRawKey config.identityPrivateKeyPath true with
  | .error error => .error error
  | .ok identityPrivateKey =>
      match loadLicenseKeys platform ∅ config.licenseKeys with
      | .error error => .error error
      | .ok licensePublicKeys =>
          .ok { identityKeyId := config.identityKeyId, identityPrivateKey, licensePublicKeys }

structure AuthorizationService : Type where
  config : ServiceConfig
  keys : LoadedKeys
  license : LicenseSnapshot

namespace AuthorizationService

section

variable (packages : Binding (LicensePackage Bytes)) (payloads : Binding (LicensePayload Bytes))
  (ssl : OpenSsl)

def create (platform : Platform) : Except ServiceError AuthorizationService :=
  match loadConfig platform.configFile with
  | .error _ => .error .config
  | .ok config =>
      match loadKeys platform config with
      | .error _ => .error .keys
      | .ok keys =>
          match platform.collectLinuxMachineIdentity config.machineIdentity with
          | .error _ => .error .machineIdentity
          | .ok exactId =>
              match platform.readLicense config.licensePath with
              | none => .error .licenseFile
              | some package =>
                  let validator : LicenseValidator :=
                    { trustedKeys := fun id => keys.licensePublicKeys.lookup id }
                  match validator.validate packages payloads ssl package config.productId exactId
                      platform.time with
                  | .error _ => .error .invalidLicense
                  | .ok license => .ok { config, keys, license }

end

/-- The identity that `run` gives a peer. -/
def peerIdentity (uid gid : UInt32) (pid : Int) : Bytes :=
  utf8 ("uid=" ++ toString uid.toNat ++ ";gid=" ++ toString gid.toNat ++ ";pid=" ++ toString pid)

/-- The connection that `serve` constructs for a peer. -/
def connection (service : AuthorizationService) (peerIdentity : Bytes) : Connection :=
  .construct service.license
    { serviceKeyId := service.keys.identityKeyId
      identityPrivateKey := service.keys.identityPrivateKey
      peerIdentity
      heartbeatIntervalMs := service.config.heartbeatIntervalMs
      heartbeatTimeoutMs := service.config.heartbeatTimeoutMs }

end AuthorizationService

/-! ## What a started service satisfies -/

theorem identityKeyId_of_loadKeys {platform : Platform} {config : ServiceConfig}
    {keys : LoadedKeys} (loaded : loadKeys platform config = .ok keys) :
    keys.identityKeyId = config.identityKeyId := by
  unfold loadKeys at loaded
  split at loaded
  · cases loaded
  split at loaded
  · cases loaded
  · cases loaded
    rfl

structure AuthorizationService.Started (service : AuthorizationService) : Prop where
  named : service.config.Named
  identityKeyId : service.keys.identityKeyId = service.config.identityKeyId
  license : service.license.AcceptedFor service.config.productId

theorem AuthorizationService.started_of_create {packages : Binding (LicensePackage Bytes)}
    {payloads : Binding (LicensePayload Bytes)} {ssl : OpenSsl} {platform : Platform}
    {service : AuthorizationService}
    (created : create packages payloads ssl platform = .ok service) : service.Started := by
  unfold create at created
  split at created
  · cases created
  rename_i config loadsConfig
  split at created
  · cases created
  rename_i keys loadsKeys
  split at created
  · cases created
  split at created
  · cases created
  dsimp only at created
  split at created
  · cases created
  · rename_i license validates
    cases created
    exact ⟨named_of_loadConfig loadsConfig, identityKeyId_of_loadKeys loadsKeys,
      LicenseValidator.acceptedFor_of_validate validates⟩

/-- What a service that starts has loaded. -/
theorem AuthorizationService.create_eq_ok_iff {packages : Binding (LicensePackage Bytes)}
    {payloads : Binding (LicensePayload Bytes)} {ssl : OpenSsl} {platform : Platform}
    {service : AuthorizationService} :
    create packages payloads ssl platform = .ok service ↔
      ∃ exactId package, loadConfig platform.configFile = .ok service.config ∧
        loadKeys platform service.config = .ok service.keys ∧
        platform.collectLinuxMachineIdentity service.config.machineIdentity = .ok exactId ∧
        platform.readLicense service.config.licensePath = some package ∧
        LicenseValidator.validate packages payloads ssl
          { trustedKeys := fun id => service.keys.licensePublicKeys.lookup id } package
          service.config.productId exactId platform.time = .ok service.license := by
  constructor
  · intro created
    unfold create at created
    split at created
    · cases created
    rename_i config loadsConfig
    split at created
    · cases created
    rename_i keys loadsKeys
    split at created
    · cases created
    rename_i exactId collects
    split at created
    · cases created
    rename_i package reads
    dsimp only at created
    split at created
    · cases created
    · rename_i license validates
      cases created
      exact ⟨exactId, package, loadsConfig, loadsKeys, collects, reads, validates⟩
  · rintro ⟨exactId, package, loadsConfig, loadsKeys, collects, reads, validates⟩
    unfold create
    rw [loadsConfig]
    dsimp only
    rw [loadsKeys]
    dsimp only
    rw [collects]
    dsimp only
    rw [reads]
    dsimp only
    rw [validates]

end YoAuthorize.Service
