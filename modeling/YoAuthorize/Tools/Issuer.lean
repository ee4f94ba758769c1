import YoAuthorize.Core.LicenseSchema
import YoAuthorize.Crypto

/-!
# The license generator

`issueLicense` (`issuer.cpp`) of the C++ tools.  It builds the payload, signs
it with the key id and packs both; the definition of the signed bytes is a copy
of the one in the core.
-/

namespace YoAuthorize.Tools

open Octets Crypto FlatBuffer License

def kSignatureDomain : Bytes := ofAscii "YOAUTHORIZE-LICENSE-V1"
def kMaxIdentifierSize : Nat := 255
def kMaxFeatures : Nat := 256
def kMaxFeatureSize : Nat := 128

/-- `IssueError` without `None`. -/
inductive IssueError : Type
  | invalidInput
  | signingFailed
  deriving DecidableEq, Repr

structure LicenseDefinition : Type where
  keyId : Bytes
  licenseId : Bytes
  productId : Bytes
  customerId : Bytes
  issueTime : UInt64 := 0
  notBefore : UInt64 := 0
  expireTime : UInt64 := 0
  features : List Bytes := []
  maxSessions : UInt32 := 1
  machineId : Bytes := []
  deriving DecidableEq

/-- An identifier that is empty or too long. -/
def badIdentifier (identifier : Bytes) : Bool :=
  identifier = [] ∨ identifier.length > kMaxIdentifierSize

def valid (definition : LicenseDefinition) : Bool :=
  if definition.keyId = [] ∨ definition.keyId.length > uint16Max ∨
      badIdentifier definition.licenseId ∨ badIdentifier definition.productId ∨
      badIdentifier definition.customerId ∨ definition.issueTime = 0 ∨
      definition.notBefore = 0 ∨ definition.notBefore < definition.issueTime ∨
      definition.maxSessions = 0 ∨ definition.features.length > kMaxFeatures then false
  else if definition.expireTime ≠ 0 ∧ definition.expireTime ≤ definition.notBefore then false
  else !definition.features.any fun feature => feature = [] ∨ feature.length > kMaxFeatureSize

/-- The payload table of a definition. -/
def LicenseDefinition.payload (definition : LicenseDefinition) : LicensePayload Bytes :=
  createLicensePayload definition.licenseId definition.productId definition.customerId
    definition.issueTime definition.notBefore definition.expireTime
    (if definition.expireTime = 0 then typePermanent else typeSubscription) definition.features
    definition.maxSessions
    (createMachinePolicy (if definition.machineId = [] then modeUnbound else modeExact)
      (some definition.machineId))

/-- `signed_bytes` of `issueLicense`, with both lengths narrowed. -/
def signedBytes (keyId payload : Bytes) : Bytes :=
  kSignatureDomain ++ (u16Bytes 1 ++ (u16Bytes (UInt16.ofNat keyId.length) ++
    (keyId ++ (u32Bytes (UInt32.ofNat payload.length) ++ payload))))

def issueLicense (packages : Binding (LicensePackage Bytes))
    (payloads : Binding (LicensePayload Bytes)) (ssl : OpenSsl) (definition : LicenseDefinition)
    (signingPrivateKey : Key) : Except IssueError Bytes :=
  if !valid definition then .error .invalidInput
  else
    let payload := payloads.build definition.payload
    match signEd25519 ssl signingPrivateKey (signedBytes definition.keyId payload) with
    | .error _ => .error .signingFailed
    | .ok signature =>
        .ok (packages.build (createLicensePackage 1 definition.keyId payload signature.val))

end YoAuthorize.Tools
