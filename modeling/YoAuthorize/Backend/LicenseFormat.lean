import YoAuthorize.Core.LicenseSchema
import YoAuthorize.Crypto

/-!
# The license issuer of the backend

The `license-format` crate: the definition of a license, the checks on it, the
signed package and its verification.  Strings of the crate are `String`, whose
`utf8` bytes are what goes over the wire and what `len` counts.  `Dalek` holds
the signature functions of the `ed25519-dalek` crate.
-/

namespace YoAuthorize.Backend

open Octets Crypto FlatBuffer License

/-- The constants of the license crate, which the C++ validator has too. -/
def formatVersion : UInt16 := 1
def maxPackageSize : Nat := 1024 * 1024
def maxFeatures : Nat := 256
def maxStringBytes : Nat := 1024
def uint32Max : Nat := 4294967295
def domain : Bytes := ofAscii "YOAUTHORIZE-LICENSE-V1"

/-- `LicenseKind`. -/
inductive LicenseKind : Type
  | trial
  | subscription
  | permanent
  deriving DecidableEq, Repr

/-- What a license is to say; `validate` decides whether it may. -/
structure LicenseDefinition : Type where
  licenseId : String
  productId : String
  customerId : String
  issueTime : UInt64
  notBefore : UInt64
  expireTime : UInt64
  licenseType : LicenseKind
  features : List String
  maxSessions : UInt32
  machineId : Option String
  deriving DecidableEq

/-- `FormatError`. -/
inductive FormatError : Type
  | invalid (reason : String)
  | flatbuffer
  | key
  | signature
  deriving DecidableEq, Repr

structure Dalek : Type where
  verifyingKey : Key → Key
  sign : Key → Bytes → Signature
  verify : Key → Bytes → Signature → Bool

/-- `is_ascii_alphanumeric`. -/
def asciiAlphanumeric (byte : UInt8) : Bool :=
  (48 ≤ byte ∧ byte ≤ 57) ∨ (65 ≤ byte ∧ byte ≤ 90) ∨ (97 ≤ byte ∧ byte ≤ 122)

/-- The bytes of a feature name: alphanumeric or one of `_`, `.` and `-`. -/
def featureByte (byte : UInt8) : Bool :=
  asciiAlphanumeric byte ∨ byte ∈ ofAscii "_.-"

/-- A string that is empty or too long. -/
def badLength (text : String) : Bool :=
  text = "" ∨ (utf8 text).length > maxStringBytes

/-- The checks before anything is signed. -/
def validate (definition : LicenseDefinition) : Except FormatError Unit :=
  if [definition.licenseId, definition.productId, definition.customerId].any badLength then
    .error (.invalid "identifier length")
  else if definition.features.length > maxFeatures ∨
      definition.features.any (fun feature =>
        badLength feature ∨ !(utf8 feature).all featureByte) then
    .error (.invalid "features")
  else if definition.maxSessions = 0 then .error (.invalid "max_sessions")
  else if definition.licenseType = .permanent ∧ definition.expireTime ≠ 0 then
    .error (.invalid "permanent expiration")
  else if definition.licenseType ≠ .permanent ∧
      definition.expireTime ≤ definition.notBefore then
    .error (.invalid "expiration")
  else if definition.machineId.any badLength then .error (.invalid "machine_id")
  else .ok ()

def LicenseKind.wire : LicenseKind → Int8
  | .trial => typeTrial
  | .subscription => typeSubscription
  | .permanent => typePermanent

/-- The payload table that `payload_bytes` creates. -/
def LicenseDefinition.payload (definition : LicenseDefinition) : LicensePayload String :=
  createLicensePayload definition.licenseId definition.productId definition.customerId
    definition.issueTime definition.notBefore definition.expireTime definition.licenseType.wire
    definition.features definition.maxSessions
    (createMachinePolicy (if definition.machineId.isSome then modeExact else modeUnbound)
      definition.machineId)

/-- The bytes that are signed: the domain, the name of the key and the payload. -/
def signingMessage (keyId : String) (payload : Bytes) : Except FormatError Bytes :=
  if keyId = "" ∨ (utf8 keyId).length > uint16Max ∨ payload.length > uint32Max then
    .error (.invalid "signing input")
  else
    .ok (domain ++ (u16Bytes formatVersion ++ (u16Bytes (UInt16.ofNat (utf8 keyId).length) ++
      (utf8 keyId ++ (u32Bytes (UInt32.ofNat payload.length) ++ payload)))))

section

variable (dalek : Dalek) (packages : Binding (LicensePackage String))
  (payloads : Binding (LicensePayload String))

def payloadBytes (definition : LicenseDefinition) : Except FormatError Bytes :=
  match validate definition with
  | .error error => .error error
  | .ok () => .ok (payloads.build definition.payload)

/-- Builds the payload, signs it and refuses a package that is too large. -/
def generate (definition : LicenseDefinition) (keyId : String) (key : Key) :
    Except FormatError Bytes :=
  match payloadBytes payloads definition with
  | .error error => .error error
  | .ok payload =>
      match signingMessage keyId payload with
      | .error error => .error error
      | .ok message =>
          let bytes := packages.build
            (createLicensePackage formatVersion keyId payload (dalek.sign key message).val)
          if bytes.length > maxPackageSize then .error (.invalid "package size")
          else .ok bytes

/-- The checks of `verify` on the root table and the payload in it. -/
def verifyPackage (package : LicensePackage String) (expectedKeyId : String)
    (key : Key) : Except FormatError Unit :=
  if package.formatVersion ≠ formatVersion ∨ package.keyId ≠ some expectedKeyId then .error .key
  else
    match package.payload, package.signature with
    | none, _ => .error .flatbuffer
    | some _, none => .error .signature
    | some payload, some signature =>
        if size : signature.length = kSignatureSize then
          match signingMessage expectedKeyId payload with
          | .error error => .error error
          | .ok message =>
              if !dalek.verify key message ⟨signature, size⟩ then .error .signature
              else if !payloads.verify payload then .error .flatbuffer
              else .ok ()
        else .error .signature

/-- Verifies a package under the one key that is expected. -/
def verify (package : Bytes) (expectedKeyId : String) (key : Key) : Except FormatError Unit :=
  if package.length > maxPackageSize ∨ !hasIdentifier packageIdentifier package then
    .error .flatbuffer
  else if !packages.verify package then .error .flatbuffer
  else verifyPackage dalek payloads (packages.root package) expectedKeyId key

end

end YoAuthorize.Backend
