import YoAuthorize.Core.License
import YoAuthorize.Core.LicenseSchema
import YoAuthorize.Crypto

/-!
# License validation

`LicenseValidator::validate` (`license.cpp`): the package and its signature,
then the fields of the signed payload, in the order of the source.
-/

namespace YoAuthorize.Core

open Octets Crypto FlatBuffer License

def kMaxLicenseSize : Nat := 1024 * 1024

def kSignatureDomain : Bytes := ofAscii "YOAUTHORIZE-LICENSE-V1"

/-- The bytes that a license signature is over. -/
def signatureInput (version : UInt16) (keyId payload : Bytes) : Bytes :=
  kSignatureDomain ++ (u16Bytes version ++ (u16Bytes (UInt16.ofNat keyId.length) ++
    (keyId ++ (u32Bytes (UInt32.ofNat payload.length) ++ payload))))

def convertType (type : Int8) : LicenseType :=
  if type = typeSubscription then .subscription
  else if type = typePermanent then .permanent
  else .trial

section

variable (packages : Binding (LicensePackage Bytes)) (payloads : Binding (LicensePayload Bytes))
  (ssl : OpenSsl)

/-- The fields of a package that are signed, and their signature. -/
structure SignedPayload : Type where
  formatVersion : UInt16
  keyId : Bytes
  payload : Bytes
  signature : Signature

/-- The checks on the package up to the trusted key. -/
def readPackage (package : Bytes) : Result SignedPayload :=
  if package = [] ∨ package.length > kMaxLicenseSize ∨ package.length < 8 ∨
      !hasIdentifier packageIdentifier package then .error .invalidFormat
  else if !packages.verify package then .error .invalidFormat
  else
    let outer := packages.root package
    if outer.formatVersion ≠ 1 then .error .unsupportedVersion
    else
      match outer.keyId, outer.payload, outer.signature with
      | some keyId, some payload, some signature =>
          if keyId = [] ∨ keyId.length > uint16Max ∨ payload = [] then .error .invalidLicense
          else if size : signature.length = kSignatureSize then
            .ok
              { formatVersion := outer.formatVersion, keyId, payload
                signature := ⟨signature, size⟩ }
          else .error .invalidLicense
      | _, _, _ => .error .invalidLicense

/-- A string field that is present and not empty. -/
def nonempty (field : Option Bytes) : Option Bytes :=
  match field with
  | none => none
  | some [] => none
  | some text => some text

/-- `machine_id()->str()` of the policy, or the empty string. -/
def policyMachineId (policy : MachinePolicy Bytes) : Bytes := policy.machineId.getD []

/-- The machine binding: an unknown mode, then another machine. -/
def checkMachine (policy : MachinePolicy Bytes) (machineId : Bytes) : Result Unit :=
  if policy.mode ≠ modeUnbound ∧ policy.mode ≠ modeExact then .error .invalidLicense
  else if policy.mode = modeExact ∧ nonempty policy.machineId ≠ some machineId then
    .error .machineMismatch
  else .ok ()

theorem checkMachine_exact {policy : MachinePolicy Bytes} (mode : policy.mode = modeExact)
    (machineId : Bytes) :
    checkMachine policy machineId =
      if nonempty policy.machineId ≠ some machineId then .error .machineMismatch
      else .ok () := by
  have known : ¬ (modeExact ≠ modeUnbound ∧ modeExact ≠ modeExact) := by decide
  unfold checkMachine
  rw [mode, if_neg known]
  simp only [true_and]

/-- The copy of the features; an empty one is refused. -/
def readFeatures (features : Option (List Bytes)) : Result (List Bytes) :=
  match features with
  | none => .ok []
  | some features => if [] ∈ features then .error .invalidLicense else .ok features

/-- The checks on the fields of a payload and the snapshot of it. -/
def readPayload (data : LicensePayload Bytes) (expectedProduct machineId : Bytes)
    (now : UInt64) : Result LicenseSnapshot :=
  match nonempty data.licenseId, nonempty data.productId, data.machinePolicy with
  | some licenseId, some productId, some policy =>
      if data.maxSessions = 0 then .error .invalidLicense
      else if data.licenseType ≠ typeTrial ∧ data.licenseType ≠ typeSubscription ∧
          data.licenseType ≠ typePermanent then .error .invalidLicense
      else if productId ≠ expectedProduct then .error .productMismatch
      else if now < data.notBefore then .error .notYetValid
      else if data.licenseType = typePermanent ∧ data.expireTime ≠ 0 then .error .invalidLicense
      else if data.licenseType ≠ typePermanent ∧
          (data.expireTime ≤ data.notBefore ∨ now ≥ data.expireTime) then .error .expired
      else
        match checkMachine policy machineId, readFeatures data.features with
        | .error error, _ => .error error
        | .ok (), .error error => .error error
        | .ok (), .ok features =>
            .ok
              { licenseId
                productId
                customerId := data.customerId.getD []
                issueTime := data.issueTime
                notBefore := data.notBefore
                expireTime := data.expireTime
                type := convertType data.licenseType
                features
                maxSessions := data.maxSessions
                machineMode := if policy.mode = modeExact then .exact else .unbound
                machineId := policyMachineId policy }
  | _, _, _ => .error .invalidLicense

/-- The members of `LicenseValidator`. -/
structure LicenseValidator : Type where
  trustedKeys : Bytes → Option Key

def LicenseValidator.validate (validator : LicenseValidator)
    (package expectedProduct machineId : Bytes) (now : UInt64) : Result LicenseSnapshot :=
  match readPackage packages package with
  | .error error => .error error
  | .ok outer =>
      match validator.trustedKeys outer.keyId with
      | none => .error .unknownKey
      | some key =>
          match verifyEd25519 ssl key
              (signatureInput outer.formatVersion outer.keyId outer.payload) outer.signature with
          | .error _ => .error .invalidSignature
          | .ok () =>
              if !payloads.verify outer.payload then .error .invalidLicense
              else readPayload (payloads.root outer.payload) expectedProduct machineId now

end

/-! ## What an accepted license satisfies -/

theorem nonempty_eq_some_iff {field : Option Bytes} {text : Bytes} :
    nonempty field = some text ↔ field = some text ∧ text ≠ [] := by
  match field with
  | none => simp [nonempty]
  | some [] => simp [nonempty, eq_comm]
  | some (byte :: rest) =>
      simp only [nonempty, Option.some.injEq]
      constructor
      · rintro rfl
        exact ⟨rfl, List.cons_ne_nil byte rest⟩
      · exact And.left

theorem readFeatures_of_present {source : Option (List Bytes)} (present : [] ∉ source.getD []) :
    readFeatures source = .ok (source.getD []) := by
  cases source with
  | none => rfl
  | some features => exact if_neg present

/-- The snapshot of a payload with this machine policy. -/
def snapshotOf (data : LicensePayload Bytes) (policy : MachinePolicy Bytes) : LicenseSnapshot where
  licenseId := data.licenseId.getD []
  productId := data.productId.getD []
  customerId := data.customerId.getD []
  issueTime := data.issueTime
  notBefore := data.notBefore
  expireTime := data.expireTime
  type := convertType data.licenseType
  features := data.features.getD []
  maxSessions := data.maxSessions
  machineMode := if policy.mode = modeExact then .exact else .unbound
  machineId := policyMachineId policy

/-- The checks of `readPayload` that do not depend on the time. -/
structure Acceptable (data : LicensePayload Bytes) (policy : MachinePolicy Bytes)
    (expectedProduct machineId : Bytes) : Prop where
  licensed : ∃ licenseId, data.licenseId = some licenseId ∧ licenseId ≠ []
  product : data.productId = some expectedProduct ∧ expectedProduct ≠ []
  bound : data.machinePolicy = some policy
  maxSessions : data.maxSessions ≠ 0
  known : data.licenseType = typeTrial ∨ data.licenseType = typeSubscription ∨
    data.licenseType = typePermanent
  permanent : data.licenseType = typePermanent → data.expireTime = 0
  expiring : data.licenseType ≠ typePermanent → data.notBefore < data.expireTime
  machine : checkMachine policy machineId = .ok ()
  features : [] ∉ data.features.getD []

/-- What the time decides of an acceptable payload. -/
theorem Acceptable.readPayload {data : LicensePayload Bytes} {policy : MachinePolicy Bytes}
    {expectedProduct machineId : Bytes}
    (acceptable : Acceptable data policy expectedProduct machineId) (now : UInt64) :
    readPayload data expectedProduct machineId now =
      if now < data.notBefore then .error .notYetValid
      else if data.licenseType ≠ typePermanent ∧ now ≥ data.expireTime then .error .expired
      else .ok (snapshotOf data policy) := by
  obtain ⟨licenseId, licensed, licensePresent⟩ := acceptable.licensed
  have known : ¬ (data.licenseType ≠ typeTrial ∧ data.licenseType ≠ typeSubscription ∧
      data.licenseType ≠ typePermanent) := by
    rintro ⟨trial, subscription, permanent⟩
    rcases acceptable.known with same | same | same
    · exact trial same
    · exact subscription same
    · exact permanent same
  have permanent : ¬ (data.licenseType = typePermanent ∧ data.expireTime ≠ 0) := by
    rintro ⟨type, expires⟩
    exact expires (acceptable.permanent type)
  have expired : (data.licenseType ≠ typePermanent ∧
      (data.expireTime ≤ data.notBefore ∨ now ≥ data.expireTime)) ↔
        (data.licenseType ≠ typePermanent ∧ now ≥ data.expireTime) := by
    constructor
    · rintro ⟨type, early | late⟩
      · exact absurd early (UInt64.not_le.mpr (acceptable.expiring type))
      · exact ⟨type, late⟩
    · rintro ⟨type, late⟩
      exact ⟨type, .inr late⟩
  unfold Core.readPayload
  rw [nonempty_eq_some_iff.mpr ⟨licensed, licensePresent⟩,
    nonempty_eq_some_iff.mpr acceptable.product, acceptable.bound]
  dsimp only
  rw [if_neg acceptable.maxSessions, if_neg known, if_neg (not_not.mpr rfl), if_neg permanent,
    if_congr expired rfl rfl, acceptable.machine, readFeatures_of_present acceptable.features,
    snapshotOf, licensed, acceptable.product.1]
  rfl

theorem acceptable_of_readPayload {data : LicensePayload Bytes}
    {expectedProduct machineId : Bytes} {now : UInt64} {snapshot : LicenseSnapshot}
    (read : readPayload data expectedProduct machineId now = .ok snapshot) :
    ∃ policy, Acceptable data policy expectedProduct machineId := by
  unfold readPayload at read
  split at read
  · rename_i licenseId productId policy licensed product bound
    split at read
    · cases read
    rename_i maxSessions
    split at read
    · cases read
    rename_i known
    split at read
    · cases read
    rename_i expected
    split at read
    · cases read
    split at read
    · cases read
    rename_i permanent
    split at read
    · cases read
    rename_i expired
    split at read
    · cases read
    · cases read
    · rename_i machine features
      have expected := not_not.mp expected
      subst expected
      refine ⟨policy, ⟨licenseId, nonempty_eq_some_iff.mp licensed⟩,
        nonempty_eq_some_iff.mp product,
        bound, maxSessions, ?_, ?_, ?_, machine, ?_⟩
      · by_contra other
        simp only [not_or] at other
        exact known other
      · intro type
        by_contra expires
        exact permanent ⟨type, expires⟩
      · intro type
        by_contra early
        exact expired ⟨type, .inl (UInt64.not_lt.mp early)⟩
      · unfold readFeatures at features
        split at features
        · rename_i absent
          rw [absent]
          exact List.not_mem_nil
        · split at features
          · cases features
          · rename_i list source present
            rw [source]
            exact present
  · cases read

/-- `readPayload` accepts an acceptable payload from `not_before` to its expiry. -/
theorem readPayload_eq_ok_iff {data : LicensePayload Bytes} {expectedProduct machineId : Bytes}
    {now : UInt64} {snapshot : LicenseSnapshot} :
    readPayload data expectedProduct machineId now = .ok snapshot ↔
      ∃ policy, Acceptable data policy expectedProduct machineId ∧ data.notBefore ≤ now ∧
        (data.licenseType = typePermanent ∨ now < data.expireTime) ∧
        snapshot = snapshotOf data policy := by
  constructor
  · intro read
    obtain ⟨policy, acceptable⟩ := acceptable_of_readPayload read
    rw [acceptable.readPayload] at read
    split at read
    · cases read
    rename_i started
    split at read
    · cases read
    rename_i unexpired
    cases read
    refine ⟨policy, acceptable, UInt64.not_lt.mp started, ?_, rfl⟩
    by_cases permanent : data.licenseType = typePermanent
    · exact .inl permanent
    · exact .inr (UInt64.not_le.mp fun late => unexpired ⟨permanent, late⟩)
  · rintro ⟨policy, acceptable, started, unexpired, rfl⟩
    have unexpired : ¬ (data.licenseType ≠ typePermanent ∧ now ≥ data.expireTime) := by
      rintro ⟨type, late⟩
      rcases unexpired with permanent | before
      · exact type permanent
      · exact absurd late (UInt64.not_le.mpr before)
    rw [acceptable.readPayload, if_neg (UInt64.not_lt.mpr started), if_neg unexpired]

/-- The part of an accepted license that clients see. -/
structure LicenseSnapshot.AcceptedFor (snapshot : LicenseSnapshot) (product : Bytes) : Prop where
  productId : snapshot.productId = product
  features : [] ∉ snapshot.features

theorem acceptedFor_of_readPayload {data : LicensePayload Bytes}
    {expectedProduct machineId : Bytes} {now : UInt64} {snapshot : LicenseSnapshot}
    (read : readPayload data expectedProduct machineId now = .ok snapshot) :
    snapshot.AcceptedFor expectedProduct := by
  obtain ⟨policy, acceptable, -, -, rfl⟩ := readPayload_eq_ok_iff.mp read
  refine ⟨?_, acceptable.features⟩
  change data.productId.getD [] = expectedProduct
  rw [acceptable.product.1]
  rfl

/-- Past the package and its signature, only the payload decides. -/
theorem LicenseValidator.validate_of_readPackage {packages : Binding (LicensePackage Bytes)}
    {payloads : Binding (LicensePayload Bytes)} {ssl : OpenSsl} {validator : LicenseValidator}
    {package : Bytes} {outer : SignedPayload} {key : Key}
    (read : readPackage packages package = .ok outer)
    (trusted : validator.trustedKeys outer.keyId = some key)
    (signed : verifyEd25519 ssl key
      (signatureInput outer.formatVersion outer.keyId outer.payload) outer.signature = .ok ())
    (verified : payloads.verify outer.payload = true)
    (expectedProduct machineId : Bytes) (now : UInt64) :
    validator.validate packages payloads ssl package expectedProduct machineId now =
      readPayload (payloads.root outer.payload) expectedProduct machineId now := by
  unfold LicenseValidator.validate
  rw [read]
  dsimp only
  rw [trusted]
  dsimp only
  rw [signed]
  dsimp only
  rw [verified]
  rfl

/-- An accepted package passes every check before the payload at any other time too. -/
theorem LicenseValidator.readPayload_of_validate {packages : Binding (LicensePackage Bytes)}
    {payloads : Binding (LicensePayload Bytes)} {ssl : OpenSsl} {validator : LicenseValidator}
    {package expectedProduct machineId : Bytes} {now : UInt64} {snapshot : LicenseSnapshot}
    (validated : validator.validate packages payloads ssl package expectedProduct machineId now =
      .ok snapshot) :
    ∃ data, ∀ later, validator.validate packages payloads ssl package expectedProduct machineId
      later = readPayload data expectedProduct machineId later := by
  unfold LicenseValidator.validate at validated
  split at validated
  · cases validated
  rename_i outer read
  split at validated
  · cases validated
  rename_i key trusted
  split at validated
  · cases validated
  rename_i signed
  split at validated
  · cases validated
  rename_i verified
  refine ⟨payloads.root outer.payload, ?_⟩
  exact validate_of_readPackage read trusted signed (by simpa using verified) expectedProduct
    machineId

theorem LicenseValidator.acceptedFor_of_validate {packages : Binding (LicensePackage Bytes)}
    {payloads : Binding (LicensePayload Bytes)} {ssl : OpenSsl} {validator : LicenseValidator}
    {package expectedProduct machineId : Bytes} {now : UInt64} {snapshot : LicenseSnapshot}
    (validated : validator.validate packages payloads ssl package expectedProduct machineId now =
      .ok snapshot) : snapshot.AcceptedFor expectedProduct := by
  obtain ⟨data, same⟩ := validator.readPayload_of_validate validated
  rw [same] at validated
  exact acceptedFor_of_readPayload validated

/-! ## Packages that an issuer builds -/

theorem readPackage_create {packages : Binding (LicensePackage Bytes)}
    {package keyId payload : Bytes} {signature : Signature} (long : 8 ≤ package.length)
    (small : package.length ≤ kMaxLicenseSize)
    (identified : identifierOf package = packageIdentifier)
    (verified : packages.verify package = true)
    (root : packages.root package = createLicensePackage 1 keyId payload signature.val)
    (keyIdPresent : keyId ≠ []) (keyIdShort : keyId.length ≤ uint16Max)
    (payloadPresent : payload ≠ []) :
    readPackage packages package =
      .ok { formatVersion := 1, keyId, payload, signature } := by
  have present : package ≠ [] := by
    rintro rfl
    cases long
  have head : ¬ (package = [] ∨ package.length > kMaxLicenseSize ∨ package.length < 8 ∨
      (!hasIdentifier packageIdentifier package) = true) := by
    simp only [not_or]
    refine ⟨present, Nat.not_lt.mpr small, Nat.not_lt.mpr long, ?_⟩
    rw [hasIdentifier, identified]
    decide
  have fields : ¬ (keyId = [] ∨ keyId.length > uint16Max ∨ payload = []) := by
    simp only [not_or]
    exact ⟨keyIdPresent, Nat.not_lt.mpr keyIdShort, payloadPresent⟩
  unfold readPackage
  rw [if_neg head, verified, root]
  change (if keyId = [] ∨ keyId.length > uint16Max ∨ payload = [] then _
    else if size : signature.val.length = kSignatureSize then _ else _) = _
  rw [if_neg fields, dif_pos signature.2]
  rfl

/-! ## Signed packages -/

/-- A trusted key verifies the signature of the package. -/
def LicenseValidator.Signed (packages : Binding (LicensePackage Bytes)) (ssl : OpenSsl)
    (validator : LicenseValidator) (package : Bytes) : Prop :=
  ∃ outer key, readPackage packages package = .ok outer ∧
    validator.trustedKeys outer.keyId = some key ∧
    verifyEd25519 ssl key (signatureInput outer.formatVersion outer.keyId outer.payload)
      outer.signature = .ok ()

/-- What `validate` reports of packages that nobody trusted need have signed. -/
def unsignedErrors : List ErrorCode :=
  [.invalidFormat, .unsupportedVersion, .invalidLicense, .unknownKey, .invalidSignature]

theorem readPackage_error {packages : Binding (LicensePackage Bytes)} {package : Bytes}
    {error : ErrorCode} (failed : readPackage packages package = .error error) :
    error ∈ unsignedErrors := by
  unfold readPackage at failed
  split at failed
  · cases failed
    decide
  split at failed
  · cases failed
    decide
  dsimp only at failed
  split at failed
  · cases failed
    decide
  split at failed
  · split at failed
    · cases failed
      decide
    split at failed
    · cases failed
    · cases failed
      decide
  · cases failed
    decide

/-- Every other answer is about a package that is signed. -/
theorem LicenseValidator.signed_of_validate {packages : Binding (LicensePackage Bytes)}
    {payloads : Binding (LicensePayload Bytes)} {ssl : OpenSsl} {validator : LicenseValidator}
    {package expectedProduct machineId : Bytes} {now : UInt64} {result : Result LicenseSnapshot}
    (validated : validator.validate packages payloads ssl package expectedProduct machineId now =
      result) (past : ∀ error, result = .error error → error ∉ unsignedErrors) :
    validator.Signed packages ssl package := by
  unfold validate at validated
  split at validated
  · rename_i error failed
    exact absurd (readPackage_error failed) (past error validated.symm)
  rename_i outer read
  split at validated
  · exact absurd (by decide) (past .unknownKey validated.symm)
  rename_i key trusted
  split at validated
  · exact absurd (by decide) (past .invalidSignature validated.symm)
  · rename_i signed
    exact ⟨outer, key, read, trusted, signed⟩

end YoAuthorize.Core
