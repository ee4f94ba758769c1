import YoAuthorize.Tools.IssuerRoundTrip

/-!
# The issue command

`issue` of the license generator (`main.cpp`) and the times of the packages it
writes.  `expire_time` is the sum of the clock and the validity modulo 2^64, and a
zero in it makes the license permanent.
-/

namespace YoAuthorize.Tools

open Octets Crypto FlatBuffer License YoAuthorize.Core

/-! ## The command -/

def isDigit (byte : UInt8) : Bool := 48 ≤ byte ∧ byte ≤ 57

/-- The value of decimal digits. -/
def digitsValue (digits : Bytes) : Nat :=
  digits.foldl (fun value digit => 10 * value + (digit.toNat - 48)) 0

/-- `parseNumber` for an unsigned type of so many values: `std::from_chars` reads the
longest run of digits, and that has to be the whole text. -/
def parseNumber (size : Nat) (text : Bytes) : Option Nat :=
  let digits := text.takeWhile isDigit
  if digits = [] ∨ digitsValue digits ≥ size ∨ digits ≠ text then none
  else some (digitsValue digits)

/-- The exit code of the command and the package that it has written. -/
structure IssueOutcome : Type where
  exitCode : Nat
  package : Option Bytes := none
  deriving DecidableEq

/-- The definition that `issue` fills in; `features` are the arguments from the tenth on. -/
def issuedDefinition (keyId licenseId productId customerId : Bytes) (validitySeconds : UInt64)
    (maxSessions : UInt32) (features : List Bytes) (now : UInt64) : LicenseDefinition where
  keyId := keyId
  licenseId := licenseId
  productId := productId
  customerId := customerId
  issueTime := now
  notBefore := now
  expireTime := if validitySeconds = 0 then 0 else now + validitySeconds
  features := features
  maxSessions := maxSessions

/-- `issue` with the arguments from the third on.  `readPrivateKey` and `writeNewFile` say
what comes of the two files, and `now` is `std::time`. -/
def issue (packages : Binding (LicensePackage Bytes)) (payloads : Binding (LicensePayload Bytes))
    (ssl : OpenSsl) (readPrivateKey : Bytes → Option Key) (writeNewFile : Bytes → Bytes → Bool)
    (now : UInt64) : List Bytes → IssueOutcome
  | keyPath :: keyId :: output :: licenseId :: productId :: customerId :: validity :: sessions ::
      features =>
      match parseNumber (2 ^ 64) validity, parseNumber (2 ^ 32) sessions with
      | some validitySeconds, some maxSessions =>
          if maxSessions = 0 then { exitCode := 2 }
          else
            match readPrivateKey keyPath with
            | none => { exitCode := 1 }
            | some privateKey =>
                let definition := issuedDefinition keyId licenseId productId customerId
                  (.ofNat validitySeconds) (.ofNat maxSessions) features now
                match issueLicense packages payloads ssl definition privateKey with
                | .error _ => { exitCode := 1 }
                | .ok package =>
                    if writeNewFile output package then { exitCode := 0, package := some package }
                    else { exitCode := 1 }
      | _, _ => { exitCode := 2 }
  | _ => { exitCode := 2 }

/-! ## The times of an issued package -/

/-- The payload that is packed in a package. -/
def payloadOf (packages : Binding (LicensePackage Bytes))
    (payloads : Binding (LicensePayload Bytes)) (package : Bytes) : LicensePayload Bytes :=
  payloads.root ((packages.root package).payload.getD [])

/-- What a validity promises of a package that is issued for it, by the clock as a number. -/
structure Expires (packages : Binding (LicensePackage Bytes))
    (payloads : Binding (LicensePayload Bytes)) (ssl : OpenSsl) (validator : LicenseValidator)
    (productId package : Bytes) (now validitySeconds : Nat) : Prop where
  expireTime : 0 < validitySeconds →
    (payloadOf packages payloads package).expireTime.toNat = now + validitySeconds
  reported : 0 < validitySeconds → ∀ machineId (time : UInt64), now ≤ time.toNat →
    time.toNat < now + validitySeconds → ∃ snapshot,
      validator.validate packages payloads ssl package productId machineId time = .ok snapshot ∧
      snapshot.type = .subscription
  expired : 0 < validitySeconds → ∀ machineId (time : UInt64),
    now + validitySeconds ≤ time.toNat →
    validator.validate packages payloads ssl package productId machineId time = .error .expired
  permanent : (payloadOf packages payloads package).licenseType = typePermanent →
    validitySeconds = 0

section

variable {packages : Binding (LicensePackage Bytes)} {payloads : Binding (LicensePayload Bytes)}
  {signer verifier : OpenSsl} {privateKey publicKey : Key} {definition : LicenseDefinition}
  {package : Bytes} {signature : Signature}

/-- Without a machine id the issuer bounds everything that is packed. -/
theorem Issued.payload_small (codecs : Codecs packages payloads)
    (issued : Issued packages payloads signer definition privateKey package signature)
    (unbound : definition.machineId = []) :
    (payloads.build definition.payload).length ≤ 40000 := by
  have accepted := issued.accepted
  have fits := payload_fits accepted (by rw [unbound]; exact Nat.zero_le _)
  have built := codecs.bounded.build_le definition.payload fits
  have contents := payload_contentSize_le accepted
  have limits : 3 * vectorSize kMaxIdentifierSize +
      vectorSize (kMaxFeatures * vectorSize kMaxFeatureSize) = 37693 := rfl
  rw [limits, unbound] at contents
  unfold vectorSize at contents
  unfold tableSize at built
  simp only [List.length_nil] at contents
  omega

theorem Issued.small (codecs : Codecs packages payloads)
    (bounded : packages.Bounded LicensePackage.contentSize)
    (issued : Issued packages payloads signer definition privateKey package signature)
    (unbound : definition.machineId = []) : package.length ≤ kMaxLicenseSize := by
  have payload := issued.payload_small codecs unbound
  have keyId := issued.accepted.keyId.2
  have fits := package_fits signature keyId (Nat.le_trans payload (by decide))
  have built := bounded.build_le _ fits
  have signatureSize : signature.val.length = 64 := signature.2
  have size : (createLicensePackage 1 definition.keyId (payloads.build definition.payload)
      signature.val).contentSize = vectorSize definition.keyId.length +
        vectorSize (payloads.build definition.payload).length +
        vectorSize signature.val.length := rfl
  rw [issued.built]
  rw [size] at built
  unfold uint16Max at keyId
  unfold kMaxLicenseSize
  unfold tableSize vectorSize at *
  omega

theorem Issued.payloadOf (codecs : Codecs packages payloads)
    (issued : Issued packages payloads signer definition privateKey package signature)
    (unbound : definition.machineId = []) :
    payloadOf packages payloads package = definition.payload := by
  have payload := issued.payload_small codecs unbound
  have payloadFits := payload_fits issued.accepted (by rw [unbound]; exact Nat.zero_le _)
  have packageFits := package_fits signature issued.accepted.keyId.2
    (Nat.le_trans payload (by decide))
  unfold Tools.payloadOf
  rw [issued.built, codecs.package.root_build _ packageFits]
  exact codecs.payload.root_build _ payloadFits

/-- A definition that expires at the sum keeps the promise. -/
theorem Issued.expires (codecs : Codecs packages payloads)
    (bounded : packages.Bounded LicensePackage.contentSize)
    (keys : KeysMatch signer verifier privateKey publicKey)
    (issued : Issued packages payloads signer definition privateKey package signature)
    (unbound : definition.machineId = []) {validator : LicenseValidator}
    (trusted : validator.trustedKeys definition.keyId = some publicKey) {now validitySeconds : Nat}
    (started : definition.notBefore.toNat = now) (expires : definition.expireTime ≠ 0)
    (sum : definition.expireTime.toNat = now + validitySeconds) :
    Expires packages payloads verifier validator definition.productId package now
      validitySeconds := by
  have packed := issued.payloadOf codecs unbound
  have small := issued.small codecs bounded unbound
  have fields := payload_fields definition
  have subscribed : definition.payload.licenseType ≠ typePermanent := by
    rw [ne_eq, licenseType_eq_permanent_iff]
    exact expires
  have reads : ∀ machineId now, validator.validate packages payloads verifier package
      definition.productId machineId now =
        if now < definition.notBefore then .error .notYetValid
        else if now ≥ definition.expireTime then .error .expired else .ok definition.snapshot := by
    intro machineId now
    have acceptable : Acceptable definition.payload definition.policy definition.productId
        machineId := (acceptable_payload_iff issued.accepted).mpr ⟨rfl, rfl, .inl unbound⟩
    rw [validate_eq_readPayload codecs keys issued small trusted, acceptable.readPayload,
      fields.notBefore, fields.expireTime, snapshotOf_payload]
    simp only [ne_eq, subscribed, not_false_eq_true, true_and]
  constructor
  · intro _
    rw [packed, fields.expireTime, sum]
  · intro _ machineId time late early
    have late : ¬ time < definition.notBefore := by
      rw [UInt64.lt_iff_toNat_lt]
      omega
    have early : ¬ time ≥ definition.expireTime := by
      rw [ge_iff_le, UInt64.le_iff_toNat_le]
      omega
    refine ⟨definition.snapshot, ?_, if_neg expires⟩
    rw [reads, if_neg late, if_neg early]
  · intro _ machineId time late
    have started : ¬ time < definition.notBefore := by
      rw [UInt64.lt_iff_toNat_lt]
      omega
    have late : time ≥ definition.expireTime := by
      rw [ge_iff_le, UInt64.le_iff_toNat_le]
      omega
    rw [reads, if_neg started, if_pos late]
  · intro permanent
    rw [packed] at permanent
    exact absurd permanent subscribed

/-- A run that writes a package has issued it for the definition of its arguments. -/
theorem issueLicense_of_issue {ssl : OpenSsl} {readPrivateKey : Bytes → Option Key}
    {writeNewFile : Bytes → Bytes → Bool} {now : UInt64}
    {keyPath keyId output licenseId productId customerId validity sessions : Bytes}
    {features : List Bytes} {validitySeconds : Nat}
    (issued : issue packages payloads ssl readPrivateKey writeNewFile now
      (keyPath :: keyId :: output :: licenseId :: productId :: customerId :: validity :: sessions ::
        features) = { exitCode := 0, package := some package })
    (parsed : parseNumber (2 ^ 64) validity = some validitySeconds)
    (key : readPrivateKey keyPath = some privateKey) :
    ∃ maxSessions, issueLicense packages payloads ssl (issuedDefinition keyId licenseId productId
      customerId (.ofNat validitySeconds) maxSessions features now) privateKey = .ok package := by
  simp only [issue, parsed, key] at issued
  split at issued
  · rename_i seconds maxSessions same _
    cases same
    split at issued
    · cases issued
    split at issued
    · cases issued
    rename_i built issuedPackage
    split at issued
    · cases issued
      exact ⟨_, issuedPackage⟩
    · cases issued
  · cases issued

theorem parseNumber_lt {size value : Nat} {text : Bytes}
    (parsed : parseNumber size text = some value) : value < size := by
  simp only [parseNumber] at parsed
  split at parsed
  · cases parsed
  · rename_i good
    simp only [not_or] at good
    cases parsed
    omega

end

/-- A valid definition of the command expires with the sum, unless that is 2^64. -/
theorem expireTime_issued {keyId licenseId productId customerId : Bytes} {features : List Bytes}
    {validitySeconds : Nat} {maxSessions : UInt32} {now : UInt64}
    (seconds : validitySeconds < 2 ^ 64)
    (accepted : (issuedDefinition keyId licenseId productId customerId (.ofNat validitySeconds)
      maxSessions features now).Valid) :
    let expireTime := (issuedDefinition keyId licenseId productId customerId
      (.ofNat validitySeconds) maxSessions features now).expireTime
    (validitySeconds = 0 ∧ expireTime = 0) ∨
    (now.toNat + validitySeconds = 2 ^ 64 ∧ expireTime = 0) ∨
    (0 < validitySeconds ∧ expireTime ≠ 0 ∧ expireTime.toNat = now.toNat + validitySeconds) := by
  intro expireTime
  have limit := now.toNat_lt
  have expiring : expireTime ≠ 0 → now < expireTime := accepted.expiring
  have chosen : expireTime = if UInt64.ofNat validitySeconds = 0 then 0
    else now + .ofNat validitySeconds := rfl
  have toNat : (UInt64.ofNat validitySeconds).toNat = validitySeconds := by
    rw [UInt64.toNat_ofNat', Nat.mod_eq_of_lt seconds]
  by_cases none : UInt64.ofNat validitySeconds = 0
  · rw [none] at toNat
    rw [if_pos none] at chosen
    exact .inl ⟨toNat.symm, chosen⟩
  · rw [if_neg none] at chosen
    have value : expireTime.toNat = (now.toNat + validitySeconds) % 2 ^ 64 := by
      rw [chosen, UInt64.toNat_add, toNat]
    have positive : 0 < validitySeconds := by
      rw [← UInt64.toNat_inj, toNat] at none
      exact Nat.pos_of_ne_zero none
    by_cases zero : expireTime = 0
    · -- the clock and the validity are each below 2^64, so only one multiple is left
      have wrapped : 0 = (now.toNat + validitySeconds) % 2 ^ 64 := by
        rw [← value, zero]
        rfl
      exact .inr (.inl ⟨by omega, zero⟩)
    · have later := UInt64.lt_iff_toNat_lt.mp (expiring zero)
      exact .inr (.inr ⟨positive, zero, by omega⟩)

/-- Whether the promise of a validity is kept: the sum of the clock and the
validity must not be 2^64. -/
theorem expires_iff {packages : Binding (LicensePackage Bytes)}
    {payloads : Binding (LicensePayload Bytes)} (codecs : Codecs packages payloads)
    (bounded : packages.Bounded LicensePackage.contentSize) {signer verifier : OpenSsl}
    {privateKey publicKey : Key} (keys : KeysMatch signer verifier privateKey publicKey)
    (readPrivateKey : Bytes → Option Key) (writeNewFile : Bytes → Bytes → Bool) (now : UInt64)
    (keyPath keyId output licenseId productId customerId validity sessions : Bytes)
    (features : List Bytes) (package : Bytes)
    (issued : issue packages payloads signer readPrivateKey writeNewFile now
      (keyPath :: keyId :: output :: licenseId :: productId :: customerId :: validity :: sessions ::
        features) = { exitCode := 0, package := some package })
    (validitySeconds : Nat) (parsed : parseNumber (2 ^ 64) validity = some validitySeconds)
    (key : readPrivateKey keyPath = some privateKey) (validator : LicenseValidator)
    (trusted : validator.trustedKeys keyId = some publicKey) :
    Expires packages payloads verifier validator productId package now.toNat validitySeconds ↔
      now.toNat + validitySeconds ≠ 2 ^ 64 := by
  obtain ⟨maxSessions, built⟩ := issueLicense_of_issue issued parsed key
  obtain ⟨signature, issued⟩ := issued_of_issueLicense built
  have seconds := parseNumber_lt parsed
  rcases expireTime_issued seconds issued.accepted with ⟨none, permanent⟩ | ⟨wraps, permanent⟩ |
      ⟨positive, expires, sum⟩
  · refine ⟨fun _ => ?_, fun _ => ?_⟩
    · have limit := now.toNat_lt
      omega
    · subst none
      exact ⟨by simp, by simp, by simp, fun _ => rfl⟩
  · refine ⟨fun kept _ => ?_, fun apart => absurd wraps apart⟩
    have packed := issued.payloadOf codecs rfl
    have none := kept.permanent (by rw [packed, licenseType_eq_permanent_iff]; exact permanent)
    have limit := now.toNat_lt
    omega
  · refine ⟨fun _ => ?_, fun _ => issued.expires codecs bounded keys rfl trusted rfl expires sum⟩
    have limit := UInt64.toNat_lt (issuedDefinition keyId licenseId productId customerId
      (.ofNat validitySeconds) maxSessions features now).expireTime
    omega

/-- The arguments of a run for a validity. -/
def testArguments (validity : Bytes) : List Bytes :=
  [ofAscii "issuer.key", testDefinition.keyId, ofAscii "license.bin", testDefinition.licenseId,
    testDefinition.productId, testDefinition.customerId, validity, ofAscii "1"]

/-- A run at the time 1000 in which both files are there. -/
def testIssue (validity : Bytes) : IssueOutcome :=
  issue referencePackages referencePayloads referenceSignatures (fun _ => some (.zeros kKeySize))
    (fun _ _ => true) 1000 (testArguments validity)

/-- What `testIssue` writes for so many seconds. -/
def testIssued (seconds : UInt64) : Bytes :=
  referencePackages.build (createLicensePackage 1 testDefinition.keyId
    (referencePayloads.build (issuedDefinition testDefinition.keyId testDefinition.licenseId
      testDefinition.productId testDefinition.customerId seconds 1 [] 1000).payload)
    (referenceSign (.zeros kKeySize) []).val)

/-- The validity that ends 2000 seconds later. -/
theorem expires_iff_subscription :
    Expires referencePackages referencePayloads referenceSignatures testValidator
      testDefinition.productId (testIssued 2000) 1000 2000 := by
  have issued :
      testIssue (ofAscii "2000") = { exitCode := 0, package := some (testIssued 2000) } := by
    rfl
  have times := expires_iff referenceCodecs (packageFormat.bounded_binding _ _ packageFormat_sized)
    (referenceSignatures_match (.zeros kKeySize)) (fun _ => some (.zeros kKeySize))
    (fun _ _ => true)
    1000 _ _ _ _ _ _ _ _ _ (testIssued 2000) issued 2000 (by decide) rfl testValidator
    testValidator_trusts
  exact times.mpr (by decide)

/-- At the time 1000, this validity ends at 2^64, and the package is permanent. -/
def wrappingValidity : Bytes := ofAscii "18446744073709550616"

theorem testIssue_wraps :
    parseNumber (2 ^ 64) wrappingValidity = some (2 ^ 64 - 1000) ∧
    testIssue wrappingValidity =
      { exitCode := 0, package := some (testIssued (.ofNat (2 ^ 64 - 1000))) } ∧
    ¬ Expires referencePackages referencePayloads referenceSignatures testValidator
      testDefinition.productId (testIssued (.ofNat (2 ^ 64 - 1000))) 1000 (2 ^ 64 - 1000) := by
  refine ⟨by decide, rfl, ?_⟩
  intro kept
  have permanent := kept.permanent (by decide +kernel)
  cases permanent

end YoAuthorize.Tools
