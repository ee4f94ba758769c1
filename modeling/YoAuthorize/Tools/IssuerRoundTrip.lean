import YoAuthorize.Core.LicenseValidator
import YoAuthorize.Core.LicenseReference
import YoAuthorize.Tools.Issuer

/-!
# Issued licenses validate

`issueLicense` writes a payload and `LicenseValidator::validate` reads it, in
different modules and with different checks.  The license type and the machine
mode are not fields of a definition: the issuer infers them from a zero expiry
and an empty machine id.  A package that the core does not refuse for its size
validates exactly for the product, the times and the machine of its definition.

The issuer bounds every string but the machine id, so the sizes come from the
package itself: it holds the payload, and the payload holds the machine id.
-/

namespace YoAuthorize.Tools

open Octets Crypto FlatBuffer License YoAuthorize.Core

/-! ## Definitions that the issuer accepts -/

/-- An identifier of a size that `valid` accepts. -/
structure Identifier (text : Bytes) : Prop where
  nonempty : text ≠ []
  short : text.length ≤ kMaxIdentifierSize

theorem identifier_of_badIdentifier {text : Bytes} (good : ¬ badIdentifier text = true) :
    Identifier text := by
  simp only [badIdentifier, decide_eq_true_eq, not_or] at good
  exact ⟨good.1, Nat.not_lt.mp good.2⟩

/-- The checks of `valid`. -/
structure LicenseDefinition.Valid (definition : LicenseDefinition) : Prop where
  keyId : definition.keyId ≠ [] ∧ definition.keyId.length ≤ uint16Max
  licenseId : Identifier definition.licenseId
  productId : Identifier definition.productId
  customerId : Identifier definition.customerId
  maxSessions : definition.maxSessions ≠ 0
  few : definition.features.length ≤ kMaxFeatures
  expiring : definition.expireTime ≠ 0 → definition.notBefore < definition.expireTime
  features : ∀ feature ∈ definition.features, feature ≠ [] ∧ feature.length ≤ kMaxFeatureSize

theorem valid_of_eq_true {definition : LicenseDefinition} (accepted : valid definition = true) :
    definition.Valid := by
  unfold valid at accepted
  split at accepted
  · cases accepted
  rename_i fields
  simp only [not_or] at fields
  obtain ⟨keyId, keyIdShort, licenseId, productId, customerId, -, -, -, maxSessions, few⟩ := fields
  split at accepted
  · cases accepted
  rename_i expiring
  simp only [Bool.not_eq_true', List.any_eq_false, decide_eq_true_eq, not_or] at accepted
  refine ⟨⟨keyId, Nat.not_lt.mp keyIdShort⟩, identifier_of_badIdentifier licenseId,
    identifier_of_badIdentifier productId, identifier_of_badIdentifier customerId, maxSessions,
    Nat.not_lt.mp few, ?_, ?_⟩
  · intro expires
    by_contra early
    exact expiring ⟨expires, UInt64.not_lt.mp early⟩
  · intro feature mem
    obtain ⟨present, short⟩ := accepted feature mem
    exact ⟨present, Nat.not_lt.mp short⟩

/-! ## The payload of a definition -/

section

variable {definition : LicenseDefinition}

def LicenseDefinition.policy (definition : LicenseDefinition) : MachinePolicy Bytes :=
  createMachinePolicy (if definition.machineId = [] then modeUnbound else modeExact)
    (some definition.machineId)

/-- What the core keeps of a definition. -/
def LicenseDefinition.snapshot (definition : LicenseDefinition) : LicenseSnapshot where
  licenseId := definition.licenseId
  productId := definition.productId
  customerId := definition.customerId
  issueTime := definition.issueTime
  notBefore := definition.notBefore
  expireTime := definition.expireTime
  type := if definition.expireTime = 0 then .permanent else .subscription
  features := definition.features
  maxSessions := definition.maxSessions
  machineMode := if definition.machineId = [] then .unbound else .exact
  machineId := definition.machineId

/-- The defaults that the builder leaves out read back as themselves. -/
structure PayloadFields (definition : LicenseDefinition) : Prop where
  issueTime : definition.payload.issueTime = definition.issueTime
  notBefore : definition.payload.notBefore = definition.notBefore
  expireTime : definition.payload.expireTime = definition.expireTime
  licenseType : definition.payload.licenseType =
    if definition.expireTime = 0 then typePermanent else typeSubscription
  maxSessions : definition.payload.maxSessions = definition.maxSessions

theorem payload_fields (definition : LicenseDefinition) : PayloadFields definition where
  issueTime := getField_addElement _ _
  notBefore := getField_addElement _ _
  expireTime := getField_addElement _ _
  licenseType := getField_addElement _ _
  maxSessions := getField_addElement _ _

theorem licenseType_eq_permanent_iff (definition : LicenseDefinition) :
    definition.payload.licenseType = typePermanent ↔ definition.expireTime = 0 := by
  rw [(payload_fields definition).licenseType]
  split
  · rename_i permanent
    exact ⟨fun _ => permanent, fun _ => rfl⟩
  · rename_i expires
    exact ⟨fun same => absurd same (by decide), fun permanent => absurd permanent expires⟩

theorem snapshotOf_payload (definition : LicenseDefinition) :
    snapshotOf definition.payload definition.policy = definition.snapshot := by
  have fields := payload_fields definition
  have type : convertType definition.payload.licenseType =
      if definition.expireTime = 0 then .permanent else .subscription := by
    rw [fields.licenseType]
    split <;> rfl
  have machineMode : (if definition.policy.mode = modeExact then MachineMode.exact
      else MachineMode.unbound) =
        if definition.machineId = [] then MachineMode.unbound else MachineMode.exact := by
    unfold LicenseDefinition.policy
    split <;> rfl
  unfold snapshotOf LicenseDefinition.snapshot
  rw [fields.issueTime, fields.notBefore, fields.expireTime, fields.maxSessions, machineMode, type]
  rfl

theorem checkMachine_policy (definition : LicenseDefinition) (machineId : Bytes) :
    checkMachine definition.policy machineId = .ok () ↔
      definition.machineId = [] ∨ definition.machineId = machineId := by
  by_cases unbound : definition.machineId = []
  · have policy :
        definition.policy = createMachinePolicy modeUnbound (some definition.machineId) := by
      rw [LicenseDefinition.policy, if_pos unbound]
    rw [policy]
    exact ⟨fun _ => .inl unbound, fun _ => rfl⟩
  · have policy :
        definition.policy = createMachinePolicy modeExact (some definition.machineId) := by
      rw [LicenseDefinition.policy, if_neg unbound]
    have present : nonempty (some definition.machineId) = some definition.machineId :=
      nonempty_eq_some_iff.mpr ⟨rfl, unbound⟩
    rw [policy, checkMachine_exact rfl]
    change (if nonempty (some definition.machineId) ≠ some machineId then _ else _) = _ ↔ _
    rw [present]
    split
    · rename_i other
      refine ⟨nofun, ?_⟩
      rintro (empty | same)
      · exact absurd empty unbound
      · exact absurd (congrArg some same) other
    · rename_i same
      exact ⟨fun _ => .inr (Option.some.inj (not_not.mp same)), fun _ => rfl⟩

/-- Of the checks on the payload of a valid definition, the product and the
machine remain. -/
theorem acceptable_payload_iff (accepted : definition.Valid) {policy : MachinePolicy Bytes}
    {product machineId : Bytes} :
    Acceptable definition.payload policy product machineId ↔
      policy = definition.policy ∧ product = definition.productId ∧
        (definition.machineId = [] ∨ definition.machineId = machineId) := by
  have fields := payload_fields definition
  constructor
  · intro acceptable
    have bound : some definition.policy = some policy := acceptable.bound
    have product : some definition.productId = some product := acceptable.product.1
    cases bound
    exact ⟨rfl, (Option.some.inj product).symm,
      (checkMachine_policy definition machineId).mp acceptable.machine⟩
  · rintro ⟨rfl, rfl, machine⟩
    refine ⟨⟨_, rfl, accepted.licenseId.nonempty⟩, ⟨rfl, accepted.productId.nonempty⟩, rfl, ?_, ?_,
      ?_, ?_, (checkMachine_policy definition machineId).mpr machine, ?_⟩
    · rw [fields.maxSessions]
      exact accepted.maxSessions
    · rw [fields.licenseType]
      split
      · exact .inr (.inr rfl)
      · exact .inr (.inl rfl)
    · rw [licenseType_eq_permanent_iff, fields.expireTime]
      exact id
    · rw [ne_eq, licenseType_eq_permanent_iff, fields.notBefore, fields.expireTime]
      exact accepted.expiring
    · intro mem
      exact (accepted.features [] mem).1 rfl

theorem readPayload_payload_iff (accepted : definition.Valid) {product machineId : Bytes}
    {now : UInt64} {snapshot : LicenseSnapshot} :
    readPayload definition.payload product machineId now = .ok snapshot ↔
      (product = definition.productId ∧ definition.notBefore ≤ now ∧
        (definition.expireTime = 0 ∨ now < definition.expireTime) ∧
        (definition.machineId = [] ∨ definition.machineId = machineId)) ∧
      snapshot = definition.snapshot := by
  have fields := payload_fields definition
  rw [readPayload_eq_ok_iff]
  constructor
  · rintro ⟨policy, acceptable, started, unexpired, rfl⟩
    obtain ⟨rfl, product, machine⟩ := (acceptable_payload_iff accepted).mp acceptable
    rw [fields.notBefore] at started
    rw [licenseType_eq_permanent_iff, fields.expireTime] at unexpired
    exact ⟨⟨product, started, unexpired, machine⟩, snapshotOf_payload definition⟩
  · rintro ⟨⟨product, started, unexpired, machine⟩, rfl⟩
    refine ⟨definition.policy, ?_, ?_, ?_, (snapshotOf_payload definition).symm⟩
    · exact (acceptable_payload_iff accepted).mpr ⟨rfl, product, machine⟩
    · rw [fields.notBefore]
      exact started
    · rw [licenseType_eq_permanent_iff, fields.expireTime]
      exact unexpired

end

/-! ## Packages that the issuer builds -/

/-- FlatBuffers reads back what it writes. -/
structure Codecs (packages : Binding (LicensePackage Bytes))
    (payloads : Binding (LicensePayload Bytes)) : Prop where
  package : packages.Lawful packages packageIdentifier LicensePackage.contentSize
  payload : payloads.Interoperates payloads id LicensePayload.contentSize
  bounded : payloads.Bounded LicensePayload.contentSize
  storesPayload : packages.Stores LicensePackage.payload
  storesMachine : payloads.Stores LicensePayload.boundMachine

/-- Ed25519 verifies what it signed under the other half of the key. -/
def KeysMatch (signer verifier : OpenSsl) (privateKey publicKey : Key) : Prop :=
  ∀ message signature, signEd25519 signer privateKey message = .ok signature →
    verifyEd25519 verifier publicKey message signature = .ok ()

section

variable {packages : Binding (LicensePackage Bytes)} {payloads : Binding (LicensePayload Bytes)}
  {definition : LicenseDefinition}

/-- The checks of the issuer bound the contents of the payload, all but the machine id. -/
theorem payload_contentSize_le (accepted : definition.Valid) :
    definition.payload.contentSize ≤
      3 * vectorSize kMaxIdentifierSize +
        vectorSize (kMaxFeatures * vectorSize kMaxFeatureSize) +
        vectorSize definition.machineId.length := by
  have licenseId := accepted.licenseId.short
  have productId := accepted.productId.short
  have customerId := accepted.customerId.short
  have features : stringsSize (some definition.features) ≤
      vectorSize (kMaxFeatures * vectorSize kMaxFeatureSize) :=
    stringsSize_le_of_bounds accepted.few fun feature mem => (accepted.features feature mem).2
  have size : definition.payload.contentSize =
      vectorSize definition.licenseId.length + vectorSize definition.productId.length +
        vectorSize definition.customerId.length + stringsSize (some definition.features) +
        vectorSize definition.machineId.length := rfl
  rw [size]
  unfold vectorSize at *
  omega

theorem payload_fits (accepted : definition.Valid)
    (machineSize : definition.machineId.length ≤ kMaxLicenseSize) :
    tableSize + definition.payload.contentSize ≤ maxBufferSize := by
  have contents := payload_contentSize_le accepted
  have limits : 3 * vectorSize kMaxIdentifierSize +
      vectorSize (kMaxFeatures * vectorSize kMaxFeatureSize) = 37693 := rfl
  unfold kMaxLicenseSize at machineSize
  unfold tableSize maxBufferSize
  rw [limits] at contents
  unfold vectorSize at contents
  omega

theorem package_fits {keyId payload : Bytes} (signature : Signature)
    (keyIdShort : keyId.length ≤ uint16Max) (payloadSize : payload.length ≤ kMaxLicenseSize) :
    tableSize + (createLicensePackage 1 keyId payload signature.val).contentSize ≤
      maxBufferSize := by
  have signatureSize : signature.val.length = 64 := signature.2
  have size : (createLicensePackage 1 keyId payload signature.val).contentSize =
      vectorSize keyId.length + vectorSize payload.length + vectorSize signature.val.length := rfl
  unfold uint16Max at keyIdShort
  unfold kMaxLicenseSize at payloadSize
  rw [size]
  unfold vectorSize tableSize maxBufferSize
  omega

/-- What `issueLicense` made a package of. -/
structure Issued (packages : Binding (LicensePackage Bytes))
    (payloads : Binding (LicensePayload Bytes)) (signer : OpenSsl) (definition : LicenseDefinition)
    (signingPrivateKey : Key) (package : Bytes) (signature : Signature) : Prop where
  accepted : definition.Valid
  signed : signEd25519 signer signingPrivateKey
    (signatureInput 1 definition.keyId (payloads.build definition.payload)) = .ok signature
  built : package = packages.build (createLicensePackage 1 definition.keyId
    (payloads.build definition.payload) signature.val)

theorem issued_of_issueLicense {signer : OpenSsl} {signingPrivateKey : Key} {package : Bytes}
    (issued : issueLicense packages payloads signer definition signingPrivateKey = .ok package) :
    ∃ signature,
      Issued packages payloads signer definition signingPrivateKey package signature := by
  unfold issueLicense at issued
  split at issued
  · cases issued
  rename_i accepted
  dsimp only at issued
  split at issued
  · cases issued
  rename_i signature signed
  cases issued
  exact ⟨signature, valid_of_eq_true (by simpa using accepted), signed, rfl⟩

/-- The core reads an issued package of a size it takes as the payload of its definition. -/
theorem validate_eq_readPayload (codecs : Codecs packages payloads) {signer verifier : OpenSsl}
    {privateKey publicKey : Key} (keys : KeysMatch signer verifier privateKey publicKey)
    {package : Bytes} {signature : Signature}
    (issued : Issued packages payloads signer definition privateKey package signature)
    (small : package.length ≤ kMaxLicenseSize) {validator : LicenseValidator}
    (trusted : validator.trustedKeys definition.keyId = some publicKey)
    (product machineId : Bytes) (now : UInt64) :
    validator.validate packages payloads verifier package product machineId now =
      readPayload definition.payload product machineId now := by
  rcases issued with ⟨accepted, signed, rfl⟩
  let payload := payloads.build definition.payload
  let table := createLicensePackage 1 definition.keyId payload signature.val
  have payloadSize : payload.length ≤ kMaxLicenseSize :=
    Nat.le_trans (codecs.storesPayload table payload rfl) small
  have machineSize : definition.machineId.length ≤ kMaxLicenseSize :=
    Nat.le_trans (codecs.storesMachine definition.payload definition.machineId rfl) payloadSize
  have payloadFits := payload_fits accepted machineSize
  have packageFits : tableSize + table.contentSize ≤ maxBufferSize :=
    package_fits signature accepted.keyId.2 payloadSize
  have payloadPresent : payload ≠ [] := by
    intro empty
    have long : 8 ≤ payload.length := codecs.bounded.eight_le_build _ payloadFits
    rw [empty] at long
    cases long
  have read := readPackage_create (codecs.package.eight_le_build table packageFits) small
    (codecs.package.identifier_build table packageFits)
    (codecs.package.verify_build table packageFits)
    (codecs.package.root_build table packageFits) accepted.keyId.1 accepted.keyId.2 payloadPresent
  rw [LicenseValidator.validate_of_readPackage read trusted (keys _ _ signed)
    (codecs.payload.verify_build _ payloadFits), codecs.payload.root_build _ payloadFits]
  rfl

/-- The core accepts an issued package of a size it takes exactly when the
definition is for this product, time and machine. -/
theorem validate_issued (codecs : Codecs packages payloads) {signer verifier : OpenSsl}
    {privateKey publicKey : Key} (keys : KeysMatch signer verifier privateKey publicKey)
    {package : Bytes} {signature : Signature}
    (issued : Issued packages payloads signer definition privateKey package signature)
    (small : package.length ≤ kMaxLicenseSize) {validator : LicenseValidator}
    (trusted : validator.trustedKeys definition.keyId = some publicKey)
    {product machineId : Bytes} {now : UInt64} {snapshot : LicenseSnapshot} :
    validator.validate packages payloads verifier package product machineId now = .ok snapshot ↔
      (product = definition.productId ∧ definition.notBefore ≤ now ∧
        (definition.expireTime = 0 ∨ now < definition.expireTime) ∧
        (definition.machineId = [] ∨ definition.machineId = machineId)) ∧
      snapshot = definition.snapshot := by
  rw [validate_eq_readPayload codecs keys issued small trusted]
  exact readPayload_payload_iff issued.accepted

end

/-- Every definition that the issuer accepts, in a package that the core does
not refuse for its size, validates exactly for its own product, times and
machine, and the snapshot is the definition. -/
theorem issuerRoundTrip {packages : Binding (LicensePackage Bytes)}
    {payloads : Binding (LicensePayload Bytes)} (codecs : Codecs packages payloads)
    {signer verifier : OpenSsl} {privateKey publicKey : Key}
    (keys : KeysMatch signer verifier privateKey publicKey) (definition : LicenseDefinition)
    (package : Bytes)
    (issued : issueLicense packages payloads signer definition privateKey = .ok package)
    (small : package.length ≤ kMaxLicenseSize) (validator : LicenseValidator)
    (trusted : validator.trustedKeys definition.keyId = some publicKey)
    (product machineId : Bytes) (now : UInt64) :
    let result := validator.validate packages payloads verifier package product machineId now
    ((∃ snapshot, result = .ok snapshot) ↔
      product = definition.productId ∧ definition.notBefore ≤ now ∧
        (definition.expireTime = 0 ∨ now < definition.expireTime) ∧
        (definition.machineId = [] ∨ definition.machineId = machineId)) ∧
    ∀ snapshot, result = .ok snapshot →
      snapshot.licenseId = definition.licenseId ∧ snapshot.productId = definition.productId ∧
      snapshot.customerId = definition.customerId ∧ snapshot.issueTime = definition.issueTime ∧
      snapshot.notBefore = definition.notBefore ∧ snapshot.expireTime = definition.expireTime ∧
      snapshot.features = definition.features ∧ snapshot.maxSessions = definition.maxSessions ∧
      snapshot.machineId = definition.machineId ∧
      (snapshot.type = .permanent ↔ definition.expireTime = 0) ∧
      (snapshot.machineMode = .exact ↔ definition.machineId ≠ []) := by
  intro result
  obtain ⟨signature, issued⟩ := issued_of_issueLicense issued
  have accepts : ∀ snapshot, result = .ok snapshot ↔
      (product = definition.productId ∧ definition.notBefore ≤ now ∧
        (definition.expireTime = 0 ∨ now < definition.expireTime) ∧
        (definition.machineId = [] ∨ definition.machineId = machineId)) ∧
      snapshot = definition.snapshot :=
    fun snapshot => validate_issued codecs keys issued small trusted
  refine ⟨⟨?_, ?_⟩, ?_⟩
  · rintro ⟨snapshot, accepted⟩
    exact ((accepts snapshot).mp accepted).1
  · intro usable
    exact ⟨definition.snapshot, (accepts _).mpr ⟨usable, rfl⟩⟩
  · intro snapshot accepted
    rw [((accepts snapshot).mp accepted).2]
    refine ⟨rfl, rfl, rfl, rfl, rfl, rfl, rfl, rfl, rfl, ?_, ?_⟩
    · change (if definition.expireTime = 0 then LicenseType.permanent else .subscription) = _ ↔ _
      split
      · rename_i permanent
        exact ⟨fun _ => permanent, fun _ => rfl⟩
      · rename_i expires
        exact ⟨nofun, fun permanent => absurd permanent expires⟩
    · change (if definition.machineId = [] then MachineMode.unbound else .exact) = _ ↔ _
      split
      · rename_i unbound
        exact ⟨nofun, fun bound => absurd unbound bound⟩
      · rename_i bound
        exact ⟨fun _ => bound, fun _ => rfl⟩

/-! ## A definition that is issued and accepted -/

def referenceSign (_ : Key) (_ : Bytes) : Signature := .zeros kSignatureSize

/-- A library with signatures and nothing else. -/
def referenceSignatures : OpenSsl where
  randPrivBytes _ := none
  digestSha256 _ := none
  digestSignEd25519 key message := some (referenceSign key message)
  digestVerifyEd25519 key message signature :=
    if signature = referenceSign key message then .ok () else .error .invalidSignature
  keygenX25519 := none
  pkeyDeriveX25519 _ _ := .error .derivationFailed
  kdfDeriveHkdf _ _ _ _ := none
  encryptChaCha20Poly1305 _ _ _ _ := none
  decryptChaCha20Poly1305 _ _ _ _ _ := none

theorem referenceSignatures_match (key : Key) :
    KeysMatch referenceSignatures referenceSignatures key key := by
  intro message signature signed
  cases signed
  simp [verifyEd25519, referenceSignatures]

theorem referenceCodecs : Codecs referencePackages referencePayloads where
  package := packageFormat.lawful_binding ⟨packageIdentifier, rfl⟩ _ packageFormat_sized
  payload := payloadFormat.interoperates_self _ _ payloadFormat_sized
  bounded := payloadFormat.bounded_binding _ _ payloadFormat_sized
  storesPayload := by
    apply packageFormat.stores_binding
    intro table content here
    change Slot.bytes content ∈ [_, _, slotBytes table.payload, _]
    rw [here]
    exact List.mem_cons_of_mem _ (List.mem_cons_of_mem _ List.mem_cons_self)
  storesMachine := by
    apply payloadFormat.stores_binding
    intro table content here
    apply List.mem_append_right
    cases policy : table.machinePolicy with
    | none =>
        rw [LicensePayload.boundMachine, policy] at here
        cases here
    | some bound =>
        rw [LicensePayload.boundMachine, policy] at here
        change bound.machineId = some content at here
        rw [policySlots, here]
        exact List.mem_cons_of_mem _ (List.mem_cons_of_mem _ List.mem_cons_self)

/-- The definition of the test `ProducesExactMachineSubscription`, with the
features of `ProducesVerifiablePermanentLicense`. -/
def testDefinition : LicenseDefinition where
  keyId := ofAscii "issuer-1"
  licenseId := ofAscii "license-1"
  productId := ofAscii "product-1"
  customerId := ofAscii "customer-1"
  issueTime := 1000
  notBefore := 1000
  expireTime := 3000
  features := [ofAscii "capture", ofAscii "export"]
  maxSessions := 1
  machineId := ofAscii "machine-1"

def testPackage : Bytes :=
  referencePackages.build (createLicensePackage 1 testDefinition.keyId
    (referencePayloads.build testDefinition.payload) (referenceSign (.zeros kKeySize) []).val)

theorem issueLicense_testDefinition :
    issueLicense referencePackages referencePayloads referenceSignatures testDefinition
      (.zeros kKeySize) = .ok testPackage := by
  have accepted : valid testDefinition = true := by decide
  unfold issueLicense
  rw [accepted]
  rfl

theorem testPackage_small : testPackage.length ≤ kMaxLicenseSize := by
  decide +kernel

def testValidator : LicenseValidator where
  trustedKeys id := if id = testDefinition.keyId then some (.zeros kKeySize) else none

theorem testValidator_trusts :
    testValidator.trustedKeys testDefinition.keyId = some (.zeros kKeySize) := by
  simp [testValidator]

/-- The machine of the definition gets both features, and another one nothing. -/
theorem issuerRoundTrip_subscription :
    (∃ snapshot, testValidator.validate referencePackages referencePayloads referenceSignatures
        testPackage testDefinition.productId testDefinition.machineId 2000 = .ok snapshot ∧
      snapshot.features = [ofAscii "capture", ofAscii "export"] ∧
      snapshot.type ≠ .permanent ∧ snapshot.machineMode = .exact) ∧
    ¬ ∃ snapshot, testValidator.validate referencePackages referencePayloads referenceSignatures
      testPackage testDefinition.productId (ofAscii "machine-2") 2000 = .ok snapshot := by
  have roundTrip := issuerRoundTrip referenceCodecs (referenceSignatures_match (.zeros kKeySize))
    testDefinition testPackage issueLicense_testDefinition testPackage_small testValidator
    testValidator_trusts testDefinition.productId
  obtain ⟨accepts, content⟩ := roundTrip testDefinition.machineId 2000
  obtain ⟨snapshot, accepted⟩ := accepts.mpr ⟨rfl, by decide, .inr (by decide), .inr rfl⟩
  obtain ⟨-, -, -, -, -, -, features, -, -, permanent, bound⟩ := content snapshot accepted
  refine ⟨⟨snapshot, accepted, features, ?_, bound.mpr (by decide)⟩, ?_⟩
  · intro type
    exact absurd (permanent.mp type) (by decide)
  · intro other
    obtain ⟨-, -, -, machine⟩ := (roundTrip (ofAscii "machine-2") 2000).1.mp other
    exact absurd machine (by decide)

end YoAuthorize.Tools
