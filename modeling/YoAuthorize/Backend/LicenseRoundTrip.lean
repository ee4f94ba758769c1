import YoAuthorize.Backend.LicenseFormat
import YoAuthorize.Core.LicenseReference
import YoAuthorize.Core.LicenseValidator

/-!
# Licenses across the two languages

What the backend issues, the C++ core validates.  `Interoperable` is the
assumption on the two FlatBuffers and Ed25519 libraries; under it the package
of a definition verifies in the backend, and the core accepts it exactly when
the product, the time and the machine are those of the definition, with the
fields of the definition.
-/

namespace YoAuthorize.Backend

open Octets Crypto FlatBuffer License YoAuthorize.Core

/-! ## Definitions that the backend accepts -/

/-- A string that is neither empty nor too long. -/
structure Fits (text : String) : Prop where
  nonempty : text ≠ ""
  short : (utf8 text).length ≤ maxStringBytes

theorem fits_of_badLength {text : String} (good : ¬ badLength text = true) : Fits text := by
  unfold badLength at good
  rw [decide_eq_true_iff, not_or, Nat.not_lt] at good
  exact ⟨good.1, good.2⟩

/-- What `validate` checks. -/
structure LicenseDefinition.Valid (definition : LicenseDefinition) : Prop where
  licenseId : Fits definition.licenseId
  productId : Fits definition.productId
  customerId : Fits definition.customerId
  featureCount : definition.features.length ≤ maxFeatures
  features : ∀ feature ∈ definition.features, Fits feature
  maxSessions : definition.maxSessions ≠ 0
  permanent : definition.licenseType = .permanent → definition.expireTime = 0
  expiring : definition.licenseType ≠ .permanent → definition.notBefore < definition.expireTime
  machineId : ∀ machine, definition.machineId = some machine → Fits machine

theorem valid_of_validate {definition : LicenseDefinition}
    (accepted : validate definition = .ok ()) : definition.Valid := by
  unfold validate at accepted
  split at accepted
  · cases accepted
  rename_i identifiers
  split at accepted
  · cases accepted
  rename_i features
  split at accepted
  · cases accepted
  rename_i maxSessions
  split at accepted
  · cases accepted
  rename_i permanent
  split at accepted
  · cases accepted
  rename_i expiring
  split at accepted
  · cases accepted
  rename_i machineId
  simp only [List.any_cons, List.any_nil, Bool.or_false, Bool.or_eq_true, not_or] at identifiers
  simp only [List.any_eq_true, decide_eq_true_iff, not_or, not_exists, not_and] at features
  exact
    { licenseId := fits_of_badLength identifiers.1
      productId := fits_of_badLength identifiers.2.1
      customerId := fits_of_badLength identifiers.2.2
      featureCount := Nat.not_lt.mp features.1
      features := fun feature mem => fits_of_badLength (features.2 feature mem).1
      maxSessions := maxSessions
      permanent := fun type => not_not.mp fun expires => permanent ⟨type, expires⟩
      expiring := fun type => UInt64.not_le.mp fun early => expiring ⟨type, early⟩
      machineId := by
        intro machine here
        rw [here] at machineId
        exact fits_of_badLength machineId }

/-! ## Sizes -/

def payloadSize (table : LicensePayload String) : Nat := (table.map utf8).contentSize

def packageSize (table : LicensePackage String) : Nat := (table.map utf8).contentSize

theorem payloadSize_le {definition : LicenseDefinition} (valid : definition.Valid) :
    payloadSize definition.payload ≤ 300000 := by
  have slot : ∀ {text : String}, Fits text → optionSize (some (utf8 text)) ≤ 1040 := by
    intro text fits
    exact Nat.add_le_add_right fits.short 16
  have licenseId := slot valid.licenseId
  have productId := slot valid.productId
  have customerId := slot valid.customerId
  have features : stringsSize (some (definition.features.map utf8)) ≤
      vectorSize (maxFeatures * vectorSize maxStringBytes) := by
    apply stringsSize_le_of_bounds
    · rw [List.length_map]
      exact valid.featureCount
    · intro text mem
      rcases List.mem_map.mp mem with ⟨feature, here, rfl⟩
      exact (valid.features feature here).short
  have limit : vectorSize (maxFeatures * vectorSize maxStringBytes) = 266256 := rfl
  have machineId : optionSize (definition.machineId.map utf8) ≤ 1040 := by
    cases here : definition.machineId with
    | none => exact Nat.zero_le _
    | some machine => exact slot (valid.machineId machine here)
  change optionSize (some (utf8 definition.licenseId)) +
    optionSize (some (utf8 definition.productId)) +
    optionSize (some (utf8 definition.customerId)) +
    stringsSize (some (definition.features.map utf8)) +
    optionSize (definition.machineId.map utf8) ≤ 300000
  omega

theorem packageSize_le {keyId : String} {payload : Bytes} (signature : Signature)
    (keyIdSize : (utf8 keyId).length ≤ uint16Max) :
    packageSize (createLicensePackage formatVersion keyId payload signature.val) ≤
      payload.length + 70000 := by
  have signatureSize : signature.val.length = 64 := signature.2
  change (utf8 keyId).length + 16 + (payload.length + 16) + (signature.val.length + 16) ≤ _
  unfold uint16Max at keyIdSize
  omega

/-! ## Packages that the backend issues -/

/-- The two bindings of each table and the two signature libraries. -/
structure Libraries : Type where
  dalek : Dalek
  ssl : OpenSsl
  rustPackages : Binding (LicensePackage String)
  rustPayloads : Binding (LicensePayload String)
  packages : Binding (LicensePackage Bytes)
  payloads : Binding (LicensePayload Bytes)

/-- FlatBuffers and Ed25519 interoperate between the two languages. -/
structure Libraries.Interoperable (libraries : Libraries) : Prop where
  packages : libraries.packages.Interoperates libraries.rustPackages (LicensePackage.map utf8)
    packageSize
  payloads : libraries.payloads.Interoperates libraries.rustPayloads (LicensePayload.map utf8)
    payloadSize
  rustPackages : libraries.rustPackages.Interoperates libraries.rustPackages id packageSize
  rustPayloads : libraries.rustPayloads.Interoperates libraries.rustPayloads id payloadSize
  boundedPackages : libraries.rustPackages.Bounded packageSize
  boundedPayloads : libraries.rustPayloads.Bounded payloadSize
  identified : libraries.rustPackages.Identified packageIdentifier packageSize
  dalekVerifies : ∀ key message, libraries.dalek.verify (libraries.dalek.verifyingKey key) message
    (libraries.dalek.sign key message) = true
  sslVerifies : ∀ key message, libraries.ssl.digestVerifyEd25519
    (libraries.dalek.verifyingKey key) message (libraries.dalek.sign key message) = .ok ()

/-- What `generate` made a package of. -/
structure Issued (libraries : Libraries) (definition : LicenseDefinition) (keyId : String)
    (key : Key) (package : Bytes) : Prop where
  valid : definition.Valid
  keyIdFits : keyId ≠ "" ∧ (utf8 keyId).length ≤ uint16Max
  payloadFits : (libraries.rustPayloads.build definition.payload).length ≤ uint32Max
  built : package = libraries.rustPackages.build (createLicensePackage formatVersion keyId
    (libraries.rustPayloads.build definition.payload)
    (libraries.dalek.sign key (signatureInput 1 (utf8 keyId)
      (libraries.rustPayloads.build definition.payload))).val)
  size : package.length ≤ maxPackageSize

/-- The bytes signed by the backend are those that the core verifies. -/
theorem signingMessage_eq_ok_iff {keyId : String} {payload message : Bytes} :
    signingMessage keyId payload = .ok message ↔
      keyId ≠ "" ∧ (utf8 keyId).length ≤ uint16Max ∧ payload.length ≤ uint32Max ∧
        message = signatureInput 1 (utf8 keyId) payload := by
  unfold signingMessage
  split
  · rename_i refused
    refine ⟨nofun, ?_⟩
    rintro ⟨nonempty, keySize, payloadSize, -⟩
    rcases refused with empty | long | long
    · exact absurd empty nonempty
    · exact absurd keySize (Nat.not_le.mpr long)
    · exact absurd payloadSize (Nat.not_le.mpr long)
  · rename_i accepted
    rw [not_or, not_or, Nat.not_lt, Nat.not_lt] at accepted
    constructor
    · intro signed
      cases signed
      exact ⟨accepted.1, accepted.2.1, accepted.2.2, rfl⟩
    · rintro ⟨-, -, -, rfl⟩
      rfl

theorem issued_of_generate {libraries : Libraries} {definition : LicenseDefinition}
    {keyId : String} {key : Key} {package : Bytes}
    (generated : generate libraries.dalek libraries.rustPackages libraries.rustPayloads definition
      keyId key = .ok package) :
    Issued libraries definition keyId key package := by
  unfold generate payloadBytes at generated
  cases accepted : validate definition with
  | error error =>
      rw [accepted] at generated
      cases generated
  | ok _ =>
      rw [accepted] at generated
      dsimp only at generated
      split at generated
      · cases generated
      rename_i message signed
      rcases signingMessage_eq_ok_iff.mp signed with ⟨nonempty, keySize, payloadSize, rfl⟩
      split at generated
      · cases generated
      rename_i small
      cases generated
      exact ⟨valid_of_validate accepted, ⟨nonempty, keySize⟩, payloadSize, rfl,
        Nat.not_lt.mp small⟩

theorem payload_fits {definition : LicenseDefinition} (valid : definition.Valid) :
    tableSize + payloadSize definition.payload ≤ maxBufferSize :=
  Nat.le_trans (Nat.add_le_add_left (payloadSize_le valid) tableSize) (by decide)

section

variable {libraries : Libraries} (interoperable : libraries.Interoperable)
  {definition : LicenseDefinition} {keyId : String} {key : Key} {package : Bytes}

include interoperable

theorem payload_bounds (valid : definition.Valid) :
    8 ≤ (libraries.rustPayloads.build definition.payload).length ∧
      (libraries.rustPayloads.build definition.payload).length ≤ 400000 := by
  have fits := payload_fits valid
  refine ⟨interoperable.boundedPayloads.eight_le_build _ fits, ?_⟩
  have bounded := interoperable.boundedPayloads.build_le _ fits
  have size := payloadSize_le valid
  have table : tableSize = 256 := rfl
  omega

theorem package_fits (valid : definition.Valid) (signature : Signature)
    (keyIdSize : (utf8 keyId).length ≤ uint16Max) :
    tableSize + packageSize (createLicensePackage formatVersion keyId
      (libraries.rustPayloads.build definition.payload) signature.val) ≤ maxBufferSize := by
  have payload := payload_bounds interoperable valid
  have size : packageSize (createLicensePackage formatVersion keyId
      (libraries.rustPayloads.build definition.payload) signature.val) ≤ _ :=
    packageSize_le signature keyIdSize
  have table : tableSize = 256 := rfl
  have limit : maxBufferSize = 2147483647 := rfl
  omega

/-- Every definition within the limits is small enough to be issued. -/
theorem generate_of_validate (accepted : validate definition = .ok ())
    (keyIdFits : keyId ≠ "" ∧ (utf8 keyId).length ≤ uint16Max) (key : Key) :
    ∃ package, generate libraries.dalek libraries.rustPackages libraries.rustPayloads definition
      keyId key = .ok package := by
  have valid := valid_of_validate accepted
  let payload := libraries.rustPayloads.build definition.payload
  have payloadSize : payload.length ≤ 400000 := (payload_bounds interoperable valid).2
  have payloadFits : payload.length ≤ uint32Max := Nat.le_trans payloadSize (by decide)
  have signed := signingMessage_eq_ok_iff.mpr ⟨keyIdFits.1, keyIdFits.2, payloadFits, rfl⟩
  let signature := libraries.dalek.sign key (signatureInput 1 (utf8 keyId) payload)
  let table := createLicensePackage formatVersion keyId payload signature.val
  have small : ¬ (libraries.rustPackages.build table).length > maxPackageSize := by
    have built := interoperable.boundedPackages.build_le table
      (package_fits interoperable valid signature keyIdFits.2)
    have size : packageSize table ≤ payload.length + 70000 :=
      packageSize_le signature keyIdFits.2
    have head : tableSize = 256 := rfl
    have limit : maxPackageSize = 1048576 := rfl
    omega
  refine ⟨libraries.rustPackages.build table, ?_⟩
  unfold generate payloadBytes
  rw [accepted]
  dsimp only
  rw [signed]
  exact if_neg small

/-! ## The backend reads its own package -/

theorem verify_issued (issued : Issued libraries definition keyId key package) :
    verify libraries.dalek libraries.rustPackages libraries.rustPayloads package keyId
      (libraries.dalek.verifyingKey key) = .ok () := by
  rcases issued with ⟨valid, ⟨nonempty, keyIdSize⟩, payloadFits, rfl, small⟩
  let payload := libraries.rustPayloads.build definition.payload
  let message := signatureInput 1 (utf8 keyId) payload
  let table := createLicensePackage formatVersion keyId payload
    (libraries.dalek.sign key message).val
  have fits : tableSize + packageSize table ≤ maxBufferSize :=
    package_fits interoperable valid (libraries.dalek.sign key message) keyIdSize
  have identifier : hasIdentifier packageIdentifier (libraries.rustPackages.build table) = true :=
    decide_eq_true (interoperable.identified table fits)
  have signed : signingMessage keyId payload = .ok message :=
    signingMessage_eq_ok_iff.mpr ⟨nonempty, keyIdSize, payloadFits, rfl⟩
  unfold verify
  rw [identifier, if_neg (by simpa using small), interoperable.rustPackages.verify_build table fits,
    interoperable.rustPackages.root_build table fits]
  change verifyPackage libraries.dalek libraries.rustPayloads table keyId
    (libraries.dalek.verifyingKey key) = .ok ()
  unfold verifyPackage
  rw [if_neg (by rw [not_or, not_not, not_not]; exact ⟨rfl, rfl⟩)]
  have accepts : libraries.dalek.verify (libraries.dalek.verifyingKey key) message
      ⟨(libraries.dalek.sign key message).val, (libraries.dalek.sign key message).2⟩ = true :=
    interoperable.dalekVerifies key message
  have readable : libraries.rustPayloads.verify payload = true :=
    interoperable.rustPayloads.verify_build definition.payload (payload_fits valid)
  simp only [table, createLicensePackage]
  rw [dif_pos (libraries.dalek.sign key message).2, signed]
  simp only [accepts, readable]
  rfl

/-! ## The core reads the package -/

theorem readPackage_issued (issued : Issued libraries definition keyId key package) :
    readPackage libraries.packages package = .ok
      { formatVersion := 1
        keyId := utf8 keyId
        payload := libraries.rustPayloads.build definition.payload
        signature := libraries.dalek.sign key (signatureInput 1 (utf8 keyId)
          (libraries.rustPayloads.build definition.payload)) } := by
  rcases issued with ⟨valid, ⟨nonempty, keyIdSize⟩, payloadFits, rfl, small⟩
  let payload := libraries.rustPayloads.build definition.payload
  let signature := libraries.dalek.sign key (signatureInput 1 (utf8 keyId) payload)
  let table := createLicensePackage formatVersion keyId payload signature.val
  have fits : tableSize + packageSize table ≤ maxBufferSize :=
    package_fits interoperable valid signature keyIdSize
  have payloadPresent : payload ≠ [] := by
    intro empty
    have bounds := (payload_bounds interoperable valid).1
    change 8 ≤ payload.length at bounds
    rw [empty] at bounds
    cases bounds
  exact readPackage_create (interoperable.boundedPackages.eight_le_build table fits) small
    (interoperable.identified table fits) (interoperable.packages.verify_build table fits)
    (interoperable.packages.root_build table fits)
    (fun empty => nonempty (utf8_inj.mp empty)) keyIdSize payloadPresent

end

/-- When the core accepts the package of a definition. -/
structure LicenseDefinition.Usable (definition : LicenseDefinition) (product machineId : Bytes)
    (now : UInt64) : Prop where
  product : product = utf8 definition.productId
  started : definition.notBefore ≤ now
  unexpired : definition.licenseType = .permanent ∨ now < definition.expireTime
  machine : ∀ machine, definition.machineId = some machine → machineId = utf8 machine

theorem usable_iff {definition : LicenseDefinition} {product machineId : Bytes} {now : UInt64} :
    definition.Usable product machineId now ↔
      product = utf8 definition.productId ∧ definition.notBefore ≤ now ∧
        (definition.licenseType = .permanent ∨ now < definition.expireTime) ∧
        (definition.machineId = none ∨ ∃ machine, definition.machineId = some machine ∧
          machineId = utf8 machine) := by
  constructor
  · rintro ⟨product, started, unexpired, machine⟩
    refine ⟨product, started, unexpired, ?_⟩
    cases here : definition.machineId with
    | none => exact .inl rfl
    | some bound => exact .inr ⟨bound, rfl, machine bound here⟩
  · rintro ⟨product, started, unexpired, unbound | ⟨bound, here, same⟩⟩
    · refine ⟨product, started, unexpired, ?_⟩
      intro machine here
      rw [unbound] at here
      cases here
    · refine ⟨product, started, unexpired, ?_⟩
      intro machine other
      rw [here] at other
      cases other
      exact same

def LicenseKind.type : LicenseKind → LicenseType
  | .trial => .trial
  | .subscription => .subscription
  | .permanent => .permanent

/-- The fields of a definition as the core keeps them. -/
def LicenseDefinition.snapshot (definition : LicenseDefinition) : LicenseSnapshot where
  licenseId := utf8 definition.licenseId
  productId := utf8 definition.productId
  customerId := utf8 definition.customerId
  issueTime := definition.issueTime
  notBefore := definition.notBefore
  expireTime := definition.expireTime
  type := definition.licenseType.type
  features := definition.features.map utf8
  maxSessions := definition.maxSessions
  machineMode := if definition.machineId.isSome then .exact else .unbound
  machineId := (definition.machineId.map utf8).getD []

theorem utf8_ne_nil {text : String} (fits : Fits text) : utf8 text ≠ [] :=
  fun empty => fits.nonempty (utf8_inj.mp empty)

theorem checkMachine_eq_ok_iff {definition : LicenseDefinition} (valid : definition.Valid)
    {machineId : Bytes} :
    checkMachine ((createMachinePolicy (if definition.machineId.isSome then modeExact
      else modeUnbound) definition.machineId).map utf8) machineId = .ok () ↔
      ∀ machine, definition.machineId = some machine → machineId = utf8 machine := by
  cases here : definition.machineId with
  | none => exact ⟨nofun, fun _ => rfl⟩
  | some machine =>
      have fits : nonempty (some (utf8 machine)) = some (utf8 machine) :=
        nonempty_eq_some_iff.mpr ⟨rfl, utf8_ne_nil (valid.machineId machine here)⟩
      rw [Option.isSome_some, if_pos rfl, checkMachine_exact rfl]
      change (if nonempty (some (utf8 machine)) ≠ some machineId then _ else _) = _ ↔ _
      rw [fits]
      constructor
      · intro accepted other same
        cases same
        split at accepted
        · cases accepted
        · rename_i equal
          exact (Option.some.inj (not_not.mp equal)).symm
      · intro same
        rw [same machine rfl, if_neg (not_not.mpr rfl)]

theorem wire_eq_permanent (kind : LicenseKind) : kind.wire = typePermanent ↔ kind = .permanent := by
  cases kind <;> decide

theorem convertType_wire (kind : LicenseKind) : convertType kind.wire = kind.type := by
  cases kind <;> rfl

/-- The machine policy of a definition, as the core reads it. -/
def LicenseDefinition.policy (definition : LicenseDefinition) : MachinePolicy Bytes :=
  (createMachinePolicy (if definition.machineId.isSome then modeExact else modeUnbound)
    definition.machineId).map utf8

section

variable (definition : LicenseDefinition)

theorem issueTime_payload :
    (definition.payload.map utf8).issueTime = definition.issueTime := getField_addElement _ _

theorem notBefore_payload :
    (definition.payload.map utf8).notBefore = definition.notBefore := getField_addElement _ _

theorem expireTime_payload :
    (definition.payload.map utf8).expireTime = definition.expireTime := getField_addElement _ _

theorem licenseType_payload :
    (definition.payload.map utf8).licenseType = definition.licenseType.wire :=
  getField_addElement _ _

theorem maxSessions_payload :
    (definition.payload.map utf8).maxSessions = definition.maxSessions := getField_addElement _ _

theorem snapshotOf_payload :
    snapshotOf (definition.payload.map utf8) definition.policy = definition.snapshot := by
  have machineMode : (if definition.policy.mode = modeExact then MachineMode.exact
      else MachineMode.unbound) =
        if definition.machineId.isSome then MachineMode.exact else MachineMode.unbound := by
    unfold LicenseDefinition.policy
    cases definition.machineId <;> rfl
  unfold snapshotOf LicenseDefinition.snapshot
  rw [issueTime_payload, notBefore_payload, expireTime_payload, licenseType_payload,
    maxSessions_payload, machineMode, convertType_wire]
  rfl

end

/-- Of the checks on the payload of a valid definition, the product and the
machine remain. -/
theorem acceptable_payload_iff {definition : LicenseDefinition} (valid : definition.Valid)
    {policy : MachinePolicy Bytes} {product machineId : Bytes} :
    Acceptable (definition.payload.map utf8) policy product machineId ↔
      policy = definition.policy ∧ product = utf8 definition.productId ∧
        ∀ machine, definition.machineId = some machine → machineId = utf8 machine := by
  constructor
  · intro acceptable
    have bound : some definition.policy = some policy := acceptable.bound
    have product : some (utf8 definition.productId) = some product := acceptable.product.1
    cases bound
    exact ⟨rfl, (Option.some.inj product).symm,
      (checkMachine_eq_ok_iff valid).mp acceptable.machine⟩
  · rintro ⟨rfl, rfl, machine⟩
    refine ⟨⟨_, rfl, utf8_ne_nil valid.licenseId⟩, ⟨rfl, utf8_ne_nil valid.productId⟩, rfl, ?_, ?_,
      ?_, ?_, (checkMachine_eq_ok_iff valid).mpr machine, ?_⟩
    · rw [maxSessions_payload]
      exact valid.maxSessions
    · rw [licenseType_payload]
      cases definition.licenseType <;> decide
    · rw [licenseType_payload, expireTime_payload, wire_eq_permanent]
      exact valid.permanent
    · rw [licenseType_payload, notBefore_payload, expireTime_payload, ne_eq, wire_eq_permanent]
      exact valid.expiring
    · intro mem
      rcases List.mem_map.mp mem with ⟨feature, here, empty⟩
      exact utf8_ne_nil (valid.features feature here) empty

theorem readPayload_eq_ok_iff {definition : LicenseDefinition} (valid : definition.Valid)
    {product machineId : Bytes} {now : UInt64} {snapshot : LicenseSnapshot} :
    readPayload (definition.payload.map utf8) product machineId now = .ok snapshot ↔
      definition.Usable product machineId now ∧ snapshot = definition.snapshot := by
  rw [Core.readPayload_eq_ok_iff]
  constructor
  · rintro ⟨policy, acceptable, started, unexpired, rfl⟩
    obtain ⟨rfl, product, machine⟩ := (acceptable_payload_iff valid).mp acceptable
    rw [notBefore_payload] at started
    rw [licenseType_payload, expireTime_payload, wire_eq_permanent] at unexpired
    exact ⟨⟨product, started, unexpired, machine⟩, snapshotOf_payload definition⟩
  · rintro ⟨usable, rfl⟩
    refine ⟨definition.policy, ?_, ?_, ?_, (snapshotOf_payload definition).symm⟩
    · exact (acceptable_payload_iff valid).mpr ⟨rfl, usable.product, usable.machine⟩
    · rw [notBefore_payload]
      exact usable.started
    · rw [licenseType_payload, expireTime_payload, wire_eq_permanent]
      exact usable.unexpired

theorem validate_issued {libraries : Libraries} (interoperable : libraries.Interoperable)
    {definition : LicenseDefinition} {keyId : String} {key : Key} {package : Bytes}
    (issued : Issued libraries definition keyId key package) {validator : LicenseValidator}
    (trusted : validator.trustedKeys (utf8 keyId) = some (libraries.dalek.verifyingKey key))
    {product machineId : Bytes} {now : UInt64} {snapshot : LicenseSnapshot} :
    validator.validate libraries.packages libraries.payloads libraries.ssl package product
        machineId now = .ok snapshot ↔
      definition.Usable product machineId now ∧ snapshot = definition.snapshot := by
  have fits := payload_fits issued.valid
  rw [LicenseValidator.validate_of_readPackage (readPackage_issued interoperable issued) trusted
    (interoperable.sslVerifies key _) (interoperable.payloads.verify_build _ fits),
    interoperable.payloads.root_build _ fits]
  exact readPayload_eq_ok_iff issued.valid

/-- The package of every definition that the backend issues verifies there and
is accepted by the core exactly for its product, time and machine, as that
definition. -/
theorem licenseRoundTrip {libraries : Libraries} (interoperable : libraries.Interoperable)
    (definition : LicenseDefinition) (keyId : String) (key : Key) (package : Bytes)
    (generated : generate libraries.dalek libraries.rustPackages libraries.rustPayloads definition
      keyId key = .ok package) :
    verify libraries.dalek libraries.rustPackages libraries.rustPayloads package keyId
        (libraries.dalek.verifyingKey key) = .ok () ∧
      ∀ (product machineId : Bytes) (now : UInt64),
        let validator : LicenseValidator :=
          { trustedKeys := fun id =>
              if id = utf8 keyId then some (libraries.dalek.verifyingKey key) else none }
        let result := validator.validate libraries.packages libraries.payloads libraries.ssl
          package product machineId now
        ((∃ snapshot, result = .ok snapshot) ↔
          product = utf8 definition.productId ∧ definition.notBefore ≤ now ∧
            (definition.licenseType = .permanent ∨ now < definition.expireTime) ∧
            (definition.machineId = none ∨ ∃ machine, definition.machineId = some machine ∧
              machineId = utf8 machine)) ∧
        ∀ snapshot, result = .ok snapshot → snapshot = definition.snapshot := by
  have issued := issued_of_generate generated
  refine ⟨verify_issued interoperable issued, ?_⟩
  intro product machineId now validator result
  have trusted : validator.trustedKeys (utf8 keyId) = some (libraries.dalek.verifyingKey key) :=
    if_pos rfl
  have accepts : ∀ snapshot, result = .ok snapshot ↔
      definition.Usable product machineId now ∧ snapshot = definition.snapshot :=
    fun snapshot => validate_issued interoperable issued trusted
  refine ⟨?_, fun snapshot accepted => ((accepts snapshot).mp accepted).2⟩
  rw [← usable_iff]
  constructor
  · rintro ⟨snapshot, accepted⟩
    exact ((accepts snapshot).mp accepted).1
  · intro usable
    exact ⟨definition.snapshot, (accepts _).mpr ⟨usable, rfl⟩⟩

/-! ## A definition that is issued and accepted -/

def referenceSign (_ : Key) (_ : Bytes) : Signature := .zeros kSignatureSize

def referenceDalek : Dalek where
  verifyingKey key := key
  sign := referenceSign
  verify key message signature := signature = referenceSign key message

/-- A library that verifies and does nothing else. -/
def referenceVerifier : OpenSsl where
  randPrivBytes _ := none
  digestSha256 _ := none
  digestSignEd25519 _ _ := none
  digestVerifyEd25519 key message signature :=
    if signature = referenceSign key message then .ok () else .error .invalidSignature
  keygenX25519 := none
  pkeyDeriveX25519 _ _ := .error .derivationFailed
  kdfDeriveHkdf _ _ _ _ := none
  encryptChaCha20Poly1305 _ _ _ _ := none
  decryptChaCha20Poly1305 _ _ _ _ _ := none

def referenceLibraries : Libraries where
  dalek := referenceDalek
  ssl := referenceVerifier
  rustPackages := referenceTextPackages
  rustPayloads := referenceTextPayloads
  packages := referencePackages
  payloads := referencePayloads

theorem referenceLibraries_interoperable : referenceLibraries.Interoperable where
  packages := packageFormat.interoperates_comap _ _ _ _ _ _ packageFormat_sized
  payloads := payloadFormat.interoperates_comap _ _ _ _ _ _ payloadFormat_sized
  rustPackages := textPackageFormat.interoperates_self _ _ fun _ => packageFormat_sized _
  rustPayloads := textPayloadFormat.interoperates_self _ _ fun _ => payloadFormat_sized _
  boundedPackages := textPackageFormat.bounded_binding _ _ fun _ => packageFormat_sized _
  boundedPayloads := textPayloadFormat.bounded_binding _ _ fun _ => payloadFormat_sized _
  identified := (textPackageFormat.lawful_binding ⟨packageIdentifier, rfl⟩ _
    fun _ => packageFormat_sized _).identifier_build
  dalekVerifies _ _ := by simp [referenceLibraries, referenceDalek]
  sslVerifies _ _ := by simp [referenceLibraries, referenceDalek, referenceVerifier]

def referenceDefinition : LicenseDefinition where
  licenseId := "license-1"
  productId := "product-qt"
  customerId := "user-1"
  issueTime := 10
  notBefore := 10
  expireTime := 20
  licenseType := .subscription
  features := ["capture", "export"]
  maxSessions := 2
  machineId := some "opaque-machine"

theorem validate_referenceDefinition : validate referenceDefinition = .ok () := by
  rfl

theorem licenseRoundTrip_subscription :
    let validator : LicenseValidator :=
      { trustedKeys := fun id => if id = utf8 "key-1" then some (.zeros kKeySize) else none }
    ∃ package, generate referenceLibraries.dalek referenceLibraries.rustPackages
        referenceLibraries.rustPayloads referenceDefinition "key-1" (.zeros kKeySize) =
          .ok package ∧
      validator.validate referenceLibraries.packages referenceLibraries.payloads
        referenceLibraries.ssl package (utf8 "product-qt") (utf8 "opaque-machine") 19 =
          .ok referenceDefinition.snapshot := by
  intro validator
  have keyIdFits : "key-1" ≠ "" ∧ (utf8 "key-1").length ≤ uint16Max := by decide
  rcases generate_of_validate referenceLibraries_interoperable validate_referenceDefinition
    keyIdFits (.zeros kKeySize) with ⟨package, generated⟩
  refine ⟨package, generated, ?_⟩
  rcases (licenseRoundTrip referenceLibraries_interoperable referenceDefinition "key-1"
    (.zeros kKeySize) package generated).2 (utf8 "product-qt") (utf8 "opaque-machine") 19 with
    ⟨usable, fields⟩
  rcases usable.mpr ⟨rfl, by decide, .inr (by decide), .inr ⟨_, rfl, rfl⟩⟩ with ⟨snapshot, accepted⟩
  rw [fields snapshot accepted] at accepted
  exact accepted

end YoAuthorize.Backend
