import YoAuthorize.Service.Connection
import YoAuthorize.Tools.IssuerRoundTrip

/-!
# Expiry after start-up

The service validates its license once, when it starts, and from then on only
compares the clock with `expire_time`, where zero stands for a license that
never expires.  `validate` instead asks for the license type.  The two agree at
every later time: a payload with an expiry is refused when the type is
permanent, and one of another type is refused when its expiry is not after
`not_before`, so also when it is zero.
-/

namespace YoAuthorize.Service

open Octets Crypto FlatBuffer License YoAuthorize.Core

theorem licenseExpired_eq_false_iff (license : LicenseSnapshot) (now : UInt64) :
    licenseExpired license now = false ↔ license.expireTime = 0 ∨ now < license.expireTime := by
  unfold licenseExpired
  rw [decide_eq_false_iff_not, not_and_or, not_not]
  exact or_congr Iff.rfl UInt64.not_le

/-! ## Permanent licenses -/

theorem convertType_eq_permanent_iff (type : Int8) :
    convertType type = .permanent ↔ type = typePermanent := by
  unfold convertType
  split
  · rename_i subscription
    rw [subscription]
    decide
  · split
    · rename_i permanent
      exact ⟨fun _ => permanent, fun _ => rfl⟩
    · rename_i other
      exact ⟨nofun, fun permanent => absurd permanent other⟩

section

variable {data : LicensePayload Bytes} {policy : MachinePolicy Bytes}
  {expectedProduct machineId : Bytes}

/-- The two encodings of permanence. -/
theorem expireTime_eq_zero_iff (acceptable : Acceptable data policy expectedProduct machineId) :
    data.expireTime = 0 ↔ data.licenseType = typePermanent := by
  refine ⟨?_, acceptable.permanent⟩
  intro zero
  by_contra type
  have after := acceptable.expiring type
  rw [zero] at after
  exact UInt64.not_lt_zero after

/-- Once started, an acceptable payload is read until the service's own test fails. -/
theorem readPayload_started (acceptable : Acceptable data policy expectedProduct machineId)
    {now : UInt64} (started : data.notBefore ≤ now) :
    readPayload data expectedProduct machineId now =
      if licenseExpired (snapshotOf data policy) now then .error .expired
      else .ok (snapshotOf data policy) := by
  have same : (data.licenseType ≠ typePermanent ∧ now ≥ data.expireTime) ↔
      licenseExpired (snapshotOf data policy) now = true := by
    unfold licenseExpired
    rw [decide_eq_true_eq, ne_eq, ← expireTime_eq_zero_iff acceptable]
    rfl
  rw [acceptable.readPayload, if_neg (UInt64.not_lt.mpr started), if_congr same rfl rfl]

end

/-- A license that validated at start-up still validates exactly as long as the
checks of `handleAuthorize` and `handleActive` let it pass, and it validates
from `not_before` on and at no time before. -/
theorem licenseExpiry_agrees {packages : Binding (LicensePackage Bytes)}
    {payloads : Binding (LicensePayload Bytes)} {ssl : OpenSsl} {validator : LicenseValidator}
    {package product machineId : Bytes} {start later : UInt64} {license : LicenseSnapshot}
    (ordered : start ≤ later)
    (validated : validator.validate packages payloads ssl package product machineId start =
      .ok license) :
    let validate := validator.validate packages payloads ssl package product machineId
    (license.expireTime = 0 ↔ license.type = .permanent) ∧
    (licenseExpired license later = false ↔
      license.expireTime = 0 ∨ later < license.expireTime) ∧
    (validate later = .ok license ↔ licenseExpired license later = false) ∧
    (licenseExpired license later = true → validate later = .error .expired) ∧
    ∀ now, (∃ snapshot, validate now = .ok snapshot) ↔
      license.notBefore ≤ now ∧ (license.expireTime = 0 ∨ now < license.expireTime) := by
  intro validate
  obtain ⟨data, same⟩ := validator.readPayload_of_validate validated
  rw [same] at validated
  obtain ⟨policy, acceptable, started, -, rfl⟩ := readPayload_eq_ok_iff.mp validated
  have permanent := expireTime_eq_zero_iff acceptable
  have read := readPayload_started acceptable (UInt64.le_trans started ordered)
  refine ⟨?_, licenseExpired_eq_false_iff _ later, ?_, ?_, ?_⟩
  · change data.expireTime = 0 ↔ convertType data.licenseType = .permanent
    rw [convertType_eq_permanent_iff]
    exact permanent
  · change validator.validate packages payloads ssl package product machineId later = _ ↔ _
    rw [same, read]
    cases licenseExpired (snapshotOf data policy) later with
    | false => exact ⟨fun _ => rfl, fun _ => rfl⟩
    | true => exact ⟨nofun, nofun⟩
  · intro expired
    change validator.validate packages payloads ssl package product machineId later = _
    rw [same, read, expired]
    rfl
  · intro now
    change (∃ snapshot, validator.validate packages payloads ssl package product machineId now =
      .ok snapshot) ↔ data.notBefore ≤ now ∧ (data.expireTime = 0 ∨ now < data.expireTime)
    rw [same, permanent]
    constructor
    · rintro ⟨snapshot, accepted⟩
      obtain ⟨-, -, started, unexpired, -⟩ := readPayload_eq_ok_iff.mp accepted
      exact ⟨started, unexpired⟩
    · rintro ⟨started, unexpired⟩
      exact ⟨_, readPayload_eq_ok_iff.mpr ⟨policy, acceptable, started, unexpired, rfl⟩⟩

theorem validate_testPackage :
    Tools.testValidator.validate referencePackages referencePayloads Tools.referenceSignatures
      Tools.testPackage Tools.testDefinition.productId Tools.testDefinition.machineId 1000 =
        .ok Tools.testDefinition.snapshot := by
  obtain ⟨signature, issued⟩ := Tools.issued_of_issueLicense Tools.issueLicense_testDefinition
  exact (Tools.validate_issued Tools.referenceCodecs
    (Tools.referenceSignatures_match (.zeros kKeySize)) issued Tools.testPackage_small
    Tools.testValidator_trusts).mpr ⟨⟨rfl, by decide, .inr (by decide), .inr rfl⟩, rfl⟩

/-- A subscription that ends at 3000. -/
theorem licenseExpiry_agrees_subscription :
    Tools.testValidator.validate referencePackages referencePayloads Tools.referenceSignatures
        Tools.testPackage Tools.testDefinition.productId Tools.testDefinition.machineId 2999 =
          .ok Tools.testDefinition.snapshot ∧
      Tools.testValidator.validate referencePackages referencePayloads Tools.referenceSignatures
        Tools.testPackage Tools.testDefinition.productId Tools.testDefinition.machineId 3000 =
          .error .expired := by
  have before := licenseExpiry_agrees (by decide : (1000 : UInt64) ≤ 2999) validate_testPackage
  have after := licenseExpiry_agrees (by decide : (1000 : UInt64) ≤ 3000) validate_testPackage
  exact ⟨before.2.2.1.mpr (by decide), after.2.2.2.1 (by decide)⟩

end YoAuthorize.Service
