import YoAuthorize.Backend.StoreSafety

/-!
# The terms of a license

`activate` compares the times of a license in microseconds and signs them in whole
seconds, and the core compares these.  When the definition of a license row is
usable at the core, and that the signer accepts it then.
-/

namespace YoAuthorize.Backend

open Octets Crypto FlatBuffer License YoAuthorize.Core Transaction

/-! ## Timestamps -/

/-- The range of a `timestamptz`. -/
structure Timestamp.InRange (time : Int) : Prop where
  early : -210866803200000000 ≤ time
  late : time < 9224318016000000000

section

variable {first time last : Int}

theorem toNat_seconds_eq (time : Int) :
    (seconds time).toNat = (time / 1000000 % 2 ^ 64).toNat := by
  refine UInt64.toNat_ofNat_of_lt' ?_
  change _ < 18446744073709551616
  omega

theorem toNat_seconds (range : Timestamp.InRange time) (after : 0 ≤ time) :
    (seconds time).toNat = (time / 1000000).toNat := by
  have late := range.late
  rw [toNat_seconds_eq]
  omega

/-- Seconds before the epoch are cast to more than any time after it. -/
theorem seconds_le_seconds_iff (begins : Timestamp.InRange first) (range : Timestamp.InRange time)
    (after : 0 ≤ time) (started : first ≤ time) : seconds first ≤ seconds time ↔ 0 ≤ first := by
  rw [UInt64.le_iff_toNat_le, toNat_seconds range after]
  have small := range.late
  constructor
  · intro early
    by_contra before
    have least := begins.early
    rw [toNat_seconds_eq] at early
    omega
  · intro nonnegative
    rw [toNat_seconds begins nonnegative]
    omega

theorem seconds_lt_seconds_iff (range : Timestamp.InRange time) (ends : Timestamp.InRange last)
    (after : 0 ≤ time) (unexpired : time < last) :
    seconds time < seconds last ↔ time / 1000000 < last / 1000000 := by
  rw [UInt64.lt_iff_toNat_lt, toNat_seconds range after, toNat_seconds ends (by omega)]
  omega

end

/-! ## What the tables allow -/

/-- The `CHECK`s of `licenses`. -/
structure LicenseRow.Allowed (license : LicenseRow) : Prop where
  permanent : license.licenseType = .permanent → license.expiresAt = none
  expiring : license.licenseType ≠ .permanent →
    ∃ expiresAt, license.expiresAt = some expiresAt ∧ license.notBefore < expiresAt
  maxSessions : 0 < license.maxSessions ∧ license.maxSessions ≤ 10000
  begins : Timestamp.InRange license.notBefore
  ends : ∀ expiresAt, license.expiresAt = some expiresAt → Timestamp.InRange expiresAt

/-- The `CHECK` of a code: 1 to 100 letters, digits or the given characters. -/
structure TableCode (extra : Bytes) (text : String) : Prop where
  nonempty : text ≠ ""
  short : (utf8 text).length ≤ 100
  letters : ∀ byte ∈ utf8 text, asciiAlphanumeric byte = true ∨ byte ∈ extra

/-- The license begins after the epoch and expires in a later second. -/
structure LicenseRow.UsableAt (license : LicenseRow) (time : Timestamp) : Prop where
  begins : 0 ≤ license.notBefore
  ends : ∀ expiresAt, license.expiresAt = some expiresAt → time / 1000000 < expiresAt / 1000000

/-- A definition with the product, the times and the machine of a license. -/
structure LicenseDefinition.Describes (definition : LicenseDefinition) (productId : String)
    (license : LicenseRow) (machineId : String) : Prop where
  product : definition.productId = productId
  notBefore : definition.notBefore = seconds license.notBefore
  expireTime : definition.expireTime = license.expiresAt.elim 0 seconds
  licenseType : definition.licenseType = license.licenseType
  machine : definition.machineId = some machineId

section

variable {license : LicenseRow} {time : Timestamp}

theorem valid_iff : validateLicenseState license time = .ok () ↔
    license.status = .active ∧ license.notBefore ≤ time ∧
      ∀ expiresAt, license.expiresAt = some expiresAt → time < expiresAt := by
  have unexpired_iff : license.unexpired time = true ↔
      ∀ expiresAt, license.expiresAt = some expiresAt → time < expiresAt := by
    unfold LicenseRow.unexpired
    cases license.expiresAt with
    | none => exact ⟨fun _ => nofun, fun _ => rfl⟩
    | some expiresAt => simp
  unfold validateLicenseState
  constructor
  · intro valid
    split at valid
    · cases valid
    rename_i active
    split at valid
    · cases valid
    rename_i started
    split at valid
    · cases valid
    rename_i unexpired
    rw [Bool.not_eq_true', Bool.not_eq_false] at started unexpired
    exact ⟨not_not.mp active, of_decide_eq_true started, unexpired_iff.mp unexpired⟩
  · rintro ⟨active, started, unexpired⟩
    have starts : license.started time = true := decide_eq_true started
    rw [if_neg (not_not.mpr active), starts, unexpired_iff.mpr unexpired]
    rfl

/-- When the core accepts a definition of a license that is valid now. -/
theorem usable_iff_usableAt (allowed : license.Allowed) (range : Timestamp.InRange time)
    (after : 0 ≤ time) (valid : validateLicenseState license time = .ok ())
    {definition : LicenseDefinition} {productId machineId : String}
    (describes : definition.Describes productId license machineId) :
    definition.Usable (utf8 productId) (utf8 machineId) (seconds time) ↔
      license.UsableAt time := by
  obtain ⟨-, started, unexpired⟩ := valid_iff.mp valid
  have begins := seconds_le_seconds_iff allowed.begins range after started
  constructor
  · intro usable
    refine ⟨begins.mp (describes.notBefore ▸ usable.started), ?_⟩
    intro expiresAt expires
    rcases usable.unexpired with permanent | ends
    · rw [allowed.permanent (describes.licenseType.symm.trans permanent)] at expires
      cases expires
    · rw [describes.expireTime, expires] at ends
      exact (seconds_lt_seconds_iff range (allowed.ends expiresAt expires) after
        (unexpired expiresAt expires)).mp ends
  · intro usable
    refine ⟨congrArg utf8 describes.product.symm, ?_, ?_, ?_⟩
    · rw [describes.notBefore]
      exact begins.mpr usable.begins
    · by_cases permanent : license.licenseType = .permanent
      · exact .inl (describes.licenseType.trans permanent)
      · obtain ⟨expiresAt, expires, -⟩ := allowed.expiring permanent
        refine .inr ?_
        rw [describes.expireTime, expires]
        exact (seconds_lt_seconds_iff range (allowed.ends expiresAt expires) after
          (unexpired expiresAt expires)).mpr (usable.ends expiresAt expires)
    · intro machine same
      rw [describes.machine] at same
      cases same
      rfl

end

/-! ## The definition that `activate` builds -/

theorem length_flatMap_hexByte (bytes : Bytes) :
    (bytes.flatMap hexByte).length = 2 * bytes.length := by
  induction bytes with
  | nil => rfl
  | cons byte bytes ih =>
      rw [List.flatMap_cons, List.length_append, ih, List.length_cons]
      change 2 + _ = _
      omega

theorem fits_text (id : Uuid) : Fits id.text := by
  have group : ∀ start size,
      (((id.val.drop start).take size).flatMap hexByte).length ≤ 2 * size := by
    intro start size
    rw [length_flatMap_hexByte]
    exact Nat.mul_le_mul_left 2 (List.length_take_le _ _)
  unfold Uuid.text
  dsimp only
  constructor
  · intro empty
    have chars := congrArg String.toList empty
    rw [String.toList_ofList] at chars
    simp at chars
  · refine Nat.le_trans (length_utf8_ofList_le _) ?_
    have first := group 0 4
    have second := group 4 2
    have third := group 6 2
    have fourth := group 8 2
    have fifth := group 10 6
    have limit : maxStringBytes = 1024 := rfl
    simp only [List.length_append, List.length_cons]
    omega

theorem TableCode.fits {extra : Bytes} {text : String} (code : TableCode extra text) : Fits text :=
  ⟨code.nonempty, code.short.trans (by decide)⟩

theorem not_badLength {text : String} (fits : Fits text) : badLength text = false :=
  decide_eq_false (not_or.mpr ⟨fits.nonempty, Nat.not_lt.mpr fits.short⟩)

theorem fits_of_wellFormed {request : ActivationRequest} (wellFormed : request.malformed = false) :
    Fits request.machineId := by
  have checks := of_decide_eq_false wellFormed
  simp only [not_or] at checks
  exact ⟨checks.2.1, Nat.not_lt.mp checks.2.2.1⟩

/-- The features of a license are in their table, and not more than the format allows. -/
structure FeatureCodes (features : List String) : Prop where
  few : features.length ≤ maxFeatures
  codes : ∀ feature ∈ features, TableCode (ofAscii "_.-") feature

theorem FeatureCodes.accepted {features : List String} (codes : FeatureCodes features) :
    ¬ (features.length > maxFeatures ∨
      features.any (fun feature =>
        badLength feature ∨ !(utf8 feature).all featureByte) = true) := by
  rw [not_or, Nat.not_lt, List.any_eq_true, not_exists]
  refine ⟨codes.few, ?_⟩
  rintro feature ⟨member, refused⟩
  have code := codes.codes feature member
  rcases of_decide_eq_true refused with long | strange
  · rw [not_badLength code.fits] at long
    cases long
  · have letters : (utf8 feature).all featureByte = true := by
      rw [List.all_eq_true]
      intro byte within
      exact decide_eq_true (code.letters byte within)
    rw [letters] at strange
    cases strange

section

variable {env : Environment} {request : ActivationRequest} {licenseId : Uuid}
  {license : LicenseRow} {time : Timestamp}

theorem describes_definition :
    (definition env request licenseId license).Describes request.productId license
      request.machineId where
  product := rfl
  notBefore := rfl
  expireTime := rfl
  licenseType := rfl
  machine := rfl

/-- The signer accepts the definition of a license that is usable. -/
theorem validate_definition (allowed : license.Allowed) (range : Timestamp.InRange time)
    (after : 0 ≤ time) (valid : validateLicenseState license time = .ok ())
    (usable : license.UsableAt time) (machine : Fits request.machineId)
    (product : TableCode (ofAscii "_-") request.productId)
    (features : FeatureCodes (env.features licenseId)) :
    validate (definition env request licenseId license) = .ok () := by
  have accepted := (usable_iff_usableAt allowed range after valid
    (@describes_definition env request licenseId license)).mpr usable
  have customer : Fits (definition env request licenseId license).customerId := by
    change Fits (license.userId.elim "unassigned" Uuid.text)
    cases license.userId with
    | none => exact ⟨by decide, by decide⟩
    | some user => exact fits_text user
  have identifiers : [(definition env request licenseId license).licenseId,
      (definition env request licenseId license).productId,
      (definition env request licenseId license).customerId].any badLength = false := by
    rw [List.any_cons, List.any_cons, List.any_cons, not_badLength customer]
    change (badLength licenseId.text || (badLength request.productId || (false || false))) = false
    rw [not_badLength (fits_text licenseId), not_badLength product.fits]
    rfl
  have sessions : (definition env request licenseId license).maxSessions ≠ 0 := by
    have limits := allowed.maxSessions
    intro zero
    have same := congrArg UInt32.toNat zero
    change (UInt32.ofNat license.maxSessions).toNat = 0 at same
    rw [UInt32.toNat_ofNat_of_lt' (Nat.lt_of_le_of_lt limits.2 (by decide))] at same
    omega
  have permanent : ¬ ((definition env request licenseId license).licenseType = .permanent ∧
      (definition env request licenseId license).expireTime ≠ 0) := by
    rintro ⟨isPermanent, expires⟩
    apply expires
    change license.expiresAt.elim 0 seconds = 0
    rw [allowed.permanent isPermanent]
    rfl
  have expiring : ¬ ((definition env request licenseId license).licenseType ≠ .permanent ∧
      (definition env request licenseId license).expireTime ≤
        (definition env request licenseId license).notBefore) := by
    rintro ⟨expires, early⟩
    have started := accepted.started
    have unexpired := accepted.unexpired.resolve_left expires
    exact UInt64.not_lt.mpr (UInt64.le_trans early started) unexpired
  have machineId : (definition env request licenseId license).machineId.any badLength = false :=
    not_badLength machine
  have offered : FeatureCodes (definition env request licenseId license).features := features
  unfold validate
  rw [identifiers, if_neg Bool.false_ne_true, if_neg offered.accepted, if_neg sessions,
    if_neg permanent, if_neg expiring, machineId]
  rfl

end

end YoAuthorize.Backend
