import YoAuthorize.Backend.Handlers

/-!
# The invariant of the activation store

`Consistent` relates the counters of the codes, the limits and the live
activations.  A transaction that unbinds activations counts them down one by one
afterwards; `debt` is what it has still to count down for each code.  There is
one lemma for each kind of change that the handlers make.
-/

namespace YoAuthorize.Backend

open Octets Crypto FlatBuffer License Transaction

structure Consistent (debt : Uuid → Int) (rows : Store) : Prop where
  counted : ∀ {id : Uuid} {code : CodeRow}, rows.code id = some code →
    code.activationCount = rows.liveOfCode id + debt id
  limited : ∀ {id : Uuid} {code : CodeRow}, rows.code id = some code →
    code.activationCount ≤ code.activationLimit
  devices : ∀ {id : Uuid} {license : LicenseRow}, rows.license id = some license →
    rows.liveOfLicense id ≤ license.deviceLimit
  single : ∀ {left right : Uuid} {leftRow rightRow : ActivationRow},
    rows.activation left = some leftRow →
    rows.activation right = some rightRow → leftRow.live = true →
    rightRow.live = true → leftRow.licenseId = rightRow.licenseId →
    leftRow.deviceId = rightRow.deviceId → left = right
  bound : ∀ {id : Uuid} {row : ActivationRow}, rows.activation id = some row →
    ∃ code, rows.code row.activationCodeId = some code ∧
      code.licenseId = some row.licenseId
  licensed : ∀ {id : Uuid} {row : ActivationRow}, rows.activation id = some row →
    ∃ license, rows.license row.licenseId = some license
  created : ∀ {id codeId : Uuid} {license : LicenseRow},
    rows.license id = some license → license.createdFor = some codeId →
    ∃ code, rows.code codeId = some code ∧ code.licenseId = some id

/-! ## Counts -/

section

variable {rows : Store} (test : ActivationRow → Bool)

theorem count_isLive_insert_code (id : Uuid) (code : CodeRow) :
    count (Store.isLive test) (rows.insert (.code id) code) = count (Store.isLive test) rows :=
  count_insert_of_uncounted (ν := Row) (RowKey.code id) code fun _ => rfl

theorem count_isLive_insert_license (id : Uuid) (license : LicenseRow) :
    count (Store.isLive test) (rows.insert (.license id) license) =
      count (Store.isLive test) rows :=
  count_insert_of_uncounted (ν := Row) (RowKey.license id) license fun _ => rfl

theorem count_isLive_insert_of_unaccounted {key : RowKey} (row : Row key)
    (unaccounted : Store.unaccounted key = true) :
    count (Store.isLive test) (rows.insert key row) = count (Store.isLive test) rows := by
  apply count_insert_of_uncounted
  intro other
  cases key with
  | device | token | event => rfl
  | code | license | activation => cases unaccounted

theorem count_isLive_insert_activation {id : Uuid} {row : ActivationRow}
    (absent : rows.activation id = none) (live : row.live = true) :
    count (Store.isLive test) (rows.insert (.activation id) row) =
      count (Store.isLive test) rows + if test row then 1 else 0 := by
  rw [count_insert_of_lookup_eq_none (RowKey.activation id) row absent]
  simp only [Store.isLive, live, Bool.true_and]

theorem count_isLive_unbind {id : Uuid} {row : ActivationRow} (time : Timestamp)
    (present : rows.activation id = some row) (live : row.live = true) :
    count (Store.isLive test) (rows.insert (.activation id) { row with unboundAt := some time }) +
      (if test row then 1 else 0) = count (Store.isLive test) rows := by
  have balance : count (Store.isLive test) _ + _ = count (Store.isLive test) _ + _ :=
    count_insert_of_lookup_eq_some (RowKey.activation id)
      { row with unboundAt := some time } present
  have dead : ActivationRow.live { row with unboundAt := some time } = false := rfl
  simp only [Store.isLive, live, dead, Bool.true_and, Bool.false_and, Bool.false_eq_true, if_false,
    Nat.add_zero] at balance
  exact balance

theorem count_isLive_eq_zero (unused : ∀ {id : Uuid} {row : ActivationRow},
    rows.activation id = some row → test row = false) :
    count (Store.isLive test) rows = 0 := by
  apply count_eq_zero
  intro key row present
  cases key with
  | activation id =>
      rw [Store.isLive, unused present, Bool.and_false]
  | code | license | device | token | event => rfl

end

/-! ## Changes -/

namespace Consistent

open Store

variable {debt : Uuid → Int} {rows : Store}

/-- The debt of a code that is not there does not matter. -/
theorem congr_debt (consistent : Consistent debt rows) {rest : Uuid → Int}
    (same : ∀ {id : Uuid} {code : CodeRow}, rows.code id = some code → rest id = debt id) :
    Consistent rest rows :=
  { consistent with
    counted := fun present => by
      rw [same present]
      exact consistent.counted present }

/-- A row of a table that is not accounted for. -/
theorem insert_unaccounted (consistent : Consistent debt rows) {key : RowKey} (row : Row key)
    (unaccounted : Store.unaccounted key = true) : Consistent debt (rows.insert key row) where
  counted present := by
    rw [code_insert_of_unaccounted row unaccounted] at present
    rw [liveOfCode, count_isLive_insert_of_unaccounted _ row unaccounted]
    exact consistent.counted present
  limited present := by
    rw [code_insert_of_unaccounted row unaccounted] at present
    exact consistent.limited present
  devices present := by
    rw [license_insert_of_unaccounted row unaccounted] at present
    rw [liveOfLicense, count_isLive_insert_of_unaccounted _ row unaccounted]
    exact consistent.devices present
  single left right := by
    rw [activation_insert_of_unaccounted row unaccounted] at left right
    exact consistent.single left right
  bound present := by
    rw [activation_insert_of_unaccounted row unaccounted] at present
    rw [code_insert_of_unaccounted row unaccounted]
    exact consistent.bound present
  licensed present := by
    rw [activation_insert_of_unaccounted row unaccounted] at present
    rw [license_insert_of_unaccounted row unaccounted]
    exact consistent.licensed present
  created present origin := by
    rw [license_insert_of_unaccounted row unaccounted] at present
    rw [code_insert_of_unaccounted row unaccounted]
    exact consistent.created present origin

/-- A license that keeps its device limit and its origin. -/
theorem update_license (consistent : Consistent debt rows) {id : Uuid} {old license : LicenseRow}
    (present : rows.license id = some old) (limit : license.deviceLimit = old.deviceLimit)
    (sameOrigin : license.createdFor = old.createdFor) :
    Consistent debt (rows.insert (.license id) license) where
  counted here := by
    rw [code_insert_license] at here
    rw [liveOfCode, count_isLive_insert_license]
    exact consistent.counted here
  limited here := by
    rw [code_insert_license] at here
    exact consistent.limited here
  devices here := by
    rw [license_insert] at here
    rw [liveOfLicense, count_isLive_insert_license]
    split at here
    · rename_i same
      cases here
      rw [same, limit]
      exact consistent.devices present
    · exact consistent.devices here
  single left right := by
    rw [activation_insert_license] at left right
    exact consistent.single left right
  bound here := by
    rw [activation_insert_license] at here
    rw [code_insert_license]
    exact consistent.bound here
  licensed here := by
    rw [activation_insert_license] at here
    rw [license_insert]
    split
    · exact ⟨license, rfl⟩
    · exact consistent.licensed here
  created here origin := by
    rw [license_insert] at here
    rw [code_insert_license]
    split at here
    · rename_i same
      cases here
      rw [same]
      exact consistent.created present (sameOrigin ▸ origin)
    · exact consistent.created here origin

/-- A new code. -/
theorem insert_code (consistent : Consistent debt rows) {id : Uuid} {code : CodeRow}
    (absent : rows.code id = none) (count : code.activationCount = 0) (settled : debt id = 0) :
    Consistent debt (rows.insert (.code id) code) where
  counted {other row} here := by
    rw [code_insert] at here
    rw [liveOfCode, count_isLive_insert_code]
    split at here
    · rename_i same
      cases here
      have unused : Transaction.count (isLive fun row => row.activationCodeId = id) rows = 0 := by
        apply count_isLive_eq_zero
        intro activation row present
        rcases consistent.bound present with ⟨code, bound, -⟩
        apply decide_eq_false
        intro same
        rw [same, absent] at bound
        cases bound
      rw [same, count, settled, unused]
      rfl
    · exact consistent.counted here
  limited here := by
    rw [code_insert] at here
    split at here
    · cases here
      rw [count]
      exact Nat.zero_le _
    · exact consistent.limited here
  devices here := by
    rw [license_insert_code] at here
    rw [liveOfLicense, count_isLive_insert_code]
    exact consistent.devices here
  single left right := by
    rw [activation_insert_code] at left right
    exact consistent.single left right
  bound here := by
    rw [activation_insert_code] at here
    rcases consistent.bound here with ⟨old, present, same⟩
    rw [code_insert]
    split
    · rename_i equal
      rw [equal, absent] at present
      cases present
    · exact ⟨old, present, same⟩
  licensed here := by
    rw [activation_insert_code] at here
    rw [license_insert_code]
    exact consistent.licensed here
  created here origin := by
    rw [license_insert_code] at here
    rcases consistent.created here origin with ⟨old, present, same⟩
    rw [code_insert]
    split
    · rename_i equal
      rw [equal, absent] at present
      cases present
    · exact ⟨old, present, same⟩

/-- A code that keeps its license and counts up or down. -/
theorem recount_code (consistent : Consistent debt rows) {id : Uuid} {old code : CodeRow}
    {rest : Uuid → Int} (present : rows.code id = some old)
    (license : code.licenseId = old.licenseId)
    (limit : code.activationCount ≤ code.activationLimit)
    (counts : ∀ other, rest other =
      debt other + if other = id then (code.activationCount : Int) - old.activationCount else 0) :
    Consistent rest (rows.insert (.code id) code) where
  counted {other row} here := by
    rw [code_insert] at here
    rw [liveOfCode, count_isLive_insert_code, counts]
    split at here
    · rename_i same
      cases here
      have before := consistent.counted present
      rw [liveOfCode] at before
      rw [same, if_pos rfl]
      omega
    · rename_i apart
      have before := consistent.counted here
      rw [liveOfCode] at before
      rw [if_neg apart]
      omega
  limited here := by
    rw [code_insert] at here
    split at here
    · cases here
      exact limit
    · exact consistent.limited here
  devices here := by
    rw [license_insert_code] at here
    rw [liveOfLicense, count_isLive_insert_code]
    exact consistent.devices here
  single left right := by
    rw [activation_insert_code] at left right
    exact consistent.single left right
  bound here := by
    rw [activation_insert_code] at here
    rcases consistent.bound here with ⟨found, bound, same⟩
    rw [code_insert]
    split
    · rename_i equal
      rw [equal, present] at bound
      cases bound
      exact ⟨code, rfl, license.trans same⟩
    · exact ⟨found, bound, same⟩
  licensed here := by
    rw [activation_insert_code] at here
    rw [license_insert_code]
    exact consistent.licensed here
  created here origin := by
    rw [license_insert_code] at here
    rcases consistent.created here origin with ⟨found, bound, same⟩
    rw [code_insert]
    split
    · rename_i equal
      rw [equal, present] at bound
      cases bound
      exact ⟨code, rfl, license.trans same⟩
    · exact ⟨found, bound, same⟩

/-- A new license for a code without one. -/
theorem bind_license (consistent : Consistent debt rows) {codeId licenseId : Uuid}
    {code : CodeRow} {license : LicenseRow} (present : rows.code codeId = some code)
    (unbound : code.licenseId = none) (absent : rows.license licenseId = none)
    (origin : license.createdFor = some codeId) :
    Consistent debt ((rows.insert (.license licenseId) license).insert (.code codeId)
      { code with licenseId := some licenseId }) where
  counted here := by
    rw [code_insert, code_insert_license] at here
    rw [liveOfCode, count_isLive_insert_code, count_isLive_insert_license]
    split at here
    · rename_i same
      cases here
      have before := consistent.counted present
      rw [same]
      exact before
    · exact consistent.counted here
  limited here := by
    rw [code_insert, code_insert_license] at here
    split at here
    · have before := consistent.limited present
      cases here
      exact before
    · exact consistent.limited here
  devices {id row} here := by
    rw [license_insert_code, license_insert] at here
    rw [liveOfLicense, count_isLive_insert_code, count_isLive_insert_license]
    split at here
    · rename_i same
      have unused : Transaction.count (isLive fun row => row.licenseId = licenseId) rows = 0 := by
        apply count_isLive_eq_zero
        intro activation row present
        rcases consistent.licensed present with ⟨license, licensed⟩
        apply decide_eq_false
        intro same
        rw [same, absent] at licensed
        cases licensed
      rw [same, unused]
      exact Nat.zero_le _
    · exact consistent.devices here
  single left right := by
    rw [activation_insert_code, activation_insert_license] at left right
    exact consistent.single left right
  bound here := by
    rw [activation_insert_code, activation_insert_license] at here
    rcases consistent.bound here with ⟨found, bound, same⟩
    rw [code_insert, code_insert_license]
    split
    · rename_i equal
      rw [equal, present] at bound
      cases bound
      rw [unbound] at same
      cases same
    · exact ⟨found, bound, same⟩
  licensed here := by
    rw [activation_insert_code, activation_insert_license] at here
    rw [license_insert_code, license_insert]
    split
    · exact ⟨license, rfl⟩
    · exact consistent.licensed here
  created here from' := by
    rw [license_insert_code, license_insert] at here
    rw [code_insert, code_insert_license]
    split at here
    · rename_i same
      cases here
      rw [origin] at from'
      cases from'
      rw [if_pos rfl, same]
      exact ⟨_, rfl, rfl⟩
    · rcases consistent.created here from' with ⟨found, bound, same⟩
      split
      · rename_i equal
        rw [equal, present] at bound
        cases bound
        rw [unbound] at same
        cases same
      · exact ⟨found, bound, same⟩

/-- A new activation, before it is counted. -/
theorem insert_activation (consistent : Consistent debt rows) {id : Uuid} {row : ActivationRow}
    {code : CodeRow} {license : LicenseRow} {rest : Uuid → Int}
    (absent : rows.activation id = none) (live : row.live = true)
    (coded : rows.code row.activationCodeId = some code)
    (bound : code.licenseId = some row.licenseId)
    (licensed : rows.license row.licenseId = some license)
    (room : rows.liveOfLicense row.licenseId < license.deviceLimit)
    (unused : ∀ {other : Uuid} {otherRow : ActivationRow}, rows.activation other = some otherRow →
      otherRow.live = true → otherRow.licenseId = row.licenseId →
      otherRow.deviceId ≠ row.deviceId)
    (counts : ∀ other, rest other = debt other - if other = row.activationCodeId then 1 else 0) :
    Consistent rest (rows.insert (.activation id) row) where
  counted {other found} here := by
    rw [code_insert_activation] at here
    have before := consistent.counted here
    rw [liveOfCode] at before ⊢
    rw [count_isLive_insert_activation _ absent live, counts]
    by_cases same : other = row.activationCodeId
    · subst same
      rw [if_pos rfl, if_pos (decide_eq_true rfl)]
      omega
    · rw [if_neg same, if_neg (by simp only [decide_eq_true_eq]; exact Ne.symm same)]
      omega
  limited here := by
    rw [code_insert_activation] at here
    exact consistent.limited here
  devices {other found} here := by
    rw [license_insert_activation] at here
    have before := consistent.devices here
    rw [liveOfLicense] at before ⊢
    rw [count_isLive_insert_activation _ absent live]
    by_cases same : other = row.licenseId
    · subst same
      rw [licensed] at here
      cases here
      rw [if_pos (decide_eq_true rfl)]
      exact room
    · rw [if_neg (by simp only [decide_eq_true_eq]; exact Ne.symm same)]
      exact before
  single {left right leftRow rightRow} leftHere rightHere leftLive rightLive license device := by
    rw [activation_insert] at leftHere rightHere
    split at leftHere
    · rename_i leftNew
      cases leftHere
      split at rightHere
      · rename_i rightNew
        exact leftNew.trans rightNew.symm
      · exact absurd device.symm (unused rightHere rightLive license.symm)
    · split at rightHere
      · cases rightHere
        exact absurd device (unused leftHere leftLive license)
      · exact consistent.single leftHere rightHere leftLive rightLive license device
  bound here := by
    rw [activation_insert] at here
    rw [code_insert_activation]
    split at here
    · cases here
      exact ⟨code, coded, bound⟩
    · exact consistent.bound here
  licensed here := by
    rw [activation_insert] at here
    rw [license_insert_activation]
    split at here
    · cases here
      exact ⟨license, licensed⟩
    · exact consistent.licensed here
  created here origin := by
    rw [license_insert_activation] at here
    rw [code_insert_activation]
    exact consistent.created here origin

/-- An activation that is unbound, before its code is counted down. -/
theorem unbind_activation (consistent : Consistent debt rows) {id : Uuid} {row : ActivationRow}
    {rest : Uuid → Int} (time : Timestamp) (present : rows.activation id = some row)
    (live : row.live = true)
    (counts : ∀ other, rest other = debt other + if other = row.activationCodeId then 1 else 0) :
    Consistent rest (rows.insert (.activation id) { row with unboundAt := some time }) where
  counted {other found} here := by
    rw [code_insert_activation] at here
    have before := consistent.counted here
    have change := count_isLive_unbind (fun row => row.activationCodeId = other) time present live
    rw [liveOfCode] at before ⊢
    rw [counts]
    by_cases same : other = row.activationCodeId
    · subst same
      rw [if_pos (decide_eq_true rfl)] at change
      rw [if_pos rfl]
      omega
    · rw [if_neg (by simp only [decide_eq_true_eq]; exact Ne.symm same)] at change
      rw [if_neg same]
      omega
  limited here := by
    rw [code_insert_activation] at here
    exact consistent.limited here
  devices {other found} here := by
    rw [license_insert_activation] at here
    have before := consistent.devices here
    have change := count_isLive_unbind (fun row => row.licenseId = other) time present live
    rw [liveOfLicense] at before ⊢
    omega
  single {left right leftRow rightRow} leftHere rightHere leftLive rightLive license device := by
    rw [activation_insert] at leftHere rightHere
    split at leftHere
    · cases leftHere
      cases leftLive
    · split at rightHere
      · cases rightHere
        cases rightLive
      · exact consistent.single leftHere rightHere leftLive rightLive license device
  bound here := by
    rw [activation_insert] at here
    rw [code_insert_activation]
    split at here
    · have before := consistent.bound present
      cases here
      exact before
    · exact consistent.bound here
  licensed here := by
    rw [activation_insert] at here
    rw [license_insert_activation]
    split at here
    · have before := consistent.licensed present
      cases here
      exact before
    · exact consistent.licensed here
  created here origin := by
    rw [license_insert_activation] at here
    rw [code_insert_activation]
    exact consistent.created here origin

end Consistent

end YoAuthorize.Backend
