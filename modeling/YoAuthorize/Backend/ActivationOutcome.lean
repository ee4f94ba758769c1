import YoAuthorize.Backend.ActivationPath

/-!
# One activation on its own

What `activate` does to the store and answers when no other request runs at the
same time.  It succeeds in three ways: it replays the activation that has recorded
its key, reuses a live activation of its machine, or makes a new one.
`ensures_activate` gives the activation of each, and the rows that are left.
-/

namespace YoAuthorize.Backend

open Octets Crypto FlatBuffer License Transaction

/-! ## What a request finds -/

/-- The license of a code, and the store with it: the code's own one or a new one. -/
inductive Licensed (env : Environment) (rows : Store) (codeId : Uuid) (code : CodeRow) :
    (licenseId : Uuid) → (license : LicenseRow) → (base : Store) → Prop
  | known {licenseId : Uuid} {license : LicenseRow} (linked : code.licenseId = some licenseId)
      (present : rows.license licenseId = some license) :
      Licensed env rows codeId code licenseId license rows
  | created (unlinked : code.licenseId = none) (absent : rows.license env.newLicense = none) :
      Licensed env rows codeId code env.newLicense (createdLicense env codeId code)
        ((rows.insert (.license env.newLicense) (createdLicense env codeId code)).insert
          (.code codeId) { code with licenseId := some env.newLicense })

/-- The key of a request, if it has one, is not recorded for a code. -/
def Unrecorded (request : ActivationRequest) (codeId : Uuid) (rows : Store) : Prop :=
  ∀ key, request.idempotencyKey = some key → ∀ id row, rows.activation id = some row →
    row.recordedFor codeId key = false

/-- A row for the device of a machine: the known one or one with an unused id. -/
structure Upserts (rows : Store) (hash : Bytes) (device : DeviceRow) : Prop where
  known : ∀ old, rows.device hash = some old → device.id = old.id
  fresh : rows.device hash = none → ∀ other row, rows.device other = some row → row.id ≠ device.id

/-- The row of a new activation. -/
def activationRow (request : ActivationRequest) (codeId licenseId deviceId : Uuid) (blob : Bytes) :
    ActivationRow where
  licenseId := licenseId
  deviceId := deviceId
  activationCodeId := codeId
  idempotencyKey := request.idempotencyKey
  licenseBlob := blob

/-- The three ways to an activation, with the rows that are written on the way. -/
inductive Obtains (env : Environment) (request : ActivationRequest) (base : Store)
    (codeId licenseId : Uuid) (license : LicenseRow) :
    (id : Uuid) → (row : ActivationRow) → (store : Store) → Prop
  | replayed {id : Uuid} {row : ActivationRow} {device : DeviceRow} {key : String}
      (keyed : request.idempotencyKey = some key) (present : base.activation id = some row)
      (recorded : row.recordedFor codeId key = true)
      (placed : base.device (machineHash env request) = some device)
      (same : device.id = row.deviceId) :
      Obtains env request base codeId licenseId license id row base
  | reused {id : Uuid} {row : ActivationRow} {device : DeviceRow}
      (unrecorded : Unrecorded request codeId base) (masked : mask request.machineId ≠ none)
      (placed : Upserts base (machineHash env request) device)
      (present : base.activation id = some row)
      (liveFor : row.liveFor licenseId device.id = true) :
      Obtains env request base codeId licenseId license id row
        (base.insert (.device (machineHash env request)) device)
  | created {device : DeviceRow} {code : CodeRow} {blob : Bytes}
      (unrecorded : Unrecorded request codeId base) (masked : mask request.machineId ≠ none)
      (placed : Upserts base (machineHash env request) device)
      (absent : base.activation env.newActivation = none)
      (unused : ∀ id row, base.activation id = some row →
        row.liveFor licenseId device.id = false)
      (signed : signLicense env request licenseId license = some blob)
      (coded : base.code codeId = some code)
      (free : code.activationCount < code.activationLimit) :
      Obtains env request base codeId licenseId license env.newActivation
        (activationRow request codeId licenseId device.id blob)
        (((base.insert (.device (machineHash env request)) device).insert
          (.activation env.newActivation)
            (activationRow request codeId licenseId device.id blob)).insert (.code codeId)
              { code with activationCount := code.activationCount + 1 })

/-- A request that succeeds: its code, its license, its activation and its token. -/
inductive Activates (env : Environment) (request : ActivationRequest) (rows : Store) :
    (later : Store) → (response : ActivationResponse) → Prop
  | intro {codeId licenseId : Uuid} {code : CodeRow} {license : LicenseRow} {base store : Store}
      {row : ActivationRow} {token : TokenRow} {response : ActivationResponse}
      (coded : rows.code codeId = some code)
      (redeemable : code.redeemable (env.hashActivation request.activationCode) env.now = true)
      (product : env.productCode code.productId = request.productId)
      (licensed : Licensed env rows codeId code licenseId license base)
      (sameProduct : license.productId = code.productId)
      (valid : validateLicenseState license env.now = .ok ())
      (obtains : Obtains env request base codeId licenseId license response.activationId row store)
      (live : row.live = true)
      (blob : response.license = row.licenseBlob) :
      Activates env request rows (store.insert (.token env.newToken) token) response

/-- A request that is refused leaves the rows. -/
def Outcomes (env : Environment) (request : ActivationRequest) (rows later : Store) :
    Except ApiError Response → Prop
  | .error _ => later = rows
  | .ok (.activated response) => Activates env request rows later response
  | .ok _ => False

/-! ## The walk -/

/-- The drawn token is new. -/
def TokenFree (env : Environment) (secret : String) (rows : Store) : Prop :=
  rows.token env.newToken = none ∧
    ∀ id token, rows.token id = some token → token.tokenHash ≠ env.hashToken secret

/-- A token can be issued for an activation of a license. -/
def Issues (env : Environment) (licenseId : Uuid) (rows : Store) : Prop :=
  (∃ license, rows.license licenseId = some license ∧
    validateLicenseState license env.clock = .ok ()) ∧
    ∃ secret, env.opaqueToken = some secret ∧ TokenFree env secret rows

section

variable {env : Environment} {request : ActivationRequest} {rows now : Store} {sequence : Nat}
  {post : Store → Except ApiError Response → Prop} {blob : Bytes} {activationId : Uuid}

theorem ensures_insertToken {secret : String}
    (refuse : ¬ TokenFree env secret now → ∀ error, post rows (.error error))
    (grant : ∀ token response, response.license = blob → response.activationId = activationId →
      post (now.insert (.token env.newToken) token) (.ok (.activated response))) :
    (insertToken env blob activationId secret).Ensures rows sequence now post := by
  apply Program.Ensures.lock
  · intro absent
    apply Program.Ensures.select
    split
    · rename_i used
      refine refuse ?_ _
      rintro ⟨-, unused⟩
      obtain ⟨id, located⟩ := Option.isSome_iff_exists.mp used
      obtain ⟨token, present, same⟩ := Store.findToken_eq_some located
      exact unused id token present (of_decide_eq_true same)
    · exact grant _ _ rfl rfl
  · intro taken present
    refine refuse ?_ _
    rintro ⟨absent, -⟩
    cases absent.symm.trans present

theorem ensures_finishActivation {row : ActivationRow}
    (refuse : ¬ (row.live = true ∧ Issues env row.licenseId now) →
      ∀ error, post rows (.error error))
    (present : now.activation activationId = some row)
    (grant : row.live = true → ∀ token response, response.license = blob →
      response.activationId = activationId →
      post (now.insert (.token env.newToken) token) (.ok (.activated response))) :
    (finishActivation env blob activationId).Ensures rows sequence now post := by
  apply Program.Ensures.lock
  · intro absent
    cases absent.symm.trans present
  · intro found here
    cases here.symm.trans present
    apply Program.Ensures.select
    split
    · rename_i absent
      refine refuse ?_ _
      rintro ⟨-, ⟨license, licensed, -⟩, -⟩
      cases absent.symm.trans licensed
    rename_i license licensed
    split
    · rename_i bound
      refine refuse ?_ _
      rintro ⟨live, -⟩
      rw [Option.isNone_iff_eq_none.mp live] at bound
      cases bound
    rename_i bound
    split
    · rename_i error invalid
      refine refuse ?_ _
      rintro ⟨-, ⟨other, otherLicensed, valid⟩, -⟩
      cases licensed.symm.trans otherLicensed
      cases invalid.symm.trans valid
    split
    · rename_i undrawn
      refine refuse ?_ _
      rintro ⟨-, -, secret, drawn, -⟩
      cases undrawn.symm.trans drawn
    · rename_i secret drawn
      refine ensures_insertToken ?_ ?_
      · intro taken
        refine refuse ?_
        rintro ⟨-, -, other, otherDrawn, free⟩
        cases drawn.symm.trans otherDrawn
        exact taken free
      · exact grant (Option.isNone_iff_eq_none.mpr (Option.not_isSome_iff_eq_none.mp bound))

variable {codeId licenseId : Uuid} {license : LicenseRow}

/-- The activations that have recorded the key of a request can be replayed. -/
def Replayable (env : Environment) (request : ActivationRequest) (codeId : Uuid) (rows : Store) :
    Prop :=
  ∀ key, request.idempotencyKey = some key → ∀ id row, rows.activation id = some row →
    row.recordedFor codeId key = true →
    rows.deviceHash row.deviceId = some (machineHash env request) ∧ row.live = true ∧
      Issues env row.licenseId rows

/-- A recorded key is replayed or refused: the device of its activation is there. -/
theorem ensures_replayActivation
    (refuse : ¬ Replayable env request codeId now → ∀ error, post rows (.error error))
    (housed : ∀ id row, now.activation id = some row →
      ∃ hash device, now.device hash = some device ∧ device.id = row.deviceId)
    {next : Handler}
    (grant : ∀ id row, Obtains env request now codeId licenseId license id row now →
      row.live = true → ∀ token response, response.license = row.licenseBlob →
      response.activationId = id →
      post (now.insert (.token env.newToken) token) (.ok (.activated response)))
    (continues : Unrecorded request codeId now → next.Ensures rows sequence now post) :
    (replayActivation env request codeId next).Ensures rows sequence now post := by
  unfold replayActivation
  split
  · rename_i unkeyed
    exact continues fun key keyed => by rw [unkeyed] at keyed; cases keyed
  rename_i key keyed
  apply Program.Ensures.lockWhere
  · intro missing
    refine continues fun other otherKeyed id row present => ?_
    cases keyed.symm.trans otherKeyed
    cases located : Store.findActivation now (·.recordedFor codeId key) with
    | none => exact Store.findActivation_eq_none located present
    | some index =>
        rcases Store.findActivation_eq_some located with ⟨found, here, recorded⟩
        exact absurd recorded (Bool.eq_false_iff.mp (missing index found located here))
  · intro id row located present recorded
    apply Program.Ensures.select
    split
    · rename_i unknown
      rcases housed id row present with ⟨hash, device, placed, same⟩
      exact absurd same (Store.deviceHash_eq_none unknown placed)
    rename_i hash housing
    split
    · rename_i apart
      refine refuse (fun replayable => apart ?_) _
      exact Option.some.inj (housing.symm.trans (replayable key keyed id row present recorded).1)
    rename_i same
    cases not_not.mp same
    split
    · rename_i bound
      refine refuse (fun replayable => ?_) _
      rw [Option.isNone_iff_eq_none.mp (replayable key keyed id row present recorded).2.1] at bound
      cases bound
    rcases Store.deviceHash_eq_some housing with ⟨device, placed, sameDevice⟩
    refine ensures_finishActivation ?_ present ?_
    · intro unissued
      refine refuse (fun replayable => unissued ?_)
      exact (replayable key keyed id row present recorded).2
    · exact grant id row (.replayed keyed present recorded placed sameDevice)

theorem ensures_upsertDevice
    (refuse : ¬ (mask request.machineId ≠ none ∧ now.deviceHash env.newDevice = none) →
      ∀ error, post rows (.error error))
    {next : Uuid → Handler}
    (continues : mask request.machineId ≠ none → ∀ device,
      Upserts now (machineHash env request) device →
      (next device.id).Ensures rows sequence
        (now.insert (.device (machineHash env request)) device) post) :
    (upsertDevice env request next).Ensures rows sequence now post := by
  unfold upsertDevice
  split
  · rename_i unmasked
    exact refuse (fun good => good.1 unmasked) _
  rename_i machineHint hinted
  have masked : mask request.machineId ≠ none := by
    rw [hinted]
    exact Option.some_ne_none machineHint
  apply Program.Ensures.lock
  · intro absent
    apply Program.Ensures.select
    split
    · rename_i used
      exact refuse (fun good => Option.isSome_iff_ne_none.mp used good.2) _
    · rename_i unused
      refine continues masked { id := env.newDevice, machineHint, lastSeenAt := env.now } ⟨?_, ?_⟩
      · intro old present
        rw [show now.device _ = none from absent] at present
        cases present
      · intro _ other row present
        exact Store.deviceHash_eq_none (Option.not_isSome_iff_eq_none.mp unused) present
  · intro device present
    refine continues masked { device with lastSeenAt := env.now } ⟨?_, ?_⟩
    · intro old here
      cases (show now.device _ = some device from present).symm.trans here
      rfl
    · intro absent
      cases (show now.device _ = some device from present).symm.trans absent

theorem ensures_reuseActivation {deviceId : Uuid}
    (refuse : ¬ Issues env licenseId now → ∀ error, post rows (.error error)) {next : Handler}
    (grant : ∀ id row, now.activation id = some row → row.liveFor licenseId deviceId = true →
      row.live = true → ∀ token response, response.license = row.licenseBlob →
      response.activationId = id →
      post (now.insert (.token env.newToken) token) (.ok (.activated response)))
    (continues : (∀ id row, now.activation id = some row →
      row.liveFor licenseId deviceId = false) → next.Ensures rows sequence now post) :
    (reuseActivation env licenseId deviceId next).Ensures rows sequence now post := by
  apply Program.Ensures.lockWhere
  · intro missing
    refine continues fun id row present => ?_
    cases located : Store.findActivation now (·.liveFor licenseId deviceId) with
    | none => exact Store.findActivation_eq_none located present
    | some index =>
        rcases Store.findActivation_eq_some located with ⟨found, here, live⟩
        exact absurd live (Bool.eq_false_iff.mp (missing index found located here))
  · intro id row located present liveFor
    obtain ⟨live, ofLicense, -⟩ :
        row.live = true ∧ row.licenseId = licenseId ∧ row.deviceId = deviceId :=
      of_decide_eq_true liveFor
    refine ensures_finishActivation ?_ present (grant id row present liveFor)
    intro unissued
    refine refuse (fun issues => unissued ⟨live, ?_⟩)
    rw [ofLicense]
    exact issues

/-- The rows after a new activation is inserted and counted. -/
def withActivation (env : Environment) (row : ActivationRow) (code : CodeRow) (rows : Store) :
    Store :=
  (rows.insert (.activation env.newActivation) row).insert (.code row.activationCodeId)
    { code with activationCount := code.activationCount + 1 }

theorem ensures_insertActivation {row : ActivationRow} {code : CodeRow}
    (refuse : ¬ (now.activation env.newActivation = none ∧ ¬ now.conflicts row = true ∧
      code.activationCount < code.activationLimit ∧ row.live = true ∧
      Issues env row.licenseId (withActivation env row code now)) →
      ∀ error, post rows (.error error))
    (coded : now.code row.activationCodeId = some code)
    (grant : now.activation env.newActivation = none →
      code.activationCount < code.activationLimit →
      row.live = true → ∀ token response, response.license = row.licenseBlob →
      response.activationId = env.newActivation →
      post ((withActivation env row code now).insert (.token env.newToken) token)
        (.ok (.activated response))) :
    (insertActivation env row).Ensures rows sequence now post := by
  apply Program.Ensures.lock
  · intro absent
    apply Program.Ensures.select
    split
    · rename_i conflicts
      exact refuse (fun good => good.2.1 conflicts) _
    have codedNow : Store.code (now.insert (.activation env.newActivation) row)
        row.activationCodeId = some code := (Store.code_insert_activation ..).trans coded
    apply Program.Ensures.write
    apply Program.Ensures.lock
    · intro missing
      cases missing.symm.trans codedNow
    · intro found here
      cases here.symm.trans codedNow
      dsimp only
      split
      · rename_i full
        exact refuse (fun good => Nat.not_le.mpr full good.2.2.1) _
      rename_i free
      apply Program.Ensures.write
      have present : Store.activation (withActivation env row code now) env.newActivation =
          some row :=
        (Store.activation_insert_code ..).trans (AList.lookup_insert _)
      refine ensures_finishActivation ?_ present (grant absent (Nat.not_lt.mp free))
      intro unissued
      exact refuse (fun good => unissued good.2.2.2)
  · intro taken present
    refine refuse (fun good => ?_) _
    cases good.1.symm.trans present

theorem Issues.of_eq (issues : Issues env licenseId rows)
    (license : now.license licenseId = rows.license licenseId)
    (token : ∀ id, now.token id = rows.token id) : Issues env licenseId now := by
  obtain ⟨⟨found, licensed, valid⟩, secret, drawn, absent, unused⟩ := issues
  refine ⟨⟨found, license.trans licensed, valid⟩, secret, drawn, (token _).trans absent, ?_⟩
  intro id row present
  exact unused id row ((token id).symm.trans present)

theorem Issues.insert_device (issues : Issues env licenseId rows) (hash : Bytes)
    (device : DeviceRow) : Issues env licenseId (rows.insert (.device hash) device) :=
  issues.of_eq (Store.license_insert_device ..) fun _ => Store.token_insert_device ..

/-- The limits and the signer allow a new activation. -/
structure Creatable (env : Environment) (request : ActivationRequest) (codeId : Uuid)
    (code : CodeRow) (licenseId : Uuid) (license : LicenseRow) (base : Store) : Prop where
  slot : code.activationCount < code.activationLimit
  slotNow : ∀ found, base.code codeId = some found → found.activationCount < found.activationLimit
  devices : base.liveOfLicense licenseId < license.deviceLimit
  signed : signLicense env request licenseId license ≠ none
  fresh : base.activation env.newActivation = none
  issues : Issues env licenseId base

/-- Without a recorded key and a live activation, the unique indexes are respected. -/
theorem not_conflicts (unrecorded : Unrecorded request codeId rows) {deviceId : Uuid}
    (unused : ∀ id row, rows.activation id = some row → row.liveFor licenseId deviceId = false) :
    ¬ rows.conflicts (activationRow request codeId licenseId deviceId blob) = true := by
  intro conflicts
  rcases of_decide_eq_true conflicts with live | recorded
  · obtain ⟨id, located⟩ := Option.isSome_iff_exists.mp live
    obtain ⟨row, present, liveFor⟩ := Store.findActivation_eq_some located
    cases liveFor.symm.trans (unused id row present)
  · change request.idempotencyKey.any _ = true at recorded
    cases keyed : request.idempotencyKey with
    | none =>
        rw [keyed] at recorded
        cases recorded
    | some key =>
        rw [keyed] at recorded
        obtain ⟨id, located⟩ := Option.isSome_iff_exists.mp recorded
        obtain ⟨row, present, sameKey⟩ := Store.findActivation_eq_some located
        cases sameKey.symm.trans (unrecorded key keyed id row present)

theorem ensures_newActivation {base : Store} {code found : CodeRow} {device : DeviceRow}
    (refuse : ¬ Creatable env request codeId code licenseId license base →
      ∀ error, post rows (.error error))
    (coded : base.code codeId = some found) (unrecorded : Unrecorded request codeId base)
    (masked : mask request.machineId ≠ none)
    (placed : Upserts base (machineHash env request) device)
    (unused : ∀ id row, base.activation id = some row → row.liveFor licenseId device.id = false)
    (grant : ∀ id row store, Obtains env request base codeId licenseId license id row store →
      row.live = true → ∀ token response, response.license = row.licenseBlob →
      response.activationId = id →
      post (store.insert (.token env.newToken) token) (.ok (.activated response))) :
    (newActivation env request codeId code licenseId license device.id).Ensures rows sequence
      (base.insert (.device (machineHash env request)) device) post := by
  let upserted : Store := base.insert (.device (machineHash env request)) device
  have sameActivation : ∀ id, upserted.activation id = base.activation id :=
    fun _ => Store.activation_insert_device ..
  unfold newActivation
  split
  · rename_i full
    exact refuse (fun good => Nat.not_lt.mpr full good.slot) _
  apply Program.Ensures.select
  split
  · rename_i full
    refine refuse (fun good => Nat.not_lt.mpr full ?_) _
    rw [Store.liveOfLicense, count_isLive_insert_of_unaccounted _ _ rfl]
    exact good.devices
  split
  · rename_i unsigned
    exact refuse (fun good => good.signed unsigned) _
  rename_i blob signed
  refine ensures_insertActivation ?_ ((Store.code_insert_device ..).trans coded) ?_
  · intro bad
    refine refuse fun good =>
      bad ⟨(sameActivation _).trans good.fresh, ?_, good.slotNow found coded, rfl, ?_⟩
    · refine not_conflicts ?_ ?_
      · intro key keyed id row present
        exact unrecorded key keyed id row ((sameActivation id).symm.trans present)
      · intro id row present
        exact unused id row ((sameActivation id).symm.trans present)
    · refine (good.issues.insert_device (machineHash env request) device).of_eq ?_ ?_
      · exact (Store.license_insert_code ..).trans (Store.license_insert_activation ..)
      · intro id
        unfold withActivation
        rw [Store.token_insert_of_ne, Store.token_insert_activation]
        intro same
        cases same
  · intro absent free
    exact grant _ _ _ (.created unrecorded masked placed ((sameActivation _).symm.trans absent)
      unused signed coded free)

/-- Nothing stands in the way of a request whose code and license are known. -/
structure Admits (env : Environment) (request : ActivationRequest) (codeId : Uuid)
    (code : CodeRow) (licenseId : Uuid) (license : LicenseRow) (rows : Store) : Prop where
  licensed : rows.license licenseId = some license
  sameProduct : license.productId = code.productId
  valid : validateLicenseState license env.now = .ok ()
  replayable : Replayable env request codeId rows
  masked : Unrecorded request codeId rows → mask request.machineId ≠ none
  device : rows.deviceHash env.newDevice = none
  issues : Issues env licenseId rows
  creatable : Unrecorded request codeId rows → ∀ device,
    Upserts rows (machineHash env request) device →
    (∀ id row, rows.activation id = some row → row.liveFor licenseId device.id = false) →
    Creatable env request codeId code licenseId license rows

theorem ensures_activateLicense {code found : CodeRow}
    (refuse : (¬ ∃ license, Admits env request codeId code licenseId license now) →
      ∀ error, post rows (.error error))
    (housed : ∀ id row, now.activation id = some row →
      ∃ hash device, now.device hash = some device ∧ device.id = row.deviceId)
    (coded : now.code codeId = some found)
    (grant : ∀ license, now.license licenseId = some license →
      license.productId = code.productId → validateLicenseState license env.now = .ok () →
      ∀ id row store, Obtains env request now codeId licenseId license id row store →
      row.live = true → ∀ token response, response.license = row.licenseBlob →
      response.activationId = id →
      post (store.insert (.token env.newToken) token) (.ok (.activated response))) :
    (activateLicense env request codeId code licenseId).Ensures rows sequence now post := by
  apply Program.Ensures.lock
  · intro absent
    refine refuse ?_ _
    rintro ⟨license, admits⟩
    cases absent.symm.trans admits.licensed
  intro license licensed
  -- what is admitted is about the license that was found
  have refuseHere : ¬ Admits env request codeId code licenseId license now →
      ∀ error, post rows (.error error) := by
    intro bad
    refine refuse ?_
    rintro ⟨other, admits⟩
    cases licensed.symm.trans admits.licensed
    exact bad admits
  dsimp only
  split
  · rename_i apart
    exact refuseHere (fun admits => apart admits.sameProduct) _
  rename_i sameProduct
  split
  · rename_i error invalid
    refine refuseHere (fun admits => ?_) _
    cases invalid.symm.trans admits.valid
  rename_i valid
  have obtained := grant license licensed (not_not.mp sameProduct) valid
  refine ensures_replayActivation ?_ housed (fun id row => obtained id row now) ?_
  · intro bad
    exact refuseHere fun admits => bad admits.replayable
  intro unrecorded
  refine ensures_upsertDevice ?_ ?_
  · intro bad
    exact refuseHere fun admits => bad ⟨admits.masked unrecorded, admits.device⟩
  intro masked device placed
  refine ensures_reuseActivation ?_ ?_ ?_
  · intro bad
    exact refuseHere fun admits => bad (admits.issues.insert_device _ device)
  · intro id row present liveFor
    have presentNow : now.activation id = some row :=
      (Store.activation_insert_device ..).symm.trans present
    exact obtained id row _ (.reused unrecorded masked placed presentNow liveFor)
  · intro unused
    have unusedNow : ∀ id row, now.activation id = some row →
        row.liveFor licenseId device.id = false := by
      intro id row present
      exact unused id row ((Store.activation_insert_device ..).trans present)
    refine ensures_newActivation ?_ coded unrecorded masked placed unusedNow obtained
    intro bad
    exact refuseHere fun admits => bad (admits.creatable unrecorded device placed unusedNow)

/-- A request goes on with the linked license of its code, or with a new one. -/
theorem ensures_withLicense {code : CodeRow} {next : Uuid → Handler}
    (coded : rows.code codeId = some code)
    (housed : ∀ id row, rows.activation id = some row →
      ∃ hash device, rows.device hash = some device ∧ device.id = row.deviceId)
    (refuse : (∀ licenseId license base, ¬ Licensed env rows codeId code licenseId license base) →
      ∀ error, post rows (.error error))
    (continues : ∀ licenseId found base, base.code codeId = some found →
      (∀ id row, base.activation id = some row →
        ∃ hash device, base.device hash = some device ∧ device.id = row.deviceId) →
      (∀ license, base.license licenseId = some license →
        Licensed env rows codeId code licenseId license base) →
      (∀ otherId license other, Licensed env rows codeId code otherId license other →
        otherId = licenseId ∧ other = base) →
      (next licenseId).Ensures rows sequence base post) :
    (withLicense env codeId code next).Ensures rows sequence rows post := by
  unfold withLicense
  split
  · rename_i licenseId linked
    refine continues licenseId code rows coded housed (fun license => .known linked) ?_
    rintro otherId license other (⟨otherLinked, -⟩ | ⟨unlinked, -⟩)
    · exact ⟨Option.some.inj (otherLinked.symm.trans linked), rfl⟩
    · cases linked.symm.trans unlinked
  rename_i unlinked
  apply Program.Ensures.lock
  · intro absent
    apply Program.Ensures.write
    have codedNow : Store.code (rows.insert (.license env.newLicense)
        (createdLicense env codeId code)) codeId = some code :=
      (Store.code_insert_license ..).trans coded
    apply Program.Ensures.lock
    · intro missing
      cases missing.symm.trans codedNow
    intro found here
    cases here.symm.trans codedNow
    apply Program.Ensures.write
    refine continues env.newLicense _ _ (AList.lookup_insert _) ?_ ?_ ?_
    · intro id row present
      rw [Store.activation_insert_code, Store.activation_insert_license] at present
      rcases housed id row present with ⟨hash, device, placed, same⟩
      refine ⟨hash, device, ?_, same⟩
      rw [Store.device_insert_code, Store.device_insert_license]
      exact placed
    · intro license present
      rw [Store.license_insert_code, Store.license_insert, if_pos rfl] at present
      cases present
      exact .created unlinked absent
    · rintro otherId license other (⟨linked, -⟩ | -)
      · cases unlinked.symm.trans linked
      · exact ⟨rfl, rfl⟩
  · intro taken present
    refine refuse (fun licenseId license base licensed => ?_) _
    cases licensed with
    | known linked => cases unlinked.symm.trans linked
    | created _ absent => cases absent.symm.trans present

/-- Nothing stands in the way of a request. -/
def Accepts (env : Environment) (request : ActivationRequest) (rows : Store) : Prop :=
  request.malformed = false ∧ env.rateLimited = false ∧
    ∃ codeId code licenseId license base,
      rows.findCode (·.redeemable (env.hashActivation request.activationCode) env.now) =
        some codeId ∧
      rows.code codeId = some code ∧ env.productCode code.productId = request.productId ∧
      Licensed env rows codeId code licenseId license base ∧
      Admits env request codeId code licenseId license base

theorem ensures_activate_of
    (refuse : ¬ Accepts env request rows → ∀ error, post rows (.error error))
    (grant : ∀ later response, Activates env request rows later response →
      post later (.ok (.activated response)))
    (detached : Detached [] [] rows) :
    (activate env request).Ensures rows sequence rows post := by
  unfold activate
  split
  · rename_i malformed
    refine refuse ?_ _
    rintro ⟨wellFormed, -⟩
    cases malformed.symm.trans wellFormed
  rename_i wellFormed
  split
  · rename_i limited
    refine refuse ?_ _
    rintro ⟨-, unlimited, -⟩
    cases limited.symm.trans unlimited
  rename_i unlimited
  apply Program.Ensures.lockWhere
  · intro missing
    refine refuse ?_ _
    rintro ⟨-, -, codeId, code, licenseId, license, base, located, coded, -⟩
    rcases Store.findCode_eq_some located with ⟨found, foundHere, redeemable⟩
    exact absurd redeemable (Bool.eq_false_iff.mp (missing codeId found located foundHere))
  intro codeId code located coded redeemable
  -- what is accepted is about the code that was found
  have refuseHere : (¬ ∃ licenseId license base,
      env.productCode code.productId = request.productId ∧
      Licensed env rows codeId code licenseId license base ∧
      Admits env request codeId code licenseId license base) →
      ∀ error, post rows (.error error) := by
    intro bad
    refine refuse ?_
    rintro ⟨-, -, otherId, other, licenseId, license, base, otherLocated, otherCoded, rest⟩
    cases located.symm.trans otherLocated
    cases coded.symm.trans otherCoded
    exact bad ⟨licenseId, license, base, rest⟩
  dsimp only
  split
  · rename_i apart
    refine refuseHere ?_ _
    rintro ⟨licenseId, license, base, product, -⟩
    exact apart product
  rename_i product
  refine ensures_withLicense coded (fun _ _ => detached.housed) ?_ ?_
  · intro none
    refine refuseHere ?_
    rintro ⟨licenseId, license, base, -, licensed, -⟩
    exact none licenseId license base licensed
  intro licenseId found base here housed licensed unique
  refine ensures_activateLicense ?_ housed here ?_
  · intro bad
    refine refuseHere ?_
    rintro ⟨otherId, license, other, -, otherLicensed, admits⟩
    rcases unique otherId license other otherLicensed with ⟨rfl, rfl⟩
    exact bad ⟨license, admits⟩
  · intro license present sameProduct valid id row store obtains live token response blob same
    subst same
    exact grant _ _ (.intro coded redeemable (not_not.mp product) (licensed license present)
      sameProduct valid obtains live blob)

/-- What a request on its own leaves and answers. -/
theorem ensures_activate (detached : Detached [] [] rows) :
    (activate env request).Ensures rows sequence rows (Outcomes env request rows) :=
  ensures_activate_of (fun _ _ => rfl) (fun _ _ => id) detached

/-- A request that nothing stands in the way of succeeds. -/
theorem succeeds_activate (detached : Detached [] [] rows) (accepts : Accepts env request rows) :
    (activate env request).Ensures rows sequence rows fun later result =>
      ∃ response, result = .ok (.activated response) ∧
        Activates env request rows later response :=
  ensures_activate_of (fun bad _ => absurd accepts bad)
    (fun _ response activates => ⟨response, rfl, activates⟩) detached

end

end YoAuthorize.Backend
