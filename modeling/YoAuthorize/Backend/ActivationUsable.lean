import YoAuthorize.Backend.LicenseTerms
import YoAuthorize.Backend.StoreEvolution

/-!
# A granted activation at the client

Every stored package is for the license and the device of its activation, in every
run.  With that the package of a granted request, new or old, is usable at once
exactly when its license begins after the epoch and expires in a later second.
-/

namespace YoAuthorize.Backend

open Octets Crypto FlatBuffer License YoAuthorize.Core Transaction

/-! ## Where the stored packages come from -/

section

variable (libraries : Libraries) (validator : LicenseValidator) (productCode : Uuid → String)
  (sha256 : Bytes → Bytes) (machines : String → Prop)

/-- A package of a definition, signed with a key that the client trusts. -/
def Trusted (definition : LicenseDefinition) (package : Bytes) : Prop :=
  ∃ keyId key, Issued libraries definition keyId key package ∧
    validator.trustedKeys (utf8 keyId) = some (libraries.dalek.verifyingKey key)

/-- The server signs with keys that the client trusts. -/
structure Signs (env : Environment) : Prop where
  productCode : env.productCode = productCode
  sha256 : env.sha256 = sha256
  signs : ∀ definition package keyId, env.sign definition = some (package, keyId) →
    Trusted libraries validator definition package

/-- The package of an activation is for its license and its device. -/
def Backs (rows : Store) (row : ActivationRow) : Prop :=
  ∃ definition license machineId device, Trusted libraries validator definition row.licenseBlob ∧
    rows.license row.licenseId = some license ∧
    definition.Describes (productCode license.productId) license machineId ∧
    machines machineId ∧ rows.device (sha256 (utf8 machineId)) = some device ∧
    device.id = row.deviceId

def Backed (rows : Store) : Prop :=
  ∀ id row, rows.activation id = some row →
    Backs libraries validator productCode sha256 machines rows row

/-- No other machine has the hash of a machine. -/
def Apart (machineId : String) : Prop :=
  ∀ other, machines other → sha256 (utf8 other) = sha256 (utf8 machineId) → other = machineId

/-- The rows of a server whose keys the client trusts. -/
structure Stocked (rows : Store) : Prop where
  kept : requestContract.Inv rows
  indexed : Indexed rows
  backed : Backed libraries validator productCode sha256 machines rows

/-- The requests that a server admits. -/
inductive Admitted : Handler → Prop
  | activate {env : Environment} {request : ActivationRequest}
      (signs : Signs libraries validator productCode sha256 env)
      (named : machines request.machineId) : Admitted (activate env request)
  | unbindDevice (time : Timestamp) (user device : Uuid) : Admitted (unbindDevice time user device)
  | adminCreateCodes (input : CodeInput) (draw : Nat → Uuid × String × Bytes) :
      Admitted (adminCreateCodes input draw)
  | adminUpdateLicense (id : Uuid) (status : String) : Admitted (adminUpdateLicense id status)

end

section

variable {libraries : Libraries} {validator : LicenseValidator} {productCode : Uuid → String}
  {sha256 : Bytes → Bytes} {machines : String → Prop} {rows later base store : Store}
  {env : Environment} {request : ActivationRequest} {codeId licenseId id : Uuid} {code : CodeRow}
  {license : LicenseRow} {row : ActivationRow} {response : ActivationResponse}

theorem Admitted.isRequest {handler : Handler}
    (admitted : Admitted libraries validator productCode sha256 machines handler) :
    IsRequest handler := by
  cases admitted with
  | activate => exact .activate _ _
  | unbindDevice time user device => exact .unbindDevice time user device
  | adminCreateCodes input draw => exact .adminCreateCodes input draw
  | adminUpdateLicense id status => exact .adminUpdateLicense id status

theorem LicenseDefinition.Describes.sameTerms {definition : LicenseDefinition} {productId : String}
    {old new : LicenseRow} {machineId : String}
    (describes : definition.Describes productId old machineId) (same : old.SameTerms new) :
    definition.Describes productId new machineId := by
  rw [show new = _ from same]
  exact ⟨describes.product, describes.notBefore, describes.expireTime, describes.licenseType,
    describes.machine⟩

theorem Backs.keeps {old new : ActivationRow}
    (backs : Backs libraries validator productCode sha256 machines rows old)
    (keeps : Keeps rows later) (becomes : old.Becomes new) :
    Backs libraries validator productCode sha256 machines later new := by
  obtain ⟨definition, license, machineId, device, trusted, licensed, describes, named, placed,
    same⟩ := backs
  obtain ⟨newLicense, newLicensed, terms⟩ := keeps.license licensed
  obtain ⟨newDevice, newPlaced, sameId⟩ := keeps.device placed
  have sameProduct : newLicense.productId = license.productId := by
    rw [show newLicense = _ from terms]
  have unchanged : new.licenseBlob = old.licenseBlob ∧ new.licenseId = old.licenseId := by
    rcases becomes with rfl | ⟨-, time, rfl⟩
    · exact ⟨rfl, rfl⟩
    · exact ⟨rfl, rfl⟩
  refine ⟨definition, newLicense, machineId, newDevice, ?_, ?_, ?_, named, newPlaced, ?_⟩
  · rw [unchanged.1]
    exact trusted
  · rw [unchanged.2]
    exact newLicensed
  · rw [sameProduct]
    exact describes.sameTerms terms
  · rw [sameId, same, becomes.deviceId]

theorem Backed.evolves (backed : Backed libraries validator productCode sha256 machines rows)
    (evolves : Evolves rows later) :
    Backed libraries validator productCode sha256 machines later := by
  intro id new present
  obtain ⟨old, here, becomes⟩ := evolves.known present
  exact (backed id old here).keeps evolves.toKeeps becomes

/-- The package that `activate` signs. -/
theorem trusted_of_signLicense (signs : Signs libraries validator productCode sha256 env)
    {package : Bytes} (signed : signLicense env request licenseId license = some package) :
    Trusted libraries validator (definition env request licenseId license) package := by
  unfold signLicense at signed
  split at signed
  · rename_i keyId publicKey blob signedKeyId _ made
    split at signed
    · cases signed
    split at signed
    · cases signed
    · cases signed
      exact signs.signs _ _ _ made
  · cases signed

theorem Licensed.activation (licensed : Licensed env rows codeId code licenseId license base)
    (id : Uuid) : base.activation id = rows.activation id := by
  cases licensed with
  | known => rfl
  | created => exact (Store.activation_insert_code ..).trans (Store.activation_insert_license ..)

theorem Licensed.device (licensed : Licensed env rows codeId code licenseId license base)
    (hash : Bytes) : base.device hash = rows.device hash := by
  cases licensed with
  | known => rfl
  | created => exact (Store.device_insert_code ..).trans (Store.device_insert_license ..)

theorem Licensed.present (licensed : Licensed env rows codeId code licenseId license base) :
    base.license licenseId = some license := by
  cases licensed with
  | known _ present => exact present
  | created => exact (Store.license_insert_code ..).trans (AList.lookup_insert _)

/-- An old activation of the license of the request is for its license row. -/
theorem Licensed.known_of_present (consistent : Consistent (fun _ => 0) rows)
    (licensed : Licensed env rows codeId code licenseId license base)
    (present : rows.activation id = some row) (ofLicense : row.licenseId = licenseId) :
    rows.license row.licenseId = some license := by
  cases licensed with
  | known _ here =>
      rw [ofLicense]
      exact here
  | created _ absent =>
      obtain ⟨found, here⟩ := consistent.licensed present
      rw [ofLicense, absent] at here
      cases here

/-- A recorded activation of a code is for the license of the code. -/
theorem Licensed.licenseId_of_recorded (consistent : Consistent (fun _ => 0) rows)
    (licensed : Licensed env rows codeId code licenseId license base)
    (coded : rows.code codeId = some code) (present : rows.activation id = some row)
    (ofCode : row.activationCodeId = codeId) : row.licenseId = licenseId := by
  obtain ⟨found, here, linked⟩ := consistent.bound present
  rw [ofCode] at here
  cases coded.symm.trans here
  cases licensed with
  | known otherLinked => exact Option.some.inj (linked.symm.trans otherLinked)
  | created unlinked => cases unlinked.symm.trans linked

/-- The machine of the package of an old activation is that of the request. -/
theorem Backed.describes (backed : Backed libraries validator productCode sha256 machines rows)
    (indexed : Indexed rows) (signs : Signs libraries validator productCode sha256 env)
    (apart : Apart sha256 machines request.machineId)
    (present : rows.activation id = some row) (licensed : rows.license row.licenseId = some license)
    (product : productCode license.productId = request.productId) {device : DeviceRow}
    (placed : rows.device (machineHash env request) = some device)
    (same : device.id = row.deviceId) :
    ∃ definition, Trusted libraries validator definition row.licenseBlob ∧
      definition.Describes request.productId license request.machineId := by
  obtain ⟨definition, found, machineId, housing, trusted, here, describes, named, housed,
    housedAt⟩ := backed id row present
  cases licensed.symm.trans here
  have sameHash := indexed.devices housed placed (housedAt.trans same.symm)
  unfold machineHash at sameHash
  rw [signs.sha256] at sameHash
  cases apart machineId named sameHash
  rw [product] at describes
  exact ⟨definition, trusted, describes⟩

theorem Upserts.placed (detached : Detached [] [] rows) {hash : Bytes} {device : DeviceRow}
    (upserts : Upserts rows hash device) (present : rows.activation id = some row)
    (same : row.deviceId = device.id) :
    ∃ old, rows.device hash = some old ∧ old.id = row.deviceId := by
  cases known : rows.device hash with
  | none =>
      obtain ⟨other, housing, housed, housedAt⟩ := detached.housed present
      exact absurd (housedAt.trans same) (upserts.fresh known other housing housed)
  | some old => exact ⟨old, rfl, (upserts.known old known).symm.trans same.symm⟩

/-- The package of a granted activation is for its license and its machine. -/
theorem Obtains.trusted (consistent : Consistent (fun _ => 0) rows) (detached : Detached [] [] rows)
    (indexed : Indexed rows) (backed : Backed libraries validator productCode sha256 machines rows)
    (signs : Signs libraries validator productCode sha256 env)
    (apart : Apart sha256 machines request.machineId)
    (coded : rows.code codeId = some code)
    (licensed : Licensed env rows codeId code licenseId license base)
    (product : productCode license.productId = request.productId)
    (obtains : Obtains env request base codeId licenseId license id row store) :
    ∃ definition, Trusted libraries validator definition row.licenseBlob ∧
      definition.Describes request.productId license request.machineId := by
  cases obtains with
  | replayed keyed present recorded placed same =>
      rw [licensed.activation] at present
      rw [licensed.device] at placed
      have ofLicense := licensed.licenseId_of_recorded consistent coded present
        (of_decide_eq_true recorded).1
      exact backed.describes indexed signs apart present
        (licensed.known_of_present consistent present ofLicense) product placed same
  | reused unrecorded _ placed present liveFor =>
      obtain ⟨-, ofLicense, ofDevice⟩ := of_decide_eq_true liveFor
      rw [licensed.activation] at present
      have upserts : Upserts rows (machineHash env request) _ :=
        ⟨fun old here => placed.known old ((licensed.device _).trans here),
          fun absent other found here => placed.fresh ((licensed.device _).trans absent) other found
            ((licensed.device _).trans here)⟩
      obtain ⟨old, here, same⟩ := upserts.placed detached present ofDevice
      exact backed.describes indexed signs apart present
        (licensed.known_of_present consistent present ofLicense) product here same
  | created _ _ _ _ _ signed =>
      exact ⟨_, trusted_of_signLicense signs signed, describes_definition⟩

/-- A new activation is backed. -/
theorem Activates.backed (indexed : Indexed rows)
    (backed : Backed libraries validator productCode sha256 machines rows)
    (signs : Signs libraries validator productCode sha256 env)
    (named : machines request.machineId) (activates : Activates env request rows later response) :
    Backed libraries validator productCode sha256 machines later := by
  have keeps := (activates.keeps indexed).1
  intro id new present
  cases here : rows.activation id with
  | some old =>
      obtain ⟨found, foundHere, becomes⟩ := keeps.activation here
      cases present.symm.trans foundHere
      exact (backed id old here).keeps keeps becomes
  | none =>
      cases activates with
      | @intro codeId licenseId code license base store row token _ coded redeemable product
          licensed sameProduct valid obtains live blob =>
          rw [Store.activation_insert_token] at present
          generalize response.activationId = activationId at obtains
          cases obtains with
          | replayed =>
              rw [licensed.activation, here] at present
              cases present
          | reused =>
              rw [Store.activation_insert_device, licensed.activation, here] at present
              cases present
          | @created device found package unrecorded masked placed absent unused signed =>
              rw [Store.activation_insert_code, Store.activation_insert] at present
              split at present
              · cases present
                refine ⟨_, license, request.machineId, device, trusted_of_signLicense signs signed,
                  ?_, ?_, named, ?_, rfl⟩
                · rw [Store.license_insert_of_unaccounted _ rfl, Store.license_insert_code,
                    Store.license_insert_activation, Store.license_insert_device]
                  exact licensed.present
                · rw [sameProduct, ← signs.productCode, product]
                  exact describes_definition
                · rw [Store.device_insert_token, Store.device_insert_code,
                    Store.device_insert_activation, Store.device_insert, if_pos]
                  unfold machineHash
                  rw [signs.sha256]
              · rw [Store.activation_insert_device, licensed.activation, here] at present
                cases present

theorem Initial.stocked (initial : Initial rows) (indexed : Indexed rows) :
    Stocked libraries validator productCode sha256 machines rows where
  kept := ⟨initial.consistent, initial.detached⟩
  indexed := indexed
  backed id row present := by
    rw [initial.activations] at present
    cases present

theorem Stocked.step (stocked : Stocked libraries validator productCode sha256 machines rows)
    {handler : Handler}
    (admitted : Admitted libraries validator productCode sha256 machines handler)
    (sequence : Nat) :
    Stocked libraries validator productCode sha256 machines (handler.run rows sequence).rows where
  kept := kept_of_run stocked.kept admitted.isRequest sequence
  indexed := (keeps_of_run stocked.kept.2 stocked.indexed admitted.isRequest sequence).2
  backed := by
    cases admitted with
    | @activate env request signs named =>
        rcases activate_cases stocked.kept.2 env request sequence with same | ⟨response, activates⟩
        · rw [same]
          exact stocked.backed
        · exact activates.backed stocked.indexed stocked.backed signs named
    | unbindDevice time user device =>
        exact stocked.backed.evolves (evolves_unbindDevice stocked.indexed time user device)
    | adminCreateCodes input draw =>
        exact stocked.backed.evolves (evolves_adminCreateCodes input draw)
    | adminUpdateLicense id status =>
        exact stocked.backed.evolves (evolves_adminUpdateLicense id status)

/-- In every run the stored packages are for the license and the device of their
activation. -/
theorem Stocked.runAll (stocked : Stocked libraries validator productCode sha256 machines rows)
    {handlers : List Handler}
    (all : ∀ handler ∈ handlers, Admitted libraries validator productCode sha256 machines handler)
    (sequence : Nat) :
    Stocked libraries validator productCode sha256 machines
      (Program.runAll handlers rows sequence).1 := by
  induction handlers generalizing rows sequence with
  | nil => exact stocked
  | cons handler handlers ih =>
      exact ih (stocked.step (all handler List.mem_cons_self) sequence)
        (fun other member => all other (List.mem_cons_of_mem handler member)) _

end

/-! ## A request that passes its checks -/

/-- The checks and the limits of `activate`. -/
structure Passes (env : Environment) (request : ActivationRequest) (rows : Store) (codeId : Uuid)
    (code : CodeRow) (licenseId : Uuid) (license : LicenseRow) (base : Store) : Prop where
  wellFormed : request.malformed = false
  unlimited : env.rateLimited = false
  located : rows.findCode (·.redeemable (env.hashActivation request.activationCode) env.now) =
    some codeId
  coded : rows.code codeId = some code
  product : env.productCode code.productId = request.productId
  licensed : Licensed env rows codeId code licenseId license base
  sameProduct : license.productId = code.productId
  valid : validateLicenseState license env.now = .ok ()
  key : ∀ key, request.idempotencyKey = some key → ∀ id row, base.activation id = some row →
    row.recordedFor codeId key = true →
    base.deviceHash row.deviceId = some (machineHash env request) ∧ row.live = true
  limits : Unrecorded request codeId base → ∀ device,
    Upserts base (machineHash env request) device →
    (∀ id row, base.activation id = some row → row.liveFor licenseId device.id = false) →
    code.activationCount < code.activationLimit ∧ base.liveOfLicense licenseId < license.deviceLimit

/-- A request that does not replay an activation names a machine that can be masked. -/
def Masked (request : ActivationRequest) (codeId : Uuid) (rows : Store) : Prop :=
  Unrecorded request codeId rows → mask request.machineId ≠ none

/-- The drawn ids and the drawn token are new. -/
structure Draws (env : Environment) (rows : Store) : Prop where
  device : ∀ hash row, rows.device hash = some row → row.id ≠ env.newDevice
  activation : rows.activation env.newActivation = none
  token : ∃ secret, env.opaqueToken = some secret ∧ TokenFree env secret rows

/-- The rows that `activate` reads respect the `CHECK`s of their tables. -/
structure Checked (env : Environment) (rows : Store) (code : CodeRow) (licenseId : Uuid) :
    Prop where
  licenses : ∀ id license, rows.license id = some license → license.Allowed
  product : TableCode (ofAscii "_-") (env.productCode code.productId)
  features : FeatureCodes (env.features licenseId)

/-- The server signs with the active key, and the client trusts it. -/
structure Serves (libraries : Libraries) (validator : LicenseValidator)
    (productCode : Uuid → String) (sha256 : Bytes → Bytes) (keyId : String) (key : Key)
    (env : Environment) : Prop where
  productCode : env.productCode = productCode
  sha256 : env.sha256 = sha256
  signingKey : env.signingKey = some (keyId, libraries.dalek.verifyingKey key)
  sign : env.sign = signer libraries keyId key
  dalek : env.dalek = libraries.dalek
  packages : env.packages = libraries.rustPackages
  payloads : env.payloads = libraries.rustPayloads
  named : keyId ≠ "" ∧ (utf8 keyId).length ≤ 255
  trusted : validator.trustedKeys (utf8 keyId) = some (libraries.dalek.verifyingKey key)

/-- The signer accepts the definition of a request, and the client accepts the package
that the request gets, both at the time of the request. -/
def UsableAtOnce (libraries : Libraries) (validator : LicenseValidator) (env : Environment)
    (request : ActivationRequest) (licenseId : Uuid) (license : LicenseRow)
    (result : Except ApiError Response) : Prop :=
  validate (definition env request licenseId license) = .ok () ∧
    ∃ response, result = .ok (.activated response) ∧
      ∃ snapshot, validator.validate libraries.packages libraries.payloads libraries.ssl
        response.license (utf8 request.productId) (utf8 request.machineId) (seconds env.now) =
          .ok snapshot

section

variable {libraries : Libraries} {validator : LicenseValidator} {productCode : Uuid → String}
  {sha256 : Bytes → Bytes} {machines : String → Prop} {keyId : String} {key : Key}
  {rows later base : Store} {env : Environment} {request : ActivationRequest}
  {codeId licenseId : Uuid} {code : CodeRow} {license : LicenseRow}
  {response : ActivationResponse}

theorem Serves.signs (serves : Serves libraries validator productCode sha256 keyId key env) :
    Signs libraries validator productCode sha256 env where
  productCode := serves.productCode
  sha256 := serves.sha256
  signs definition package signedKeyId signed := by
    rw [serves.sign] at signed
    unfold signer at signed
    split at signed
    · rename_i blob generated
      cases signed
      exact ⟨keyId, key, issued_of_generate generated, serves.trusted⟩
    · cases signed

/-- A definition that the signer accepts is signed and verified. -/
theorem Serves.signLicense_ne_none (interoperable : libraries.Interoperable)
    (serves : Serves libraries validator productCode sha256 keyId key env)
    (accepted : validate (definition env request licenseId license) = .ok ()) :
    signLicense env request licenseId license ≠ none := by
  have keyIdFits : keyId ≠ "" ∧ (utf8 keyId).length ≤ uint16Max :=
    ⟨serves.named.1, serves.named.2.trans (by decide)⟩
  obtain ⟨package, generated⟩ := generate_of_validate interoperable accepted keyIdFits key
  have signed : env.sign (definition env request licenseId license) = some (package, keyId) := by
    rw [serves.sign]
    unfold signer
    rw [generated]
  unfold signLicense
  rw [serves.signingKey, signed, serves.dalek, serves.packages, serves.payloads]
  dsimp only
  rw [verify_issued interoperable (issued_of_generate generated), if_neg (not_not.mpr rfl)]
  nofun

theorem Licensed.token (licensed : Licensed env rows codeId code licenseId license base)
    (id : Uuid) : base.token id = rows.token id := by
  cases licensed with
  | known => rfl
  | created =>
      rw [Store.token_insert_of_ne, Store.token_insert_of_ne]
      · nofun
      · nofun

/-- The code of a license keeps its count and its limit. -/
theorem Licensed.slots (licensed : Licensed env rows codeId code licenseId license base)
    (coded : rows.code codeId = some code) {found : CodeRow}
    (here : base.code codeId = some found) :
    found.activationCount = code.activationCount ∧
      found.activationLimit = code.activationLimit := by
  cases licensed with
  | known =>
      cases coded.symm.trans here
      exact ⟨rfl, rfl⟩
  | created =>
      rw [Store.code_insert, if_pos rfl] at here
      cases here
      exact ⟨rfl, rfl⟩

theorem Licensed.unique (licensed : Licensed env rows codeId code licenseId license base)
    {otherId : Uuid} {other : LicenseRow} {otherBase : Store}
    (otherLicensed : Licensed env rows codeId code otherId other otherBase) :
    otherId = licenseId ∧ other = license ∧ otherBase = base := by
  cases licensed with
  | known linked present =>
      cases otherLicensed with
      | known otherLinked otherPresent =>
          cases linked.symm.trans otherLinked
          cases present.symm.trans otherPresent
          exact ⟨rfl, rfl, rfl⟩
      | created unlinked => cases linked.symm.trans unlinked
  | created unlinked =>
      cases otherLicensed with
      | known linked => cases unlinked.symm.trans linked
      | created => exact ⟨rfl, rfl, rfl⟩

theorem Licensed.unrecorded (licensed : Licensed env rows codeId code licenseId license base)
    (unrecorded : Unrecorded request codeId base) : Unrecorded request codeId rows := by
  intro key keyed id row present
  exact unrecorded key keyed id row ((licensed.activation id).trans present)

/-- A license that is created for a code is allowed too. -/
theorem Licensed.allowed (licensed : Licensed env rows codeId code licenseId license base)
    (licenses : ∀ id license, rows.license id = some license → license.Allowed)
    (range : Timestamp.InRange env.now) : license.Allowed := by
  cases licensed with
  | known _ present => exact licenses _ _ present
  | created =>
      exact
        { permanent := fun _ => rfl
          expiring := fun expires => absurd rfl expires
          maxSessions := (by decide : 0 < 1 ∧ 1 ≤ 10000)
          begins := range
          ends := nofun }

/-- A request that passes its checks, with a machine that can be masked and a license that
can be signed, is accepted. -/
theorem Passes.accepts (kept : requestContract.Inv rows)
    (passes : Passes env request rows codeId code licenseId license base)
    (masked : Masked request codeId rows) (draws : Draws env rows) (instant : env.clock = env.now)
    (signed : signLicense env request licenseId license ≠ none) :
    Accepts env request rows := by
  obtain ⟨secret, drawn, absent, unused⟩ := draws.token
  have licensed := passes.licensed
  have issues : Issues env licenseId base := by
    refine ⟨⟨license, licensed.present, ?_⟩, secret, drawn, (licensed.token _).trans absent, ?_⟩
    · rw [instant]
      exact passes.valid
    · intro id token present
      exact unused id token ((licensed.token id).symm.trans present)
  have admits : Admits env request codeId code licenseId license base :=
    { licensed := licensed.present
      sameProduct := passes.sameProduct
      valid := passes.valid
      replayable := by
        intro key keyed id row present recorded
        have ofLicense := licensed.licenseId_of_recorded kept.1 passes.coded
          ((licensed.activation id).symm.trans present) (of_decide_eq_true recorded).1
        obtain ⟨housed, live⟩ := passes.key key keyed id row present recorded
        rw [ofLicense]
        exact ⟨housed, live, issues⟩
      masked := fun unrecorded => masked (licensed.unrecorded unrecorded)
      device := by
        cases housed : Store.deviceHash base env.newDevice with
        | none => rfl
        | some hash =>
            obtain ⟨device, placed, same⟩ := Store.deviceHash_eq_some housed
            exact absurd same (draws.device hash device ((licensed.device hash).symm.trans placed))
      issues := issues
      creatable := by
        intro unrecorded device placed free
        obtain ⟨slot, devices⟩ := passes.limits unrecorded device placed free
        refine ⟨slot, ?_, devices, signed, (licensed.activation _).trans draws.activation, issues⟩
        intro found here
        obtain ⟨sameCount, sameLimit⟩ := licensed.slots passes.coded here
        rw [sameCount, sameLimit]
        exact slot }
  exact ⟨passes.wellFormed, passes.unlimited, codeId, code, licenseId, license, base,
    passes.located, passes.coded, passes.product, licensed, admits⟩

/-- The code that a request succeeds with is the one that its checks have found. -/
theorem Passes.found (indexed : Indexed rows)
    (passes : Passes env request rows codeId code licenseId license base) {foundId : Uuid}
    {found : CodeRow} (coded : rows.code foundId = some found)
    (redeemable : found.redeemable (env.hashActivation request.activationCode) env.now = true) :
    codeId = foundId ∧ code = found := by
  obtain ⟨other, here, matching⟩ := Store.findCode_eq_some passes.located
  cases indexed.codes coded here
    ((of_decide_eq_true redeemable).1.trans (of_decide_eq_true matching).1.symm)
  exact ⟨rfl, Option.some.inj (passes.coded.symm.trans coded)⟩

/-- A request that succeeds without a replay has masked its machine. -/
theorem Passes.masked (indexed : Indexed rows)
    (passes : Passes env request rows codeId code licenseId license base)
    (activates : Activates env request rows later response) : Masked request codeId rows := by
  intro unrecorded
  cases activates with
  | intro coded redeemable product licensed sameProduct valid obtains live blob =>
      obtain ⟨rfl, rfl⟩ := passes.found indexed coded redeemable
      generalize response.activationId = activationId at obtains
      cases obtains with
      | replayed keyed present recorded =>
          rw [licensed.activation] at present
          exact absurd recorded (Bool.eq_false_iff.mp (unrecorded _ keyed _ _ present))
      | reused _ masked => exact masked
      | created _ masked => exact masked

/-- When the client accepts the package of a request that succeeds. -/
theorem Passes.validates_iff (interoperable : libraries.Interoperable)
    (stocked : Stocked libraries validator productCode sha256 machines rows)
    (serves : Serves libraries validator productCode sha256 keyId key env)
    (apart : Apart sha256 machines request.machineId)
    (allowed : license.Allowed) (range : Timestamp.InRange env.now) (after : 0 ≤ env.now)
    (passes : Passes env request rows codeId code licenseId license base)
    (activates : Activates env request rows later response) :
    (∃ snapshot, validator.validate libraries.packages libraries.payloads libraries.ssl
        response.license (utf8 request.productId) (utf8 request.machineId) (seconds env.now) =
          .ok snapshot) ↔ license.UsableAt env.now := by
  cases activates with
  | intro coded redeemable product licensed sameProduct valid obtains live blob =>
      obtain ⟨rfl, rfl⟩ := passes.found stocked.indexed coded redeemable
      obtain ⟨rfl, rfl, rfl⟩ := licensed.unique passes.licensed
      have ofProduct : productCode license.productId = request.productId := by
        rw [← serves.productCode, ← product, ← sameProduct]
      obtain ⟨definition, ⟨signedKeyId, signedKey, issued, trusted⟩, describes⟩ :=
        obtains.trusted stocked.kept.1 stocked.kept.2 stocked.indexed stocked.backed serves.signs
          apart coded licensed ofProduct
      rw [blob, ← usable_iff_usableAt allowed range after valid describes]
      constructor
      · rintro ⟨snapshot, accepted⟩
        exact ((validate_issued interoperable issued trusted).mp accepted).1
      · intro usable
        exact ⟨_, (validate_issued interoperable issued trusted).mpr ⟨usable, rfl⟩⟩

/-- What a request that is usable at once has had. -/
theorem Passes.usableAt (interoperable : libraries.Interoperable)
    (stocked : Stocked libraries validator productCode sha256 machines rows)
    (serves : Serves libraries validator productCode sha256 keyId key env)
    (apart : Apart sha256 machines request.machineId)
    (allowed : license.Allowed) (range : Timestamp.InRange env.now) (after : 0 ≤ env.now)
    (passes : Passes env request rows codeId code licenseId license base) {sequence : Nat}
    (usable : UsableAtOnce libraries validator env request licenseId license
      ((activate env request).run rows sequence).result) :
    license.UsableAt env.now ∧ Masked request codeId rows := by
  obtain ⟨-, response, granted, validated⟩ := usable
  have activates := activates_of_run stocked.kept.2 granted
  have usableAt := (passes.validates_iff interoperable stocked serves apart allowed range after
    activates).mp validated
  exact ⟨usableAt, passes.masked stocked.indexed activates⟩

end

def expiringLicense (expiresAt : Timestamp) : LicenseRow where
  productId := referenceUuid 1
  licenseType := .subscription
  notBefore := 10000000
  expiresAt := some expiresAt
  deviceLimit := 3

def expiringStore (expiresAt : Timestamp) : Store :=
  (∅ : Store).insert (.license (referenceUuid 3)) (expiringLicense expiresAt)

/-- The store after a code is created for the license. -/
def expiringRows (expiresAt : Timestamp) : Store :=
  (Program.runAll [ownedCodes] (expiringStore expiresAt) 0).1

def expiringCode : CodeRow where
  productId := referenceUuid 1
  licenseId := some (referenceUuid 3)
  codeHash := utf8 "YA-1"
  activationLimit := 3

def referenceValidator : LicenseValidator where
  trustedKeys id := if id = utf8 "key-1" then some (.zeros kKeySize) else none

section

variable {expiresAt : Timestamp}

theorem expiringRows_eq : expiringRows expiresAt =
    (expiringStore expiresAt).insert (.code (referenceUuid 2)) expiringCode := rfl

theorem expiringStore_initial : Initial (expiringStore expiresAt) := by
  refine ⟨fun id => Store.code_insert_license .., fun id => Store.activation_insert_license .., ?_⟩
  intro id license present
  rw [expiringStore, Store.license_insert] at present
  split at present
  · cases present
    rfl
  · cases present

theorem expiringStore_indexed : Indexed (expiringStore expiresAt) where
  keys present := by
    rw [expiringStore_initial.activations] at present
    cases present
  devices present := by
    rw [expiringStore, Store.device_insert_license] at present
    cases present
  codes present := by
    rw [expiringStore_initial.codes] at present
    cases present

theorem ownedCodes_admitted {libraries : Libraries} {validator : LicenseValidator}
    {productCode : Uuid → String} {sha256 : Bytes → Bytes} {machines : String → Prop} :
    ∀ handler ∈ [ownedCodes], Admitted libraries validator productCode sha256 machines handler := by
  intro handler member
  rw [List.mem_singleton.mp member]
  exact .adminCreateCodes _ _

theorem expiringRows_activation (id : Uuid) : (expiringRows expiresAt).activation id = none := by
  rw [expiringRows_eq, Store.activation_insert_code, expiringStore_initial.activations]

theorem expiringRows_license :
    (expiringRows expiresAt).license (referenceUuid 3) = some (expiringLicense expiresAt) := by
  rw [expiringRows_eq, Store.license_insert_code]
  exact AList.lookup_insert _

theorem referenceEnvironment_draws : Draws (referenceEnvironment 0) (expiringRows expiresAt) where
  device hash row present := by
    rw [expiringRows_eq, Store.device_insert_code, expiringStore, Store.device_insert_license]
      at present
    cases present
  activation := expiringRows_activation _
  token := by
    refine ⟨"a", rfl, rfl, ?_⟩
    intro id token present
    have absent : (expiringRows expiresAt).token id = none := rfl
    cases absent.symm.trans present

theorem expiringLicense_allowed (range : Timestamp.InRange expiresAt)
    (later : (15000000 : Timestamp) < expiresAt) : (expiringLicense expiresAt).Allowed where
  permanent := nofun
  expiring _ := ⟨expiresAt, rfl, Int.lt_trans (by decide : (10000000 : Int) < 15000000) later⟩
  maxSessions := (by decide : 0 < 1 ∧ 1 ≤ 10000)
  begins := (⟨by decide, by decide⟩ : Timestamp.InRange 10000000)
  ends _ expires := by
    cases expires
    exact range

theorem expiringRows_checked (range : Timestamp.InRange expiresAt)
    (later : (15000000 : Timestamp) < expiresAt) :
    Checked (referenceEnvironment 0) (expiringRows expiresAt) expiringCode (referenceUuid 3) where
  licenses id license present := by
    rw [expiringRows_eq, Store.license_insert_code, expiringStore, Store.license_insert] at present
    split at present
    · cases present
      exact expiringLicense_allowed range later
    · cases present
  product := ⟨by decide, by decide, by decide +kernel⟩
  features := by
    refine ⟨by decide, ?_⟩
    intro feature member
    rw [List.mem_singleton.mp member]
    exact ⟨by decide, by decide, by decide +kernel⟩

/-- Until the license expires, every machine can be activated. -/
theorem expiringRows_passes (later : (15000000 : Timestamp) < expiresAt) :
    Passes (referenceEnvironment 0) (referenceActivation "machine-1" none)
      (expiringRows expiresAt) (referenceUuid 2) expiringCode (referenceUuid 3)
      (expiringLicense expiresAt) (expiringRows expiresAt) where
  wellFormed := by decide
  unlimited := rfl
  located := rfl
  coded := rfl
  product := rfl
  licensed := .known rfl expiringRows_license
  sameProduct := rfl
  valid := by
    refine valid_iff.mpr ⟨rfl, (by decide : (10000000 : Int) ≤ 15000000), ?_⟩
    intro found expires
    cases expires
    exact later
  key := nofun
  limits := by
    intro _ device _ _
    exact ⟨by decide, (by decide : 0 < 3)⟩

theorem referenceEnvironment_serves :
    Serves referenceLibraries referenceValidator (fun _ => "product-qt") id "key-1"
      (.zeros kKeySize) (referenceEnvironment 0) where
  productCode := rfl
  sha256 := rfl
  signingKey := rfl
  sign := rfl
  dalek := rfl
  packages := rfl
  payloads := rfl
  named := by decide
  trusted := rfl

end

/-- Five characters of three bytes: the fourth byte is inside of the second one. -/
example : ((activate (referenceEnvironment 0)
    (referenceActivation "\u673a\u5668\u7f16\u53f7\u4e00" none)).run (expiringRows 20500000)
      0).result = .error .panicked := by
  decide +kernel

end YoAuthorize.Backend
