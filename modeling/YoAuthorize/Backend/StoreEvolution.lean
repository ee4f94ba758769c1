import YoAuthorize.Backend.ActivationOutcome

/-!
# The store from request to request

What a request that runs on its own keeps of the rows before it: activations
change only when they are unbound, devices keep their ids, codes their hashes
and licenses their terms, and the unique indexes of the tables hold.  Only
`activate` adds activations.
-/

namespace YoAuthorize.Backend

open Octets Crypto FlatBuffer License Transaction

/-- A license whose status may have changed. -/
def LicenseRow.SameTerms (old new : LicenseRow) : Prop :=
  new = { old with status := new.status }

structure Keeps (rows later : Store) : Prop where
  activation : ∀ {id : Uuid} {old : ActivationRow}, rows.activation id = some old →
    ∃ new, later.activation id = some new ∧ old.Becomes new
  device : ∀ {hash : Bytes} {old : DeviceRow}, rows.device hash = some old →
    ∃ new, later.device hash = some new ∧ new.id = old.id
  code : ∀ {id : Uuid} {old : CodeRow}, rows.code id = some old →
    ∃ new, later.code id = some new ∧ new.codeHash = old.codeHash
  license : ∀ {id : Uuid} {old : LicenseRow}, rows.license id = some old →
    ∃ new, later.license id = some new ∧ old.SameTerms new

/-- The unique indexes of the tables. -/
structure Indexed (rows : Store) : Prop where
  keys : ∀ {left right codeId : Uuid} {leftRow rightRow : ActivationRow} {key : String},
    rows.activation left = some leftRow → rows.activation right = some rightRow →
    leftRow.recordedFor codeId key = true → rightRow.recordedFor codeId key = true → left = right
  devices : ∀ {left right : Bytes} {leftRow rightRow : DeviceRow},
    rows.device left = some leftRow → rows.device right = some rightRow →
    leftRow.id = rightRow.id → left = right
  codes : ∀ {left right : Uuid} {leftRow rightRow : CodeRow},
    rows.code left = some leftRow → rows.code right = some rightRow →
    leftRow.codeHash = rightRow.codeHash → left = right

/-- A change that adds no activation and respects the indexes. -/
structure Evolves (rows later : Store) : Prop extends Keeps rows later where
  known : ∀ {id : Uuid} {new : ActivationRow}, later.activation id = some new →
    ∃ old, rows.activation id = some old ∧ old.Becomes new
  indexed : Indexed rows → Indexed later

section

variable {rows later last : Store}

theorem Keeps.refl (rows : Store) : Keeps rows rows where
  activation present := ⟨_, present, .refl _⟩
  device present := ⟨_, present, rfl⟩
  code present := ⟨_, present, rfl⟩
  license present := ⟨_, present, rfl⟩

theorem LicenseRow.SameTerms.trans {old new newer : LicenseRow} (first : old.SameTerms new)
    (second : new.SameTerms newer) : old.SameTerms newer := by
  unfold LicenseRow.SameTerms at first second ⊢
  rw [first] at second
  exact second

/-- What is kept by one change after the other is kept by both. -/
theorem Keeps.trans (first : Keeps rows later) (second : Keeps later last) : Keeps rows last where
  activation present := by
    rcases first.activation present with ⟨middle, here, becomes⟩
    rcases second.activation here with ⟨new, found, again⟩
    exact ⟨new, found, becomes.trans again⟩
  device present := by
    rcases first.device present with ⟨middle, here, same⟩
    rcases second.device here with ⟨new, found, again⟩
    exact ⟨new, found, again.trans same⟩
  code present := by
    rcases first.code present with ⟨middle, here, same⟩
    rcases second.code here with ⟨new, found, again⟩
    exact ⟨new, found, again.trans same⟩
  license present := by
    rcases first.license present with ⟨middle, here, same⟩
    rcases second.license here with ⟨new, found, again⟩
    exact ⟨new, found, same.trans again⟩

/-- Equal rows of the four tables. -/
theorem keeps_of_eq (activation : ∀ id, later.activation id = rows.activation id)
    (device : ∀ hash, later.device hash = rows.device hash)
    (code : ∀ id, later.code id = rows.code id)
    (license : ∀ id, later.license id = rows.license id) : Keeps rows later where
  activation present := ⟨_, (activation _).trans present, .refl _⟩
  device present := ⟨_, (device _).trans present, rfl⟩
  code present := ⟨_, (code _).trans present, rfl⟩
  license present := ⟨_, (license _).trans present, rfl⟩

theorem Indexed.of_eq (indexed : Indexed rows)
    (activation : ∀ id, later.activation id = rows.activation id)
    (device : ∀ hash, later.device hash = rows.device hash)
    (code : ∀ id, later.code id = rows.code id) : Indexed later where
  keys left right := indexed.keys ((activation _).symm.trans left) ((activation _).symm.trans right)
  devices left right := indexed.devices ((device _).symm.trans left) ((device _).symm.trans right)
  codes left right := indexed.codes ((code _).symm.trans left) ((code _).symm.trans right)

end

/-! ## Writes -/

namespace Evolves

variable {rows later last : Store}

theorem refl (rows : Store) : Evolves rows rows where
  toKeeps := .refl rows
  known present := ⟨_, present, .refl _⟩
  indexed := id

theorem trans (first : Evolves rows later) (second : Evolves later last) : Evolves rows last where
  toKeeps := first.toKeeps.trans second.toKeeps
  known present := by
    rcases second.known present with ⟨middle, here, again⟩
    rcases first.known here with ⟨old, found, becomes⟩
    exact ⟨old, found, becomes.trans again⟩
  indexed := second.indexed ∘ first.indexed

theorem insert_token (id : Uuid) (row : TokenRow) :
    Evolves rows (rows.insert (.token id) row) where
  toKeeps := keeps_of_eq (fun _ => Store.activation_insert_token ..)
    (fun _ => Store.device_insert_token ..) (fun _ => AList.lookup_insert_ne nofun)
    (fun _ => AList.lookup_insert_ne nofun)
  known present := ⟨_, (Store.activation_insert_token ..).symm.trans present, .refl _⟩
  indexed indexed := indexed.of_eq (fun _ => Store.activation_insert_token ..)
    (fun _ => Store.device_insert_token ..) (fun _ => AList.lookup_insert_ne nofun)

theorem insert_event (number : Nat) (row : EventRow) :
    Evolves rows (rows.insert (.event number) row) where
  toKeeps := keeps_of_eq (fun _ => Store.activation_insert_event ..)
    (fun _ => Store.device_insert_event ..) (fun _ => AList.lookup_insert_ne nofun)
    (fun _ => AList.lookup_insert_ne nofun)
  known present := ⟨_, (Store.activation_insert_event ..).symm.trans present, .refl _⟩
  indexed indexed := indexed.of_eq (fun _ => Store.activation_insert_event ..)
    (fun _ => Store.device_insert_event ..) (fun _ => AList.lookup_insert_ne nofun)

/-- A new license, or one whose status changes. -/
theorem insert_license {id : Uuid} (row : LicenseRow)
    (terms : ∀ old, rows.license id = some old → old.SameTerms row) :
    Evolves rows (rows.insert (.license id) row) where
  activation here := ⟨_, (Store.activation_insert_license ..).trans here, .refl _⟩
  device here := ⟨_, (Store.device_insert_license ..).trans here, rfl⟩
  code here := ⟨_, (Store.code_insert_license ..).trans here, rfl⟩
  license {other old} here := by
    rw [Store.license_insert]
    split
    · rename_i equal
      subst equal
      exact ⟨row, rfl, terms old here⟩
    · exact ⟨old, here, rfl⟩
  known present := ⟨_, (Store.activation_insert_license ..).symm.trans present, .refl _⟩
  indexed indexed := indexed.of_eq (fun _ => Store.activation_insert_license ..)
    (fun _ => Store.device_insert_license ..) (fun _ => Store.code_insert_license ..)

/-- A code whose hash is its old one or nobody else's. -/
theorem insert_code {id : Uuid} (row : CodeRow)
    (same : ∀ old, rows.code id = some old → row.codeHash = old.codeHash)
    (unused : ∀ other found, rows.code other = some found → found.codeHash = row.codeHash →
      other = id) : Evolves rows (rows.insert (.code id) row) where
  activation here := ⟨_, (Store.activation_insert_code ..).trans here, .refl _⟩
  device here := ⟨_, (Store.device_insert_code ..).trans here, rfl⟩
  code {other found} here := by
    rw [Store.code_insert]
    split
    · rename_i equal
      subst equal
      exact ⟨row, rfl, same found here⟩
    · exact ⟨found, here, rfl⟩
  license here := ⟨_, (Store.license_insert_code ..).trans here, rfl⟩
  known present := ⟨_, (Store.activation_insert_code ..).symm.trans present, .refl _⟩
  indexed indexed :=
    { keys := fun left right => indexed.keys ((Store.activation_insert_code ..).symm.trans left)
        ((Store.activation_insert_code ..).symm.trans right)
      devices := fun left right => indexed.devices ((Store.device_insert_code ..).symm.trans left)
        ((Store.device_insert_code ..).symm.trans right)
      codes := by
        intro left right leftRow rightRow leftHere rightHere equal
        rw [Store.code_insert] at leftHere rightHere
        split at leftHere
        · rename_i leftSame
          cases leftHere
          split at rightHere
          · rename_i rightSame
            exact leftSame.trans rightSame.symm
          · exact leftSame.trans (unused right rightRow rightHere equal.symm).symm
        · split at rightHere
          · rename_i rightSame
            cases rightHere
            exact (unused left leftRow leftHere equal).trans rightSame.symm
          · exact indexed.codes leftHere rightHere equal }

/-- A code that keeps its hash. -/
theorem update_code (indexed : Indexed rows) {id : Uuid} {old : CodeRow} (row : CodeRow)
    (present : rows.code id = some old) (same : row.codeHash = old.codeHash) :
    Evolves rows (rows.insert (.code id) row) := by
  refine insert_code row ?_ ?_
  · intro found here
    cases present.symm.trans here
    exact same
  · intro other found here equal
    exact indexed.codes here present (equal.trans same)

theorem unbind {id : Uuid} {old : ActivationRow} (present : rows.activation id = some old)
    (live : old.live = true) (time : Timestamp) :
    Evolves rows (rows.insert (.activation id) { old with unboundAt := some time }) := by
  have known : ∀ {other : Uuid} {new : ActivationRow},
      Store.activation (rows.insert (.activation id) { old with unboundAt := some time }) other =
        some new → ∃ before, rows.activation other = some before ∧ before.Becomes new := by
    intro other new here
    rw [Store.activation_insert] at here
    split at here
    · rename_i equal
      subst equal
      cases here
      exact ⟨old, present, .inr ⟨live, time, rfl⟩⟩
    · exact ⟨new, here, .refl new⟩
  refine
    { activation := ?_
      device := fun here => ⟨_, (Store.device_insert_activation ..).trans here, rfl⟩
      code := fun here => ⟨_, (Store.code_insert_activation ..).trans here, rfl⟩
      license := fun here => ⟨_, (Store.license_insert_activation ..).trans here, rfl⟩
      known := known
      indexed := ?_ }
  · intro other row here
    rw [Store.activation_insert]
    split
    · rename_i equal
      subst equal
      cases present.symm.trans here
      exact ⟨_, rfl, .inr ⟨live, time, rfl⟩⟩
    · exact ⟨row, here, .refl row⟩
  · intro indexed
    refine
      { keys := ?_
        devices := fun left right =>
          indexed.devices ((Store.device_insert_activation ..).symm.trans left)
            ((Store.device_insert_activation ..).symm.trans right)
        codes := fun left right =>
          indexed.codes ((Store.code_insert_activation ..).symm.trans left)
            ((Store.code_insert_activation ..).symm.trans right) }
    intro left right codeId leftRow rightRow key leftHere rightHere leftRecorded rightRecorded
    rcases known leftHere with ⟨_, leftOld, leftBecomes⟩
    rcases known rightHere with ⟨_, rightOld, rightBecomes⟩
    rw [leftBecomes.recordedFor] at leftRecorded
    rw [rightBecomes.recordedFor] at rightRecorded
    exact indexed.keys leftOld rightOld leftRecorded rightRecorded

end Evolves

/-! ## The requests that make no activation -/

/-- What a request leaves that makes no activation. -/
def Leaves (rows later : Store) (_ : Except ApiError Response) : Prop := Evolves rows later

section

variable {rows now : Store} {sequence : Nat}

theorem leaves_refused (error : ApiError) : Leaves rows rows (.error error) := .refl rows

theorem evolves_revokeTokens {time : Timestamp} {activationId : Uuid} {next : Handler}
    (continues : ∀ {now : Store}, Evolves rows now →
      next.Ensures rows sequence now (Leaves rows)) (tokens : List Uuid)
    (evolves : Evolves rows now) :
    (revokeTokens time activationId next tokens).Ensures rows sequence now (Leaves rows) := by
  induction tokens generalizing now with
  | nil => exact continues evolves
  | cons tokenId tokens ih =>
      apply Program.Ensures.lock
      · intro absent
        exact ih evolves
      · intro token present
        dsimp only
        split
        · apply Program.Ensures.write
          exact ih (evolves.trans (.insert_token tokenId _))
        · exact ih evolves

theorem evolves_releaseActivations (indexed : Indexed rows) {time : Timestamp} {device : Uuid}
    (unbound : List (Uuid × Uuid)) (evolves : Evolves rows now) :
    (releaseActivations time device unbound).Ensures rows sequence now (Leaves rows) := by
  induction unbound generalizing now sequence with
  | nil => exact evolves
  | cons entry unbound ih =>
      obtain ⟨activationId, codeId⟩ := entry
      apply Program.Ensures.select
      refine evolves_revokeTokens ?_ _ evolves
      intro now evolves
      apply Program.Ensures.lock
      · intro absent
        apply Program.Ensures.insertNext (leaves_refused _)
        exact ih (evolves.trans (.insert_event _ _))
      · intro code present
        dsimp only
        split
        · exact leaves_refused _
        · apply Program.Ensures.write
          apply Program.Ensures.insertNext (leaves_refused _)
          have counted : Evolves rows (now.insert (.code codeId)
              { code with activationCount := code.activationCount - 1 }) :=
            evolves.trans (.update_code (evolves.indexed indexed) _ present rfl)
          exact ih (counted.trans (.insert_event _ _))

theorem evolves_unbindActivations (indexed : Indexed rows) {time : Timestamp} {device : Uuid}
    {test : ActivationRow → Bool} (live : ∀ row, test row = true → row.live = true)
    (unbound : List (Uuid × Uuid)) (activations : List Uuid) (evolves : Evolves rows now) :
    (unbindActivations time device test unbound activations).Ensures rows sequence now
      (Leaves rows) := by
  induction activations generalizing now unbound with
  | nil =>
      unfold unbindActivations
      split
      · exact leaves_refused _
      · exact evolves_releaseActivations indexed unbound evolves
  | cons activationId activations ih =>
      apply Program.Ensures.lock
      · intro absent
        exact ih unbound evolves
      · intro row present
        dsimp only
        split
        · rename_i accepted
          apply Program.Ensures.write
          exact ih _ (evolves.trans (.unbind present (live row accepted) time))
        · exact ih unbound evolves

theorem evolves_insertCodes {code : Bytes → CodeRow} (hashed : ∀ hash, (code hash).codeHash = hash)
    (made : List String) (drawn : List (Uuid × String × Bytes)) (evolves : Evolves rows now) :
    (insertCodes code made drawn).Ensures rows sequence now (Leaves rows) := by
  induction drawn generalizing now made with
  | nil => exact evolves
  | cons entry drawn ih =>
      obtain ⟨codeId, raw, codeHash⟩ := entry
      apply Program.Ensures.lock
      · intro absent
        apply Program.Ensures.select
        split
        · exact leaves_refused _
        rename_i unused
        apply Program.Ensures.write
        refine ih _ (evolves.trans (.insert_code (code codeHash) ?_ ?_))
        · intro old present
          cases absent.symm.trans present
        · intro other found present same
          rw [hashed] at same
          have hidden := Option.not_isSome_iff_eq_none.mp unused
          rw [Store.findCode, Option.map_eq_none_iff, List.find?_eq_none] at hidden
          exact absurd (decide_eq_true same) (hidden (other, found) (Store.mem_codes.mpr present))
      · intro taken present
        exact leaves_refused _

theorem evolves_insertEvents (topic : Topic) (licenseId : Uuid) (activations : List Uuid)
    (evolves : Evolves rows now) :
    (insertEvents topic licenseId activations).Ensures rows sequence now (Leaves rows) := by
  induction activations generalizing now sequence with
  | nil => exact evolves
  | cons activationId activations ih =>
      apply Program.Ensures.insertNext (leaves_refused _)
      exact ih (evolves.trans (.insert_event _ _))

/-- A run of `unbind_device` evolves the store. -/
theorem evolves_unbindDevice (indexed : Indexed rows) (time : Timestamp) (user device : Uuid) :
    (unbindDevice time user device).Ensures rows sequence rows (Leaves rows) := by
  apply Program.Ensures.select
  refine evolves_unbindActivations indexed ?_ [] _ (.refl rows)
  intro row accepted
  exact (of_decide_eq_true accepted).2.1

theorem evolves_adminCreateCodes (input : CodeInput) (draw : Nat → Uuid × String × Bytes) :
    (adminCreateCodes input draw).Ensures rows sequence rows (Leaves rows) := by
  unfold adminCreateCodes
  dsimp only
  split
  · exact leaves_refused _
  split
  · exact leaves_refused _
  apply Program.Ensures.select
  split
  · exact evolves_insertCodes (fun _ => rfl) [] _ (.refl rows)
  · exact leaves_refused _

theorem evolves_adminUpdateLicense (id : Uuid) (status : String) :
    (adminUpdateLicense id status).Ensures rows sequence rows (Leaves rows) := by
  unfold adminUpdateLicense
  split
  · exact leaves_refused _
  apply Program.Ensures.lock
  · intro absent
    apply Program.Ensures.select
    exact evolves_insertEvents _ id _ (.refl rows)
  · intro license present
    apply Program.Ensures.write
    apply Program.Ensures.select
    refine evolves_insertEvents _ id _ (.insert_license _ ?_)
    intro old here
    cases (show rows.license id = some license from present).symm.trans here
    rfl

end

/-! ## `activate` on its own -/

section

variable {rows later : Store} {env : Environment} {request : ActivationRequest}
  {codeId licenseId id : Uuid} {code : CodeRow} {license : LicenseRow} {base store : Store}
    {row : ActivationRow}
  {device : DeviceRow} {hash : Bytes} {response : ActivationResponse}

theorem Licensed.evolves (licensed : Licensed env rows codeId code licenseId license base)
    (coded : rows.code codeId = some code) (indexed : Indexed rows) : Evolves rows base := by
  cases licensed with
  | known => exact .refl rows
  | created _ absent =>
      have licensed : Evolves rows (rows.insert (.license env.newLicense)
          (createdLicense env codeId code)) := by
        refine .insert_license _ ?_
        intro old present
        cases absent.symm.trans present
      have codedNow : Store.code (rows.insert (.license env.newLicense)
          (createdLicense env codeId code)) codeId = some code :=
        (Store.code_insert_license ..).trans coded
      exact licensed.trans (.update_code (licensed.indexed indexed) _ codedNow rfl)

theorem Upserts.keeps (upserts : Upserts rows hash device) :
    Keeps rows (rows.insert (.device hash) device) where
  activation here := ⟨_, (Store.activation_insert_device ..).trans here, .refl _⟩
  device {other old} here := by
    rw [Store.device_insert]
    split
    · rename_i equal
      subst equal
      exact ⟨device, rfl, upserts.known old here⟩
    · exact ⟨old, here, rfl⟩
  code here := ⟨_, (Store.code_insert_device ..).trans here, rfl⟩
  license here := ⟨_, (Store.license_insert_device ..).trans here, rfl⟩

theorem Upserts.indexed (upserts : Upserts rows hash device) (indexed : Indexed rows) :
    Indexed (rows.insert (.device hash) device) where
  keys left right := by
    rw [Store.activation_insert_device] at left right
    exact indexed.keys left right
  devices {left right leftRow rightRow} leftHere rightHere same := by
    -- the id of the written device is its old one or used by nobody
    have unused : ∀ other row, other ≠ hash → rows.device other = some row →
        row.id ≠ device.id := by
      intro other row apart present equal
      cases known : rows.device hash with
      | none => exact upserts.fresh known other row present equal
      | some old =>
          rw [upserts.known old known] at equal
          exact apart (indexed.devices present known equal)
    rw [Store.device_insert] at leftHere rightHere
    split at leftHere
    · rename_i leftEqual
      cases leftHere
      split at rightHere
      · rename_i rightEqual
        exact leftEqual.trans rightEqual.symm
      · rename_i apart
        exact absurd same.symm (unused right rightRow apart rightHere)
    · rename_i apart
      split at rightHere
      · cases rightHere
        exact absurd same (unused left leftRow apart leftHere)
      · exact indexed.devices leftHere rightHere same
  codes left right := by
    rw [Store.code_insert_device] at left right
    exact indexed.codes left right

/-- A new activation whose key is not recorded yet. -/
theorem Indexed.insert_activation (indexed : Indexed rows)
    (unrecorded : ∀ codeId key, row.recordedFor codeId key = true → ∀ other otherRow,
      rows.activation other = some otherRow → otherRow.recordedFor codeId key = false) :
    Indexed (rows.insert (.activation id) row) where
  keys {left right codeId leftRow rightRow key} leftHere rightHere leftRecorded rightRecorded := by
    rw [Store.activation_insert] at leftHere rightHere
    split at leftHere
    · rename_i leftEqual
      cases leftHere
      split at rightHere
      · rename_i rightEqual
        exact leftEqual.trans rightEqual.symm
      · rw [unrecorded codeId key leftRecorded right rightRow rightHere] at rightRecorded
        cases rightRecorded
    · split at rightHere
      · cases rightHere
        rw [unrecorded codeId key rightRecorded left leftRow leftHere] at leftRecorded
        cases leftRecorded
      · exact indexed.keys leftHere rightHere leftRecorded rightRecorded
  devices left right := by
    rw [Store.device_insert_activation] at left right
    exact indexed.devices left right
  codes left right := by
    rw [Store.code_insert_activation] at left right
    exact indexed.codes left right

/-- A new activation takes no row away. -/
theorem keeps_insert_activation (absent : rows.activation id = none) :
    Keeps rows (rows.insert (.activation id) row) where
  activation {other old} here := by
    refine ⟨old, ?_, .refl old⟩
    rw [Store.activation_insert]
    split
    · rename_i equal
      rw [equal, absent] at here
      cases here
    · exact here
  device here := ⟨_, (Store.device_insert_activation ..).trans here, rfl⟩
  code here := ⟨_, (Store.code_insert_activation ..).trans here, rfl⟩
  license here := ⟨_, (Store.license_insert_activation ..).trans here, rfl⟩

theorem Unrecorded.activationRow (unrecorded : Unrecorded request codeId rows) (blob : Bytes)
    {deviceId : Uuid} (other : Uuid) (key : String)
    (recorded : (activationRow request codeId licenseId deviceId blob).recordedFor other key = true)
    (otherId : Uuid) (otherRow : ActivationRow)
    (present : rows.activation otherId = some otherRow) :
    otherRow.recordedFor other key = false := by
  obtain ⟨sameCode, keyed⟩ : codeId = other ∧ request.idempotencyKey = some key :=
    of_decide_eq_true recorded
  subst sameCode
  exact unrecorded key keyed otherId otherRow present

theorem Obtains.keeps (obtains : Obtains env request base codeId licenseId license id row store)
    (indexed : Indexed base) : Keeps base store ∧ Indexed store := by
  cases obtains with
  | replayed => exact ⟨.refl base, indexed⟩
  | reused unrecorded masked placed => exact ⟨placed.keeps, placed.indexed indexed⟩
  | @created device code blob unrecorded masked placed absent unused signed coded free =>
      let upserted : Store := base.insert (.device (machineHash env request)) device
      let inserted : Store := upserted.insert (.activation env.newActivation)
        (activationRow request codeId licenseId device.id blob)
      have absentNow : upserted.activation env.newActivation = none :=
        (Store.activation_insert_device ..).trans absent
      have codedNow : inserted.code codeId = some code :=
        (Store.code_insert_activation ..).trans ((Store.code_insert_device ..).trans coded)
      have unrecordedNow : Unrecorded request codeId upserted := by
        intro key keyed other otherRow present
        exact unrecorded key keyed other otherRow
          ((Store.activation_insert_device ..).symm.trans present)
      have indexedNow : Indexed inserted :=
        (placed.indexed indexed).insert_activation (unrecordedNow.activationRow blob)
      have counted : Evolves inserted (inserted.insert (.code codeId)
          { code with activationCount := code.activationCount + 1 }) :=
        .update_code indexedNow _ codedNow rfl
      constructor
      · exact placed.keeps.trans ((keeps_insert_activation absentNow).trans counted.toKeeps)
      · exact counted.indexed indexedNow

/-- An activation keeps the rows that were there. -/
theorem Activates.keeps (activates : Activates env request rows later response)
    (indexed : Indexed rows) : Keeps rows later ∧ Indexed later := by
  cases activates with
  | @intro _ _ _ _ _ store _ token _ coded redeemable product licensed sameProduct valid obtains =>
      have evolves := licensed.evolves coded indexed
      obtain ⟨keeps, kept⟩ := obtains.keeps (evolves.indexed indexed)
      have issued : Evolves store (store.insert (.token env.newToken) token) :=
        .insert_token env.newToken token
      exact ⟨(evolves.toKeeps.trans keeps).trans issued.toKeeps, issued.indexed kept⟩

end

/-! ## Every request -/

section

variable {rows : Store}

theorem outcomes_of_run (detached : Detached [] [] rows) (env : Environment)
    (request : ActivationRequest) (sequence : Nat) :
    Outcomes env request rows ((activate env request).run rows sequence).rows
      ((activate env request).run rows sequence).result := ensures_activate detached

theorem activates_of_run (detached : Detached [] [] rows) {env : Environment}
    {request : ActivationRequest} {sequence : Nat} {response : ActivationResponse}
    (succeeds : ((activate env request).run rows sequence).result = .ok (.activated response)) :
    Activates env request rows ((activate env request).run rows sequence).rows response := by
  have outcomes := outcomes_of_run detached env request sequence
  rw [succeeds] at outcomes
  exact outcomes

/-- An activation that fails leaves the rows. -/
theorem activate_cases (detached : Detached [] [] rows) (env : Environment)
    (request : ActivationRequest) (sequence : Nat) :
    ((activate env request).run rows sequence).rows = rows ∨
      ∃ response, Activates env request rows ((activate env request).run rows sequence).rows
        response := by
  have outcomes := outcomes_of_run detached env request sequence
  generalize (activate env request).run rows sequence = outcome at outcomes ⊢
  obtain ⟨later, number, error | response⟩ := outcome
  · exact .inl outcomes
  · cases response with
    | activated response => exact .inr ⟨response, outcomes⟩
    | codesCreated => cases outcomes
    | noContent => cases outcomes

/-- No request takes anything back. -/
theorem keeps_of_run (detached : Detached [] [] rows) (indexed : Indexed rows) {handler : Handler}
    (isRequest : IsRequest handler) (sequence : Nat) :
    Keeps rows (handler.run rows sequence).rows ∧ Indexed (handler.run rows sequence).rows := by
  cases isRequest with
  | activate env request =>
      rcases activate_cases detached env request sequence with same | ⟨response, activates⟩
      · rw [same]
        exact ⟨.refl rows, indexed⟩
      · exact activates.keeps indexed
  | unbindDevice time user device =>
      have evolves : Evolves rows ((unbindDevice time user device).run rows sequence).rows :=
        evolves_unbindDevice indexed time user device
      exact ⟨evolves.toKeeps, evolves.indexed indexed⟩
  | adminCreateCodes input draw =>
      have evolves : Evolves rows ((adminCreateCodes input draw).run rows sequence).rows :=
        evolves_adminCreateCodes input draw
      exact ⟨evolves.toKeeps, evolves.indexed indexed⟩
  | adminUpdateLicense id status =>
      have evolves : Evolves rows ((adminUpdateLicense id status).run rows sequence).rows :=
        evolves_adminUpdateLicense id status
      exact ⟨evolves.toKeeps, evolves.indexed indexed⟩

theorem kept_of_run (kept : requestContract.Inv rows) {handler : Handler}
    (isRequest : IsRequest handler) (sequence : Nat) :
    requestContract.Inv (handler.run rows sequence).rows :=
  System.inv_of_runs kept (fun _ isRequest _ _ => kept_of_isRequest isRequest)
    (System.runs_of_run () kept isRequest (kept_of_isRequest isRequest))

end

end YoAuthorize.Backend
