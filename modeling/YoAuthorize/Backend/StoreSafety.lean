import YoAuthorize.Backend.LicenseRoundTrip
import YoAuthorize.Backend.StoreInvariant

/-!
# The activation store under concurrent requests

Every handler is sound for `storeContract`: committed stores are consistent, and
a commit that makes an activation live has locked its license.  So the limits
that a transaction has checked under its locks still hold when it commits.
-/

namespace YoAuthorize.Backend

open Octets Crypto FlatBuffer License Transaction Relation

def storeContract : Contract Row where
  Inv rows := Consistent (fun _ => 0) rows
  Guarantee held rows later := ∀ (id : Uuid) (row : ActivationRow),
    Store.activation later id = some row → row.live = true →
    Store.activation rows id = some row ∨ held (.license row.licenseId)

theorem storeContract_monotone : storeContract.Monotone := by
  intro held more rows later less guarantee id row here live
  rcases guarantee _ _ here live with same | owned
  · exact .inl same
  · exact .inr (less _ owned)

variable {held : RowKey → Prop} {log : List (Sigma Row)} {rows later : Store}

/-- While a license is locked, nobody else makes an activation of it live. -/
theorem activation_of_moves (moves : storeContract.Moves held rows later) {id : Uuid}
    {row : ActivationRow} (here : later.activation id = some row) (live : row.live = true)
    (holds : held (.license row.licenseId)) : rows.activation id = some row := by
  induction moves with
  | refl => exact here
  | tail _ commit ih =>
      rcases commit with ⟨other, apart, -, guarantee, -⟩
      rcases guarantee _ _ here live with same | owned
      · exact ih same
      · exact absurd holds (apart _ owned)

/-! ## `admin_create_codes` -/

/-- A write that keeps the store consistent and makes no activation live. -/
theorem settled_write (settled : storeContract.Settled held log rows) {key : RowKey} {row : Row key}
    (keeps : ∀ now, storeContract.Moves held rows now →
      Consistent (fun _ => 0) (replay now log) →
      Consistent (fun _ => 0) ((replay now log).insert key row))
    (activations : ∀ (now : Store) (id : Uuid), Store.activation (now.insert key row) id =
      Store.activation now id) :
    storeContract.Settled held (log ++ [⟨key, row⟩]) rows := by
  intro now moves inv
  rcases settled now moves inv with ⟨consistent, guarantee⟩
  rw [replay_append]
  refine ⟨keeps now moves consistent, ?_⟩
  intro id activation here live
  rw [activations] at here
  exact guarantee _ _ here live

theorem settled_nil : storeContract.Settled held [] rows :=
  fun _ _ inv => ⟨inv, fun _ _ here _ => .inl here⟩

theorem sound_insertCodes {code : Bytes → CodeRow} (uncounted : ∀ hash,
    (code hash).activationCount = 0) (made : List String) (drawn : List (Uuid × String × Bytes))
    (settled : storeContract.Settled held log rows) :
    storeContract.Sound (insertCodes code made drawn) held log rows := by
  induction drawn generalizing held log rows made with
  | nil => exact settled
  | cons first drawn ih =>
      rcases first with ⟨codeId, raw, codeHash⟩
      apply Contract.Sound.lock
      · intro now moves inv absent later laterMoves laterInv
        dsimp only
        split
        · trivial
        · refine ⟨.inl rfl, fun last lastMoves lastInv => ?_⟩
          apply ih
          have locked := settled.lock storeContract_monotone moves (.code codeId)
          refine settled_write (locked.moves (laterMoves.trans lastMoves)) ?_ ?_
          · intro final finalMoves consistent
            have moved := (laterMoves.trans lastMoves).trans finalMoves
            have here : Store.code (replay final log) codeId = none :=
              (moved.lookup_replay (.inl rfl) log).trans absent
            exact consistent.insert_code here (uncounted codeHash) rfl
          · intro store other
            exact Store.activation_insert_code ..
      · intro row now moves inv present
        trivial

theorem sound_adminCreateCodes (input : CodeInput) (draw : Nat → Uuid × String × Bytes) :
    storeContract.Sound (adminCreateCodes input draw) held [] rows := by
  unfold adminCreateCodes
  dsimp only
  split
  · trivial
  split
  · trivial
  intro now moves inv
  dsimp only
  split
  · exact sound_insertCodes (fun _ => rfl) [] _ settled_nil
  · trivial

/-! ## `unbind_device` -/

/-- The store is consistent up to the codes that are still to be counted down. -/
def Owes (codes : List Uuid) (held : RowKey → Prop) (log : List (Sigma Row)) (rows : Store) :
    Prop :=
  ∀ now, storeContract.Moves held rows now → storeContract.Inv now →
    Consistent (fun id => codes.count id) (replay now log) ∧
      storeContract.Guarantee held now (replay now log)

section

variable {codes : List Uuid}

theorem Owes.lock (owes : Owes codes held log rows) (moves : storeContract.Moves held rows later)
    (key : RowKey) : Owes codes (fun other => other = key ∨ held other) log later := by
  intro now nextMoves inv
  have less := nextMoves.mono fun other holds => Or.inr holds
  rcases owes now (moves.trans less) inv with ⟨consistent, guarantee⟩
  exact ⟨consistent, storeContract_monotone (fun _ => .inr) guarantee⟩

theorem Owes.moves (owes : Owes codes held log rows)
    (moves : storeContract.Moves held rows later) : Owes codes held log later :=
  fun now next => owes now (moves.trans next)

theorem Owes.write_unaccounted (owes : Owes codes held log rows) {key : RowKey} (row : Row key)
    (unaccounted : Store.unaccounted key = true) : Owes codes held (log ++ [⟨key, row⟩]) rows := by
  intro now moves inv
  rcases owes now moves inv with ⟨consistent, guarantee⟩
  rw [replay_append]
  refine ⟨consistent.insert_unaccounted row unaccounted, ?_⟩
  intro id activation here live
  rw [Store.activation_insert_of_unaccounted row unaccounted] at here
  exact guarantee _ _ here live

theorem sound_event (owes : Owes codes held log rows) (topic : Topic) (id subject : Uuid)
    {next : Handler} (continues : ∀ (more : RowKey → Prop) (written : List (Sigma Row))
      (now : Store), Owes codes more written now → storeContract.Sound next more written now) :
    storeContract.Sound (event topic id subject next) held log rows := by
  intro number now moves inv absent
  exact continues _ _ now ((owes.lock moves (.event number)).write_unaccounted _ rfl)

theorem sound_revokeTokens (owes : Owes codes held log rows) (time : Timestamp)
    (activationId : Uuid) (tokens : List Uuid) {next : Handler}
    (continues : ∀ (more : RowKey → Prop) (written : List (Sigma Row)) (now : Store),
      Owes codes more written now → storeContract.Sound next more written now) :
    storeContract.Sound (revokeTokens time activationId next tokens) held log rows := by
  induction tokens generalizing held log rows with
  | nil => exact continues held log rows owes
  | cons tokenId tokens ih =>
      apply Contract.Sound.lock
      · intro now moves inv absent
        exact ih (owes.lock moves _)
      · intro token now moves inv present
        dsimp only
        split
        · refine ⟨.inl rfl, fun later laterMoves laterInv => ?_⟩
          exact ih (((owes.lock moves _).moves laterMoves).write_unaccounted _ rfl)
        · exact ih (owes.lock moves _)

/-- Counting down a code pays for one activation. -/
theorem sound_releaseCode {codeId : Uuid} (owes : Owes (codeId :: codes) held log rows)
    {next : Handler} (continues : ∀ (more : RowKey → Prop) (written : List (Sigma Row))
      (now : Store), Owes codes more written now → storeContract.Sound next more written now) :
    storeContract.Sound (releaseCode codeId next) held log rows := by
  apply Contract.Sound.lock
  · intro now moves inv absent
    apply continues
    intro later laterMoves laterInv
    rcases owes.lock moves (.code codeId) later laterMoves laterInv with ⟨consistent, guarantee⟩
    refine ⟨consistent.congr_debt ?_, guarantee⟩
    intro id code present
    have apart : codeId ≠ id := by
      rintro rfl
      have here := (laterMoves.lookup_replay (.inl rfl) log).trans absent
      rw [Store.code, here] at present
      cases present
    rw [List.count_cons_of_ne apart]
  · intro code now moves inv present
    dsimp only
    split
    · trivial
    · rename_i positive
      refine ⟨.inl rfl, fun later laterMoves laterInv => ?_⟩
      apply continues
      intro last lastMoves lastInv
      have moved := laterMoves.trans lastMoves
      rcases owes.lock moves (.code codeId) last moved lastInv with ⟨consistent, guarantee⟩
      have here : Store.code (replay last log) codeId = some code :=
        (moved.lookup_replay (.inl rfl) log).trans present
      have limit := consistent.limited here
      rw [replay_append]
      constructor
      · refine consistent.recount_code here rfl (by dsimp only; omega) ?_
        intro other
        dsimp only
        rw [List.count_cons]
        by_cases same : other = codeId
        · rw [if_pos same, if_pos (beq_iff_eq.mpr same.symm)]
          omega
        · rw [if_neg same, if_neg (by rw [beq_iff_eq]; exact Ne.symm same)]
          omega
      · intro id row here live
        rw [Store.activation_insert_code] at here
        exact guarantee _ _ here live

end

theorem sound_releaseActivations {time : Timestamp} {device : Uuid} {unbound : List (Uuid × Uuid)}
    (owes : Owes (unbound.map Prod.snd) held log rows) :
    storeContract.Sound (releaseActivations time device unbound) held log rows := by
  induction unbound generalizing held log rows with
  | nil => exact owes
  | cons first unbound ih =>
      rcases first with ⟨activationId, codeId⟩
      intro now moves inv
      refine sound_revokeTokens (owes.moves moves) time activationId _ ?_
      intro more written later revoked
      refine sound_releaseCode revoked ?_
      intro most counted last paid
      exact sound_event paid _ _ _ fun _ _ _ => ih

theorem sound_unbindActivations {time : Timestamp} {device : Uuid} {test : ActivationRow → Bool}
    (testsLive : ∀ row, test row = true → row.live = true) {unbound : List (Uuid × Uuid)}
    {activations : List Uuid} (owes : Owes (unbound.map Prod.snd) held log rows) :
    storeContract.Sound (unbindActivations time device test unbound activations) held log
      rows := by
  induction activations generalizing held log rows unbound with
  | nil =>
      rw [unbindActivations]
      split
      · trivial
      · exact sound_releaseActivations owes
  | cons activationId activations ih =>
      apply Contract.Sound.lock
      · intro now moves inv absent
        exact ih (owes.lock moves _)
      · intro row now moves inv present
        dsimp only
        split
        · rename_i accepted
          refine ⟨.inl rfl, fun later laterMoves laterInv => ?_⟩
          apply ih
          intro last lastMoves lastInv
          have moved := laterMoves.trans lastMoves
          rcases owes.lock moves (.activation activationId) last moved lastInv with
            ⟨consistent, guarantee⟩
          have here : Store.activation (replay last log) activationId = some row :=
            (moved.lookup_replay (.inl rfl) log).trans present
          rw [replay_append]
          constructor
          · refine consistent.unbind_activation time here (testsLive row accepted) ?_
            intro other
            rw [List.map_append, List.map_singleton, List.count_append, List.count_singleton]
            by_cases same : other = row.activationCodeId
            · rw [if_pos same, if_pos (beq_iff_eq.mpr same.symm)]
              omega
            · rw [if_neg same, if_neg (by rw [beq_iff_eq]; exact Ne.symm same)]
              omega
          · intro id found here live
            rw [Store.activation_insert] at here
            split at here
            · cases here
              cases live
            · exact guarantee _ _ here live
        · exact ih (owes.lock moves _)

theorem sound_unbindDevice (time : Timestamp) (user device : Uuid) :
    storeContract.Sound (unbindDevice time user device) held [] rows := by
  intro now moves inv
  apply sound_unbindActivations
  · intro row accepted
    simp only [ActivationRow.unbindable, Bool.decide_and, Bool.and_eq_true, decide_eq_true_eq]
      at accepted
    exact accepted.2.1
  · exact settled_nil

/-! ## `admin_update_license` -/

theorem sound_announceLicense (settled : storeContract.Settled held log rows) (topic : Topic)
    (licenseId : Uuid) : storeContract.Sound (announceLicense topic licenseId) held log rows := by
  have inserts (activations : List Uuid) {held : RowKey → Prop} {log : List (Sigma Row)}
      {rows : Store} (owes : Owes [] held log rows) :
      storeContract.Sound (insertEvents topic licenseId activations) held log rows := by
    induction activations generalizing held log rows with
    | nil => exact owes
    | cons activationId activations ih => exact sound_event owes _ _ _ fun _ _ _ => ih
  intro now moves inv
  exact inserts _ (settled.moves moves)

theorem sound_adminUpdateLicense (id : Uuid) (status : String) :
    storeContract.Sound (adminUpdateLicense id status) held [] rows := by
  unfold adminUpdateLicense
  split
  · trivial
  · apply Contract.Sound.lock
    · intro now moves inv absent
      exact sound_announceLicense settled_nil _ _
    · intro license now moves inv present
      refine ⟨.inl rfl, fun later laterMoves laterInv => sound_announceLicense ?_ _ _⟩
      refine settled_write settled_nil ?_ ?_
      · intro last lastMoves consistent
        have here : Store.license last id = some license :=
          ((laterMoves.trans lastMoves).lookup (.inl rfl)).trans present
        exact consistent.update_license here rfl rfl
      · intro store other
        exact Store.activation_insert_license ..

/-! ## `activate` -/

section

variable (env : Environment) (request : ActivationRequest)

theorem sound_insertToken (settled : storeContract.Settled held log rows) (blob : Bytes)
    (activationId : Uuid) (token : String) :
    storeContract.Sound (insertToken env blob activationId token) held log rows := by
  have owes : Owes [] held log rows := settled
  apply Contract.Sound.lock
  · intro now moves inv absent later laterMoves laterInv
    have locked := (owes.lock moves (.token env.newToken)).moves laterMoves
    dsimp only
    split
    · trivial
    · exact ⟨.inl rfl, fun last lastMoves lastInv =>
        (locked.moves lastMoves).write_unaccounted _ rfl⟩
  · intro row now moves inv present
    trivial

theorem sound_finishActivation (settled : storeContract.Settled held log rows) (blob : Bytes)
    (activationId : Uuid) :
    storeContract.Sound (finishActivation env blob activationId) held log rows := by
  apply Contract.Sound.lock
  · intro now moves inv absent
    trivial
  · intro row now moves inv present later laterMoves laterInv
    have locked := settled.lock storeContract_monotone moves (.activation activationId)
    dsimp only
    split
    · trivial
    split
    · trivial
    split
    · trivial
    split
    · trivial
    · exact sound_insertToken env (locked.moves laterMoves) blob activationId _

theorem sound_replayActivation (settled : storeContract.Settled held log rows) (codeId : Uuid)
    {next : Handler} (continues : ∀ (more : RowKey → Prop) (now : Store),
      (∀ key, held key → more key) → storeContract.Moves held rows now → storeContract.Inv now →
      storeContract.Sound next more log now) (inv : storeContract.Inv rows) :
    storeContract.Sound (replayActivation env request codeId next) held log rows := by
  unfold replayActivation
  split
  · exact continues held rows (fun _ => id) .refl inv
  · apply Contract.Sound.lockWhere
    · intro more now less moves inv
      exact continues more now less moves inv
    · intro activationId row now moves inv present recorded later laterMoves laterInv
      have locked := settled.lock storeContract_monotone moves (.activation activationId)
      have less := laterMoves.mono fun key holds => Or.inr holds
      dsimp only
      split
      · exact continues _ later (fun _ => .inr) (moves.trans less) laterInv
      split
      · trivial
      split
      · trivial
      · exact sound_finishActivation env (locked.moves laterMoves) _ _

/-- The code is locked and has its license, and nothing is activated yet. -/
structure Bound (codeId licenseId : Uuid) (code : CodeRow) (held : RowKey → Prop)
    (log : List (Sigma Row)) (rows : Store) : Prop where
  holdsCode : held (.code codeId)
  settled : storeContract.Settled held log rows
  coded : Store.code (replay rows log) codeId = some { code with licenseId := some licenseId }
  unwritten : ∀ version ∈ log, ∀ id, version.1 ≠ RowKey.activation id

/-- The license is locked too. -/
structure Prepared (codeId licenseId : Uuid) (code : CodeRow) (license : LicenseRow)
    (held : RowKey → Prop) (log : List (Sigma Row)) (rows : Store) : Prop extends
    Bound codeId licenseId code held log rows where
  holdsLicense : held (.license licenseId)
  licensed : Store.license (replay rows log) licenseId = some license

section

variable {codeId licenseId : Uuid} {code : CodeRow} {license : LicenseRow}

theorem Bound.activation (bound : Bound codeId licenseId code held log rows) (now : Store)
    (id : Uuid) : Store.activation (replay now log) id = now.activation id :=
  lookup_replay_of_unwritten now fun version member => bound.unwritten version member id

theorem Bound.extend (bound : Bound codeId licenseId code held log rows) {more : RowKey → Prop}
    (less : ∀ key, held key → more key) (moves : storeContract.Moves held rows later) :
    Bound codeId licenseId code more log later where
  holdsCode := less _ bound.holdsCode
  settled := (bound.settled.moves moves).mono storeContract_monotone less
  coded := (moves.lookup_replay bound.holdsCode log).trans bound.coded
  unwritten := bound.unwritten

theorem Prepared.extend (prepared : Prepared codeId licenseId code license held log rows)
    {more : RowKey → Prop} (less : ∀ key, held key → more key)
    (moves : storeContract.Moves held rows later) :
    Prepared codeId licenseId code license more log later where
  toBound := prepared.toBound.extend less moves
  holdsLicense := less _ prepared.holdsLicense
  licensed := (moves.lookup_replay prepared.holdsLicense log).trans prepared.licensed

theorem Prepared.moves (prepared : Prepared codeId licenseId code license held log rows)
    (moves : storeContract.Moves held rows later) :
    Prepared codeId licenseId code license held log later :=
  prepared.extend (fun _ => id) moves

theorem Prepared.lock (prepared : Prepared codeId licenseId code license held log rows)
    (moves : storeContract.Moves held rows later) (key : RowKey) :
    Prepared codeId licenseId code license (fun other => other = key ∨ held other) log later :=
  prepared.extend (fun _ => .inr) moves

/-- Writing the device keeps everything. -/
theorem Prepared.write_device (prepared : Prepared codeId licenseId code license held log rows)
    (machineHash : Bytes) (device : DeviceRow) :
    Prepared codeId licenseId code license held (log ++ [⟨.device machineHash, device⟩]) rows where
  holdsCode := prepared.holdsCode
  settled :=
    have owes : Owes [] held log rows := prepared.settled
    owes.write_unaccounted _ rfl
  coded := by
    rw [replay_append, Store.code_insert_device]
    exact prepared.coded
  unwritten version member id := by
    rcases List.mem_append.mp member with old | new
    · exact prepared.unwritten version old id
    · rw [List.mem_singleton.mp new]
      exact nofun
  holdsLicense := prepared.holdsLicense
  licensed := by
    rw [replay_append, Store.license_insert_device]
    exact prepared.licensed

theorem sound_upsertDevice (prepared : Prepared codeId licenseId code license held log rows)
    {next : Uuid → Handler} (continues : ∀ (deviceId : Uuid) (more : RowKey → Prop)
      (log : List (Sigma Row)) (now : Store), storeContract.Inv now →
      Prepared codeId licenseId code license more log now →
      storeContract.Sound (next deviceId) more log now) :
    storeContract.Sound (upsertDevice env request next) held log rows := by
  unfold upsertDevice
  split
  · trivial
  apply Contract.Sound.lock
  · intro now moves inv absent later laterMoves laterInv
    have locked := (prepared.lock moves _).moves laterMoves
    dsimp only
    split
    · trivial
    · refine ⟨.inl rfl, fun last lastMoves lastInv => continues _ _ _ last lastInv ?_⟩
      exact (locked.moves lastMoves).write_device _ _
  · intro device now moves inv present
    have locked := prepared.lock moves (.device (machineHash env request))
    refine ⟨.inl rfl, fun later laterMoves laterInv => continues _ _ _ later laterInv ?_⟩
    exact (locked.moves laterMoves).write_device _ _

/-- The room that was counted under the lock of the license does not shrink. -/
theorem Prepared.liveOfLicense_le (prepared : Prepared codeId licenseId code license held log rows)
    (moves : storeContract.Moves held rows later) :
    Store.liveOfLicense (replay later log) licenseId ≤
      Store.liveOfLicense (replay rows log) licenseId := by
  apply count_le_of_forall
  intro key row present accepted
  cases key with
  | activation id =>
      refine ⟨row, ?_, accepted⟩
      simp only [Store.isLive, Bool.and_eq_true, decide_eq_true_eq] at accepted
      have here := (prepared.activation later id).symm.trans present
      exact (prepared.activation rows id).trans
        (activation_of_moves moves here accepted.1 (accepted.2.symm ▸ prepared.holdsLicense))
  | code | license | device | token | event => cases accepted

/-- A counted activation may be committed, if there was room for it and the
device had none. -/
theorem Prepared.settled_activation {row : ActivationRow}
    (prepared : Prepared row.activationCodeId row.licenseId code license held log rows) {id : Uuid}
    (holdsNew : held (.activation id)) (absent : rows.activation id = none)
    (live : row.live = true)
    (room : Store.liveOfLicense (replay rows log) row.licenseId < license.deviceLimit)
    (unused : ∀ {other : Uuid} {otherRow : ActivationRow}, rows.activation other = some otherRow →
      otherRow.live = true → otherRow.licenseId = row.licenseId →
      otherRow.deviceId ≠ row.deviceId)
    (fits : code.activationCount + 1 ≤ code.activationLimit) :
    storeContract.Settled held
      (log ++ [⟨.activation id, row⟩] ++
        [⟨.code row.activationCodeId,
          { code with
            licenseId := some row.licenseId
            activationCount := code.activationCount + 1 }⟩]) rows := by
  intro now moves inv
  rcases prepared.settled now moves inv with ⟨consistent, guarantee⟩
  have present := prepared.moves moves
  have absentNow : Store.activation (replay now log) id = none :=
    (prepared.activation now id).trans ((moves.lookup holdsNew).trans absent)
  have inserted : Consistent (fun other => -if other = row.activationCodeId then 1 else 0)
      ((replay now log).insert (.activation id) row) := by
    refine consistent.insert_activation absentNow live present.coded rfl present.licensed
      (Nat.lt_of_le_of_lt (prepared.liveOfLicense_le moves) room) ?_ fun other => (zero_sub _).symm
    intro other otherRow here otherLive same
    rw [prepared.activation] at here
    exact unused (activation_of_moves moves here otherLive (same ▸ prepared.holdsLicense))
      otherLive same
  rw [replay_append, replay_append]
  constructor
  · refine inserted.recount_code ((Store.code_insert_activation ..).trans present.coded) rfl fits ?_
    intro other
    dsimp only
    split <;> omega
  · intro other found here foundLive
    rw [Store.activation_insert_code, Store.activation_insert] at here
    split at here
    · cases here
      exact .inr prepared.holdsLicense
    · exact guarantee other found here foundLive

theorem unused_of_conflicts {row : ActivationRow} (unique : ¬ rows.conflicts row = true)
    {other : Uuid} {otherRow : ActivationRow} (present : rows.activation other = some otherRow)
    (live : otherRow.live = true) (same : otherRow.licenseId = row.licenseId) :
    otherRow.deviceId ≠ row.deviceId := by
  intro device
  apply unique
  have found : (rows.findActivation fun other => other.liveFor row.licenseId row.deviceId).isSome =
      true := by
    cases none : rows.findActivation fun other => other.liveFor row.licenseId row.deviceId with
    | some id => rfl
    | none =>
        have refused := Store.findActivation_eq_none none present
        simp only [ActivationRow.liveFor, live, same, device, true_and, decide_true] at refused
        cases refused
  exact decide_eq_true (.inl found)

theorem sound_insertActivation {row : ActivationRow}
    (prepared : Prepared row.activationCodeId row.licenseId code license held log rows)
    (live : row.live = true)
    (room : Store.liveOfLicense (replay rows log) row.licenseId < license.deviceLimit) :
    storeContract.Sound (insertActivation env row) held log rows := by
  apply Contract.Sound.lock
  · intro now moves inv absent next nextMoves nextInv
    dsimp only
    split
    · trivial
    rename_i unique
    have locked := (prepared.lock moves (.activation env.newActivation)).moves nextMoves
    refine ⟨.inl rfl, fun third thirdMoves thirdInv => ?_⟩
    apply Contract.Sound.lock
    · intro last lastMoves lastInv missing
      have coded := ((locked.moves thirdMoves).moves lastMoves).coded
      rw [replay_append] at missing
      cases missing.symm.trans ((Store.code_insert_activation ..).trans coded)
    · intro found last lastMoves lastInv here
      have coded := ((locked.moves thirdMoves).moves lastMoves).coded
      rw [replay_append] at here
      cases here.symm.trans ((Store.code_insert_activation ..).trans coded)
      dsimp only
      split
      · trivial
      rename_i fits
      have roomNow := Nat.lt_of_le_of_lt
        (prepared.liveOfLicense_le (moves.trans (nextMoves.mono fun _ => .inr))) room
      have absentNow : Store.activation next env.newActivation = none :=
        (locked.activation next _).symm.trans
          ((nextMoves.lookup_replay (.inl rfl) log).trans absent)
      have settled := locked.settled_activation (.inl rfl) absentNow live roomNow
        (fun present => unused_of_conflicts unique ((locked.activation next _).trans present))
        (Nat.not_lt.mp fits)
      refine ⟨.inl rfl, fun final finalMoves finalInv => sound_finishActivation env ?_ _ _⟩
      exact ((settled.moves thirdMoves).lock storeContract_monotone lastMoves _).moves finalMoves
  · intro old now moves inv present
    trivial

theorem sound_reuseActivation (prepared : Prepared codeId licenseId code license held log rows)
    (deviceId : Uuid) {next : Handler} (continues : ∀ (more : RowKey → Prop) (now : Store),
      storeContract.Inv now → Prepared codeId licenseId code license more log now →
      storeContract.Sound next more log now) :
    storeContract.Sound (reuseActivation env licenseId deviceId next) held log rows := by
  apply Contract.Sound.lockWhere
  · intro more now less moves inv
    exact continues more now inv (prepared.extend less moves)
  · intro activationId row now moves inv present accepted
    exact sound_finishActivation env
      (prepared.settled.lock storeContract_monotone moves (.activation activationId)) _ _

theorem sound_newActivation (prepared : Prepared codeId licenseId code license held log rows)
    (deviceId : Uuid) :
    storeContract.Sound (newActivation env request codeId code licenseId license deviceId) held log
      rows := by
  unfold newActivation
  split
  · trivial
  intro now moves inv
  dsimp only
  split
  · trivial
  rename_i room
  split
  · trivial
  · rename_i blob _
    let row : ActivationRow :=
      { licenseId
        deviceId
        activationCodeId := codeId
        idempotencyKey := request.idempotencyKey
        licenseBlob := blob }
    have here : Prepared row.activationCodeId row.licenseId code license held log now :=
      prepared.moves moves
    exact sound_insertActivation env here rfl (Nat.not_le.mp room)

theorem sound_activateLicense (bound : Bound codeId licenseId code held log rows) :
    storeContract.Sound (activateLicense env request codeId code licenseId) held log rows := by
  apply Contract.Sound.lock
  · intro now moves inv absent
    trivial
  · intro license now moves inv present
    have prepared : Prepared codeId licenseId code license
        (fun other => other = .license licenseId ∨ held other) log now :=
      ⟨bound.extend (fun _ => .inr) moves, .inl rfl, present⟩
    dsimp only
    split
    · trivial
    split
    · trivial
    · refine sound_replayActivation env request prepared.settled codeId ?_ inv
      intro more later less laterMoves laterInv
      refine sound_upsertDevice env request (prepared.extend less laterMoves) ?_
      intro deviceId most written last lastInv lastPrepared
      refine sound_reuseActivation env lastPrepared deviceId ?_
      intro all final finalInv finalPrepared
      exact sound_newActivation env request finalPrepared deviceId

/-- A license that is created for the code may be committed with it. -/
theorem settled_license (holdsCode : held (.code codeId)) (holdsLicense : held (.license licenseId))
    (coded : rows.code codeId = some code) (unbound : code.licenseId = none)
    (absent : rows.license licenseId = none) (origin : license.createdFor = some codeId) :
    storeContract.Settled held
      [⟨.license licenseId, license⟩,
        ⟨.code codeId, { code with licenseId := some licenseId }⟩] rows := by
  intro now moves inv
  have codedNow : Store.code now codeId = some code := (moves.lookup holdsCode).trans coded
  have absentNow : Store.license now licenseId = none := (moves.lookup holdsLicense).trans absent
  refine ⟨inv.bind_license codedNow unbound absentNow origin, ?_⟩
  intro id row here live
  left
  change Store.activation ((AList.insert _ _ now).insert _ _) id = some row at here
  rw [Store.activation_insert_code, Store.activation_insert_license] at here
  exact here

/-- The code is bound to the license that is created for it. -/
theorem bound_of_created (holdsCode : held (.code codeId))
    (holdsLicense : held (.license licenseId))
    (coded : rows.code codeId = some code) (unbound : code.licenseId = none)
    (absent : rows.license licenseId = none) (origin : license.createdFor = some codeId) :
    Bound codeId licenseId code held
      [⟨.license licenseId, license⟩,
        ⟨.code codeId, { code with licenseId := some licenseId }⟩] rows where
  holdsCode := holdsCode
  settled := settled_license holdsCode holdsLicense coded unbound absent origin
  coded := (Store.code_insert ..).trans (if_pos rfl)
  unwritten version member id := by
    rcases List.mem_cons.mp member with rfl | member
    · exact nofun
    · rw [List.mem_singleton.mp member]
      exact nofun

theorem sound_withLicense (holds : held (.code codeId)) (coded : rows.code codeId = some code)
    {next : Uuid → Handler} (continues : ∀ (licenseId : Uuid) (more : RowKey → Prop)
      (log : List (Sigma Row)) (now : Store), Bound codeId licenseId code more log now →
      storeContract.Sound (next licenseId) more log now) :
    storeContract.Sound (withLicense env codeId code next) held [] rows := by
  unfold withLicense
  split
  · rename_i licenseId known
    refine continues licenseId held [] rows
      ⟨holds, settled_nil, ?_, fun _ same => by cases same⟩
    rw [← known]
    exact coded
  · rename_i unbound
    apply Contract.Sound.lock
    · intro now moves inv absent
      refine ⟨.inl rfl, fun later laterMoves laterInv => ?_⟩
      apply Contract.Sound.lock
      · intro last lastMoves lastInv missing
        have here : Store.code last codeId = some code :=
          (lastMoves.lookup (.inr holds)).trans ((laterMoves.lookup (.inr holds)).trans
            ((moves.lookup holds).trans coded))
        cases missing.symm.trans ((Store.code_insert_license ..).trans here)
      · intro row last lastMoves lastInv found
        have codedLast : Store.code last codeId = some code :=
          (lastMoves.lookup (.inr holds)).trans ((laterMoves.lookup (.inr holds)).trans
            ((moves.lookup holds).trans coded))
        have absentLast : Store.license last env.newLicense = none :=
          (lastMoves.lookup (.inl rfl)).trans ((laterMoves.lookup (.inl rfl)).trans absent)
        cases found.symm.trans ((Store.code_insert_license ..).trans codedLast)
        refine ⟨.inl rfl, fun final finalMoves finalInv => continues _ _ _ final ?_⟩
        exact (bound_of_created (.inl rfl) (.inr (.inl rfl)) codedLast unbound absentLast
          rfl).extend (fun _ => id) finalMoves
    · intro row now moves inv present
      trivial

theorem sound_activate : storeContract.Sound (activate env request) held [] rows := by
  unfold activate
  split
  · trivial
  split
  · trivial
  apply Contract.Sound.lockWhere
  · intro more now less moves inv
    trivial
  · intro codeId code now moves inv present accepted
    dsimp only
    split
    · trivial
    · refine sound_withLicense env (.inl rfl) present ?_
      intro licenseId more log later bound
      exact sound_activateLicense env request bound

end

end

/-! ## All requests -/

/-- The transactions of the four handlers, with any input and environment. -/
inductive IsRequest : Handler → Prop
  | activate (env : Environment) (request : ActivationRequest) : IsRequest (activate env request)
  | unbindDevice (time : Timestamp) (user device : Uuid) : IsRequest (unbindDevice time user device)
  | adminCreateCodes (input : CodeInput) (draw : Nat → Uuid × String × Bytes) :
      IsRequest (adminCreateCodes input draw)
  | adminUpdateLicense (id : Uuid) (status : String) : IsRequest (adminUpdateLicense id status)

theorem sound_of_isRequest {handler : Handler} (isRequest : IsRequest handler) :
    storeContract.Sound handler held [] rows := by
  cases isRequest with
  | activate env request => exact sound_activate env request
  | unbindDevice time user device => exact sound_unbindDevice time user device
  | adminCreateCodes input draw => exact sound_adminCreateCodes input draw
  | adminUpdateLicense id status => exact sound_adminUpdateLicense id status

/-- Requests that run one after the other are a run. -/
theorem runs_of_isRequest {handlers : List Handler} (inv : storeContract.Inv rows)
    (all : ∀ handler ∈ handlers, IsRequest handler) (sequence : Nat) :
    ReflTransGen (System.Step IsRequest) ({ rows, sequence } : System Unit Row ApiError Response)
      { rows := (Program.runAll handlers rows sequence).1
        sequence := (Program.runAll handlers rows sequence).2 } :=
  System.runs_of_runAll () inv (fun _ isRequest _ _ => sound_of_isRequest isRequest) all

/-- A store without codes and activations, and with any licenses and devices. -/
structure Initial (rows : Store) : Prop where
  codes : ∀ id, rows.code id = none
  activations : ∀ id, rows.activation id = none
  licenses : ∀ {id : Uuid} {license : LicenseRow}, rows.license id = some license →
    license.createdFor = none

theorem Initial.consistent (initial : Initial rows) : Consistent (fun _ => 0) rows where
  counted present := by
    rw [initial.codes] at present
    cases present
  limited present := by
    rw [initial.codes] at present
    cases present
  devices {id license} present := by
    have none : rows.liveOfLicense id = 0 := by
      apply count_isLive_eq_zero
      intro activation row here
      rw [initial.activations] at here
      cases here
    rw [none]
    exact Nat.zero_le _
  single left := by
    rw [initial.activations] at left
    cases left
  bound present := by
    rw [initial.activations] at present
    cases present
  licensed present := by
    rw [initial.activations] at present
    cases present
  created present origin := by
    rw [initial.licenses present] at origin
    cases origin

/-- What holds of every committed store. -/
structure StoreAccounted (rows : Store) : Prop where
  count_eq : ∀ {id : Uuid} {code : CodeRow}, rows.code id = some code →
    code.activationCount = rows.liveOfCode id
  count_le : ∀ {id : Uuid} {code : CodeRow}, rows.code id = some code →
    code.activationCount ≤ code.activationLimit
  devices_le : ∀ {id : Uuid} {license : LicenseRow}, rows.license id = some license →
    rows.liveOfLicense id ≤ license.deviceLimit
  live_unique : ∀ {left right : Uuid} {leftRow rightRow : ActivationRow},
    rows.activation left = some leftRow → rows.activation right = some rightRow →
    leftRow.live = true → rightRow.live = true → leftRow.licenseId = rightRow.licenseId →
    leftRow.deviceId = rightRow.deviceId → left = right
  license_of_activation : ∀ {id : Uuid} {row : ActivationRow}, rows.activation id = some row →
    ∃ code, rows.code row.activationCodeId = some code ∧ code.licenseId = some row.licenseId
  created_unique : ∀ {left right codeId : Uuid} {leftRow rightRow : LicenseRow},
    rows.license left = some leftRow → rows.license right = some rightRow →
    leftRow.createdFor = some codeId → rightRow.createdFor = some codeId → left = right

theorem Consistent.accounted (consistent : Consistent (fun _ => 0) rows) : StoreAccounted rows where
  count_eq present := by
    have counted := consistent.counted present
    omega
  count_le := consistent.limited
  devices_le := consistent.devices
  live_unique := consistent.single
  license_of_activation := consistent.bound
  created_unique leftHere rightHere leftOrigin rightOrigin := by
    rcases consistent.created leftHere leftOrigin with ⟨code, present, bound⟩
    rcases consistent.created rightHere rightOrigin with ⟨other, otherPresent, otherBound⟩
    cases present.symm.trans otherPresent
    exact Option.some.inj (bound.symm.trans otherBound)

/-- Under every interleaving of the requests, the committed store is accounted for. -/
theorem storeAccounted_of_runs {τ : Type} [DecidableEq τ] (initial : Initial rows)
    {system : System τ Row ApiError Response}
    (run : ReflTransGen (System.Step IsRequest) { rows } system) : StoreAccounted system.rows := by
  have consistent : storeContract.Inv system.rows :=
    System.inv_of_runs initial.consistent
      (fun handler isRequest rows _ => sound_of_isRequest isRequest) run
  exact Consistent.accounted consistent

/-! ## A store with one code -/

theorem length_referenceUuid (number : UInt8) : (List.replicate 15 0 ++ [number]).length = 16 := rfl

def referenceUuid (number : UInt8) : Uuid :=
  ⟨List.replicate 15 0 ++ [number], length_referenceUuid number⟩

/-- The signer of the backend with one key. -/
def signer (libraries : Libraries) (keyId : String) (key : Key) (definition : LicenseDefinition) :
    Option (Bytes × String) :=
  match generate libraries.dalek libraries.rustPackages libraries.rustPayloads definition keyId
      key with
  | .ok package => some (package, keyId)
  | .error _ => none

/-- An environment that draws the given number in its ids. -/
def referenceEnvironment (number : UInt8) : Environment where
  now := 15000000
  clock := 15000000
  utcNow := 15000000
  finishedAt := 15000000
  rateLimited := false
  newLicense := referenceUuid (64 + number)
  newDevice := referenceUuid (128 + number)
  newActivation := referenceUuid (192 + number)
  newToken := referenceUuid (32 + number)
  opaqueToken := some (String.singleton (Char.ofNat (97 + number.toNat)))
  productCode _ := "product-qt"
  features _ := ["capture"]
  signingKey := some ("key-1", .zeros kKeySize)
  sign := signer referenceLibraries "key-1" (.zeros kKeySize)
  hashActivation := utf8
  hashToken := utf8
  sha256 := id
  dalek := referenceLibraries.dalek
  packages := referenceLibraries.rustPackages
  payloads := referenceLibraries.rustPayloads

def referenceActivation (machineId : String) (idempotencyKey : Option String) :
    ActivationRequest where
  protocolVersion := 1
  productId := "product-qt"
  activationCode := "YA-1"
  machineId := machineId
  idempotencyKey := idempotencyKey

/-- The request for one code with three slots. -/
def referenceCodes : Handler :=
  adminCreateCodes { productId := referenceUuid 1, activationLimit := some 3 } fun _ =>
    (referenceUuid 2, "YA-1", utf8 "YA-1")

/-- The code is created and used on one machine. -/
def referenceRequests : List Handler :=
  [referenceCodes, activate (referenceEnvironment 0) (referenceActivation "machine-1" (some "a"))]

/-- The store after the code is created and used on one machine. -/
def referenceStore : Store := (Program.runAll referenceRequests ∅ 0).1

theorem storeAccounted_reference :
    referenceStore.liveOfCode (referenceUuid 2) = 1 ∧ StoreAccounted referenceStore := by
  have initial : Initial (∅ : Store) := ⟨fun _ => rfl, fun _ => rfl, nofun⟩
  have all : ∀ handler ∈ referenceRequests, IsRequest handler := by
    intro handler member
    rcases List.mem_cons.mp member with rfl | member
    · exact .adminCreateCodes _ _
    · rw [List.mem_singleton.mp member]
      exact .activate _ _
  have accounted := storeAccounted_of_runs initial (runs_of_isRequest initial.consistent all 0)
  dsimp only at accounted
  exact ⟨by decide +kernel, accounted⟩

end YoAuthorize.Backend
