import YoAuthorize.Backend.DeviceBinding

/-!
# What `activate` locks and hands out

`activate` takes its locks in the order of `RowKey.rank`, up to the new
activation, whose id nobody else has.  When it commits, the activation of its
response is live, the license is active and locked, and the token is new.  Both
are read off one walk over the handler, among requests that keep `storeContract`
and `bindingContract`.
-/

namespace YoAuthorize.Backend

open Octets Crypto FlatBuffer License Transaction Relation

def requestContract : Contract Row := storeContract.both bindingContract

theorem kept_of_isRequest {held : RowKey → Prop} {rows : Store} {handler : Handler}
    (isRequest : IsRequest handler) : requestContract.Sound handler held [] rows :=
  (sound_of_isRequest isRequest).both (bound_of_isRequest isRequest)

/-- The order in which `activate` locks the tables. -/
def RowKey.rank : RowKey → Nat
  | .code _ => 0
  | .license _ => 1
  | .device _ => 2
  | .activation _ => 3
  | .token _ => 4
  | .event _ => 5

/-- The lock of a row that is held already or ranks above all held rows. -/
def InOrder (held : RowKey → Prop) (key : RowKey) : Prop :=
  held key ∨ ∀ other, held other → other.rank < key.rank

/-- A commit that hands out a new token for an activation that is not unbound, of
a license that is active before and after, and that changes no other activation. -/
structure HandsOut (response : ActivationResponse) (rows later : Store) : Prop where
  token : ∃ id token, rows.token id = none ∧ later.token id = some token ∧
    token.activationId = response.activationId ∧ token.revokedAt = none
  activation : ∃ row license, later.activation response.activationId = some row ∧
    row.live = true ∧ later.license row.licenseId = some license ∧ license.status = .active ∧
    ∀ old, rows.license row.licenseId = some old → old = license
  others : ∀ {id : Uuid}, id ≠ response.activationId → later.activation id = rows.activation id

/-- A log that writes no activation. -/
def Unactivated (log : List (Sigma Row)) : Prop :=
  ∀ version ∈ log, ∀ id, version.1 ≠ RowKey.activation id

theorem Unactivated.write {log : List (Sigma Row)} (unactivated : Unactivated log) {key : RowKey}
    (row : Row key) (apart : ∀ id, key ≠ .activation id) : Unactivated (log ++ [⟨key, row⟩]) := by
  intro version member id
  rcases List.mem_append.mp member with old | new
  · exact unactivated version old id
  · rw [List.mem_singleton.mp new]
    exact apart id

/-- The inserts of `activate` under an id that it has drawn. -/
inductive Inserts : Handler → RowKey → Prop
  | activation (env : Environment) (row : ActivationRow) :
      Inserts (insertActivation env row) (.activation env.newActivation)
  | token (env : Environment) (blob : Bytes) (activationId : Uuid) (token : String) :
      Inserts (insertToken env blob activationId token) (.token env.newToken)

/-- What `activate` does at each point. -/
def OnPath (program : Handler) (held : RowKey → Prop) (log : List (Sigma Row)) (rows : Store) :
    Prop :=
  match program with
  | .lock key next => key.rank ≤ 3 ∧ InOrder held key ∨ Inserts (.lock key next) key
  | .commit (.activated response) => HandsOut response rows (replay rows log)
  | _ => True

variable {held : RowKey → Prop} {log : List (Sigma Row)} {rows later : Store}

theorem active_of_validateLicenseState {license : LicenseRow} {time : Timestamp}
    (valid : validateLicenseState license time = .ok ()) : license.status = .active := by
  unfold validateLicenseState at valid
  split at valid
  · cases valid
  · rename_i active
    exact not_not.mp active

/-- The license is locked, active, and not changed by the request. -/
structure Ready (licenseId : Uuid) (license : LicenseRow) (held : RowKey → Prop)
    (log : List (Sigma Row)) (rows : Store) : Prop where
  holdsLicense : held (.license licenseId)
  licensed : Store.license (replay rows log) licenseId = some license
  active : license.status = .active
  before : ∀ old, rows.license licenseId = some old → old = license

section

variable {licenseId : Uuid} {license : LicenseRow}

theorem Ready.extend (ready : Ready licenseId license held log rows) {more : RowKey → Prop}
    (less : ∀ key, held key → more key) (moves : requestContract.Moves held rows later) :
    Ready licenseId license more log later where
  holdsLicense := less _ ready.holdsLicense
  licensed := (moves.lookup_replay ready.holdsLicense log).trans ready.licensed
  active := ready.active
  before old here := ready.before old ((moves.lookup ready.holdsLicense).symm.trans here)

theorem Ready.moves (ready : Ready licenseId license held log rows)
    (moves : requestContract.Moves held rows later) : Ready licenseId license held log later :=
  ready.extend (fun _ => id) moves

/-- A write to another table. -/
theorem Ready.write (ready : Ready licenseId license held log rows) (key : RowKey) (row : Row key)
    (apart : key ≠ .license licenseId) :
    Ready licenseId license held (log ++ [⟨key, row⟩]) rows where
  holdsLicense := ready.holdsLicense
  licensed := by
    rw [replay_append]
    exact (AList.lookup_insert_ne apart.symm).trans ready.licensed
  active := ready.active
  before := ready.before

variable (env : Environment) (request : ActivationRequest)

theorem path_insertToken (ready : Ready licenseId license held log rows) (blob : Bytes)
    {activationId : Uuid} (token : String)
    (holds : held (.activation activationId)) {row : ActivationRow}
    (present : Store.activation (replay rows log) activationId = some row)
    (live : row.live = true) (same : row.licenseId = licenseId)
    (only : ∀ version ∈ log, ∀ id, version.1 = RowKey.activation id → id = activationId) :
    requestContract.Throughout OnPath (insertToken env blob activationId token) held log rows := by
  apply Contract.Throughout.lock
  · intro now moves
    exact .inr (.token env blob activationId token)
  · intro now moves inv absent later laterMoves laterInv
    refine ⟨trivial, ?_⟩
    dsimp only
    split
    · exact fun _ _ _ => trivial
    · intro last lastMoves lastInv
      refine ⟨trivial, ?_⟩
      intro final finalMoves finalInv
      have locked := laterMoves.trans (lastMoves.trans finalMoves)
      have moved := moves.trans (locked.mono fun _ => Or.inr)
      have fresh : Store.token (replay final log) env.newToken = none :=
        (locked.lookup_replay (.inl rfl) log).trans absent
      have known : Store.activation (replay final log) activationId = some row :=
        (moved.lookup_replay holds log).trans present
      have ended := ready.moves moved
      let issued : TokenRow :=
        { activationId, tokenHash := env.hashToken token, expiresAt := tokenExpiry env }
      subst same
      refine ⟨⟨env.newToken, issued, lookup_eq_none_of_replay fresh, ?_, rfl, rfl⟩,
        ⟨row, license, ?_, live, ?_, ready.active, ended.before⟩, ?_⟩
      · rw [replay_append]
        exact AList.lookup_insert _
      · rw [replay_append]
        exact (Store.activation_insert_token ..).trans known
      · exact (ended.write (.token env.newToken) issued nofun).licensed
      · intro other apart
        rw [replay_append]
        refine (Store.activation_insert_token ..).trans (lookup_replay_of_unwritten final ?_)
        intro version member equal
        exact apart (only version member other equal)
  · intro found now moves inv here
    exact fun _ _ _ => trivial

theorem path_finishActivation (ready : Ready licenseId license held log rows) (blob : Bytes)
    {activationId : Uuid} (holds : held (.activation activationId)) {row : ActivationRow}
    (present : Store.activation (replay rows log) activationId = some row)
    (same : row.licenseId = licenseId)
    (only : ∀ version ∈ log, ∀ id, version.1 = RowKey.activation id → id = activationId) :
    requestContract.Throughout OnPath (finishActivation env blob activationId) held log rows := by
  apply Contract.Throughout.lock
  · intro now moves
    exact .inl ⟨Nat.le_refl 3, .inl holds⟩
  · intro now moves inv absent
    exact fun _ _ _ => trivial
  · intro found now moves inv here
    cases here.symm.trans ((moves.lookup_replay holds log).trans present)
    intro later laterMoves laterInv
    refine ⟨trivial, ?_⟩
    have moved := moves.trans (laterMoves.mono fun _ => Or.inr)
    dsimp only
    split
    · exact fun _ _ _ => trivial
    split
    · exact fun _ _ _ => trivial
    rename_i bound
    split
    · exact fun _ _ _ => trivial
    split
    · exact fun _ _ _ => trivial
    · refine path_insertToken env (ready.extend (fun _ => .inr) moved) blob _ (.inl rfl)
        ((moved.lookup_replay holds log).trans present) ?_ same only
      exact Option.isNone_iff_eq_none.mpr (Option.not_isSome_iff_eq_none.mp bound)

/-- The new activation takes the only lock out of order. -/
theorem path_insertActivation {row : ActivationRow}
    (ready : Ready row.licenseId license held log rows)
    (holdsCode : held (.code row.activationCodeId)) (unactivated : Unactivated log) :
    requestContract.Throughout OnPath (insertActivation env row) held log rows := by
  apply Contract.Throughout.lock
  · intro now moves
    exact .inr (.activation env row)
  · intro now moves inv absent next nextMoves nextInv
    refine ⟨trivial, ?_⟩
    dsimp only
    split
    · exact fun _ _ _ => trivial
    intro third thirdMoves thirdInv
    refine ⟨trivial, ?_⟩
    have moved := nextMoves.trans thirdMoves
    have inserted := ((ready.extend (fun _ => Or.inr) moves).moves moved).write
      (.activation env.newActivation) row nofun
    have here : Store.activation (replay third (log ++ [⟨.activation env.newActivation, row⟩]))
        env.newActivation = some row := by
      rw [replay_append]
      exact AList.lookup_insert _
    have only : ∀ version ∈ log ++ [⟨.activation env.newActivation, row⟩], ∀ id,
        version.1 = RowKey.activation id → id = env.newActivation := by
      intro version member id same
      rcases List.mem_append.mp member with old | new
      · exact absurd same (unactivated version old id)
      · rw [List.mem_singleton.mp new] at same
        exact (RowKey.activation.inj same).symm
    apply Contract.Throughout.lock
    · intro last lastMoves
      exact .inl ⟨Nat.zero_le 3, .inl (.inr holdsCode)⟩
    · intro last lastMoves lastInv missing
      exact path_finishActivation env (inserted.extend (fun _ => .inr) lastMoves) _
        (.inr (.inl rfl)) ((lastMoves.lookup_replay (.inl rfl) _).trans here) rfl only
    · intro code last lastMoves lastInv found
      dsimp only
      split
      · exact fun _ _ _ => trivial
      · intro final finalMoves finalInv
        refine ⟨trivial, ?_⟩
        have counted := ((inserted.extend (fun _ => Or.inr) lastMoves).moves finalMoves).write
          (.code row.activationCodeId)
          { code with activationCount := code.activationCount + 1 } nofun
        refine path_finishActivation env counted _ (.inr (.inl rfl)) ?_ rfl ?_
        · rw [replay_append]
          refine (Store.activation_insert_code ..).trans ?_
          exact (finalMoves.lookup_replay (.inr (.inl rfl)) _).trans
            ((lastMoves.lookup_replay (.inl rfl) _).trans here)
        · intro version member id same
          rcases List.mem_append.mp member with old | new
          · exact only version old id same
          · rw [List.mem_singleton.mp new] at same
            cases same
  · intro old now moves inv present
    exact fun _ _ _ => trivial

theorem path_newActivation (ready : Ready licenseId license held log rows) {codeId : Uuid}
    (holdsCode : held (.code codeId)) (unactivated : Unactivated log) (code : CodeRow)
    (deviceId : Uuid) :
    requestContract.Throughout OnPath
      (newActivation env request codeId code licenseId license deviceId) held log rows := by
  unfold newActivation
  split
  · exact fun _ _ _ => trivial
  intro now moves inv
  refine ⟨trivial, ?_⟩
  dsimp only
  split
  · exact fun _ _ _ => trivial
  split
  · exact fun _ _ _ => trivial
  · exact path_insertActivation env (ready.moves moves) holdsCode unactivated

theorem path_reuseActivation (ready : Ready licenseId license held log rows)
    (low : ∀ key, held key → key.rank ≤ 2) (unactivated : Unactivated log) (deviceId : Uuid)
    {next : Handler}
    (continues : ∀ (more : RowKey → Prop) (now : Store), (∀ key, held key → more key) →
      requestContract.Moves held rows now →
      requestContract.Throughout OnPath next more log now) :
    requestContract.Throughout OnPath (reuseActivation env licenseId deviceId next) held log
      rows := by
  intro first movesFirst invFirst
  refine ⟨trivial, ?_⟩
  dsimp only
  split
  · exact continues held first (fun _ => id) movesFirst
  · rename_i activationId _
    apply Contract.Throughout.lock
    · intro now moves
      exact .inl ⟨Nat.le_refl 3, .inr fun other owns => Nat.lt_succ_of_le (low other owns)⟩
    · intro now moves inv _
      exact continues _ now (fun _ => .inr) (movesFirst.trans moves)
    · intro row now moves inv present
      have moved := movesFirst.trans moves
      dsimp only
      split
      · rename_i accepted
        have accepted : row.live = true ∧ row.licenseId = licenseId ∧ row.deviceId = deviceId :=
          of_decide_eq_true accepted
        exact path_finishActivation env (ready.extend (fun _ => .inr) moved) _ (.inl rfl)
          present accepted.2.1 fun version member id equal =>
            absurd equal (unactivated version member id)
      · exact continues _ now (fun _ => .inr) moved

theorem path_upsertDevice (ready : Ready licenseId license held log rows)
    (low : ∀ key, held key → key.rank ≤ 1) (unactivated : Unactivated log)
    {next : Uuid → Handler} (continues : ∀ (deviceId : Uuid) (more : RowKey → Prop)
      (written : List (Sigma Row)) (now : Store), (∀ key, held key → more key) →
      (∀ key, more key → key.rank ≤ 2) → Ready licenseId license more written now →
      Unactivated written →
      requestContract.Throughout OnPath (next deviceId) more written now) :
    requestContract.Throughout OnPath (upsertDevice env request next) held log rows := by
  have lowNew : ∀ key, (key = RowKey.device (machineHash env request) ∨ held key) →
      key.rank ≤ 2 := by
    rintro key (rfl | owns)
    · exact Nat.le_refl 2
    · exact Nat.le_succ_of_le (low key owns)
  unfold upsertDevice
  split
  · exact fun _ _ _ => trivial
  apply Contract.Throughout.lock
  · intro now moves
    exact .inl ⟨Nat.le_succ 2, .inr fun other owns => Nat.lt_succ_of_le (low other owns)⟩
  · intro now moves inv absent later laterMoves laterInv
    refine ⟨trivial, ?_⟩
    dsimp only
    split
    · exact fun _ _ _ => trivial
    · intro last lastMoves lastInv
      refine ⟨trivial, continues _ _ _ last (fun _ => .inr) lowNew ?_
        (unactivated.write _ nofun)⟩
      exact ((ready.extend (fun _ => Or.inr) moves).moves (laterMoves.trans lastMoves)).write
        (.device _) _ nofun
  · intro device now moves inv present later laterMoves laterInv
    refine ⟨trivial, continues _ _ _ later (fun _ => .inr) lowNew ?_ (unactivated.write _ nofun)⟩
    exact ((ready.extend (fun _ => Or.inr) moves).moves laterMoves).write (.device _) _
      nofun

/-- A key that was recorded stays recorded, on a device that is there: what the
replay has found and locked it takes. -/
theorem path_replayActivation {codeId : Uuid} {code : CodeRow}
    (bound : Bound codeId licenseId code held log rows) (pending : Pending [] [] held log rows)
    (ready : Ready licenseId license held log rows) (low : ∀ key, held key → key.rank ≤ 1)
    {next : Handler} (continues : ∀ now, requestContract.Moves held rows now →
      requestContract.Throughout OnPath next held log now) :
    requestContract.Throughout OnPath (replayActivation env request codeId next) held log
      rows := by
  unfold replayActivation
  split
  · exact continues rows .refl
  rename_i key _
  intro first movesFirst invFirst
  refine ⟨trivial, ?_⟩
  dsimp only
  split
  · exact continues first movesFirst
  rename_i activationId located
  rcases Store.findActivation_eq_some located with ⟨old, presentFirst, recorded⟩
  rw [bound.activation] at presentFirst
  apply Contract.Throughout.lock
  · intro now moves
    exact .inl ⟨Nat.le_refl 3, .inr fun other owns =>
      (Nat.lt_succ_of_le (low other owns)).trans (by decide : 2 < 3)⟩
  · intro now moves inv absent
    rcases activation_of_bindingMoves moves.right presentFirst with ⟨row, present, -⟩
    cases absent.symm.trans ((bound.activation now activationId).trans present)
  · intro row now moves inv present
    have recordedNow : row.recordedFor codeId key = true := by
      rcases activation_of_bindingMoves moves.right presentFirst with ⟨new, here, becomes⟩
      cases present.symm.trans ((bound.activation now activationId).trans here)
      rw [becomes.recordedFor]
      exact recorded
    dsimp only
    rw [if_pos recordedNow]
    intro later laterMoves laterInv
    refine ⟨trivial, ?_⟩
    have moved := (movesFirst.trans moves).trans (laterMoves.mono fun _ => Or.inr)
    have here : Store.activation (replay later log) activationId = some row :=
      (laterMoves.lookup_replay (.inl rfl) log).trans present
    dsimp only
    split
    · rename_i unknown
      rcases (pending later moved.right laterInv.2).1.housed here with ⟨hash, device, found, same⟩
      exact absurd same (Store.deviceHash_eq_none unknown found)
    split
    · exact fun _ _ _ => trivial
    split
    · exact fun _ _ _ => trivial
    · have ofCode : row.activationCodeId = codeId := (of_decide_eq_true recordedNow).1
      have same : row.licenseId = licenseId := by
        rcases (bound.settled later moved.left laterInv.1).1.bound here with ⟨found, coded, known⟩
        rw [ofCode] at coded
        have bound := bound.extend (fun _ => id) moved.left
        cases coded.symm.trans bound.coded
        exact (Option.some.inj known).symm
      exact path_finishActivation env (ready.extend (fun _ => .inr) moved) _ (.inl rfl) here
        same fun version member id equal => absurd equal (bound.unwritten version member id)

/-- A license that the request has not changed, or that it has created. -/
def Unchanged (licenseId : Uuid) (held : RowKey → Prop) (log : List (Sigma Row)) (rows : Store) :
    Prop :=
  (∀ version ∈ log, version.1 ≠ RowKey.license licenseId) ∨
    held (.license licenseId) ∧ rows.license licenseId = none

theorem path_activateLicense {codeId : Uuid} {code : CodeRow}
    (bound : Bound codeId licenseId code held log rows) (pending : Pending [] [] held log rows)
    (low : ∀ key, held key → key.rank ≤ 1)
    (first : held (.license licenseId) ∨ ∀ key, held key → key.rank ≤ 0)
    (unchanged : Unchanged licenseId held log rows) :
    requestContract.Throughout OnPath (activateLicense env request codeId code licenseId) held log
      rows := by
  apply Contract.Throughout.lock
  · intro now moves
    exact .inl ⟨(by decide : 1 ≤ 3),
      first.imp_right fun least other owns => Nat.lt_succ_of_le (least other owns)⟩
  · intro now moves inv absent
    exact fun _ _ _ => trivial
  · intro license now moves inv present
    have lowNew : ∀ key, (key = RowKey.license licenseId ∨ held key) → key.rank ≤ 1 := by
      rintro key (rfl | owns)
      · exact Nat.le_refl 1
      · exact low key owns
    dsimp only
    split
    · exact fun _ _ _ => trivial
    split
    · exact fun _ _ _ => trivial
    · rename_i valid
      have ready : Ready licenseId license (fun other => other = .license licenseId ∨ held other)
          log now := by
        refine ⟨.inl rfl, present, ?_, ?_⟩
        · exact active_of_validateLicenseState valid
        · intro old here
          rcases unchanged with unwritten | ⟨holds, absent⟩
          · have same := (lookup_replay_of_unwritten now unwritten).symm.trans present
            exact Option.some.inj (here.symm.trans same)
          · cases here.symm.trans ((moves.lookup holds).trans absent)
      refine path_replayActivation env request (bound.extend (fun _ => .inr) moves.left)
        (pending.lock moves.right _) ready lowNew ?_
      intro later laterMoves
      refine path_upsertDevice env request (ready.moves laterMoves) lowNew bound.unwritten ?_
      intro deviceId most written last less lowMost lastReady unactivated
      refine path_reuseActivation env lastReady lowMost unactivated deviceId ?_
      intro all final lessAll finalMoves
      exact path_newActivation env request (lastReady.extend lessAll finalMoves)
        (lessAll _ (less _ (.inr bound.holdsCode))) unactivated code deviceId

theorem path_withLicense {codeId : Uuid} {code : CodeRow} (holds : held (.code codeId))
    (least : ∀ key, held key → key.rank ≤ 0) (coded : rows.code codeId = some code)
    {next : Uuid → Handler} (continues : ∀ (licenseId : Uuid) (more : RowKey → Prop)
      (log : List (Sigma Row)) (now : Store), Bound codeId licenseId code more log now →
      Pending [] [] more log now → (∀ key, more key → key.rank ≤ 1) →
      (more (.license licenseId) ∨ ∀ key, more key → key.rank ≤ 0) →
      Unchanged licenseId more log now →
      requestContract.Throughout OnPath (next licenseId) more log now) :
    requestContract.Throughout OnPath (withLicense env codeId code next) held [] rows := by
  unfold withLicense
  split
  · rename_i licenseId known
    refine continues licenseId held [] rows ⟨holds, settled_nil, ?_, nofun⟩ Pending.nil
      (fun key owns => (least key owns).trans (by decide)) (.inr least) (.inl nofun)
    rw [← known]
    exact coded
  · rename_i unbound
    apply Contract.Throughout.lock
    · intro now moves
      exact .inl ⟨(by decide : 1 ≤ 3),
        .inr fun other owns => Nat.lt_succ_of_le (least other owns)⟩
    · intro now moves inv absent later laterMoves laterInv
      refine ⟨trivial, ?_⟩
      apply Contract.Throughout.lock
      · intro last lastMoves
        exact .inl ⟨Nat.zero_le 3, .inl (.inr holds)⟩
      · intro last lastMoves lastInv missing
        have here : Store.code last codeId = some code :=
          ((laterMoves.trans lastMoves).lookup (.inr holds)).trans
            ((moves.lookup holds).trans coded)
        cases missing.symm.trans ((Store.code_insert_license ..).trans here)
      · intro row last lastMoves lastInv found
        have moved := laterMoves.trans lastMoves
        have codedLast : Store.code last codeId = some code :=
          (moved.lookup (.inr holds)).trans ((moves.lookup holds).trans coded)
        have absentLast : Store.license last env.newLicense = none :=
          (moved.lookup (.inl rfl)).trans absent
        cases found.symm.trans ((Store.code_insert_license ..).trans codedLast)
        intro final finalMoves finalInv
        refine ⟨trivial, continues env.newLicense _ _ final ?_ ?_ ?_ ?_ ?_⟩
        · exact (bound_of_created (.inl rfl) (.inr (.inl rfl)) codedLast unbound absentLast
            rfl).extend (fun _ => id) finalMoves.left
        · exact (Pending.nil.write_license env.newLicense _).write_code codeId _
        · rintro key (rfl | rfl | owns)
          · exact Nat.zero_le 1
          · exact Nat.le_refl 1
          · exact (least key owns).trans (by decide)
        · exact .inl (.inr (.inl rfl))
        · exact .inr ⟨.inr (.inl rfl), (finalMoves.lookup (.inr (.inl rfl))).trans absentLast⟩
    · intro row now moves inv present
      exact fun _ _ _ => trivial

theorem path_activate :
    requestContract.Throughout OnPath (activate env request) (fun _ => False) [] rows := by
  unfold activate
  split
  · exact fun _ _ _ => trivial
  split
  · exact fun _ _ _ => trivial
  intro first movesFirst invFirst
  refine ⟨trivial, ?_⟩
  dsimp only
  split
  · exact fun _ _ _ => trivial
  rename_i codeId _
  apply Contract.Throughout.lock
  · intro now moves
    exact .inl ⟨Nat.zero_le 3, .inr nofun⟩
  · intro now moves inv absent
    exact fun _ _ _ => trivial
  · intro code now moves inv present
    dsimp only
    split
    · split
      · exact fun _ _ _ => trivial
      · refine path_withLicense env (.inl rfl) ?_ present ?_
        · rintro key (rfl | owns)
          · exact Nat.le_refl 0
          · cases owns
        · intro licenseId more log later bound pending low first unchanged
          exact path_activateLicense env request bound pending low first unchanged
    · exact fun _ _ _ => trivial

end

/-! ## A license with an owner -/

theorem Initial.detached {rows : Store} (initial : Initial rows) : Detached [] [] rows where
  housed present := by
    rw [initial.activations] at present
    cases present
  revoked _ present := by
    rw [initial.activations] at present
    cases present
  announced present := by
    rw [initial.activations] at present
    cases present

def ownedLicense : LicenseRow where
  productId := referenceUuid 1
  userId := some (referenceUuid 9)
  licenseType := .permanent
  notBefore := 0
  deviceLimit := 3

def ownedStore : Store := (∅ : Store).insert (.license (referenceUuid 3)) ownedLicense

theorem ownedStore_initial : Initial ownedStore := by
  refine ⟨fun id => Store.code_insert_license .., fun id => Store.activation_insert_license .., ?_⟩
  intro id license present
  rw [ownedStore, Store.license_insert] at present
  split at present
  · cases present
    rfl
  · cases present

/-- The request for one code of the license. -/
def ownedCodes : Handler :=
  adminCreateCodes
    { productId := referenceUuid 1
      licenseId := some (referenceUuid 3)
      activationLimit := some 3 }
    fun _ => (referenceUuid 2, "YA-1", utf8 "YA-1")

/-- The code is created and used on a machine. -/
def boundRequests : List Handler :=
  [ownedCodes, activate (referenceEnvironment 0) (referenceActivation "machine-1" (some "a"))]

theorem boundRequests_isRequest : ∀ handler ∈ boundRequests, IsRequest handler := by
  intro handler member
  rcases List.mem_cons.mp member with rfl | member
  · exact .adminCreateCodes _ _
  · rw [List.mem_singleton.mp member]
    exact .activate _ _

/-- The store after these requests. -/
def boundStore : Store := (Program.runAll boundRequests ownedStore 0).1

theorem boundStore_kept : requestContract.Inv boundStore := by
  have inv := @System.inv_of_runs _ _ _ _ _ _ _ requestContract _ _ _ _
    ⟨ownedStore_initial.consistent, ownedStore_initial.detached⟩
    (fun _ isRequest _ _ => kept_of_isRequest isRequest)
    (runs_of_isRequest ownedStore_initial.consistent boundRequests_isRequest 0)
  dsimp only at inv
  exact inv

end YoAuthorize.Backend
