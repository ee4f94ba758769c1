import YoAuthorize.Backend.StoreSafety

/-!
# Devices, tokens and events of an activation

What the handlers keep about the rows around an activation.  Its device is
there, and once it is unbound its tokens are revoked and an event says so;
`Detached` names the activations for which an open `unbind_device` has still to
do one of the two.  A commit leaves the activations, the devices and the events
in place, and a commit that makes a token valid has locked its activation
(`Persists`).  `bindingContract` is the contract of both.
-/

namespace YoAuthorize.Backend

open Octets Crypto FlatBuffer License Transaction Relation

/-! ## The contract -/

/-- An activation changes only when it is unbound. -/
def ActivationRow.Becomes (old new : ActivationRow) : Prop :=
  new = old ∨ old.live = true ∧ ∃ time, new = { old with unboundAt := some time }

section

variable {old new newer : ActivationRow}

theorem ActivationRow.Becomes.refl (row : ActivationRow) : row.Becomes row := .inl rfl

theorem ActivationRow.Becomes.trans (first : old.Becomes new) (second : new.Becomes newer) :
    old.Becomes newer := by
  rcases first with rfl | ⟨live, time, rfl⟩
  · exact second
  · rcases second with rfl | ⟨alive, later, rfl⟩
    · exact .inr ⟨live, time, rfl⟩
    · cases alive

theorem ActivationRow.Becomes.eq_of_live (becomes : old.Becomes new) (live : new.live = true) :
    new = old := by
  rcases becomes with same | ⟨-, time, rfl⟩
  · exact same
  · cases live

theorem ActivationRow.Becomes.recordedFor (becomes : old.Becomes new) (codeId : Uuid)
    (key : String) : new.recordedFor codeId key = old.recordedFor codeId key := by
  rcases becomes with rfl | ⟨-, time, rfl⟩
  · rfl
  · rfl

theorem ActivationRow.Becomes.deviceId (becomes : old.Becomes new) :
    new.deviceId = old.deviceId := by
  rcases becomes with rfl | ⟨-, time, rfl⟩
  · rfl
  · rfl

theorem ActivationRow.Becomes.activationCodeId (becomes : old.Becomes new) :
    new.activationCodeId = old.activationCodeId := by
  rcases becomes with rfl | ⟨-, time, rfl⟩
  · rfl
  · rfl

end

/-- The device of an activation is there, and an activation that is unbound has
no valid token and an event, up to those still to be treated. -/
structure Detached (unrevoked unannounced : List Uuid) (rows : Store) : Prop where
  housed : ∀ {id : Uuid} {row : ActivationRow}, rows.activation id = some row →
    ∃ hash device, rows.device hash = some device ∧ device.id = row.deviceId
  revoked : ∀ {id : Uuid} {token : TokenRow} {row : ActivationRow}, rows.token id = some token →
    rows.activation token.activationId = some row → row.live = false →
    token.revokedAt = none → token.activationId ∈ unrevoked
  announced : ∀ {id : Uuid} {row : ActivationRow}, rows.activation id = some row →
    row.live = false → id ∉ unannounced →
    ∃ number event, rows.event number = some event ∧ event.topic = .deviceUnbound ∧
      event.aggregateId = id

structure Persists (held : RowKey → Prop) (rows later : Store) : Prop where
  token : ∀ {id : Uuid} {token : TokenRow}, later.token id = some token →
    token.revokedAt = none → rows.token id = some token ∨ held (.activation token.activationId)
  issued : ∀ {id : Uuid} {old : TokenRow}, rows.token id = some old →
    ∃ new, later.token id = some new ∧ new.activationId = old.activationId
  activation : ∀ {id : Uuid} {old : ActivationRow}, rows.activation id = some old →
    ∃ new, later.activation id = some new ∧ old.Becomes new
  device : ∀ {hash : Bytes} {old : DeviceRow}, rows.device hash = some old →
    ∃ new, later.device hash = some new ∧ new.id = old.id
  event : ∀ {number : Nat} {event : EventRow}, rows.event number = some event →
    later.event number = some event

def bindingContract : Contract Row where
  Inv rows := Detached [] [] rows
  Guarantee held rows later := Persists held rows later

theorem bindingContract_monotone : bindingContract.Monotone := by
  intro held more rows later less persists
  exact { persists with
    token := fun here valid => (persists.token here valid).imp_right (less _) }

variable {held : RowKey → Prop} {log : List (Sigma Row)} {rows later : Store}

theorem Persists.refl (rows : Store) : Persists held rows rows where
  token here _ := .inl here
  issued here := ⟨_, here, rfl⟩
  activation here := ⟨_, here, .refl _⟩
  device here := ⟨_, here, rfl⟩
  event here := here

/-! ## What others may do -/

theorem activation_of_bindingMoves (moves : bindingContract.Moves held rows later) {id : Uuid}
    {old : ActivationRow} (here : rows.activation id = some old) :
    ∃ new, later.activation id = some new ∧ old.Becomes new := by
  induction moves with
  | refl => exact ⟨old, here, .refl old⟩
  | tail _ commit ih =>
      rcases commit with ⟨other, -, -, persists, -⟩
      rcases ih with ⟨middle, present, first⟩
      rcases persists.activation present with ⟨new, found, second⟩
      exact ⟨new, found, first.trans second⟩

/-- While an activation is locked, nobody else gives it a valid token. -/
theorem token_of_bindingMoves (moves : bindingContract.Moves held rows later) {id : Uuid}
    {token : TokenRow} (here : later.token id = some token) (valid : token.revokedAt = none)
    (holds : held (.activation token.activationId)) : rows.token id = some token := by
  induction moves with
  | refl => exact here
  | tail _ commit ih =>
      rcases commit with ⟨other, apart, -, persists, -⟩
      rcases persists.token here valid with same | owned
      · exact ih same
      · exact absurd holds (apart _ owned)

/-- A token stays that of its activation. -/
theorem issued_of_bindingMoves (moves : bindingContract.Moves held rows later) {id : Uuid}
    {old : TokenRow} (here : rows.token id = some old) :
    ∃ new, later.token id = some new ∧ new.activationId = old.activationId := by
  induction moves with
  | refl => exact ⟨old, here, rfl⟩
  | tail _ commit ih =>
      rcases commit with ⟨other, -, -, persists, -⟩
      rcases ih with ⟨middle, present, first⟩
      rcases persists.issued present with ⟨new, found, second⟩
      exact ⟨new, found, second.trans first⟩

/-! ## Writes -/

/-- What may be written over the given rows. -/
def MayWrite (held : RowKey → Prop) (rows : Store) : (key : RowKey) → Row key → Prop
  | .code _, _ => True
  | .license _, _ => True
  | .device hash, row => ∀ old, rows.device hash = some old → row.id = old.id
  | .activation id, row => ∀ old, rows.activation id = some old → old.Becomes row
  | .token id, row => (∀ old, rows.token id = some old → row.activationId = old.activationId) ∧
      (row.revokedAt = none → held (.activation row.activationId))
  | .event number, _ => rows.event number = none

theorem Persists.insert (persists : Persists held rows later) {key : RowKey} {row : Row key}
    (may : MayWrite held later key row) : Persists held rows (later.insert key row) := by
  refine ⟨?_, ?_, ?_, ?_, ?_⟩
  · intro id token here valid
    cases key with
    | token other =>
        rw [Store.token_insert] at here
        split at here
        · cases here
          exact .inr (may.2 valid)
        · exact persists.token here valid
    | code | license | device | activation | event =>
        rw [Store.token_insert_of_ne row nofun] at here
        exact persists.token here valid
  · intro id old here
    rcases persists.issued here with ⟨new, present, same⟩
    cases key with
    | token other =>
        rw [Store.token_insert]
        split
        · rename_i equal
          subst equal
          exact ⟨row, rfl, (may.1 new present).trans same⟩
        · exact ⟨new, present, same⟩
    | code | license | device | activation | event =>
        rw [Store.token_insert_of_ne row nofun]
        exact ⟨new, present, same⟩
  · intro id old here
    rcases persists.activation here with ⟨new, present, becomes⟩
    cases key with
    | activation other =>
        rw [Store.activation_insert]
        split
        · rename_i same
          subst same
          exact ⟨row, rfl, becomes.trans (may new present)⟩
        · exact ⟨new, present, becomes⟩
    | code | license | device | token | event =>
        rw [Store.activation_insert_of_ne row nofun]
        exact ⟨new, present, becomes⟩
  · intro hash old here
    rcases persists.device here with ⟨new, present, same⟩
    cases key with
    | device other =>
        rw [Store.device_insert]
        split
        · rename_i equal
          subst equal
          exact ⟨row, rfl, (may new present).trans same⟩
        · exact ⟨new, present, same⟩
    | code | license | activation | token | event =>
        rw [Store.device_insert_of_ne row nofun]
        exact ⟨new, present, same⟩
  · intro number event here
    have present := persists.event here
    have apart : key ≠ .event number := by
      rintro rfl
      cases present.symm.trans may
    rw [Store.event_insert_of_ne row apart]
    exact present

namespace Detached

variable {unrevoked unannounced : List Uuid}

/-- A row of `activation_codes` or `licenses`. -/
theorem insert_quiet (detached : Detached unrevoked unannounced rows) (key : RowKey)
    (row : Row key) (quiet : ∀ id hash number, key ≠ .activation id ∧ key ≠ .token id ∧
      key ≠ .device hash ∧ key ≠ .event number) :
    Detached unrevoked unannounced (rows.insert key row) where
  housed := by
    intro id activation present
    rw [Store.activation_insert_of_ne row (quiet id [] 0).1] at present
    rcases detached.housed present with ⟨hash, device, here, same⟩
    exact ⟨hash, device, (Store.device_insert_of_ne row (quiet id hash 0).2.2.1).trans here, same⟩
  revoked := by
    intro id token activation here present
    rw [Store.token_insert_of_ne row (quiet id [] 0).2.1] at here
    rw [Store.activation_insert_of_ne row (quiet _ [] 0).1] at present
    exact detached.revoked here present
  announced := by
    intro id activation present dead outside
    rw [Store.activation_insert_of_ne row (quiet id [] 0).1] at present
    rcases detached.announced present dead outside with ⟨number, event, here, topic, aggregate⟩
    exact ⟨number, event,
      (Store.event_insert_of_ne row (quiet id [] number).2.2.2).trans here, topic, aggregate⟩

theorem insert_device (detached : Detached unrevoked unannounced rows) {hash : Bytes}
    {device : DeviceRow} (same : ∀ old, rows.device hash = some old → device.id = old.id) :
    Detached unrevoked unannounced (rows.insert (.device hash) device) where
  housed := by
    intro id activation present
    rw [Store.activation_insert_device] at present
    rcases detached.housed present with ⟨other, found, here, equal⟩
    refine ⟨other, ?_⟩
    rw [Store.device_insert]
    split
    · rename_i here'
      subst here'
      exact ⟨device, rfl, (same found here).trans equal⟩
    · exact ⟨found, here, equal⟩
  revoked := by
    intro id token activation here present
    rw [Store.token_insert_device] at here
    rw [Store.activation_insert_device] at present
    exact detached.revoked here present
  announced := by
    intro id activation present dead outside
    rw [Store.activation_insert_device] at present
    rcases detached.announced present dead outside with ⟨number, event, here, known⟩
    exact ⟨number, event, (Store.event_insert_device ..).trans here, known⟩

/-- A live activation on a device that is there. -/
theorem insert_activation (detached : Detached unrevoked unannounced rows) {id : Uuid}
    {row : ActivationRow} (live : row.live = true) {hash : Bytes} {device : DeviceRow}
    (present : rows.device hash = some device) (same : device.id = row.deviceId) :
    Detached unrevoked unannounced (rows.insert (.activation id) row) where
  housed := by
    intro other activation here
    rw [Store.activation_insert] at here
    split at here
    · cases here
      exact ⟨hash, device, (Store.device_insert_activation ..).trans present, same⟩
    · rcases detached.housed here with ⟨otherHash, found, known, equal⟩
      exact ⟨otherHash, found, (Store.device_insert_activation ..).trans known, equal⟩
  revoked := by
    intro other token activation here found dead
    rw [Store.token_insert_activation] at here
    rw [Store.activation_insert] at found
    split at found
    · cases found
      cases live.symm.trans dead
    · exact detached.revoked here found dead
  announced := by
    intro other activation here dead outside
    rw [Store.activation_insert] at here
    split at here
    · cases here
      cases live.symm.trans dead
    · rcases detached.announced here dead outside with ⟨number, event, known, topic⟩
      exact ⟨number, event, (Store.event_insert_activation ..).trans known, topic⟩

/-- An activation that is unbound is still to be treated. -/
theorem unbind_activation (detached : Detached unrevoked unannounced rows) {id : Uuid}
    {row : ActivationRow} (time : Timestamp) (present : rows.activation id = some row) :
    Detached (unrevoked ++ [id]) (unannounced ++ [id])
      (rows.insert (.activation id) { row with unboundAt := some time }) where
  housed := by
    intro other activation here
    rw [Store.activation_insert] at here
    split at here
    · cases here
      rcases detached.housed present with ⟨hash, device, known, equal⟩
      exact ⟨hash, device, (Store.device_insert_activation ..).trans known, equal⟩
    · rcases detached.housed here with ⟨hash, device, known, equal⟩
      exact ⟨hash, device, (Store.device_insert_activation ..).trans known, equal⟩
  revoked := by
    intro other token activation here found dead valid
    rw [Store.token_insert_activation] at here
    rw [Store.activation_insert] at found
    split at found
    · rename_i same
      exact List.mem_append_right _ (List.mem_singleton.mpr same)
    · exact List.mem_append_left _ (detached.revoked here found dead valid)
  announced := by
    intro other activation here dead outside
    rw [List.mem_append, not_or, List.mem_singleton] at outside
    rw [Store.activation_insert, if_neg outside.2] at here
    rcases detached.announced here dead outside.1 with ⟨number, event, known, topic⟩
    exact ⟨number, event, (Store.event_insert_activation ..).trans known, topic⟩

/-- A token that is revoked, or whose activation is live. -/
theorem insert_token (detached : Detached unrevoked unannounced rows) {id : Uuid}
    {token : TokenRow} (fine : token.revokedAt = none → ∀ row,
      rows.activation token.activationId = some row → row.live = true) :
    Detached unrevoked unannounced (rows.insert (.token id) token) where
  housed := by
    intro other activation here
    rw [Store.activation_insert_token] at here
    rcases detached.housed here with ⟨hash, device, known, equal⟩
    exact ⟨hash, device, (Store.device_insert_token ..).trans known, equal⟩
  revoked := by
    intro other found activation here present dead valid
    rw [Store.activation_insert_token] at present
    rw [Store.token_insert] at here
    split at here
    · cases here
      cases dead.symm.trans (fine valid _ present)
    · exact detached.revoked here present dead valid
  announced := by
    intro other activation here dead outside
    rw [Store.activation_insert_token] at here
    rcases detached.announced here dead outside with ⟨number, event, known, topic⟩
    exact ⟨number, event, (Store.event_insert_token ..).trans known, topic⟩

theorem insert_event (detached : Detached unrevoked unannounced rows) {number : Nat}
    (event : EventRow) (absent : rows.event number = none) :
    Detached unrevoked unannounced (rows.insert (.event number) event) where
  housed := by
    intro other activation here
    rw [Store.activation_insert_event] at here
    rcases detached.housed here with ⟨hash, device, known, equal⟩
    exact ⟨hash, device, (Store.device_insert_event ..).trans known, equal⟩
  revoked := by
    intro other token activation here present
    rw [Store.token_insert_event] at here
    rw [Store.activation_insert_event] at present
    exact detached.revoked here present
  announced := by
    intro other activation here dead outside
    rw [Store.activation_insert_event] at here
    rcases detached.announced here dead outside with ⟨old, found, known, topic⟩
    have apart : RowKey.event old ≠ RowKey.event number := by
      intro same
      cases same
      cases absent.symm.trans known
    exact ⟨old, found, (AList.lookup_insert_ne apart).trans known, topic⟩

/-- The event that an activation was unbound. -/
theorem announce {id : Uuid} (detached : Detached unrevoked (id :: unannounced) rows)
    {number : Nat} {event : EventRow} (absent : rows.event number = none)
    (topic : event.topic = .deviceUnbound) (aggregate : event.aggregateId = id) :
    Detached unrevoked unannounced (rows.insert (.event number) event) where
  housed := (detached.insert_event event absent).housed
  revoked := (detached.insert_event event absent).revoked
  announced := by
    intro other activation here dead outside
    by_cases same : other = id
    · exact ⟨number, event, AList.lookup_insert rows, topic, aggregate.trans same.symm⟩
    · refine (detached.insert_event event absent).announced here dead ?_
      rw [List.mem_cons, not_or]
      exact ⟨same, outside⟩

end Detached

/-! ## Requests in progress -/

/-- The writes so far may be committed, up to the activations still to be treated. -/
def Pending (unrevoked unannounced : List Uuid) (held : RowKey → Prop) (log : List (Sigma Row))
    (rows : Store) : Prop :=
  ∀ now, bindingContract.Moves held rows now → bindingContract.Inv now →
    Detached unrevoked unannounced (replay now log) ∧ Persists held now (replay now log)

namespace Pending

variable {unrevoked unannounced : List Uuid}

theorem nil : Pending [] [] held [] rows :=
  fun now _ inv => ⟨inv, .refl now⟩

theorem moves (pending : Pending unrevoked unannounced held log rows)
    (moves : bindingContract.Moves held rows later) :
    Pending unrevoked unannounced held log later :=
  fun now next => pending now (moves.trans next)

theorem extend (pending : Pending unrevoked unannounced held log rows) {more : RowKey → Prop}
    (less : ∀ key, held key → more key) (moves : bindingContract.Moves held rows later) :
    Pending unrevoked unannounced more log later := by
  intro now next inv
  rcases pending now (moves.trans (next.mono less)) inv with ⟨detached, persists⟩
  exact ⟨detached, bindingContract_monotone less persists⟩

theorem lock (pending : Pending unrevoked unannounced held log rows)
    (moves : bindingContract.Moves held rows later) (key : RowKey) :
    Pending unrevoked unannounced (fun other => other = key ∨ held other) log later :=
  pending.extend (fun _ => .inr) moves

/-- One more write. -/
theorem write (pending : Pending unrevoked unannounced held log rows) {key : RowKey}
    {row : Row key} {stillUnrevoked stillUnannounced : List Uuid}
    (keeps : ∀ now, bindingContract.Moves held rows now →
      Detached unrevoked unannounced (replay now log) →
        Detached stillUnrevoked stillUnannounced ((replay now log).insert key row) ∧
          MayWrite held (replay now log) key row) :
    Pending stillUnrevoked stillUnannounced held (log ++ [⟨key, row⟩]) rows := by
  intro now moves inv
  rcases pending now moves inv with ⟨detached, persists⟩
  rcases keeps now moves detached with ⟨kept, may⟩
  rw [replay_append]
  exact ⟨kept, persists.insert may⟩

theorem write_code (pending : Pending unrevoked unannounced held log rows) (id : Uuid)
    (code : CodeRow) : Pending unrevoked unannounced held (log ++ [⟨.code id, code⟩]) rows := by
  apply pending.write
  intro now moves detached
  exact ⟨detached.insert_quiet (.code id) code fun _ _ _ => ⟨nofun, nofun, nofun, nofun⟩, trivial⟩

theorem write_license (pending : Pending unrevoked unannounced held log rows) (id : Uuid)
    (license : LicenseRow) :
    Pending unrevoked unannounced held (log ++ [⟨.license id, license⟩]) rows := by
  apply pending.write
  intro now moves detached
  exact ⟨detached.insert_quiet (.license id) license fun _ _ _ => ⟨nofun, nofun, nofun, nofun⟩,
    trivial⟩

theorem insert_event (pending : Pending unrevoked unannounced held log rows) {number : Nat}
    (event : EventRow) (holds : held (.event number))
    (absent : Store.event (replay rows log) number = none) :
    Pending unrevoked unannounced held (log ++ [⟨.event number, event⟩]) rows := by
  apply pending.write
  intro now moves detached
  have here : Store.event (replay now log) number = none :=
    (moves.lookup_replay holds log).trans absent
  exact ⟨detached.insert_event event here, here⟩

end Pending

/-! ## `unbind_device` -/

/-- Nobody gives the activation a valid token that is not in the list. -/
def Listed (activationId : Uuid) (tokens : List Uuid) (held : RowKey → Prop)
    (log : List (Sigma Row)) (rows : Store) : Prop :=
  ∀ now, bindingContract.Moves held rows now → ∀ id token,
    Store.token (replay now log) id = some token → token.unrevokedOf activationId = true →
      id ∈ tokens

section

variable {activationId : Uuid} {unrevoked unannounced tokens : List Uuid}

theorem Listed.extend (listed : Listed activationId tokens held log rows) {more : RowKey → Prop}
    (less : ∀ key, held key → more key) (moves : bindingContract.Moves held rows later) :
    Listed activationId tokens more log later :=
  fun now next => listed now (moves.trans (next.mono less))

/-- The snapshot of an activation that is locked shows all its valid tokens. -/
theorem listed_of_snapshot (holds : held (.activation activationId)) :
    Listed activationId
      ((Store.tokens (replay rows log)).filterMap fun entry =>
        if entry.2.unrevokedOf activationId then some entry.1 else none) held log rows := by
  intro now moves id token here valid
  have fresh : Store.token (replay rows log) id = some token := by
    have same : token.activationId = activationId ∧ token.revokedAt = none :=
      of_decide_eq_true valid
    by_cases written : ∃ version ∈ log, version.1 = RowKey.token id
    · exact (lookup_replay_of_written written now rows).symm.trans here
    · have unwritten : ∀ version ∈ log, version.1 ≠ RowKey.token id :=
        fun version member equal => written ⟨version, member, equal⟩
      have committed : Store.token now id = some token :=
        (lookup_replay_of_unwritten now unwritten).symm.trans here
      have before := token_of_bindingMoves moves committed same.2 (same.1.symm ▸ holds)
      exact (lookup_replay_of_unwritten rows unwritten).trans before
  refine List.mem_filterMap.mpr ⟨(id, token), Store.mem_tokens.mpr fresh, ?_⟩
  exact if_pos valid

/-- A token that is locked and not valid leaves the list. -/
theorem Listed.tail {tokenId : Uuid}
    (listed : Listed activationId (tokenId :: tokens) held log rows)
    (holds : held (.token tokenId)) (invalid : ∀ token,
      Store.token (replay rows log) tokenId = some token →
        token.unrevokedOf activationId = false) :
    Listed activationId tokens held log rows := by
  intro now moves id token here valid
  rcases List.mem_cons.mp (listed now moves id token here valid) with same | member
  · subst same
    have known := (moves.lookup_replay holds log).symm.trans here
    cases valid.symm.trans (invalid token known)
  · exact member

theorem bound_revokeTokens (pending : Pending (activationId :: unrevoked) unannounced held log rows)
    (listed : Listed activationId tokens held log rows) (time : Timestamp) {next : Handler}
    (continues : ∀ (more : RowKey → Prop) (written : List (Sigma Row)) (now : Store),
      (∀ key, held key → more key) → Pending unrevoked unannounced more written now →
      bindingContract.Sound next more written now) :
    bindingContract.Sound (revokeTokens time activationId next tokens) held log rows := by
  induction tokens generalizing held log rows with
  | nil =>
      refine continues held log rows (fun _ => id) ?_
      intro now moves inv
      rcases pending now moves inv with ⟨detached, persists⟩
      refine ⟨{ detached with revoked := ?_ }, persists⟩
      intro id token row here present dead valid
      rcases List.mem_cons.mp (detached.revoked here present dead valid) with same | member
      · cases listed now moves id token here (decide_eq_true ⟨same, valid⟩)
      · exact member
  | cons tokenId tokens ih =>
      have rest (more : RowKey → Prop) (written : List (Sigma Row)) (now : Store)
          (less : ∀ key, (fun other => other = RowKey.token tokenId ∨ held other) key → more key)
          (treated : Pending unrevoked unannounced more written now) :
          bindingContract.Sound next more written now :=
        continues more written now (fun key holds => less key (.inr holds)) treated
      apply Contract.Sound.lock
      · intro now moves inv absent
        refine ih (pending.lock moves _) ?_ rest
        refine (listed.extend (fun _ => .inr) moves).tail (.inl rfl) ?_
        intro token here
        cases here.symm.trans absent
      · intro token now moves inv present
        dsimp only
        split
        · refine ⟨.inl rfl, fun last lastMoves lastInv => ih ?_ ?_ rest⟩
          · apply ((pending.lock moves _).moves lastMoves).write
            intro final finalMoves detached
            refine ⟨detached.insert_token (fun same => by cases same), ?_,
              fun same => by cases same⟩
            intro old here
            have known := (lastMoves.trans finalMoves).lookup_replay (.inl rfl) log
            cases here.symm.trans (known.trans present)
            rfl
          · intro final finalMoves id found here valid
            rw [replay_append] at here
            rw [Store.token_insert] at here
            split at here
            · cases here
              cases (of_decide_eq_true valid).2
            · rename_i apart
              have less := (lastMoves.trans finalMoves).mono fun key holds => Or.inr holds
              have member := listed final (moves.trans less) id found here valid
              exact (List.mem_cons.mp member).resolve_left apart
        · rename_i invalid
          refine ih (pending.lock moves _) ?_ rest
          refine (listed.extend (fun _ => .inr) moves).tail (.inl rfl) ?_
          intro other here
          cases here.symm.trans present
          exact Bool.eq_false_iff.mpr invalid

theorem bound_releaseCode (pending : Pending unrevoked unannounced held log rows) (codeId : Uuid)
    {next : Handler} (continues : ∀ (more : RowKey → Prop) (written : List (Sigma Row))
      (now : Store), (∀ key, held key → more key) → Pending unrevoked unannounced more written now →
      bindingContract.Sound next more written now) :
    bindingContract.Sound (releaseCode codeId next) held log rows := by
  apply Contract.Sound.lock
  · intro now moves inv absent
    exact continues _ _ now (fun _ => .inr) (pending.lock moves _)
  · intro code now moves inv present
    dsimp only
    split
    · trivial
    · refine ⟨.inl rfl, fun later laterMoves laterInv => ?_⟩
      exact continues _ _ later (fun _ => .inr)
        (((pending.lock moves _).moves laterMoves).write_code codeId _)

theorem bound_announce
    (pending : Pending unrevoked (activationId :: unannounced) held log rows) (device : Uuid)
    {next : Handler} (continues : ∀ (more : RowKey → Prop) (written : List (Sigma Row))
      (now : Store), (∀ key, held key → more key) → Pending unrevoked unannounced more written now →
      bindingContract.Sound next more written now) :
    bindingContract.Sound (event .deviceUnbound activationId device next) held log rows := by
  intro number now moves inv absent
  refine continues _ _ now (fun _ => .inr) ?_
  apply (pending.lock moves (.event number)).write
  intro last lastMoves detached
  have here : Store.event (replay last log) number = none :=
    (lastMoves.lookup_replay (.inl rfl) log).trans absent
  exact ⟨detached.announce here rfl rfl, here⟩

end

theorem bound_releaseActivations {time : Timestamp} {device : Uuid}
    {unbound : List (Uuid × Uuid)}
    (pending : Pending (unbound.map Prod.fst) (unbound.map Prod.fst) held log rows)
    (holds : ∀ entry ∈ unbound, held (.activation entry.1)) :
    bindingContract.Sound (releaseActivations time device unbound) held log rows := by
  induction unbound generalizing held log rows with
  | nil => exact pending
  | cons first unbound ih =>
      rcases first with ⟨activationId, codeId⟩
      intro now moves inv
      refine bound_revokeTokens (pending.moves moves)
        (listed_of_snapshot (holds (activationId, codeId) List.mem_cons_self)) time ?_
      intro more written later less revoked
      refine bound_releaseCode revoked codeId ?_
      intro most counted last lessMost released
      refine bound_announce released device ?_
      intro all announced final lessAll treated
      exact ih treated fun entry member =>
        lessAll _ (lessMost _ (less _ (holds entry (List.mem_cons_of_mem _ member))))

theorem bound_unbindActivations {time : Timestamp} {device : Uuid} {test : ActivationRow → Bool}
    (testsLive : ∀ row, test row = true → row.live = true) {unbound : List (Uuid × Uuid)}
    {activations : List Uuid}
    (pending : Pending (unbound.map Prod.fst) (unbound.map Prod.fst) held log rows)
    (holds : ∀ entry ∈ unbound, held (.activation entry.1)) :
    bindingContract.Sound (unbindActivations time device test unbound activations) held log
      rows := by
  induction activations generalizing held log rows unbound with
  | nil =>
      rw [unbindActivations]
      split
      · trivial
      · exact bound_releaseActivations pending holds
  | cons activationId activations ih =>
      apply Contract.Sound.lock
      · intro now moves inv absent
        exact ih (pending.lock moves _) fun entry member => .inr (holds entry member)
      · intro row now moves inv present
        dsimp only
        split
        · rename_i accepted
          refine ⟨.inl rfl, fun later laterMoves laterInv => ih ?_ ?_⟩
          · rw [List.map_append]
            apply ((pending.lock moves _).moves laterMoves).write
            intro last lastMoves detached
            have here : Store.activation (replay last log) activationId = some row :=
              ((laterMoves.trans lastMoves).lookup_replay (.inl rfl) log).trans present
            refine ⟨detached.unbind_activation time here, ?_⟩
            intro old found
            cases found.symm.trans here
            exact .inr ⟨testsLive row accepted, time, rfl⟩
          · intro entry member
            rcases List.mem_append.mp member with old | new
            · exact .inr (holds entry old)
            · rw [List.mem_singleton.mp new]
              exact .inl rfl
        · exact ih (pending.lock moves _) fun entry member => .inr (holds entry member)

theorem bound_unbindDevice (time : Timestamp) (user device : Uuid) :
    bindingContract.Sound (unbindDevice time user device) held [] rows := by
  intro now moves inv
  refine bound_unbindActivations ?_ Pending.nil nofun
  intro row accepted
  simp only [ActivationRow.unbindable, Bool.decide_and, Bool.and_eq_true, decide_eq_true_eq]
    at accepted
  exact accepted.2.1

/-! ## `admin_update_license` and `admin_create_codes` -/

theorem bound_announceLicense (pending : Pending [] [] held log rows) (topic : Topic)
    (licenseId : Uuid) :
    bindingContract.Sound (announceLicense topic licenseId) held log rows := by
  have inserts (activations : List Uuid) {held : RowKey → Prop} {log : List (Sigma Row)}
      {rows : Store} (pending : Pending [] [] held log rows) :
      bindingContract.Sound (insertEvents topic licenseId activations) held log rows := by
    induction activations generalizing held log rows with
    | nil => exact pending
    | cons activationId activations ih =>
        intro number now moves inv absent
        exact ih ((pending.lock moves (.event number)).insert_event _ (.inl rfl) absent)
  intro now moves inv
  exact inserts _ (pending.moves moves)

theorem bound_adminUpdateLicense (id : Uuid) (status : String) :
    bindingContract.Sound (adminUpdateLicense id status) held [] rows := by
  unfold adminUpdateLicense
  split
  · trivial
  · apply Contract.Sound.lock
    · intro now moves inv absent
      exact bound_announceLicense Pending.nil _ _
    · intro license now moves inv present
      exact ⟨.inl rfl, fun later laterMoves laterInv =>
        bound_announceLicense (Pending.nil.write_license id _) _ _⟩

theorem bound_insertCodes {code : Bytes → CodeRow} (made : List String)
    (drawn : List (Uuid × String × Bytes)) (pending : Pending [] [] held log rows) :
    bindingContract.Sound (insertCodes code made drawn) held log rows := by
  induction drawn generalizing held log rows made with
  | nil => exact pending
  | cons first drawn ih =>
      rcases first with ⟨codeId, raw, codeHash⟩
      apply Contract.Sound.lock
      · intro now moves inv absent later laterMoves laterInv
        dsimp only
        split
        · trivial
        · refine ⟨.inl rfl, fun last lastMoves lastInv => ih _ ?_⟩
          exact ((pending.lock moves _).moves (laterMoves.trans lastMoves)).write_code codeId _
      · intro row now moves inv present
        trivial

theorem bound_adminCreateCodes (input : CodeInput) (draw : Nat → Uuid × String × Bytes) :
    bindingContract.Sound (adminCreateCodes input draw) held [] rows := by
  unfold adminCreateCodes
  dsimp only
  split
  · trivial
  split
  · trivial
  intro now moves inv
  dsimp only
  split
  · exact bound_insertCodes [] _ Pending.nil
  · trivial

/-! ## `activate` -/

section

variable (env : Environment) (request : ActivationRequest)

theorem bound_insertToken (pending : Pending [] [] held log rows) (blob : Bytes)
    {activationId : Uuid} (token : String) (holds : held (.activation activationId))
    {row : ActivationRow} (present : Store.activation (replay rows log) activationId = some row)
    (live : row.live = true) :
    bindingContract.Sound (insertToken env blob activationId token) held log rows := by
  apply Contract.Sound.lock
  · intro now moves inv absent later laterMoves laterInv
    dsimp only
    split
    · trivial
    · refine ⟨.inl rfl, fun last lastMoves lastInv => ?_⟩
      have moved := laterMoves.trans lastMoves
      apply ((pending.lock moves _).moves moved).write
      intro final finalMoves detached
      have unlocked := (moved.trans finalMoves).mono fun key owns => Or.inr owns
      have here : Store.activation (replay final log) activationId = some row :=
        ((moves.trans unlocked).lookup_replay holds log).trans present
      refine ⟨detached.insert_token ?_, ?_, fun _ => .inr holds⟩
      · intro _ other found
        cases found.symm.trans here
        exact live
      · intro old found
        have fresh := (moved.trans finalMoves).lookup_replay (.inl rfl) log
        cases found.symm.trans (fresh.trans absent)
  · intro found now moves inv here
    trivial

theorem bound_finishActivation (pending : Pending [] [] held log rows) (blob : Bytes)
    (activationId : Uuid) :
    bindingContract.Sound (finishActivation env blob activationId) held log rows := by
  apply Contract.Sound.lock
  · intro now moves inv absent
    trivial
  · intro row now moves inv present later laterMoves laterInv
    dsimp only
    split
    · trivial
    split
    · trivial
    rename_i bound
    split
    · trivial
    split
    · trivial
    · refine bound_insertToken env ((pending.lock moves _).moves laterMoves) blob _ (.inl rfl)
        ((laterMoves.lookup_replay (.inl rfl) log).trans present) ?_
      exact Option.isNone_iff_eq_none.mpr (Option.not_isSome_iff_eq_none.mp bound)

/-- The device of the request is locked and there. -/
structure Placed (hash : Bytes) (deviceId : Uuid) (held : RowKey → Prop) (log : List (Sigma Row))
    (rows : Store) : Prop where
  holds : held (.device hash)
  here : ∃ device, Store.device (replay rows log) hash = some device ∧ device.id = deviceId

theorem Placed.extend {hash : Bytes} {deviceId : Uuid} (placed : Placed hash deviceId held log rows)
    {more : RowKey → Prop} (less : ∀ key, held key → more key)
    (moves : bindingContract.Moves held rows later) : Placed hash deviceId more log later where
  holds := less _ placed.holds
  here := by
    rcases placed.here with ⟨device, present, same⟩
    exact ⟨device, (moves.lookup_replay placed.holds log).trans present, same⟩

theorem bound_insertActivation (pending : Pending [] [] held log rows) {row : ActivationRow}
    (live : row.live = true) {hash : Bytes} (placed : Placed hash row.deviceId held log rows) :
    bindingContract.Sound (insertActivation env row) held log rows := by
  apply Contract.Sound.lock
  · intro now moves inv absent next nextMoves nextInv
    dsimp only
    split
    · trivial
    refine ⟨.inl rfl, fun third thirdMoves thirdInv => ?_⟩
    have moved := nextMoves.trans thirdMoves
    have inserted : Pending [] [] (fun other => other = .activation env.newActivation ∨ held other)
        (log ++ [⟨.activation env.newActivation, row⟩]) third := by
      apply ((pending.lock moves _).moves moved).write
      intro final finalMoves detached
      have here : Store.activation (replay final log) env.newActivation = none :=
        ((moved.trans finalMoves).lookup_replay (.inl rfl) log).trans absent
      have still := (placed.extend (fun _ => Or.inr) moves).extend (fun _ => id)
        (moved.trans finalMoves)
      rcases still.here with ⟨device, found, same⟩
      refine ⟨detached.insert_activation live found same, ?_⟩
      intro old present
      cases present.symm.trans here
    apply Contract.Sound.lock
    · intro last lastMoves lastInv missing
      exact bound_finishActivation env (inserted.lock lastMoves _) _ _
    · intro code last lastMoves lastInv here
      dsimp only
      split
      · trivial
      · refine ⟨.inl rfl, fun final finalMoves finalInv => bound_finishActivation env ?_ _ _⟩
        exact ((inserted.lock lastMoves _).moves finalMoves).write_code _ _
  · intro old now moves inv present
    trivial

theorem bound_newActivation (pending : Pending [] [] held log rows) (codeId : Uuid) (code : CodeRow)
    (licenseId : Uuid) (license : LicenseRow) {hash : Bytes} {deviceId : Uuid}
    (placed : Placed hash deviceId held log rows) :
    bindingContract.Sound (newActivation env request codeId code licenseId license deviceId) held
      log rows := by
  unfold newActivation
  split
  · trivial
  intro now moves inv
  dsimp only
  split
  · trivial
  split
  · trivial
  · exact bound_insertActivation env (pending.moves moves) rfl (placed.extend (fun _ => id) moves)

theorem bound_reuseActivation (pending : Pending [] [] held log rows) (licenseId deviceId : Uuid)
    {next : Handler} (continues : ∀ (more : RowKey → Prop) (now : Store),
      (∀ key, held key → more key) → bindingContract.Moves held rows now →
      bindingContract.Sound next more log now) :
    bindingContract.Sound (reuseActivation env licenseId deviceId next) held log rows := by
  apply Contract.Sound.lockWhere
  · intro more now less moves inv
    exact continues more now less moves
  · intro activationId row now moves inv present accepted
    exact bound_finishActivation env (pending.lock moves _) _ _

theorem bound_upsertDevice (pending : Pending [] [] held log rows) {next : Uuid → Handler}
    (continues : ∀ (deviceId : Uuid) (more : RowKey → Prop) (log : List (Sigma Row)) (now : Store),
      Pending [] [] more log now → Placed (machineHash env request) deviceId more log now →
      bindingContract.Sound (next deviceId) more log now) :
    bindingContract.Sound (upsertDevice env request next) held log rows := by
  have written (device : DeviceRow) {more : RowKey → Prop} {now : Store}
      (holds : more (.device (machineHash env request))) (pending : Pending [] [] more log now)
      (same : ∀ old, Store.device (replay now log) (machineHash env request) = some old →
        device.id = old.id) :
      bindingContract.Sound (next device.id) more
        (log ++ [⟨.device (machineHash env request), device⟩]) now := by
    refine continues _ _ _ now ?_ ⟨holds, device, ?_, rfl⟩
    · apply pending.write
      intro final finalMoves detached
      have kept (old : DeviceRow)
          (here : Store.device (replay final log) (machineHash env request) = some old) :
          device.id = old.id := same old ((finalMoves.lookup_replay holds log).symm.trans here)
      exact ⟨detached.insert_device kept, kept⟩
    · rw [replay_append]
      exact AList.lookup_insert _
  unfold upsertDevice
  split
  · trivial
  rename_i machineHint masked
  apply Contract.Sound.lock
  · intro now moves inv absent later laterMoves laterInv
    dsimp only
    split
    · trivial
    · refine ⟨.inl rfl, fun last lastMoves lastInv => ?_⟩
      have moved := laterMoves.trans lastMoves
      refine written { id := env.newDevice, machineHint, lastSeenAt := env.now } (.inl rfl)
        ((pending.lock moves _).moves moved) ?_
      intro old here
      cases here.symm.trans ((moved.lookup_replay (.inl rfl) log).trans absent)
  · intro device now moves inv present
    refine ⟨.inl rfl, fun later laterMoves laterInv => ?_⟩
    refine written { device with lastSeenAt := env.now } (.inl rfl)
      ((pending.lock moves _).moves laterMoves) ?_
    intro old here
    cases here.symm.trans ((laterMoves.lookup_replay (.inl rfl) log).trans present)
    rfl

theorem bound_replayActivation (pending : Pending [] [] held log rows) (codeId : Uuid)
    {next : Handler} (continues : ∀ (more : RowKey → Prop) (now : Store),
      Pending [] [] more log now → bindingContract.Sound next more log now) :
    bindingContract.Sound (replayActivation env request codeId next) held log rows := by
  unfold replayActivation
  split
  · exact continues held rows pending
  · apply Contract.Sound.lockWhere
    · intro more now less moves inv
      exact continues more now (pending.extend less moves)
    · intro activationId row now moves inv present recorded later laterMoves laterInv
      have locked := (pending.lock moves (.activation activationId)).moves laterMoves
      dsimp only
      split
      · exact continues _ later locked
      split
      · trivial
      split
      · trivial
      · exact bound_finishActivation env locked _ _

theorem bound_activateLicense (pending : Pending [] [] held log rows) (codeId : Uuid)
    (code : CodeRow) (licenseId : Uuid) :
    bindingContract.Sound (activateLicense env request codeId code licenseId) held log rows := by
  apply Contract.Sound.lock
  · intro now moves inv absent
    trivial
  · intro license now moves inv present
    dsimp only
    split
    · trivial
    split
    · trivial
    · refine bound_replayActivation env request (pending.lock moves _) codeId ?_
      intro more later unrecorded
      refine bound_upsertDevice env request unrecorded ?_
      intro deviceId most written last ready placed
      refine bound_reuseActivation env ready licenseId deviceId ?_
      intro all final less finalMoves
      exact bound_newActivation env request (ready.extend less finalMoves) codeId code licenseId
        license (placed.extend less finalMoves)

theorem bound_withLicense (codeId : Uuid) (code : CodeRow) {next : Uuid → Handler}
    (continues : ∀ (licenseId : Uuid) (more : RowKey → Prop) (log : List (Sigma Row))
      (now : Store), Pending [] [] more log now →
      bindingContract.Sound (next licenseId) more log now) :
    bindingContract.Sound (withLicense env codeId code next) held [] rows := by
  unfold withLicense
  split
  · exact continues _ held [] rows Pending.nil
  · apply Contract.Sound.lock
    · intro now moves inv absent
      refine ⟨.inl rfl, fun later laterMoves laterInv => ?_⟩
      have created : Pending [] [] (fun other => other = .license env.newLicense ∨ held other)
          [⟨.license env.newLicense, createdLicense env codeId code⟩] later :=
        Pending.nil.write_license env.newLicense _
      apply Contract.Sound.lock
      · intro last lastMoves lastInv missing
        exact continues _ _ _ last (created.lock lastMoves _)
      · intro row last lastMoves lastInv found
        refine ⟨.inl rfl, fun final finalMoves finalInv => continues _ _ _ final ?_⟩
        exact ((created.lock lastMoves _).moves finalMoves).write_code _ _
    · intro row now moves inv present
      trivial

theorem bound_activate : bindingContract.Sound (activate env request) held [] rows := by
  unfold activate
  split
  · trivial
  split
  · trivial
  apply Contract.Sound.lockWhere
  · intro more now less moves inv
    trivial
  · intro codeId code now moves inv present accepted
    dsimp only
    split
    · trivial
    · refine bound_withLicense env codeId code ?_
      intro licenseId more log later pending
      exact bound_activateLicense env request pending codeId code licenseId

end

theorem bound_of_isRequest {handler : Handler} (isRequest : IsRequest handler) :
    bindingContract.Sound handler held [] rows := by
  cases isRequest with
  | activate env request => exact bound_activate env request
  | unbindDevice time user device => exact bound_unbindDevice time user device
  | adminCreateCodes input draw => exact bound_adminCreateCodes input draw
  | adminUpdateLicense id status => exact bound_adminUpdateLicense id status

end YoAuthorize.Backend
