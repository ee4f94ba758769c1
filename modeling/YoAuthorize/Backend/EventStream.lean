import YoAuthorize.Backend.ActivationPath
import YoAuthorize.Lib.Cursor

/-!
# The event stream of a device

The loop of `websocket` over the outbox events of one activation, between the
transactions of `unbind_device` and `admin_update_license`.  A tick asks whether
the token is still authorized, and then reads the events above the cursor, or
sends the last ones and ends.  The numbers of the events are drawn when they are
inserted, but they are seen when they are committed: the cursor can pass an event
that is not yet committed.  `Timely` leaves that out.
-/

namespace YoAuthorize.Backend

open Octets Crypto FlatBuffer License Transaction Relation

/-! ## The loop -/

/-- The query of a tick. -/
def Store.authorized (rows : Store) (tokenId activationId : Uuid) (time : Timestamp) : Bool :=
  (rows.token tokenId).any fun token =>
    token.activationId = activationId ∧ token.revokedAt = none ∧ token.expiresAt > time ∧
      (rows.activation token.activationId).any fun activation =>
        activation.live ∧ (rows.license activation.licenseId).any fun license =>
          license.status = .active ∧ license.notBefore ≤ time ∧
            license.expiresAt.all fun expiry => expiry > time

/-- The `WHERE` of the events that are read. -/
def EventRow.sentTo (row : EventRow) (activationId : Uuid) : Bool :=
  row.aggregateId = activationId ∧
    row.topic ∈ [.licenseUpdated, .licenseRevoked, .deviceUnbound, .featuresChanged]

/-- The `WHERE` of the events that are sent before the end. -/
def EventRow.terminalFor (row : EventRow) (activationId : Uuid) : Bool :=
  row.aggregateId = activationId ∧ row.topic ∈ [.licenseRevoked, .deviceUnbound]

inductive Phase : Type
  | connecting
  | waiting
  | authorized
  | refused
  /-- The loop has ended because the token was not authorized. -/
  | ended
  /-- The peer has closed the socket. -/
  | left
  deriving DecidableEq, Repr

/-- A tick may still come. -/
def Phase.isOpen : Phase → Bool
  | .connecting | .waiting | .authorized => true
  | .refused | .ended | .left => false

/-- The database, and the loop with the events it has sent. -/
structure EventStream (τ : Type) : Type where
  system : System τ Row ApiError Response
  lastId : Nat := 0
  sent : List (Nat × EventRow) := []
  phase : Phase := .connecting

/-- The transactions of `unbind_device` and `admin_update_license`. -/
inductive IsRevocation : Handler → Prop
  | unbindDevice (time : Timestamp) (user device : Uuid) :
      IsRevocation (unbindDevice time user device)
  | adminUpdateLicense (id : Uuid) (status : String) : IsRevocation (adminUpdateLicense id status)

theorem IsRevocation.isRequest {handler : Handler} (isRevocation : IsRevocation handler) :
    IsRequest handler := by
  cases isRevocation with
  | unbindDevice time user device => exact .unbindDevice time user device
  | adminUpdateLicense id status => exact .adminUpdateLicense id status

namespace EventStream

variable {τ : Type}

def rows (stream : EventStream τ) : Store := stream.system.rows

/-- The loop over the rows of an authorized tick. -/
def readEvents (stream : EventStream τ) (activationId : Uuid) : EventStream τ :=
  let events := Cursor.page 100 (·.sentTo activationId) stream.lastId stream.rows.events
  { stream with
    lastId := Cursor.advance stream.lastId events
    sent := stream.sent ++ events
    phase := .waiting }

/-- The loop over the rows of the last tick. -/
def endEvents (stream : EventStream τ) (activationId : Uuid) : EventStream τ :=
  { stream with
    sent := stream.sent ++
      Cursor.page 100 (·.terminalFor activationId) stream.lastId stream.rows.events
    phase := .ended }

/-- One step of a transaction or of the loop; all queries and sends succeed. -/
inductive Step [DecidableEq τ] (tokenId activationId : Uuid) : EventStream τ → EventStream τ → Prop
  | database {stream : EventStream τ} {next : System τ Row ApiError Response}
      (step : System.Step IsRevocation stream.system next) :
      Step tokenId activationId stream { stream with system := next }
  /-- `device_events` upgrades the connection. -/
  | connect {stream : EventStream τ} (time : Timestamp) (here : stream.phase = .connecting)
      (accepted : stream.rows.authorized tokenId activationId time = true) :
      Step tokenId activationId stream { stream with phase := .waiting }
  | authorize {stream : EventStream τ} (time : Timestamp) (here : stream.phase = .waiting)
      (accepted : stream.rows.authorized tokenId activationId time = true) :
      Step tokenId activationId stream { stream with phase := .authorized }
  | refuse {stream : EventStream τ} (time : Timestamp) (here : stream.phase = .waiting)
      (refused : stream.rows.authorized tokenId activationId time = false) :
      Step tokenId activationId stream { stream with phase := .refused }
  | read {stream : EventStream τ} (here : stream.phase = .authorized) :
      Step tokenId activationId stream (stream.readEvents activationId)
  | finish {stream : EventStream τ} (here : stream.phase = .refused) :
      Step tokenId activationId stream (stream.endEvents activationId)
  | leave {stream : EventStream τ} (here : stream.phase = .waiting) :
      Step tokenId activationId stream { stream with phase := .left }

end EventStream

/-! ## A revocation is announced -/

/-- The event of a revocation. -/
def revocation (activationId licenseId : Uuid) : EventRow where
  topic := .licenseRevoked
  aggregateId := activationId
  subject := licenseId

/-- A commit that revokes the license of a live activation. -/
structure Revokes (activationId licenseId : Uuid) (rows later : Store) : Prop where
  live : ∃ row, later.activation activationId = some row ∧ row.live = true ∧
    row.licenseId = licenseId
  active : ∃ license, rows.license licenseId = some license ∧ license.status = .active
  revoked : ∃ license, later.license licenseId = some license ∧ license.status = .revoked

/-- What a request commits announces the revocations in it. -/
def Announces (program : Handler) (_ : RowKey → Prop) (log : List (Sigma Row)) (rows : Store) :
    Prop :=
  program.commits = true → ∀ {activationId licenseId : Uuid},
    Revokes activationId licenseId rows (replay rows log) →
      ∃ number, rows.event number = none ∧
        Store.event (replay rows log) number = some (revocation activationId licenseId)

/-- A row that is not a revoked license. -/
def Unrevoked : Sigma Row → Prop
  | ⟨.license _, row⟩ => row.status ≠ .revoked
  | _ => True

theorem unrevoked_insertEvents (topic : Topic) (licenseId : Uuid) (activations : List Uuid) :
    (insertEvents topic licenseId activations).Writes Unrevoked := by
  induction activations with
  | nil => trivial
  | cons activationId activations ih => exact ⟨fun _ => trivial, ih⟩

theorem unrevoked_revokeTokens (time : Timestamp) (activationId : Uuid) {next : Handler}
    (unrevoked : next.Writes Unrevoked) (tokens : List Uuid) :
    (revokeTokens time activationId next tokens).Writes Unrevoked := by
  induction tokens with
  | nil => exact unrevoked
  | cons tokenId tokens ih =>
      rintro (_ | token)
      · exact ih
      · dsimp only
        split
        · exact ⟨trivial, ih⟩
        · exact ih

theorem unrevoked_releaseCode (codeId : Uuid) {next : Handler}
    (unrevoked : next.Writes Unrevoked) : (releaseCode codeId next).Writes Unrevoked := by
  rintro (_ | code)
  · exact unrevoked
  · dsimp only
    split
    · trivial
    · exact ⟨trivial, unrevoked⟩

theorem unrevoked_releaseActivations (time : Timestamp) (device : Uuid)
    (unbound : List (Uuid × Uuid)) :
    (releaseActivations time device unbound).Writes Unrevoked := by
  induction unbound with
  | nil => trivial
  | cons first unbound ih =>
      rcases first with ⟨activationId, codeId⟩
      intro rows
      have announced : (event .deviceUnbound activationId device
          (releaseActivations time device unbound)).Writes Unrevoked := ⟨fun _ => trivial, ih⟩
      exact unrevoked_revokeTokens time activationId (unrevoked_releaseCode codeId announced) _

theorem unrevoked_unbindActivations (time : Timestamp) (device : Uuid)
    (test : ActivationRow → Bool) (unbound : List (Uuid × Uuid)) (activations : List Uuid) :
    (unbindActivations time device test unbound activations).Writes Unrevoked := by
  induction activations generalizing unbound with
  | nil =>
      rw [unbindActivations]
      split
      · trivial
      · exact unrevoked_releaseActivations time device unbound
  | cons activationId activations ih =>
      rintro (_ | row)
      · exact ih unbound
      · dsimp only
        split
        · exact ⟨trivial, ih _⟩
        · exact ih unbound

section

variable {held : RowKey → Prop} {log : List (Sigma Row)} {rows later : Store}

/-- A request that writes no revoked license revokes none. -/
theorem announces_of_writes {program : Handler} (writes : program.Writes Unrevoked)
    (logged : ∀ version ∈ log, Unrevoked version) :
    requestContract.Throughout Announces program held log rows := by
  refine Contract.throughout_of_writes writes logged ?_
  intro program held log rows logged _ activationId licenseId revokes
  rcases revokes.active with ⟨old, before, active⟩
  rcases revokes.revoked with ⟨new, after, revoked⟩
  rcases lookup_replay_cases after with written | unwritten
  · exact absurd revoked (logged _ written)
  · cases before.symm.trans unwritten
    rw [active] at revoked
    cases revoked

/-- The revocation of a license, with the live activations that have still no
event. -/
structure Announcing (licenseId : Uuid) (remaining : List Uuid) (held : RowKey → Prop)
    (log : List (Sigma Row)) (rows : Store) : Prop where
  holds : held (.license licenseId)
  others : ∀ version ∈ log, Unrevoked version ∨ version.1 = .license licenseId
  activations : ∀ version ∈ log, ∀ id, version.1 ≠ .activation id
  announced : ∀ {activationId : Uuid} {row : ActivationRow},
    rows.activation activationId = some row → row.live = true → row.licenseId = licenseId →
    activationId ∈ remaining ∨ ∃ number, held (.event number) ∧ rows.event number = none ∧
      ∀ now, Store.event (replay now log) number = some (revocation activationId licenseId)

theorem Announcing.moves {licenseId : Uuid} {remaining : List Uuid}
    (announcing : Announcing licenseId remaining held log rows)
    (moves : requestContract.Moves held rows later) :
    Announcing licenseId remaining held log later := by
  refine { announcing with announced := ?_ }
  intro activationId row present live same
  have before : rows.activation activationId = some row :=
    activation_of_moves moves.left present live (same ▸ announcing.holds)
  rcases announcing.announced before live same with listed | ⟨number, holds, absent, here⟩
  · exact .inl listed
  · exact .inr ⟨number, holds, (moves.lookup holds).trans absent, here⟩

/-- The event of one more activation. -/
theorem Announcing.insert {licenseId activationId : Uuid} {remaining : List Uuid}
    (announcing : Announcing licenseId (activationId :: remaining) held log rows) {number : Nat}
    (absent : Store.event (replay rows log) number = none) :
    Announcing licenseId remaining (fun other => other = .event number ∨ held other)
      (log ++ [⟨.event number, revocation activationId licenseId⟩]) rows where
  holds := .inr announcing.holds
  others := by
    intro version member
    rcases List.mem_append.mp member with old | new
    · exact announcing.others version old
    · rw [List.mem_singleton.mp new]
      exact .inl trivial
  activations := by
    intro version member id
    rcases List.mem_append.mp member with old | new
    · exact announcing.activations version old id
    · rw [List.mem_singleton.mp new]
      exact nofun
  announced := by
    have before : rows.event number = none := lookup_eq_none_of_replay absent
    intro other row present live same
    rcases announcing.announced present live same with listed | ⟨known, holds, fresh, here⟩
    · rcases List.mem_cons.mp listed with rfl | rest
      · refine .inr ⟨number, .inl rfl, before, fun now => ?_⟩
        rw [replay_append]
        exact AList.lookup_insert _
      · exact .inl rest
    · refine .inr ⟨known, .inr holds, fresh, fun now => ?_⟩
      have apart : RowKey.event number ≠ .event known := by
        intro equal
        cases equal
        cases (here rows).symm.trans absent
      rw [replay_append, Store.event_insert_of_ne _ apart]
      exact here now

/-- Once all have their events, the revocation may be committed. -/
theorem Announcing.announces {licenseId : Uuid} (announcing : Announcing licenseId [] held log rows)
    (program : Handler) : Announces program held log rows := by
  intro _ activationId other revokes
  rcases revokes.live with ⟨row, present, live, licensed⟩
  rcases revokes.active with ⟨old, before, active⟩
  rcases revokes.revoked with ⟨new, after, revoked⟩
  have same : other = licenseId := by
    rcases lookup_replay_cases after with written | unwritten
    · rcases announcing.others _ written with unrevoked | here
      · exact absurd revoked unrevoked
      · exact RowKey.license.inj here
    · cases before.symm.trans unwritten
      rw [active] at revoked
      cases revoked
  subst same
  have here : rows.activation activationId = some row := by
    have unwritten : (replay rows log).lookup (RowKey.activation activationId) =
        rows.lookup (RowKey.activation activationId) :=
      lookup_replay_of_unwritten rows fun version member =>
        announcing.activations version member activationId
    exact unwritten.symm.trans present
  rcases announcing.announced here live licensed with listed | ⟨number, -, absent, written⟩
  · cases listed
  · exact ⟨number, absent, written rows⟩

theorem announces_insertEvents {licenseId : Uuid} {remaining : List Uuid}
    (announcing : Announcing licenseId remaining held log rows) :
    requestContract.Throughout Announces (insertEvents .licenseRevoked licenseId remaining) held log
      rows := by
  induction remaining generalizing held log rows with
  | nil => exact fun now moves _ => (announcing.moves moves).announces _
  | cons activationId remaining ih =>
      intro number now moves inv
      refine ⟨nofun, fun absent => ?_⟩
      exact ih ((announcing.moves moves).insert absent)

theorem announces_adminUpdateLicense (id : Uuid) (status : String) :
    requestContract.Throughout Announces (adminUpdateLicense id status) held [] rows := by
  unfold adminUpdateLicense
  split
  · exact announces_of_writes trivial fun _ same => by cases same
  · rename_i known
    by_cases revoked : status = "revoked"
    · dsimp only
      rw [if_pos revoked, if_pos revoked]
      apply Contract.Throughout.lock
      · intro _ _ same
        cases same
      · intro now moves inv absent
        exact announces_of_writes (fun rows => unrevoked_insertEvents _ _ _)
          fun _ same => by cases same
      · intro license now moves inv present first firstMoves firstInv
        refine ⟨(fun same => by cases same), fun second secondMoves secondInv => ?_⟩
        refine ⟨(fun same => by cases same), ?_⟩
        apply announces_insertEvents
        refine ⟨.inl rfl, ?_, ?_, ?_⟩
        · intro version member
          rw [List.mem_singleton.mp member]
          exact .inr rfl
        · intro version member
          rw [List.mem_singleton.mp member]
          intro _ same
          cases same
        · intro activationId row here live same
          refine .inl (List.mem_filterMap.mpr ⟨(activationId, row), ?_, if_pos ⟨same, live⟩⟩)
          exact Store.mem_activations.mpr ((Store.activation_insert_license ..).trans here)
    · refine announces_of_writes ?_ fun _ same => by cases same
      dsimp only
      rw [if_neg revoked]
      rintro (_ | license)
      · exact fun rows => unrevoked_insertEvents _ _ _
      · refine ⟨?_, fun rows => unrevoked_insertEvents _ _ _⟩
        change (if status = "revoked" then LicenseStatus.revoked else .active) ≠ .revoked
        rw [if_neg revoked]
        intro same
        cases same

theorem announces_of_isRevocation {handler : Handler} (isRevocation : IsRevocation handler) :
    requestContract.Throughout Announces handler (fun _ => False) [] rows := by
  cases isRevocation with
  | unbindDevice time user device =>
      exact announces_of_writes (fun rows => unrevoked_unbindActivations time device _ _ _) nofun
  | adminUpdateLicense id status => exact announces_adminUpdateLicense id status

end

namespace EventStream

variable {τ : Type} [DecidableEq τ] {tokenId activationId : Uuid}

/-! ## The order of the events -/

theorem system_of_runs {before after : EventStream τ}
    (run : ReflTransGen (Step tokenId activationId) before after) :
    ReflTransGen (System.Step IsRevocation) before.system after.system := by
  induction run with
  | refl => exact .refl
  | tail _ step ih =>
      cases step with
      | database step => exact .tail ih step
      | connect | authorize | refuse | read | finish | leave => exact ih

/-- What has been sent is in order, and up to the cursor while the loop reads. -/
structure Ordered (stream : EventStream τ) : Prop where
  increasing : (stream.sent.map Prod.fst).Pairwise (· < ·)
  passed : stream.phase ≠ .ended → ∀ entry ∈ stream.sent, entry.1 ≤ stream.lastId

omit [DecidableEq τ] in
/-- A page above the cursor comes after what was sent. -/
theorem Ordered.append {stream : EventStream τ} (ordered : Ordered stream)
    (here : stream.phase ≠ .ended) (test : EventRow → Bool) :
    ((stream.sent ++ Cursor.page 100 test stream.lastId stream.rows.events).map
      Prod.fst).Pairwise (· < ·) := by
  rw [List.map_append, List.pairwise_append]
  refine ⟨ordered.increasing, Cursor.page_increasing (Store.nodup_events stream.rows), ?_⟩
  intro first sent second paged
  rcases List.mem_map.mp sent with ⟨early, member, rfl⟩
  rcases List.mem_map.mp paged with ⟨late, listed, rfl⟩
  exact Nat.lt_of_le_of_lt (ordered.passed here early member) (Cursor.mem_of_mem_page listed).2.1

theorem Ordered.step {before after : EventStream τ} (ordered : Ordered before)
    (step : Step tokenId activationId before after) : Ordered after := by
  cases step with
  | database step => exact ⟨ordered.increasing, ordered.passed⟩
  | connect time here => exact ⟨ordered.increasing, fun _ => ordered.passed (here ▸ nofun)⟩
  | authorize time here => exact ⟨ordered.increasing, fun _ => ordered.passed (here ▸ nofun)⟩
  | refuse time here => exact ⟨ordered.increasing, fun _ => ordered.passed (here ▸ nofun)⟩
  | leave here => exact ⟨ordered.increasing, fun _ => ordered.passed (here ▸ nofun)⟩
  | read here =>
      have reading : before.phase ≠ .ended := here ▸ nofun
      rcases Cursor.le_advance (Store.nodup_events before.rows) with ⟨least, greatest⟩
      refine ⟨ordered.append reading _, fun _ entry member => ?_⟩
      rcases List.mem_append.mp member with old | new
      · exact Nat.le_trans (ordered.passed reading entry old) least
      · exact greatest entry new
  | finish here => exact ⟨ordered.append (here ▸ nofun) _, fun ended => absurd rfl ended⟩

theorem ordered_of_runs {start stream : EventStream τ} (ordered : Ordered start)
    (run : ReflTransGen (Step tokenId activationId) start stream) : Ordered stream := by
  induction run with
  | refl => exact ordered
  | tail _ step ih => exact ih.step step

/-! ## Terminal events -/

/-- No commit adds a terminal event of the activation that the cursor has passed,
and the last tick finds at most one page of them. -/
structure Timely (activationId : Uuid) (before after : EventStream τ) : Prop where
  committed : ∀ {number : Nat} {event : EventRow}, before.rows.event number = none →
    after.rows.event number = some event → event.terminalFor activationId = true →
      before.lastId < number
  few : before.phase = .refused → after.phase = .ended →
    (Cursor.above (·.terminalFor activationId) before.lastId before.rows.events).length ≤ 100

def TimelyStep (tokenId activationId : Uuid) (before after : EventStream τ) : Prop :=
  Step tokenId activationId before after ∧ Timely activationId before after

theorem runs_of_timely {before after : EventStream τ}
    (run : ReflTransGen (TimelyStep tokenId activationId) before after) :
    ReflTransGen (Step tokenId activationId) before after :=
  ReflTransGen.mono (fun _ _ step => And.left step) _ _ run

omit [DecidableEq τ] in
theorem sentTo_of_terminalFor {event : EventRow}
    (terminal : event.terminalFor activationId = true) :
    event.sentTo activationId = true := by
  unfold EventRow.terminalFor at terminal
  unfold EventRow.sentTo
  rw [decide_eq_true_iff] at terminal ⊢
  refine ⟨terminal.1, ?_⟩
  cases event.topic with
  | licenseUpdated | licenseRevoked | deviceUnbound | featuresChanged => decide

/-- The terminal events that the cursor has passed have been sent, and once the
loop has ended all those of the given rows. -/
structure Delivers (activationId : Uuid) (rows : Store) (stream : EventStream τ) : Prop where
  events : ∀ {number : Nat} {event : EventRow}, rows.event number = some event →
    stream.rows.event number = some event
  passed : stream.phase ≠ .ended → ∀ {number : Nat} {event : EventRow},
    stream.rows.event number = some event → event.terminalFor activationId = true →
      number ≤ stream.lastId → (number, event) ∈ stream.sent
  ended : stream.phase = .ended → ∀ {number : Nat} {event : EventRow},
    rows.event number = some event → event.terminalFor activationId = true →
      (number, event) ∈ stream.sent

/-- The events stay when others commit. -/
theorem event_of_step {good : Handler → (RowKey → Prop) → List (Sigma Row) → Store → Prop}
    {system next : System τ Row ApiError Response} (safe : system.Safe requestContract good)
    (step : System.Step IsRevocation system next) {number : Nat} {event : EventRow}
    (present : Store.event system.rows number = some event) :
    Store.event next.rows number = some event := by
  rcases System.rows_of_step step with same | ⟨transaction, program, running, commits, same⟩
  · rw [same]
    exact present
  · rw [same]
    exact (safe.guarantee running commits).2.2.event present

theorem Delivers.step {good : Handler → (RowKey → Prop) → List (Sigma Row) → Store → Prop}
    {rows : Store} {before after : EventStream τ} (delivers : Delivers activationId rows before)
    (safe : before.system.Safe requestContract good)
    (step : TimelyStep tokenId activationId before after) : Delivers activationId rows after := by
  rcases step with ⟨step, timely⟩
  cases step with
  | database step =>
      refine ⟨fun present => event_of_step safe step (delivers.events present), ?_, delivers.ended⟩
      intro running number event present terminal passed
      cases known : before.rows.event number with
      | none => exact absurd passed (Nat.not_le.mpr (timely.committed known present terminal))
      | some old =>
          cases (event_of_step safe step known).symm.trans present
          exact delivers.passed running known terminal passed
  | connect time here => exact ⟨delivers.events, fun _ => delivers.passed (here ▸ nofun), nofun⟩
  | authorize time here => exact ⟨delivers.events, fun _ => delivers.passed (here ▸ nofun), nofun⟩
  | refuse time here => exact ⟨delivers.events, fun _ => delivers.passed (here ▸ nofun), nofun⟩
  | leave here => exact ⟨delivers.events, fun _ => delivers.passed (here ▸ nofun), nofun⟩
  | read here =>
      refine ⟨delivers.events, ?_, nofun⟩
      intro _ number event present terminal passed
      by_cases old : number ≤ before.lastId
      · exact List.mem_append_left _ (delivers.passed (here ▸ nofun) present terminal old)
      · exact List.mem_append_right _ (Cursor.mem_page_of_le_advance
          (Store.nodup_events before.rows) (Store.mem_events.mpr present) (Nat.not_le.mp old)
          (sentTo_of_terminalFor terminal) passed)
  | finish here =>
      refine ⟨delivers.events, fun ended => absurd rfl ended, ?_⟩
      intro _ number event present terminal
      have known := delivers.events present
      by_cases old : number ≤ before.lastId
      · exact List.mem_append_left _ (delivers.passed (here ▸ nofun) known terminal old)
      · exact List.mem_append_right _ (Cursor.mem_page_of_length_le (timely.few here rfl)
          (Store.mem_events.mpr known) (Nat.not_le.mp old) terminal)

/-- A commit that unbinds the activation. -/
structure Unbinds (activationId : Uuid) (rows later : Store) : Prop where
  live : ∃ row, rows.activation activationId = some row ∧ row.live = true
  unbound : ∃ row, later.activation activationId = some row ∧ row.live = false

/-- What a stream that has ended has sent for a commit before its last tick. -/
structure Delivered (activationId : Uuid) (rows later : Store) (sent : List (Nat × EventRow)) :
    Prop where
  terminal : ∀ {number : Nat} {event : EventRow}, later.event number = some event →
    event.terminalFor activationId = true → (number, event) ∈ sent
  unbound : Unbinds activationId rows later → ∃ number event, (number, event) ∈ sent ∧
    later.event number = some event ∧ event.topic = .deviceUnbound ∧
      event.aggregateId = activationId
  revoked : ∀ {licenseId : Uuid}, Revokes activationId licenseId rows later →
    ∃ number, (number, revocation activationId licenseId) ∈ sent ∧ rows.event number = none ∧
      later.event number = some (revocation activationId licenseId)

theorem safe_of_streams {rows : Store} (inv : requestContract.Inv rows) {stream : EventStream τ}
    (run : ReflTransGen (Step tokenId activationId) { system := { rows } } stream) :
    stream.system.Safe requestContract (requestContract.Throughout Announces) :=
  System.safe_of_runs Contract.stable_throughout inv
    (fun _ isRevocation _ _ =>
      ⟨kept_of_isRequest isRevocation.isRequest, announces_of_isRevocation isRevocation⟩)
    (system_of_runs run)

theorem delivers_of_runs {rows kept : Store} (inv : requestContract.Inv rows)
    {start stream : EventStream τ}
    (started : ReflTransGen (Step tokenId activationId) { system := { rows } } start)
    (delivers : Delivers activationId kept start)
    (run : ReflTransGen (TimelyStep tokenId activationId) start stream) :
    Delivers activationId kept stream := by
  induction run with
  | refl => exact delivers
  | tail before step ih =>
      exact ih.step (safe_of_streams inv (started.trans (runs_of_timely before))) step

/-- A revocation that is committed in a step of the stream has its event. -/
theorem exists_revocation {rows : Store} (inv : requestContract.Inv rows)
    {before after : EventStream τ}
    (run : ReflTransGen (Step tokenId activationId) { system := { rows } } before)
    (step : Step tokenId activationId before after) {licenseId : Uuid}
    (revokes : Revokes activationId licenseId before.rows after.rows) :
    ∃ number, before.rows.event number = none ∧
      after.rows.event number = some (revocation activationId licenseId) := by
  have unchanged (same : after.rows = before.rows) : False := by
    rw [same] at revokes
    rcases revokes.active with ⟨old, here, active⟩
    rcases revokes.revoked with ⟨new, there, revoked⟩
    cases here.symm.trans there
    rw [active] at revoked
    cases revoked
  cases step with
  | database step =>
      rcases System.rows_of_step step with same | ⟨transaction, program, running, commits, same⟩
      · exact (unchanged same).elim
      · have safe := safe_of_streams inv run
        have announces := (safe.running transaction program running).2.here safe.inv
        change Revokes activationId licenseId _ _ at revokes
        unfold EventStream.rows at revokes ⊢
        dsimp only at revokes ⊢
        rw [same] at revokes ⊢
        exact announces commits revokes
  | connect | authorize | refuse | read | finish | leave => exact (unchanged rfl).elim

/-- The events are sent once and in order, and in every timely run the terminal
events are sent before the loop ends.  The numbers start at one. -/
theorem terminalEvents_delivered {rows : Store} (inv : requestContract.Inv rows)
    (numbered : rows.event 0 = none) :
    (∀ stream : EventStream τ,
      ReflTransGen (Step tokenId activationId) { system := { rows } } stream →
        (stream.sent.map Prod.fst).Pairwise (· < ·)) ∧
    ∀ before after stream : EventStream τ,
      ReflTransGen (TimelyStep tokenId activationId) { system := { rows } } before →
      TimelyStep tokenId activationId before after → after.phase.isOpen = true →
      ReflTransGen (TimelyStep tokenId activationId) after stream → stream.phase = .ended →
        Delivered activationId before.rows after.rows stream.sent := by
  refine ⟨fun stream run =>
    (ordered_of_runs ⟨.nil, fun _ _ member => by cases member⟩ run).increasing, ?_⟩
  intro before after stream first step alive second ended
  have reached : ReflTransGen (Step tokenId activationId) { system := { rows } } after :=
    .tail (runs_of_timely first) step.1
  have safe := safe_of_streams inv reached
  have running : after.phase ≠ .ended := by
    intro same
    rw [same] at alive
    cases alive
  have begun : Delivers activationId (∅ : Store)
      ({ system := { rows } } : EventStream τ) := by
    refine ⟨nofun, ?_, nofun⟩
    intro _ number event present _ least
    cases Nat.le_zero.mp least
    cases numbered.symm.trans present
  have upTo : Delivers activationId ∅ after :=
    delivers_of_runs inv .refl begun (.tail first step)
  have delivers : Delivers activationId after.rows stream :=
    delivers_of_runs inv reached
      ⟨id, fun _ => upTo.passed running, fun same => absurd same running⟩ second
  have terminal {number : Nat} {event : EventRow} (present : after.rows.event number = some event)
      (accepted : event.terminalFor activationId = true) : (number, event) ∈ stream.sent :=
    delivers.ended ended present accepted
  refine ⟨terminal, ?_, ?_⟩
  · rintro ⟨-, row, here, dead⟩
    rcases safe.inv.2.announced here dead nofun with ⟨number, event, present, topic, aggregate⟩
    refine ⟨number, event, terminal present ?_, present, topic, aggregate⟩
    unfold EventRow.terminalFor
    rw [topic, aggregate]
    exact decide_eq_true ⟨rfl, by decide⟩
  · intro licenseId revokes
    rcases exists_revocation inv (runs_of_timely first) step.1 revokes with
      ⟨number, absent, present⟩
    refine ⟨number, terminal present ?_, absent, present⟩
    exact decide_eq_true ⟨rfl, List.mem_cons_self⟩

/-! ## Two runs -/

theorem runs_of_system {system next : System τ Row ApiError Response}
    (run : ReflTransGen (System.Step IsRevocation) system next) :
    ReflTransGen (Step tokenId activationId) { system } { system := next } := by
  induction run with
  | refl => exact .refl
  | tail _ step ih => exact .tail ih (.database step)

/-- What the last tick needs to know of an activation. -/
def isLive (rows : Store) (activationId : Uuid) : Option Bool :=
  (rows.activation activationId).map (·.live)

omit [DecidableEq τ] in
theorem unbinds_of_isLive {rows later : Store} (before : isLive rows activationId = some true)
    (after : isLive later activationId = some false) : Unbinds activationId rows later :=
  ⟨Option.map_eq_some_iff.mp before, Option.map_eq_some_iff.mp after⟩

/-- Before the first tick every commit is timely. -/
theorem timely_of_system {rows : Store} (inv : requestContract.Inv rows)
    {next : System τ Row ApiError Response}
    (run : ReflTransGen (System.Step IsRevocation) { rows } next)
    (numbered : Store.event next.rows 0 = none) :
    ReflTransGen (TimelyStep tokenId activationId) { system := { rows } } { system := next } := by
  induction run with
  | refl => exact .refl
  | tail before step ih =>
      rename_i middle last
      have safe := safe_of_streams inv
        (runs_of_system before : ReflTransGen (Step tokenId activationId) _ _)
      have unnumbered : Store.event middle.rows 0 = none := by
        cases known : Store.event middle.rows 0 with
        | none => rfl
        | some event => cases (event_of_step safe step known).symm.trans numbered
      refine .tail (ih unnumbered) ⟨.database step, ?_, nofun⟩
      intro number event absent present terminal
      apply Nat.pos_of_ne_zero
      rintro rfl
      cases present.symm.trans numbered

/-- The owner unbinds the machine, on his own. -/
theorem terminalEvents_unbinding :
    ∃ before after stream : EventStream Bool,
      ReflTransGen (TimelyStep (referenceUuid 32) (referenceUuid 192))
        { system := { rows := boundStore } } before ∧
      TimelyStep (referenceUuid 32) (referenceUuid 192) before after ∧
      after.phase.isOpen = true ∧
      ReflTransGen (TimelyStep (referenceUuid 32) (referenceUuid 192)) after stream ∧
      stream.phase = .ended ∧ Unbinds (referenceUuid 192) before.rows after.rows ∧
      Delivered (referenceUuid 192) before.rows after.rows stream.sent := by
  have ticks : (((({ rows := boundStore } : System Bool Row ApiError Response).resume false
      (unbindDevice 16000000 (referenceUuid 9) (referenceUuid 128))).schedule
        (List.replicate 9 false)).any fun middle =>
      (middle.advance false).any fun final => decide
        ((Store.event middle.rows 0).isNone = true ∧ (Store.event final.rows 0).isNone = true ∧
          Store.authorized middle.rows (referenceUuid 32) (referenceUuid 192) 16000000 = true ∧
          isLive middle.rows (referenceUuid 192) = some true ∧
          Store.authorized final.rows (referenceUuid 32) (referenceUuid 192) 16000000 = false ∧
          isLive final.rows (referenceUuid 192) = some false ∧
          (Cursor.above (·.terminalFor (referenceUuid 192)) 0 (Store.events final.rows)).length ≤
            100)) = true := by decide +kernel
  rcases Option.any_eq_true .. |>.mp ticks with ⟨middle, scheduled, advanced⟩
  rcases Option.any_eq_true .. |>.mp advanced with ⟨final, commits, same⟩
  rcases of_decide_eq_true same with ⟨unnumbered, numbered, accepted, live, refused, dead, few⟩
  have absent : boundStore.event 0 = none := Option.isNone_iff_eq_none.mp (by decide +kernel)
  have started : ReflTransGen (System.Step IsRevocation)
      ({ rows := boundStore } : System Bool Row ApiError Response) middle :=
    .head (.start rfl (.unbindDevice _ _ _)) (System.runs_of_schedule scheduled)
  -- A step of the loop itself leaves the rows.
  have still {stream : EventStream Bool} {number : Nat} {event : EventRow}
      (none : stream.rows.event number = none) (some : stream.rows.event number = some event) :
      False := by
    cases none.symm.trans some
  let before : EventStream Bool := { system := middle, phase := .waiting }
  let after : EventStream Bool := { system := final, phase := .waiting }
  have connected : ReflTransGen (TimelyStep (referenceUuid 32) (referenceUuid 192))
      ({ system := { rows := boundStore } } : EventStream Bool) before :=
    .tail (timely_of_system boundStore_kept started (Option.isNone_iff_eq_none.mp unnumbered))
      ⟨.connect 16000000 rfl accepted, fun none some => (still none some).elim, nofun⟩
  have committed : TimelyStep (referenceUuid 32) (referenceUuid 192) before after := by
    refine ⟨.database (System.step_of_advance commits), ?_, nofun⟩
    intro number event _ present _
    apply Nat.pos_of_ne_zero
    rintro rfl
    cases present.symm.trans (Option.isNone_iff_eq_none.mp numbered)
  have finished : ReflTransGen (TimelyStep (referenceUuid 32) (referenceUuid 192)) after
      (endEvents { after with phase := .refused } (referenceUuid 192)) :=
    .tail (.single ⟨.refuse 16000000 rfl refused, fun none some => (still none some).elim, nofun⟩)
      ⟨.finish rfl, fun none some => (still none some).elim, fun _ _ => few⟩
  exact ⟨before, after, _, connected, committed, rfl, finished, rfl, unbinds_of_isLive live dead,
    (terminalEvents_delivered boundStore_kept absent).2 before after _ connected committed rfl
      finished rfl⟩

/-- The owner unbinds the machine while an administrator touches the license. -/
def overtaking : System Bool Row ApiError Response :=
  (({ rows := boundStore } : System Bool Row ApiError Response).resume false
    (unbindDevice 16000000 (referenceUuid 9) (referenceUuid 128))).resume true
    (adminUpdateLicense (referenceUuid 3) "active")

/-- `unbind_device` up to its commit, then the whole of `admin_update_license`. -/
def overtakingOrder : List Bool :=
  List.replicate 9 false ++ List.replicate 5 true

/-- The first tick reads the event of `admin_update_license`, which passes the
one of `unbind_device`; the second tick finds nothing to send. -/
theorem terminalEvent_lost :
    requestContract.Inv boundStore ∧ boundStore.event 0 = none ∧
    ∃ before after stream : EventStream Bool,
      ReflTransGen (Step (referenceUuid 32) (referenceUuid 192))
        { system := { rows := boundStore } } before ∧
      Step (referenceUuid 32) (referenceUuid 192) before after ∧ after.phase.isOpen = true ∧
      ReflTransGen (Step (referenceUuid 32) (referenceUuid 192)) after stream ∧
      stream.phase = .ended ∧ Unbinds (referenceUuid 192) before.rows after.rows ∧
      ∀ entry ∈ stream.sent, entry.2.topic ≠ .deviceUnbound := by
  have ticks : ((overtaking.schedule overtakingOrder).any fun middle =>
      (middle.advance false).any fun final => decide
        (Store.authorized middle.rows (referenceUuid 32) (referenceUuid 192) 16000000 = true ∧
          isLive middle.rows (referenceUuid 192) = some true ∧
          Cursor.page 100 (·.sentTo (referenceUuid 192)) 0 (Store.events middle.rows) =
            [(2, ⟨.licenseUpdated, referenceUuid 192, referenceUuid 3⟩)] ∧
          Store.authorized final.rows (referenceUuid 32) (referenceUuid 192) 16000000 = false ∧
          isLive final.rows (referenceUuid 192) = some false ∧
          Cursor.page 100 (·.terminalFor (referenceUuid 192)) 2 (Store.events final.rows) = [])) =
      true := by decide +kernel
  rcases Option.any_eq_true .. |>.mp ticks with ⟨middle, scheduled, advanced⟩
  rcases Option.any_eq_true .. |>.mp advanced with ⟨final, commits, same⟩
  rcases of_decide_eq_true same with ⟨accepted, live, events, refused, dead, nothing⟩
  have started : ReflTransGen (System.Step IsRevocation)
      ({ rows := boundStore } : System Bool Row ApiError Response) overtaking :=
    .tail (.single (.start rfl (.unbindDevice _ _ _))) (.start rfl (.adminUpdateLicense _ _))
  let before : EventStream Bool :=
    { system := middle, lastId := 2
      sent := [(2, ⟨.licenseUpdated, referenceUuid 192, referenceUuid 3⟩)], phase := .waiting }
  have tick : ReflTransGen (Step (referenceUuid 32) (referenceUuid 192))
      ({ system := middle } : EventStream Bool) before := by
    refine .tail (.tail (.single (.connect 16000000 rfl accepted))
      (.authorize 16000000 rfl accepted))
      ?_
    have read : Step (referenceUuid 32) (referenceUuid 192)
        ({ system := middle, phase := .authorized } : EventStream Bool) _ := .read rfl
    unfold readEvents EventStream.rows at read
    dsimp only at read
    rw [events] at read
    exact read
  let after : EventStream Bool := { before with system := final }
  let ended : EventStream Bool := { after with phase := .ended }
  have finish : ReflTransGen (Step (referenceUuid 32) (referenceUuid 192)) after ended := by
    refine .tail (.single (.refuse 16000000 rfl refused)) ?_
    have last : Step (referenceUuid 32) (referenceUuid 192)
        ({ after with phase := .refused } : EventStream Bool) _ := .finish rfl
    unfold endEvents EventStream.rows at last
    dsimp only [after, before] at last
    rw [nothing] at last
    exact last
  have numbered : boundStore.event 0 = none :=
    Option.isNone_iff_eq_none.mp (by decide +kernel)
  have run := started.trans (System.runs_of_schedule scheduled)
  refine ⟨boundStore_kept, numbered, before, after, ended, (runs_of_system run).trans tick,
    .database (System.step_of_advance commits), rfl, finish, rfl, unbinds_of_isLive live dead, ?_⟩
  intro entry member
  rw [List.mem_singleton.mp member]
  exact nofun

end EventStream

end YoAuthorize.Backend
