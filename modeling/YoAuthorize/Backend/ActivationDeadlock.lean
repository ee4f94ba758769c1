import YoAuthorize.Backend.UnbindingPath
import YoAuthorize.Lib.Deadlock

/-!
# Deadlocks between activation and unbinding

`activate` locks its code before an activation, `unbind_device` its activations
before their codes, so the two can wait for each other.  Nobody waits in a cycle
as long as no `unbind_device` and another request have locked an activation and
its code, or two `unbind_device` activations of one device, at the same time.
-/

namespace YoAuthorize.Backend

open Octets Crypto FlatBuffer License Transaction Function Relation

/-- The transactions of `activate`, `unbind_device` and `admin_update_license`. -/
inductive IsBinding : Handler → Prop
  | activate (env : Environment) (request : ActivationRequest) : IsBinding (activate env request)
  | unbindDevice (time : Timestamp) (user device : Uuid) : IsBinding (unbindDevice time user device)
  | adminUpdateLicense (id : Uuid) (status : String) : IsBinding (adminUpdateLicense id status)

theorem IsBinding.isRequest {handler : Handler} (isBinding : IsBinding handler) :
    IsRequest handler := by
  cases isBinding with
  | activate env request => exact .activate env request
  | unbindDevice time user device => exact .unbindDevice time user device
  | adminUpdateLicense id status => exact .adminUpdateLicense id status

/-! ## The condition -/

section

variable {τ : Type}

/-- The transaction has locked no license.  With an activation locked it is an
`unbind_device`: `activate` locks its license first. -/
def Unlicensed (system : System τ Row ApiError Response) (transaction : τ) : Prop :=
  ∀ id, ¬ system.holds transaction (.license id)

/-- The row may be locked beside the locks of the others, and none of them is about to
insert it. -/
structure Clear (system : System τ Row ApiError Response) (transaction : τ) (key : RowKey) :
    Prop where
  code : ∀ {other : τ} {id device code : Uuid}, key = .code code →
    Unlicensed system other → system.holds other (.activation id) →
      Registered system.rows id device code → other = transaction
  activation : ∀ {other : τ} {id device code : Uuid}, key = .activation id →
    Unlicensed system transaction → Registered system.rows id device code →
      system.holds other (.code code) → other = transaction
  device : ∀ {other : τ} {id otherId device code otherCode : Uuid}, key = .activation id →
    Unlicensed system transaction → Registered system.rows id device code →
      Unlicensed system other → system.holds other (.activation otherId) →
        Registered system.rows otherId device otherCode → other = transaction
  drawn : ∀ {other : τ} {program : Handler}, system.program other = some program →
    Inserts program key → other = transaction

/-- The row that a step locks is clear before it, and so is a drawn id under which the
step goes on to insert. -/
structure KeepsApart (before after : System τ Row ApiError Response) : Prop where
  clear : ∀ {transaction : τ} {key : RowKey}, ¬ before.holds transaction key →
    after.holds transaction key → Clear before transaction key
  drawn : ∀ {transaction other : τ} {program : Handler} {key : RowKey},
    after.program transaction = some program → Inserts program key →
      before.holds other key → other = transaction

/-- Nobody else has locked the id that was drawn for a new row. -/
def Fresh (system : System τ Row ApiError Response) : Prop :=
  ∀ {transaction other : τ} {program : Handler} {key : RowKey},
    system.program transaction = some program → Inserts program key →
      system.holds other key → other = transaction

/-- No locks of an `unbind_device` cross those of another transaction. -/
structure Uncrossed (system : System τ Row ApiError Response) : Prop where
  code : ∀ {transaction other : τ} {id device code : Uuid}, Unlicensed system transaction →
    system.holds transaction (.activation id) → Registered system.rows id device code →
      system.holds other (.code code) → other = transaction
  device : ∀ {transaction other : τ} {id otherId device code otherCode : Uuid},
    Unlicensed system transaction → system.holds transaction (.activation id) →
      Registered system.rows id device code → Unlicensed system other →
        system.holds other (.activation otherId) →
          Registered system.rows otherId device otherCode → other = transaction

end

/-! ## Requests in progress -/

theorem path_adminUpdateLicense (id : Uuid) (status : String) {rows : Store} :
    requestContract.Throughout OnPath (adminUpdateLicense id status) (fun _ => False) [] rows := by
  have inserts (topic : Topic) (activations : List Uuid) {held : RowKey → Prop}
      {log : List (Sigma Row)} {rows : Store} :
      requestContract.Throughout OnPath (insertEvents topic id activations) held log rows := by
    induction activations generalizing held log rows with
    | nil => exact fun _ _ _ => trivial
    | cons activationId activations ih => exact fun _ _ _ _ => ⟨trivial, fun _ => ih⟩
  unfold adminUpdateLicense
  split
  · exact fun _ _ _ => trivial
  · apply Contract.Throughout.lock
    · exact fun _ _ => .inl ⟨(by decide : 1 ≤ 3), .inr fun _ owns => owns.elim⟩
    · exact fun _ _ _ _ _ _ _ => ⟨trivial, inserts _ _⟩
    · exact fun _ _ _ _ _ _ _ _ => ⟨trivial, fun _ _ _ => ⟨trivial, inserts _ _⟩⟩

/-- What a request does at each point: it is on the path of `activate`, or it
unbinds a device. -/
def OnBinding (program : Handler) (held : RowKey → Prop) (log : List (Sigma Row))
    (rows : Store) : Prop :=
  requestContract.Throughout OnPath program held log rows ∨
    requestContract.Throughout OnUnbinding program held log rows

variable {τ : Type} [DecidableEq τ]

theorem safe_of_bindings {rows : Store} {system : System τ Row ApiError Response}
    (inv : requestContract.Inv rows)
    (run : ReflTransGen (System.Step IsBinding) { rows } system) :
    system.Safe requestContract OnBinding := by
  refine System.safe_of_runs
    (Contract.stable_throughout.or Contract.stable_throughout) inv ?_ run
  intro handler isBinding rows _
  refine ⟨kept_of_isRequest isBinding.isRequest, ?_⟩
  cases isBinding with
  | activate env request => exact .inl (path_activate env request)
  | unbindDevice time user device => exact .inr (unbinding_unbindDevice time user device)
  | adminUpdateLicense id status => exact .inl (path_adminUpdateLicense id status)

section

variable {before after : System τ Row ApiError Response}

/-- An activation that is locked after a step was registered before it. -/
theorem registered_of_step (safe : before.Safe requestContract OnBinding)
    (step : System.Step IsBinding before after) {transaction : τ} {id device code : Uuid}
    (holds : after.holds transaction (.activation id))
    (registered : Registered after.rows id device code) :
    Registered before.rows id device code := by
  rcases registered with ⟨row, present, same⟩
  exact ⟨row, (safe.lookup_rows step holds).symm.trans present, same⟩

theorem unlicensed_of_step (step : System.Step IsBinding before after)
    {transaction : τ} {key : RowKey} (holds : after.holds transaction key)
    (unlicensed : Unlicensed after transaction) : Unlicensed before transaction :=
  fun id owned => unlicensed id (System.holds_of_step step holds owned)

theorem fresh_of_step (step : System.Step IsBinding before after)
    (apart : KeepsApart before after) : Fresh after := by
  intro transaction other program key running inserts holds
  by_cases held : before.holds other key
  · exact apart.drawn running inserts held
  · by_contra others
    rw [System.program_of_locks step held holds (Ne.symm others)] at running
    exact others ((apart.clear held holds).drawn running inserts).symm

theorem Uncrossed.step (uncrossed : Uncrossed before)
    (safe : before.Safe requestContract OnBinding) (step : System.Step IsBinding before after)
    (apart : KeepsApart before after) : Uncrossed after where
  code := by
    intro transaction other id device code unlicensed holds registered owns
    have unlicensed := unlicensed_of_step step holds unlicensed
    have registered := registered_of_step safe step holds registered
    by_cases held : before.holds transaction (.activation id)
    · by_cases owned : before.holds other (.code code)
      · exact uncrossed.code unlicensed held registered owned
      · exact ((apart.clear owned owns).code rfl unlicensed held registered).symm
    · by_cases owned : before.holds other (.code code)
      · exact (apart.clear held holds).activation rfl unlicensed registered owned
      · cases System.eq_of_locks step held holds owned owns
  device := by
    intro transaction other id otherId device code otherCode unlicensed holds registered
      unlicensedToo owns registeredToo
    have unlicensed := unlicensed_of_step step holds unlicensed
    have registered := registered_of_step safe step holds registered
    have unlicensedToo := unlicensed_of_step step owns unlicensedToo
    have registeredToo := registered_of_step safe step owns registeredToo
    by_cases held : before.holds transaction (.activation id)
    · by_cases owned : before.holds other (.activation otherId)
      · exact uncrossed.device unlicensed held registered unlicensedToo owned registeredToo
      · exact ((apart.clear owned owns).device rfl unlicensedToo registeredToo unlicensed held
          registered).symm
    · by_cases owned : before.holds other (.activation otherId)
      · exact (apart.clear held holds).device rfl unlicensed registered unlicensedToo owned
          registeredToo
      · cases System.eq_of_locks step held holds owned owns
        exact Option.some.inj (owns.symm.trans holds)

end

section

variable {rows : Store} {system : System τ Row ApiError Response}

theorem uncrossed_of_runs (inv : requestContract.Inv rows)
    (run : ReflTransGen (fun before after => System.Step IsBinding before after ∧
      KeepsApart before after) { rows } system) : Uncrossed system := by
  induction run with
  | refl => exact ⟨nofun, nofun⟩
  | tail rest step ih =>
      have steps : ReflTransGen (System.Step IsBinding) { rows } _ :=
        ReflTransGen.mono (fun _ _ step => And.left step) _ _ rest
      exact ih.step (safe_of_bindings inv steps) step.1 step.2

omit [DecidableEq τ] in
/-- A request that waits has locked neither an activation nor a token, or it unbinds
a device. -/
theorem low_or_unbinds (safe : system.Safe requestContract OnBinding) (fresh : Fresh system)
    {transaction : τ} (waiting : system.Waiting transaction) :
    (∀ key, system.holds transaction key → key.rank < 3) ∨
      Unbinds (system.holds transaction) system.rows := by
  rcases waiting with ⟨holder, apart, wanted, wants, owned⟩
  rcases System.program_of_wants wants with ⟨next, running⟩
  rcases (safe.running transaction _ running).2 with onPath | unbinding
  · left
    rcases onPath.here safe.inv with ⟨low, own | above⟩ | inserts
    · exact absurd (Option.some.inj (owned.symm.trans own)) apart
    · exact fun key holds => Nat.lt_of_lt_of_le (above key holds) low
    · exact absurd (fresh running inserts owned) apart
  · exact .inr (unbinding.here safe.inv).1

/-- In every run whose steps keep apart, nobody waits in a cycle. -/
theorem not_deadlocked_of_runs (inv : requestContract.Inv rows)
    (run : ReflTransGen (fun before after => System.Step IsBinding before after ∧
      KeepsApart before after) { rows } system) : ¬ system.Deadlocked := by
  have steps : ReflTransGen (System.Step IsBinding) { rows } system :=
    ReflTransGen.mono (fun _ _ step => And.left step) _ _ run
  have safe := safe_of_bindings inv steps
  have uncrossed := uncrossed_of_runs inv run
  have fresh : Fresh system := by
    cases run with
    | refl => exact nofun
    | tail _ step => exact fresh_of_step step.1 step.2
  apply System.not_deadlocked_of_rank RowKey.rank
  intro transaction holder key waits waiting wants other holds
  rcases System.program_of_wants wants with ⟨next, running⟩
  rcases waits with ⟨apart, wanted, wantsToo, owned⟩
  cases wants.symm.trans wantsToo
  rcases (safe.running transaction _ running).2 with onPath | unbinding
  · rcases onPath.here safe.inv with ⟨-, own | above⟩ | inserts
    · exact absurd (Option.some.inj (owned.symm.trans own)) apart
    · exact above other holds
    · exact absurd (fresh running inserts owned) apart
  -- an `unbind_device` waits for nobody who waits, unless it has locked nothing
  · rcases unbinding.here safe.inv with ⟨unbinds, reaches⟩
    have ofHolder := low_or_unbinds safe fresh waiting
    cases key with
    | code code =>
        rcases reaches with ⟨id, device, ownsActivation, registered⟩
        exact absurd (uncrossed.code unbinds.unlicensed ownsActivation registered owned) apart
    | activation id =>
        rcases ofHolder with low | unbindsToo
        · exact absurd (low _ owned) (Nat.lt_irrefl 3)
        · rcases reaches with ⟨device, code, registered, only⟩
          rcases only other holds with ⟨otherId, otherCode, rfl, registeredToo⟩
          exact absurd (uncrossed.device unbinds.unlicensed holds registeredToo
            unbindsToo.unlicensed owned registered) apart
    | token id =>
        rcases ofHolder with low | unbindsToo
        · exact absurd (low _ owned) (Nat.not_lt_of_le (Nat.le_succ 3))
        · rcases reaches with ⟨activationId, tokenOf, ownsActivation⟩
          rcases unbindsToo.tokens owned with ⟨otherId, tokenOfToo, ownsToo⟩
          cases tokenOf.eq tokenOfToo
          exact absurd (Option.some.inj (ownsToo.symm.trans ownsActivation)) apart
    | license | device | event => cases reaches

end

/-! ## A second code of the license -/

/-- The license gets a second code, and the first one is used on a machine. -/
def overlapRequests : List Handler :=
  [ownedCodes,
    adminCreateCodes { productId := referenceUuid 1, licenseId := some (referenceUuid 3) }
      fun _ => (referenceUuid 4, "YA-2", utf8 "YA-2"),
    activate (referenceEnvironment 0) (referenceActivation "machine-1" (some "a"))]

def overlapStore : Store := (Program.runAll overlapRequests ownedStore 0).1

theorem overlapStore_kept : requestContract.Inv overlapStore := by
  have all : ∀ handler ∈ overlapRequests, IsRequest handler := by
    intro handler member
    rcases List.mem_cons.mp member with rfl | member
    · exact .adminCreateCodes _ _
    rcases List.mem_cons.mp member with rfl | member
    · exact .adminCreateCodes _ _
    · rw [List.mem_singleton.mp member]
      exact .activate _ _
  have inv := @System.inv_of_runs _ _ _ _ _ _ _ requestContract _ _ _ _
    ⟨ownedStore_initial.consistent, ownedStore_initial.detached⟩
    (fun _ isRequest _ _ => kept_of_isRequest isRequest)
    (runs_of_isRequest ownedStore_initial.consistent all 0)
  dsimp only at inv
  exact inv

/-- The machine activates with the second code while its owner unbinds it. -/
def overlap : System Bool Row ApiError Response :=
  (({ rows := overlapStore } : System Bool Row ApiError Response).resume false
    (activate (referenceEnvironment 1)
      { referenceActivation "machine-1" none with activationCode := "YA-2" })).resume true
    (unbindDevice 16000000 (referenceUuid 9) (referenceUuid 128))

/-- `unbind_device` up to its update of the activation, then `activate` up to its
lock of it. -/
def overlapOrder : List Bool :=
  [true, true, false, false, false, false, false, false]

/-- The rows that the two may lock: `unbind_device`, which is `true`, the activation
of the machine, and `activate` no code but its own. -/
def Overlaps (transaction : Bool) (key : RowKey) : Prop :=
  if transaction then key = .activation (referenceUuid 192)
  else key.rank < 3 ∧ key ≠ .code (referenceUuid 2)

instance (transaction : Bool) (key : RowKey) : Decidable (Overlaps transaction key) := by
  unfold Overlaps
  infer_instance

/-- The next step of the transaction locks one of these rows or changes no lock. -/
def steady (system : System Bool Row ApiError Response) (transaction : Bool) : Bool :=
  match system.program transaction with
  | some (.select _) | some (.write _ _ _) => true
  | some (.lock key _) => Overlaps transaction key
  | _ => false

/-- The transaction is at an insert of an activation, which fails where there is one. -/
def inserting (system : System Bool Row ApiError Response) (transaction : Bool) : Bool :=
  match system.program transaction with
  | some (.lock (.activation _) next) =>
      match next (overlapStore.activation (referenceUuid 192)) with
      | .rollback _ => true
      | _ => false
  | _ => false

/-- Nothing is committed, only these rows are locked, and `activate` inserts no
activation. -/
structure Overlapping (system : System Bool Row ApiError Response) : Prop where
  rows : system.rows = overlapStore
  holds : ∀ {transaction : Bool} {key : RowKey}, system.holds transaction key →
    Overlaps transaction key
  quiet : inserting system false = false

theorem overlapStore_activation : ∃ row, overlapStore.activation (referenceUuid 192) = some row ∧
    row.activationCodeId = referenceUuid 2 := by
  have known : (overlapStore.activation (referenceUuid 192)).any
      (·.activationCodeId = referenceUuid 2) = true := by decide +kernel
  rcases (Option.any_eq_true _ _).mp known with ⟨row, present, ofCode⟩
  exact ⟨row, present, of_decide_eq_true ofCode⟩

namespace Overlapping

variable {system next : System Bool Row ApiError Response} {transaction : Bool}

theorem unbinds (overlapping : Overlapping system) {id : Uuid}
    (holds : system.holds transaction (.activation id)) :
    transaction = true ∧ id = referenceUuid 192 := by
  have overlaps := overlapping.holds holds
  cases transaction with
  | true => exact ⟨rfl, RowKey.activation.inj overlaps⟩
  | false => exact absurd overlaps.1 (Nat.lt_irrefl 3)

theorem registered (overlapping : Overlapping system) {device code : Uuid}
    (registered : Registered system.rows (referenceUuid 192) device code) :
    code = referenceUuid 2 := by
  rcases registered with ⟨row, present, -, rfl⟩
  rcases overlapStore_activation with ⟨known, here, ofCode⟩
  rw [overlapping.rows] at present
  cases present.symm.trans here
  exact ofCode

theorem drawn (overlapping : Overlapping system) {other : Bool} {program : Handler} {key : RowKey}
    (running : system.program transaction = some program) (inserts : Inserts program key)
    (overlaps : Overlaps other key) : other = transaction := by
  cases inserts with
  | activation env row =>
      cases other with
      | true =>
          cases transaction with
          | true => rfl
          | false =>
              have quiet := overlapping.quiet
              rcases overlapStore_activation with ⟨known, here, -⟩
              unfold inserting at quiet
              rw [running, here] at quiet
              cases quiet
      | false => exact absurd overlaps.1 (Nat.lt_irrefl 3)
  | token env blob id token =>
      cases other with
      | true => cases overlaps
      | false => exact absurd overlaps.1 (Nat.not_lt_of_le (Nat.le_succ 3))

theorem clear (overlapping : Overlapping system) {key : RowKey}
    (overlaps : Overlaps transaction key) : Clear system transaction key := by
  refine ⟨?_, ?_, ?_, fun running inserts =>
    (overlapping.drawn running inserts overlaps).symm⟩
  · rintro other id device code rfl - holds registered
    rcases overlapping.unbinds holds with ⟨rfl, rfl⟩
    cases overlapping.registered registered
    cases transaction with
    | true => rfl
    | false => exact absurd rfl overlaps.2
  · rintro other id device code rfl - registered holds
    cases transaction with
    | true =>
        cases overlaps
        cases overlapping.registered registered
        cases other with
        | true => rfl
        | false => exact absurd rfl (overlapping.holds holds).2
    | false => exact absurd overlaps.1 (Nat.lt_irrefl 3)
  · rintro other id otherId device code otherCode rfl - - - holds -
    cases transaction with
    | true => exact (overlapping.unbinds holds).1
    | false => exact absurd overlaps.1 (Nat.lt_irrefl 3)

theorem step (overlapping : Overlapping system) (advances : system.advance transaction = some next)
    (kept : steady system transaction = true) (quiet : inserting next false = false) :
    Overlapping next ∧ KeepsApart system next := by
  have change : next.rows = system.rows ∧ (next.owner = system.owner ∨ ∃ key,
      Overlaps transaction key ∧ next.owner = update system.owner key (some transaction)) := by
    unfold steady at kept
    unfold System.advance at advances
    split at kept
    · rename_i running
      rw [running] at advances
      cases advances
      exact ⟨rfl, .inl rfl⟩
    · rename_i running
      rw [running] at advances
      dsimp only at advances
      split at advances
      · cases advances
        exact ⟨rfl, .inl rfl⟩
      · cases advances
    · rename_i key _ running
      rw [running] at advances
      dsimp only at advances
      split at advances
      · cases advances
        exact ⟨rfl, .inr ⟨key, of_decide_eq_true kept, rfl⟩⟩
      · cases advances
    · cases kept
  have locks {other : Bool} {key : RowKey} (owned : next.holds other key) :
      system.holds other key ∨ other = transaction ∧ Overlaps transaction key := by
    unfold System.holds at owned ⊢
    rcases change.2 with same | ⟨taken, overlaps, locked⟩
    · exact .inl (same ▸ owned)
    · rw [locked] at owned
      by_cases same : key = taken
      · subst same
        rw [update_self] at owned
        exact .inr ⟨(Option.some.inj owned).symm, overlaps⟩
      · rw [update_of_ne same] at owned
        exact .inl owned
  have kept : Overlapping next := by
    refine ⟨change.1.trans overlapping.rows, fun owned => ?_, quiet⟩
    rcases locks owned with before | ⟨rfl, overlaps⟩
    · exact overlapping.holds before
    · exact overlaps
  refine ⟨kept, fun new owned => ?_, fun running inserts holds =>
    kept.drawn running inserts (overlapping.holds holds)⟩
  rcases locks owned with before | ⟨rfl, overlaps⟩
  · exact absurd before new
  · exact overlapping.clear overlaps

/-- The steps of an order are steady. -/
def Steady : System Bool Row ApiError Response → List Bool → Bool
  | _, [] => true
  | system, transaction :: order =>
      steady system transaction &&
        match system.advance transaction with
        | some next => !inserting next false && Steady next order
        | none => false

theorem run {order : List Bool} (overlapping : Overlapping system)
    (scheduled : system.schedule order = some next) (steady : Steady system order = true) :
    ReflTransGen (fun before after => System.Step IsBinding before after ∧ KeepsApart before after)
      system next := by
  induction order generalizing system with
  | nil =>
      cases scheduled
      exact .refl
  | cons transaction order ih =>
      rcases Option.bind_eq_some_iff.mp scheduled with ⟨middle, advances, rest⟩
      rw [Steady, advances, Bool.and_eq_true, Bool.and_eq_true] at steady
      rcases steady with ⟨first, quiet, steady⟩
      rcases overlapping.step advances first (Bool.not_eq_true' _ ▸ quiet) with ⟨kept, apart⟩
      exact .head ⟨System.step_of_advance advances, apart⟩ (ih kept rest steady)

theorem start (rows : system.rows = overlapStore) (unlocked : system.owner = fun _ => none)
    (transaction : Bool) (program : Handler)
    (quiet : inserting (system.resume transaction program) false = false) :
    Overlapping (system.resume transaction program) ∧
      KeepsApart system (system.resume transaction program) := by
  have idle {other : Bool} {key : RowKey} : ¬ system.holds other key := by
    unfold System.holds
    rw [unlocked]
    exact nofun
  refine ⟨⟨rows, fun holds => absurd holds idle, quiet⟩, ?_⟩
  exact ⟨fun new owned => absurd owned new, fun _ _ holds => absurd holds idle⟩

end Overlapping

/-- `unbind_device` has locked the activation and `activate` its code, its license and
its device; it waits for the activation. -/
theorem not_deadlocked_overlap : ∃ system : System Bool Row ApiError Response,
    system.owner (.code (referenceUuid 4)) = some false ∧ system.WaitsFor false true ∧
      ¬ system.Deadlocked := by
  have overlapped : (overlap.schedule overlapOrder).map (fun system =>
      (system.owner (.code (referenceUuid 4)), system.wants false,
        system.owner (.activation (referenceUuid 192)))) =
      some (some false, some (.activation (referenceUuid 192)), some true) := by decide +kernel
  rcases Option.map_eq_some_iff.mp overlapped with ⟨system, scheduled, same⟩
  simp only [Prod.mk.injEq] at same
  rcases same with ⟨ownsCode, wants, owns⟩
  have unlocked : ({ rows := overlapStore } : System Bool Row ApiError Response).rows =
      overlapStore := by dsimp only
  rcases Overlapping.start unlocked rfl false (activate (referenceEnvironment 1)
    { referenceActivation "machine-1" none with activationCode := "YA-2" }) rfl
    with ⟨first, firstApart⟩
  rcases Overlapping.start first.rows rfl true
    (unbindDevice 16000000 (referenceUuid 9) (referenceUuid 128)) rfl with
    ⟨overlapping, secondApart⟩
  have started : ReflTransGen (fun before after => System.Step IsBinding before after ∧
      KeepsApart before after) ({ rows := overlapStore } : System Bool Row ApiError Response)
      overlap :=
    .tail (.single ⟨.start rfl (.activate _ _), firstApart⟩)
      ⟨.start rfl (.unbindDevice _ _ _), secondApart⟩
  have run := overlapping.run scheduled (by decide +kernel)
  exact ⟨system, ownsCode, ⟨nofun, _, wants, owns⟩,
    not_deadlocked_of_runs overlapStore_kept (started.trans run)⟩

/-! ## One code -/

/-- The machine activates again while its owner unbinds it. -/
def crossing : System Bool Row ApiError Response :=
  (({ rows := boundStore } : System Bool Row ApiError Response).resume false
    (activate (referenceEnvironment 1) (referenceActivation "machine-1" (some "a")))).resume true
    (unbindDevice 16000000 (referenceUuid 9) (referenceUuid 128))

/-- `activate` up to its lock of the activation, and `unbind_device` up to its
lock of the code. -/
def crossingOrder : List Bool :=
  [false, false, false, false, true, true, true, true, true, true]

/-- From there `activate` waits for the activation and `unbind_device` for the
code. -/
theorem deadlock_of_crossing :
    requestContract.Inv boundStore ∧ ∃ system : System Bool Row ApiError Response,
      ReflTransGen (System.Step IsBinding) { rows := boundStore } system ∧ system.Deadlocked := by
  have crossed : (crossing.schedule crossingOrder).map (fun system =>
      (system.wants false, system.owner (.activation (referenceUuid 192)), system.wants true,
        system.owner (.code (referenceUuid 2)))) =
      some (some (.activation (referenceUuid 192)), some true, some (.code (referenceUuid 2)),
        some false) := by decide +kernel
  rcases Option.map_eq_some_iff.mp crossed with ⟨system, scheduled, same⟩
  simp only [Prod.mk.injEq] at same
  rcases same with ⟨wantsActivation, ownsActivation, wantsCode, ownsCode⟩
  have started : ReflTransGen (System.Step IsBinding) ({ rows := boundStore } : System Bool Row
      ApiError Response) crossing :=
    .tail (.single (.start rfl (.activate _ _))) (.start rfl (.unbindDevice _ _ _))
  have first : system.WaitsFor false true := ⟨nofun, _, wantsActivation, ownsActivation⟩
  have second : system.WaitsFor true false := ⟨nofun, _, wantsCode, ownsCode⟩
  exact ⟨boundStore_kept, system, started.trans (System.runs_of_schedule scheduled), false,
    .tail (.single first) second⟩

end YoAuthorize.Backend
