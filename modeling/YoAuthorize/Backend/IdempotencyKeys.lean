import YoAuthorize.Backend.StoreEvolution

/-!
# Idempotency keys

Requests for one activation code that run one after the other.  A key that an
activation has recorded stays with it: later requests with that key replay the
activation, or are refused because they name another machine or the activation is
unbound.  A request that reuses a live activation does not record its key, and the
key is free for another machine afterwards.
-/

namespace YoAuthorize.Backend

open Octets Crypto FlatBuffer License Transaction

/-! ## A key and its activation -/

/-- The slots of a code that are taken. -/
def Store.slots (rows : Store) (codeId : Uuid) : Nat :=
  (rows.code codeId).elim 0 CodeRow.activationCount

/-- A request that reuses a live activation while its key is not recorded. -/
def ReusesUnrecorded (env : Environment) (request : ActivationRequest) (codeId : Uuid)
    (rows : Store) : Prop :=
  request.idempotencyKey ≠ none ∧ Unrecorded request codeId rows ∧
    ∃ code licenseId device id row, rows.code codeId = some code ∧
      code.licenseId = some licenseId ∧
      rows.device (machineHash env request) = some device ∧
      rows.activation id = some row ∧ row.liveFor licenseId device.id = true

/-- A key that an activation has recorded, with its blob and its machine. -/
def Recorded (codeId : Uuid) (key : String) (id : Uuid) (blob hash : Bytes) (rows : Store) : Prop :=
  ∃ row device, rows.activation id = some row ∧ row.recordedFor codeId key = true ∧
    row.licenseBlob = blob ∧ rows.device hash = some device ∧ device.id = row.deviceId

section

variable {env : Environment} {request : ActivationRequest} {rows later base store : Store}
  {codeId licenseId id : Uuid} {code : CodeRow} {license : LicenseRow} {row : ActivationRow}
  {response : ActivationResponse} {key : String} {blob hash : Bytes}

theorem Recorded.keeps (recorded : Recorded codeId key id blob hash rows)
    (keeps : Keeps rows later) : Recorded codeId key id blob hash later := by
  obtain ⟨row, device, present, ofKey, ofBlob, placed, same⟩ := recorded
  obtain ⟨newRow, newPresent, becomes⟩ := keeps.activation present
  obtain ⟨newDevice, newPlaced, sameId⟩ := keeps.device placed
  refine ⟨newRow, newDevice, newPresent, ?_, ?_, newPlaced, ?_⟩
  · rw [becomes.recordedFor]
    exact ofKey
  · rcases becomes with rfl | ⟨-, time, rfl⟩
    · exact ofBlob
    · exact ofBlob
  · rw [sameId, same, becomes.deviceId]

theorem Licensed.coded (licensed : Licensed env rows codeId code licenseId license base)
    (coded : rows.code codeId = some code) :
    base.code codeId = some { code with licenseId := some licenseId } := by
  cases licensed with
  | known linked =>
      rw [coded, ← linked]
  | created => exact AList.lookup_insert _

theorem slots_insert_token (token : TokenRow) (tokenId : Uuid) :
    Store.slots (rows.insert (.token tokenId) token) codeId = rows.slots codeId := by
  unfold Store.slots
  rw [Store.code_insert_of_unaccounted _ rfl]

/-- The slots that the three ways to an activation take. -/
theorem Obtains.slots (obtains : Obtains env request base codeId licenseId license id row store) :
    store.slots codeId = base.slots codeId ∨
      Unrecorded request codeId base ∧ store.slots codeId = base.slots codeId + 1 := by
  cases obtains with
  | replayed => exact .inl rfl
  | reused =>
      refine .inl ?_
      unfold Store.slots
      rw [Store.code_insert_device]
  | created unrecorded _ _ _ _ _ coded _ =>
      refine .inr ⟨unrecorded, ?_⟩
      unfold Store.slots
      rw [Store.code_insert, if_pos rfl, coded]
      rfl

/-- An activation that is reused, is reused for a known device and an old license. -/
theorem Licensed.reusesUnrecorded (consistent : Consistent (fun _ => 0) rows)
    (detached : Detached [] [] rows)
    (licensed : Licensed env rows codeId code licenseId license base)
    (coded : rows.code codeId = some code) (keyed : request.idempotencyKey = some key)
    (unrecorded : Unrecorded request codeId base) {device : DeviceRow}
    (placed : Upserts base (machineHash env request) device)
    (present : base.activation id = some row)
    (liveFor : row.liveFor licenseId device.id = true) :
    ReusesUnrecorded env request codeId rows := by
  obtain ⟨live, ofLicense, ofDevice⟩ :
      row.live = true ∧ row.licenseId = licenseId ∧ row.deviceId = device.id :=
    of_decide_eq_true liveFor
  cases licensed with
  | created unlinked absent =>
      -- nobody has an activation of a license that was not there
      rw [Store.activation_insert_code, Store.activation_insert_license] at present
      rcases consistent.licensed present with ⟨license, here⟩
      rw [ofLicense, absent] at here
      cases here
  | known linked licensedHere =>
      rcases detached.housed present with ⟨hash, other, housed, same⟩
      cases known : rows.device (machineHash env request) with
      | none => exact absurd (same.trans ofDevice) (placed.fresh known hash other housed)
      | some old =>
          refine ⟨?_, unrecorded, code, licenseId, old, id, row, coded, linked, known, present, ?_⟩
          · rw [keyed]
            exact Option.some_ne_none key
          · rw [← placed.known old known]
            exact liveFor

/-- A request that succeeds with a key and does not reuse an activation records it. -/
theorem Activates.recorded (activates : Activates env request rows later response)
    (consistent : Consistent (fun _ => 0) rows) (detached : Detached [] [] rows)
    (indexed : Indexed rows) (keyed : request.idempotencyKey = some key)
    (coded : rows.code codeId = some code)
    (hashed : code.codeHash = env.hashActivation request.activationCode)
    (records : ¬ ReusesUnrecorded env request codeId rows) :
    Recorded codeId key response.activationId response.license (machineHash env request) later ∧
      later.slots codeId ≤ rows.slots codeId + 1 := by
  cases activates with
  | @intro foundId licenseId found license base store row token _ foundHere redeemable product
      licensed sameProduct valid obtains live blob =>
      have foundHash : found.codeHash = env.hashActivation request.activationCode :=
        (of_decide_eq_true redeemable).1
      cases indexed.codes coded foundHere (hashed.trans foundHash.symm)
      cases coded.symm.trans foundHere
      have issued : Evolves store (store.insert (.token env.newToken) token) :=
        .insert_token env.newToken token
      have sameSlots : base.slots codeId = rows.slots codeId := by
        unfold Store.slots
        rw [licensed.coded coded, coded]
        rfl
      constructor
      · refine Recorded.keeps ?_ issued.toKeeps
        rw [blob]
        generalize response.activationId = activationId at obtains
        cases obtains with
        | replayed otherKeyed present recorded placed same =>
            cases keyed.symm.trans otherKeyed
            exact ⟨row, _, present, recorded, rfl, placed, same⟩
        | reused unrecorded _ placed present liveFor =>
            exact absurd (licensed.reusesUnrecorded consistent detached coded keyed unrecorded
              placed present liveFor) records
        | @created device _ signedBlob _ _ _ _ _ _ _ _ =>
            refine ⟨_, device, ?_, decide_eq_true ⟨rfl, keyed⟩, rfl, ?_, rfl⟩
            · rw [Store.activation_insert_code, Store.activation_insert, if_pos rfl]
            · rw [Store.device_insert_code, Store.device_insert_activation, Store.device_insert,
                if_pos rfl]
      · rw [slots_insert_token, ← sameSlots]
        rcases obtains.slots with same | ⟨-, more⟩
        · omega
        · omega

/-- A request with a recorded key that succeeds replays the activation. -/
theorem Recorded.replayed (recorded : Recorded codeId key id blob hash rows)
    (activates : Activates env request rows later response) (indexed : Indexed rows)
    (keyed : request.idempotencyKey = some key) (coded : rows.code codeId = some code)
    (hashed : code.codeHash = env.hashActivation request.activationCode) :
    response.activationId = id ∧ response.license = blob ∧ machineHash env request = hash ∧
      later.slots codeId = rows.slots codeId ∧
      ∃ row, rows.activation id = some row ∧ row.live = true := by
  cases activates with
  | @intro foundId licenseId found license base store row token _ foundHere redeemable product
      licensed sameProduct valid obtains live ofBlob =>
      have foundHash : found.codeHash = env.hashActivation request.activationCode :=
        (of_decide_eq_true redeemable).1
      cases indexed.codes coded foundHere (hashed.trans foundHash.symm)
      cases coded.symm.trans foundHere
      have evolves := licensed.evolves coded indexed
      have indexedBase := evolves.indexed indexed
      obtain ⟨held, device, present, ofKey, heldBlob, placed, same⟩ :=
        recorded.keeps evolves.toKeeps
      have excluded : ¬ Unrecorded request codeId base := by
        intro unrecorded
        rw [unrecorded key keyed _ _ present] at ofKey
        cases ofKey
      have sameSlots : base.slots codeId = rows.slots codeId := by
        unfold Store.slots
        rw [licensed.coded coded, coded]
        rfl
      generalize response.activationId = activationId at obtains
      cases obtains with
      | replayed otherKeyed found foundRecorded foundPlaced foundSame =>
          cases keyed.symm.trans otherKeyed
          have sameId := indexedBase.keys found present foundRecorded ofKey
          subst sameId
          cases found.symm.trans present
          refine ⟨rfl, ofBlob.trans heldBlob, ?_, (slots_insert_token ..).trans sameSlots, ?_⟩
          · exact indexedBase.devices foundPlaced placed (foundSame.trans same.symm)
          · rcases evolves.known present with ⟨old, here, becomes⟩
            cases becomes.eq_of_live live
            exact ⟨_, here, live⟩
      | reused unrecorded => exact absurd unrecorded excluded
      | created unrecorded => exact absurd unrecorded excluded

end

/-! ## Requests one after the other -/

inductive CodeRequest : Type
  | activate (env : Environment) (request : ActivationRequest)
  | unbindDevice (time : Timestamp) (user device : Uuid)

namespace CodeRequest

def handler : CodeRequest → Handler
  | .activate env request => Backend.activate env request
  | .unbindDevice time user device => Backend.unbindDevice time user device

/-- An activation of the code with the given hash, on a server with the given
digest of machine ids. -/
def OnCode (sha256 : Bytes → Bytes) (codeHash : Bytes) : CodeRequest → Prop
  | .activate env request =>
      env.sha256 = sha256 ∧ env.hashActivation request.activationCode = codeHash
  | .unbindDevice .. => True

/-- The machine of a request. -/
def names (machineId : String) : CodeRequest → Prop
  | .activate _ request => request.machineId = machineId
  | .unbindDevice .. => False

end CodeRequest

/-- A request with the rows before and after it. -/
structure Answer : Type where
  request : CodeRequest
  before : Store
  after : Store
  result : Except ApiError Response

namespace Answer

/-- A success with a key on a machine. -/
def Grants (answer : Answer) (key machineId : String) (response : ActivationResponse) : Prop :=
  ∃ env request, answer.request = .activate env request ∧ request.idempotencyKey = some key ∧
    request.machineId = machineId ∧ answer.result = .ok (.activated response)

/-- The slots of a code that the request takes. -/
def consumed (answer : Answer) (codeId : Uuid) : Int :=
  (answer.after.slots codeId : Int) - answer.before.slots codeId

/-- An activation with an unrecorded key does not reuse a live activation. -/
def RecordsKey (answer : Answer) (codeId : Uuid) : Prop :=
  ∀ env request, answer.request = .activate env request →
    ¬ ReusesUnrecorded env request codeId answer.before

end Answer

/-- What two requests, one after the other, do with the same key. -/
structure KeyLaw (codeId : Uuid) (first second : Answer) : Prop where
  same : ∀ {key machineId otherId : String} {response other : ActivationResponse},
    first.Grants key machineId response → second.Grants key otherId other →
    machineId = otherId ∧ response.license = other.license ∧
      first.consumed codeId + second.consumed codeId ≤ 1
  spent : ∀ {key machineId otherId : String} {response other : ActivationResponse}
    {row : ActivationRow}, first.Grants key machineId response →
    second.before.activation response.activationId = some row → row.live = false →
    ¬ second.Grants key otherId other

/-- The answer to one request. -/
def answer (request : CodeRequest) (rows : Store) (sequence : Nat) : Answer where
  request := request
  before := rows
  after := (request.handler.run rows sequence).rows
  result := (request.handler.run rows sequence).result

/-- The answers to requests that run one after the other. -/
def history : List CodeRequest → Store → Nat → List Answer
  | [], _, _ => []
  | request :: requests, rows, sequence =>
      answer request rows sequence ::
        history requests (request.handler.run rows sequence).rows
          (request.handler.run rows sequence).sequence

/-- The rows between two requests for a code. -/
structure Settled (codeId : Uuid) (codeHash : Bytes) (rows : Store) : Prop where
  kept : requestContract.Inv rows
  indexed : Indexed rows
  coded : ∃ code, rows.code codeId = some code ∧ code.codeHash = codeHash

section

variable {sha256 : Bytes → Bytes} {codeHash : Bytes} {codeId : Uuid} {rows : Store}

theorem CodeRequest.isRequest (request : CodeRequest) : IsRequest request.handler := by
  cases request with
  | activate env request => exact .activate env request
  | unbindDevice time user device => exact .unbindDevice time user device

theorem Settled.step (settled : Settled codeId codeHash rows) (request : CodeRequest)
    (sequence : Nat) : Settled codeId codeHash (request.handler.run rows sequence).rows where
  kept := kept_of_run settled.kept request.isRequest sequence
  indexed := (keeps_of_run settled.kept.2 settled.indexed request.isRequest sequence).2
  coded := by
    obtain ⟨code, coded, hashed⟩ := settled.coded
    obtain ⟨new, here, same⟩ :=
      (keeps_of_run settled.kept.2 settled.indexed request.isRequest sequence).1.code coded
    exact ⟨new, here, same.trans hashed⟩

theorem Answer.Grants.names {answer : Answer} {key machineId : String}
    {response : ActivationResponse} (grants : answer.Grants key machineId response) :
    answer.request.names machineId := by
  obtain ⟨env, activation, isActivate, -, rfl, -⟩ := grants
  rw [isActivate]
  rfl

/-- A request that succeeds with a key leaves it recorded. -/
theorem Settled.recorded (settled : Settled codeId codeHash rows) {request : CodeRequest}
    (onCode : request.OnCode sha256 codeHash) {sequence : Nat}
    (recordsKey : (answer request rows sequence).RecordsKey codeId) {key machineId : String}
    {response : ActivationResponse}
    (grants : (answer request rows sequence).Grants key machineId response) :
    Recorded codeId key response.activationId response.license (sha256 (utf8 machineId))
        (request.handler.run rows sequence).rows ∧
      (answer request rows sequence).consumed codeId ≤ 1 := by
  obtain ⟨env, activation, rfl, keyed, rfl, succeeds⟩ := grants
  obtain ⟨sameDigest, sameCode⟩ := onCode
  obtain ⟨code, coded, hashed⟩ := settled.coded
  obtain ⟨recorded, slots⟩ := (activates_of_run settled.kept.2 succeeds).recorded settled.kept.1
    settled.kept.2 settled.indexed keyed coded (hashed.trans sameCode.symm)
    (recordsKey env activation rfl)
  refine ⟨?_, ?_⟩
  · rw [← sameDigest]
    exact recorded
  · have taken : Store.slots (answer (.activate env activation) rows sequence).after codeId ≤
        Store.slots (answer (.activate env activation) rows sequence).before codeId + 1 := slots
    unfold Answer.consumed
    omega

/-- A request with a recorded key that succeeds replays its activation. -/
theorem Recorded.decides {key : String} {id : Uuid} {blob hash : Bytes}
    (settled : Settled codeId codeHash rows) (recorded : Recorded codeId key id blob hash rows)
    {request : CodeRequest} (onCode : request.OnCode sha256 codeHash) {sequence : Nat}
    {machineId : String} {response : ActivationResponse}
    (grants : (answer request rows sequence).Grants key machineId response) :
    sha256 (utf8 machineId) = hash ∧ response.license = blob ∧
      (answer request rows sequence).consumed codeId = 0 ∧
      ∃ row, rows.activation id = some row ∧ row.live = true := by
  obtain ⟨env, activation, rfl, keyed, rfl, succeeds⟩ := grants
  obtain ⟨sameDigest, sameCode⟩ := onCode
  obtain ⟨code, coded, hashed⟩ := settled.coded
  obtain ⟨-, sameBlob, sameHash, sameSlots, alive⟩ := recorded.replayed
    (activates_of_run settled.kept.2 succeeds) settled.indexed keyed coded
    (hashed.trans sameCode.symm)
  refine ⟨?_, sameBlob, ?_, alive⟩
  · rw [← sameDigest]
    exact sameHash
  · exact Int.sub_eq_zero.mpr (congrArg Nat.cast sameSlots)

/-- A recorded key decides every later request with it. -/
theorem Recorded.history {key : String} {id : Uuid} {blob hash : Bytes}
    (settled : Settled codeId codeHash rows) (recorded : Recorded codeId key id blob hash rows)
    {requests : List CodeRequest} (onCode : ∀ request ∈ requests, request.OnCode sha256 codeHash)
    {sequence : Nat} {second : Answer} (member : second ∈ history requests rows sequence)
    {machineId : String} {response : ActivationResponse}
    (grants : second.Grants key machineId response) :
    second.request ∈ requests ∧ sha256 (utf8 machineId) = hash ∧ response.license = blob ∧
      second.consumed codeId = 0 ∧
      ∃ row, second.before.activation id = some row ∧ row.live = true := by
  induction requests generalizing rows sequence with
  | nil => exact absurd member List.not_mem_nil
  | cons request requests ih =>
      rcases List.mem_cons.mp member with rfl | later
      · exact ⟨List.mem_cons_self, recorded.decides settled (onCode request List.mem_cons_self)
          grants⟩
      · have keeps := (keeps_of_run settled.kept.2 settled.indexed request.isRequest sequence).1
        obtain ⟨ofRequests, rest⟩ := ih (settled.step request sequence) (recorded.keeps keeps)
          (fun other among => onCode other (List.mem_cons_of_mem request among)) later
        exact ⟨List.mem_cons_of_mem request ofRequests, rest⟩

/-- As long as no request reuses a live activation while its key is unrecorded, the
requests of a code that succeed with one key name one machine, return one blob and take
one slot, and a key whose activation is unbound is spent. -/
theorem keyLaw_of_recordsKey (settled : Settled codeId codeHash rows)
    (requests : List CodeRequest) (onCode : ∀ request ∈ requests, request.OnCode sha256 codeHash)
    (distinct : ∀ left ∈ requests, ∀ right ∈ requests, ∀ machineId otherId,
      left.names machineId → right.names otherId →
      sha256 (utf8 machineId) = sha256 (utf8 otherId) → machineId = otherId)
    (sequence : Nat)
    (recordsKey : ∀ answer ∈ history requests rows sequence, answer.RecordsKey codeId) :
    (history requests rows sequence).Pairwise (KeyLaw codeId) := by
  induction requests generalizing rows sequence with
  | nil => exact .nil
  | cons request requests ih =>
      have rest : ∀ other ∈ requests, other.OnCode sha256 codeHash := fun other member =>
        onCode other (List.mem_cons_of_mem request member)
      have next := settled.step request sequence
      refine .cons ?_ (ih next rest ?_ _ ?_)
      · intro second later
        have recorded := @Settled.recorded sha256 _ _ _ settled _
          (onCode request List.mem_cons_self)
          sequence (recordsKey _ List.mem_cons_self)
        constructor
        · intro key machineId otherId response other first grants
          obtain ⟨held, consumed⟩ := recorded first
          obtain ⟨among, sameHash, sameBlob, unconsumed, -⟩ := held.history next rest later grants
          refine ⟨?_, sameBlob.symm, ?_⟩
          · exact distinct request List.mem_cons_self second.request
              (List.mem_cons_of_mem request among) _ _ first.names grants.names sameHash.symm
          · rw [unconsumed, Int.add_zero]
            exact consumed
        · intro key machineId otherId response other row first present dead grants
          obtain ⟨held, -⟩ := recorded first
          obtain ⟨-, -, -, -, alive, here, live⟩ := held.history next rest later grants
          cases present.symm.trans here
          rw [live] at dead
          cases dead
      · intro left leftMember right rightMember
        exact distinct left (List.mem_cons_of_mem request leftMember) right
          (List.mem_cons_of_mem request rightMember)
      · intro answer member
        exact recordsKey answer (List.mem_cons_of_mem _ member)

end

/-! ## One code with three slots -/

def keyCode : CodeRow where
  productId := referenceUuid 1
  licenseId := some (referenceUuid 3)
  codeHash := utf8 "YA-1"
  activationLimit := 3

def keyStore : Store := ownedStore.insert (.code (referenceUuid 2)) keyCode

theorem keyStore_activation (id : Uuid) : keyStore.activation id = none :=
  (Store.activation_insert_code ..).trans (ownedStore_initial.activations id)

theorem keyStore_settled : Settled (referenceUuid 2) (utf8 "YA-1") keyStore where
  kept := by
    refine ⟨?_, ?_⟩
    · exact ownedStore_initial.consistent.insert_code (ownedStore_initial.codes _) rfl rfl
    · exact ownedStore_initial.detached.insert_quiet _ _ fun _ _ _ => ⟨nofun, nofun, nofun, nofun⟩
  indexed := by
    refine ⟨?_, ?_, ?_⟩
    · intro left right codeId leftRow rightRow key present
      rw [keyStore_activation] at present
      cases present
    · intro left right leftRow rightRow present
      have absent : keyStore.device left = none := Store.device_insert_code ..
      rw [absent] at present
      cases present
    · intro left right leftRow rightRow leftHere rightHere same
      have only : ∀ id row, keyStore.code id = some row → id = referenceUuid 2 := by
        intro id row here
        rw [keyStore, Store.code_insert] at here
        split at here
        · assumption
        · rw [ownedStore_initial.codes] at here
          cases here
      exact (only left leftRow leftHere).trans (only right rightRow rightHere).symm
  coded := ⟨keyCode, AList.lookup_insert _, rfl⟩

/-- The activation of a machine with a key, as the request with a number. -/
def keyRequest (number : UInt8) (machineId key : String) : CodeRequest :=
  .activate (referenceEnvironment number) (referenceActivation machineId (some key))

theorem keyRequest_onCode (number : UInt8) (machineId key : String) :
    (keyRequest number machineId key).OnCode id (utf8 "YA-1") := ⟨rfl, rfl⟩

def Answer.response (answer : Answer) : Option ActivationResponse :=
  match answer.result with
  | .ok (.activated response) => some response
  | _ => none

theorem grants_keyRequest {number : UInt8} {machineId key : String} {rows : Store} {sequence : Nat}
    (succeeds : (answer (keyRequest number machineId key) rows sequence).response.isSome = true) :
    ∃ response, (answer (keyRequest number machineId key) rows sequence).Grants key machineId
      response := by
  obtain ⟨response, found⟩ := Option.isSome_iff_exists.mp succeeds
  refine ⟨response, _, _, rfl, rfl, rfl, ?_⟩
  unfold Answer.response at found
  split at found
  · rename_i granted
    cases found
    exact granted
  · cases found

/-- A machine that sends its request twice. -/
def repeatedRequests : List CodeRequest :=
  [keyRequest 0 "machine-1" "a", keyRequest 1 "machine-1" "a"]

/-- Both requests succeed, and keep the law of their key. -/
theorem keyLaw_repeated :
    (history repeatedRequests keyStore 0).map (fun answer => answer.response.isSome) =
        [true, true] ∧
      (history repeatedRequests keyStore 0).Pairwise (KeyLaw (referenceUuid 2)) := by
  refine ⟨by decide +kernel, ?_⟩
  apply @keyLaw_of_recordsKey id _ _ _ keyStore_settled
  · intro request member
    rcases List.mem_cons.mp member with rfl | member
    · exact keyRequest_onCode 0 "machine-1" "a"
    · rw [List.mem_singleton.mp member]
      exact keyRequest_onCode 1 "machine-1" "a"
  · intro left _ right _ machineId otherId _ _ same
    exact utf8_inj.mp same
  · intro answer member env request isActivate reuses
    rcases List.mem_cons.mp member with rfl | member
    · obtain ⟨-, -, code, licenseId, device, id, row, -, -, -, present, -⟩ := reuses
      rw [show Answer.before _ = keyStore from rfl, keyStore_activation] at present
      cases present
    · cases List.mem_singleton.mp member
      cases isActivate
      obtain ⟨-, unrecorded, -⟩ := reuses
      have found : (Store.findActivation (answer (keyRequest 0 "machine-1" "a") keyStore 0).after
          (·.recordedFor (referenceUuid 2) "a")).isSome = true := by decide +kernel
      obtain ⟨id, located⟩ := Option.isSome_iff_exists.mp found
      obtain ⟨row, present, recorded⟩ := Store.findActivation_eq_some located
      rw [unrecorded "a" rfl id row present] at recorded
      cases recorded

/-- A second key for the machine, and the same key for another machine. -/
def freedRequests : List CodeRequest :=
  [keyRequest 0 "machine-1" "a", keyRequest 1 "machine-1" "b", keyRequest 2 "machine-2" "b"]

/-- The second request reuses the activation of the first and does not record its key,
which then makes an activation on another machine. -/
theorem keyLaw_freed :
    Settled (referenceUuid 2) (utf8 "YA-1") keyStore ∧
      (∀ request ∈ freedRequests, request.OnCode id (utf8 "YA-1")) ∧
      ¬ (history freedRequests keyStore 0).Pairwise (KeyLaw (referenceUuid 2)) := by
  refine ⟨keyStore_settled, ?_, ?_⟩
  · intro request member
    rcases List.mem_cons.mp member with rfl | member
    · exact keyRequest_onCode 0 "machine-1" "a"
    rcases List.mem_cons.mp member with rfl | member
    · exact keyRequest_onCode 1 "machine-1" "b"
    · rw [List.mem_singleton.mp member]
      exact keyRequest_onCode 2 "machine-2" "b"
  · intro law
    let first := (keyRequest 0 "machine-1" "a").handler.run keyStore 0
    let second := (keyRequest 1 "machine-1" "b").handler.run first.rows first.sequence
    obtain ⟨response, granted⟩ : ∃ response,
        (answer (keyRequest 1 "machine-1" "b") first.rows first.sequence).Grants "b" "machine-1"
          response := grants_keyRequest (by decide +kernel)
    obtain ⟨other, otherGranted⟩ : ∃ response,
        (answer (keyRequest 2 "machine-2" "b") second.rows second.sequence).Grants "b" "machine-2"
          response := grants_keyRequest (by decide +kernel)
    have pair := (List.pairwise_cons.mp (List.pairwise_cons.mp law).2).1 _ List.mem_cons_self
    have same : "machine-1" = "machine-2" := (pair.same granted otherGranted).1
    exact absurd same (by decide)

end YoAuthorize.Backend
