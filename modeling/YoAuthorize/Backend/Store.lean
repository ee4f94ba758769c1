import YoAuthorize.Backend.LicenseFormat
import YoAuthorize.Lib.Contract

/-!
# The activation store

The tables `licenses`, `activation_codes`, `devices`, `activations`,
`device_tokens` and `outbox_events` of the backend (`0001_initial.sql`), with
the columns that the handlers read, and the queries over them.
`LicenseRow.createdFor` is not a column: it is the code whose activation created
the license.
-/

namespace YoAuthorize.Backend

open Octets Crypto FlatBuffer License Transaction

/-- A primary key or a reference to one. -/
abbrev Uuid : Type := FixedBytes 16

/-- A `timestamptz`: microseconds since the epoch. -/
abbrev Timestamp : Type := Int

/-- `timestamp() as u64`. -/
def seconds (time : Timestamp) : UInt64 := UInt64.ofInt (time / 1000000)

/-! ## Rows -/

/-- `license_status`. -/
inductive LicenseStatus : Type
  | active
  | revoked
  deriving DecidableEq, Repr

/-- A row of `licenses`: what every license that is issued for it says. -/
structure LicenseRow : Type where
  productId : Uuid
  userId : Option Uuid := none
  status : LicenseStatus := .active
  licenseType : LicenseKind
  notBefore : Timestamp
  expiresAt : Option Timestamp := none
  deviceLimit : Nat
  maxSessions : Nat := 1
  createdFor : Option Uuid := none
  deriving DecidableEq

/-- A row of `activation_codes`.  The code itself is not kept, only its hash; an unused
code has no license. -/
structure CodeRow : Type where
  productId : Uuid
  licenseId : Option Uuid
  codeHash : Bytes
  activationLimit : Nat := 1
  activationCount : Nat := 0
  expiresAt : Option Timestamp := none
  disabledAt : Option Timestamp := none
  deriving DecidableEq

/-- A row of `devices`.  The hint is what `mask` leaves of the machine id. -/
structure DeviceRow : Type where
  id : Uuid
  machineHint : String
  lastSeenAt : Timestamp
  deriving DecidableEq

/-- A row of `activations`, with the license package that was signed for the device.  The
row stays when the device is unbound. -/
structure ActivationRow : Type where
  licenseId : Uuid
  deviceId : Uuid
  activationCodeId : Uuid
  idempotencyKey : Option String
  licenseBlob : Bytes
  unboundAt : Option Timestamp := none
  deriving DecidableEq

/-- A row of `device_tokens`, with the hash of the access token that a device was given. -/
structure TokenRow : Type where
  activationId : Uuid
  tokenHash : Bytes
  expiresAt : Timestamp
  revokedAt : Option Timestamp := none
  deriving DecidableEq

/-- The topics of `outbox_events` that are about an activation. -/
inductive Topic : Type
  | licenseUpdated
  | licenseRevoked
  | deviceUnbound
  | featuresChanged
  deriving DecidableEq, Repr

/-- An event for an activation; its payload is the topic and the license or the
device that it is about. -/
structure EventRow : Type where
  topic : Topic
  aggregateId : Uuid
  subject : Uuid
  deriving DecidableEq

/-- A row by its table and key; `devices` by its unique machine hash. -/
inductive RowKey : Type
  | code (id : Uuid)
  | license (id : Uuid)
  | device (machineHash : Bytes)
  | activation (id : Uuid)
  | token (id : Uuid)
  | event (id : Nat)
  deriving DecidableEq

/-- The columns of a table. -/
abbrev Row : RowKey → Type
  | .code _ => CodeRow
  | .license _ => LicenseRow
  | .device _ => DeviceRow
  | .activation _ => ActivationRow
  | .token _ => TokenRow
  | .event _ => EventRow

/-- All rows, at most one for each key. -/
abbrev Store : Type := AList Row

/-! ## Queries -/

/-- `unbound_at IS NULL`. -/
def ActivationRow.live (row : ActivationRow) : Bool := row.unboundAt.isNone

namespace Store

section

variable (rows : Store)

/-- The queries by primary key, and of a device by its machine hash. -/
def code (id : Uuid) : Option CodeRow := rows.lookup (.code id)

def license (id : Uuid) : Option LicenseRow := rows.lookup (.license id)

def device (machineHash : Bytes) : Option DeviceRow := rows.lookup (.device machineHash)

def activation (id : Uuid) : Option ActivationRow := rows.lookup (.activation id)

def token (id : Uuid) : Option TokenRow := rows.lookup (.token id)

def event (id : Nat) : Option EventRow := rows.lookup (.event id)

end

/-- A whole table, in no order that a handler relies on. -/
def codes (rows : Store) : List (Uuid × CodeRow) :=
  rows.entries.filterMap fun
    | ⟨.code id, row⟩ => some (id, row)
    | _ => none

def devices (rows : Store) : List (Bytes × DeviceRow) :=
  rows.entries.filterMap fun
    | ⟨.device machineHash, row⟩ => some (machineHash, row)
    | _ => none

def activations (rows : Store) : List (Uuid × ActivationRow) :=
  rows.entries.filterMap fun
    | ⟨.activation id, row⟩ => some (id, row)
    | _ => none

def tokens (rows : Store) : List (Uuid × TokenRow) :=
  rows.entries.filterMap fun
    | ⟨.token id, row⟩ => some (id, row)
    | _ => none

def events (rows : Store) : List (Nat × EventRow) :=
  rows.entries.filterMap fun
    | ⟨.event id, row⟩ => some (id, row)
    | _ => none

/-- The first row that satisfies a `WHERE` clause; the clauses of the handlers are on unique
columns. -/
def findCode (rows : Store) (test : CodeRow → Bool) : Option Uuid :=
  (rows.codes.find? fun entry => test entry.2).map Prod.fst

def findActivation (rows : Store) (test : ActivationRow → Bool) : Option Uuid :=
  (rows.activations.find? fun entry => test entry.2).map Prod.fst

def findToken (rows : Store) (test : TokenRow → Bool) : Option Uuid :=
  (rows.tokens.find? fun entry => test entry.2).map Prod.fst

/-- The machine hash of the device with an id. -/
def deviceHash (rows : Store) (id : Uuid) : Option Bytes :=
  (rows.devices.find? fun entry => entry.2.id = id).map Prod.fst

/-- The live activations that satisfy a test. -/
def isLive (test : ActivationRow → Bool) : Sigma Row → Bool
  | ⟨.activation _, row⟩ => row.live && test row
  | _ => false

/-- How many devices a code holds at present. -/
def liveOfCode (rows : Store) (id : Uuid) : Nat :=
  count (isLive fun row => row.activationCodeId = id) rows

/-- How many devices a license holds at present, which `device_limit` bounds. -/
def liveOfLicense (rows : Store) (id : Uuid) : Nat :=
  count (isLive fun row => row.licenseId = id) rows

/-! ## What the queries find -/

/-- A table has a row under an id if and only if the query by that id finds it. -/
theorem mem_activations {rows : Store} {id : Uuid} {row : ActivationRow} :
    (id, row) ∈ rows.activations ↔ rows.activation id = some row := by
  rw [activations, List.mem_filterMap]
  constructor
  · rintro ⟨⟨key, found⟩, member, same⟩
    cases key with
    | activation other =>
        cases same
        exact AList.mem_lookup_iff.mpr member
    | code | license | device | token | event => cases same
  · intro present
    exact ⟨⟨.activation id, row⟩, AList.mem_lookup_iff.mp present, rfl⟩

theorem mem_codes {rows : Store} {id : Uuid} {row : CodeRow} :
    (id, row) ∈ rows.codes ↔ rows.code id = some row := by
  rw [codes, List.mem_filterMap]
  constructor
  · rintro ⟨⟨key, found⟩, member, same⟩
    cases key with
    | code other =>
        cases same
        exact AList.mem_lookup_iff.mpr member
    | activation | license | device | token | event => cases same
  · intro present
    exact ⟨⟨.code id, row⟩, AList.mem_lookup_iff.mp present, rfl⟩

theorem mem_devices {rows : Store} {machineHash : Bytes} {row : DeviceRow} :
    (machineHash, row) ∈ rows.devices ↔ rows.device machineHash = some row := by
  rw [devices, List.mem_filterMap]
  constructor
  · rintro ⟨⟨key, found⟩, member, same⟩
    cases key with
    | device other =>
        cases same
        exact AList.mem_lookup_iff.mpr member
    | activation | license | code | token | event => cases same
  · intro present
    exact ⟨⟨.device machineHash, row⟩, AList.mem_lookup_iff.mp present, rfl⟩

theorem mem_tokens {rows : Store} {id : Uuid} {row : TokenRow} :
    (id, row) ∈ rows.tokens ↔ rows.token id = some row := by
  rw [tokens, List.mem_filterMap]
  constructor
  · rintro ⟨⟨key, found⟩, member, same⟩
    cases key with
    | token other =>
        cases same
        exact AList.mem_lookup_iff.mpr member
    | activation | license | code | device | event => cases same
  · intro present
    exact ⟨⟨.token id, row⟩, AList.mem_lookup_iff.mp present, rfl⟩

theorem mem_events {rows : Store} {id : Nat} {row : EventRow} :
    (id, row) ∈ rows.events ↔ rows.event id = some row := by
  rw [events, List.mem_filterMap]
  constructor
  · rintro ⟨⟨key, found⟩, member, same⟩
    cases key with
    | event other =>
        cases same
        exact AList.mem_lookup_iff.mpr member
    | activation | license | code | device | token => cases same
  · intro present
    exact ⟨⟨.event id, row⟩, AList.mem_lookup_iff.mp present, rfl⟩

/-- The ids of the events are distinct, so that a cursor over them is well defined. -/
theorem nodup_events (rows : Store) : (rows.events.map Prod.fst).Nodup := by
  have keyed : rows.entries.Pairwise fun first second => first.1 ≠ second.1 :=
    List.pairwise_map.mp rows.keys_nodup
  rw [List.Nodup, List.pairwise_map, events]
  refine List.Pairwise.filterMap _ ?_ keyed
  rintro ⟨first, firstRow⟩ ⟨second, secondRow⟩ apart ⟨id, row⟩ here ⟨other, otherRow⟩ there same
  cases first with
  | event =>
      cases second with
      | event =>
          cases here
          cases there
          exact apart (congrArg RowKey.event same)
      | activation | license | code | device | token => cases there
  | activation | license | code | device | token => cases here

/-- What a query finds satisfies its clause. -/
theorem findCode_eq_some {rows : Store} {test : CodeRow → Bool} {id : Uuid}
    (found : rows.findCode test = some id) :
    ∃ row, rows.code id = some row ∧ test row = true := by
  rcases Option.map_eq_some_iff.mp found with ⟨⟨_, row⟩, here, rfl⟩
  have accepted := List.find?_some here
  exact ⟨row, mem_codes.mp (List.mem_of_find?_eq_some here), accepted⟩

theorem deviceHash_eq_some {rows : Store} {id : Uuid} {machineHash : Bytes}
    (found : rows.deviceHash id = some machineHash) :
    ∃ device, rows.device machineHash = some device ∧ device.id = id := by
  rcases Option.map_eq_some_iff.mp found with ⟨⟨_, device⟩, here, rfl⟩
  have accepted := List.find?_some here
  exact ⟨device, mem_devices.mp (List.mem_of_find?_eq_some here), of_decide_eq_true accepted⟩

/-- No device has an id that the query does not find. -/
theorem deviceHash_eq_none {rows : Store} {id : Uuid} (none : rows.deviceHash id = none)
    {machineHash : Bytes} {device : DeviceRow} (present : rows.device machineHash = some device) :
    device.id ≠ id := by
  rw [deviceHash, Option.map_eq_none_iff, List.find?_eq_none] at none
  intro same
  exact none (machineHash, device) (mem_devices.mpr present) (decide_eq_true same)

/-- Every row fails a clause for which the query finds none. -/
theorem findActivation_eq_none {rows : Store} {test : ActivationRow → Bool}
    (none : rows.findActivation test = none) {id : Uuid} {row : ActivationRow}
    (present : rows.activation id = some row) : test row = false := by
  rw [findActivation, Option.map_eq_none_iff, List.find?_eq_none] at none
  exact Bool.eq_false_iff.mpr (none (id, row) (mem_activations.mpr present))

theorem findActivation_eq_some {rows : Store} {test : ActivationRow → Bool} {id : Uuid}
    (found : rows.findActivation test = some id) :
    ∃ row, rows.activation id = some row ∧ test row = true := by
  rcases Option.map_eq_some_iff.mp found with ⟨⟨_, row⟩, here, rfl⟩
  have accepted := List.find?_some here
  exact ⟨row, mem_activations.mp (List.mem_of_find?_eq_some here), accepted⟩

theorem findToken_eq_some {rows : Store} {test : TokenRow → Bool} {id : Uuid}
    (found : rows.findToken test = some id) :
    ∃ row, rows.token id = some row ∧ test row = true := by
  rcases Option.map_eq_some_iff.mp found with ⟨⟨_, row⟩, here, rfl⟩
  have accepted := List.find?_some here
  exact ⟨row, mem_tokens.mp (List.mem_of_find?_eq_some here), accepted⟩

/-! ## A write to one table leaves the others -/

section

variable {rows : Store} {key : RowKey} (row : Row key)

/-- The tables that no count or limit is about. -/
def unaccounted : RowKey → Bool
  | .device _ | .token _ | .event _ => true
  | .code _ | .license _ | .activation _ => false

/-- A query does not see a write under another key. -/
theorem device_insert_of_ne {machineHash : Bytes} (apart : key ≠ .device machineHash) :
    device (rows.insert key row) machineHash = device rows machineHash :=
  AList.lookup_insert_ne apart.symm

theorem activation_insert_of_ne {id : Uuid} (apart : key ≠ .activation id) :
    activation (rows.insert key row) id = activation rows id :=
  AList.lookup_insert_ne apart.symm

theorem token_insert_of_ne {id : Uuid} (apart : key ≠ .token id) :
    token (rows.insert key row) id = token rows id :=
  AList.lookup_insert_ne apart.symm

theorem event_insert_of_ne {id : Nat} (apart : key ≠ .event id) :
    event (rows.insert key row) id = event rows id :=
  AList.lookup_insert_ne apart.symm

/-- The writes to devices, tokens and events leave codes, licenses and activations alone. -/
theorem code_insert_of_unaccounted (unaccounted : Store.unaccounted key = true) (id : Uuid) :
    code (rows.insert key row) id = code rows id :=
  AList.lookup_insert_ne fun same => by
    subst same
    cases unaccounted

theorem license_insert_of_unaccounted (unaccounted : Store.unaccounted key = true) (id : Uuid) :
    license (rows.insert key row) id = license rows id :=
  AList.lookup_insert_ne fun same => by
    subst same
    cases unaccounted

theorem activation_insert_of_unaccounted (unaccounted : Store.unaccounted key = true)
    (id : Uuid) : activation (rows.insert key row) id = activation rows id :=
  AList.lookup_insert_ne fun same => by
    subst same
    cases unaccounted

end

section

variable (rows : Store) (id other : Uuid) (machineHash : Bytes)

/-- The same for a write to a table other than the one that is read, by its name. -/
@[simp] theorem code_insert_license (row : LicenseRow) :
    code (rows.insert (.license id) row) other = code rows other :=
  AList.lookup_insert_ne nofun

@[simp] theorem code_insert_device (row : DeviceRow) :
    code (rows.insert (.device machineHash) row) other = code rows other :=
  AList.lookup_insert_ne nofun

@[simp] theorem code_insert_activation (row : ActivationRow) :
    code (rows.insert (.activation id) row) other = code rows other :=
  AList.lookup_insert_ne nofun

@[simp] theorem license_insert_code (row : CodeRow) :
    license (rows.insert (.code id) row) other = license rows other :=
  AList.lookup_insert_ne nofun

@[simp] theorem license_insert_device (row : DeviceRow) :
    license (rows.insert (.device machineHash) row) other = license rows other :=
  AList.lookup_insert_ne nofun

@[simp] theorem license_insert_activation (row : ActivationRow) :
    license (rows.insert (.activation id) row) other = license rows other :=
  AList.lookup_insert_ne nofun

@[simp] theorem activation_insert_code (row : CodeRow) :
    activation (rows.insert (.code id) row) other = activation rows other :=
  AList.lookup_insert_ne nofun

@[simp] theorem activation_insert_license (row : LicenseRow) :
    activation (rows.insert (.license id) row) other = activation rows other :=
  AList.lookup_insert_ne nofun

@[simp] theorem activation_insert_device (row : DeviceRow) :
    activation (rows.insert (.device machineHash) row) other = activation rows other :=
  AList.lookup_insert_ne nofun

@[simp] theorem device_insert_code (row : CodeRow) :
    device (rows.insert (.code id) row) machineHash = device rows machineHash :=
  AList.lookup_insert_ne nofun

@[simp] theorem device_insert_license (row : LicenseRow) :
    device (rows.insert (.license id) row) machineHash = device rows machineHash :=
  AList.lookup_insert_ne nofun

@[simp] theorem device_insert_activation (row : ActivationRow) :
    device (rows.insert (.activation id) row) machineHash = device rows machineHash :=
  AList.lookup_insert_ne nofun

@[simp] theorem device_insert_token (row : TokenRow) :
    device (rows.insert (.token id) row) machineHash = device rows machineHash :=
  AList.lookup_insert_ne nofun

@[simp] theorem device_insert_event (number : Nat) (row : EventRow) :
    device (rows.insert (.event number) row) machineHash = device rows machineHash :=
  AList.lookup_insert_ne nofun

@[simp] theorem activation_insert_token (row : TokenRow) :
    activation (rows.insert (.token id) row) other = activation rows other :=
  AList.lookup_insert_ne nofun

@[simp] theorem activation_insert_event (number : Nat) (row : EventRow) :
    activation (rows.insert (.event number) row) other = activation rows other :=
  AList.lookup_insert_ne nofun

@[simp] theorem token_insert_device (row : DeviceRow) :
    token (rows.insert (.device machineHash) row) other = token rows other :=
  AList.lookup_insert_ne nofun

@[simp] theorem token_insert_activation (row : ActivationRow) :
    token (rows.insert (.activation id) row) other = token rows other :=
  AList.lookup_insert_ne nofun

@[simp] theorem token_insert_event (number : Nat) (row : EventRow) :
    token (rows.insert (.event number) row) other = token rows other :=
  AList.lookup_insert_ne nofun

@[simp] theorem event_insert_device (number : Nat) (row : DeviceRow) :
    event (rows.insert (.device machineHash) row) number = event rows number :=
  AList.lookup_insert_ne nofun

@[simp] theorem event_insert_activation (number : Nat) (row : ActivationRow) :
    event (rows.insert (.activation id) row) number = event rows number :=
  AList.lookup_insert_ne nofun

@[simp] theorem event_insert_token (number : Nat) (row : TokenRow) :
    event (rows.insert (.token id) row) number = event rows number :=
  AList.lookup_insert_ne nofun

/-- After a write to a table, a query of that table sees the new row under its id and the old
rows under the others. -/
theorem code_insert (row : CodeRow) :
    code (rows.insert (.code id) row) other = if other = id then some row else code rows other := by
  split
  · rename_i same
    rw [same]
    exact AList.lookup_insert rows
  · rename_i apart
    exact AList.lookup_insert_ne fun same => apart (RowKey.code.inj same)

theorem license_insert (row : LicenseRow) :
    license (rows.insert (.license id) row) other =
      if other = id then some row else license rows other := by
  split
  · rename_i same
    rw [same]
    exact AList.lookup_insert rows
  · rename_i apart
    exact AList.lookup_insert_ne fun same => apart (RowKey.license.inj same)

theorem device_insert (otherHash : Bytes) (row : DeviceRow) :
    device (rows.insert (.device machineHash) row) otherHash =
      if otherHash = machineHash then some row else device rows otherHash := by
  split
  · rename_i same
    rw [same]
    exact AList.lookup_insert rows
  · rename_i apart
    exact AList.lookup_insert_ne fun same => apart (RowKey.device.inj same)

theorem activation_insert (row : ActivationRow) :
    activation (rows.insert (.activation id) row) other =
      if other = id then some row else activation rows other := by
  split
  · rename_i same
    rw [same]
    exact AList.lookup_insert rows
  · rename_i apart
    exact AList.lookup_insert_ne fun same => apart (RowKey.activation.inj same)

theorem token_insert (row : TokenRow) :
    token (rows.insert (.token id) row) other =
      if other = id then some row else token rows other := by
  split
  · rename_i same
    rw [same]
    exact AList.lookup_insert rows
  · rename_i apart
    exact AList.lookup_insert_ne fun same => apart (RowKey.token.inj same)

end

end Store

/-! ## Requests -/

/-- `ApiError`; `Public` with its HTTP status.  A handler that panics drops its
transaction too, and then there is no response at all. -/
inductive ApiError : Type
  | refused (status : Nat) (code message : String)
  | internal
  | panicked
  deriving DecidableEq, Repr

namespace ApiError

/-- 400. -/
def bad (code message : String) : ApiError := .refused 400 code message

/-- 403. -/
def forbidden (code message : String) : ApiError := .refused 403 code message

/-- 409. -/
def conflict (code message : String) : ApiError := .refused 409 code message

/-- 429, with the one text that every limit gives. -/
def rateLimited : ApiError := .refused 429 "RATE_LIMITED" "Too many requests. Try again later."

end ApiError

/-- An `ActivationResponse` without its constant address, and the activation that
its access token is for. -/
structure ActivationResponse : Type where
  license : Bytes
  activationId : Uuid
  accessToken : String
  tokenExpireTime : Int
  deriving DecidableEq

/-- What a handler that succeeds answers with. -/
inductive Response : Type
  | activated (response : ActivationResponse)
  | codesCreated (codes : List String)
  | noContent
  deriving DecidableEq

/-- A handler is one transaction: it commits with a response or rolls back with an error. -/
abbrev Handler : Type := Program Row ApiError Response

end YoAuthorize.Backend
