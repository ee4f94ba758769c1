import YoAuthorize.Lib.Octets

/-!
# Service configuration

`loadConfig` (`config.cpp`) from the outcome of the file checks and the TOML
parser on.  `Toml` is a parsed node; its accessors follow the retrieval rules of
the TOML library, where a whole-numbered float and a boolean also convert to an
integer and an integer to a boolean.
-/

namespace YoAuthorize.Service

open Octets

/-! ## TOML nodes -/

/-- A float carries the integer it equals, if it is whole. -/
inductive Toml : Type
  | string (text : Bytes)
  | integer (value : Int)
  | float (whole : Option Int)
  | boolean (value : Bool)
  | dateTime
  | array (items : List Toml)
  | table (entries : List (Bytes × Toml))

abbrev TomlTable : Type := List (Bytes × Toml)

namespace Toml

def get (table : TomlTable) (key : String) : Option Toml := table.lookup (utf8 key)

def asTable : Option Toml → Option TomlTable
  | some (.table entries) => some entries
  | _ => none

def asArray : Option Toml → Option (List Toml)
  | some (.array items) => some items
  | _ => none

def valueString : Option Toml → Option Bytes
  | some (.string text) => some text
  | _ => none

def valueInteger : Option Toml → Option Int
  | some (.integer value) => some value
  | some (.float whole) => whole
  | some (.boolean value) => some (if value then 1 else 0)
  | _ => none

def valueBoolean : Option Toml → Option Bool
  | some (.boolean value) => some value
  | some (.integer value) => some (value ≠ 0)
  | _ => none

end Toml

/-! ## The configuration -/

/-- `ConfigError` without `None`. -/
inductive ConfigError : Type
  | io
  | parse
  | missingField
  | invalidValue
  | duplicateKeyId
  deriving DecidableEq, Repr

abbrev ConfigResult (α : Type) : Type := Except ConfigError α

structure TrustKeyConfig : Type where
  id : Bytes
  publicKeyPath : Bytes
  deriving DecidableEq

structure LinuxMachineIdentityConfig : Type where
  machineIdPath : Bytes := utf8 "/etc/machine-id"
  productUuidPath : Bytes := utf8 "/sys/class/dmi/id/product_uuid"
  requireMachineId : Bool := true
  requireProductUuid : Bool := false
  deriving DecidableEq

structure ServiceConfig : Type where
  identityKeyId : Bytes
  identityPrivateKeyPath : Bytes
  licensePath : Bytes
  productId : Bytes
  licenseKeys : List TrustKeyConfig := []
  socketPath : Bytes := utf8 "/run/yoauthorize/license-v1.sock"
  socketMode : UInt32 := 0o660
  backlog : Int := 64
  allowedUids : List UInt32 := []
  allowedGids : List UInt32 := []
  maxConnections : UInt32 := 64
  handshakeTimeoutMs : UInt32 := 5000
  ioTimeoutMs : UInt32 := 5000
  idleTimeoutMs : UInt32 := 30000
  heartbeatIntervalMs : UInt32 := 5000
  heartbeatTimeoutMs : UInt32 := 15000
  machineIdentity : LinuxMachineIdentityConfig := {}
  deriving DecidableEq

/-! ## Fields -/

def requiredString (table : TomlTable) (key : String) : Option Bytes :=
  match Toml.valueString (Toml.get table key) with
  | some [] => none
  | value => value

/-- An absent field keeps its current value; `none` is a field that is refused. -/
def assignInteger {α : Type} (table : TomlTable) (key : String) (cast : Nat → α) (current : α)
    (minimum maximum : Nat) : Option α :=
  match Toml.get table key with
  | none => some current
  | some node =>
      match Toml.valueInteger (some node) with
      | none => none
      | some value =>
          if value < 0 ∨ value.toNat < minimum ∨ value.toNat > maximum then none
          else some (cast value.toNat)

def uint32Limit : Nat := 4294967295

/-- The loop of `parseIds`, with the ids so far. -/
def parseIdsFrom (ids : List UInt32) : List Toml → Option (List UInt32)
  | [] => some ids
  | item :: items =>
      match Toml.valueInteger (some item) with
      | none => none
      | some value =>
          if value < 0 ∨ value.toNat > uint32Limit then none
          else
            let id := UInt32.ofNat value.toNat
            if id ∈ ids then none else parseIdsFrom (ids ++ [id]) items

def parseIds (node : Toml) : Option (List UInt32) :=
  match Toml.asArray (some node) with
  | none => none
  | some items => parseIdsFrom [] items

/-- A field that may be absent but not invalid. -/
def optionalString (table : TomlTable) (key : String) (current : Bytes) : Option Bytes :=
  match requiredString table key, Toml.get table key with
  | some value, _ => some value
  | none, some _ => none
  | none, none => some current

def optionalBoolean (table : TomlTable) (key : String) (current : Bool) : Option Bool :=
  match Toml.valueBoolean (Toml.get table key), Toml.get table key with
  | some value, _ => some value
  | none, some _ => none
  | none, none => some current

/-! ## The steps of `loadConfig` -/

def readSections (document : TomlTable) : ConfigResult (TomlTable × List Toml) :=
  match Toml.asTable (Toml.get document "service"),
      Toml.asArray (Toml.get document "license_keys") with
  | some service, some (key :: keys) => .ok (service, key :: keys)
  | _, _ => .error .missingField

def readRequired (service : TomlTable) : ConfigResult (ServiceConfig × Toml) :=
  match requiredString service "identity_key_id", requiredString service "identity_private_key",
      requiredString service "license", requiredString service "product_id",
      Toml.get service "allowed_uids" with
  | some identityKeyId, some identityPrivateKeyPath, some licensePath, some productId,
      some allowedUids =>
      if identityKeyId.length > 65535 then .error .missingField
      else .ok ({ identityKeyId, identityPrivateKeyPath, licensePath, productId }, allowedUids)
  | _, _, _, _, _ => .error .missingField

def readAllowed (service : TomlTable) (allowedUids : Toml) (config : ServiceConfig) :
    ConfigResult ServiceConfig :=
  match optionalString service "socket" config.socketPath, parseIds allowedUids with
  | some socketPath, some (uid :: uids) =>
      match Toml.get service "allowed_gids" with
      | none => .ok { config with socketPath, allowedUids := uid :: uids }
      | some node =>
          match parseIds node with
          | none => .error .invalidValue
          | some allowedGids =>
              .ok { config with socketPath, allowedUids := uid :: uids, allowedGids }
  | _, _ => .error .invalidValue

def readLimits (service : TomlTable) (config : ServiceConfig) : ConfigResult ServiceConfig :=
  match assignInteger service "socket_mode" UInt32.ofNat config.socketMode 0 0o777,
      assignInteger service "backlog" Int.ofNat config.backlog 1 4096,
      assignInteger service "max_connections" UInt32.ofNat config.maxConnections 1 10000,
      assignInteger service "handshake_timeout_ms" UInt32.ofNat config.handshakeTimeoutMs 100 60000,
      assignInteger service "io_timeout_ms" UInt32.ofNat config.ioTimeoutMs 100 60000,
      assignInteger service "idle_timeout_ms" UInt32.ofNat config.idleTimeoutMs 1000 3600000,
      assignInteger service "heartbeat_interval_ms" UInt32.ofNat config.heartbeatIntervalMs 1000
        60000,
      assignInteger service "heartbeat_timeout_ms" UInt32.ofNat config.heartbeatTimeoutMs 2000
        300000 with
  | some socketMode, some backlog, some maxConnections, some handshakeTimeoutMs, some ioTimeoutMs,
      some idleTimeoutMs, some heartbeatIntervalMs, some heartbeatTimeoutMs =>
      if heartbeatTimeoutMs ≤ heartbeatIntervalMs then .error .invalidValue
      else
        .ok
          { config with
            socketMode
            backlog
            maxConnections
            handshakeTimeoutMs
            ioTimeoutMs
            idleTimeoutMs
            heartbeatIntervalMs
            heartbeatTimeoutMs }
  | _, _, _, _, _, _, _, _ => .error .invalidValue

def readMachine (document : TomlTable) (current : LinuxMachineIdentityConfig) :
    ConfigResult LinuxMachineIdentityConfig :=
  match Toml.asTable (Toml.get document "machine_identity") with
  | none => .ok current
  | some machine =>
      match optionalString machine "machine_id_path" current.machineIdPath,
          optionalString machine "product_uuid_path" current.productUuidPath,
          optionalBoolean machine "require_machine_id" current.requireMachineId,
          optionalBoolean machine "require_product_uuid" current.requireProductUuid with
      | some machineIdPath, some productUuidPath, some requireMachineId,
          some requireProductUuid =>
          .ok { machineIdPath, productUuidPath, requireMachineId, requireProductUuid }
      | _, _, _, _ => .error .invalidValue

/-- The loop over `license_keys`, with the keys so far. -/
def readLicenseKeys (keys : List TrustKeyConfig) : List Toml → ConfigResult (List TrustKeyConfig)
  | [] => .ok keys
  | item :: items =>
      match Toml.asTable (some item) with
      | none => .error .invalidValue
      | some key =>
          match requiredString key "id", requiredString key "public_key" with
          | some id, some publicKeyPath =>
              if keys.any fun old => old.id = id then .error .duplicateKeyId
              else readLicenseKeys (keys ++ [{ id, publicKeyPath }]) items
          | _, _ => .error .missingField

/-- `file` is the document, or the error of the file checks and the parser. -/
def loadConfig (file : ConfigResult TomlTable) : ConfigResult ServiceConfig := do
  let document ← file
  let (service, keys) ← readSections document
  let (config, allowedUids) ← readRequired service
  let config ← readAllowed service allowedUids config
  let config ← readLimits service config
  let machineIdentity ← readMachine document config.machineIdentity
  let licenseKeys ← readLicenseKeys [] keys
  return { config with machineIdentity, licenseKeys }

/-! ## What a loaded configuration satisfies -/

theorem bind_eq_ok {ε α β : Type} {first : Except ε α} {next : α → Except ε β} {result : β} :
    (first >>= next) = .ok result ↔ ∃ value, first = .ok value ∧ next value = .ok result := by
  cases first with
  | error error => exact ⟨nofun, nofun⟩
  | ok value =>
      constructor
      · intro continued
        exact ⟨value, rfl, continued⟩
      · rintro ⟨other, same, continued⟩
        cases same
        exact continued

theorem requiredString_ne_nil {table : TomlTable} {key : String} {value : Bytes}
    (present : requiredString table key = some value) : value ≠ [] := by
  unfold requiredString at present
  split at present
  · cases present
  · rename_i other
    rintro rfl
    exact other present

/-- The bounds on the two identifiers that clients see. -/
structure ServiceConfig.Named (config : ServiceConfig) : Prop where
  identityKeyId : config.identityKeyId ≠ []
  identityKeyIdSize : config.identityKeyId.length ≤ 65535
  productId : config.productId ≠ []

theorem named_of_readRequired {service : TomlTable} {config : ServiceConfig} {allowedUids : Toml}
    (read : readRequired service = .ok (config, allowedUids)) : config.Named := by
  unfold readRequired at read
  split at read
  · rename_i identityKeyId _ _ productId _ identityHere _ _ productHere _
    split at read
    · cases read
    · rename_i small
      cases read
      exact ⟨requiredString_ne_nil identityHere, Nat.not_lt.mp small,
        requiredString_ne_nil productHere⟩
  · cases read

/-- The later steps keep the identifiers. -/
structure ServiceConfig.SameNames (config other : ServiceConfig) : Prop where
  identityKeyId : other.identityKeyId = config.identityKeyId
  productId : other.productId = config.productId

theorem sameNames_of_readAllowed {service : TomlTable} {allowedUids : Toml}
    {config next : ServiceConfig} (read : readAllowed service allowedUids config = .ok next) :
    config.SameNames next := by
  unfold readAllowed at read
  split at read
  · split at read
    · cases read
      exact ⟨rfl, rfl⟩
    · split at read
      · cases read
      · cases read
        exact ⟨rfl, rfl⟩
  · cases read

theorem sameNames_of_readLimits {service : TomlTable} {config next : ServiceConfig}
    (read : readLimits service config = .ok next) : config.SameNames next := by
  unfold readLimits at read
  split at read
  · split at read
    · cases read
    · cases read
      exact ⟨rfl, rfl⟩
  · cases read

/-- A configuration that is loaded has passed the three readers of its fields. -/
theorem loadConfig_cases {file : ConfigResult TomlTable} {config : ServiceConfig}
    (loaded : loadConfig file = .ok config) :
    ∃ service required allowedUids allowed limited machineIdentity licenseKeys,
      readRequired service = .ok (required, allowedUids) ∧
      readAllowed service allowedUids required = .ok allowed ∧
      readLimits service allowed = .ok limited ∧
      config = { limited with machineIdentity, licenseKeys } := by
  unfold loadConfig at loaded
  rcases bind_eq_ok.mp loaded with ⟨document, -, loaded⟩
  rcases bind_eq_ok.mp loaded with ⟨⟨service, keys⟩, -, loaded⟩
  rcases bind_eq_ok.mp loaded with ⟨⟨required, allowedUids⟩, readsRequired, loaded⟩
  rcases bind_eq_ok.mp loaded with ⟨allowed, readsAllowed, loaded⟩
  rcases bind_eq_ok.mp loaded with ⟨limited, readsLimits, loaded⟩
  rcases bind_eq_ok.mp loaded with ⟨machineIdentity, -, loaded⟩
  rcases bind_eq_ok.mp loaded with ⟨licenseKeys, -, loaded⟩
  cases loaded
  exact ⟨service, required, allowedUids, allowed, limited, machineIdentity, licenseKeys,
    readsRequired, readsAllowed, readsLimits, rfl⟩

theorem named_of_loadConfig {file : ConfigResult TomlTable} {config : ServiceConfig}
    (loaded : loadConfig file = .ok config) : config.Named := by
  obtain ⟨service, required, allowedUids, allowed, limited, machineIdentity, licenseKeys,
    readsRequired, readsAllowed, readsLimits, rfl⟩ := loadConfig_cases loaded
  have named := named_of_readRequired readsRequired
  have first := sameNames_of_readAllowed readsAllowed
  have second := sameNames_of_readLimits readsLimits
  have identity := second.identityKeyId.trans first.identityKeyId
  have product := second.productId.trans first.productId
  exact ⟨identity ▸ named.identityKeyId, identity ▸ named.identityKeyIdSize,
    product ▸ named.productId⟩

/-- A field that is present is within its range. -/
theorem assignInteger_range {table : TomlTable} {key : String} {current assigned : UInt32}
    {minimum maximum : Nat}
    (assigns : assignInteger table key UInt32.ofNat current minimum maximum = some assigned)
    (fits : maximum < 2 ^ 32)
    (default : minimum ≤ current.toNat ∧ current.toNat ≤ maximum) :
    minimum ≤ assigned.toNat ∧ assigned.toNat ≤ maximum := by
  unfold assignInteger at assigns
  split at assigns
  · cases assigns
    exact default
  · split at assigns
    · cases assigns
    · split at assigns
      · cases assigns
      · rename_i value _ inside
        simp only [not_or, Nat.not_lt, gt_iff_lt] at inside
        have small : value.toNat < 2 ^ 32 := Nat.lt_of_le_of_lt inside.2.2 fits
        cases assigns
        rw [UInt32.toNat_ofNat_of_lt' small]
        exact inside.2

/-- The bounds on the times that the service keeps and sends. -/
structure ServiceConfig.Timed (config : ServiceConfig) : Prop where
  handshake : 0 < config.handshakeTimeoutMs.toNat
  idle : 0 < config.idleTimeoutMs.toNat
  interval : 0 < config.heartbeatIntervalMs
  timeout : config.heartbeatIntervalMs < config.heartbeatTimeoutMs

theorem timed_of_readLimits {service : TomlTable} {config next : ServiceConfig}
    (handshake : config.handshakeTimeoutMs = 5000) (idle : config.idleTimeoutMs = 30000)
    (interval : config.heartbeatIntervalMs = 5000)
    (read : readLimits service config = .ok next) : next.Timed := by
  unfold readLimits at read
  split at read
  · rename_i assignsHandshake _ assignsIdle assignsInterval _
    split at read
    · cases read
    · rename_i outlasts
      cases read
      have handshakeRange := assignInteger_range assignsHandshake (by decide)
        (by rw [handshake]; decide)
      have idleRange := assignInteger_range assignsIdle (by decide) (by rw [idle]; decide)
      have intervalRange := assignInteger_range assignsInterval (by decide)
        (by rw [interval]; decide)
      refine ⟨by dsimp only; omega, by dsimp only; omega, ?_, UInt32.not_le.mp outlasts⟩
      rw [UInt32.lt_iff_toNat_lt]
      exact Nat.lt_of_lt_of_le (by decide) intervalRange.1
  · cases read

/-- The steps before the limits leave the times at their defaults. -/
structure ServiceConfig.DefaultTimes (config : ServiceConfig) : Prop where
  handshake : config.handshakeTimeoutMs = 5000
  idle : config.idleTimeoutMs = 30000
  interval : config.heartbeatIntervalMs = 5000

theorem defaultTimes_of_readRequired {service : TomlTable} {config : ServiceConfig}
    {allowedUids : Toml} (read : readRequired service = .ok (config, allowedUids)) :
    config.DefaultTimes := by
  unfold readRequired at read
  split at read
  · split at read
    · cases read
    · cases read
      exact ⟨rfl, rfl, rfl⟩
  · cases read

theorem defaultTimes_of_readAllowed {service : TomlTable} {allowedUids : Toml}
    {config next : ServiceConfig} (default : config.DefaultTimes)
    (read : readAllowed service allowedUids config = .ok next) : next.DefaultTimes := by
  unfold readAllowed at read
  split at read
  · split at read
    · cases read
      exact ⟨default.handshake, default.idle, default.interval⟩
    · split at read
      · cases read
      · cases read
        exact ⟨default.handshake, default.idle, default.interval⟩
  · cases read

theorem timed_of_loadConfig {file : ConfigResult TomlTable} {config : ServiceConfig}
    (loaded : loadConfig file = .ok config) : config.Timed := by
  obtain ⟨service, required, allowedUids, allowed, limited, machineIdentity, licenseKeys,
    readsRequired, readsAllowed, readsLimits, rfl⟩ := loadConfig_cases loaded
  have default := defaultTimes_of_readAllowed (defaultTimes_of_readRequired readsRequired)
    readsAllowed
  have timed := timed_of_readLimits default.handshake default.idle default.interval readsLimits
  exact ⟨timed.handshake, timed.idle, timed.interval, timed.timeout⟩

end YoAuthorize.Service
