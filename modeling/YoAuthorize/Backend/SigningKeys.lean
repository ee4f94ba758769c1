import YoAuthorize.Lib.Base64
import YoAuthorize.Backend.Accounts
import YoAuthorize.Backend.ActivationUsable

/-!
# Signing keys

The signer (`main.rs` of `license-signer`) and its client (`signer.rs`), and the part
of `state` (`lib.rs`) in which a server that starts compares the key of its signer with
the table `signing_keys` or enters it there.

Any number of servers start beside one another, each with its own signer, and each may
fail at any point.  Operators retire keys in the meantime.
-/

namespace YoAuthorize.Backend

open Octets Crypto FlatBuffer License Relation

/-! ## The signer -/

/-- `AppState` of the signer. -/
structure Signer : Type where
  keyId : String
  key : Key
  secretHash : Bytes

/-- `HeaderValue::to_str` accepts these bytes. -/
def isVisibleAscii (byte : UInt8) : Bool := (32 ≤ byte ∧ byte < 127) ∨ byte = 9

def bearer : Bytes := ofAscii "Bearer "

def Signer.authorized (sha256 : Bytes → Bytes) (signer : Signer) (authorization : Option Bytes) :
    Bool :=
  match authorization with
  | none => false
  | some value =>
      value.all isVisibleAscii ∧ bearer.isPrefixOf value ∧
        sha256 (value.drop bearer.length) = signer.secretHash

structure KeyInfo : Type where
  keyId : String
  publicKey : Bytes

/-- `signing_key`, where `none` is `UNAUTHORIZED`. -/
def Signer.signingKey (dalek : Dalek) (sha256 : Bytes → Bytes) (signer : Signer)
    (authorization : Option Bytes) : Option KeyInfo :=
  if !signer.authorized sha256 authorization then none
  else
    some { keyId := signer.keyId, publicKey := Base64.encode (dalek.verifyingKey signer.key).val }

structure SignResponse : Type where
  license : Bytes
  keyId : String

/-- `sign`, where `none` is `UNAUTHORIZED` or `INVALID_DEFINITION`. -/
def Signer.sign (dalek : Dalek) (packages : Binding (LicensePackage String))
    (payloads : Binding (LicensePayload String)) (sha256 : Bytes → Bytes) (signer : Signer)
    (authorization : Option Bytes) (definition : LicenseDefinition) : Option SignResponse :=
  if !signer.authorized sha256 authorization then none
  else
    match generate dalek packages payloads definition signer.keyId signer.key with
    | .error _ => none
    | .ok package => some { license := Base64.encode package, keyId := signer.keyId }

/-- `load_key` of a file with these permission bits and contents. -/
def loadKey (mode : UInt32) (contents : Bytes) : Option Key :=
  if mode &&& 0o077 ≠ 0 then none
  else
    let decoded : Option Bytes :=
      if contents.length = kKeySize then some contents
      else
        match ofUtf8 contents with
        | none => none
        | some text => Base64.decode (utf8 (trim text))
    match decoded with
    | none => none
    | some decoded => if size : decoded.length = kKeySize then some ⟨decoded, size⟩ else none

/-- A seed is loaded from its bytes or from its text, and from nothing else. -/
theorem loadKey_eq_some_iff {mode : UInt32} {contents : Bytes} {key : Key} :
    loadKey mode contents = some key ↔ mode &&& 0o077 = 0 ∧ (contents = key.val ∨
      contents.length ≠ kKeySize ∧ ∃ text, ofUtf8 contents = some text ∧
        utf8 (trim text) = Base64.encode key.val) := by
  unfold loadKey
  by_cases shared : mode &&& 0o077 = 0
  swap
  · rw [if_pos shared]
    simp [shared]
  rw [if_neg (not_not.mpr shared)]
  by_cases raw : contents.length = kKeySize
  · simp only [shared, raw, if_true, dif_pos, Option.some.injEq, true_and, ne_eq, not_true,
      false_and, or_false]
    constructor
    · rintro rfl
      rfl
    · rintro rfl
      rfl
  · have other : contents ≠ key.val := by
      rintro rfl
      exact raw key.2
    simp only [shared, if_neg raw, other, false_or, true_and]
    cases ofUtf8 contents with
    | none => simp
    | some text =>
        simp only [raw, Option.some.injEq, not_false_eq_true, ne_eq, true_and, exists_eq_left']
        constructor
        · intro loaded
          split at loaded
          · cases loaded
          rename_i seed decoded
          split at loaded
          · cases loaded
            exact (Base64.encode_of_decode decoded).symm
          · cases loaded
        · intro same
          rw [same, Base64.decode_encode]
          exact dif_pos key.2

/-! ## The table -/

inductive KeyStatus : Type
  | active
  | disabled
  | revoked
  deriving DecidableEq, Repr

structure KeyRow : Type where
  publicKey : Key
  status : KeyStatus := .active
  createdAt : Timestamp
  notAfter : Option Timestamp := none

/-- The rows of `signing_keys` by their `key_id`. -/
abbrev KeyTable : Type := AList fun _ : String => KeyRow

/-- `status='active' AND (not_after IS NULL OR not_after>now())`. -/
def KeyRow.eligible (row : KeyRow) (now : Timestamp) : Bool :=
  row.status = .active ∧ row.notAfter.all fun notAfter => notAfter > now

def KeyTable.eligible (keys : KeyTable) (now : Timestamp) : List (String × KeyRow) :=
  (keys.entries.filter fun entry => entry.2.eligible now).map fun entry => (entry.1, entry.2)

/-- What `ORDER BY created_at DESC LIMIT 1` may return. -/
def KeyTable.latest (keys : KeyTable) (now : Timestamp) : List (Option (String × KeyRow)) :=
  match keys.eligible now with
  | [] => [none]
  | rows =>
      (rows.filter fun row => rows.all fun other => other.2.createdAt ≤ row.2.createdAt).map some

/-! ## A server that starts -/

/-- The bearer token of a server. -/
def authorization (secret : Bytes) : Option Bytes := some (bearer ++ secret)

/-- The signers that the servers are configured with, and their libraries. -/
structure Fleet (ι : Type) : Type where
  signer : ι → Signer
  secret : ι → Bytes
  dalek : Dalek
  sha256 : Bytes → Bytes
  packages : Binding (LicensePackage String)
  payloads : Binding (LicensePayload String)

section

variable {ι : Type} (fleet : Fleet ι)

/-- `key_info` and the check on the public key. -/
def Fleet.keyInfo (server : ι) : Option (String × Key) :=
  match (fleet.signer server).signingKey fleet.dalek fleet.sha256
      (authorization (fleet.secret server)) with
  | none => none
  | some info =>
      match Base64.decode info.publicKey with
      | none => none
      | some publicKey =>
          if size : publicKey.length = kKeySize then some (info.keyId, ⟨publicKey, size⟩) else none

/-- `SignerClient::sign` and the decoding of its license. -/
def Fleet.sign (server : ι) (definition : LicenseDefinition) : Option (Bytes × String) :=
  match (fleet.signer server).sign fleet.dalek fleet.packages fleet.payloads fleet.sha256
      (authorization (fleet.secret server)) definition with
  | none => none
  | some signed => (Base64.decode signed.license).map fun blob => (blob, signed.keyId)

end

/-- Where `state` stands, with the key of its signer and the time of its `BEGIN`. -/
inductive StartPhase : Type
  | fetching
  | waiting (keyId : String) (publicKey : Key) (begun : Timestamp)
  | locked (keyId : String) (publicKey : Key) (begun : Timestamp)
  | matched (keyId : String) (publicKey : Key)
  | inserted (keyId : String) (publicKey : Key) (begun : Timestamp)
  | running (keyId : String) (publicKey : Key)
  | failed

/-- The servers and the table. -/
structure Cluster (ι : Type) : Type where
  now : Timestamp
  keys : KeyTable
  /-- Who holds `SHARE ROW EXCLUSIVE` on the table. -/
  lock : Option ι
  phase : ι → StartPhase

namespace Cluster

section

variable {ι : Type} [DecidableEq ι]

def move (cluster : Cluster ι) (server : ι) (phase : StartPhase) : Cluster ι :=
  { cluster with phase := Function.update cluster.phase server phase }

/-- Every error and the end of the process roll the transaction back. -/
def fail (cluster : Cluster ι) (server : ι) : Cluster ι :=
  { cluster.move server .failed with
    lock := if cluster.lock = some server then none else cluster.lock }

/-- The comparison with the stored row, or the `INSERT`. -/
def check (cluster : Cluster ι) (server : ι) (keyId : String) (publicKey : Key)
    (begun : Timestamp) :
    Option (String × KeyRow) → Cluster ι
  | some (storedId, stored) =>
      if storedId ≠ keyId ∨ stored.publicKey ≠ publicKey then cluster.fail server
      else cluster.move server (.matched keyId publicKey)
  | none =>
      if keyId ∈ cluster.keys then cluster.fail server
      else cluster.move server (.inserted keyId publicKey begun)

theorem check_none {cluster : Cluster ι} {server : ι} {keyId : String} {publicKey : Key}
    {begun : Timestamp} (absent : keyId ∉ cluster.keys) :
    cluster.check server keyId publicKey begun none =
      cluster.move server (.inserted keyId publicKey begun) :=
  if_neg absent

theorem check_taken {cluster : Cluster ι} {server : ι} {keyId : String} {publicKey : Key}
    {begun : Timestamp} (taken : keyId ∈ cluster.keys) :
    cluster.check server keyId publicKey begun none = cluster.fail server :=
  if_pos taken

theorem check_same {cluster : Cluster ι} {server : ι} {keyId : String} {row : KeyRow}
    (begun : Timestamp) : cluster.check server keyId row.publicKey begun (some (keyId, row)) =
      cluster.move server (.matched keyId row.publicKey) :=
  if_neg (by rw [not_or, not_not, not_not]; exact ⟨rfl, rfl⟩)

/-- What operators do to a row: it is eligible at no other time than before. -/
structure Retires (row retired : KeyRow) : Prop where
  publicKey : retired.publicKey = row.publicKey
  eligible : ∀ time, retired.eligible time = true → row.eligible time = true

inductive Step (fleet : Fleet ι) (cluster : Cluster ι) : Cluster ι → Prop
  | tick {time : Timestamp} (later : cluster.now ≤ time) :
    Step fleet cluster { cluster with now := time }
  | retire {keyId : String} {row retired : KeyRow} (unlocked : cluster.lock = none)
    (present : cluster.keys.lookup keyId = some row) (retires : Retires row retired) :
    Step fleet cluster { cluster with keys := cluster.keys.insert keyId retired }
  | start {server : ι} {keyId : String} {publicKey : Key}
    (fetching : cluster.phase server = .fetching)
    (fetched : fleet.keyInfo server = some (keyId, publicKey)) :
    Step fleet cluster (cluster.move server (.waiting keyId publicKey cluster.now))
  | lockTable {server : ι} {keyId : String} {publicKey : Key} {begun : Timestamp}
    (waiting : cluster.phase server = .waiting keyId publicKey begun)
    (unlocked : cluster.lock = none) :
    Step fleet cluster
      { cluster.move server (.locked keyId publicKey begun) with lock := some server }
  | select {server : ι} {keyId : String} {publicKey : Key} {begun : Timestamp}
    {stored : Option (String × KeyRow)}
    (locked : cluster.phase server = .locked keyId publicKey begun)
    (selects : stored ∈ cluster.keys.latest begun) :
    Step fleet cluster (cluster.check server keyId publicKey begun stored)
  | commitMatched {server : ι} {keyId : String} {publicKey : Key}
    (matched : cluster.phase server = .matched keyId publicKey) :
    Step fleet cluster { cluster.move server (.running keyId publicKey) with lock := none }
  | commitInserted {server : ι} {keyId : String} {publicKey : Key} {begun : Timestamp}
    (inserted : cluster.phase server = .inserted keyId publicKey begun) :
    Step fleet cluster
      { cluster.move server (.running keyId publicKey) with
        lock := none
        keys := cluster.keys.insert keyId { publicKey, createdAt := begun } }
  /-- The server does not learn that its transaction is committed. -/
  | commitUnanswered {server : ι} {keyId : String} {publicKey : Key} {begun : Timestamp}
    (inserted : cluster.phase server = .inserted keyId publicKey begun) :
    Step fleet cluster
      { cluster.move server .failed with
        lock := none
        keys := cluster.keys.insert keyId { publicKey, createdAt := begun } }
  | fail {server : ι} : Step fleet cluster (cluster.fail server)

end

end Cluster

/-! ## Rows -/

theorem KeyRow.eligible_iff {row : KeyRow} {now : Timestamp} : row.eligible now = true ↔
    row.status = .active ∧ ∀ notAfter, row.notAfter = some notAfter → notAfter > now := by
  unfold eligible
  rw [decide_eq_true_iff, Option.all_eq_true]
  simp only [decide_eq_true_eq]

/-- A row that is eligible has been so since it is there. -/
theorem KeyRow.eligible_of_le {row : KeyRow} {now later : Timestamp} (before : now ≤ later)
    (eligible : row.eligible later = true) : row.eligible now = true := by
  obtain ⟨active, unexpired⟩ := eligible_iff.mp eligible
  exact eligible_iff.mpr ⟨active, fun notAfter limit =>
    lt_of_le_of_lt before (unexpired notAfter limit)⟩

theorem KeyTable.mem_eligible {keys : KeyTable} {now : Timestamp} {keyId : String} {row : KeyRow} :
    (keyId, row) ∈ keys.eligible now ↔
      keys.lookup keyId = some row ∧ row.eligible now = true := by
  unfold eligible
  rw [List.mem_map]
  constructor
  · rintro ⟨⟨id, other⟩, mem, same⟩
    cases same
    obtain ⟨here, eligible⟩ := List.mem_filter.mp mem
    exact ⟨AList.mem_lookup_iff.mpr here, eligible⟩
  · rintro ⟨present, eligible⟩
    exact ⟨⟨keyId, row⟩, List.mem_filter.mpr ⟨AList.mem_lookup_iff.mp present, eligible⟩, rfl⟩

theorem KeyTable.of_mem_latest {keys : KeyTable} {now : Timestamp}
    {stored : Option (String × KeyRow)} (selects : stored ∈ keys.latest now) :
    (∀ entry, stored = some entry → entry ∈ keys.eligible now) ∧
      (stored = none → keys.eligible now = []) := by
  unfold latest at selects
  split at selects
  · rename_i none
    cases List.mem_singleton.mp selects
    refine ⟨fun entry same => ?_, fun _ => none⟩
    cases same
  · rename_i some
    obtain ⟨entry, mem, rfl⟩ := List.mem_map.mp selects
    refine ⟨fun other same => ?_, fun same => by cases same⟩
    cases same
    exact (List.mem_filter.mp mem).1

namespace Cluster

theorem Retires.refl (row : KeyRow) : Retires row row :=
  ⟨rfl, fun _ eligible => eligible⟩

theorem Retires.trans {row retired gone : KeyRow} (first : Retires row retired)
    (second : Retires retired gone) : Retires row gone :=
  ⟨second.publicKey.trans first.publicKey, fun time eligible =>
    first.eligible time (second.eligible time eligible)⟩

/-- The rows stay, and none of them is eligible again. -/
def Keeps (keys later : KeyTable) : Prop :=
  ∀ ⦃keyId row⦄, keys.lookup keyId = some row →
    ∃ kept, later.lookup keyId = some kept ∧ Retires row kept

theorem Keeps.refl (keys : KeyTable) : Keeps keys keys :=
  fun _ row present => ⟨row, present, .refl row⟩

theorem Keeps.trans {keys later last : KeyTable} (first : Keeps keys later)
    (second : Keeps later last) : Keeps keys last := by
  intro keyId row present
  obtain ⟨kept, found, retires⟩ := first present
  obtain ⟨again, there, gone⟩ := second found
  exact ⟨again, there, retires.trans gone⟩

theorem keeps_insert_new {keys : KeyTable} {keyId : String} (absent : keyId ∉ keys) (row : KeyRow) :
    Keeps keys (keys.insert keyId row) := by
  intro other kept present
  have apart : other ≠ keyId := by
    rintro rfl
    exact absent (AList.lookup_isSome.mp (by rw [present]; rfl))
  exact ⟨kept, (AList.lookup_insert_ne apart).trans present, .refl kept⟩

theorem keeps_insert_retired {keys : KeyTable} {keyId : String} {row retired : KeyRow}
    (present : keys.lookup keyId = some row) (retires : Retires row retired) :
    Keeps keys (keys.insert keyId retired) := by
  intro other kept found
  by_cases same : other = keyId
  · subst same
    rw [present] at found
    cases found
    exact ⟨retired, AList.lookup_insert keys, retires⟩
  · exact ⟨kept, (AList.lookup_insert_ne same).trans found, .refl kept⟩

/-! ## The invariant -/

section

variable {ι : Type} {fleet : Fleet ι} {cluster next : Cluster ι}

/-- Two rows are never eligible at once. -/
def Unique (keys : KeyTable) (now : Timestamp) : Prop :=
  ∀ ⦃first second row other⦄, keys.lookup first = some row → keys.lookup second = some other →
    row.eligible now = true → other.eligible now = true → first = second

/-- What is known of a server in its phase. -/
def Fits (fleet : Fleet ι) (cluster : Cluster ι) (server : ι) : StartPhase → Prop
  | .fetching => True
  | .waiting keyId publicKey begun =>
      fleet.keyInfo server = some (keyId, publicKey) ∧ begun ≤ cluster.now
  | .locked keyId publicKey begun =>
      fleet.keyInfo server = some (keyId, publicKey) ∧ begun ≤ cluster.now ∧
        cluster.lock = some server
  | .matched keyId publicKey =>
      fleet.keyInfo server = some (keyId, publicKey) ∧ cluster.lock = some server ∧
        ∃ row, cluster.keys.lookup keyId = some row ∧ row.publicKey = publicKey
  | .inserted keyId publicKey begun =>
      fleet.keyInfo server = some (keyId, publicKey) ∧ begun ≤ cluster.now ∧
        cluster.lock = some server ∧ keyId ∉ cluster.keys ∧ cluster.keys.eligible begun = []
  | .running keyId publicKey =>
      fleet.keyInfo server = some (keyId, publicKey) ∧
        ∃ row, cluster.keys.lookup keyId = some row ∧ row.publicKey = publicKey
  | .failed => True

structure Inv (fleet : Fleet ι) (cluster : Cluster ι) : Prop where
  unique : Unique cluster.keys cluster.now
  fits : ∀ server, Fits fleet cluster server (cluster.phase server)

/-- What a step leaves to a server that does not take it. -/
structure Spares (server : ι) (cluster next : Cluster ι) : Prop where
  now : cluster.now ≤ next.now
  lock : cluster.lock = some server → next.lock = some server ∧ next.keys = cluster.keys
  keys : Keeps cluster.keys next.keys

theorem Fits.spared {server : ι} {phase : StartPhase} (fits : Fits fleet cluster server phase)
    (spares : Spares server cluster next) : Fits fleet next server phase := by
  cases phase with
  | fetching => trivial
  | waiting keyId publicKey begun =>
      obtain ⟨info, begins⟩ := fits
      exact ⟨info, begins.trans spares.now⟩
  | locked keyId publicKey begun =>
      obtain ⟨info, begins, holds⟩ := fits
      exact ⟨info, begins.trans spares.now, (spares.lock holds).1⟩
  | matched keyId publicKey =>
      obtain ⟨info, holds, row, present, same⟩ := fits
      obtain ⟨lock, keys⟩ := spares.lock holds
      exact ⟨info, lock, row, keys ▸ present, same⟩
  | inserted keyId publicKey begun =>
      obtain ⟨info, begins, holds, absent, none⟩ := fits
      obtain ⟨lock, keys⟩ := spares.lock holds
      exact ⟨info, begins.trans spares.now, lock, keys ▸ absent, keys ▸ none⟩
  | running keyId publicKey =>
      obtain ⟨info, row, present, same⟩ := fits
      obtain ⟨kept, found, retires⟩ := spares.keys present
      exact ⟨info, kept, found, retires.publicKey.trans same⟩
  | failed => trivial

theorem unique_of_le {keys : KeyTable} {now later : Timestamp} (before : now ≤ later)
    (unique : Unique keys now) : Unique keys later := by
  intro first second row other here there eligible also
  exact unique here there (KeyRow.eligible_of_le before eligible)
    (KeyRow.eligible_of_le before also)

theorem Inv.spared (inv : Inv fleet cluster) (unique : Unique next.keys next.now)
    (phase : next.phase = cluster.phase) (spares : ∀ server, Spares server cluster next) :
    Inv fleet next where
  unique := unique
  fits server := by
    rw [phase]
    exact (inv.fits server).spared (spares server)

variable [DecidableEq ι] {server : ι}

theorem Inv.moved (inv : Inv fleet cluster) {phase : StartPhase}
    (unique : Unique next.keys next.now)
    (moves : next.phase = Function.update cluster.phase server phase)
    (spares : ∀ other, other ≠ server → Spares other cluster next)
    (fits : Fits fleet next server phase) : Inv fleet next where
  unique := unique
  fits other := by
    rw [moves]
    by_cases same : other = server
    · subst same
      rwa [Function.update_self]
    · rw [Function.update_of_ne same]
      exact (inv.fits other).spared (spares other same)

theorem spares_move (other : ι) (phase : StartPhase) :
    Spares other cluster (cluster.move server phase) where
  now := le_refl _
  lock holds := ⟨holds, rfl⟩
  keys := Keeps.refl _

theorem spares_fail {other : ι} (apart : other ≠ server) :
    Spares other cluster (cluster.fail server) where
  now := le_refl _
  lock holds := by
    refine ⟨?_, rfl⟩
    have unheld : cluster.lock ≠ some server := by
      rw [holds]
      exact fun same => apart (Option.some.inj same)
    exact (if_neg unheld).trans holds
  keys := Keeps.refl _

theorem inv_fail (inv : Inv fleet cluster) : Inv fleet (cluster.fail server) :=
  inv.moved inv.unique rfl (fun _ apart => spares_fail apart) trivial

/-- The holder of the lock ends its transaction. -/
theorem spares_commit {other : ι} {keys : KeyTable} (apart : other ≠ server)
    (holds : cluster.lock = some server) (keeps : Keeps cluster.keys keys) (phase : StartPhase) :
    Spares other cluster { cluster.move server phase with lock := none, keys := keys } where
  now := le_refl _
  lock also := absurd (Option.some.inj (also.symm.trans holds)) apart
  keys := keeps

theorem unique_retired {keys : KeyTable} {now : Timestamp} {keyId : String} {row retired : KeyRow}
    (present : keys.lookup keyId = some row) (retires : Retires row retired)
    (unique : Unique keys now) : Unique (keys.insert keyId retired) now := by
  have before : ∀ ⦃id other⦄, (keys.insert keyId retired).lookup id = some other →
      other.eligible now = true →
        ∃ earlier, keys.lookup id = some earlier ∧ earlier.eligible now = true := by
    intro id other found eligible
    by_cases same : id = keyId
    · subst same
      rw [AList.lookup_insert] at found
      cases found
      exact ⟨row, present, retires.eligible now eligible⟩
    · rw [AList.lookup_insert_ne same] at found
      exact ⟨other, found, eligible⟩
  intro first second _ _ here there eligible also
  obtain ⟨_, here, eligible⟩ := before here eligible
  obtain ⟨_, there, also⟩ := before there also
  exact unique here there eligible also

/-- A new row is the only one that is eligible. -/
theorem unique_insert {keys : KeyTable} {keyId : String} {begun now : Timestamp} {row : KeyRow}
    (before : begun ≤ now) (none : keys.eligible begun = []) :
    Unique (keys.insert keyId row) now := by
  have gone : ∀ {id other}, id ≠ keyId → (keys.insert keyId row).lookup id = some other →
      other.eligible now = true → False := by
    intro id other apart present eligible
    rw [AList.lookup_insert_ne apart] at present
    have mem := KeyTable.mem_eligible.mpr ⟨present, KeyRow.eligible_of_le before eligible⟩
    rw [none] at mem
    cases mem
  intro first second row other here there eligible also
  by_cases firstNew : first = keyId
  · by_cases secondNew : second = keyId
    · rw [firstNew, secondNew]
    · exact (gone secondNew there also).elim
  · exact (gone firstNew here eligible).elim

theorem inv_check (inv : Inv fleet cluster) {keyId : String} {publicKey : Key} {begun : Timestamp}
    {stored : Option (String × KeyRow)}
    (locked : cluster.phase server = .locked keyId publicKey begun)
    (selects : stored ∈ cluster.keys.latest begun) :
    Inv fleet (cluster.check server keyId publicKey begun stored) := by
  have fits := inv.fits server
  rw [locked] at fits
  obtain ⟨info, begins, holds⟩ := fits
  obtain ⟨found, nothing⟩ := KeyTable.of_mem_latest selects
  cases stored with
  | some entry =>
      rcases entry with ⟨storedId, row⟩
      obtain ⟨present, -⟩ := KeyTable.mem_eligible.mp (found _ rfl)
      unfold check
      dsimp only
      split
      · exact inv_fail inv
      · rename_i same
        rw [not_or, not_not, not_not] at same
        obtain ⟨rfl, rfl⟩ := same
        exact inv.moved inv.unique rfl (fun other _ => spares_move other _)
          ⟨info, holds, row, present, rfl⟩
  | none =>
      unfold check
      dsimp only
      split
      · exact inv_fail inv
      · rename_i absent
        exact inv.moved inv.unique rfl (fun other _ => spares_move other _)
          ⟨info, begins, holds, absent, nothing rfl⟩

theorem inv_of_step (inv : Inv fleet cluster) (step : Step fleet cluster next) :
    Inv fleet next := by
  cases step with
  | tick later =>
      exact inv.spared (unique_of_le later inv.unique) rfl fun server =>
        ⟨later, fun holds => ⟨holds, rfl⟩, Keeps.refl _⟩
  | retire unlocked present retires =>
      have keeps := keeps_insert_retired present retires
      refine inv.spared (unique_retired present retires inv.unique) rfl fun server => ?_
      refine ⟨le_refl _, fun holds => ?_, keeps⟩
      rw [unlocked] at holds
      cases holds
  | start fetching fetched =>
      exact inv.moved inv.unique rfl (fun other _ => spares_move other _) ⟨fetched, le_refl _⟩
  | lockTable waiting unlocked =>
      rename_i server keyId publicKey begun
      have fits := inv.fits server
      rw [waiting] at fits
      refine inv.moved inv.unique rfl (fun other apart => ?_) ⟨fits.1, fits.2, rfl⟩
      refine ⟨le_refl _, fun holds => ?_, Keeps.refl _⟩
      rw [unlocked] at holds
      cases holds
  | select locked selects => exact inv_check inv locked selects
  | commitMatched matched =>
      rename_i server keyId publicKey
      have fits := inv.fits server
      rw [matched] at fits
      obtain ⟨info, holds, found⟩ := fits
      exact inv.moved inv.unique rfl (fun other apart => spares_commit apart holds (Keeps.refl _) _)
        ⟨info, found⟩
  | commitInserted inserted =>
      rename_i server keyId publicKey begun
      have fits := inv.fits server
      rw [inserted] at fits
      obtain ⟨info, begins, holds, absent, nothing⟩ := fits
      exact inv.moved (unique_insert begins nothing) rfl
        (fun other apart => spares_commit apart holds (keeps_insert_new absent _) _)
        ⟨info, _, AList.lookup_insert _, rfl⟩
  | commitUnanswered inserted =>
      rename_i server keyId publicKey begun
      have fits := inv.fits server
      rw [inserted] at fits
      obtain ⟨info, begins, holds, absent, nothing⟩ := fits
      exact inv.moved (unique_insert begins nothing) rfl
        (fun other apart => spares_commit apart holds (keeps_insert_new absent _) _) trivial
  | fail => exact inv_fail inv

theorem keeps_of_step (inv : Inv fleet cluster) (step : Step fleet cluster next) :
    cluster.now ≤ next.now ∧ Keeps cluster.keys next.keys := by
  cases step with
  | tick later => exact ⟨later, Keeps.refl _⟩
  | retire unlocked present retires => exact ⟨le_refl _, keeps_insert_retired present retires⟩
  | start fetching fetched => exact ⟨le_refl _, Keeps.refl _⟩
  | lockTable waiting unlocked => exact ⟨le_refl _, Keeps.refl _⟩
  | select locked selects =>
      rename_i server keyId publicKey begun stored
      unfold check
      split
      · split
        · exact ⟨le_refl _, Keeps.refl _⟩
        · exact ⟨le_refl _, Keeps.refl _⟩
      · split
        · exact ⟨le_refl _, Keeps.refl _⟩
        · exact ⟨le_refl _, Keeps.refl _⟩
  | commitMatched matched => exact ⟨le_refl _, Keeps.refl _⟩
  | commitInserted inserted =>
      rename_i server keyId publicKey begun
      have fits := inv.fits server
      rw [inserted] at fits
      exact ⟨le_refl _, keeps_insert_new fits.2.2.2.1 _⟩
  | commitUnanswered inserted =>
      rename_i server keyId publicKey begun
      have fits := inv.fits server
      rw [inserted] at fits
      exact ⟨le_refl _, keeps_insert_new fits.2.2.2.1 _⟩
  | fail => exact ⟨le_refl _, Keeps.refl _⟩

/-! ## Runs -/

/-- No server has begun, and the table is in order. -/
structure Initial (cluster : Cluster ι) : Prop where
  phase : ∀ server, cluster.phase server = .fetching
  unique : Unique cluster.keys cluster.now

omit [DecidableEq ι] in
theorem Initial.inv {first : Cluster ι} (initial : Initial first) : Inv fleet first where
  unique := initial.unique
  fits server := by
    rw [initial.phase]
    trivial

theorem inv_of_runs (inv : Inv fleet cluster) (runs : ReflTransGen (Step fleet) cluster next) :
    Inv fleet next := by
  induction runs with
  | refl => exact inv
  | tail _ step ih => exact inv_of_step ih step

theorem keeps_of_runs (inv : Inv fleet cluster) (runs : ReflTransGen (Step fleet) cluster next) :
    cluster.now ≤ next.now ∧ Keeps cluster.keys next.keys := by
  induction runs with
  | refl => exact ⟨le_refl _, Keeps.refl _⟩
  | tail before step ih =>
      obtain ⟨later, keeps⟩ := keeps_of_step (inv_of_runs inv before) step
      exact ⟨ih.1.trans later, ih.2.trans keeps⟩

/-- There is one key at most, and every server that runs has entered or found its own. -/
structure OneKey (fleet : Fleet ι) (cluster : Cluster ι) : Prop where
  unique : Unique cluster.keys cluster.now
  running : ∀ server keyId publicKey, cluster.phase server = .running keyId publicKey →
    fleet.keyInfo server = some (keyId, publicKey) ∧
      ∃ row, cluster.keys.lookup keyId = some row ∧ row.publicKey = publicKey
  /-- Servers whose keys are still active have the same key. -/
  agree : ∀ server other keyId otherId publicKey otherKey row otherRow,
    cluster.phase server = .running keyId publicKey →
    cluster.phase other = .running otherId otherKey →
    cluster.keys.lookup keyId = some row → row.eligible cluster.now = true →
    cluster.keys.lookup otherId = some otherRow → otherRow.eligible cluster.now = true →
    keyId = otherId ∧ publicKey = otherKey

theorem oneKey_of_runs {first last : Cluster ι} (initial : Initial first)
    (runs : ReflTransGen (Step fleet) first last) : OneKey fleet last := by
  have inv : Inv fleet last := inv_of_runs initial.inv runs
  have running : ∀ server keyId publicKey, last.phase server = .running keyId publicKey →
      fleet.keyInfo server = some (keyId, publicKey) ∧
        ∃ row, last.keys.lookup keyId = some row ∧ row.publicKey = publicKey := by
    intro server keyId publicKey here
    have fits := inv.fits server
    rw [here] at fits
    exact fits
  refine ⟨inv.unique, running, ?_⟩
  intro server other keyId otherId publicKey otherKey row otherRow here there found eligible
    otherFound otherEligible
  obtain rfl := inv.unique found otherFound eligible otherEligible
  obtain ⟨-, stored, present, rfl⟩ := running server keyId publicKey here
  obtain ⟨-, otherStored, otherPresent, rfl⟩ := running other keyId otherKey there
  rw [present, Option.some.injEq] at otherPresent
  exact ⟨rfl, by rw [otherPresent]⟩

/-! ## Keys that are retired -/

/-- A server that has not begun before a time is not on its way to this key. -/
def Barred (keyId : String) (since : Timestamp) : StartPhase → Prop
  | .fetching => True
  | .waiting id _ begun => id = keyId → since ≤ begun
  | .locked id _ begun => id = keyId → since ≤ begun
  | .matched id _ => id ≠ keyId
  | .inserted id _ _ => id ≠ keyId
  | .running id _ => id ≠ keyId
  | .failed => True

theorem barred_update {keyId : String} {since : Timestamp} {phases : ι → StartPhase}
    {target : StartPhase} {other : ι} (barred : Barred keyId since (phases other))
    (moved : other = server → Barred keyId since target) :
    Barred keyId since (Function.update phases server target other) := by
  by_cases same : other = server
  · rw [same, Function.update_self]
    exact moved same
  · rwa [Function.update_of_ne same]

theorem barred_of_step {keyId : String} {since : Timestamp} {row : KeyRow} {other : ι}
    (after : since ≤ cluster.now)
    (present : cluster.keys.lookup keyId = some row) (gone : row.eligible since = false)
    (barred : Barred keyId since (cluster.phase other)) (step : Step fleet cluster next) :
    Barred keyId since (next.phase other) := by
  cases step with
  | tick later => exact barred
  | retire unlocked found retires => exact barred
  | start fetching fetched => exact barred_update barred fun _ _ => after
  | lockTable waiting unlocked =>
      refine barred_update barred fun same => ?_
      rw [same, waiting] at barred
      exact barred
  | select locked selects =>
      rename_i server id publicKey begun stored
      obtain ⟨found, nothing⟩ := KeyTable.of_mem_latest selects
      cases stored with
      | some entry =>
          rcases entry with ⟨storedId, stored⟩
          obtain ⟨here, eligible⟩ := KeyTable.mem_eligible.mp (found _ rfl)
          unfold check
          dsimp only
          split
          · exact barred_update barred fun _ => trivial
          · rename_i same
            rw [not_or, not_not, not_not] at same
            obtain ⟨rfl, rfl⟩ := same
            refine barred_update barred fun same => ?_
            rw [same, locked] at barred
            rintro rfl
            rw [present] at here
            cases here
            have late := KeyRow.eligible_of_le (barred rfl) eligible
            rw [gone] at late
            cases late
      | none =>
          unfold check
          dsimp only
          split
          · exact barred_update barred fun _ => trivial
          · rename_i absent
            refine barred_update barred fun _ => ?_
            rintro rfl
            exact absent (AList.lookup_isSome.mp (by rw [present]; rfl))
  | commitMatched matched =>
      refine barred_update barred fun same => ?_
      rw [same, matched] at barred
      exact barred
  | commitInserted inserted =>
      refine barred_update barred fun same => ?_
      rw [same, inserted] at barred
      exact barred
  | commitUnanswered inserted => exact barred_update barred fun _ => trivial
  | fail => exact barred_update barred fun _ => trivial

theorem gone_of_retires {row kept : KeyRow} {time : Timestamp} (retires : Retires row kept)
    (gone : row.eligible time = false) : kept.eligible time = false := by
  rw [Bool.eq_false_iff] at gone ⊢
  exact fun eligible => gone (retires.eligible time eligible)

theorem barred_of_runs {keyId : String} {row : KeyRow} {other : ι} (inv : Inv fleet cluster)
    (runs : ReflTransGen (Step fleet) cluster next) (present : cluster.keys.lookup keyId = some row)
    (gone : row.eligible cluster.now = false) (fetching : cluster.phase other = .fetching) :
    Barred keyId cluster.now (next.phase other) := by
  induction runs with
  | refl =>
      rw [fetching]
      trivial
  | tail before step ih =>
      obtain ⟨after, keeps⟩ := keeps_of_runs inv before
      obtain ⟨kept, found, retires⟩ := keeps present
      exact barred_of_step after found (gone_of_retires retires gone) ih step

/-- What happens to a key that is retired. -/
structure Retired (keyId : String) (middle last : Cluster ι) : Prop where
  gone : ∃ row, last.keys.lookup keyId = some row ∧ row.eligible last.now = false
  barred : ∀ server, middle.phase server = .fetching →
    ∀ publicKey, last.phase server ≠ .running keyId publicKey

/-- A key that is no longer active never is again, and no server starts with it. -/
theorem retired_of_runs {first middle last : Cluster ι} (initial : Initial first)
    (runs : ReflTransGen (Step fleet) first middle) (later : ReflTransGen (Step fleet) middle last)
    {keyId : String} {row : KeyRow} (present : middle.keys.lookup keyId = some row)
    (gone : row.eligible middle.now = false) : Retired keyId middle last := by
  have inv : Inv fleet middle := inv_of_runs initial.inv runs
  obtain ⟨after, keeps⟩ := keeps_of_runs inv later
  obtain ⟨kept, found, retires⟩ := keeps present
  refine ⟨⟨kept, found, ?_⟩, fun server fetching publicKey running => ?_⟩
  · have before := gone_of_retires retires gone
    rw [Bool.eq_false_iff] at before ⊢
    exact fun eligible => before (KeyRow.eligible_of_le after eligible)
  · have barred := barred_of_runs inv later present gone fetching
    rw [running] at barred
    exact barred rfl

end

end Cluster

/-! ## What the signer signs for a server -/

section

variable {ι : Type} {fleet : Fleet ι} {server : ι}

/-- The signer accepts the secret of the server. -/
def Fleet.trusts (fleet : Fleet ι) (server : ι) : Prop :=
  (fleet.signer server).authorized fleet.sha256 (authorization (fleet.secret server)) = true

theorem Fleet.keyInfo_eq_some {keyId : String} {publicKey : Key}
    (fetched : fleet.keyInfo server = some (keyId, publicKey)) :
    fleet.trusts server ∧ keyId = (fleet.signer server).keyId ∧
      publicKey = fleet.dalek.verifyingKey (fleet.signer server).key := by
  unfold keyInfo Signer.signingKey at fetched
  split at fetched
  · cases fetched
  rename_i info answered
  split at answered
  · cases answered
  rename_i trusted
  cases answered
  dsimp only at fetched
  rw [Base64.decode_encode] at fetched
  dsimp only at fetched
  rw [dif_pos (fleet.dalek.verifyingKey (fleet.signer server).key).2] at fetched
  cases fetched
  exact ⟨by simpa [trusts] using trusted, rfl, rfl⟩

theorem Fleet.sign_eq (trusted : fleet.trusts server) (definition : LicenseDefinition) :
    fleet.sign server definition =
      ((generate fleet.dalek fleet.packages fleet.payloads definition (fleet.signer server).keyId
        (fleet.signer server).key).toOption).map fun package =>
          (package, (fleet.signer server).keyId) := by
  have accepted : ¬ (!(fleet.signer server).authorized fleet.sha256
      (authorization (fleet.secret server))) = true := by
    rw [trusted]
    decide
  unfold sign Signer.sign
  rw [if_neg accepted]
  cases generate fleet.dalek fleet.packages fleet.payloads definition (fleet.signer server).keyId
      (fleet.signer server).key with
  | error error => rfl
  | ok package =>
      dsimp only
      rw [Base64.decode_encode]
      rfl

/-- An activation that runs on a server and has found this row of the table. -/
structure ActivatesOn (fleet : Fleet ι) (server : ι) (env : Environment)
    (selected : Option (String × KeyRow)) : Prop where
  signingKey : env.signingKey = selected.map fun entry => (entry.1, entry.2.publicKey)
  sign : env.sign = fleet.sign server
  dalek : env.dalek = fleet.dalek
  packages : env.packages = fleet.packages
  payloads : env.payloads = fleet.payloads

/-- While the key of a server is the active one, an activation signs every valid license,
and it signs nothing when another key is active or none. -/
theorem signLicense_of_runs [DecidableEq ι] {libraries : Libraries}
    (interoperable : libraries.Interoperable)
    {fleet : Fleet ι} (dalek : fleet.dalek = libraries.dalek)
    (packages : fleet.packages = libraries.rustPackages)
    (payloads : fleet.payloads = libraries.rustPayloads)
    {first cluster : Cluster ι} (initial : first.Initial)
    (runs : ReflTransGen (Cluster.Step fleet) first cluster)
    {keyId : String} {publicKey : Key} (running : cluster.phase server = .running keyId publicKey)
    {env : Environment} {selected : Option (String × KeyRow)}
    (selects : selected ∈ cluster.keys.latest env.now)
    (activates : ActivatesOn fleet server env selected) (request : ActivationRequest)
    (licenseId : Uuid) (license : LicenseRow) :
    signLicense env request licenseId license =
      if selected.map Prod.fst = some keyId then
        (generate fleet.dalek fleet.packages fleet.payloads
          (definition env request licenseId license)
          keyId (fleet.signer server).key).toOption
      else none := by
  obtain ⟨fetched, row, present, stored⟩ :=
    (Cluster.oneKey_of_runs initial runs).running server keyId publicKey running
  obtain ⟨trusted, sameId, sameKey⟩ := Fleet.keyInfo_eq_some fetched
  have found := (KeyTable.of_mem_latest selects).1
  unfold signLicense
  rw [activates.signingKey, activates.sign, Fleet.sign_eq trusted, activates.dalek,
    activates.packages, activates.payloads]
  cases selected with
  | none => rfl
  | some entry =>
      rcases entry with ⟨id, other⟩
      obtain ⟨here, -⟩ := KeyTable.mem_eligible.mp (found _ rfl)
      rw [← sameId]
      cases generated : generate fleet.dalek fleet.packages fleet.payloads
          (definition env request licenseId license) keyId (fleet.signer server).key with
      | error error => simp [Except.toOption]
      | ok package =>
          simp only [Except.toOption, Option.map_some, Option.some.injEq]
          by_cases same : id = keyId
          · subst same
            rw [present] at here
            cases here
            rw [dalek, packages, payloads] at generated
            have issued := issued_of_generate generated
            have verified := verify_issued interoperable issued
            rw [if_pos rfl, if_neg (not_not.mpr rfl), stored, sameKey, dalek, packages, payloads,
              verified]
          · rw [if_neg same, if_pos (Ne.symm same)]

end

/-! ## Two servers with one signer -/

def referenceFleet : Fleet Bool where
  signer _ :=
    { keyId := "key-1", key := .zeros kKeySize, secretHash := ofAscii "shared-secret" }
  secret _ := ofAscii "shared-secret"
  dalek := referenceLibraries.dalek
  sha256 := id
  packages := referenceLibraries.rustPackages
  payloads := referenceLibraries.rustPayloads

theorem keyInfo_referenceFleet (server : Bool) :
    referenceFleet.keyInfo server = some ("key-1", .zeros kKeySize) := by
  have trusted : referenceFleet.trusts server := by
    unfold Fleet.trusts
    cases server <;> decide +kernel
  unfold Fleet.keyInfo Signer.signingKey
  rw [show (referenceFleet.signer server).authorized referenceFleet.sha256
    (authorization (referenceFleet.secret server)) = true from trusted, if_neg (by decide)]
  dsimp only
  rw [Base64.decode_encode]
  rfl

def referenceCluster (keys : KeyTable) : Cluster Bool where
  now := 15000000
  keys := keys
  lock := none
  phase _ := .fetching

def referenceKeyRow : KeyRow where
  publicKey := .zeros kKeySize
  createdAt := 15000000

theorem initial_referenceCluster : (referenceCluster ∅).Initial where
  phase _ := rfl
  unique := by
    intro first second row other here
    cases here

/-- Both begin before either of them has the lock; the second finds the row of the first. -/
theorem runs_referenceFleet :
    ∃ last : Cluster Bool, ReflTransGen (Cluster.Step referenceFleet) (referenceCluster ∅) last ∧
      (∀ server, last.phase server = .running "key-1" (.zeros kKeySize)) ∧
      last.keys = (∅ : KeyTable).insert "key-1" referenceKeyRow := by
  let key : Key := .zeros kKeySize
  let begun : Cluster Bool :=
    ((referenceCluster ∅).move true (.waiting "key-1" key 15000000)).move false
      (.waiting "key-1" key 15000000)
  let locked : Cluster Bool :=
    { begun.move true (.locked "key-1" key 15000000) with lock := some true }
  let entered : Cluster Bool :=
    { (locked.move true (.inserted "key-1" key 15000000)).move true (.running "key-1" key) with
      lock := none
      keys := (∅ : KeyTable).insert "key-1" referenceKeyRow }
  let relocked : Cluster Bool :=
    { entered.move false (.locked "key-1" key 15000000) with lock := some false }
  let found : Cluster Bool :=
    { (relocked.move false (.matched "key-1" key)).move false (.running "key-1" key) with
      lock := none }
  have begins : ReflTransGen (Cluster.Step referenceFleet) (referenceCluster ∅) begun :=
    .tail (.single (.start rfl (keyInfo_referenceFleet true)))
      (.start rfl (keyInfo_referenceFleet false))
  have inserts : Cluster.Step referenceFleet locked
      (locked.move true (.inserted "key-1" key 15000000)) := by
    rw [← Cluster.check_none (AList.notMem_empty "key-1")]
    exact .select rfl (List.mem_singleton.mpr rfl)
  have matches_ : Cluster.Step referenceFleet relocked
      (relocked.move false (.matched "key-1" key)) := by
    rw [show key = referenceKeyRow.publicKey from rfl, ← Cluster.check_same 15000000]
    exact .select rfl (List.mem_singleton.mpr rfl)
  have commits : Cluster.Step referenceFleet
      (locked.move true (.inserted "key-1" key 15000000)) entered := .commitInserted rfl
  have relocks : Cluster.Step referenceFleet entered relocked := .lockTable rfl rfl
  refine ⟨found, ?_, ?_, rfl⟩
  · refine .tail (.tail (.tail (.tail (.tail (.tail begins ?_) inserts) commits) relocks)
      matches_) ?_
    · exact .lockTable rfl rfl
    · exact .commitMatched rfl
  · intro server
    cases server <;> rfl

theorem oneKey_reference :
    ∃ last : Cluster Bool, Cluster.OneKey referenceFleet last ∧
      ∀ server, last.phase server = .running "key-1" (.zeros kKeySize) := by
  obtain ⟨last, runs, running, -⟩ := runs_referenceFleet
  exact ⟨last, Cluster.oneKey_of_runs initial_referenceCluster runs, running⟩

theorem signLicense_reference :
    let env : Environment := { referenceEnvironment 0 with sign := referenceFleet.sign true }
    let request := referenceActivation "machine-1" none
    let licenseId := referenceUuid 3
    let license := expiringLicense 30000000
    signLicense env request licenseId license =
      (generate referenceLibraries.dalek referenceLibraries.rustPackages
        referenceLibraries.rustPayloads (definition env request licenseId license) "key-1"
        (.zeros kKeySize)).toOption := by
  intro env request licenseId license
  obtain ⟨last, runs, running, keys⟩ := runs_referenceFleet
  have selects : some ("key-1", referenceKeyRow) ∈ last.keys.latest env.now := by
    rw [keys]
    exact List.mem_singleton.mpr rfl
  have activates : ActivatesOn referenceFleet true env (some ("key-1", referenceKeyRow)) :=
    ⟨rfl, rfl, rfl, rfl, rfl⟩
  rw [signLicense_of_runs referenceLibraries_interoperable rfl rfl rfl initial_referenceCluster runs
    (running true) selects activates request licenseId license]
  exact if_pos rfl

/-- A server whose key is disabled does not start. -/
theorem retired_reference :
    let disabled : KeyRow := { referenceKeyRow with status := .disabled }
    let middle := referenceCluster ((∅ : KeyTable).insert "key-1" disabled)
    ∃ last : Cluster Bool, Cluster.Retired "key-1" middle last ∧ last.phase true = .failed := by
  intro disabled middle
  let key : Key := .zeros kKeySize
  let waiting : Cluster Bool := middle.move true (.waiting "key-1" key 15000000)
  let locked : Cluster Bool :=
    { waiting.move true (.locked "key-1" key 15000000) with lock := some true }
  have present : middle.keys.lookup "key-1" = some disabled := AList.lookup_insert _
  have initial : middle.Initial :=
    ⟨fun _ => rfl, Cluster.unique_insert (le_refl 15000000) rfl⟩
  have starts : Cluster.Step referenceFleet middle waiting :=
    .start rfl (keyInfo_referenceFleet true)
  have locks : Cluster.Step referenceFleet waiting locked := .lockTable rfl rfl
  have fails : Cluster.Step referenceFleet locked (locked.fail true) := by
    have taken : "key-1" ∈ locked.keys := (AList.mem_insert _).mpr (.inl rfl)
    rw [← Cluster.check_taken taken]
    exact .select rfl (List.mem_singleton.mpr rfl)
  refine ⟨locked.fail true, ?_, rfl⟩
  exact Cluster.retired_of_runs initial .refl (.tail (.tail (.single starts) locks) fails)
    present rfl

end YoAuthorize.Backend
