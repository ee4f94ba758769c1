import YoAuthorize.Protocol.SchemaReference
import YoAuthorize.Service.ConnectionEffect
import YoAuthorize.Service.HonestService

/-!
# Session accounting

Any number of connections share one session manager and one license.  A
`ServiceWorld` holds the connection objects, each with the sessions it has
created, and `ServiceWorld.Step` is one constructor, `handle` or destructor
call.  Seen from outside, the sessions of the connections and the table of the
manager are a lease pool; a step of the service is a run of the pool
(`Step.pool_run`), so the pool stays balanced and its table can be read off the
connections.
-/

namespace YoAuthorize.Service

open Octets Crypto FlatBuffer Protocol Protocol.Schema YoAuthorize.Core
open Function Relation

/-! ## Runs of a service -/

/-- The life of one connection object, with the sessions it has created. -/
inductive Slot : Type
  | unborn
  | live (connection : Connection) (created : List Session)
  | destroyed (created : List Session)
  deriving DecidableEq

namespace Slot

def connection : Slot → Option Connection
  | .live connection _ => some connection
  | _ => none

def created : Slot → List Session
  | .unborn => []
  | .live _ created => created
  | .destroyed created => created

end Slot

structure ServiceWorld (ι : Type) : Type where
  slots : ι → Slot := fun _ => .unborn
  sessions : SessionManager := {}

namespace ServiceWorld

variable {ι : Type} [DecidableEq ι]

/-- One call on one connection object. -/
inductive Step (fb : Binding Envelope) (license : LicenseSnapshot) :
    ServiceWorld ι → ServiceWorld ι → Prop
  | construct {world : ServiceWorld ι} {index : ι} (options : ConnectionOptions)
      (unborn : world.slots index = .unborn) :
      Step fb license world
        { world with
          slots := update world.slots index (.live (.construct license options) []) }
  | handle {world : ServiceWorld ι} {index : ι} {connection : Connection}
      {created : List Session} {handled : Handled} (ssl : OpenSsl) (draws : List Core.SessionId)
      (frame : Bytes) (nowMonotonicMs nowUnixSeconds : UInt64)
      (alive : world.slots index = .live connection created)
      (call : connection.handle fb ssl world.sessions draws frame nowMonotonicMs nowUnixSeconds =
        some handled) :
      Step fb license world
        { slots := update world.slots index
            (.live handled.connection (created ++ handled.created.toList))
          sessions := handled.sessions }
  | destruct {world : ServiceWorld ι} {index : ι} {connection : Connection}
      {created : List Session} (alive : world.slots index = .live connection created) :
      Step fb license world
        { slots := update world.slots index (.destroyed created)
          sessions := connection.destruct world.sessions }

/-- Every world a service can be in: it starts without connections and without
sessions. -/
def Reachable (fb : Binding Envelope) (license : LicenseSnapshot) (world : ServiceWorld ι) :
    Prop :=
  ReflTransGen (Step fb license) {} world

/-! ## The invariant of one connection -/

/-- What holds of a live connection, whatever the others do. -/
structure ConnectionSound (license : LicenseSnapshot) (connection : Connection)
    (created : List Session) : Prop where
  sameLicense : connection.license = license
  settled : connection.Settled
  owned : ∀ session, connection.session = some session →
    session.productId = license.productId ∧ session.peerIdentity = connection.peerIdentity
  unused : connection.Pending → created = []
  once : created.length ≤ 1

def SlotSound (license : LicenseSnapshot) : Slot → Prop
  | .unborn => True
  | .live connection created => ConnectionSound license connection created
  | .destroyed created => created.length ≤ 1

theorem moves_owned {license : LicenseSnapshot} {peerIdentity : Bytes}
    {before after : Option Session × SessionManager}
    (moves : ReflTransGen (SessionMove license peerIdentity) before after)
    (owned : ∀ session, before.1 = some session →
      session.productId = license.productId ∧ session.peerIdentity = peerIdentity) :
    ∀ session, after.1 = some session →
      session.productId = license.productId ∧ session.peerIdentity = peerIdentity := by
  induction moves with
  | refl => exact owned
  | tail _ move ih =>
      intro session held
      cases move with
      | acquire new room product peer =>
          cases held
          exact ⟨product, peer⟩
      | renew present sameIdentity => exact ih session held
      | release => cases held

theorem connectionSound_construct (license : LicenseSnapshot) (options : ConnectionOptions) :
    ConnectionSound license (.construct license options) [] where
  sameLicense := rfl
  settled := ⟨nofun, nofun⟩
  owned := nofun
  unused _ := rfl
  once := Nat.zero_le 1

theorem ConnectionSound.handle {license : LicenseSnapshot} {connection : Connection}
    {created : List Session} {manager : SessionManager} {handled : Handled}
    (sound : ConnectionSound license connection created)
    (effect : connection.Effect manager handled) :
    ConnectionSound license handled.connection (created ++ handled.created.toList) where
  sameLicense := effect.evolves.license.trans sound.sameLicense
  settled := effect.settled
  owned := by
    have moves := effect.evolves.moves
    rw [sound.sameLicense] at moves
    rw [effect.evolves.peerIdentity]
    exact moves_owned moves sound.owned
  unused pending := by
    rcases effect.pending pending with ⟨before, nothing⟩
    rw [sound.unused before, nothing]
    rfl
  once := by
    cases new : handled.created with
    | none =>
        rw [Option.toList_none, List.append_nil]
        exact sound.once
    | some session =>
        have pending := effect.created (by rw [new]; nofun)
        rw [sound.unused pending]
        exact Nat.le_refl 1

/-- A step keeps the other connections as they are. -/
theorem Step.slotSound {fb : Binding Envelope} {license : LicenseSnapshot}
    {world next : ServiceWorld ι} (step : Step fb license world next)
    (sound : ∀ index, SlotSound license (world.slots index)) :
    ∀ index, SlotSound license (next.slots index) := by
  have others : ∀ {changed : ι} {slot : Slot}, SlotSound license slot →
      ∀ index, SlotSound license (update world.slots changed slot index) :=
    fun new => (forall_update_iff world.slots fun _ => SlotSound license).mpr
      ⟨new, fun index _ => sound index⟩
  cases step with
  | construct options unborn => exact others (connectionSound_construct license options)
  | @handle index _ _ _ _ _ _ _ _ alive call =>
      have before : SlotSound license _ := alive ▸ sound index
      exact others (before.handle (Connection.handle_effect before.settled call))
  | @destruct index _ _ alive =>
      have before : SlotSound license _ := alive ▸ sound index
      exact others before.once

/-! ## The pool behind a service -/

/-- What a connection holds, as an entry of the pool. -/
def holding (session : Option Session) : Option (Core.SessionId × Session.Identity) :=
  session.map fun session => (session.id, session.identity)

def pool (world : ServiceWorld ι) : Lease.Pool ι Core.SessionId Session Session.Identity where
  held index := holding ((world.slots index).connection.bind Connection.session)
  table := world.sessions.sessions

def counted (license : LicenseSnapshot) (identity : Session.Identity) : Bool :=
  identity.productId = license.productId

abbrev PoolStep (license : LicenseSnapshot) :
    Lease.Pool ι Core.SessionId Session Session.Identity →
      Lease.Pool ι Core.SessionId Session Session.Identity → Prop :=
  Lease.Step Session.identity (counted license) license.maxSessions.toNat

/-- The moves of one connection are steps of the pool. -/
theorem moves_pool_run {license : LicenseSnapshot} {peerIdentity : Bytes}
    {before after : Option Session × SessionManager}
    (moves : ReflTransGen (SessionMove license peerIdentity) before after)
    (held : ι → Option (Core.SessionId × Session.Identity)) (index : ι) :
    ReflTransGen (PoolStep license)
      { held := update held index (holding before.1), table := before.2.sessions }
      { held := update held index (holding after.1), table := after.2.sessions } := by
  induction moves with
  | refl => exact .refl
  | @tail between after _ move ih =>
      refine ih.tail ?_
      cases move with
      | @acquire manager session new room product peer =>
          have step : PoolStep license
              { held := update held index none, table := manager.sessions }
              { held := update (update held index none) index (holding (some session))
                table := manager.sessions.insert session.id session } :=
            .acquire (update_self index none held) new room
          rw [update_idem] at step
          exact step
      | @renew manager session entry renewed present sameIdentity =>
          exact .renew (update_self index _ held) present sameIdentity
      | @release manager session =>
          have step : PoolStep license
              { held := update held index (holding (some session)), table := manager.sessions }
              { held := update (update held index (holding (some session))) index none
                table := manager.sessions.erase session.id } :=
            .release (update_self index _ held)
          rw [update_idem] at step
          exact step

theorem pool_update (slots : ι → Slot) (index : ι) (slot : Slot) (sessions : SessionManager) :
    pool { slots := update slots index slot, sessions } =
      { held := update (pool { slots, sessions }).held index
          (holding (slot.connection.bind Connection.session))
        table := sessions.sessions } := by
  refine congrArg (Lease.Pool.mk · sessions.sessions) (funext fun other => ?_)
  dsimp only
  by_cases same : other = index
  · subst same
    rw [update_self, update_self]
  · rw [update_of_ne same, update_of_ne same]
    rfl

/-- The pool with the entry of one connection spelled out. -/
theorem pool_of_slot {world : ServiceWorld ι} {index : ι} {slot : Slot}
    (here : world.slots index = slot) :
    world.pool =
      { held := update world.pool.held index (holding (slot.connection.bind Connection.session))
        table := world.sessions.sessions } := by
  have own : world.pool.held index = holding (slot.connection.bind Connection.session) :=
    here ▸ rfl
  rw [← own, update_eq_self]
  rfl

theorem Step.pool_run {fb : Binding Envelope} {license : LicenseSnapshot}
    {world next : ServiceWorld ι} (step : Step fb license world next)
    (sound : ∀ index, SlotSound license (world.slots index)) :
    ReflTransGen (PoolStep license) world.pool next.pool := by
  cases step with
  | construct options unborn =>
      -- A new connection holds nothing, as the unborn one did.
      rw [pool_of_slot unborn, pool_update]
      exact .refl
  | @handle index connection created handled _ _ _ _ _ alive call =>
      have before : SlotSound license _ := alive ▸ sound index
      have moves := (Connection.handle_effect before.settled call).evolves.moves
      rw [before.sameLicense] at moves
      rw [pool_of_slot alive, pool_update]
      exact moves_pool_run moves world.pool.held index
  | @destruct index connection created alive =>
      have before : SlotSound license _ := alive ▸ sound index
      have moves := (connection.closeSession_evolves world.sessions).moves
      rw [before.sameLicense, connection.closeSession_session] at moves
      rw [pool_of_slot alive, pool_update]
      exact moves_pool_run moves world.pool.held index

/-! ## The accounting of a run -/

theorem Reachable.slotSound {fb : Binding Envelope} {license : LicenseSnapshot}
    {world : ServiceWorld ι} (reachable : Reachable fb license world) :
    ∀ index, SlotSound license (world.slots index) := by
  induction reachable with
  | refl => exact fun _ => trivial
  | tail _ step ih => exact step.slotSound ih

theorem Reachable.pool_run {fb : Binding Envelope} {license : LicenseSnapshot}
    {world : ServiceWorld ι} (reachable : Reachable fb license world) :
    ReflTransGen (PoolStep license) (pool {}) world.pool := by
  induction reachable with
  | refl => exact .refl
  | tail before step ih => exact ih.trans (step.pool_run (Reachable.slotSound before))

theorem Reachable.balanced {fb : Binding Envelope} {license : LicenseSnapshot}
    {world : ServiceWorld ι} (reachable : Reachable fb license world) :
    Lease.Balanced Session.identity (counted license) license.maxSessions.toNat world.pool :=
  Lease.balanced_empty.run reachable.pool_run

def connection (world : ServiceWorld ι) (index : ι) : Option Connection :=
  (world.slots index).connection

theorem Reachable.connectionSound {fb : Binding Envelope} {license : LicenseSnapshot}
    {world : ServiceWorld ι} (reachable : Reachable fb license world) {index : ι}
    {connection : Connection} (here : world.connection index = some connection) :
    ∃ created, ConnectionSound license connection created := by
  have sound := reachable.slotSound index
  unfold ServiceWorld.connection at here
  cases slot : world.slots index with
  | unborn =>
      rw [slot] at here
      cases here
  | destroyed created =>
      rw [slot] at here
      cases here
  | live found created =>
      rw [slot] at here sound
      cases here
      exact ⟨created, sound⟩

omit [DecidableEq ι] in
theorem pool_held_eq_some {world : ServiceWorld ι} {index : ι} {id : Core.SessionId}
    {identity : Session.Identity} :
    world.pool.held index = some (id, identity) ↔
      ∃ connection session, world.connection index = some connection ∧
        connection.session = some session ∧ session.id = id ∧ session.identity = identity := by
  change holding ((world.connection index).bind Connection.session) = _ ↔ _
  cases world.connection index with
  | none => simp [holding]
  | some connection =>
      cases held : connection.session with
      | none => simp [holding, held]
      | some session => simp [holding, held]

/-- The manager's table and the connections agree. -/
structure Accounted (license : LicenseSnapshot) (world : ServiceWorld ι) : Prop where
  held_iff_active : ∀ {index : ι} {connection : Connection},
    world.connection index = some connection →
      (connection.session ≠ none ↔ connection.state = .active)
  entry_of_active : ∀ {index : ι} {connection : Connection},
    world.connection index = some connection → connection.state = .active →
      ∃ session entry, connection.session = some session ∧
        world.sessions.sessions.lookup session.id = some entry ∧ entry.id = session.id ∧
        (session.productId = license.productId ∧ entry.productId = license.productId) ∧
        session.peerIdentity = connection.peerIdentity ∧
        entry.peerIdentity = connection.peerIdentity
  active_of_entry : ∀ {id : Core.SessionId} {entry : Session},
    world.sessions.sessions.lookup id = some entry →
      ∃! index, ∃ connection session, world.connection index = some connection ∧
        connection.state = .active ∧ connection.session = some session ∧ session.id = id
  ids_distinct : ∀ {left right : ι} {leftConnection rightConnection : Connection}
    {leftSession rightSession : Session},
    world.connection left = some leftConnection → world.connection right = some rightConnection →
    leftConnection.session = some leftSession → rightConnection.session = some rightSession →
    leftSession.id = rightSession.id → left = right
  active_le : world.sessions.active license.productId ≤ license.maxSessions.toNat
  created_le : ∀ index, (world.slots index).created.length ≤ 1
  empty_of_closed : (∀ {index : ι} {connection : Connection},
    world.connection index = some connection → connection.state = .closed) →
      world.sessions.sessions = ∅

section

variable {fb : Binding Envelope} {license : LicenseSnapshot} {world : ServiceWorld ι}
  (reachable : Reachable fb license world)

include reachable

theorem Reachable.entry_of_active {index : ι} {connection : Connection}
    (here : world.connection index = some connection) (active : connection.state = .active) :
    ∃ session entry, connection.session = some session ∧
      world.sessions.sessions.lookup session.id = some entry ∧ entry.id = session.id ∧
      (session.productId = license.productId ∧ entry.productId = license.productId) ∧
      session.peerIdentity = connection.peerIdentity ∧
      entry.peerIdentity = connection.peerIdentity := by
  rcases reachable.connectionSound here with ⟨created, sound⟩
  rcases Option.isSome_iff_exists.mp (sound.settled.mpr active) with ⟨session, held⟩
  rcases reachable.balanced.lookup_of_held
      (pool_held_eq_some.mpr ⟨connection, session, here, held, rfl, rfl⟩) with
    ⟨entry, present, same⟩
  rcases sound.owned session held with ⟨product, peer⟩
  refine ⟨session, entry, held, present, congrArg Session.Identity.id same, ⟨product, ?_⟩,
    peer, ?_⟩
  · exact (congrArg Session.Identity.productId same).trans product
  · exact (congrArg Session.Identity.peerIdentity same).trans peer

theorem Reachable.ids_distinct {left right : ι} {leftConnection rightConnection : Connection}
    {leftSession rightSession : Session} (leftHere : world.connection left = some leftConnection)
    (rightHere : world.connection right = some rightConnection)
    (leftHeld : leftConnection.session = some leftSession)
    (rightHeld : rightConnection.session = some rightSession)
    (same : leftSession.id = rightSession.id) : left = right := by
  have leftHolds : world.pool.held left = some (rightSession.id, leftSession.identity) :=
    pool_held_eq_some.mpr ⟨leftConnection, leftSession, leftHere, leftHeld, same, rfl⟩
  have rightHolds : world.pool.held right = some (rightSession.id, rightSession.identity) :=
    pool_held_eq_some.mpr ⟨rightConnection, rightSession, rightHere, rightHeld, rfl, rfl⟩
  exact reachable.balanced.holder_unique leftHolds rightHolds

theorem Reachable.active_of_entry {id : Core.SessionId} {entry : Session}
    (present : world.sessions.sessions.lookup id = some entry) :
    ∃! index, ∃ connection session, world.connection index = some connection ∧
      connection.state = .active ∧ connection.session = some session ∧ session.id = id := by
  have member : id ∈ world.sessions.sessions := by
    apply AList.lookup_isSome.mp
    rw [present]
    rfl
  rcases reachable.balanced.held_of_mem member with ⟨index, identity, holds⟩
  rcases pool_held_eq_some.mp holds with ⟨connection, session, here, held, sameId, -⟩
  rcases reachable.connectionSound here with ⟨created, sound⟩
  refine ⟨index, ⟨connection, session, here, sound.settled.mp (by rw [held]; rfl), held, sameId⟩,
    ?_⟩
  rintro other ⟨otherConnection, otherSession, otherHere, -, otherHeld, otherId⟩
  exact reachable.ids_distinct otherHere here otherHeld held (otherId.trans sameId.symm)

theorem Reachable.created_le (index : ι) : (world.slots index).created.length ≤ 1 := by
  have sound := reachable.slotSound index
  cases slot : world.slots index with
  | unborn => exact Nat.zero_le 1
  | live connection created =>
      rw [slot] at sound
      exact sound.once
  | destroyed created =>
      rw [slot] at sound
      exact sound

theorem Reachable.empty_of_closed (closed : ∀ {index : ι} {connection : Connection},
    world.connection index = some connection → connection.state = .closed) :
    world.sessions.sessions = ∅ := by
  apply reachable.balanced.table_eq_empty
  intro index
  cases holds : world.pool.held index with
  | none => rfl
  | some entry =>
      rcases pool_held_eq_some.mp holds with ⟨connection, session, here, held, -⟩
      rcases reachable.connectionSound here with ⟨created, sound⟩
      have active := sound.settled.mp (by rw [held]; rfl)
      rw [closed here] at active
      cases active

/-- In every state that a service can reach, the sessions of the manager are
those of the active connections, within the quota of the license. -/
theorem sessionAccounting : Accounted license world where
  held_iff_active here := by
    rcases reachable.connectionSound here with ⟨created, sound⟩
    rw [← Option.isSome_iff_ne_none]
    exact sound.settled
  entry_of_active := reachable.entry_of_active
  active_of_entry := reachable.active_of_entry
  ids_distinct := reachable.ids_distinct
  active_le := reachable.balanced.count_le
  created_le := reachable.created_le
  empty_of_closed := reachable.empty_of_closed

end

/-! ## A run with an active connection -/

/-- A world with one connection, which has created the given sessions. -/
def single (connection : Connection) (created : List Session) (sessions : SessionManager) :
    ServiceWorld Unit where
  slots _ := .live connection created
  sessions := sessions

theorem single_construct (fb : Binding Envelope) (license : LicenseSnapshot)
    (options : ConnectionOptions) :
    Reachable fb license (single (.construct license options) [] {}) := by
  have step : Step fb license ({} : ServiceWorld Unit) _ :=
    .construct options (rfl : ({} : ServiceWorld Unit).slots () = .unborn)
  have slots : update (fun _ : Unit => Slot.unborn) () (.live (.construct license options) []) =
      fun _ => .live (.construct license options) [] := by
    funext index
    exact update_self ..
  rw [slots] at step
  exact .single step

theorem single_handleAt {fb : Binding Envelope} {license : LicenseSnapshot}
    {connection : Connection} {created : List Session} {call : HandleCall} {frame : Bytes}
    {handled : Handled} (reachable : Reachable fb license (single connection created call.sessions))
    (handles : connection.handleAt fb call frame = some handled) :
    Reachable fb license (single handled.connection (created ++ handled.created.toList)
      handled.sessions) := by
  have step : Step fb license (single connection created call.sessions) _ :=
    .handle call.ssl call.draws frame call.nowMonotonicMs call.nowUnixSeconds
      (rfl : (single connection created call.sessions).slots () = _) handles
  have slots : update (single connection created call.sessions).slots ()
      (.live handled.connection (created ++ handled.created.toList)) =
        fun _ => .live handled.connection (created ++ handled.created.toList) := by
    funext index
    exact update_self ..
  rw [slots] at step
  exact .tail reachable step

def referenceLicense : LicenseSnapshot where
  productId := utf8 "product-qt"
  type := .permanent
  features := [utf8 "capture"]
  maxSessions := 1

def referenceOptions : ConnectionOptions where
  serviceKeyId := utf8 "service-1"
  identityPrivateKey := .zeros kKeySize
  peerIdentity := utf8 "uid=1000;gid=1000;pid=7"
  heartbeatIntervalMs := 5000
  heartbeatTimeoutMs := 15000

theorem referenceLicense_features : validFeatures referenceLicense.features = true := by
  decide

theorem referenceLicense_productId : referenceLicense.productId ≠ [] := by
  decide

theorem referenceOptions_peerIdentity : referenceOptions.peerIdentity ≠ [] := by
  decide

/-- An honest client makes its connection active; the accounting of that world
has the one session. -/
theorem sessionAccounting_active :
    ∃ (connection : Connection) (created : List Session) (sessions : SessionManager),
      connection.state = .active ∧
      Reachable referenceEnvelopes referenceLicense (single connection created sessions) ∧
      Accounted referenceLicense (single connection created sessions) := by
  let first : Connection := .construct referenceLicense referenceOptions
  rcases handshake_honest referenceEnvelopes_lawful referenceCalls_correct referenceClient_ready
    (rfl : first.state = .awaitingHello) rfl (by decide) (by decide) rfl (by decide) (by decide)
    with ⟨sent, hello, awaiting, serverHello, established, finished, handshake, keys, -, greets, -,
      finishes, paired, selected⟩
  have constructed := single_construct referenceEnvelopes referenceLicense referenceOptions
  have greeted : Reachable _ _ (single awaiting [] referenceCall.sessions) :=
    single_handleAt constructed greets
  let waiting : Connection := { first with handshake, state := .awaitingAuthorize }
  have opened : Reachable _ _ (single waiting [] referenceCall.sessions) :=
    single_handleAt greeted finishes
  have encodable : ∃ plaintext, encodeAuthorize referenceEnvelopes
      (referenceRequest.message established.selectedVersion) = .ok plaintext :=
    encodeAuthorize_request (by decide) selected (by decide) (by decide) (by decide)
  rcases encodable with ⟨plaintext, encodes⟩
  have grantable : Grantable waiting referenceCall
      (referenceRequest.message established.selectedVersion) :=
    ⟨rfl, rfl, Nat.zero_lt_one, nofun, referenceLicense_productId, referenceOptions_peerIdentity⟩
  rcases handleAt_authorize referenceEnvelopes_lawful referenceSsl_correct
    (rfl : waiting.state = .awaitingAuthorize) paired paired.version.symm encodes grantable
    referenceLicense_features with ⟨handled, session, encoded, handles, -, -, active, -⟩
  have authorized := single_handleAt opened handles
  exact ⟨_, _, _, active, authorized, sessionAccounting authorized⟩

end ServiceWorld

end YoAuthorize.Service
