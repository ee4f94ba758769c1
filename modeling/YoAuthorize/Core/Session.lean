import YoAuthorize.Lib.Lease
import YoAuthorize.Lib.Octets

/-!
# The session manager

`SessionManager` (`session.cpp`).  The table of sessions is an association list
without repeated keys, of which only lookups and counts are ever observed.  The
loop of `create` draws random ids until one is new; `draws` lists what the
successive calls of `randomBytes` return, and the call after the last of them
fails.
-/

namespace YoAuthorize.Core

open Octets

/-- `core::ErrorCode` without `None`. -/
inductive ErrorCode : Type
  | invalidFormat
  | unsupportedVersion
  | unknownKey
  | invalidSignature
  | invalidLicense
  | notYetValid
  | expired
  | productMismatch
  | machineMismatch
  | machineIdentityUnavailable
  | sessionLimitExceeded
  | invalidSession
  | internalError
  deriving DecidableEq, Repr

abbrev Result (α : Type) : Type := Except ErrorCode α

abbrev SessionId : Type := FixedBytes 16

structure Session : Type where
  id : SessionId := .zeros 16
  productId : Bytes := []
  peerIdentity : Bytes := []
  features : List Bytes := []
  expireTime : UInt64 := 0
  lastHeartbeatMs : UInt64 := 0
  deriving DecidableEq

/-- What a session keeps for its whole life. -/
structure Session.Identity : Type where
  id : SessionId
  productId : Bytes
  peerIdentity : Bytes
  deriving DecidableEq

def Session.identity (session : Session) : Session.Identity where
  id := session.id
  productId := session.productId
  peerIdentity := session.peerIdentity

/-- The test of `expireInactive`, on unsigned integers. -/
def Session.inactive (session : Session) (nowMonotonicMs timeoutMs : UInt64) : Bool :=
  nowMonotonicMs ≥ session.lastHeartbeatMs &&
    nowMonotonicMs - session.lastHeartbeatMs ≥ timeoutMs

structure SessionManager : Type where
  sessions : AList fun _ : SessionId => Session := ∅
  deriving DecidableEq

namespace SessionManager

/-- The `do` loop of `create`. -/
def drawId (sessions : AList fun _ : SessionId => Session) : List SessionId → Option SessionId
  | [] => none
  | id :: draws => if id ∈ sessions then drawId sessions draws else some id

/-- The number of sessions of a product. -/
def active (manager : SessionManager) (productId : Bytes) : Nat :=
  manager.sessions.entries.countP fun entry => entry.2.productId = productId

def create (manager : SessionManager) (draws : List SessionId) (productId peerIdentity : Bytes)
    (features : List Bytes) (expireTime nowMonotonicMs : UInt64) (maxSessions : UInt32) :
    SessionManager × Result Session :=
  if productId = [] ∨ peerIdentity = [] ∨ maxSessions = 0 then (manager, .error .invalidLicense)
  else if manager.active productId ≥ maxSessions.toNat then
    (manager, .error .sessionLimitExceeded)
  else
    match drawId manager.sessions draws with
    | none => (manager, .error .internalError)
    | some id =>
        let session : Session :=
          { id, productId, peerIdentity, features, expireTime, lastHeartbeatMs := nowMonotonicMs }
        ({ sessions := manager.sessions.insert id session }, .ok session)

def heartbeat (manager : SessionManager) (id : SessionId) (nowMonotonicMs : UInt64) :
    SessionManager × Result Unit :=
  match manager.sessions.lookup id with
  | none => (manager, .error .invalidSession)
  | some session =>
      ({ sessions :=
          manager.sessions.insert id { session with lastHeartbeatMs := nowMonotonicMs } }, .ok ())

def close (manager : SessionManager) (id : SessionId) : SessionManager where
  sessions := manager.sessions.erase id

def size (manager : SessionManager) : Nat :=
  manager.sessions.entries.length

/-- `std::erase_if` with the test of `inactive`, and the number it has erased. -/
def expireInactive (manager : SessionManager) (nowMonotonicMs timeoutMs : UInt64) :
    SessionManager × Nat :=
  ({ sessions :=
      Lease.retain (fun session => !session.inactive nowMonotonicMs timeoutMs) manager.sessions },
    manager.sessions.entries.countP fun entry => entry.2.inactive nowMonotonicMs timeoutMs)

/-! ## What one call does -/

theorem drawId_notMem {sessions : AList fun _ : SessionId => Session} {draws : List SessionId}
    {id : SessionId} (drawn : drawId sessions draws = some id) : id ∉ sessions := by
  induction draws with
  | nil => cases drawn
  | cons first draws ih =>
      rw [drawId] at drawn
      split at drawn
      · exact ih drawn
      · cases drawn
        assumption

/-- A successful `create` found room and adds one session under a new id. -/
theorem create_cases (manager : SessionManager) (draws : List SessionId)
    (productId peerIdentity : Bytes) (features : List Bytes)
    (expireTime nowMonotonicMs : UInt64) (maxSessions : UInt32) :
    (∃ error, manager.create draws productId peerIdentity features expireTime nowMonotonicMs
        maxSessions = (manager, .error error)) ∨
      ∃ session : Session, manager.create draws productId peerIdentity features expireTime
          nowMonotonicMs maxSessions =
            ({ sessions := manager.sessions.insert session.id session }, .ok session) ∧
        session.id ∉ manager.sessions ∧ manager.active productId < maxSessions.toNat ∧
        session.productId = productId ∧ session.peerIdentity = peerIdentity ∧
        session.features = features ∧ session.expireTime = expireTime := by
  unfold create
  split
  · exact .inl ⟨_, rfl⟩
  split
  · exact .inl ⟨_, rfl⟩
  rename_i room
  split
  · exact .inl ⟨_, rfl⟩
  · rename_i id drawn
    refine .inr ⟨{ id, productId, peerIdentity, features, expireTime,
                   lastHeartbeatMs := nowMonotonicMs }, rfl, ?_⟩
    exact ⟨drawId_notMem drawn, Nat.lt_of_not_le room, rfl, rfl, rfl, rfl⟩

/-- What a successful `create` has checked and made. -/
theorem create_eq_ok {manager next : SessionManager} {draws : List SessionId}
    {productId peerIdentity : Bytes} {features : List Bytes} {expireTime nowMonotonicMs : UInt64}
    {maxSessions : UInt32} {session : Session}
    (created : manager.create draws productId peerIdentity features expireTime nowMonotonicMs
      maxSessions = (next, .ok session)) :
    ∃ id, drawId manager.sessions draws = some id ∧
      manager.active productId < maxSessions.toNat ∧
      session = { id, productId, peerIdentity, features, expireTime,
                  lastHeartbeatMs := nowMonotonicMs } ∧
      next = { sessions := manager.sessions.insert id session } := by
  unfold create at created
  split at created
  · cases created
  split at created
  · cases created
  rename_i room
  split at created
  · cases created
  · rename_i id drawn
    cases created
    exact ⟨id, drawn, Nat.lt_of_not_le room, rfl, rfl⟩

theorem create_named {manager next : SessionManager} {draws : List SessionId}
    {productId peerIdentity : Bytes} {features : List Bytes} {expireTime nowMonotonicMs : UInt64}
    {maxSessions : UInt32} {session : Session}
    (created : manager.create draws productId peerIdentity features expireTime nowMonotonicMs
      maxSessions = (next, .ok session)) : productId ≠ [] := by
  rintro rfl
  unfold create at created
  rw [if_pos (.inl rfl)] at created
  cases created

theorem create_of_full {manager : SessionManager} {productId : Bytes} {maxSessions : UInt32}
    (full : manager.active productId ≥ maxSessions.toNat) (draws : List SessionId)
    (peerIdentity : Bytes) (features : List Bytes) (expireTime nowMonotonicMs : UInt64) :
    ∃ error, manager.create draws productId peerIdentity features expireTime nowMonotonicMs
      maxSessions = (manager, .error error) := by
  unfold create
  split
  · exact ⟨_, rfl⟩
  · exact ⟨_, rfl⟩

theorem create_of_room {manager : SessionManager} {draws : List SessionId}
    {productId peerIdentity : Bytes} {maxSessions : UInt32} {id : SessionId}
    (room : manager.active productId < maxSessions.toNat) (named : productId ≠ [])
    (peer : peerIdentity ≠ []) (drawn : drawId manager.sessions draws = some id)
    (features : List Bytes) (expireTime nowMonotonicMs : UInt64) :
    let session : Session :=
      { id, productId, peerIdentity, features, expireTime, lastHeartbeatMs := nowMonotonicMs }
    manager.create draws productId peerIdentity features expireTime nowMonotonicMs maxSessions =
      ({ sessions := manager.sessions.insert id session }, .ok session) := by
  have positive : maxSessions ≠ 0 := by
    intro zero
    rw [zero] at room
    exact Nat.not_lt_zero _ room
  unfold create
  rw [if_neg (by simp only [not_or]; exact ⟨named, peer, positive⟩),
    if_neg (Nat.not_le.mpr room), drawn]

theorem heartbeat_cases (manager : SessionManager) (id : SessionId) (nowMonotonicMs : UInt64) :
    (∃ error, manager.heartbeat id nowMonotonicMs = (manager, .error error)) ∨
      ∃ session renewed : Session, manager.sessions.lookup id = some session ∧
        renewed.identity = session.identity ∧
        manager.heartbeat id nowMonotonicMs =
          ({ sessions := manager.sessions.insert id renewed }, .ok ()) := by
  unfold heartbeat
  split
  · exact .inl ⟨_, rfl⟩
  · rename_i session present
    exact .inr ⟨session, { session with lastHeartbeatMs := nowMonotonicMs }, present, rfl, rfl⟩

theorem heartbeat_of_mem {manager : SessionManager} {id : SessionId} (nowMonotonicMs : UInt64)
    (present : id ∈ manager.sessions) :
    ∃ session, manager.sessions.lookup id = some session ∧
      manager.heartbeat id nowMonotonicMs =
        ({ sessions := manager.sessions.insert id
            { session with lastHeartbeatMs := nowMonotonicMs } }, .ok ()) := by
  rcases Option.isSome_iff_exists.mp (AList.lookup_isSome.mpr present) with ⟨session, found⟩
  refine ⟨session, found, ?_⟩
  unfold heartbeat
  rw [found]

end SessionManager

end YoAuthorize.Core
