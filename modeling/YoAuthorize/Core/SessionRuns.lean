import Mathlib.Data.List.Induction
import YoAuthorize.Core.Session

/-!
# Runs of the session manager

Every member function of `SessionManager` holds its mutex, so the calls of any
number of threads are a sequence of calls, each answered from the store that the
calls before it left.  `Serves history manager` says that an empty manager that
has answered the calls of the history holds the sessions of `manager`.

The invariant of a run is `Recorded`: every entry is filed under its own id, with
the time of the last `create` or `heartbeat` of that id in the history.  A time
is compared with that of the history and not with the field of the entry from
there on.
-/

namespace YoAuthorize.Core

open Octets

inductive SessionCall : Type
  | create (draws : List SessionId) (productId peerIdentity : Bytes) (features : List Bytes)
      (expireTime nowMonotonicMs : UInt64) (maxSessions : UInt32)
  | heartbeat (id : SessionId) (nowMonotonicMs : UInt64)
  | close (id : SessionId)
  | expireInactive (nowMonotonicMs timeoutMs : UInt64)

/-- The time that is passed to the call. -/
def SessionCall.time : SessionCall → Option UInt64
  | .create _ _ _ _ _ now _ => some now
  | .heartbeat _ now => some now
  | .close _ => none
  | .expireInactive now _ => some now

inductive SessionReply : Type
  | created (result : Result Session)
  | beaten (result : Result Unit)
  | closed (erased : Bool)
  | expired (removed : Nat)

def SessionReply.Failed : SessionReply → Prop
  | .created result => ∃ error, result = .error error
  | .beaten result => ∃ error, result = .error error
  | .closed erased => erased = false
  | .expired _ => False

structure AnsweredCall : Type where
  call : SessionCall
  reply : SessionReply

namespace SessionManager

/-- `close` returns whether its `erase` found the id. -/
def answer (manager : SessionManager) : SessionCall → SessionManager × SessionReply
  | .create draws productId peerIdentity features expireTime now maxSessions =>
      let outcome :=
        manager.create draws productId peerIdentity features expireTime now maxSessions
      (outcome.1, .created outcome.2)
  | .heartbeat id now =>
      let outcome := manager.heartbeat id now
      (outcome.1, .beaten outcome.2)
  | .close id => (manager.close id, .closed (decide (id ∈ manager.sessions)))
  | .expireInactive now timeout =>
      let outcome := manager.expireInactive now timeout
      (outcome.1, .expired outcome.2)

inductive Serves : List AnsweredCall → SessionManager → Prop
  | fresh : Serves [] {}
  | called {history : List AnsweredCall} {manager : SessionManager}
      (serves : Serves history manager) (call : SessionCall) :
      Serves (history ++ [⟨call, (manager.answer call).2⟩]) (manager.answer call).1

end SessionManager

/-! ## Times -/

/-- The time at which the call began or renewed the session of an id. -/
def AnsweredCall.beat (id : SessionId) : AnsweredCall → Option UInt64
  | ⟨.create _ _ _ _ _ now _, .created (.ok session)⟩ => if session.id = id then some now else none
  | ⟨.heartbeat beaten now, .beaten (.ok ())⟩ => if beaten = id then some now else none
  | _ => none

/-- The time of the last `create` or `heartbeat` of an id. -/
def lastBeat (id : SessionId) (history : List AnsweredCall) : Option UInt64 :=
  (history.filterMap (AnsweredCall.beat id)).getLast?

/-- The times that are passed never go back. -/
def Chronological (history : List AnsweredCall) : Prop :=
  (history.filterMap fun answered => answered.call.time).Pairwise (· ≤ ·)

instance (history : List AnsweredCall) : Decidable (Chronological history) :=
  inferInstanceAs (Decidable (List.Pairwise _ _))

/-- `h <= now` and `now - h >= timeout`, in the integers. -/
def TimedOut (heartbeat now timeout : UInt64) : Prop :=
  heartbeat.toNat ≤ now.toNat ∧ timeout.toNat ≤ now.toNat - heartbeat.toNat

theorem lastBeat_concat (id : SessionId) (history : List AnsweredCall) (answered : AnsweredCall) :
    lastBeat id (history ++ [answered]) =
      match answered.beat id with
      | some now => some now
      | none => lastBeat id history := by
  unfold lastBeat
  rw [List.filterMap_append]
  cases beat : answered.beat id with
  | none => simp [beat]
  | some now => simp [beat]

theorem AnsweredCall.time_of_beat {id : SessionId} {answered : AnsweredCall} {now : UInt64}
    (beat : answered.beat id = some now) : answered.call.time = some now := by
  rcases answered with ⟨call, reply⟩
  cases call with
  | create draws productId peerIdentity features expireTime time maxSessions =>
      cases reply with
      | created result =>
          cases result with
          | error error => cases beat
          | ok session =>
              simp only [AnsweredCall.beat] at beat
              split at beat
              · exact beat
              · cases beat
      | beaten result => cases beat
      | closed erased => cases beat
      | expired removed => cases beat
  | heartbeat beaten time =>
      cases reply with
      | created result => cases beat
      | beaten result =>
          cases result with
          | error error => cases beat
          | ok =>
              simp only [AnsweredCall.beat] at beat
              split at beat
              · exact beat
              · cases beat
      | closed erased => cases beat
      | expired removed => cases beat
  | close closed => cases beat
  | expireInactive time timeout => cases beat

/-- The last beat is no later than a call that comes after it. -/
theorem Chronological.lastBeat_le {history : List AnsweredCall} {answered : AnsweredCall}
    (chronological : Chronological (history ++ [answered])) {id : SessionId} {beat now : UInt64}
    (last : lastBeat id history = some beat) (time : answered.call.time = some now) :
    beat ≤ now := by
  have mem := List.mem_of_getLast? last
  rw [List.mem_filterMap] at mem
  obtain ⟨beating, earlier, beats⟩ := mem
  unfold Chronological at chronological
  rw [List.filterMap_append, List.pairwise_append] at chronological
  apply chronological.2.2
  · exact List.mem_filterMap.mpr ⟨beating, earlier, AnsweredCall.time_of_beat beats⟩
  · simp [time]

theorem Session.inactive_iff (session : Session) (now timeout : UInt64) :
    session.inactive now timeout = true ↔ TimedOut session.lastHeartbeatMs now timeout := by
  unfold Session.inactive TimedOut
  rw [Bool.and_eq_true, decide_eq_true_iff, decide_eq_true_iff]
  constructor
  · rintro ⟨later, late⟩
    have exact := UInt64.toNat_sub_of_le _ _ later
    rw [ge_iff_le, UInt64.le_iff_toNat_le, exact] at late
    exact ⟨UInt64.le_iff_toNat_le.mp later, late⟩
  · rintro ⟨later, late⟩
    have ordered : session.lastHeartbeatMs ≤ now := UInt64.le_iff_toNat_le.mpr later
    refine ⟨ordered, ?_⟩
    rw [ge_iff_le, UInt64.le_iff_toNat_le, UInt64.toNat_sub_of_le _ _ ordered]
    exact late

/-! ## What one call does -/

namespace SessionManager

inductive Answers (manager : SessionManager) :
    SessionCall → SessionReply → SessionManager → Prop
  | refused {call : SessionCall} {reply : SessionReply} (failed : reply.Failed) :
      Answers manager call reply manager
  | created {session : Session} (draws : List SessionId) (maxSessions : UInt32)
      (named : session.productId ≠ []) (new : session.id ∉ manager.sessions)
      (room : manager.active session.productId < maxSessions.toNat) :
      Answers manager
        (.create draws session.productId session.peerIdentity session.features
          session.expireTime session.lastHeartbeatMs maxSessions)
        (.created (.ok session)) { sessions := manager.sessions.insert session.id session }
  | renewed {id : SessionId} {session : Session} (now : UInt64)
      (present : manager.sessions.lookup id = some session) :
      Answers manager (.heartbeat id now) (.beaten (.ok ()))
        { sessions := manager.sessions.insert id { session with lastHeartbeatMs := now } }
  | closed {id : SessionId} (present : id ∈ manager.sessions) :
      Answers manager (.close id) (.closed true) (manager.close id)
  | expired (now timeout : UInt64) :
      Answers manager (.expireInactive now timeout)
        (.expired (manager.expireInactive now timeout).2) (manager.expireInactive now timeout).1

theorem answers (manager : SessionManager) (call : SessionCall) :
    manager.Answers call (manager.answer call).2 (manager.answer call).1 := by
  cases call with
  | create draws productId peerIdentity features expireTime now maxSessions =>
      simp only [answer]
      rcases create_cases manager draws productId peerIdentity features expireTime now
        maxSessions with ⟨error, refused⟩ | ⟨session, granted, -⟩
      · rw [refused]
        exact .refused ⟨error, rfl⟩
      · obtain ⟨id, drawn, room, made, -⟩ := create_eq_ok granted
        subst made
        rw [granted]
        exact @Answers.created manager
          { id, productId, peerIdentity, features, expireTime, lastHeartbeatMs := now }
          draws maxSessions (create_named granted) (drawId_notMem drawn) room
  | heartbeat id now =>
      simp only [answer, heartbeat]
      split
      · exact .refused ⟨_, rfl⟩
      · rename_i session present
        exact .renewed now present
  | close id =>
      simp only [answer]
      by_cases present : id ∈ manager.sessions
      · rw [decide_eq_true present]
        exact .closed present
      · have unchanged : manager.close id = manager := by
          unfold close
          congr 1
          exact AList.ext (List.kerase_of_notMem_keys present)
        rw [decide_eq_false present, unchanged]
        exact .refused rfl
  | expireInactive now timeout => exact .expired now timeout

theorem answer_of_failed {manager : SessionManager} {call : SessionCall}
    (failed : (manager.answer call).2.Failed) : (manager.answer call).1 = manager := by
  have answers := manager.answers call
  generalize (manager.answer call).2 = reply at answers failed
  generalize (manager.answer call).1 = next at answers
  cases answers with
  | refused => rfl
  | created => obtain ⟨error, impossible⟩ := failed; cases impossible
  | renewed => obtain ⟨error, impossible⟩ := failed; cases impossible
  | closed => cases failed
  | expired => cases failed

theorem create_eq_limit_iff (manager : SessionManager) (draws : List SessionId)
    (productId peerIdentity : Bytes) (features : List Bytes) (expireTime now : UInt64)
    (maxSessions : UInt32) :
    (manager.create draws productId peerIdentity features expireTime now maxSessions).2 =
        .error .sessionLimitExceeded ↔
      productId ≠ [] ∧ peerIdentity ≠ [] ∧ maxSessions ≠ 0 ∧
        maxSessions.toNat ≤ manager.active productId := by
  unfold create
  split
  · rename_i missing
    refine ⟨nofun, ?_⟩
    rintro ⟨product, peer, positive, -⟩
    rcases missing with noProduct | noPeer | zero
    · exact absurd noProduct product
    · exact absurd noPeer peer
    · exact absurd zero positive
  rename_i given
  simp only [not_or] at given
  split
  · rename_i full
    exact ⟨fun _ => ⟨given.1, given.2.1, given.2.2, full⟩, fun _ => rfl⟩
  · rename_i room
    have notFull : ¬ maxSessions.toNat ≤ manager.active productId := room
    split
    · exact ⟨nofun, fun full => absurd full.2.2.2 notFull⟩
    · exact ⟨nofun, fun full => absurd full.2.2.2 notFull⟩

theorem size_expireInactive (manager : SessionManager) (now timeout : UInt64) :
    (manager.expireInactive now timeout).1.size + (manager.expireInactive now timeout).2 =
      manager.size := by
  have counted := Lease.countP_retain (fun session : Session => !session.inactive now timeout)
    manager.sessions fun _ => true
  simp only [List.countP_true, Bool.true_and, Bool.not_not] at counted
  exact counted

/-- The slots of the sessions that expire are free again. -/
theorem active_expireInactive (manager : SessionManager) (now timeout : UInt64)
    (productId : Bytes) :
    (manager.expireInactive now timeout).1.active productId +
        manager.sessions.entries.countP (fun entry =>
          decide (entry.2.productId = productId) && entry.2.inactive now timeout) =
      manager.active productId := by
  have counted := Lease.countP_retain (fun session : Session => !session.inactive now timeout)
    manager.sessions fun session => decide (session.productId = productId)
  simp only [Bool.not_not] at counted
  exact counted

theorem active_expireInactive_lt {manager : SessionManager} {now timeout : UInt64}
    {id : SessionId} {session : Session} (present : manager.sessions.lookup id = some session)
    (inactive : session.inactive now timeout = true) :
    (manager.expireInactive now timeout).1.active session.productId <
      manager.active session.productId := by
  have counted := manager.active_expireInactive now timeout session.productId
  have entry : ⟨id, session⟩ ∈ manager.sessions.entries := AList.mem_lookup_iff.mp present
  have freed : 0 < manager.sessions.entries.countP (fun entry =>
      decide (entry.2.productId = session.productId) && entry.2.inactive now timeout) :=
    List.countP_pos_iff.mpr ⟨⟨id, session⟩, entry, by simp [inactive]⟩
  omega

/-! ## The history -/

/-- Every entry is filed under its id, with the time of its last beat. -/
structure Recorded (history : List AnsweredCall) (manager : SessionManager) : Prop where
  filed : ∀ {id : SessionId} {session : Session}, manager.sessions.lookup id = some session →
    session.id = id
  named : ∀ {id : SessionId} {session : Session}, manager.sessions.lookup id = some session →
    session.productId ≠ []
  lastBeat : ∀ {id : SessionId} {session : Session}, manager.sessions.lookup id = some session →
    lastBeat id history = some session.lastHeartbeatMs

theorem beat_of_failed {call : SessionCall} {reply : SessionReply} (failed : reply.Failed)
    (id : SessionId) : AnsweredCall.beat id ⟨call, reply⟩ = none := by
  cases reply with
  | created result =>
      obtain ⟨error, rfl⟩ := failed
      cases call <;> rfl
  | beaten result =>
      obtain ⟨error, rfl⟩ := failed
      cases call <;> rfl
  | closed erased => cases call <;> rfl
  | expired removed => cases failed

theorem Recorded.answers {history : List AnsweredCall} {manager next : SessionManager}
    {call : SessionCall} {reply : SessionReply} (recorded : Recorded history manager)
    (answers : manager.Answers call reply next) :
    Recorded (history ++ [⟨call, reply⟩]) next := by
  cases answers with
  | refused failed =>
      refine ⟨recorded.filed, recorded.named, ?_⟩
      intro id session present
      rw [lastBeat_concat, beat_of_failed failed]
      exact recorded.lastBeat present
  | @created made draws maxSessions named new room =>
      constructor
      · intro id session present
        by_cases same : id = made.id
        · rw [same, AList.lookup_insert] at present
          cases present
          exact same.symm
        · rw [AList.lookup_insert_ne same] at present
          exact recorded.filed present
      · intro id session present
        by_cases same : id = made.id
        · rw [same, AList.lookup_insert] at present
          cases present
          exact named
        · rw [AList.lookup_insert_ne same] at present
          exact recorded.named present
      · intro id session present
        rw [lastBeat_concat]
        by_cases same : id = made.id
        · rw [same, AList.lookup_insert] at present
          cases present
          simp [AnsweredCall.beat, same]
        · rw [AList.lookup_insert_ne same] at present
          simp only [AnsweredCall.beat, if_neg (Ne.symm same)]
          exact recorded.lastBeat present
  | @renewed renewed old now found =>
      constructor
      · intro id session present
        by_cases same : id = renewed
        · rw [same, AList.lookup_insert] at present
          cases present
          exact (recorded.filed found).trans same.symm
        · rw [AList.lookup_insert_ne same] at present
          exact recorded.filed present
      · intro id session present
        by_cases same : id = renewed
        · rw [same, AList.lookup_insert] at present
          cases present
          have named := recorded.named found
          exact named
        · rw [AList.lookup_insert_ne same] at present
          exact recorded.named present
      · intro id session present
        rw [lastBeat_concat]
        by_cases same : id = renewed
        · rw [same, AList.lookup_insert] at present
          cases present
          simp [AnsweredCall.beat, same]
        · rw [AList.lookup_insert_ne same] at present
          simp only [AnsweredCall.beat, if_neg (Ne.symm same)]
          exact recorded.lastBeat present
  | @closed closed _ =>
      have kept : ∀ {id : SessionId} {session : Session},
          (manager.close closed).sessions.lookup id = some session →
            manager.sessions.lookup id = some session := by
        intro id session present
        unfold close at present
        by_cases same : id = closed
        · rw [same, AList.lookup_erase] at present
          cases present
        · rwa [AList.lookup_erase_ne same] at present
      refine ⟨fun present => recorded.filed (kept present),
        fun present => recorded.named (kept present), ?_⟩
      intro id session present
      rw [lastBeat_concat]
      exact recorded.lastBeat (kept present)
  | expired now timeout =>
      refine ⟨fun present => recorded.filed (Lease.lookup_retain.mp present).1,
        fun present => recorded.named (Lease.lookup_retain.mp present).1, ?_⟩
      intro id session present
      rw [lastBeat_concat]
      exact recorded.lastBeat (Lease.lookup_retain.mp present).1

theorem Serves.recorded {history : List AnsweredCall} {manager : SessionManager}
    (serves : Serves history manager) : Recorded history manager := by
  induction serves with
  | fresh => exact ⟨nofun, nofun, nofun⟩
  | @called history manager _ call ih => exact ih.answers (manager.answers call)

theorem Recorded.ids_nodup {history : List AnsweredCall} {manager : SessionManager}
    (recorded : Recorded history manager) :
    (manager.sessions.entries.map fun entry => entry.2.id).Nodup := by
  have keys : (manager.sessions.entries.map fun entry => entry.2.id) =
      manager.sessions.entries.map Sigma.fst := by
    apply List.map_congr_left
    rintro ⟨id, session⟩ entry
    exact recorded.filed (AList.mem_lookup_iff.mpr entry)
  rw [keys]
  exact manager.sessions.keys_nodup

/-- `expireInactive` keeps the entries whose last beat has not timed out, and no
other. -/
theorem Recorded.lookup_expireInactive {history : List AnsweredCall} {manager : SessionManager}
    (recorded : Recorded history manager) (now timeout : UInt64) (id : SessionId)
    (session : Session) :
    (manager.expireInactive now timeout).1.sessions.lookup id = some session ↔
      manager.sessions.lookup id = some session ∧
        ¬ ∃ heartbeat, Core.lastBeat id history = some heartbeat ∧
          TimedOut heartbeat now timeout := by
  have swept : (manager.expireInactive now timeout).1.sessions.lookup id = some session ↔
      manager.sessions.lookup id = some session ∧ (!session.inactive now timeout) = true :=
    Lease.lookup_retain
  rw [swept]
  apply and_congr_right
  intro present
  rw [recorded.lastBeat present, Bool.not_eq_true', ← Bool.not_eq_true, session.inactive_iff]
  constructor
  · rintro timely ⟨heartbeat, last, late⟩
    cases last
    exact timely late
  · intro timely late
    exact timely ⟨_, rfl, late⟩

end SessionManager

/-! ## The life of a session -/

/-- After its `create` no call closes the session, and at each `expireInactive` the
last beat of the session and the next one, or the call, are less than the timeout
apart. -/
structure Sustained (id : SessionId) (created : AnsweredCall) (life : List AnsweredCall) :
    Prop where
  unclosed : ∀ answered ∈ life, answered.call ≠ .close id
  beats : ∀ {before after : List AnsweredCall} {now timeout : UInt64} {reply : SessionReply},
    life = before ++ ⟨.expireInactive now timeout, reply⟩ :: after →
      ∃ heartbeat next : UInt64, lastBeat id (created :: before) = some heartbeat ∧
        (next = now ∨ ∃ reply, ⟨.heartbeat id next, reply⟩ ∈ after) ∧
        next.toNat < heartbeat.toNat + timeout.toNat

/-- At each `expireInactive` the last beat of the session has not timed out. -/
structure Timely (id : SessionId) (created : AnsweredCall) (life : List AnsweredCall) :
    Prop where
  unclosed : ∀ answered ∈ life, answered.call ≠ .close id
  beats : ∀ {before after : List AnsweredCall} {now timeout : UInt64} {reply : SessionReply},
    life = before ++ ⟨.expireInactive now timeout, reply⟩ :: after →
      ∃ heartbeat : UInt64, lastBeat id (created :: before) = some heartbeat ∧
        ¬ TimedOut heartbeat now timeout

theorem Chronological.time_le {before after : List AnsweredCall} {answered later : AnsweredCall}
    (chronological : Chronological (before ++ answered :: after)) (mem : later ∈ after)
    {now next : UInt64} (time : answered.call.time = some now)
    (nextTime : later.call.time = some next) : now ≤ next := by
  unfold Chronological at chronological
  simp only [List.filterMap_append, List.pairwise_append, List.filterMap_cons, time,
    List.pairwise_cons] at chronological
  exact chronological.2.1.1 next (List.mem_filterMap.mpr ⟨later, mem, nextTime⟩)

theorem Sustained.timely {past : List AnsweredCall} {id : SessionId} {created : AnsweredCall}
    {life : List AnsweredCall} (sustained : Sustained id created life)
    (chronological : Chronological (past ++ created :: life)) : Timely id created life := by
  refine ⟨sustained.unclosed, ?_⟩
  intro before after now timeout reply split
  obtain ⟨heartbeat, next, last, following, close⟩ := sustained.beats split
  refine ⟨heartbeat, last, ?_⟩
  rintro ⟨later, late⟩
  have notBefore : now.toNat ≤ next.toNat := by
    rcases following with rfl | ⟨nextReply, mem⟩
    · exact Nat.le_refl _
    · rw [split, ← List.cons_append, ← List.append_assoc] at chronological
      exact UInt64.le_iff_toNat_le.mp (chronological.time_le mem rfl rfl)
  omega

theorem Timely.init {id : SessionId} {created last : AnsweredCall} {life : List AnsweredCall}
    (timely : Timely id created (life ++ [last])) : Timely id created life where
  unclosed answered mem := timely.unclosed answered (List.mem_append_left _ mem)
  beats split := timely.beats (by rw [split, List.append_assoc, List.cons_append])

theorem lastBeat_append (id : SessionId) (past rest : List AnsweredCall) :
    lastBeat id (past ++ rest) = (lastBeat id rest).or (lastBeat id past) := by
  unfold lastBeat
  rw [List.filterMap_append, List.getLast?_append]

namespace SessionManager

/-- The session that the answered call made. -/
theorem Answers.lookup_created {manager next : SessionManager} {call : SessionCall}
    {session : Session} (answers : manager.Answers call (.created (.ok session)) next) :
    next.sessions.lookup session.id = some session := by
  cases answers with
  | refused failed =>
      obtain ⟨error, impossible⟩ := failed
      cases impossible
  | created => exact AList.lookup_insert _

/-- A call that neither closes nor expires the session leaves it in the store. -/
theorem Answers.lookup_kept {history : List AnsweredCall} {manager next : SessionManager}
    {call : SessionCall} {reply : SessionReply} {id : SessionId} {session : Session}
    (answers : manager.Answers call reply next) (recorded : Recorded history manager)
    (present : manager.sessions.lookup id = some session) (unclosed : call ≠ .close id)
    (timely : ∀ now timeout, call = .expireInactive now timeout →
      ∃ heartbeat, Core.lastBeat id history = some heartbeat ∧ ¬ TimedOut heartbeat now timeout) :
    ∃ kept, next.sessions.lookup id = some kept ∧ kept.identity = session.identity := by
  cases answers with
  | refused _ => exact ⟨session, present, rfl⟩
  | @created made draws maxSessions named new room =>
      have apart : id ≠ made.id := by
        rintro rfl
        exact new (AList.lookup_isSome.mp (by rw [present]; rfl))
      exact ⟨session, (AList.lookup_insert_ne apart).trans present, rfl⟩
  | @renewed renewed old now found =>
      by_cases same : id = renewed
      · subst same
        rw [present] at found
        cases found
        exact ⟨_, AList.lookup_insert _, rfl⟩
      · exact ⟨session, (AList.lookup_insert_ne same).trans present, rfl⟩
  | @closed closed _ =>
      have apart : id ≠ closed := by
        rintro rfl
        exact unclosed rfl
      exact ⟨session, (AList.lookup_erase_ne apart).trans present, rfl⟩
  | expired now timeout =>
      obtain ⟨heartbeat, last, early⟩ := timely now timeout rfl
      refine ⟨session, (recorded.lookup_expireInactive now timeout id session).mpr
        ⟨present, ?_⟩, rfl⟩
      rintro ⟨other, otherLast, late⟩
      rw [last] at otherLast
      cases otherLast
      exact early late

theorem Serves.lookup_of_timely {history past life : List AnsweredCall}
    {manager : SessionManager} {call : SessionCall} {session : Session}
    (serves : Serves history manager)
    (lived : history = past ++ ⟨call, .created (.ok session)⟩ :: life)
    (timely : Timely session.id ⟨call, .created (.ok session)⟩ life) :
    ∃ kept, manager.sessions.lookup session.id = some kept ∧
      kept.identity = session.identity := by
  induction serves generalizing life with
  | fresh => simp at lived
  | @called history manager serves last ih =>
      rcases List.eq_nil_or_concat life with rfl | ⟨earlier, answered, rfl⟩
      · obtain ⟨-, same⟩ := List.append_inj' lived rfl
        simp only [List.cons.injEq, AnsweredCall.mk.injEq, and_true] at same
        obtain ⟨rfl, reply⟩ := same
        have answers := manager.answers last
        rw [reply] at answers
        exact ⟨session, answers.lookup_created, rfl⟩
      · rw [List.concat_eq_append] at lived timely
        rw [← List.cons_append, ← List.append_assoc] at lived
        obtain ⟨rfl, same⟩ := List.append_inj' lived rfl
        cases same
        obtain ⟨kept, present, same⟩ := ih rfl timely.init
        have unclosed := timely.unclosed _ (List.mem_append_right _ List.mem_cons_self)
        have early : ∀ now timeout, last = .expireInactive now timeout →
            ∃ heartbeat, Core.lastBeat session.id
                (past ++ ⟨call, .created (.ok session)⟩ :: earlier) = some heartbeat ∧
              ¬ TimedOut heartbeat now timeout := by
          rintro now timeout rfl
          obtain ⟨heartbeat, beat, early⟩ := timely.beats rfl
          refine ⟨heartbeat, ?_, early⟩
          rw [lastBeat_append, beat, Option.some_or]
        obtain ⟨next, nextPresent, nextSame⟩ :=
          (manager.answers last).lookup_kept serves.recorded present unclosed early
        exact ⟨next, nextPresent, nextSame.trans same⟩

/-- A session whose last beat has timed out is gone, and its slot is free: a
`create` for its product that the store had no room for finds some. -/
theorem Recorded.freed {history : List AnsweredCall} {manager : SessionManager}
    (recorded : Recorded history manager) {id : SessionId} {session : Session}
    {heartbeat now timeout : UInt64} (present : manager.sessions.lookup id = some session)
    (last : Core.lastBeat id history = some heartbeat)
    (late : TimedOut heartbeat now timeout) :
    (manager.expireInactive now timeout).1.sessions.lookup id = none ∧
      (manager.expireInactive now timeout).1.active session.productId <
        manager.active session.productId ∧
      ∀ {draws : List SessionId} {peerIdentity : Bytes} {drawn : SessionId} {maxSessions : UInt32},
        peerIdentity ≠ [] → manager.active session.productId ≤ maxSessions.toNat →
        drawId (manager.expireInactive now timeout).1.sessions draws = some drawn →
        ∀ features expireTime createTime, ∃ made : Session, made.id = drawn ∧
          ((manager.expireInactive now timeout).1.create draws session.productId peerIdentity
            features expireTime createTime maxSessions).2 = .ok made := by
  have sameBeat := recorded.lastBeat present
  rw [last] at sameBeat
  cases sameBeat
  have inactive := (session.inactive_iff now timeout).mpr late
  have fewer := active_expireInactive_lt present inactive
  refine ⟨?_, fewer, ?_⟩
  · cases swept : (manager.expireInactive now timeout).1.sessions.lookup id with
    | none => rfl
    | some kept =>
        have timely := ((recorded.lookup_expireInactive now timeout id kept).mp swept).2
        exact absurd ⟨_, last, late⟩ timely
  · intro draws peerIdentity drawn maxSessions peer quota fresh features expireTime createTime
    have room : (manager.expireInactive now timeout).1.active session.productId <
        maxSessions.toNat := by omega
    have created := create_of_room room (recorded.named present) peer fresh features expireTime
      createTime
    exact ⟨_, rfl, congrArg Prod.snd created⟩

/-! ## The store over whole runs -/

theorem sessionStore_runs {history : List AnsweredCall} {manager : SessionManager}
    (serves : Serves history manager) :
    (manager.sessions.entries.map fun entry => entry.2.id).Nodup ∧
    (∀ draws productId peerIdentity features expireTime now maxSessions,
      (manager.create draws productId peerIdentity features expireTime now maxSessions).2 =
          .error .sessionLimitExceeded ↔
        productId ≠ [] ∧ peerIdentity ≠ [] ∧ maxSessions ≠ 0 ∧
          maxSessions.toNat ≤ manager.active productId) ∧
    (∀ call, (manager.answer call).2.Failed → (manager.answer call).1 = manager) ∧
    (∀ now timeout,
      (∀ id session,
        (manager.expireInactive now timeout).1.sessions.lookup id = some session ↔
          manager.sessions.lookup id = some session ∧
            ¬ ∃ heartbeat, lastBeat id history = some heartbeat ∧
              TimedOut heartbeat now timeout) ∧
      (manager.expireInactive now timeout).1.size + (manager.expireInactive now timeout).2 =
        manager.size) ∧
    (∀ past call session life,
      history = past ++ ⟨call, .created (.ok session)⟩ :: life → Chronological history →
      Sustained session.id ⟨call, .created (.ok session)⟩ life →
        ∃ kept, manager.sessions.lookup session.id = some kept ∧
          kept.identity = session.identity) ∧
    ∀ now timeout reply,
      Chronological (history ++ [⟨.expireInactive now timeout, reply⟩]) →
      ∀ {id session}, manager.sessions.lookup id = some session →
      ∃ heartbeat, lastBeat id history = some heartbeat ∧
        (timeout.toNat ≤ now.toNat - heartbeat.toNat →
          (manager.expireInactive now timeout).1.sessions.lookup id = none ∧
          (manager.expireInactive now timeout).1.active session.productId <
            manager.active session.productId ∧
          ∀ {draws peerIdentity drawn maxSessions},
            peerIdentity ≠ [] → manager.active session.productId ≤ maxSessions.toNat →
            drawId (manager.expireInactive now timeout).1.sessions draws = some drawn →
            ∀ features expireTime createTime, ∃ made : Session, made.id = drawn ∧
              ((manager.expireInactive now timeout).1.create draws session.productId peerIdentity
                features expireTime createTime maxSessions).2 = .ok made) := by
  have recorded := serves.recorded
  refine ⟨recorded.ids_nodup, manager.create_eq_limit_iff, fun _ => answer_of_failed, ?_, ?_, ?_⟩
  · intro now timeout
    exact ⟨recorded.lookup_expireInactive now timeout, manager.size_expireInactive now timeout⟩
  · intro past call session life lived chronological sustained
    rw [lived] at chronological
    exact serves.lookup_of_timely lived (sustained.timely chronological)
  · intro now timeout reply chronological id session present
    refine ⟨session.lastHeartbeatMs, recorded.lastBeat present, ?_⟩
    intro late
    have last := recorded.lastBeat present
    have ordered := UInt64.le_iff_toNat_le.mp (chronological.lastBeat_le last rfl)
    exact recorded.freed present last ⟨ordered, late⟩

/-- The answers to a sequence of calls, and the store they leave. -/
def serve (calls : List SessionCall) : List AnsweredCall × SessionManager :=
  calls.foldl
    (fun served call =>
      (served.1 ++ [⟨call, (served.2.answer call).2⟩], (served.2.answer call).1))
    ([], {})

theorem serves_serve (calls : List SessionCall) : Serves (serve calls).1 (serve calls).2 := by
  induction calls using List.reverseRecOn with
  | nil => exact .fresh
  | append_singleton calls call ih =>
      unfold serve
      rw [List.foldl_concat]
      exact .called ih call

/-- A session with one heartbeat, 25 ms after its `create`, and a sweep. -/
def referenceCalls : List SessionCall :=
  [.create [.zeros 16] [97] [117] [] 2000 100 1, .heartbeat (.zeros 16) 125,
    .expireInactive 149 50]

/-- The session outlives the sweep at 149 ms and not the one at 175 ms. -/
theorem sessionStore_runs_reference :
    (∃ kept, (serve referenceCalls).2.sessions.lookup (.zeros 16) = some kept) ∧
      ((serve referenceCalls).2.expireInactive 175 50).1.sessions.lookup (.zeros 16) = none := by
  have runs := sessionStore_runs (serves_serve referenceCalls)
  obtain ⟨-, -, -, -, lives, frees⟩ := runs
  let session : Session :=
    { id := .zeros 16, productId := [97], peerIdentity := [117], features := [],
      expireTime := 2000, lastHeartbeatMs := 100 }
  let life : List AnsweredCall :=
    [⟨.heartbeat (.zeros 16) 125, .beaten (.ok ())⟩, ⟨.expireInactive 149 50, .expired 0⟩]
  have sustained : Sustained session.id
      ⟨.create [.zeros 16] [97] [117] [] 2000 100 1, .created (.ok session)⟩ life := by
    constructor
    · intro answered mem
      rcases List.mem_cons.mp mem with rfl | mem
      · nofun
      · rcases List.mem_singleton.mp mem with rfl
        nofun
    · intro before after now timeout reply split
      dsimp only [life] at split
      rcases before with _ | ⟨first, _ | ⟨second, rest⟩⟩
      · cases split
      · cases split
        exact ⟨125, 149, rfl, .inl rfl, by decide⟩
      · simp at split
  obtain ⟨kept, present, -⟩ := lives [] _ session life rfl (by decide) sustained
  obtain ⟨heartbeat, last, gone⟩ := frees 175 50 (.expired 1) (by decide) present
  cases last
  exact ⟨⟨kept, present⟩, (gone (by decide)).1⟩

/-- A quota of zero is an invalid license and no exceeded limit, and a session that
beats again after a gap of the timeout or more outlives the next sweep. -/
theorem sessionStore_runs_guards :
    (¬ ∀ history manager, Serves history manager →
      ∀ draws productId peerIdentity features expireTime now maxSessions,
        (manager.create draws productId peerIdentity features expireTime now maxSessions).2 =
            .error .sessionLimitExceeded ↔
          maxSessions.toNat ≤ manager.active productId) ∧
    ∃ history manager, Serves history manager ∧
      Chronological (history ++ [⟨.expireInactive 100 50, .expired 0⟩]) ∧
      history.filterMap (AnsweredCall.beat (.zeros 16)) = [0, 100] ∧
      (manager.expireInactive 100 50).1.size = 1 := by
  constructor
  · intro exceeded
    have wrong := (exceeded [] {} .fresh [] [97] [117] [] 0 0 0).mpr (Nat.zero_le _)
    revert wrong
    decide
  · let calls : List SessionCall :=
      [.create [.zeros 16] [97] [117] [] 2000 0 1, .heartbeat (.zeros 16) 100]
    exact ⟨(serve calls).1, (serve calls).2, serves_serve calls, by decide, by decide,
      by decide⟩

end SessionManager

end YoAuthorize.Core
