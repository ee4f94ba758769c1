import YoAuthorize.Backend.Accounts
import YoAuthorize.Lib.Conditional

/-!
# Old credentials

`reset_password` and an `admin_update_user` that disables a user delete the
sessions of the user.  `login` reads the user, verifies the password and then
inserts its session, without a lock: if the deletion falls between the two, the
session survives it.  `sessionConditional` assumes that it does not, and its
invariant says that every session has the counts of its user.
-/

namespace YoAuthorize.Backend

open Octets Crypto FlatBuffer License Transaction Relation

/-! ## The condition -/

/-- The session is from a login after the last reset and the last disabling. -/
def SessionRow.Current (session : SessionRow) (user : UserRow) : Prop :=
  session.resets = user.resets ∧ session.disables = user.disables

/-- A request that deletes the sessions of the user, after the snapshot of its
`DELETE`. -/
def Purging (userId : Uuid) (program : AccountHandler) : Prop :=
  ∃ ids, (deleteSessions userId ids).Continues program

/-- Every session is current. -/
structure SessionsCurrent (rows : AccountStore) : Prop where
  current : ∀ {id : Uuid} {session : SessionRow} {user : UserRow}, rows.session id = some session →
    rows.user session.userId = some user → session.Current user

/-- Every session that is new in the later rows is current. -/
structure LoginsCurrent (rows later : AccountStore) : Prop where
  current : ∀ {id : Uuid} {session : SessionRow} {user : UserRow}, rows.session id = none →
    later.session id = some session → rows.user session.userId = some user → session.Current user

/-- The later rows have no new session of the user. -/
structure NoLogin (userId : Uuid) (rows later : AccountStore) : Prop where
  old : ∀ {id : Uuid} {session : SessionRow}, later.session id = some session →
    session.userId = userId → rows.session id = some session

/-- No reset and no disabling of the user comes between the read of a `login` and
its session, and no session of the user while its sessions are deleted. -/
def sessionConditional : Conditional AccountRow ApiError AccountResponse where
  Inv rows := SessionsCurrent rows
  Guarantee _ _ _ := True
  Proviso rows later := LoginsCurrent rows later
  Respects program rows later := ∀ userId, Purging userId program → NoLogin userId rows later

/-! ## Writes -/

/-- The log deletes sessions and inserts none. -/
def Deletes (log : List (Sigma AccountRow)) : Prop :=
  ∀ (id : Uuid) (session : SessionRow), (⟨.session id, some session⟩ : Sigma AccountRow) ∉ log

section

variable {held : AccountKey → Prop} {log : List (Sigma AccountRow)} {rows later : AccountStore}

theorem Deletes.snoc (deletes : Deletes log) {version : Sigma AccountRow}
    (quiet : ∀ (id : Uuid) (session : SessionRow), version ≠ ⟨.session id, some session⟩) :
    Deletes (log ++ [version]) := by
  intro id session member
  rcases List.mem_append.mp member with old | new
  · exact deletes id session old
  · exact quiet id session (List.mem_singleton.mp new).symm

theorem Deletes.session (deletes : Deletes log) {id : Uuid} {session : SessionRow}
    (present : AccountStore.session (replay rows log) id = some session) :
    rows.session id = some session := by
  rcases lookup_replay_cases (AccountStore.session_eq_some.mp present) with written | unwritten
  · exact absurd written (deletes id session)
  · exact AccountStore.session_eq_some.mpr unwritten

/-- A session that others see too is either not written or not from the rows. -/
theorem session_replay_congr {id : Uuid} {session : SessionRow}
    (present : AccountStore.session (replay later log) id = some session)
    (before : rows.session id = some session) :
    AccountStore.session (replay rows log) id = some session := by
  apply AccountStore.session_eq_some.mpr
  by_cases written : ∃ version ∈ log, version.1 = .session id
  · exact (lookup_replay_of_written written rows later).trans
      (AccountStore.session_eq_some.mp present)
  · have unwritten : (replay rows log).lookup (AccountKey.session id) =
        rows.lookup (AccountKey.session id) :=
      lookup_replay_of_unwritten rows fun version member same => written ⟨version, member, same⟩
    exact unwritten.trans (AccountStore.session_eq_some.mp before)

/-- The sessions stay current if their users keep their counts. -/
theorem Deletes.inv (deletes : Deletes log) (inv : sessionConditional.Inv rows)
    (kept : ∀ {id : Uuid} {session : SessionRow} {user : UserRow},
      AccountStore.session (replay rows log) id = some session →
      AccountStore.user (replay rows log) session.userId = some user →
      ∃ old, rows.user session.userId = some old ∧ old.resets = user.resets ∧
        old.disables = user.disables) : sessionConditional.Inv (replay rows log) := by
  refine ⟨fun present owned => ?_⟩
  rcases kept present owned with ⟨old, before, resets, disables⟩
  rcases inv.current (deletes.session present) before with ⟨sameResets, sameDisables⟩
  exact ⟨sameResets.trans resets, sameDisables.trans disables⟩

/-! ## The deletion of the sessions of a user -/

/-- The sessions of the user that are still to be deleted, in a request that
writes no other user. -/
structure Purges (userId : Uuid) (ids : List Uuid) (log : List (Sigma AccountRow))
    (rows : AccountStore) : Prop where
  deletes : Deletes log
  users : ∀ (id : Uuid) (user : UserRow), (⟨.user id, user⟩ : Sigma AccountRow) ∈ log → id = userId
  listed : ∀ {id : Uuid} {session : SessionRow},
    AccountStore.session (replay rows log) id = some session → session.userId = userId → id ∈ ids

variable {userId : Uuid} {ids : List Uuid}

theorem Purges.waits {program : AccountHandler} (purges : Purges userId ids log rows)
    (purging : Purging userId program)
    (waits : sessionConditional.Waits program held rows later) : Purges userId ids log later := by
  refine { purges with listed := ?_ }
  intro id session present owned
  have before : rows.session id = some session := by
    have now := purges.deletes.session present
    clear present
    induction waits with
    | refl => exact now
    | tail _ commit ih => exact ih ((commit.2 userId purging).old now owned)
  exact purges.listed (session_replay_congr present before) owned

/-- Once all are deleted, the user may have new counts. -/
theorem Purges.inv (purges : Purges userId [] log rows) (inv : sessionConditional.Inv rows) :
    sessionConditional.Inv (replay rows log) := by
  refine purges.deletes.inv inv ?_
  intro id session user present owned
  rcases lookup_replay_cases owned with written | unwritten
  · cases purges.listed present (purges.users _ _ written)
  · exact ⟨user, unwritten, rfl, rfl⟩

theorem sound_deleteSessions (purges : Purges userId ids log rows) :
    sessionConditional.Sound (deleteSessions userId ids) held log rows := by
  induction ids generalizing held log rows with
  | nil =>
      intro now waits inv _
      exact ⟨(purges.waits ⟨[], .refl⟩ waits).inv inv, trivial⟩
  | cons id ids ih =>
      intro now waits inv
      have here : Purges userId (id :: ids) log now := purges.waits ⟨id :: ids, .refl⟩ waits
      -- A row that is not a session of the user is not one of those to be deleted.
      have skip (other : ∀ session, (replay now log).lookup (.session id) = some (some session) →
          session.userId ≠ userId) : Purges userId ids log now := by
        refine { here with listed := ?_ }
        intro listed session present owned
        rcases List.mem_cons.mp (here.listed present owned) with rfl | rest
        · exact absurd owned (other session (AccountStore.session_eq_some.mp present))
        · exact rest
      dsimp only
      split
      · rename_i row found
        split
        · rename_i owned
          intro last lastWaits lastInv
          have inside : Purging userId (.write (.session id) none (deleteSessions userId ids)) := by
            have next := Program.Continues.lock (some (some row))
              (Program.Continues.refl : (deleteSessions userId (id :: ids)).Continues _)
            dsimp only at next
            rw [if_pos owned] at next
            exact ⟨id :: ids, next⟩
          have there := here.waits inside lastWaits
          refine ih ⟨there.deletes.snoc fun _ _ same => (by cases same), ?_, ?_⟩
          · intro other user member
            rcases List.mem_append.mp member with old | new
            · exact there.users other user old
            · cases List.mem_singleton.mp new
          · intro other session present same
            rw [replay_append] at present
            by_cases equal : other = id
            · subst equal
              rw [AccountStore.session_eq_some, AList.lookup_insert] at present
              cases present
            · rw [AccountStore.session_eq_some, AList.lookup_insert_ne fun key => equal
                (AccountKey.session.inj key), ← AccountStore.session_eq_some] at present
              exact (List.mem_cons.mp (there.listed present same)).resolve_left equal
        · rename_i foreign
          refine ih (skip ?_)
          intro session present
          rw [found] at present
          cases present
          exact foreign
      · rename_i missing
        exact ih (skip fun session present => absurd present (missing session))

theorem sound_purgeSessions (deletes : Deletes log)
    (users : ∀ (id : Uuid) (user : UserRow), (⟨.user id, user⟩ : Sigma AccountRow) ∈ log →
      id = userId) : sessionConditional.Sound (purgeSessions userId) held log rows := by
  intro now waits inv
  refine sound_deleteSessions ⟨deletes, users, ?_⟩
  intro id session present owned
  exact List.mem_filterMap.mpr
    ⟨(id, session), AccountStore.mem_sessions.mpr present, if_pos owned⟩

/-! ## The handlers -/

theorem deletes_nil : Deletes [] := fun _ _ => nofun

/-- Deletions alone may be committed. -/
theorem sound_commit (deletes : Deletes log)
    (users : ∀ (id : Uuid) (user : UserRow), (⟨.user id, user⟩ : Sigma AccountRow) ∉ log)
    (result : AccountResponse) : sessionConditional.Sound (.commit result) held log rows := by
  intro now waits inv _
  refine ⟨deletes.inv inv ?_, trivial⟩
  intro id session user _ owned
  rcases lookup_replay_cases owned with written | unwritten
  · exact absurd written (users _ _)
  · exact ⟨user, unwritten, rfl, rfl⟩

theorem sound_resetPassword (env : AccountEnvironment) (token password : String) :
    sessionConditional.Sound (resetPassword env token password) held [] rows := by
  unfold resetPassword
  split
  · trivial
  split
  · trivial
  · rename_i passwordHash _
    apply Conditional.Sound.lockWhere
    · intros
      trivial
    · intro tokenId row now moves inv present accepted later waits laterInv
      have consumed : Deletes [⟨.emailToken tokenId,
          { row with usedAt := some env.now, consumed := row.consumed + 1 }⟩] :=
        deletes_nil.snoc fun _ _ same => by cases same
      apply Conditional.Sound.lock
      · intro last lastWaits lastInv _
        refine sound_purgeSessions consumed ?_
        intro id user member
        cases List.mem_singleton.mp member
      · intro user last lastWaits lastInv _ final finalWaits finalInv
        refine sound_purgeSessions (consumed.snoc (fun _ _ same => by cases same)) ?_
        intro id other member
        rcases List.mem_append.mp member with old | new
        · cases List.mem_singleton.mp old
        · cases List.mem_singleton.mp new
          rfl

theorem sound_updateUser (id : Uuid) (status : Option UserStatus) (role : Option UserRole) :
    sessionConditional.Sound (updateUser id status role) held [] rows := by
  apply Conditional.Sound.lock
  · intro now waits inv absent
    dsimp only
    split
    · exact sound_purgeSessions deletes_nil fun _ _ same => by cases same
    · exact sound_commit deletes_nil (fun _ _ same => by cases same) _
  · intro user now waits inv present last lastWaits lastInv
    have updated : Deletes [⟨.user id, user.updated status role⟩] :=
      deletes_nil.snoc fun _ _ same => by cases same
    split
    · refine sound_purgeSessions updated ?_
      intro other row member
      cases List.mem_singleton.mp member
      rfl
    · rename_i enabled
      intro final finalWaits finalInv _
      refine ⟨updated.inv finalInv ?_, trivial⟩
      have kept : AccountStore.user final id = some user :=
        (finalWaits.moves.lookup (.inl rfl)).trans
          ((lastWaits.moves.lookup (.inl rfl)).trans present)
      intro sessionId session row _ owned
      rcases lookup_replay_cases owned with written | unwritten
      · have same := List.mem_singleton.mp written
        cases same
        refine ⟨user, kept, rfl, ?_⟩
        unfold UserRow.updated
        rw [if_neg enabled]
      · exact ⟨row, unwritten, rfl, rfl⟩

theorem sound_adminUpdateUser (env : AccountEnvironment) (cookie csrf : Option String) (id : Uuid)
    (input : UpdateUser) :
    sessionConditional.Sound (adminUpdateUser env cookie csrf id input) held [] rows := by
  intro now waits inv
  dsimp only
  split
  · trivial
  split
  · trivial
  split
  · trivial
  · exact sound_updateUser id _ _

theorem sound_logout (env : AccountEnvironment) (cookie csrf : Option String) :
    sessionConditional.Sound (logout env cookie csrf) held [] rows := by
  intro now waits inv
  dsimp only
  split
  · trivial
  · intro later laterWaits laterInv
    dsimp only
    split
    · intro last lastWaits lastInv
      refine sound_commit (deletes_nil.snoc fun _ _ same => ?_) ?_ _
      · cases same
      intro id user member
      cases List.mem_singleton.mp member
    · exact sound_commit deletes_nil (fun _ _ same => by cases same) _

theorem sound_insertSession (env : AccountEnvironment) (user : UserRow) (token csrf : String) :
    sessionConditional.Sound (insertSession env userId user token csrf) held [] rows := by
  intro now waits inv
  dsimp only
  split
  · trivial
  · rename_i free
    intro later laterWaits laterInv
    dsimp only
    split
    · trivial
    · intro last lastWaits lastInv final finalWaits finalInv proviso
      have absent : AccountStore.session final env.newSession = none := by
        have same : final.lookup (.session env.newSession) = now.lookup (.session env.newSession) :=
          (finalWaits.moves.lookup (.inl rfl)).trans
            ((lastWaits.moves.lookup (.inl rfl)).trans (laterWaits.moves.lookup (.inl rfl)))
        cases known : AccountStore.session final env.newSession with
        | none => rfl
        | some session =>
            rw [AccountStore.session_eq_some, same] at known
            exact absurd known (free session)
      refine ⟨⟨?_⟩, trivial⟩
      intro id session owner present owned
      have before : AccountStore.user final session.userId = some owner := by
        rcases lookup_replay_cases owned with written | unwritten
        · cases List.mem_singleton.mp written
        · exact unwritten
      rcases lookup_replay_cases (AccountStore.session_eq_some.mp present) with written | unwritten
      · have same := List.mem_singleton.mp written
        cases same
        exact proviso.current absent present before
      · exact finalInv.current (AccountStore.session_eq_some.mpr unwritten) before

theorem sound_login (env : AccountEnvironment) (address password : String) :
    sessionConditional.Sound (login env address password) held [] rows := by
  unfold login
  split
  · trivial
  split
  · trivial
  · intro now waits inv
    dsimp only
    split
    · trivial
    split
    · trivial
    split
    · trivial
    split
    · exact sound_insertSession env _ _ _
    · trivial

end

/-! ## Accepted sessions -/

/-- The requests of `login`, `logout`, `reset_password` and `admin_update_user`. -/
inductive IsCredential : AccountHandler → Prop
  | login (env : AccountEnvironment) (address password : String) :
      IsCredential (login env address password)
  | logout (env : AccountEnvironment) (cookie csrf : Option String) :
      IsCredential (logout env cookie csrf)
  | resetPassword (env : AccountEnvironment) (token password : String) :
      IsCredential (resetPassword env token password)
  | adminUpdateUser (env : AccountEnvironment) (cookie csrf : Option String) (id : Uuid)
      (input : UpdateUser) : IsCredential (adminUpdateUser env cookie csrf id input)

theorem sound_of_isCredential {handler : AccountHandler} (isCredential : IsCredential handler)
    {held : AccountKey → Prop} {rows : AccountStore} :
    sessionConditional.Sound handler held [] rows := by
  cases isCredential with
  | login env address password => exact sound_login env address password
  | logout env cookie csrf => exact sound_logout env cookie csrf
  | resetPassword env token password => exact sound_resetPassword env token password
  | adminUpdateUser env cookie csrf id input => exact sound_adminUpdateUser env cookie csrf id input

/-- In every run that meets the condition, a session that is accepted is from a
login that has read the user after the last reset and the last disabling. -/
theorem sessions_current_of_runs {τ : Type} [DecidableEq τ] {rows : AccountStore}
    (inv : sessionConditional.Inv rows)
    {system : System τ AccountRow ApiError AccountResponse}
    (run : ReflTransGen (fun before after => System.Step IsCredential before after ∧
      System.Meets sessionConditional before after) { rows } system) :
    ∀ (tokenHash : Bytes) (time : Timestamp) (principal : Principal),
      AccountStore.findPrincipal system.rows tokenHash time = some principal →
        principal.session.Current principal.user := by
  have kept := System.inv_of_meeting_runs inv
    (fun _ isCredential _ _ => sound_of_isCredential isCredential) run
  intro tokenHash time principal accepted
  rcases findPrincipal_eq_some accepted with ⟨present, owned⟩
  exact kept.current present owned

/-! ## A run in turn and an overlap -/

theorem resettableStore_current : sessionConditional.Inv resettableStore := by
  refine ⟨fun present _ => ?_⟩
  have none : AccountStore.sessions resettableStore = [] := by decide +kernel
  have member := AccountStore.mem_sessions.mpr present
  rw [none] at member
  cases member

theorem sessionConditional_reflexive : sessionConditional.Reflexive := by
  refine fun rows => ⟨⟨fun absent present _ => ?_⟩, fun program userId _ => ⟨fun here _ => here⟩⟩
  cases absent.symm.trans present

def accountLogin : AccountHandler :=
  login (accountEnvironment 1 1000000 "session") "user@example.org" "old password"

def accountReset : AccountHandler :=
  resetPassword (accountEnvironment 2 1000000 "unused") "reset" "new password"

/-- The login after the reset. -/
def accountLoginAgain : AccountHandler :=
  login (accountEnvironment 3 1000000 "another session") "user@example.org" "new password"

/-- `LoginsCurrent` as a test of the listed sessions. -/
def loginsCurrent (rows later : AccountStore) : Bool :=
  (AccountStore.sessions later).all fun entry =>
    (rows.session entry.1).isSome || (rows.user entry.2.userId).all fun user =>
      entry.2.resets = user.resets ∧ entry.2.disables = user.disables

theorem loginsCurrent_sound {rows later : AccountStore} (passes : loginsCurrent rows later = true) :
    LoginsCurrent rows later := by
  refine ⟨fun {id session user} absent present owned => ?_⟩
  have passed := List.all_eq_true.mp passes (id, session) (AccountStore.mem_sessions.mpr present)
  rw [absent, owned] at passed
  have current : session.resets = user.resets ∧ session.disables = user.disables :=
    of_decide_eq_true passed
  exact current

/-- The user logs in, resets his password and logs in again: the first session
is gone and the second one is current. -/
theorem sessions_current_login :
    ∃ system : System Unit AccountRow ApiError AccountResponse,
      ReflTransGen (fun before after => System.Step IsCredential before after ∧
        System.Meets sessionConditional before after) { rows := resettableStore } system ∧
      AccountStore.findPrincipal system.rows (utf8 "session") 2000000 = none ∧
      ∃ principal, AccountStore.findPrincipal system.rows (utf8 "another session") 2000000 =
        some principal ∧ principal.user.resets = 1 ∧ principal.session.Current principal.user := by
  have serves : (System.finishAll loginsCurrent 12 [accountLogin, accountReset, accountLoginAgain]
      { rows := resettableStore }).any
      (fun (system : System Unit AccountRow ApiError AccountResponse) =>
        (AccountStore.findPrincipal system.rows (utf8 "session") 2000000).isNone &&
        (AccountStore.findPrincipal system.rows (utf8 "another session") 2000000).any
          fun principal => principal.user.resets = 1) = true := by decide +kernel
  rcases Option.any_eq_true .. |>.mp serves with ⟨system, finished, found⟩
  rcases Bool.and_eq_true .. |>.mp found with ⟨ended, accepted⟩
  rcases Option.any_eq_true .. |>.mp accepted with ⟨principal, known, reset⟩
  have admitted : ∀ program ∈ [accountLogin, accountReset, accountLoginAgain],
      IsCredential program := by
    simp only [List.forall_mem_cons]
    exact ⟨.login .., .resetPassword .., .login .., nofun⟩
  have run := System.meeting_of_finishAll sessionConditional_reflexive
    (fun _ _ => loginsCurrent_sound) admitted finished
  exact ⟨system, run, Option.isNone_iff_eq_none.mp ended, principal, known,
    of_decide_eq_true reset,
    sessions_current_of_runs resettableStore_current run _ _ principal known⟩

/-- The user logs in while his password is reset. -/
def resetting : System Bool AccountRow ApiError AccountResponse :=
  (({ rows := resettableStore } : System Bool AccountRow ApiError AccountResponse).resume false
    accountLogin).resume true accountReset

/-- The whole of `reset_password` between the two statements of `login`. -/
def resetOrder : List Bool :=
  [false] ++ List.replicate 7 true ++ List.replicate 4 false

/-- The session of the old password is accepted after the reset. -/
theorem session_survives_reset :
    sessionConditional.Inv resettableStore ∧
    ∃ system : System Bool AccountRow ApiError AccountResponse,
      ReflTransGen (System.Step IsCredential) { rows := resettableStore } system ∧
      ∃ principal, AccountStore.findPrincipal system.rows (utf8 "session") 2000000 =
        some principal ∧ principal.user.passwordHash = "new password" ∧
        principal.session.resets < principal.user.resets := by
  have survives : (resetting.schedule resetOrder).any (fun system =>
      (AccountStore.findPrincipal system.rows (utf8 "session") 2000000).any fun principal =>
        decide (principal.user.passwordHash = "new password" ∧
          principal.session.resets < principal.user.resets)) = true := by decide +kernel
  rcases Option.any_eq_true .. |>.mp survives with ⟨system, scheduled, found⟩
  rcases Option.any_eq_true .. |>.mp found with ⟨principal, accepted, old⟩
  have started : ReflTransGen (System.Step IsCredential) { rows := resettableStore } resetting :=
    .tail (.single (.start rfl (.login _ _ _))) (.start rfl (.resetPassword _ _ _))
  exact ⟨resettableStore_current, system, started.trans (System.runs_of_schedule scheduled),
    principal, accepted, of_decide_eq_true old⟩

end YoAuthorize.Backend
