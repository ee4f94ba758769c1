import YoAuthorize.Backend.Accounts
import YoAuthorize.Lib.Conditional

/-!
# Email tokens

`register` replaces the verification token of a user under the lock of the
user.  `forgot_password` replaces the reset token in two statements without a
lock: two of them for one user can each miss the token of the other.
`tokenConditional` assumes that they do not overlap, and its invariant says that
a user has at most one unused token for each purpose, that a token is consumed
at most once and that an unused reset token was issued after the last reset.
-/

namespace YoAuthorize.Backend

open Octets Crypto FlatBuffer License Transaction Relation

/-! ## The contract -/

structure TokensSound (rows : AccountStore) : Prop where
  housed : ∀ {id : Uuid} {token : EmailTokenRow}, rows.emailToken id = some token →
    ∃ user, rows.user token.userId = some user
  single : ∀ {id other : Uuid} {first second : EmailTokenRow},
    rows.emailToken id = some first → rows.emailToken other = some second →
    first.usedAt = none → second.usedAt = none → first.userId = second.userId →
    first.purpose = second.purpose → id = other
  consumed : ∀ {id : Uuid} {token : EmailTokenRow}, rows.emailToken id = some token →
    token.consumed ≤ 1 ∧ (token.usedAt = none → token.consumed = 0)
  current : ∀ {id : Uuid} {token : EmailTokenRow} {user : UserRow},
    rows.emailToken id = some token → token.purpose = .resetPassword → token.usedAt = none →
    rows.user token.userId = some user → token.resets = user.resets

/-- The later rows have no new unused token of the user. -/
structure NoToken (userId : Uuid) (purpose : Purpose) (rows later : AccountStore) : Prop where
  old : ∀ {id : Uuid} {token : EmailTokenRow}, later.emailToken id = some token →
    token.unusedOf userId purpose = true → rows.emailToken id = some token

/-- The user has an unused reset token. -/
def Resettable (userId : Uuid) (rows : AccountStore) : Prop :=
  ∃ id token, rows.emailToken id = some token ∧ token.unusedOf userId .resetPassword = true

/-- A new verification token comes with the lock of its user, and a reset from an
unused token. -/
structure TokensKept (held : AccountKey → Prop) (rows later : AccountStore) : Prop where
  verification : ∀ {id : Uuid} {token : EmailTokenRow}, later.emailToken id = some token →
    token.purpose = .verifyEmail → token.usedAt = none →
    rows.emailToken id = some token ∨ held (.user token.userId)
  user : ∀ {id : Uuid} {old : UserRow}, rows.user id = some old →
    ∃ new, later.user id = some new ∧ (new.resets = old.resets ∨ Resettable id rows)

/-- A `forgot_password` for the user between the snapshot of its `UPDATE` and the
commit of its `INSERT`. -/
def Replacing (userId : Uuid) (program : AccountHandler) : Prop :=
  ∃ env token ids, (useTokens env userId .resetPassword
    (.commitThen (insertEmailToken env env.issuedAt userId .resetPassword 1 token
      (.issued userId))) ids).Continues program

/-- No reset token is issued to a user while another `forgot_password` replaces
the one he has. -/
def tokenConditional : Conditional AccountRow ApiError AccountResponse where
  Inv rows := TokensSound rows
  Guarantee held rows later := TokensKept held rows later
  Proviso _ _ := True
  Respects program rows later :=
    ∀ userId, Replacing userId program → NoToken userId .resetPassword rows later

theorem tokenConditional_monotone : tokenConditional.Monotone := by
  intro held more rows later less kept
  exact { kept with
    verification := fun here purpose unused =>
      (kept.verification here purpose unused).imp_right (less _) }

theorem EmailTokenRow.unusedOf_iff {row : EmailTokenRow} {userId : Uuid} {purpose : Purpose} :
    row.unusedOf userId purpose = true ↔
      row.userId = userId ∧ row.purpose = purpose ∧ row.usedAt = none := by
  unfold EmailTokenRow.unusedOf
  exact decide_eq_true_iff

variable {held : AccountKey → Prop} {log : List (Sigma AccountRow)} {rows later : AccountStore}

theorem TokensKept.refl (rows : AccountStore) : TokensKept held rows rows where
  verification here _ _ := .inl here
  user here := ⟨_, here, .inl rfl⟩

/-! ## Writes -/

namespace TokensSound

/-- A row of another table. -/
theorem insert_quiet (sound : TokensSound rows) (key : AccountKey) (row : AccountRow key)
    (quiet : ∀ id, key ≠ .user id ∧ key ≠ .emailToken id) :
    TokensSound (rows.insert key row) where
  housed := by
    intro id token here
    rw [AccountStore.emailToken_insert_of_ne _ _ (quiet id).2] at here
    rw [AccountStore.user_insert_of_ne _ _ (quiet token.userId).1]
    exact sound.housed here
  single := by
    intro id other first second here there
    rw [AccountStore.emailToken_insert_of_ne _ _ (quiet id).2] at here
    rw [AccountStore.emailToken_insert_of_ne _ _ (quiet other).2] at there
    exact sound.single here there
  consumed := by
    intro id token here
    rw [AccountStore.emailToken_insert_of_ne _ _ (quiet id).2] at here
    exact sound.consumed here
  current := by
    intro id token user here purpose unused owned
    rw [AccountStore.emailToken_insert_of_ne _ _ (quiet id).2] at here
    rw [AccountStore.user_insert_of_ne _ _ (quiet token.userId).1] at owned
    exact sound.current here purpose unused owned

/-- A user whose reset tokens are used, or whose resets stay. -/
theorem insert_user (sound : TokensSound rows) {id : Uuid} {user : UserRow}
    (kept : ∀ tokenId token, rows.emailToken tokenId = some token →
      token.unusedOf id .resetPassword = true → token.resets = user.resets) :
    TokensSound (rows.insert (.user id) user) where
  housed := by
    intro tokenId token here
    rw [AccountStore.emailToken_insert_user] at here
    rw [AccountStore.user_insert]
    split
    · exact ⟨user, rfl⟩
    · exact sound.housed here
  single := by
    intro first second one two here there
    rw [AccountStore.emailToken_insert_user] at here there
    exact sound.single here there
  consumed := by
    intro tokenId token here
    rw [AccountStore.emailToken_insert_user] at here
    exact sound.consumed here
  current := by
    intro tokenId token owner here purpose unused owned
    rw [AccountStore.emailToken_insert_user] at here
    rw [AccountStore.user_insert] at owned
    split at owned
    · rename_i same
      cases owned
      exact kept tokenId token here (EmailTokenRow.unusedOf_iff.mpr ⟨same, purpose, unused⟩)
    · exact sound.current here purpose unused owned

/-- A token that is used from now on. -/
theorem insert_used (sound : TokensSound rows) {id : Uuid} {old token : EmailTokenRow}
    (present : rows.emailToken id = some old) (owner : token.userId = old.userId)
    (used : token.usedAt ≠ none) (consumed : token.consumed ≤ 1) :
    TokensSound (rows.insert (.emailToken id) token) where
  housed := by
    intro other found here
    rw [AccountStore.user_insert_emailToken]
    rw [AccountStore.emailToken_insert] at here
    split at here
    · cases here
      rw [owner]
      exact sound.housed present
    · exact sound.housed here
  single := by
    intro first second one two here there oneUnused twoUnused
    rw [AccountStore.emailToken_insert] at here there
    split at here
    · cases here
      exact absurd oneUnused used
    · split at there
      · cases there
        exact absurd twoUnused used
      · exact sound.single here there oneUnused twoUnused
  consumed := by
    intro other found here
    rw [AccountStore.emailToken_insert] at here
    split at here
    · cases here
      exact ⟨consumed, fun unused => absurd unused used⟩
    · exact sound.consumed here
  current := by
    intro other found user here purpose unused owned
    rw [AccountStore.user_insert_emailToken] at owned
    rw [AccountStore.emailToken_insert] at here
    split at here
    · cases here
      exact absurd unused used
    · exact sound.current here purpose unused owned

/-- A new token of a user who has no other for the purpose. -/
theorem insert_fresh (sound : TokensSound rows) {id : Uuid} {token : EmailTokenRow}
    {user : UserRow} (owned : rows.user token.userId = some user) (unconsumed : token.consumed = 0)
    (resets : token.purpose = .resetPassword → token.resets = user.resets)
    (clear : ∀ other found, rows.emailToken other = some found →
      found.unusedOf token.userId token.purpose = false) :
    TokensSound (rows.insert (.emailToken id) token) where
  housed := by
    intro other found here
    rw [AccountStore.user_insert_emailToken]
    rw [AccountStore.emailToken_insert] at here
    split at here
    · cases here
      exact ⟨user, owned⟩
    · exact sound.housed here
  single := by
    -- The new token is the only one of its user and purpose.
    have only {other : Uuid} {found : EmailTokenRow} (here : rows.emailToken other = some found)
        (unused : found.usedAt = none) (sameUser : found.userId = token.userId)
        (samePurpose : found.purpose = token.purpose) : False := by
      have accepted := EmailTokenRow.unusedOf_iff.mpr ⟨sameUser, samePurpose, unused⟩
      rw [clear other found here] at accepted
      cases accepted
    intro first second one two here there oneUnused twoUnused users purposes
    rw [AccountStore.emailToken_insert] at here there
    split at here
    · rename_i isNew
      split at there
      · rename_i too
        exact isNew.trans too.symm
      · cases here
        exact (only there twoUnused users.symm purposes.symm).elim
    · split at there
      · cases there
        exact (only here oneUnused users purposes).elim
      · exact sound.single here there oneUnused twoUnused users purposes
  consumed := by
    intro other found here
    rw [AccountStore.emailToken_insert] at here
    split at here
    · cases here
      rw [unconsumed]
      exact ⟨Nat.zero_le 1, fun _ => rfl⟩
    · exact sound.consumed here
  current := by
    intro other found owner here purpose unused ownedBy
    rw [AccountStore.user_insert_emailToken] at ownedBy
    rw [AccountStore.emailToken_insert] at here
    split at here
    · cases here
      cases owned.symm.trans ownedBy
      exact resets purpose
    · exact sound.current here purpose unused ownedBy

end TokensSound

/-- What may be written over the given rows. -/
def MayIssue (held : AccountKey → Prop) (rows later : AccountStore) :
    (key : AccountKey) → AccountRow key → Prop
  | .email _, _ => True
  | .user id, user => ∀ old, later.user id = some old →
      user.resets = old.resets ∨ Resettable id rows
  | .emailToken _, token => token.purpose = .verifyEmail → token.usedAt = none →
      held (.user token.userId)
  | .session _, _ => True

theorem TokensKept.insert (kept : TokensKept held rows later) {key : AccountKey}
    {row : AccountRow key} (may : MayIssue held rows later key row) :
    TokensKept held rows (later.insert key row) := by
  refine ⟨?_, ?_⟩
  · intro id token here purpose unused
    cases key with
    | emailToken other =>
        rw [AccountStore.emailToken_insert] at here
        split at here
        · cases here
          exact .inr (may purpose unused)
        · exact kept.verification here purpose unused
    | email | user | session =>
        rw [AccountStore.emailToken_insert_of_ne _ row nofun] at here
        exact kept.verification here purpose unused
  · intro id old here
    rcases kept.user here with ⟨new, present, resets⟩
    cases key with
    | user other =>
        rw [AccountStore.user_insert]
        split
        · rename_i same
          subst same
          refine ⟨row, rfl, ?_⟩
          rcases may new present with unchanged | resettable
          · exact resets.imp_left unchanged.trans
          · exact .inr resettable
        · exact ⟨new, present, resets⟩
    | email | emailToken | session =>
        rw [AccountStore.user_insert_of_ne _ row nofun]
        exact ⟨new, present, resets⟩

theorem settled_account (settled : tokenConditional.Settled held log rows) {key : AccountKey}
    {row : AccountRow key}
    (fine : ∀ now, tokenConditional.Moves held rows now → TokensSound now →
      TokensSound (replay now log) → TokensSound ((replay now log).insert key row) ∧
        MayIssue held now (replay now log) key row) :
    tokenConditional.Settled held (log ++ [⟨key, row⟩]) rows := by
  intro now moves inv
  rcases settled now moves inv with ⟨sound, kept⟩
  rcases fine now moves inv sound with ⟨written, may⟩
  rw [replay_append]
  exact ⟨written, TokensKept.insert kept may⟩

theorem settled_email_nil : tokenConditional.Settled held [] rows :=
  fun now _ inv => ⟨inv, TokensKept.refl now⟩

/-- The newest version of a token, used from now on. -/
theorem settled_used (settled : tokenConditional.Settled held log rows) {id : Uuid}
    {row token : EmailTokenRow} (holds : held (.emailToken id))
    (present : AccountStore.emailToken (replay rows log) id = some row)
    (owner : token.userId = row.userId) (used : token.usedAt ≠ none)
    (consumed : token.consumed ≤ 1) :
    tokenConditional.Settled held (log ++ [⟨.emailToken id, token⟩]) rows := by
  refine settled_account settled fun now moves _ sound => ⟨?_, fun _ unused => absurd unused used⟩
  exact sound.insert_used ((moves.lookup_replay holds log).trans present) owner used consumed

/-! ## The tokens that are still to be replaced -/

/-- The unused tokens of the user and the purpose are in the list. -/
def Outstanding (userId : Uuid) (purpose : Purpose) (ids : List Uuid)
    (log : List (Sigma AccountRow)) (rows : AccountStore) : Prop :=
  ∀ id token, AccountStore.emailToken (replay rows log) id = some token →
    token.unusedOf userId purpose = true → id ∈ ids

/-- Nobody issues a token to the user while the request has a continuation of the
given program to do, with the given locks. -/
def Guarded (start : AccountHandler) (base : AccountKey → Prop) (userId : Uuid)
    (purpose : Purpose) : Prop :=
  ∀ ⦃program : AccountHandler⦄ ⦃held : AccountKey → Prop⦄ ⦃rows later : AccountStore⦄,
    start.Continues program → (∀ key, base key → held key) →
    tokenConditional.Waits program held rows later → NoToken userId purpose rows later

/-- The lock of the user keeps others from issuing a verification token. -/
theorem guarded_of_lock (start : AccountHandler) (userId : Uuid) :
    Guarded start (fun key => key = .user userId) userId .verifyEmail := by
  intro program held rows later _ covers waits
  induction waits with
  | refl => exact ⟨fun here _ => here⟩
  | tail _ commit ih =>
      refine ⟨fun here unused => ?_⟩
      rcases commit with ⟨⟨other, apart, -, kept, -⟩, -⟩
      rcases EmailTokenRow.unusedOf_iff.mp unused with ⟨owner, purpose, fresh⟩
      rcases kept.verification here purpose fresh with same | owned
      · exact ih.old same unused
      · rw [owner] at owned
        exact absurd (covers _ rfl) (apart _ owned)

/-- The condition keeps others from issuing a reset token. -/
theorem guarded_of_replacing {userId : Uuid} {start : AccountHandler}
    (replacing : Replacing userId start) :
    Guarded start (fun _ => False) userId .resetPassword := by
  intro program held rows later continues _ waits
  rcases replacing with ⟨env, token, ids, before⟩
  induction waits with
  | refl => exact ⟨fun here _ => here⟩
  | tail _ commit ih =>
      refine ⟨fun here unused => ?_⟩
      have respects := commit.2 userId ⟨env, token, ids, before.trans continues⟩
      exact ih.old (respects.old here unused) unused

section

variable {userId : Uuid} {purpose : Purpose} {ids : List Uuid} {start : AccountHandler}
  {base : AccountKey → Prop}

theorem Outstanding.of_noToken (outstanding : Outstanding userId purpose ids log rows)
    (none : NoToken userId purpose rows later) : Outstanding userId purpose ids log later := by
  intro id token present unused
  refine outstanding id token ?_ unused
  by_cases written : ∃ version ∈ log, version.1 = .emailToken id
  · exact (lookup_replay_of_written written rows later).trans present
  · have unwritten : ∀ version ∈ log, version.1 ≠ .emailToken id :=
      fun version member same => written ⟨version, member, same⟩
    have here : later.emailToken id = some token :=
      (lookup_replay_of_unwritten later unwritten).symm.trans present
    exact (lookup_replay_of_unwritten rows unwritten).trans (none.old here unused)

/-- A row of another table. -/
theorem Outstanding.write (outstanding : Outstanding userId purpose ids log rows)
    (key : AccountKey) (row : AccountRow key) (quiet : ∀ id, key ≠ .emailToken id) :
    Outstanding userId purpose ids (log ++ [⟨key, row⟩]) rows := by
  intro id token present
  rw [replay_append, AccountStore.emailToken_insert_of_ne _ row (quiet id)] at present
  exact outstanding id token present

/-- One more token is used. -/
theorem Outstanding.use {id : Uuid} {token : EmailTokenRow}
    (outstanding : Outstanding userId purpose (id :: ids) log rows) (used : token.usedAt ≠ none) :
    Outstanding userId purpose ids (log ++ [⟨.emailToken id, token⟩]) rows := by
  intro other found present unused
  rw [replay_append, AccountStore.emailToken_insert] at present
  split at present
  · cases present
    exact absurd (EmailTokenRow.unusedOf_iff.mp unused).2.2 used
  · rename_i apart
    exact (List.mem_cons.mp (outstanding other found present unused)).resolve_left apart

/-- A token that need not be used. -/
theorem Outstanding.skip {id : Uuid} (outstanding : Outstanding userId purpose (id :: ids) log rows)
    (foreign : ∀ token, AccountStore.emailToken (replay rows log) id = some token →
      token.unusedOf userId purpose = false) : Outstanding userId purpose ids log rows := by
  intro other found present unused
  rcases List.mem_cons.mp (outstanding other found present unused) with rfl | rest
  · rw [foreign found present] at unused
    cases unused
  · exact rest

theorem sound_useTokens {env : AccountEnvironment} {next : AccountHandler}
    (guarded : Guarded start base userId purpose)
    (inside : start.Continues (useTokens env userId purpose next ids))
    (covers : ∀ key, base key → held key) (settled : tokenConditional.Settled held log rows)
    (outstanding : Outstanding userId purpose ids log rows)
    (rest : ∀ {held : AccountKey → Prop} {log : List (Sigma AccountRow)} {rows : AccountStore},
      start.Continues next → (∀ key, base key → held key) →
      tokenConditional.Settled held log rows → Outstanding userId purpose [] log rows →
      tokenConditional.Sound next held log rows) :
    tokenConditional.Sound (useTokens env userId purpose next ids) held log rows := by
  induction ids generalizing held log rows with
  | nil => exact rest inside covers settled outstanding
  | cons id ids ih =>
      apply Conditional.Sound.lock
      · intro now waits inv absent
        have here := outstanding.of_noToken (guarded inside covers waits)
        have missing : start.Continues (useTokens env userId purpose next ids) := .lock none inside
        refine ih missing (fun key => .inr ∘ covers key)
          (settled.lock tokenConditional_monotone waits.moves _) (here.skip ?_)
        intro token present
        cases absent.symm.trans present
      · intro row now waits inv present
        have here := outstanding.of_noToken (guarded inside covers waits)
        have locked := settled.lock tokenConditional_monotone waits.moves (.emailToken id)
        have found := Program.Continues.lock (some row) inside
        have more : ∀ key, base key → key = .emailToken id ∨ held key :=
          fun key => .inr ∘ covers key
        dsimp only at found ⊢
        split
        · rename_i accepted
          rw [if_pos accepted] at found
          intro later laterWaits laterInv
          have there := here.of_noToken (guarded found more laterWaits)
          have unused := (EmailTokenRow.unusedOf_iff.mp accepted).2.2
          have same : AccountStore.emailToken (replay later log) id = some row :=
            (laterWaits.moves.lookup_replay (.inl rfl) log).trans present
          have unconsumed : row.consumed ≤ 1 :=
            ((locked now .refl inv).1.consumed present).1
          refine ih (.write found) more ?_ (there.use fun same => by cases same)
          exact settled_used (locked.moves laterWaits.moves) (.inl rfl) same rfl
            (fun same => by cases same) unconsumed
        · rename_i refused
          rw [if_neg refused] at found
          refine ih found more locked (here.skip ?_)
          intro token known
          cases present.symm.trans known
          exact Bool.eq_false_iff.mpr refused

/-! ## A new token -/

/-- The user stays, and while he has no reset token so do his resets. -/
theorem user_of_waits {program : AccountHandler} (guarded : Guarded start base userId purpose)
    (continues : start.Continues program) (covers : ∀ key, base key → held key)
    (outstanding : Outstanding userId purpose [] log rows)
    (fresh : purpose = .resetPassword → log = [])
    (waits : tokenConditional.Waits program held rows later) {user : UserRow}
    (here : rows.user userId = some user) :
    ∃ new, later.user userId = some new ∧
      (purpose = .resetPassword → new.resets = user.resets) := by
  induction waits with
  | refl => exact ⟨user, here, fun _ => rfl⟩
  | tail before commit ih =>
      rcases ih with ⟨middle, present, same⟩
      rcases commit with ⟨⟨other, -, -, kept, -⟩, -⟩
      rcases kept.user present with ⟨new, found, resets⟩
      refine ⟨new, found, fun reset => ?_⟩
      rcases resets with unchanged | ⟨id, token, known, unused⟩
      · exact unchanged.trans (same reset)
      · have listed := outstanding.of_noToken (guarded continues covers before)
        rw [fresh reset] at listed
        rw [← reset] at unused
        cases listed id token known unused

/-- What a new token of the user has to be issued on. -/
def Issuable (userId : Uuid) (purpose : Purpose) (resets : Nat) (log : List (Sigma AccountRow))
    (rows : AccountStore) : Prop :=
  ∃ user, AccountStore.user (replay rows log) userId = some user ∧
    (purpose = .resetPassword → resets = user.resets)

theorem Issuable.waits {program : AccountHandler} {resets : Nat}
    (issuable : Issuable userId purpose resets log rows)
    (guarded : Guarded start base userId purpose) (continues : start.Continues program)
    (covers : ∀ key, base key → held key) (outstanding : Outstanding userId purpose [] log rows)
    (fresh : purpose = .resetPassword → log = [])
    (waits : tokenConditional.Waits program held rows later) :
    Issuable userId purpose resets log later := by
  rcases issuable with ⟨user, present, same⟩
  by_cases written : ∃ version ∈ log, version.1 = .user userId
  · exact ⟨user, (lookup_replay_of_written written later rows).trans present, same⟩
  · have unwritten : ∀ version ∈ log, version.1 ≠ .user userId :=
      fun version member same => written ⟨version, member, same⟩
    have here : rows.user userId = some user :=
      (lookup_replay_of_unwritten rows unwritten).symm.trans present
    rcases user_of_waits guarded continues covers outstanding fresh waits here with
      ⟨new, found, resetsKept⟩
    refine ⟨new, (lookup_replay_of_unwritten later unwritten).trans found, fun reset => ?_⟩
    exact (same reset).trans (resetsKept reset).symm

theorem sound_insertEmailToken {env : AccountEnvironment} {time : Timestamp} {hours : Nat}
    {token : String} {result : AccountResponse} (guarded : Guarded start base userId purpose)
    (inside : start.Continues (insertEmailToken env time userId purpose hours token result))
    (covers : ∀ key, base key → held key) (settled : tokenConditional.Settled held log rows)
    (outstanding : Outstanding userId purpose [] log rows)
    (locked : purpose = .verifyEmail → base (.user userId))
    (fresh : purpose = .resetPassword → log = []) :
    tokenConditional.Sound (insertEmailToken env time userId purpose hours token result) held log
      rows := by
  apply Conditional.Sound.lock
  · intro first firstWaits firstInv absent
    have selecting := Program.Continues.lock none inside
    have one := outstanding.of_noToken (guarded inside covers firstWaits)
    have more : ∀ key, base key → key = .emailToken env.newEmailToken ∨ held key :=
      fun key => .inr ∘ covers key
    intro second secondWaits secondInv
    have two := one.of_noToken (guarded selecting more secondWaits)
    have writing := Program.Continues.select (replay second log) selecting
    dsimp only at writing ⊢
    split
    · trivial
    · rename_i user owned
      rw [owned] at writing
      dsimp only at writing
      split
      · trivial
      · rename_i unique
        rw [if_neg unique] at writing
        intro third thirdWaits thirdInv fourth fourthWaits fourthInv _
        have three := two.of_noToken (guarded writing more thirdWaits)
        have committing := Program.Continues.write writing
        have four := three.of_noToken (guarded committing more fourthWaits)
        have issuable : Issuable userId purpose user.resets log second :=
          ⟨user, owned, fun _ => rfl⟩
        have still := (issuable.waits guarded writing more two fresh thirdWaits).waits guarded
          committing more three fresh fourthWaits
        rcases still with ⟨owner, found, resets⟩
        have moves := secondWaits.moves.trans (thirdWaits.moves.trans fourthWaits.moves)
        have settledNow := (settled.lock tokenConditional_monotone firstWaits.moves
          (.emailToken env.newEmailToken)).moves moves
        rcases settledNow fourth .refl fourthInv with ⟨sound, kept⟩
        rw [replay_append]
        refine ⟨sound.insert_fresh found rfl resets ?_, TokensKept.insert kept ?_⟩
        · intro other known present
          apply Bool.eq_false_iff.mpr
          intro unused
          cases four other known present unused
        · exact fun verification _ => more _ (locked verification)
  · intros
    trivial

end

theorem sound_commitTokens (settled : tokenConditional.Settled held log rows)
    (result : AccountResponse) : tokenConditional.Sound (.commit result) held log rows :=
  fun now waits inv _ => settled now waits.moves inv

theorem sound_purge (settled : tokenConditional.Settled held log rows) (userId : Uuid) :
    tokenConditional.Sound (purgeSessions userId) held log rows := by
  have deletes (ids : List Uuid) {held : AccountKey → Prop} {log : List (Sigma AccountRow)}
      {rows : AccountStore} (settled : tokenConditional.Settled held log rows) :
      tokenConditional.Sound (deleteSessions userId ids) held log rows := by
    induction ids generalizing held log rows with
    | nil => exact sound_commitTokens settled _
    | cons id ids ih =>
        intro now waits inv
        have locked := settled.lock tokenConditional_monotone waits.moves (.session id)
        dsimp only
        split
        · split
          · intro later laterWaits laterInv
            exact ih (settled_account (locked.moves laterWaits.moves) fun last _ _ sound =>
              ⟨sound.insert_quiet _ _ fun _ =>
                ⟨(fun same => by cases same), fun same => by cases same⟩, trivial⟩)
          · exact ih locked
        · exact ih locked
  intro now waits inv
  exact deletes _ (settled.moves waits.moves)

/-! ## `register` and `verify_email` -/

section

variable (env : AccountEnvironment)

theorem sound_issueVerification {start : AccountHandler} {userId : Uuid}
    (inside : start.Continues (issueVerification env userId)) (holds : held (.user userId))
    (settled : tokenConditional.Settled held log rows)
    (outstanding : Outstanding userId .verifyEmail [] log rows) :
    tokenConditional.Sound (issueVerification env userId) held log rows := by
  unfold issueVerification at inside ⊢
  split
  · trivial
  · rename_i token drawn
    rw [drawn] at inside
    exact sound_insertEmailToken (guarded_of_lock start userId) inside
      (fun key same => same.symm ▸ holds) settled outstanding (fun _ => rfl)
      fun same => by cases same

theorem sound_registerAgain (email : String) :
    tokenConditional.Sound (registerAgain env email) held [] rows := by
  apply Conditional.Sound.lockWhere
  · intros
    trivial
  · intro userId user now moves inv present accepted
    dsimp only
    split
    · trivial
    · intro later waits laterInv
      refine sound_useTokens (guarded_of_lock _ userId) .refl (fun key => .inl)
        settled_email_nil ?_ ?_
      · intro id token here unused
        exact List.mem_filterMap.mpr ⟨(id, token), AccountStore.mem_emailTokens.mpr here,
          if_pos unused⟩
      · intro held log rows inside covers settled outstanding
        exact sound_issueVerification env inside (covers _ rfl) settled outstanding

/-- A user who is not there has no tokens. -/
theorem outstanding_of_absent {userId : Uuid} {purpose : Purpose} (sound : TokensSound rows)
    (absent : rows.user userId = none) : Outstanding userId purpose [] [] rows := by
  intro id token here unused
  rcases sound.housed here with ⟨user, owned⟩
  rw [(EmailTokenRow.unusedOf_iff.mp unused).1, absent] at owned
  cases owned

/-- The new user with his token. -/
theorem sound_createUser (user : UserRow) (holds : held (.user env.newUser))
    (absent : rows.user env.newUser = none) :
    tokenConditional.Sound (.write (.user env.newUser) user
      (.write (.email user.email) env.newUser (issueVerification env env.newUser))) held []
      rows := by
  intro first firstWaits firstInv second secondWaits secondInv
  have missing : AccountStore.user second env.newUser = none :=
    (secondWaits.moves.lookup holds).trans ((firstWaits.moves.lookup holds).trans absent)
  have unsettled : tokenConditional.Settled held [] second := settled_email_nil
  have created : tokenConditional.Settled held ([] ++ [⟨.user env.newUser, user⟩]) second := by
    refine settled_account unsettled ?_
    intro last moves lastInv _
    have still : AccountStore.user last env.newUser = none := (moves.lookup holds).trans missing
    refine ⟨lastInv.insert_user ?_, ?_⟩
    · intro tokenId token here unused
      cases outstanding_of_absent lastInv still tokenId token here unused
    · intro old here
      cases still.symm.trans here
  have indexed : tokenConditional.Settled held
      ([] ++ [⟨.user env.newUser, user⟩] ++ [⟨.email user.email, env.newUser⟩]) second :=
    settled_account created fun last _ _ sound =>
      ⟨sound.insert_quiet _ _ (fun _ => ⟨nofun, nofun⟩), trivial⟩
  have alone : (issueVerification env env.newUser).Continues (issueVerification env env.newUser) :=
    .refl
  exact sound_issueVerification env alone holds indexed
    (((outstanding_of_absent secondInv missing).write (.user env.newUser) user fun _ => nofun).write
      (.email user.email) env.newUser fun _ => nofun)

theorem sound_insertUser (user : UserRow) :
    tokenConditional.Sound (insertUser env user) held [] rows := by
  intro now waits inv
  dsimp only
  split
  · exact sound_registerAgain env user.email
  · apply Conditional.Sound.lock
    · intro first firstWaits firstInv free
      apply Conditional.Sound.lock
      · intro second secondWaits secondInv absent
        exact sound_createUser env user (.inl rfl) absent
      · intros
        trivial
    · intro id first firstWaits firstInv found last lastWaits lastInv _
      exact ⟨⟨lastInv, TokensKept.refl last⟩, sound_registerAgain env user.email⟩

theorem sound_register (request : RegisterRequest) :
    tokenConditional.Sound (register env request) held [] rows := by
  unfold register
  split
  · trivial
  split
  · trivial
  split
  · trivial
  split
  · trivial
  · exact sound_insertUser env _

/-- A token that is consumed, and what may then be done for its user. -/
theorem sound_consumeToken (token : String) (purpose : Purpose) {next : Uuid → AccountHandler}
    (rest : ∀ {id : Uuid} {row : EmailTokenRow} {held : AccountKey → Prop} {rows : AccountStore},
      held (.emailToken id) → rows.emailToken id = some row →
      row.unusedOf row.userId purpose = true →
      tokenConditional.Settled held [⟨.emailToken id,
        { row with usedAt := some env.now, consumed := row.consumed + 1 }⟩] rows →
      tokenConditional.Sound (next row.userId) held [⟨.emailToken id,
        { row with usedAt := some env.now, consumed := row.consumed + 1 }⟩] rows) :
    tokenConditional.Sound (consumeToken env token purpose next) held [] rows := by
  apply Conditional.Sound.lockWhere
  · intros
    trivial
  · intro id row now moves inv present accepted later waits laterInv
    unfold EmailTokenRow.consumable at accepted
    rcases of_decide_eq_true accepted with ⟨-, samePurpose, unused, -⟩
    have here : AccountStore.emailToken later id = some row :=
      (waits.moves.lookup (.inl rfl)).trans present
    have unconsumed : row.consumed = 0 := (laterInv.consumed here).2 unused
    have unsettled : tokenConditional.Settled (fun other => other = .emailToken id ∨ held other) []
        later := settled_email_nil
    refine rest (.inl rfl) here
      (EmailTokenRow.unusedOf_iff.mpr ⟨rfl, samePurpose, unused⟩) ?_
    exact settled_used unsettled (.inl rfl) here rfl nofun
      (Nat.le_of_eq (congrArg (· + 1) unconsumed))

theorem sound_verifyEmail (token : String) :
    tokenConditional.Sound (verifyEmail env token) held [] rows := by
  refine sound_consumeToken env token .verifyEmail ?_
  intro id row held rows holds here unused settled
  apply Conditional.Sound.lockWhere
  · intro more now less moves inv
    exact sound_commitTokens ((settled.moves moves).mono tokenConditional_monotone less) _
  · intro userId user now moves inv present accepted later waits laterInv
    refine sound_commitTokens (settled_account
      ((settled.lock tokenConditional_monotone moves (.user userId)).moves waits.moves) ?_) _
    intro last lastMoves lastInv sound
    have same : AccountStore.user (replay last _) userId = some user :=
      (lastMoves.lookup_replay (.inl rfl) _).trans
        ((waits.moves.lookup_replay (.inl rfl) _).trans present)
    refine ⟨sound.insert_user ?_, ?_⟩
    · intro tokenId other known outstanding
      rcases EmailTokenRow.unusedOf_iff.mp outstanding with ⟨owner, reset, free⟩
      have current : other.resets = user.resets :=
        sound.current known reset free (owner.symm ▸ same)
      exact current
    · intro old known
      cases same.symm.trans known
      exact .inl rfl

/-! ## `forgot_password` and `reset_password` -/

theorem sound_issueReset (userId : Uuid) (token : String) :
    tokenConditional.Sound (issueReset env userId token) held [] rows := by
  intro now waits inv
  refine sound_useTokens (guarded_of_replacing ⟨env, token, _, .refl⟩) .refl (fun _ => False.elim)
    settled_email_nil ?_ ?_
  · intro id row here unused
    exact List.mem_filterMap.mpr ⟨(id, row), AccountStore.mem_emailTokens.mpr here, if_pos unused⟩
  · intro held log rows inside covers settled outstanding later laterWaits laterInv _
    have guarded : Guarded (.commitThen _) (fun _ => False) userId .resetPassword :=
      guarded_of_replacing ⟨env, token, _, inside⟩
    have there := outstanding.of_noToken (guarded .refl covers laterWaits)
    refine ⟨settled later laterWaits.moves laterInv, ?_⟩
    exact sound_insertEmailToken guarded (.commitThen .refl) (fun _ => id) settled_email_nil there
      nofun (fun _ => rfl)

theorem sound_forgotPassword (address : String) :
    tokenConditional.Sound (forgotPassword env address) held [] rows := by
  unfold forgotPassword
  split
  · trivial
  split
  · trivial
  · intro now waits inv
    dsimp only
    split
    · exact sound_commitTokens settled_email_nil _
    split
    · trivial
    · exact sound_issueReset env _ _

/-- The token that is consumed was the only one, so a reset leaves none. -/
theorem single_resetPassword (token password : String) :
    tokenConditional.Sound (resetPassword env token password) held [] rows := by
  unfold resetPassword
  split
  · trivial
  split
  · trivial
  · refine sound_consumeToken env token .resetPassword ?_
    intro id row held rows holds here unused settled
    apply Conditional.Sound.lock
    · intro now waits inv _
      exact sound_purge (settled.lock tokenConditional_monotone waits.moves _) _
    · intro user now waits inv present later laterWaits laterInv
      refine sound_purge (settled_account
        ((settled.lock tokenConditional_monotone waits.moves _).moves laterWaits.moves) ?_) _
      intro last moves lastInv sound
      have still : AccountStore.emailToken last id = some row :=
        (moves.lookup (.inr holds)).trans ((laterWaits.moves.lookup (.inr holds)).trans
          ((waits.moves.lookup holds).trans here))
      refine ⟨sound.insert_user ?_, fun _ _ => .inr ⟨id, row, still, unused⟩⟩
      intro other found known outstanding
      rw [← List.nil_append [_], replay_append, AccountStore.emailToken_insert] at known
      split at known
      · cases known
        cases (EmailTokenRow.unusedOf_iff.mp outstanding).2.2
      · rename_i apart
        rcases EmailTokenRow.unusedOf_iff.mp outstanding with ⟨owner, reset, free⟩
        rcases EmailTokenRow.unusedOf_iff.mp unused with ⟨-, purpose, unusedToo⟩
        exact absurd (lastInv.single known still free unusedToo owner (reset.trans purpose.symm))
          apart

end

/-! ## Single tokens -/

/-- The requests of `register`, `verify_email`, `forgot_password` and
`reset_password`. -/
inductive IsTokenRequest : AccountHandler → Prop
  | register (env : AccountEnvironment) (request : RegisterRequest) :
      IsTokenRequest (register env request)
  | verifyEmail (env : AccountEnvironment) (token : String) : IsTokenRequest (verifyEmail env token)
  | forgotPassword (env : AccountEnvironment) (address : String) :
      IsTokenRequest (forgotPassword env address)
  | resetPassword (env : AccountEnvironment) (token password : String) :
      IsTokenRequest (resetPassword env token password)

theorem sound_of_isTokenRequest {handler : AccountHandler} (isTokenRequest : IsTokenRequest handler)
    {held : AccountKey → Prop} {rows : AccountStore} :
    tokenConditional.Sound handler held [] rows := by
  cases isTokenRequest with
  | register env request => exact sound_register env request
  | verifyEmail env token => exact sound_verifyEmail env token
  | forgotPassword env address => exact sound_forgotPassword env address
  | resetPassword env token password => exact single_resetPassword env token password

/-- The token is accepted by `consume_token` at a time. -/
def EmailTokenRow.accepted (row : EmailTokenRow) (time : Timestamp) : Prop :=
  row.usedAt = none ∧ row.expiresAt > time

/-- At most one token of a user and a purpose is accepted at any time, no token
is consumed twice, and no reset token from before the last reset is accepted. -/
structure TokensSingle (rows : AccountStore) : Prop where
  single : ∀ {id other : Uuid} {first second : EmailTokenRow} {time : Timestamp},
    rows.emailToken id = some first → rows.emailToken other = some second →
    first.accepted time → second.accepted time → first.userId = second.userId →
    first.purpose = second.purpose → id = other
  consumed : ∀ {id : Uuid} {token : EmailTokenRow}, rows.emailToken id = some token →
    token.consumed ≤ 1
  current : ∀ {id : Uuid} {token : EmailTokenRow} {user : UserRow} {time : Timestamp},
    rows.emailToken id = some token → token.purpose = .resetPassword → token.accepted time →
    rows.user token.userId = some user → token.resets = user.resets

/-- In every run that meets the condition, the tokens are single. -/
theorem tokensSingle_of_runs {τ : Type} [DecidableEq τ] {rows : AccountStore}
    (inv : TokensSound rows) {system : System τ AccountRow ApiError AccountResponse}
    (run : ReflTransGen (fun before after => System.Step IsTokenRequest before after ∧
      System.Meets tokenConditional before after) { rows } system) : TokensSingle system.rows := by
  have start : tokenConditional.Inv rows := inv
  have sound := System.inv_of_meeting_runs start
    (fun _ isTokenRequest _ _ => sound_of_isTokenRequest isTokenRequest) run
  refine ⟨?_, fun here => (sound.consumed here).1, ?_⟩
  · intro id other first second time here there one two
    exact sound.single here there one.1 two.1
  · intro id token user time here reset accepted owned
    exact sound.current here reset accepted.1 owned

/-! ## Two runs -/

theorem resettableStore_sound : TokensSound resettableStore := by
  have listed : ∀ entry ∈ AccountStore.emailTokens resettableStore, entry.1 = accountUuid ∧
      entry.2.userId = accountUuid ∧ entry.2.consumed = 0 ∧ entry.2.resets = 0 := by
    decide +kernel
  have owner : AccountStore.user resettableStore accountUuid = some accountUser := by
    decide +kernel
  have known {id : Uuid} {token : EmailTokenRow}
      (here : resettableStore.emailToken id = some token) :=
    listed _ (AccountStore.mem_emailTokens.mpr here)
  refine ⟨?_, ?_, ?_, ?_⟩
  · intro id token here
    rw [(known here).2.1]
    exact ⟨accountUser, owner⟩
  · intro id other first second here there _ _ _ _
    exact (known here).1.trans (known there).1.symm
  · intro id token here
    have unconsumed : token.consumed = 0 := (known here).2.2.1
    rw [unconsumed]
    exact ⟨Nat.zero_le 1, fun _ => rfl⟩
  · intro id token user here _ _ owned
    rw [(known here).2.1] at owned
    cases owner.symm.trans owned
    exact (known here).2.2.2

theorem tokenConditional_reflexive : tokenConditional.Reflexive :=
  fun _ => ⟨trivial, fun _ _ _ => ⟨fun here _ => here⟩⟩

def accountForgot (number : UInt8) (token : String) : AccountHandler :=
  forgotPassword (accountEnvironment number 1000000 token) "user@example.org"

/-- The user asks for a new reset token twice, and the second request starts when
the first one has ended: only the second token is accepted. -/
theorem tokensSingle_forgot :
    ∃ system : System Unit AccountRow ApiError AccountResponse,
      ReflTransGen (fun before after => System.Step IsTokenRequest before after ∧
        System.Meets tokenConditional before after) { rows := resettableStore } system ∧
      (∃ id token other replaced, AccountStore.emailToken system.rows id = some token ∧
        token.tokenHash = utf8 "second" ∧ token.accepted 2000000 ∧
        AccountStore.emailToken system.rows other = some replaced ∧
        replaced.tokenHash = utf8 "first" ∧ replaced.usedAt ≠ none) ∧
      TokensSingle system.rows := by
  have issues : (System.finishAll (fun _ _ => true) 16
      [accountForgot 1 "first", accountForgot 2 "second"] { rows := resettableStore }).any
        (fun (system : System Unit AccountRow ApiError AccountResponse) => decide
          (∃ one ∈ AccountStore.emailTokens system.rows,
            ∃ two ∈ AccountStore.emailTokens system.rows, one.2.tokenHash = utf8 "second" ∧
              (one.2.usedAt = none ∧ one.2.expiresAt > 2000000) ∧
              two.2.tokenHash = utf8 "first" ∧ two.2.usedAt ≠ none)) = true := by decide +kernel
  rcases Option.any_eq_true .. |>.mp issues with ⟨system, finished, found⟩
  rcases of_decide_eq_true found with
    ⟨⟨id, token⟩, here, ⟨other, replaced⟩, there, second, accepted, first, used⟩
  have admitted : ∀ program ∈ [accountForgot 1 "first", accountForgot 2 "second"],
      IsTokenRequest program := by
    simp only [List.forall_mem_cons]
    exact ⟨.forgotPassword .., .forgotPassword .., nofun⟩
  have run := System.meeting_of_finishAll tokenConditional_reflexive (fun _ _ _ => trivial)
    admitted finished
  exact ⟨system, run, ⟨id, token, other, replaced, AccountStore.mem_emailTokens.mp here, second,
    accepted, AccountStore.mem_emailTokens.mp there, first, used⟩,
    tokensSingle_of_runs resettableStore_sound run⟩

/-- The user asks for a new reset token twice at the same time. -/
def forgetting : System Bool AccountRow ApiError AccountResponse :=
  (({ rows := resettableStore } : System Bool AccountRow ApiError AccountResponse).resume false
    (accountForgot 1 "first")).resume true (accountForgot 2 "second")

/-- Both take the snapshots of their updates before either inserts its token. -/
def forgettingOrder : List Bool :=
  [false, false, true, true] ++ List.replicate 7 false ++ List.replicate 6 true

theorem two_reset_tokens :
    TokensSound resettableStore ∧
    ∃ system : System Bool AccountRow ApiError AccountResponse,
      ReflTransGen (System.Step IsTokenRequest) { rows := resettableStore } system ∧
      ∃ id other first second, id ≠ other ∧
        AccountStore.emailToken system.rows id = some first ∧
        AccountStore.emailToken system.rows other = some second ∧
        first.userId = second.userId ∧ first.purpose = second.purpose ∧
        first.accepted 2000000 ∧ second.accepted 2000000 := by
  have both : (forgetting.schedule forgettingOrder).any
      (fun (system : System Bool AccountRow ApiError AccountResponse) =>
        decide (∃ one ∈ AccountStore.emailTokens system.rows,
        ∃ two ∈ AccountStore.emailTokens system.rows, one.1 ≠ two.1 ∧
          one.2.userId = two.2.userId ∧ one.2.purpose = two.2.purpose ∧
          (one.2.usedAt = none ∧ one.2.expiresAt > 2000000) ∧
          two.2.usedAt = none ∧ two.2.expiresAt > 2000000)) = true := by decide +kernel
  rcases Option.any_eq_true .. |>.mp both with ⟨system, scheduled, same⟩
  rcases of_decide_eq_true same with ⟨⟨id, first⟩, here, ⟨other, second⟩, there, apart, users,
    purposes, one, two⟩
  have started : ReflTransGen (System.Step IsTokenRequest) { rows := resettableStore } forgetting :=
    .tail (.single (.start rfl (.forgotPassword _ _))) (.start rfl (.forgotPassword _ _))
  exact ⟨resettableStore_sound, system, started.trans (System.runs_of_schedule scheduled), id,
    other, first, second, apart, AccountStore.mem_emailTokens.mp here,
    AccountStore.mem_emailTokens.mp there, users, purposes, one, two⟩

end YoAuthorize.Backend
