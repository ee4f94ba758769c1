import YoAuthorize.Backend.Store

/-!
# Accounts

The tables `users`, `email_tokens` and `web_sessions` of the backend
(`0001_initial.sql`) and the handlers over them (`routes.rs`): `register`,
`verify_email`, `login`, `logout`, `forgot_password`, `reset_password` and
`admin_update_user`.  A statement outside a transaction is a transaction of its
own (`commitThen`).  The entry of the unique index over the addresses is a row,
and a session that is deleted leaves an empty row.

Some fields are not columns: `resets` and `disables` of a user count the
committed requests that reset the password or disable the user, a session has
the counts that its login has read, a token has the resets at the time it was
issued, and `consumed` counts the uses of a token by `consume_token`.  The share
locks of foreign keys, the audit log and the mails are left out.
-/

namespace YoAuthorize.Backend

open Octets Crypto FlatBuffer License Transaction

/-! ## Rows -/

inductive UserStatus : Type
  | pending
  | active
  | disabled
  deriving DecidableEq, Repr

inductive UserRole : Type
  | user
  | admin
  deriving DecidableEq, Repr

structure UserRow : Type where
  email : String
  name : String
  passwordHash : String
  role : UserRole := .user
  status : UserStatus := .pending
  resets : Nat := 0
  disables : Nat := 0
  deriving DecidableEq

inductive Purpose : Type
  | verifyEmail
  | resetPassword
  deriving DecidableEq, Repr

structure EmailTokenRow : Type where
  userId : Uuid
  purpose : Purpose
  tokenHash : Bytes
  expiresAt : Timestamp
  usedAt : Option Timestamp := none
  consumed : Nat := 0
  resets : Nat := 0
  deriving DecidableEq

structure SessionRow : Type where
  userId : Uuid
  tokenHash : Bytes
  csrfHash : Bytes
  expiresAt : Timestamp
  resets : Nat := 0
  disables : Nat := 0
  deriving DecidableEq

inductive AccountKey : Type
  | email (address : String)
  | user (id : Uuid)
  | emailToken (id : Uuid)
  | session (id : Uuid)
  deriving DecidableEq

abbrev AccountRow : AccountKey → Type
  | .email _ => Uuid
  | .user _ => UserRow
  | .emailToken _ => EmailTokenRow
  | .session _ => Option SessionRow

abbrev AccountStore : Type := AList AccountRow

/-- `noContent` of a request that has deleted the sessions of a user is `purged`,
and `accepted` of a `forgot_password` that has issued a token is `issued`. -/
inductive AccountResponse : Type
  | accepted
  | issued (userId : Uuid)
  | loggedIn (session csrf : String)
  | noContent
  | purged (userId : Uuid)
  deriving DecidableEq

abbrev AccountHandler : Type := Program AccountRow ApiError AccountResponse

namespace AccountStore

section

variable (rows : AccountStore)

def user (id : Uuid) : Option UserRow := rows.lookup (.user id)

def emailToken (id : Uuid) : Option EmailTokenRow := rows.lookup (.emailToken id)

def session (id : Uuid) : Option SessionRow := (rows.lookup (.session id)).join

end

def users (rows : AccountStore) : List (Uuid × UserRow) :=
  rows.entries.filterMap fun
    | ⟨.user id, row⟩ => some (id, row)
    | _ => none

def emailTokens (rows : AccountStore) : List (Uuid × EmailTokenRow) :=
  rows.entries.filterMap fun
    | ⟨.emailToken id, row⟩ => some (id, row)
    | _ => none

def sessions (rows : AccountStore) : List (Uuid × SessionRow) :=
  rows.entries.filterMap fun
    | ⟨.session id, some row⟩ => some (id, row)
    | _ => none

def findUser (rows : AccountStore) (test : UserRow → Bool) : Option (Uuid × UserRow) :=
  rows.users.find? fun entry => test entry.2

def findEmailToken (rows : AccountStore) (test : EmailTokenRow → Bool) : Option Uuid :=
  (rows.emailTokens.find? fun entry => test entry.2).map Prod.fst

theorem mem_emailTokens {rows : AccountStore} {id : Uuid} {row : EmailTokenRow} :
    (id, row) ∈ rows.emailTokens ↔ rows.emailToken id = some row := by
  rw [emailTokens, List.mem_filterMap]
  constructor
  · rintro ⟨⟨key, found⟩, member, same⟩
    cases key with
    | emailToken other =>
        cases same
        exact AList.mem_lookup_iff.mpr member
    | email | user | session => cases same
  · intro present
    exact ⟨⟨.emailToken id, row⟩, AList.mem_lookup_iff.mp present, rfl⟩

theorem session_eq_some {rows : AccountStore} {id : Uuid} {row : SessionRow} :
    rows.session id = some row ↔ rows.lookup (.session id) = some (some row) :=
  Option.join_eq_some_iff

theorem mem_sessions {rows : AccountStore} {id : Uuid} {row : SessionRow} :
    (id, row) ∈ rows.sessions ↔ rows.session id = some row := by
  rw [sessions, List.mem_filterMap, session_eq_some]
  constructor
  · rintro ⟨⟨key, found⟩, member, same⟩
    cases key with
    | session other =>
        cases found with
        | none => cases same
        | some row =>
            cases same
            exact AList.mem_lookup_iff.mpr member
    | email | user | emailToken => cases same
  · intro present
    exact ⟨⟨.session id, some row⟩, AList.mem_lookup_iff.mp present, rfl⟩

end AccountStore

/-! ## A write to one table leaves the others -/

section

variable (rows : AccountStore) {key : AccountKey} (row : AccountRow key)

theorem AccountStore.user_insert_of_ne {id : Uuid} (apart : key ≠ .user id) :
    AccountStore.user (rows.insert key row) id = rows.user id :=
  AList.lookup_insert_ne apart.symm

theorem AccountStore.emailToken_insert_of_ne {id : Uuid} (apart : key ≠ .emailToken id) :
    AccountStore.emailToken (rows.insert key row) id = rows.emailToken id :=
  AList.lookup_insert_ne apart.symm

@[simp] theorem AccountStore.emailToken_insert_user (id other : Uuid) (user : UserRow) :
    AccountStore.emailToken (rows.insert (.user id) user) other = rows.emailToken other :=
  AList.lookup_insert_ne nofun

@[simp] theorem AccountStore.user_insert_emailToken (id other : Uuid) (token : EmailTokenRow) :
    AccountStore.user (rows.insert (.emailToken id) token) other = rows.user other :=
  AList.lookup_insert_ne nofun

theorem AccountStore.user_insert (id other : Uuid) (user : UserRow) :
    AccountStore.user (rows.insert (.user id) user) other =
      if other = id then some user else rows.user other := by
  split
  · rename_i same
    rw [same]
    exact AList.lookup_insert rows
  · rename_i apart
    exact AList.lookup_insert_ne fun same => apart (AccountKey.user.inj same)

theorem AccountStore.emailToken_insert (id other : Uuid) (token : EmailTokenRow) :
    AccountStore.emailToken (rows.insert (.emailToken id) token) other =
      if other = id then some token else rows.emailToken other := by
  split
  · rename_i same
    rw [same]
    exact AList.lookup_insert rows
  · rename_i apart
    exact AList.lookup_insert_ne fun same => apart (AccountKey.emailToken.inj same)

end

/-! ## Checks -/

structure AccountEnvironment : Type where
  /-- `now()` of the transaction or the first statement. -/
  now : Timestamp
  /-- `now()` of the `INSERT` of `forgot_password`. -/
  issuedAt : Timestamp
  rateLimited : Bool
  newUser : Uuid
  newEmailToken : Uuid
  newSession : Uuid
  opaqueToken : Option String
  /-- The second token of `login`. -/
  csrfToken : Option String
  hashToken : String → Bytes
  hashPassword : String → Option String
  verifyPassword : String → String → Bool

/-- The `White_Space` property, which `str::trim` removes. -/
def isWhiteSpace (char : Char) : Bool :=
  (9 ≤ char.toNat ∧ char.toNat ≤ 13) ∨ char.toNat = 32 ∨ char.toNat = 0x85 ∨ char.toNat = 0xA0 ∨
    char.toNat = 0x1680 ∨ (0x2000 ≤ char.toNat ∧ char.toNat ≤ 0x200A) ∨ char.toNat = 0x2028 ∨
    char.toNat = 0x2029 ∨ char.toNat = 0x202F ∨ char.toNat = 0x205F ∨ char.toNat = 0x3000

def trim (text : String) : String :=
  String.ofList ((text.toList.dropWhile isWhiteSpace).reverse.dropWhile isWhiteSpace).reverse

/-- `split_once('@')` with a part before it and a dot after it. -/
def isAddress (value : String) : Bool :=
  let before := value.toList.takeWhile fun char => char ≠ '@'
  let rest := value.toList.dropWhile fun char => char ≠ '@'
  rest ≠ [] ∧ before ≠ [] ∧ '.' ∈ rest.drop 1

@[irreducible] def normalizeEmail (email : String) : Except ApiError String :=
  let value := String.ofList ((trim email).toList.map Char.toLower)
  if (utf8 value).length > 320 ∨ !isAddress value then
    .error (.bad "INVALID_EMAIL" "Enter a valid email address.")
  else .ok value

def unauthorized : ApiError := .refused 401 "UNAUTHORIZED" "Authentication required."

def noPermission : ApiError := .forbidden "FORBIDDEN" "You do not have permission to do that."

def invalidCredentials : ApiError :=
  .refused 401 "INVALID_CREDENTIALS" "Email or password is incorrect."

def invalidToken : ApiError := .bad "INVALID_TOKEN" "Token is invalid or expired."

/-- The `WHERE` of the session query of `principal`. -/
def SessionRow.acceptedAt (row : SessionRow) (tokenHash : Bytes) (time : Timestamp) : Bool :=
  row.tokenHash = tokenHash ∧ row.expiresAt > time

structure Principal : Type where
  userId : Uuid
  sessionId : Uuid
  session : SessionRow
  user : UserRow
  deriving DecidableEq

/-- The query of `principal`. -/
def AccountStore.findPrincipal (rows : AccountStore) (tokenHash : Bytes) (time : Timestamp) :
    Option Principal :=
  rows.sessions.findSome? fun (sessionId, session) =>
    if session.acceptedAt tokenHash time then
      match rows.user session.userId with
      | some user =>
          if user.status = .active then
            some { userId := session.userId, sessionId, session, user }
          else none
      | none => none
    else none

theorem findPrincipal_eq_some {rows : AccountStore} {tokenHash : Bytes} {time : Timestamp}
    {principal : Principal} (found : rows.findPrincipal tokenHash time = some principal) :
    rows.session principal.sessionId = some principal.session ∧
      rows.user principal.session.userId = some principal.user := by
  rcases List.exists_of_findSome?_eq_some found with ⟨⟨id, session⟩, member, same⟩
  dsimp only at same
  split at same
  · split at same
    · rename_i user present
      split at same
      · cases same
        exact ⟨AccountStore.mem_sessions.mp member, present⟩
      · cases same
    · cases same
  · cases same

/-- `principal` with the check of the token in the header. -/
def AccountStore.principal (rows : AccountStore) (env : AccountEnvironment)
    (cookie csrf : Option String) : Except ApiError Principal :=
  match cookie with
  | none => .error unauthorized
  | some token =>
      match rows.findPrincipal (env.hashToken token) env.now with
      | none => .error unauthorized
      | some principal =>
          if csrf.any fun supplied => env.hashToken supplied = principal.session.csrfHash then
            .ok principal
          else .error noPermission

/-! ## Statements -/

section

variable (env : AccountEnvironment)

/-- The `WHERE` of `consume_token`. -/
def EmailTokenRow.consumable (row : EmailTokenRow) (tokenHash : Bytes) (purpose : Purpose)
    (time : Timestamp) : Bool :=
  row.tokenHash = tokenHash ∧ row.purpose = purpose ∧ row.usedAt = none ∧ row.expiresAt > time

/-- The `WHERE` of the update that replaces tokens. -/
def EmailTokenRow.unusedOf (row : EmailTokenRow) (userId : Uuid) (purpose : Purpose) : Bool :=
  row.userId = userId ∧ row.purpose = purpose ∧ row.usedAt = none

def consumeToken (token : String) (purpose : Purpose) (next : Uuid → AccountHandler) :
    AccountHandler :=
  .lockWhere .emailToken
    (fun rows : AccountStore =>
      rows.findEmailToken (·.consumable (env.hashToken token) purpose env.now))
    (fun _ row => row.consumable (env.hashToken token) purpose env.now) fun
    | none => .rollback invalidToken
    | some ⟨id, row⟩ =>
        .write (.emailToken id) { row with usedAt := some env.now, consumed := row.consumed + 1 }
          (next row.userId)

/-- The update of the tokens one by one. -/
def useTokens (userId : Uuid) (purpose : Purpose) (next : AccountHandler) :
    List Uuid → AccountHandler
  | [] => next
  | id :: rest =>
      .lock (.emailToken id) fun
        | none => useTokens userId purpose next rest
        | some row =>
            if row.unusedOf userId purpose then
              .write (.emailToken id) { row with usedAt := some env.now }
                (useTokens userId purpose next rest)
            else useTokens userId purpose next rest

/-- `UPDATE email_tokens SET used_at=now() WHERE user_id=… AND purpose=… AND used_at IS NULL`. -/
def replaceTokens (userId : Uuid) (purpose : Purpose) (next : AccountHandler) : AccountHandler :=
  .select fun rows =>
    useTokens env userId purpose next
      ((AccountStore.emailTokens rows).filterMap fun entry =>
        if entry.2.unusedOf userId purpose then some entry.1 else none)

/-- The new token, which expires after the given hours. -/
def insertEmailToken (time : Timestamp) (userId : Uuid) (purpose : Purpose) (hours : Nat)
    (token : String) (result : AccountResponse) : AccountHandler :=
  .lock (.emailToken env.newEmailToken) fun
    | some _ => .rollback .internal
    | none =>
        .select fun rows =>
          match AccountStore.user rows userId with
          | none => .rollback .internal
          | some user =>
              if (AccountStore.findEmailToken rows fun other =>
                  other.tokenHash = env.hashToken token).isSome then .rollback .internal
              else
                .write (.emailToken env.newEmailToken)
                  { userId
                    purpose
                    tokenHash := env.hashToken token
                    expiresAt := time + hours * 3600 * 1000000
                    resets := user.resets }
                  (.commit result)

/-- The deletion of the sessions one by one. -/
def deleteSessions (userId : Uuid) : List Uuid → AccountHandler
  | [] => .commit (.purged userId)
  | id :: rest =>
      .lock (.session id) fun
        | some (some row) =>
            if row.userId = userId then .write (.session id) none (deleteSessions userId rest)
            else deleteSessions userId rest
        | _ => deleteSessions userId rest

/-- `DELETE FROM web_sessions WHERE user_id=…`, and the commit. -/
def purgeSessions (userId : Uuid) : AccountHandler :=
  .select fun rows =>
    deleteSessions userId ((AccountStore.sessions rows).filterMap fun entry =>
      if entry.2.userId = userId then some entry.1 else none)

/-! ## `register` and `verify_email` -/

structure RegisterRequest : Type where
  name : String
  email : String
  password : String
  deriving DecidableEq

def RegisterRequest.malformed (request : RegisterRequest) : Bool :=
  trim request.name = "" ∨ (utf8 request.name).length > 200 ∨
    (utf8 request.password).length < 10 ∨ (utf8 request.password).length > 1024

/-- The verification token at the end of `register`. -/
def issueVerification (userId : Uuid) : AccountHandler :=
  match env.opaqueToken with
  | none => .rollback .internal
  | some token => insertEmailToken env env.now userId .verifyEmail 24 token .accepted

/-- The replacement for an address that is already there. -/
def registerAgain (email : String) : AccountHandler :=
  .lockWhere .user
    (fun rows : AccountStore => (rows.findUser fun user => user.email = email).map Prod.fst)
    (fun _ user => user.email = email) fun
    | none => .rollback .internal
    | some ⟨userId, user⟩ =>
        if user.status ≠ .pending then
          .rollback (.conflict "EMAIL_EXISTS" "An account already exists for this email.")
        else replaceTokens env userId .verifyEmail (issueVerification env userId)

/-- `INSERT INTO users … ON CONFLICT DO NOTHING`: it waits for the entry of the
index, and keeps it only if it is new. -/
def insertUser (user : UserRow) : AccountHandler :=
  .select fun rows =>
    if (rows.lookup (.email user.email)).isSome then registerAgain env user.email
    else
      .lock (.email user.email) fun
        | some _ => .commitThen (registerAgain env user.email)
        | none =>
            .lock (.user env.newUser) fun
              | some _ => .rollback .internal
              | none =>
                  .write (.user env.newUser) user
                    (.write (.email user.email) env.newUser (issueVerification env env.newUser))

def register (request : RegisterRequest) : AccountHandler :=
  match normalizeEmail request.email with
  | .error error => .rollback error
  | .ok email =>
      if request.malformed then
        .rollback (.bad "INVALID_REGISTRATION"
          "Name and a password of at least 10 characters are required.")
      else if env.rateLimited then .rollback .rateLimited
      else
        match env.hashPassword request.password with
        | none => .rollback .internal
        | some passwordHash => insertUser env { email, name := trim request.name, passwordHash }

def verifyEmail (token : String) : AccountHandler :=
  consumeToken env token .verifyEmail fun userId =>
    .lockWhere .user
      (fun rows : AccountStore =>
        if (rows.user userId).any fun user => user.status = .pending then some userId else none)
      (fun _ user => user.status = .pending) fun
      | none => .commit .noContent
      | some ⟨id, user⟩ => .write (.user id) { user with status := .active } (.commit .noContent)

/-! ## `login` and `logout` -/

def insertSession (userId : Uuid) (user : UserRow) (token csrf : String) : AccountHandler :=
  .lock (.session env.newSession) fun
    | some (some _) => .rollback .internal
    | _ =>
        .select fun rows =>
          if (AccountStore.user rows userId).isNone ∨
              (AccountStore.sessions rows).any (fun entry =>
                entry.2.tokenHash = env.hashToken token) then .rollback .internal
          else
            .write (.session env.newSession)
              (some
                { userId
                  tokenHash := env.hashToken token
                  csrfHash := env.hashToken csrf
                  expiresAt := env.now + 12 * 3600 * 1000000
                  resets := user.resets
                  disables := user.disables })
              (.commit (.loggedIn token csrf))

def login (address password : String) : AccountHandler :=
  match normalizeEmail address with
  | .error error => .rollback error
  | .ok email =>
      if env.rateLimited then .rollback .rateLimited
      else
        .select fun rows =>
          match AccountStore.findUser rows fun user => user.email = email with
          | none => .rollback invalidCredentials
          | some (userId, user) =>
              if !env.verifyPassword user.passwordHash password then .rollback invalidCredentials
              else if user.status ≠ .active then .rollback noPermission
              else
                match env.opaqueToken, env.csrfToken with
                | some token, some csrf => insertSession env userId user token csrf
                | _, _ => .rollback .internal

def logout (cookie csrf : Option String) : AccountHandler :=
  .select fun rows =>
    match AccountStore.principal rows env cookie csrf with
    | .error error => .rollback error
    | .ok principal =>
        .lock (.session principal.sessionId) fun
          | some (some _) => .write (.session principal.sessionId) none (.commit .noContent)
          | _ => .commit .noContent

/-! ## `forgot_password` and `reset_password` -/

/-- The two statements that replace the reset token of a user. -/
def issueReset (userId : Uuid) (token : String) : AccountHandler :=
  replaceTokens env userId .resetPassword
    (.commitThen
      (insertEmailToken env env.issuedAt userId .resetPassword 1 token (.issued userId)))

def forgotPassword (address : String) : AccountHandler :=
  match normalizeEmail address with
  | .error error => .rollback error
  | .ok email =>
      if env.rateLimited then .rollback .rateLimited
      else
        .select fun rows =>
          match AccountStore.findUser rows fun user =>
              user.email = email ∧ user.status = .active with
          | none => .commit .accepted
          | some (userId, _) =>
              match env.opaqueToken with
              | none => .rollback .internal
              | some token => issueReset env userId token

def resetPassword (token password : String) : AccountHandler :=
  if (utf8 password).length < 10 ∨ (utf8 password).length > 1024 then
    .rollback (.bad "WEAK_PASSWORD" "Password must contain at least 10 characters.")
  else
    match env.hashPassword password with
    | none => .rollback .internal
    | some passwordHash =>
        consumeToken env token .resetPassword fun userId =>
          .lock (.user userId) fun
            | none => purgeSessions userId
            | some user =>
                .write (.user userId) { user with passwordHash, resets := user.resets + 1 }
                  (purgeSessions userId)

/-! ## `admin_update_user` -/

/-- The status of the request; `suspended` means `disabled`. -/
def parseStatus : String → Option UserStatus
  | "pending" => some .pending
  | "active" => some .active
  | "disabled" | "suspended" => some .disabled
  | _ => none

def parseRole : String → Option UserRole
  | "user" => some .user
  | "admin" => some .admin
  | _ => none

structure UpdateUser : Type where
  status : Option String
  role : Option String
  deriving DecidableEq

def UpdateUser.malformed (input : UpdateUser) : Bool :=
  input.status.any (fun status => (parseStatus status).isNone) ∨
    input.role.any fun role => (parseRole role).isNone

/-- The update of the row; a field that is not given stays. -/
def UserRow.updated (user : UserRow) (status : Option UserStatus) (role : Option UserRole) :
    UserRow :=
  { user with
    status := status.getD user.status
    role := role.getD user.role
    disables := if status = some .disabled then user.disables + 1 else user.disables }

def updateUser (id : Uuid) (status : Option UserStatus) (role : Option UserRole) :
    AccountHandler :=
  let next : AccountHandler :=
    if status = some .disabled then purgeSessions id else .commit .noContent
  .lock (.user id) fun
    | none => next
    | some user => .write (.user id) (user.updated status role) next

def adminUpdateUser (cookie csrf : Option String) (id : Uuid) (input : UpdateUser) :
    AccountHandler :=
  .select fun rows =>
    match AccountStore.principal rows env cookie csrf with
    | .error error => .rollback error
    | .ok actor =>
        if actor.user.role ≠ .admin then .rollback noPermission
        else if input.malformed then
          .rollback (.bad "INVALID_USER_UPDATE" "Invalid role or status.")
        else updateUser id (input.status.bind parseStatus) (input.role.bind parseRole)

end

/-! ## A small server -/

/-- The libraries of a small server: a token is its own hash. -/
def accountEnvironment (number : UInt8) (now : Timestamp) (token : String) :
    AccountEnvironment where
  now := now
  issuedAt := now
  rateLimited := false
  newUser := ⟨List.replicate 15 0 ++ [number], rfl⟩
  newEmailToken := ⟨List.replicate 15 0 ++ [number], rfl⟩
  newSession := ⟨List.replicate 15 0 ++ [number], rfl⟩
  opaqueToken := some token
  csrfToken := some "csrf"
  hashToken := utf8
  hashPassword := some
  verifyPassword := fun encoded password => encoded = password

def accountUuid : Uuid := ⟨List.replicate 16 0, rfl⟩

def accountUser : UserRow where
  email := "user@example.org"
  name := "User"
  passwordHash := "old password"
  status := .active

/-- An active user with a reset token. -/
def resettableStore : AccountStore :=
  (((∅ : AccountStore).insert (.email accountUser.email) accountUuid).insert (.user accountUuid)
    accountUser).insert (.emailToken accountUuid)
    { userId := accountUuid, purpose := .resetPassword, tokenHash := utf8 "reset"
      expiresAt := 3600000000 }

end YoAuthorize.Backend
