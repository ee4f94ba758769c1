import YoAuthorize.Backend.Store

/-!
# The handlers of the activation store

`activate`, `unbind_device`, `admin_create_codes` and `admin_update_license`
(`routes.rs`) as transactions, one statement after the other.  An `UPDATE` locks
its row and writes the newest version; an `INSERT` locks its new key, and an
outbox event gets the next number of its sequence.  What a handler gets from
outside the tables (times, drawn ids, the other tables, the signer, the rate
limit) is its `Environment`.  The audit log is left out, and a request starts
after its authentication.
-/

namespace YoAuthorize.Backend

open Octets Crypto FlatBuffer License Transaction

structure Environment : Type where
  /-- `now()`, the start of the transaction. -/
  now : Timestamp
  /-- `clock_timestamp()` in `finish_activation`. -/
  clock : Timestamp
  utcNow : Timestamp
  /-- `Utc::now()` in `finish_activation`. -/
  finishedAt : Timestamp
  rateLimited : Bool
  newLicense : Uuid
  newDevice : Uuid
  newActivation : Uuid
  newToken : Uuid
  opaqueToken : Option String
  productCode : Uuid → String
  /-- The feature codes of a license in their order. -/
  features : Uuid → List String
  /-- The active signing key: its id and public key. -/
  signingKey : Option (String × Key)
  /-- The package of the signer and the id of its key. -/
  sign : LicenseDefinition → Option (Bytes × String)
  hashActivation : String → Bytes
  hashToken : String → Bytes
  sha256 : Bytes → Bytes
  dalek : Dalek
  packages : Binding (LicensePackage String)
  payloads : Binding (LicensePayload String)

structure ActivationRequest : Type where
  protocolVersion : UInt16
  productId : String
  activationCode : String
  machineId : String
  idempotencyKey : Option String
  deriving DecidableEq

/-! ## Checks and queries -/

/-- The checks of `activate` before it opens its transaction. -/
def ActivationRequest.malformed (request : ActivationRequest) : Bool :=
  request.protocolVersion ≠ 1 ∨ request.machineId = "" ∨ (utf8 request.machineId).length > 1024 ∨
    request.idempotencyKey.any fun key => key = "" ∨ (utf8 key).length > 200

def LicenseRow.started (license : LicenseRow) (time : Timestamp) : Bool :=
  license.notBefore ≤ time

def LicenseRow.unexpired (license : LicenseRow) (time : Timestamp) : Bool :=
  license.expiresAt.all fun expiresAt => expiresAt > time

def validateLicenseState (license : LicenseRow) (time : Timestamp) : Except ApiError Unit :=
  if license.status ≠ .active then .error (.forbidden "LICENSE_REVOKED" "License is not active.")
  else if !license.started time then
    .error (.forbidden "LICENSE_NOT_YET_VALID" "License is not yet valid.")
  else if !license.unexpired time then
    .error (.forbidden "LICENSE_EXPIRED" "License has expired.")
  else .ok ()

/-- The `WHERE` of the code query. -/
def CodeRow.redeemable (code : CodeRow) (codeHash : Bytes) (time : Timestamp) : Bool :=
  code.codeHash = codeHash ∧ code.disabledAt = none ∧
    code.expiresAt.all fun expiresAt => expiresAt > time

def ActivationRow.recordedFor (row : ActivationRow) (codeId : Uuid) (key : String) : Bool :=
  row.activationCodeId = codeId ∧ row.idempotencyKey = some key

def ActivationRow.liveFor (row : ActivationRow) (licenseId deviceId : Uuid) : Bool :=
  row.live ∧ row.licenseId = licenseId ∧ row.deviceId = deviceId

/-- The two unique indexes of `activations`. -/
def Store.conflicts (rows : Store) (row : ActivationRow) : Bool :=
  (rows.findActivation fun other => other.liveFor row.licenseId row.deviceId).isSome ∨
    row.idempotencyKey.any fun key =>
      (rows.findActivation fun other => other.recordedFor row.activationCodeId key).isSome

def invalidCode : ApiError := .forbidden "INVALID_CODE" "Activation code is invalid or expired."

def activationInactive : ApiError := .conflict "ACTIVATION_INACTIVE" "Activation has been unbound."

def activationConflict : ApiError :=
  .conflict "ACTIVATION_CONFLICT" "Activation request conflicts with an existing request."

/-! ## Identifiers -/

def hexByte (byte : UInt8) : List Char :=
  [Nat.digitChar (byte.toNat / 16), Nat.digitChar (byte.toNat % 16)]

/-- `Uuid::to_string`: hexadecimal in groups of 4, 2, 2, 2 and 6 bytes. -/
def Uuid.text (id : Uuid) : String :=
  let group (start size : Nat) : List Char := ((id.val.drop start).take size).flatMap hexByte
  String.ofList (group 0 4 ++ '-' :: group 4 2 ++ '-' :: group 6 2 ++ '-' :: group 8 2 ++
    '-' :: group 10 6)

/-- `mask`.  There is no result where a slice begins or ends inside of a character:
then it panics. -/
def mask (value : String) : Option String :=
  if (utf8 value).length ≤ 12 then some "********"
  else do
    let first ← ofUtf8 ((utf8 value).take 4)
    let last ← ofUtf8 ((utf8 value).drop ((utf8 value).length - 4))
    some (first ++ "..." ++ last)

/-! ## `activate` -/

section

variable (env : Environment) (request : ActivationRequest)

def machineHash : Bytes := env.sha256 (utf8 request.machineId)

/-- `Utc::now() + ChronoDuration::hours(24)`. -/
def tokenExpiry : Timestamp := env.finishedAt + 24 * 3600 * 1000000

/-- The new device token and the response. -/
def insertToken (blob : Bytes) (activationId : Uuid) (token : String) : Handler :=
  .lock (.token env.newToken) fun
    | some _ => .rollback .internal
    | none =>
        .select fun rows =>
          if (Store.findToken rows fun other => other.tokenHash = env.hashToken token).isSome then
            .rollback .internal
          else
            .write (.token env.newToken)
              { activationId
                tokenHash := env.hashToken token
                expiresAt := tokenExpiry env }
              (.commit (.activated
                { license := blob
                  activationId
                  accessToken := token
                  tokenExpireTime := tokenExpiry env / 1000000 }))

def finishActivation (blob : Bytes) (activationId : Uuid) : Handler :=
  .lock (.activation activationId) fun
    | none => .rollback .internal
    | some row =>
        .select fun rows =>
          match Store.license rows row.licenseId with
          | none => .rollback .internal
          | some license =>
              if row.unboundAt.isSome then .rollback activationInactive
              else
                match validateLicenseState license env.clock with
                | .error error => .rollback error
                | .ok () =>
                    match env.opaqueToken with
                    | none => .rollback .internal
                    | some token => insertToken env blob activationId token

/-- The license that is created for a code without one. -/
def createdLicense (codeId : Uuid) (code : CodeRow) : LicenseRow where
  productId := code.productId
  licenseType := .permanent
  notBefore := env.now
  deviceLimit := code.activationLimit
  createdFor := some codeId

/-- The license of a code, or a new one. -/
def withLicense (codeId : Uuid) (code : CodeRow) (next : Uuid → Handler) : Handler :=
  match code.licenseId with
  | some licenseId => next licenseId
  | none =>
      .lock (.license env.newLicense) fun
        | some _ => .rollback .internal
        | none =>
            .write (.license env.newLicense) (createdLicense env codeId code)
              (.lock (.code codeId) fun
                | none => next env.newLicense
                | some row =>
                    .write (.code codeId) { row with licenseId := some env.newLicense }
                      (next env.newLicense))

/-- The replay of an activation that has recorded the request's key. -/
def replayActivation (codeId : Uuid) (next : Handler) : Handler :=
  match request.idempotencyKey with
  | none => next
  | some key =>
      .lockWhere .activation (fun rows : Store => rows.findActivation (·.recordedFor codeId key))
        (fun _ row => row.recordedFor codeId key) fun
        | none => next
        | some ⟨activationId, row⟩ =>
            .select fun rows =>
              match Store.deviceHash rows row.deviceId with
              | none => next
              | some recorded =>
                  if recorded ≠ machineHash env request then
                    .rollback (.conflict "IDEMPOTENCY_MISMATCH"
                      "Idempotency key was already used for another request.")
                  else if row.unboundAt.isSome then .rollback activationInactive
                  else finishActivation env row.licenseBlob activationId

/-- `INSERT INTO devices … ON CONFLICT(machine_hash) DO UPDATE … RETURNING id`. -/
def upsertDevice (next : Uuid → Handler) : Handler :=
  match mask request.machineId with
  | none => .rollback .panicked
  | some machineHint =>
      .lock (.device (machineHash env request)) fun
        | some device =>
            .write (.device (machineHash env request)) { device with lastSeenAt := env.now }
              (next device.id)
        | none =>
            .select fun rows =>
              if (Store.deviceHash rows env.newDevice).isSome then .rollback .internal
              else
                .write (.device (machineHash env request))
                  { id := env.newDevice, machineHint, lastSeenAt := env.now } (next env.newDevice)

/-- The reuse of a live activation of the license on the device. -/
def reuseActivation (licenseId deviceId : Uuid) (next : Handler) : Handler :=
  .lockWhere .activation
    (fun rows : Store => rows.findActivation (·.liveFor licenseId deviceId))
    (fun _ row => row.liveFor licenseId deviceId) fun
    | none => next
    | some ⟨activationId, row⟩ => finishActivation env row.licenseBlob activationId

def definition (licenseId : Uuid) (license : LicenseRow) : LicenseDefinition where
  licenseId := licenseId.text
  productId := request.productId
  customerId := license.userId.elim "unassigned" Uuid.text
  issueTime := seconds env.utcNow
  notBefore := seconds license.notBefore
  expireTime := license.expiresAt.elim 0 seconds
  licenseType := license.licenseType
  features := env.features licenseId
  maxSessions := UInt32.ofNat license.maxSessions
  machineId := some request.machineId

/-- The signed license, checked against the metadata of the active key. -/
def signLicense (licenseId : Uuid) (license : LicenseRow) : Option Bytes :=
  match env.signingKey, env.sign (definition env request licenseId license) with
  | some (keyId, publicKey), some (blob, signedKeyId) =>
      if signedKeyId ≠ keyId then none
      else
        match verify env.dalek env.packages env.payloads blob keyId publicKey with
        | .error _ => none
        | .ok () => some blob
  | _, _ => none

/-- The new activation and the count of its code. -/
def insertActivation (row : ActivationRow) : Handler :=
  .lock (.activation env.newActivation) fun
    | some _ => .rollback activationConflict
    | none =>
        .select fun rows =>
          if Store.conflicts rows row then .rollback activationConflict
          else
            .write (.activation env.newActivation) row
              (.lock (.code row.activationCodeId) fun
                | none => finishActivation env row.licenseBlob env.newActivation
                | some code =>
                    if code.activationCount + 1 > code.activationLimit then .rollback .internal
                    else
                      .write (.code row.activationCodeId)
                        { code with activationCount := code.activationCount + 1 }
                        (finishActivation env row.licenseBlob env.newActivation))

/-- The limits, the signature and the new activation. -/
def newActivation (codeId : Uuid) (code : CodeRow) (licenseId : Uuid) (license : LicenseRow)
    (deviceId : Uuid) : Handler :=
  if code.activationCount ≥ code.activationLimit then
    .rollback (.conflict "ACTIVATION_LIMIT" "Activation limit has been reached.")
  else
    .select fun rows =>
      if Store.liveOfLicense rows licenseId ≥ license.deviceLimit then
        .rollback (.conflict "DEVICE_LIMIT" "License device limit has been reached.")
      else
        match signLicense env request licenseId license with
        | none => .rollback .internal
        | some blob =>
            insertActivation env
              { licenseId
                deviceId
                activationCodeId := codeId
                idempotencyKey := request.idempotencyKey
                licenseBlob := blob }

/-- The part of `activate` after the code and its license are known. -/
def activateLicense (codeId : Uuid) (code : CodeRow) (licenseId : Uuid) : Handler :=
  .lock (.license licenseId) fun
    | none => .rollback .internal
    | some license =>
        if license.productId ≠ code.productId then
          .rollback (.forbidden "PRODUCT_MISMATCH"
            "Activation code is not valid for this license.")
        else
          match validateLicenseState license env.now with
          | .error error => .rollback error
          | .ok () =>
              replayActivation env request codeId
                (upsertDevice env request fun deviceId =>
                  reuseActivation env licenseId deviceId
                    (newActivation env request codeId code licenseId license deviceId))

def activate : Handler :=
  if request.malformed then
    .rollback (.bad "INVALID_ACTIVATION" "Invalid activation request.")
  else if env.rateLimited then .rollback .rateLimited
  else
    let codeHash := env.hashActivation request.activationCode
    .lockWhere .code (fun rows : Store => rows.findCode (·.redeemable codeHash env.now))
      (fun _ code => code.redeemable codeHash env.now) fun
      | none => .rollback invalidCode
      | some ⟨codeId, code⟩ =>
          if env.productCode code.productId ≠ request.productId then
            .rollback (.forbidden "PRODUCT_MISMATCH"
              "Activation code is not valid for this product.")
          else withLicense env codeId code (activateLicense env request codeId code)

end

/-! ## `unbind_device` -/

/-- The `WHERE` of the unbinding update, with the licenses of a snapshot. -/
def ActivationRow.unbindable (row : ActivationRow) (rows : Store) (device user : Uuid) : Bool :=
  row.deviceId = device ∧ row.live ∧
    (rows.license row.licenseId).any fun license => license.userId = some user

/-- `event`: an outbox event under the next number of its sequence. -/
def event (topic : Topic) (id subject : Uuid) (next : Handler) : Handler :=
  .insertNext .event (fun _ => { topic, aggregateId := id, subject }) .internal next

/-- The `WHERE` of the update of the tokens. -/
def TokenRow.unrevokedOf (row : TokenRow) (activationId : Uuid) : Bool :=
  row.activationId = activationId ∧ row.revokedAt = none

/-- The update of the tokens of an activation one by one. -/
def revokeTokens (time : Timestamp) (activationId : Uuid) (next : Handler) : List Uuid → Handler
  | [] => next
  | tokenId :: rest =>
      .lock (.token tokenId) fun
        | none => revokeTokens time activationId next rest
        | some token =>
            if token.unrevokedOf activationId then
              .write (.token tokenId) { token with revokedAt := some time }
                (revokeTokens time activationId next rest)
            else revokeTokens time activationId next rest

/-- A code that is counted down. -/
def releaseCode (codeId : Uuid) (next : Handler) : Handler :=
  .lock (.code codeId) fun
    | none => next
    | some code =>
        if code.activationCount = 0 then .rollback .internal
        else
          .write (.code codeId) { code with activationCount := code.activationCount - 1 } next

/-- The loop over the unbound activations, each with its code. -/
def releaseActivations (time : Timestamp) (device : Uuid) : List (Uuid × Uuid) → Handler
  | [] => .commit .noContent
  | (activationId, codeId) :: unbound =>
      .select fun rows =>
        revokeTokens time activationId
          (releaseCode codeId
            (event .deviceUnbound activationId device (releaseActivations time device unbound)))
          ((Store.tokens rows).filterMap fun entry =>
            if entry.2.unrevokedOf activationId then some entry.1 else none)

/-- The update of the activations one by one, with those unbound so far. -/
def unbindActivations (time : Timestamp) (device : Uuid) (test : ActivationRow → Bool)
    (unbound : List (Uuid × Uuid)) : List Uuid → Handler
  | [] =>
      if unbound = [] then .rollback (.refused 404 "NOT_FOUND" "Device was not found.")
      else releaseActivations time device unbound
  | activationId :: rest =>
      .lock (.activation activationId) fun
        | none => unbindActivations time device test unbound rest
        | some row =>
            if test row then
              .write (.activation activationId) { row with unboundAt := some time }
                (unbindActivations time device test
                  (unbound ++ [(activationId, row.activationCodeId)]) rest)
            else unbindActivations time device test unbound rest

def unbindDevice (time : Timestamp) (user device : Uuid) : Handler :=
  .select fun rows =>
    let test (row : ActivationRow) : Bool := row.unbindable rows device user
    unbindActivations time device test []
      ((Store.activations rows).filterMap fun entry => if test entry.2 then some entry.1 else none)

/-! ## `admin_create_codes` and `admin_update_license` -/

structure CodeInput : Type where
  productId : Uuid
  licenseId : Option Uuid := none
  quantity : Option Nat := none
  activationLimit : Option Int := none
  expiresAt : Option Timestamp := none
  deriving DecidableEq

/-- The loop over the drawn codes, each with its id and its hash. -/
def insertCodes (code : Bytes → CodeRow) (made : List String) :
    List (Uuid × String × Bytes) → Handler
  | [] => .commit (.codesCreated made)
  | (codeId, raw, codeHash) :: drawn =>
      .lock (.code codeId) fun
        | some _ => .rollback .internal
        | none =>
            .select fun rows =>
              if (Store.findCode rows fun other => other.codeHash = codeHash).isSome then
                .rollback .internal
              else .write (.code codeId) (code codeHash) (insertCodes code (made ++ [raw]) drawn)

/-- `draw` gives the codes that the loop draws. -/
def adminCreateCodes (input : CodeInput) (draw : Nat → Uuid × String × Bytes) : Handler :=
  let quantity := input.quantity.getD 1
  let limit := input.activationLimit.getD 1
  if quantity = 0 ∨ quantity > 100 then
    .rollback (.bad "INVALID_QUANTITY" "Quantity must be between 1 and 100.")
  else if limit < 1 ∨ limit > 10000 then
    .rollback (.bad "INVALID_LIMIT" "Invalid activation limit.")
  else
    .select fun rows =>
      if input.licenseId.all fun licenseId =>
          (Store.license rows licenseId).any fun license =>
            license.productId = input.productId then
        insertCodes
          (fun codeHash =>
            { productId := input.productId
              licenseId := input.licenseId
              codeHash
              activationLimit := limit.toNat
              expiresAt := input.expiresAt })
          [] ((List.range quantity).map draw)
      else
        .rollback (.bad "PRODUCT_MISMATCH" "Activation code product must match its license.")

/-- The events of a license update for the given activations. -/
def insertEvents (topic : Topic) (licenseId : Uuid) : List Uuid → Handler
  | [] => .commit .noContent
  | activationId :: rest => event topic activationId licenseId (insertEvents topic licenseId rest)

/-- `INSERT INTO outbox_events … SELECT … FROM activations`. -/
def announceLicense (topic : Topic) (licenseId : Uuid) : Handler :=
  .select fun rows =>
    insertEvents topic licenseId
      ((Store.activations rows).filterMap fun entry =>
        if entry.2.licenseId = licenseId ∧ entry.2.live then some entry.1 else none)

def adminUpdateLicense (id : Uuid) (status : String) : Handler :=
  if status ≠ "active" ∧ status ≠ "revoked" then
    .rollback (.bad "INVALID_STATUS" "Invalid license status.")
  else
    let topic : Topic := if status = "revoked" then .licenseRevoked else .licenseUpdated
    .lock (.license id) fun
      | none => announceLicense topic id
      | some license =>
          .write (.license id)
            { license with status := if status = "revoked" then .revoked else .active }
            (announceLicense topic id)

end YoAuthorize.Backend
