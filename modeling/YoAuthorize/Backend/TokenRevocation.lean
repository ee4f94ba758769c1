import YoAuthorize.Backend.ActivationPath

/-!
# Unbinding kills device tokens

In every committed store the tokens of an unbound activation are revoked, and a
response of `activate` is for an activation and a license that are valid in the
store its transaction commits on.
-/

namespace YoAuthorize.Backend

open Octets Crypto FlatBuffer License Transaction Relation

/-! ## Requests that do not activate -/

def Response.isActivation : Response → Bool
  | .activated _ => true
  | .codesCreated _ | .noContent => false

/-- The request returns no activation. -/
abbrev Inactive (handler : Handler) : Prop :=
  handler.Returns fun response => response.isActivation = false

theorem inactive_revokeTokens (time : Timestamp) (activationId : Uuid) {next : Handler}
    (inactive : Inactive next) (tokens : List Uuid) :
    Inactive (revokeTokens time activationId next tokens) := by
  induction tokens with
  | nil => exact inactive
  | cons tokenId tokens ih =>
      rintro (_ | token)
      · exact ih
      · dsimp only
        split
        · exact ih
        · exact ih

theorem inactive_releaseCode (codeId : Uuid) {next : Handler} (inactive : Inactive next) :
    Inactive (releaseCode codeId next) := by
  rintro (_ | code)
  · exact inactive
  · dsimp only
    split
    · trivial
    · exact inactive

theorem inactive_releaseActivations (time : Timestamp) (device : Uuid)
    (unbound : List (Uuid × Uuid)) : Inactive (releaseActivations time device unbound) := by
  induction unbound with
  | nil => rfl
  | cons first unbound ih =>
      rcases first with ⟨activationId, codeId⟩
      intro rows
      have announced : Inactive
          (event .deviceUnbound activationId device (releaseActivations time device unbound)) := ih
      exact inactive_revokeTokens time activationId (inactive_releaseCode codeId announced) _

theorem inactive_unbindActivations (time : Timestamp) (device : Uuid)
    (test : ActivationRow → Bool) (unbound : List (Uuid × Uuid)) (activations : List Uuid) :
    Inactive (unbindActivations time device test unbound activations) := by
  induction activations generalizing unbound with
  | nil =>
      rw [unbindActivations]
      split
      · trivial
      · exact inactive_releaseActivations time device unbound
  | cons activationId activations ih =>
      rintro (_ | row)
      · exact ih unbound
      · dsimp only
        split
        · exact ih _
        · exact ih unbound

theorem inactive_insertCodes (code : Bytes → CodeRow) (made : List String)
    (drawn : List (Uuid × String × Bytes)) : Inactive (insertCodes code made drawn) := by
  induction drawn generalizing made with
  | nil => rfl
  | cons first drawn ih =>
      rcases first with ⟨codeId, raw, codeHash⟩
      rintro (_ | row)
      · intro rows
        dsimp only
        split
        · trivial
        · exact ih _
      · trivial

theorem inactive_announceLicense (topic : Topic) (licenseId : Uuid) :
    Inactive (announceLicense topic licenseId) := by
  have inserts (activations : List Uuid) : Inactive (insertEvents topic licenseId activations) := by
    induction activations with
    | nil => rfl
    | cons activationId activations ih => exact ih
  intro rows
  exact inserts _

theorem inactive_adminCreateCodes (input : CodeInput) (draw : Nat → Uuid × String × Bytes) :
    Inactive (adminCreateCodes input draw) := by
  unfold adminCreateCodes
  dsimp only
  split
  · trivial
  split
  · trivial
  intro rows
  dsimp only
  split
  · exact inactive_insertCodes _ _ _
  · trivial

theorem inactive_adminUpdateLicense (id : Uuid) (status : String) :
    Inactive (adminUpdateLicense id status) := by
  unfold adminUpdateLicense
  split
  · trivial
  · rintro (_ | license)
    · exact inactive_announceLicense _ _
    · exact inactive_announceLicense _ _

/-! ## Responses -/

/-- A response hands out its token as `HandsOut` says. -/
def Responds (program : Handler) (_ : RowKey → Prop) (log : List (Sigma Row)) (rows : Store) :
    Prop :=
  match program with
  | .commit (.activated response) => HandsOut response rows (replay rows log)
  | _ => True

theorem responds_of_inactive {handler : Handler} {held : RowKey → Prop} {rows : Store}
    (inactive : Inactive handler) :
    requestContract.Throughout Responds handler held [] rows := by
  refine Contract.throughout_of_returns inactive ?_
  intro program held log rows returns
  unfold Responds
  split
  · rename_i response
    cases returns _ rfl
  · trivial

theorem responds_of_isRequest {handler : Handler} {rows : Store} (isRequest : IsRequest handler) :
    requestContract.Throughout Responds handler (fun _ => False) [] rows := by
  cases isRequest with
  | activate env request =>
      refine (path_activate env request).mono ?_
      intro program held log rows onPath
      unfold Responds
      split
      · exact onPath
      · trivial
  | unbindDevice time user device =>
      exact responds_of_inactive fun rows => inactive_unbindActivations time device _ _ _
  | adminCreateCodes input draw => exact responds_of_inactive (inactive_adminCreateCodes input draw)
  | adminUpdateLicense id status =>
      exact responds_of_inactive (inactive_adminUpdateLicense id status)

/-- Every valid token is for an activation that is not unbound. -/
def TokensRevoked (rows : Store) : Prop :=
  ∀ {id : Uuid} {token : TokenRow} {row : ActivationRow}, rows.token id = some token →
    rows.activation token.activationId = some row → row.unboundAt ≠ none → token.revokedAt ≠ none

/-- The token of a response is new, and neither its activation nor its license
is invalid in the store before the commit or after it. -/
structure TokenAllowed (response : ActivationResponse) (rows later : Store) : Prop where
  token : ∃ id token, rows.token id = none ∧ later.token id = some token ∧
    token.activationId = response.activationId ∧ token.revokedAt = none
  before : ∀ {row : ActivationRow}, rows.activation response.activationId = some row →
    row.unboundAt = none ∧ ∀ {license : LicenseRow}, rows.license row.licenseId = some license →
      license.status = .active
  after : ∃ row license, later.activation response.activationId = some row ∧
    row.unboundAt = none ∧ later.license row.licenseId = some license ∧ license.status = .active

theorem HandsOut.tokenAllowed {response : ActivationResponse} {held : RowKey → Prop}
    {rows later : Store} (handsOut : HandsOut response rows later)
    (persists : Persists held rows later) : TokenAllowed response rows later := by
  rcases handsOut.activation with ⟨row, license, present, live, licensed, active, unchanged⟩
  have unbound : row.unboundAt = none := Option.isNone_iff_eq_none.mp live
  refine ⟨handsOut.token, ?_, row, license, present, unbound, licensed, active⟩
  intro old here
  rcases persists.activation here with ⟨new, found, becomes⟩
  cases found.symm.trans present
  cases becomes.eq_of_live live
  refine ⟨unbound, ?_⟩
  intro before known
  rw [unchanged before known]
  exact active

/-- Under every interleaving of the requests, unbinding kills the device tokens. -/
theorem tokensRevoked_of_runs {τ : Type} [DecidableEq τ] {rows : Store} (initial : Initial rows)
    {system : System τ Row ApiError Response}
    (run : ReflTransGen (System.Step IsRequest) { rows } system) :
    TokensRevoked system.rows ∧ ∀ transaction response,
      system.program transaction = some (.commit (.activated response)) →
        TokenAllowed response system.rows (system.view transaction) := by
  have safe : system.Safe requestContract (requestContract.Throughout Responds) :=
    System.safe_of_runs Contract.stable_throughout ⟨initial.consistent, initial.detached⟩
      (fun _ isRequest _ _ => ⟨kept_of_isRequest isRequest, responds_of_isRequest isRequest⟩) run
  refine ⟨?_, ?_⟩
  · intro id token row here present unbound valid
    have dead : row.live = false := by
      cases known : row.unboundAt with
      | none => exact absurd known unbound
      | some time => rw [ActivationRow.live, known]; rfl
    cases safe.inv.2.revoked here present dead valid
  · intro transaction response running
    rcases safe.running transaction _ running with ⟨sound, responds⟩
    exact HandsOut.tokenAllowed (responds.here safe.inv) (sound system.rows .refl safe.inv).2.2

/-- The owner of the license unbinds the machine. -/
def unbindRequests : List Handler :=
  boundRequests ++ [unbindDevice 16000000 (referenceUuid 9) (referenceUuid 128)]

/-- The store after these requests. -/
def unboundStore : Store := (Program.runAll unbindRequests ownedStore 0).1

/-- The run of these requests ends with an unbound activation and a revoked token. -/
theorem tokensRevoked_unbound :
    (unboundStore.activation (referenceUuid 192)).map (·.unboundAt) = some (some 16000000) ∧
    (unboundStore.token (referenceUuid 32)).map (·.revokedAt) = some (some 16000000) ∧
    TokensRevoked unboundStore := by
  have all : ∀ handler ∈ unbindRequests, IsRequest handler := by
    intro handler member
    rcases List.mem_append.mp member with bound | new
    · exact boundRequests_isRequest handler bound
    · rw [List.mem_singleton.mp new]
      exact .unbindDevice _ _ _
  have safe := tokensRevoked_of_runs ownedStore_initial
    (runs_of_isRequest ownedStore_initial.consistent all 0)
  dsimp only at safe
  exact ⟨by decide +kernel, by decide +kernel, safe.1⟩

end YoAuthorize.Backend
