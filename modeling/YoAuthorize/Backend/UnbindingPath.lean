import YoAuthorize.Backend.ActivationPath

/-!
# What `unbind_device` locks

First the activations of one device, then for each of them its tokens and its
code.  It locks no license.  Where a row is waited for, the committed rows say
to which activation or device it belongs, and that activation is locked already.
-/

namespace YoAuthorize.Backend

open Octets Transaction

/-! ## Rows that stay where they belong -/

/-- The activation is there, of the device and the code. -/
def Registered (rows : Store) (id device code : Uuid) : Prop :=
  ∃ row, rows.activation id = some row ∧ row.deviceId = device ∧ row.activationCodeId = code

/-- The token is there, of the activation. -/
def TokenOf (rows : Store) (id activationId : Uuid) : Prop :=
  ∃ token, rows.token id = some token ∧ token.activationId = activationId

variable {held more : RowKey → Prop} {log : List (Sigma Row)} {rows later : Store}
  {id device code activationId : Uuid}

theorem Registered.moves (registered : Registered rows id device code)
    (moves : requestContract.Moves held rows later) : Registered later id device code := by
  rcases registered with ⟨old, present, ofDevice, ofCode⟩
  rcases activation_of_bindingMoves moves.right present with ⟨new, found, becomes⟩
  exact ⟨new, found, becomes.deviceId.trans ofDevice, becomes.activationCodeId.trans ofCode⟩

theorem TokenOf.moves (tokenOf : TokenOf rows id activationId)
    (moves : requestContract.Moves held rows later) : TokenOf later id activationId := by
  rcases tokenOf with ⟨old, present, same⟩
  rcases issued_of_bindingMoves moves.right present with ⟨new, found, kept⟩
  exact ⟨new, found, kept.trans same⟩

theorem TokenOf.eq {otherId : Uuid} (tokenOf : TokenOf rows id activationId)
    (tokenOfToo : TokenOf rows id otherId) : activationId = otherId := by
  rcases tokenOf with ⟨token, present, rfl⟩
  rcases tokenOfToo with ⟨other, found, rfl⟩
  cases present.symm.trans found
  rfl

/-! ## The check -/

/-- What is known of the row that is locked next. -/
def Reaches (held : RowKey → Prop) (rows : Store) : RowKey → Prop
  | .activation id => ∃ device code, Registered rows id device code ∧
      ∀ other, held other → ∃ otherId otherCode, other = .activation otherId ∧
        Registered rows otherId device otherCode
  | .token id => ∃ activationId, TokenOf rows id activationId ∧ held (.activation activationId)
  | .code code => ∃ id device, held (.activation id) ∧ Registered rows id device code
  | .license _ | .device _ | .event _ => False

/-- What `unbind_device` has locked: no license, and the activation of each token. -/
structure Unbinds (held : RowKey → Prop) (rows : Store) : Prop where
  unlicensed : ∀ id, ¬ held (.license id)
  tokens : ∀ {id : Uuid}, held (.token id) →
    ∃ activationId, TokenOf rows id activationId ∧ held (.activation activationId)

/-- What `unbind_device` does at each point. -/
def OnUnbinding (program : Handler) (held : RowKey → Prop) (_log : List (Sigma Row))
    (rows : Store) : Prop :=
  match program with
  | .lock key _ => Unbinds held rows ∧ Reaches held rows key
  | _ => True

/-! ## The walk -/

/-- The rows written so far belong where the committed ones do. -/
structure Rewrites (log : List (Sigma Row)) (rows : Store) : Prop where
  activation : ∀ {id : Uuid} {row : ActivationRow},
    (⟨.activation id, row⟩ : Sigma Row) ∈ log →
      Registered rows id row.deviceId row.activationCodeId
  token : ∀ {id : Uuid} {row : TokenRow}, (⟨.token id, row⟩ : Sigma Row) ∈ log →
    TokenOf rows id row.activationId

/-- `unbind_device` in the middle, at some point of its loops. -/
structure Midway (held : RowKey → Prop) (log : List (Sigma Row)) (rows : Store) : Prop where
  unbinds : Unbinds held rows
  rewrites : Rewrites log rows

theorem Midway.nil : Midway (fun _ => False) [] rows :=
  ⟨⟨fun _ => id, nofun⟩, nofun, nofun⟩

theorem Midway.moves (midway : Midway held log rows)
    (moves : requestContract.Moves held rows later) : Midway held log later where
  unbinds := by
    refine ⟨midway.unbinds.unlicensed, fun holds => ?_⟩
    rcases midway.unbinds.tokens holds with ⟨activationId, tokenOf, owned⟩
    exact ⟨activationId, tokenOf.moves moves, owned⟩
  rewrites :=
    ⟨fun member => (midway.rewrites.activation member).moves moves,
      fun member => (midway.rewrites.token member).moves moves⟩

theorem Rewrites.registered (rewrites : Rewrites log rows) {row : ActivationRow}
    (present : Store.activation (replay rows log) id = some row) :
    Registered rows id row.deviceId row.activationCodeId := by
  rcases lookup_replay_cases present with written | committed
  · exact rewrites.activation written
  · exact ⟨row, committed, rfl, rfl⟩

theorem Rewrites.tokenOf (rewrites : Rewrites log rows) {token : TokenRow}
    (present : Store.token (replay rows log) id = some token) :
    TokenOf rows id token.activationId := by
  rcases lookup_replay_cases present with written | committed
  · exact rewrites.token written
  · exact ⟨token, committed, rfl⟩

/-- A row that is locked next. -/
theorem Midway.lock (midway : Midway held log rows) {key : RowKey}
    (reaches : Reaches held rows key) :
    Midway (fun other => other = key ∨ held other) log rows where
  unbinds := by
    refine ⟨?_, ?_⟩
    · rintro id (rfl | holds)
      · exact reaches
      · exact midway.unbinds.unlicensed id holds
    · rintro id (rfl | holds)
      · rcases reaches with ⟨activationId, tokenOf, owned⟩
        exact ⟨activationId, tokenOf, .inr owned⟩
      · rcases midway.unbinds.tokens holds with ⟨activationId, tokenOf, owned⟩
        exact ⟨activationId, tokenOf, .inr owned⟩
  rewrites := midway.rewrites

theorem Midway.write (midway : Midway held log rows) {version : Sigma Row}
    (activation : ∀ id row, version = ⟨.activation id, row⟩ →
      Registered rows id (ActivationRow.deviceId row) (ActivationRow.activationCodeId row))
    (token : ∀ id row, version = ⟨.token id, row⟩ →
      TokenOf rows id (TokenRow.activationId row)) :
    Midway held (log ++ [version]) rows where
  unbinds := midway.unbinds
  rewrites := by
    refine ⟨fun member => ?_, fun member => ?_⟩
    · rcases List.mem_append.mp member with old | new
      · exact midway.rewrites.activation old
      · exact activation _ _ (List.mem_singleton.mp new).symm
    · rcases List.mem_append.mp member with old | new
      · exact midway.rewrites.token old
      · exact token _ _ (List.mem_singleton.mp new).symm

theorem unbinding_revokeTokens {tokens : List Uuid} (midway : Midway held log rows)
    (holds : held (.activation activationId))
    (known : ∀ id ∈ tokens, TokenOf rows id activationId) (time : Timestamp) {next : Handler}
    (continues : ∀ (more : RowKey → Prop) (written : List (Sigma Row)) (now : Store),
      (∀ key, held key → more key) → requestContract.Moves held rows now →
      Midway more written now → requestContract.Throughout OnUnbinding next more written now) :
    requestContract.Throughout OnUnbinding (revokeTokens time activationId next tokens) held log
      rows := by
  induction tokens generalizing held log rows with
  | nil => exact continues held log rows (fun _ => id) .refl midway
  | cons tokenId tokens ih =>
      have reaches (now : Store) (moves : requestContract.Moves held rows now) :
          Reaches held now (.token tokenId) :=
        ⟨activationId, (known tokenId List.mem_cons_self).moves moves, holds⟩
      have rest (now last : Store) (moves : requestContract.Moves held rows now)
          (lastMoves : requestContract.Moves (fun other => other = .token tokenId ∨ held other)
            now last) {written : List (Sigma Row)}
          (further : Midway (fun other => other = .token tokenId ∨ held other) written last) :
          requestContract.Throughout OnUnbinding (revokeTokens time activationId next tokens)
            (fun other => other = .token tokenId ∨ held other) written last := by
        have moved := moves.trans (lastMoves.mono fun _ => Or.inr)
        refine ih further (.inr holds)
          (fun id member => (known id (List.mem_cons_of_mem _ member)).moves moved) ?_
        intro most final finish less finalMoves done
        exact continues most final finish (fun key owns => less key (.inr owns))
          (moved.trans (finalMoves.mono fun _ => Or.inr)) done
      apply Contract.Throughout.lock
      · intro now moves
        exact ⟨(midway.moves moves).unbinds, reaches now moves⟩
      · intro now moves inv absent
        exact rest now now moves .refl ((midway.moves moves).lock (reaches now moves))
      · intro token now moves inv present
        have locked := (midway.moves moves).lock (reaches now moves)
        dsimp only
        split
        · intro last lastMoves lastInv
          refine ⟨trivial, rest now last moves lastMoves ((locked.moves lastMoves).write ?_ ?_)⟩
          · rintro id row ⟨⟩
          · rintro id row ⟨⟩
            exact (locked.rewrites.tokenOf present).moves lastMoves
        · exact rest now now moves .refl locked

theorem unbinding_releaseCode (midway : Midway held log rows) (holds : held (.activation id))
    (registered : Registered rows id device code) {next : Handler}
    (continues : ∀ (more : RowKey → Prop) (written : List (Sigma Row)) (now : Store),
      (∀ key, held key → more key) → requestContract.Moves held rows now →
      Midway more written now → requestContract.Throughout OnUnbinding next more written now) :
    requestContract.Throughout OnUnbinding (releaseCode code next) held log rows := by
  have reaches (now : Store) (moves : requestContract.Moves held rows now) :
      Reaches held now (.code code) := ⟨id, device, holds, registered.moves moves⟩
  apply Contract.Throughout.lock
  · intro now moves
    exact ⟨(midway.moves moves).unbinds, reaches now moves⟩
  · intro now moves inv absent
    exact continues _ _ now (fun _ => .inr) moves ((midway.moves moves).lock (reaches now moves))
  · intro row now moves inv present
    have locked := (midway.moves moves).lock (reaches now moves)
    dsimp only
    split
    · exact fun _ _ _ => trivial
    · intro last lastMoves lastInv
      refine ⟨trivial, continues _ _ last (fun _ => .inr)
        (moves.trans (lastMoves.mono fun _ => .inr)) ?_⟩
      refine (locked.moves lastMoves).write ?_ ?_
      · rintro id row ⟨⟩
      · rintro id row ⟨⟩

theorem unbinding_event (midway : Midway held log rows) {next : Handler}
    (continues : ∀ (more : RowKey → Prop) (written : List (Sigma Row)) (now : Store),
      (∀ key, held key → more key) → requestContract.Moves held rows now →
      Midway more written now → requestContract.Throughout OnUnbinding next more written now) :
    requestContract.Throughout OnUnbinding (event .deviceUnbound activationId device next) held log
      rows := by
  intro number now moves inv
  refine ⟨trivial, fun absent => continues _ _ now (fun _ => .inr) moves ?_⟩
  have moved := midway.moves moves
  refine Midway.write ⟨⟨?_, ?_⟩, moved.rewrites⟩ nofun nofun
  · rintro id (same | owns)
    · cases same
    · exact moved.unbinds.unlicensed id owns
  · rintro id (same | owns)
    · cases same
    · rcases moved.unbinds.tokens owns with ⟨activationId, tokenOf, holds⟩
      exact ⟨activationId, tokenOf, .inr holds⟩

theorem unbinding_releaseActivations {time : Timestamp} {unbound : List (Uuid × Uuid)}
    (midway : Midway held log rows)
    (known : ∀ entry ∈ unbound, held (.activation entry.1) ∧
      Registered rows entry.1 device entry.2) :
    requestContract.Throughout OnUnbinding (releaseActivations time device unbound) held log
      rows := by
  induction unbound generalizing held log rows with
  | nil => exact fun _ _ _ => trivial
  | cons first unbound ih =>
      rcases first with ⟨activationId, codeId⟩
      rcases known (activationId, codeId) List.mem_cons_self with ⟨holds, registered⟩
      intro now moves inv
      refine ⟨trivial, unbinding_revokeTokens (midway.moves moves) holds ?_ time ?_⟩
      · intro id member
        rcases List.mem_filterMap.mp member with ⟨⟨other, token⟩, here, kept⟩
        dsimp only at kept
        split at kept
        · rename_i valid
          cases kept
          have same : token.activationId = activationId := (of_decide_eq_true valid).1
          exact same ▸ (midway.moves moves).rewrites.tokenOf (Store.mem_tokens.mp here)
        · cases kept
      intro more written second less secondMoves revoked
      have toSecond := moves.trans secondMoves
      refine unbinding_releaseCode revoked (less _ holds) (registered.moves toSecond) ?_
      intro most counted third lessMost thirdMoves released
      refine unbinding_event released ?_
      intro all announced last lessAll lastMoves done
      refine ih done fun entry member => ?_
      rcases known entry (List.mem_cons_of_mem _ member) with ⟨owns, placed⟩
      exact ⟨lessAll _ (lessMost _ (less _ owns)),
        ((placed.moves toSecond).moves thirdMoves).moves lastMoves⟩

theorem unbinding_unbindActivations {time : Timestamp} {test : ActivationRow → Bool}
    {unbound : List (Uuid × Uuid)} {activations : List Uuid} (midway : Midway held log rows)
    (listed : ∀ id ∈ activations, ∃ code, Registered rows id device code)
    (only : ∀ key, held key → ∃ id code, key = .activation id ∧ Registered rows id device code)
    (known : ∀ entry ∈ unbound, held (.activation entry.1) ∧
      Registered rows entry.1 device entry.2) :
    requestContract.Throughout OnUnbinding (unbindActivations time device test unbound activations)
      held log rows := by
  induction activations generalizing held log rows unbound with
  | nil =>
      rw [unbindActivations]
      split
      · exact fun _ _ _ => trivial
      · exact unbinding_releaseActivations midway known
  | cons activationId activations ih =>
      rcases listed activationId List.mem_cons_self with ⟨code, registered⟩
      have reaches (now : Store) (moves : requestContract.Moves held rows now) :
          Reaches held now (.activation activationId) := by
        refine ⟨device, code, registered.moves moves, fun other holds => ?_⟩
        rcases only other holds with ⟨id, otherCode, same, placed⟩
        exact ⟨id, otherCode, same, placed.moves moves⟩
      have onlyNew (now : Store) (moves : requestContract.Moves held rows now) :
          ∀ key, (key = .activation activationId ∨ held key) →
            ∃ id code, key = .activation id ∧ Registered now id device code := by
        rintro key (rfl | holds)
        · exact ⟨activationId, code, rfl, registered.moves moves⟩
        · rcases only key holds with ⟨id, otherCode, same, placed⟩
          exact ⟨id, otherCode, same, placed.moves moves⟩
      have listedNew (now : Store) (moves : requestContract.Moves held rows now) :
          ∀ id ∈ activations, ∃ code, Registered now id device code := by
        intro id member
        rcases listed id (List.mem_cons_of_mem _ member) with ⟨otherCode, placed⟩
        exact ⟨otherCode, placed.moves moves⟩
      have knownNew (now : Store) (moves : requestContract.Moves held rows now) :
          ∀ entry ∈ unbound, (.activation entry.1 = RowKey.activation activationId ∨
            held (.activation entry.1)) ∧ Registered now entry.1 device entry.2 :=
        fun entry member => ⟨.inr (known entry member).1, (known entry member).2.moves moves⟩
      apply Contract.Throughout.lock
      · intro now moves
        exact ⟨(midway.moves moves).unbinds, reaches now moves⟩
      · intro now moves inv absent
        exact ih ((midway.moves moves).lock (reaches now moves)) (listedNew now moves)
          (onlyNew now moves) (knownNew now moves)
      · intro row now moves inv present
        have locked := (midway.moves moves).lock (reaches now moves)
        dsimp only
        split
        · intro last lastMoves lastInv
          have moved := moves.trans (lastMoves.mono fun _ => .inr)
          have here := (locked.rewrites.registered present).moves lastMoves
          refine ⟨trivial, ih ((locked.moves lastMoves).write ?_ ?_) (listedNew last moved)
            (onlyNew last moved) ?_⟩
          · rintro id other ⟨⟩
            exact here
          · rintro id other ⟨⟩
          · intro entry member
            rcases List.mem_append.mp member with old | new
            · exact knownNew last moved entry old
            · rw [List.mem_singleton.mp new]
              refine ⟨.inl rfl, ?_⟩
              rcases here with ⟨found, foundHere, -, ofCode⟩
              rcases registered.moves moved with ⟨other, otherHere, ofDevice, -⟩
              cases foundHere.symm.trans otherHere
              exact ⟨found, foundHere, ofDevice, ofCode⟩
        · exact ih locked (listedNew now moves) (onlyNew now moves) (knownNew now moves)

theorem unbinding_unbindDevice (time : Timestamp) (user device : Uuid) :
    requestContract.Throughout OnUnbinding (unbindDevice time user device) (fun _ => False) []
      rows := by
  intro now moves inv
  refine ⟨trivial, unbinding_unbindActivations Midway.nil ?_ nofun nofun⟩
  intro id member
  rcases List.mem_filterMap.mp member with ⟨⟨other, row⟩, here, kept⟩
  dsimp only at kept
  split at kept
  · rename_i unbindable
    cases kept
    have ofDevice : row.deviceId = device := (of_decide_eq_true unbindable).1
    exact ⟨row.activationCodeId, row, Store.mem_activations.mp here, ofDevice, rfl⟩
  · cases kept

end YoAuthorize.Backend
