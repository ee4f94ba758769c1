import YoAuthorize.Manager.ServerSafety

/-!
# The buttons of the page

A button of `app.js` or `index.html` posts its action and its target as a JSON text.
However the body is cut into chunks, and whatever else is sent to the server and
happens in the manager meanwhile, the manager is asked for this action and target
once the body has ended, and takes the slot unless another mutation holds it.
-/

namespace YoAuthorize.Manager

open Octets

/-! ## What a button posts -/

/-- `names` of `app.js`. -/
def names : List String :=
  ["postgres", "redis", "mailpit", "signer", "api", "web", "caddy", "migrate"]

/-- The action and the target of each button: those that `app.js` makes for the services, and
those of the groups in `index.html`. -/
def buttons : List (String × String) :=
  (names.flatMap fun name =>
    (if name = "migrate" then ["start"] else ["start", "stop", "restart"]).map (·, name)) ++
  ["backend", "frontend", "infrastructure", "all"].flatMap fun target =>
    ["start", "stop", "restart"].map (·, target)

def pageValue (action target : String) : Json.Value :=
  .object [(actionKey, .string (Json.encode action.toList)),
    (targetKey, .string (Json.encode target.toList))]

/-- `JSON.stringify({ action, target })`. -/
def pageBody (action target : String) : Bytes :=
  utf8 (.ofList (Json.render (pageValue action target)))

/-- The request of a button, with the fields that the browser adds. -/
def pageRequest (host token action target : String) : Request where
  method := "POST"
  url := "/api/actions"
  host := some host
  origin := some (originOf host)
  secFetchSite := some "same-origin"
  csrfToken := some token
  contentType := some "application/json"
  contentLength := some (pageBody action target).length

theorem valid_pageValue (action target : String) : Json.Valid (pageValue action target) := by
  have names : [actionKey, targetKey].Nodup := by decide
  exact ⟨names, trivial, trivial, trivial⟩

theorem stringOf_encode (text : String) :
    stringOf (some (.string (Json.encode text.toList))) = some text := by
  rw [stringOf, Json.decode_encode, String.ofList_toList]

/-- The server reads what the page wrote. -/
theorem actionOf_pageBody (action target : String) :
    (parseBody (pageBody action target)).bind actionOf = .ok (some action, some target) := by
  have joined : joinedNames [(actionKey, .string (Json.encode action.toList)),
      (targetKey, .string (Json.encode target.toList))] =
        Json.encode "action,target".toList := by
    have sorted : [0x2C].intercalate ([actionKey, targetKey].insertionSort (· ≤ ·)) =
        Json.encode "action,target".toList := by
      decide +kernel
    exact sorted
  have different : ¬ decide (actionKey = targetKey) := by decide
  have action_ : member [(actionKey, .string (Json.encode action.toList)),
      (targetKey, .string (Json.encode target.toList))] "action" =
        some (.string (Json.encode action.toList)) := by
    have found : decide (actionKey = Json.encode "action".toList) = true := decide_eq_true rfl
    simp only [member, List.find?_cons, found, Option.map_some]
  have target_ : member [(actionKey, .string (Json.encode action.toList)),
      (targetKey, .string (Json.encode target.toList))] "target" =
        some (.string (Json.encode target.toList)) := by
    have other : decide (actionKey = Json.encode "target".toList) = false := by decide
    have found : decide (targetKey = Json.encode "target".toList) = true := decide_eq_true rfl
    simp only [member, List.find?_cons, other, found, Option.map_some]
  rw [parseBody, pageBody, bufferToString_utf8, String.toList_ofList,
    Json.parse_render (valid_pageValue action target)]
  change actionOf (pageValue action target) = _
  rw [pageValue, actionOf, if_pos joined, action_, target_, stringOf_encode, stringOf_encode]

theorem pageBody_le : ∀ button ∈ buttons, (pageBody button.1 button.2).length ≤ bodyLimit := by
  have short : ∀ button ∈ buttons, (Json.render (pageValue button.1 button.2)).length ≤ 64 := by
    decide +kernel
  intro button mem
  have le := length_utf8_ofList_le (Json.render (pageValue button.1 button.2))
  exact le.trans ((Nat.mul_le_mul_left 4 (short button mem)).trans (by decide))

theorem actionArgs_of_button :
    ∀ button ∈ buttons, (actionArgs button.1 button.2).isOk = true := by
  decide +kernel

/-! ## Receiving a body -/

/-- So much of the body of a request has come in. -/
structure Server.Reads (server : Server) (number : Nat) (request : Request) (body : Bytes) :
    Prop where
  known : number < server.next
  body : server.bodies number = some (request, body)

/-- What an event brings of a body. -/
def ServerEvent.part (number : Nat) : ServerEvent → Bytes
  | .chunk other bytes => if other = number then bytes else []
  | .request _ | .finish _ _ _ | .abort _ _ | .manager _ => []

/-- The body of a request ends, or its connection. -/
def ServerEvent.Ends (number : Nat) : ServerEvent → Prop
  | .finish other _ _ | .abort other _ => other = number
  | _ => False

section Reads

variable {deploy : Deploy} {newUrl : String → Option Url} {server : Server} {number : Nat}
  {request : Request} {body : Bytes}

theorem Server.Reads.answer (reads : server.Reads number request body) (other : Request)
    (answer : Answer) : (server.answer other answer).Reads number request body :=
  ⟨reads.known, reads.body⟩

theorem Server.Reads.read (reads : server.Reads number request body) (other : Request)
    (read : Read) (args : List String) (color : Bool) :
    (server.read deploy other read args color).Reads number request body := by
  unfold Server.read
  split
  · exact reads.answer other _
  · exact ⟨reads.known, reads.body⟩

theorem Server.Reads.logsQuery (reads : server.Reads number request body) (other : Request)
    (url : Url) : (server.logsQuery deploy other url).Reads number request body := by
  unfold Server.logsQuery
  split
  · exact reads.answer other _
  · unfold Server.logs
    dsimp only
    split
    · exact reads.answer other _
    · exact reads.read other _ _ _

/-- A request of the page begins a body of its own. -/
theorem Server.Reads.begin (reads : server.Reads number request body) (other : Request) :
    Server.Reads
      { server with
        bodies := Function.update server.bodies server.next (some (other, []))
        next := server.next + 1 } number request body where
  known := Nat.lt_succ_of_lt reads.known
  body := by
    change Function.update server.bodies server.next _ number = _
    rw [Function.update_of_ne (Nat.ne_of_lt reads.known)]
    exact reads.body

theorem Server.Reads.route (reads : server.Reads number request body) (other : Request)
    (url : Url) : (server.route deploy other url).Reads number request body := by
  have answer := reads.answer other
  have read := @Server.Reads.read deploy server number request body reads other
  unfold Server.route
  dsimp only
  split
  · split
    · exact answer _
    · exact answer _
  · split
    · exact answer _
    · split
      · exact read _ _ _
      · split
        · exact read _ _ _
        · split
          · exact answer _
          · split
            · exact reads.logsQuery other _
            · split
              · split
                · exact answer _
                · exact reads.begin other
              · exact answer _

theorem Server.Reads.handle (reads : server.Reads number request body) (other : Request) :
    (server.handle deploy newUrl other).Reads number request body := by
  unfold Server.handle
  split
  · exact reads.answer other _
  · split
    · exact reads.answer other _
    · split
      · exact reads.answer other _
      · exact reads.route other _

/-- Another body goes on or is forgotten. -/
theorem Server.Reads.update (reads : server.Reads number request body) {other : Nat}
    (different : other ≠ number) (entry : Option (Request × Bytes)) :
    Server.Reads { server with bodies := Function.update server.bodies other entry } number request
      body where
  known := reads.known
  body := by
    change Function.update server.bodies other entry number = _
    rw [Function.update_of_ne different.symm]
    exact reads.body

/-- Nothing but its own chunks changes what has come in of a body. -/
theorem Server.Reads.step (reads : server.Reads number request body) {event : ServerEvent}
    {server' : Server} (step : server.step deploy newUrl event = some server')
    (open_ : ¬ event.Ends number) (small : (body ++ event.part number).length ≤ bodyLimit) :
    server'.Reads number request (body ++ event.part number) := by
  cases event with
  | request other =>
      cases step
      rw [ServerEvent.part, List.append_nil]
      exact reads.handle other
  | chunk other chunk =>
      obtain ⟨⟨request', body'⟩, reading, rfl⟩ := Option.map_eq_some_iff.mp step
      rw [ServerEvent.part] at small ⊢
      by_cases same : other = number
      · subst same
        rw [reads.body] at reading
        cases reading
        rw [if_pos rfl] at small ⊢
        rw [Server.chunk, if_neg (Nat.not_lt_of_le small)]
        exact ⟨reads.known, Function.update_self ..⟩
      · rw [if_neg same, List.append_nil]
        unfold Server.chunk
        split
        · exact (reads.update same none).answer _ _
        · exact reads.update same _
  | finish other id startedAt =>
      obtain ⟨⟨request', body'⟩, -, rfl⟩ := Option.map_eq_some_iff.mp step
      rw [ServerEvent.part, List.append_nil]
      have forgotten := reads.update open_ none
      unfold Server.finish
      dsimp only
      split
      · exact forgotten.answer _ _
      · exact ⟨forgotten.known, forgotten.body⟩
      · exact forgotten.answer _ _
  | abort other message =>
      obtain ⟨⟨request', body'⟩, -, rfl⟩ := Option.map_eq_some_iff.mp step
      rw [ServerEvent.part, List.append_nil]
      exact (reads.update open_ none).answer _ _
  | manager event =>
      rw [Server.step] at step
      rw [ServerEvent.part, List.append_nil]
      split at step
      · obtain ⟨manager, -, rfl⟩ := Option.map_eq_some_iff.mp step
        exact ⟨reads.known, reads.body⟩
      · cases step

theorem Server.Reads.run {events : List ServerEvent} {server' : Server}
    (reads : server.Reads number request body)
    (ran : server.run deploy newUrl events = some server')
    (open_ : ∀ event ∈ events, ¬ event.Ends number)
    (small : (body ++ events.flatMap (ServerEvent.part number)).length ≤ bodyLimit) :
    server'.Reads number request (body ++ events.flatMap (ServerEvent.part number)) := by
  induction events generalizing server body with
  | nil =>
      cases ran
      rw [List.flatMap_nil, List.append_nil]
      exact reads
  | cons event events ih =>
      obtain ⟨next, stepped, rest⟩ := Server.run_cons.mp ran
      rw [List.flatMap_cons, ← List.append_assoc] at small ⊢
      have first : (body ++ event.part number).length ≤ bodyLimit := by
        rw [List.length_append] at small
        omega
      exact ih (reads.step stepped (open_ event List.mem_cons_self) first) rest
        (fun other mem => open_ other (List.mem_cons_of_mem event mem)) small

end Reads

/-! ## Pressing a button -/

theorem validateRequest_of_fromPage {request : Request} {port : Nat} {token : String}
    (page : request.FromPage port token) : validateRequest request port token = .ok () := by
  obtain ⟨host, known, named, own⟩ := page.origin
  have site := page.site
  rw [List.mem_cons] at site
  have foreign : ¬ (request.secFetchSite.getD "" ≠ "" ∧
      request.secFetchSite.getD "" ∉ ["same-origin", "none"]) := by
    rw [not_and_or, not_not, not_not]
    exact site
  have mine : ¬ (request.origin ≠ some (originOf host) ∨ request.csrfToken ≠ some token) := by
    rw [not_or, not_not, not_not]
    exact ⟨own, page.token⟩
  have same : ¬ (request.origin ≠ none ∧ request.origin ≠ some (originOf host)) := fun other =>
    other.2 own
  rw [validateRequest, named]
  dsimp only
  rw [if_neg (not_not_intro known), if_neg same, if_neg foreign, if_neg mine,
    if_neg (not_not_intro page.contentType), ite_self]

theorem fromPage_pageRequest {host : String} {port : Nat} (host_ : host ∈ hosts port)
    (token action target : String) :
    (pageRequest host token action target).FromPage port token where
  host := ⟨host, host_, rfl, .inr rfl⟩
  site := by
    change "same-origin" ∈ ["", "same-origin", "none"]
    decide
  origin := ⟨host, host_, rfl, rfl⟩
  token := rfl
  contentType := by
    change jsonType.test ("application/json".toList.map Char.toLower) = true
    decide +kernel

/-- A request of the page gets to the await of its body. -/
theorem handle_of_posts {deploy : Deploy} {newUrl : String → Option Url} {server : Server}
    {request : Request} (posts : request.Posts server.port server.token)
    (url : (newUrl request.url).isSome) (small : request.contentLength.getD 0 ≤ bodyLimit) :
    server.handle deploy newUrl request =
      { server with
        bodies := Function.update server.bodies server.next (some (request, []))
        next := server.next + 1 } := by
  obtain ⟨url, url_⟩ := Option.isSome_iff_exists.mp url
  have path : ¬ (¬ "/".toList <+: request.url.toList ∨ "//".toList <+: request.url.toList) := by
    rw [posts.url]
    decide
  have static : STATIC.lookup "/api/actions" = none := by decide
  rw [Server.handle, validateRequest_of_fromPage posts.toFromPage]
  dsimp only
  rw [if_neg path, url_]
  simp [Server.route, posts.method, posts.url, static, Nat.not_lt_of_le small]

theorem active_modifyJob (slot : Slot) (write : Job → Job) :
    (slot.modifyJob write).active = slot.active := by
  unfold Slot.modifyJob
  cases slot.job with
  | none => rfl
  | some job => rfl

theorem active_launch (deploy : Deploy) (slot : Slot) (task : Task) :
    (launch deploy slot task).1.active = slot.active := by
  unfold launch
  dsimp only
  split
  · exact active_modifyJob slot _
  · exact (active_modifyJob _ _).trans (active_modifyJob slot _)

/-- A mutation that finds the slot free takes it. -/
theorem submit_free {slot : Slot} {action target : String} {args : List String}
    (wellFormed : actionArgs action target = .ok args) (free : slot.active = false)
    (deploy : Deploy) (id startedAt : String) :
    (submit deploy slot action target id startedAt).1.active = true ∧
      (submit deploy slot action target id startedAt).1.asks = slot.asks ++ [(action, target)] := by
  unfold submit
  rw [wellFormed, free]
  dsimp only
  rw [if_neg Bool.false_ne_true]
  split
  · exact ⟨rfl, asks_taken slot action target id startedAt _⟩
  · dsimp only
    rw [active_launch, asks_launch]
    exact ⟨rfl, asks_taken slot action target id startedAt _⟩

/-- What the end of the body of a button does. -/
structure Pressed (deploy : Deploy) (server server' : Server) (request : Request)
    (action target id startedAt : String) : Prop where
  submitted : Manager.step deploy server.manager (.submit action target id startedAt) =
    some server'.manager
  answered : server'.answers = server.answers ++ [(request, .submitted
    (submit deploy server.manager.slot action target id startedAt).2.2)]
  free : server.manager.slot.active = false → server'.manager.slot.active = true ∧
    server'.manager.slot.asks = server.manager.slot.asks ++ [(action, target)]
  busy : server.manager.slot.active = true → server'.manager = server.manager ∧
    server'.answers = server.answers ++ [(request, .submitted (.rejected inProgress))]

theorem pressed_submit {deploy : Deploy} (server : Server) (number : Nat) (request : Request)
    (body : Bytes) {action target : String} (button : (action, target) ∈ buttons)
    (id startedAt : String) :
    Pressed deploy server ((server.forget number).submit deploy request body action target id
      startedAt) request action target id startedAt := by
  have accepted := actionArgs_of_button (action, target) button
  obtain ⟨args, wellFormed⟩ : ∃ args, actionArgs action target = .ok args := by
    cases here : actionArgs action target with
    | ok args => exact ⟨args, rfl⟩
    | error fault =>
        rw [here] at accepted
        cases accepted
  constructor
  · rfl
  · rfl
  · intro free
    exact submit_free wellFormed free deploy id startedAt
  · intro taken
    have refused := submit_inProgress wellFormed taken deploy id startedAt
    constructor
    · change { server.manager with
        slot := (submit deploy server.manager.slot action target id startedAt).1
        tasks := server.manager.tasks ++
          (submit deploy server.manager.slot action target id startedAt).2.1.toList } = _
      rw [refused, Option.toList_none, List.append_nil]
    · change server.answers ++ [(request, .submitted
        (submit deploy server.manager.slot action target id startedAt).2.2)] = _
      rw [refused]

theorem finish_pageBody (deploy : Deploy) (server : Server) (number : Nat) (request : Request)
    (action target id startedAt : String) :
    server.finish deploy number request (pageBody action target) id startedAt =
      (server.forget number).submit deploy request (pageBody action target) action target id
        startedAt := by
  unfold Server.finish
  rw [actionOf_pageBody]

/-- Whatever has happened before, and whatever happens while the body of a button comes in,
the end of the body asks the manager for the action and the target of the button. -/
theorem pressed_of_run {deploy : Deploy} {newUrl : String → Option Url} {port : Nat}
    {token host action target : String} {before between : List ServerEvent}
    {server server' : Server}
    (ran : Server.run deploy newUrl { port, token } before = some server)
    (host_ : host ∈ hosts port) (button : (action, target) ∈ buttons)
    (url : (newUrl "/api/actions").isSome)
    (meanwhile : Server.run deploy newUrl
      (server.handle deploy newUrl (pageRequest host token action target)) between = some server')
    (open_ : ∀ event ∈ between, ¬ event.Ends server.next)
    (whole : between.flatMap (ServerEvent.part server.next) = pageBody action target)
    (id startedAt : String) :
    ∃ server'', server'.step deploy newUrl (.finish server.next id startedAt) = some server'' ∧
      Pressed deploy server' server'' (pageRequest host token action target) action target id
        startedAt := by
  have inv := (Server.inv_init deploy port token).run ran
  have posts : (pageRequest host token action target).Posts server.port server.token := by
    rw [inv.listens, inv.secret]
    exact { fromPage_pageRequest host_ token action target with method := rfl, url := rfl }
  have small := pageBody_le (action, target) button
  have declared : (pageRequest host token action target).contentLength.getD 0 ≤ bodyLimit := by
    dsimp only [pageRequest, Option.getD_some]
    exact small
  have begun : (server.handle deploy newUrl (pageRequest host token action target)).Reads
      server.next (pageRequest host token action target) [] := by
    rw [handle_of_posts posts url declared]
    exact ⟨Nat.lt_succ_self _, Function.update_self ..⟩
  have received := begun.run meanwhile open_
  rw [whole, List.nil_append] at received
  have read := (received small).body
  refine ⟨_, ?_, pressed_submit server' server.next _ (pageBody action target) button id startedAt⟩
  rw [Server.step, read, Option.map_some, finish_pageBody]

/-- The body of a button in two chunks, between which another site asks for the token. -/
def pressedEvents : List ServerEvent :=
  [.chunk 0 ((pageBody "stop" "api").take 9),
    .request { method := "GET", url := "/api/session", host := some "evil.test" },
    .chunk 0 ((pageBody "stop" "api").drop 9)]

theorem pressed_of_run_stop :
    ∃ server' server'', server'.step testDeploy (fun path => some ⟨path, []⟩)
        (.finish 0 "1f" "2026-01-01T00:00:00.000Z") = some server'' ∧
      Pressed testDeploy server' server'' (pageRequest "127.0.0.1:5002" "7a" "stop" "api") "stop"
        "api" "1f" "2026-01-01T00:00:00.000Z" := by
  have completes : (Server.run testDeploy (fun path => some ⟨path, []⟩)
      (Server.handle testDeploy (fun path => some ⟨path, []⟩) { port := 5002, token := "7a" }
        (pageRequest "127.0.0.1:5002" "7a" "stop" "api")) pressedEvents).isSome := by
    decide +kernel
  obtain ⟨server', meanwhile⟩ := Option.isSome_iff_exists.mp completes
  refine ⟨server', @pressed_of_run _ _ 5002 "7a" "127.0.0.1:5002" "stop" "api" [] _ _ _ rfl
    (by decide) (by decide) rfl meanwhile ?_ ?_ "1f" "2026-01-01T00:00:00.000Z"⟩
  · intro event mem
    rcases List.mem_cons.mp mem with rfl | mem
    · exact not_false
    · rcases List.mem_cons.mp mem with rfl | mem
      · exact not_false
      · cases List.mem_singleton.mp mem
        exact not_false
  · exact List.take_append_drop 9 _

end YoAuthorize.Manager
