import YoAuthorize.Manager.MutationSlot
import YoAuthorize.Manager.Server

/-!
# Who can ask the manager

In every state of the server, whatever the requests, their bodies and Docker do,
each job was asked for by a request of the manager's own page: it names a trusted
host, comes from the origin of that host, carries the token, and its body is the
JSON text of an action and a target.  The token itself is told to trusted requests only.
-/

namespace YoAuthorize.Manager

open Octets

/-! ## The jobs that were asked for -/

def Slot.asks (slot : Slot) : List (String × String) :=
  slot.jobs.map fun job => (job.action, job.target)

theorem asks_modifyJob {write : Job → Job} (same : ∀ job, (write job).action = job.action ∧
    (write job).target = job.target) (slot : Slot) : (slot.modifyJob write).asks = slot.asks := by
  unfold Slot.modifyJob
  cases slot.job with
  | none => rfl
  | some position =>
      apply List.ext_getElem?
      intro i
      rw [Slot.asks, Slot.asks, List.getElem?_map, List.getElem?_map, List.getElem?_modify]
      cases slot.jobs[i]? with
      | none => rfl
      | some job =>
          by_cases here : position = i
          · simp [here, (same job).1, (same job).2]
          · simp [here]

theorem asks_append (slot : Slot) (task : Task) (chunk : Bytes) :
    (append slot task chunk).1.asks = slot.asks := by
  unfold append
  exact @asks_modifyJob (fun job =>
    { job with
      truncated := job.truncated || outputLimit < (task.captured ++ chunk).length
      output := bufferToString ((task.captured ++ chunk).rtake outputLimit) })
    (fun _ => ⟨rfl, rfl⟩) slot

theorem asks_runCompose (deploy : Deploy) (slot : Slot) (task : Task) :
    (runCompose deploy slot task).1.asks = slot.asks := by
  simp only [runCompose, asks_append]

theorem asks_launch (deploy : Deploy) (slot : Slot) (task : Task) :
    (launch deploy slot task).1.asks = slot.asks := by
  have running := @asks_modifyJob (fun job => { job with state := .running })
    (fun _ => ⟨rfl, rfl⟩) slot
  unfold launch
  dsimp only
  split
  · exact running
  · rw [asks_runCompose]
    exact running

theorem asks_finally (slot : Slot) (finishedAt : String) :
    (slot.finally finishedAt).asks = slot.asks :=
  @asks_modifyJob (fun job => { job with finishedAt := some finishedAt })
    (fun _ => ⟨rfl, rfl⟩) slot

theorem asks_catch (slot : Slot) (fault : Fault) : (slot.catch fault).asks = slot.asks := by
  unfold Slot.catch
  apply asks_modifyJob
  intro job
  exact ⟨rfl, rfl⟩

theorem asks_proceed (deploy : Deploy) (slot : Slot) (task : Task) (call : DockerCall)
    (outcome : Except Fault Result) :
    (proceed deploy slot task call outcome).1.asks = slot.asks := by
  cases call with
  | networkList =>
      unfold proceed
      dsimp only
      split
      · rfl
      · split
        · rfl
        · split
          · rfl
          · exact asks_append _ _ _
  | networkInspect =>
      unfold proceed
      dsimp only
      split
      · rfl
      · split
        · rfl
        · dsimp only
          rw [asks_runCompose, asks_append]
  | networkCreate =>
      unfold proceed
      dsimp only
      split
      · rfl
      · exact asks_runCompose deploy slot task
  | compose =>
      unfold proceed
      dsimp only
      split
      · rfl
      · next result =>
          have exited := @asks_modifyJob (fun job => { job with exitCode := some result.code })
            (fun _ => ⟨rfl, rfl⟩) slot
          have timed : (if result.timedOut = true then
              (slot.modifyJob fun job => { job with exitCode := some result.code }).modifyJob
                fun job => { job with state := .timedOut }
              else slot.modifyJob fun job => { job with exitCode := some result.code }).asks =
                slot.asks := by
            split
            · refine (asks_modifyJob ?_ _).trans exited
              intro _
              exact ⟨rfl, rfl⟩
            · exact exited
          split
          · exact timed
          · refine (asks_modifyJob ?_ _).trans timed
            intro _
            exact ⟨rfl, rfl⟩

theorem asks_resume (deploy : Deploy) (slot : Slot) (task : Task) (call : DockerCall)
    (outcome : Except Fault Result) (finishedAt : String) :
    (resume deploy slot task call outcome finishedAt).1.asks = slot.asks := by
  have proceeded := asks_proceed deploy slot task call outcome
  unfold resume
  split
  · next same =>
      rw [same] at proceeded
      exact proceeded
  · next same =>
      rw [same] at proceeded
      rw [asks_finally]
      exact proceeded
  · next same =>
      rw [same] at proceeded
      rw [asks_finally, asks_catch]
      exact proceeded

theorem asks_checkedFiles (deploy : Deploy) (slot : Slot) (task : Task)
    (outcome : Except Fault Unit) (finishedAt : String) :
    (checkedFiles deploy slot task outcome finishedAt).1.asks = slot.asks := by
  cases outcome with
  | error fault =>
      exact @asks_modifyJob (fun job =>
        { job with
          state := .failed, error := some fault.message, finishedAt := some finishedAt })
        (fun _ => ⟨rfl, rfl⟩) slot
  | ok _ => exact asks_launch deploy slot task

/-- What the manager does on its own asks for nothing. -/
theorem asks_step {deploy : Deploy} {manager manager' : State} {event : Event}
    (internal : event.internal = true) (step : Manager.step deploy manager event = some manager') :
    manager'.slot.asks = manager.slot.asks := by
  cases event with
  | submit => cases internal
  | read => cases internal
  | preflight position outcome finishedAt =>
      simp only [Manager.step] at step
      split at step
      · cases step
      · split at step
        · cases step
        · cases step
          exact asks_checkedFiles _ _ _ _ _
  | command position event =>
      simp only [Manager.step] at step
      split at step
      · cases step
      · next task _ =>
          split at step
          · cases step
          · next call command _ =>
              split at step
              · cases step
              · cases step
                unfold report
                dsimp only
                split
                · exact asks_append _ _ _
                · rfl
  | resume position finishedAt =>
      simp only [Manager.step] at step
      split at step
      · cases step
      · split at step
        · cases step
          exact asks_resume _ _ _ _ _ _
        · cases step
  | readCommand position event =>
      simp only [Manager.step] at step
      split at step
      · cases step
      · split at step
        · cases step
        · cases step
          rfl
  | readEnd position =>
      simp only [Manager.step] at step
      split at step
      · cases step
        rfl
      · cases step

/-- The new job of a slot that is taken. -/
theorem asks_taken (slot : Slot) (action target id startedAt : String) (reference : Nat) :
    Slot.asks
        { slot with
          active := true
          job := some reference
          jobs := slot.jobs ++ [{ id, action, target, startedAt }] } =
      slot.asks ++ [(action, target)] :=
  List.map_append

/-- A call of `submit` asks for what it is given, or for nothing. -/
theorem asks_submit (deploy : Deploy) (slot : Slot) (action target id startedAt : String) :
    (submit deploy slot action target id startedAt).1.asks = slot.asks ∨
      (submit deploy slot action target id startedAt).1.asks = slot.asks ++ [(action, target)] := by
  unfold submit
  split
  · exact .inl rfl
  · dsimp only
    split
    · exact .inl rfl
    · right
      split
      · exact asks_taken slot action target id startedAt _
      · dsimp only
        rw [asks_launch]
        exact asks_taken slot action target id startedAt _

/-! ## Bodies -/

def actionKey : Json.Units := Json.encode "action".toList

def targetKey : Json.Units := Json.encode "target".toList

/-- The body is the text of an object with an action and a target and nothing else. -/
def Asks (body : Bytes) (action target : String) : Prop :=
  ∃ members, Json.parse (bufferToString body).toList = some (.object members) ∧
    (members.map Prod.fst).Perm [actionKey, targetKey] ∧
    (∃ units, (actionKey, .string units) ∈ members ∧ action = String.ofList (Json.decode units)) ∧
    ∃ units, (targetKey, .string units) ∈ members ∧ target = String.ofList (Json.decode units)

theorem exists_of_stringOf_member {members : List (Json.Units × Json.Value)} {name text : String}
    (found : stringOf (member members name) = some text) :
    ∃ units, (Json.encode name.toList, .string units) ∈ members ∧
      text = String.ofList (Json.decode units) := by
  unfold member at found
  cases here : members.find? fun entry => entry.1 = Json.encode name.toList with
  | none =>
      rw [here] at found
      cases found
  | some entry =>
      obtain ⟨name', value⟩ := entry
      have same : name' = Json.encode name.toList := by simpa using List.find?_some here
      have mem := List.mem_of_find?_eq_some here
      rw [here] at found
      subst same
      cases value with
      | string units => exact ⟨units, mem, (Option.some.inj found).symm⟩
      | _ => cases found

theorem count_intercalate {separator : UInt16} {names : List Json.Units} :
    names.length ≤ ([separator].intercalate names).count separator + 1 := by
  induction names with
  | nil => exact Nat.zero_le _
  | cons name names ih =>
      cases names with
      | nil => exact Nat.le_add_left 1 _
      | cons other names =>
          rw [List.intercalate_cons_cons, List.count_append, List.count_append,
            List.count_singleton_self]
          simp only [List.length_cons] at ih ⊢
          omega

theorem mem_names_of_member {members : List (Json.Units × Json.Value)} {name : String}
    (found : (member members name).isSome) : Json.encode name.toList ∈ members.map Prod.fst := by
  unfold member at found
  rw [Option.isSome_map, List.find?_isSome] at found
  obtain ⟨entry, mem, same⟩ := found
  rw [← of_decide_eq_true same]
  exact List.mem_map_of_mem mem

/-- A single name can be the joined text too, but then there is no action. -/
theorem names_of_joinedNames {members : List (Json.Units × Json.Value)}
    (joined : joinedNames members = Json.encode "action,target".toList)
    (action : (member members "action").isSome) :
    (members.map Prod.fst).Perm [actionKey, targetKey] := by
  have action := mem_names_of_member action
  unfold joinedNames at joined
  have perm := List.perm_insertionSort (· ≤ ·) (members.map Prod.fst)
  generalize (members.map Prod.fst).insertionSort (· ≤ ·) = names at joined perm
  have few : names.length ≤ 2 := by
    have count := @count_intercalate 0x2C names
    rw [joined] at count
    exact count
  rw [← perm.mem_iff] at action
  apply perm.symm.trans
  cases names with
  | nil => cases joined
  | cons name names =>
      cases names with
      | nil =>
          rw [List.intercalate_singleton] at joined
          rw [List.mem_singleton, joined] at action
          exact absurd action (by decide)
      | cons other names =>
          cases names with
          | cons => exact absurd few (by simp)
          | nil =>
              have split : actionKey ++ 0x2C :: targetKey = name ++ 0x2C :: other := by
                rw [List.intercalate_cons_cons, List.intercalate_singleton,
                  List.append_assoc] at joined
                exact joined.symm
              obtain ⟨rfl, -, rfl⟩ := (List.append_cons_inj_of_notMem
                (by decide : 0x2C ∉ actionKey) (by decide : 0x2C ∉ targetKey)).mp split
              exact List.Perm.refl _

/-- What the manager is asked to do is what the body says. -/
theorem asks_of_actionOf {body : Bytes} {action target : String}
    (read : (parseBody body).bind actionOf = .ok (some action, some target)) :
    Asks body action target := by
  unfold parseBody at read
  cases parsed : Json.parse (bufferToString body).toList with
  | none =>
      rw [parsed] at read
      cases read
  | some value =>
      rw [parsed] at read
      change actionOf value = _ at read
      cases value with
      | object members =>
          simp only [actionOf] at read
          split at read
          · next joined =>
              injection read with read
              injection read with actionRead targetRead
              have found : (member members "action").isSome := by
                cases here : member members "action" with
                | none =>
                    rw [here] at actionRead
                    cases actionRead
                | some value => rfl
              exact ⟨members, parsed, names_of_joinedNames joined found,
                exists_of_stringOf_member actionRead, exists_of_stringOf_member targetRead⟩
          · cases read
      | _ => cases read

/-! ## Requests -/

/-- The request names a trusted host, and no other site has made the browser send it. -/
structure Request.Trusted (request : Request) (port : Nat) : Prop where
  host : ∃ host ∈ hosts port, request.host = some host ∧
    (request.origin = none ∨ request.origin = some (originOf host))
  site : request.secFetchSite.getD "" ∈ ["", "same-origin", "none"]

/-- The request is one of the page of the manager. -/
structure Request.FromPage (request : Request) (port : Nat) (token : String) : Prop extends
    request.Trusted port where
  origin : ∃ host ∈ hosts port, request.host = some host ∧ request.origin = some (originOf host)
  token : request.csrfToken = some token
  contentType : jsonType.test ((request.contentType.getD "").toList.map Char.toLower) = true

/-- The checks that every request has to pass, whatever its method. -/
theorem trusted_of_checks {request : Request} {port : Nat} {host : String}
    (named : request.host = some host) (known : ¬ host ∉ hosts port)
    (origin : ¬ (request.origin ≠ none ∧ request.origin ≠ some (originOf host)))
    (site : ¬ (request.secFetchSite.getD "" ≠ "" ∧
      request.secFetchSite.getD "" ∉ ["same-origin", "none"])) : request.Trusted port := by
  rw [not_not] at known
  rw [not_and_or, not_not, not_not] at origin site
  refine ⟨⟨host, known, named, origin⟩, ?_⟩
  rw [List.mem_cons]
  exact site

theorem trusted_of_validateRequest {request : Request} {port : Nat} {token : String}
    (valid : validateRequest request port token = .ok ()) :
    request.Trusted port ∧ (request.method = "POST" → request.FromPage port token) := by
  unfold validateRequest at valid
  split at valid
  · cases valid
  · next host named =>
      split at valid
      · cases valid
      · next known =>
          split at valid
          · cases valid
          · next origin =>
              split at valid
              · cases valid
              · next site =>
                  have trusted := trusted_of_checks named known origin site
                  refine ⟨trusted, ?_⟩
                  intro post
                  rw [if_pos post] at valid
                  split at valid
                  · cases valid
                  · next own =>
                      split at valid
                      · cases valid
                      · next contentType =>
                          rw [not_not] at known contentType
                          rw [not_or, not_not, not_not] at own
                          exact ⟨trusted, ⟨host, known, named, own.1⟩, own.2, contentType⟩

/-- A request that is not trusted is forbidden. -/
theorem forbidden_of_not_trusted {request : Request} {port : Nat} {token : String}
    (foreign : ¬ request.Trusted port) :
    ∃ message, validateRequest request port token = .error (.of 403 message) := by
  unfold validateRequest
  split
  · exact ⟨_, rfl⟩
  · next host named =>
      split
      · exact ⟨_, rfl⟩
      · next known =>
          split
          · exact ⟨_, rfl⟩
          · next origin =>
              split
              · exact ⟨_, rfl⟩
              · next site => exact absurd (trusted_of_checks named known origin site) foreign

/-! ## What holds in every state -/

/-- A request whose body is read. -/
structure Request.Posts (request : Request) (port : Nat) (token : String) : Prop extends
    request.FromPage port token where
  method : request.method = "POST"
  url : request.url = "/api/actions"

/-- What an answer tells fits the request. -/
structure Fits (port : Nat) (request : Request) (answer : Answer) : Prop where
  session : ∀ token, answer = .session token →
    request.Trusted port ∧ request.method = "GET" ∧ request.url = "/api/session"
  foreign : ¬ request.Trusted port → ∃ message, answer = .fault (.of 403 message)

structure Server.Inv (deploy : Deploy) (port : Nat) (token : String) (server : Server) : Prop where
  listens : server.port = port
  secret : server.token = token
  manager : Reach deploy {} server.manager
  bodies : ∀ number request body, server.bodies number = some (request, body) →
    request.Posts port token ∧ body.length ≤ bodyLimit
  asked : ∀ request body action target, (request, body, action, target) ∈ server.asked →
    request.Posts port token ∧ body.length ≤ bodyLimit ∧ Asks body action target
  jobs : server.manager.slot.asks.Sublist (server.asked.map fun entry => entry.2.2)
  answers : ∀ request answer, (request, answer) ∈ server.answers → Fits port request answer

section Steps

variable {deploy : Deploy} {port : Nat} {token : String} {server : Server}

theorem Server.Inv.answer (inv : server.Inv deploy port token) {request : Request} {answer : Answer}
    (fits : Fits port request answer) : (server.answer request answer).Inv deploy port token where
  listens := inv.listens
  secret := inv.secret
  manager := inv.manager
  bodies := inv.bodies
  asked := inv.asked
  jobs := inv.jobs
  answers := by
    intro request' answer' mem
    rcases List.mem_append.mp mem with before | last
    · exact inv.answers request' answer' before
    · cases List.mem_singleton.mp last
      exact fits

theorem fits_trusted {request : Request} (trusted : request.Trusted port)
    {answer : Answer} (other : ∀ token, answer ≠ .session token) : Fits port request answer :=
  ⟨fun token same => absurd same (other token), fun foreign => absurd trusted foreign⟩

theorem fits_fault {request : Request} (trusted : request.Trusted port)
    (fault : Fault) : Fits port request (.fault fault) :=
  fits_trusted trusted fun _ same => by cases same

theorem Server.Inv.forget (inv : server.Inv deploy port token) (number : Nat) :
    (server.forget number).Inv deploy port token :=
  { inv with
    bodies := by
      intro other request body found
      change Function.update server.bodies number none other = _ at found
      by_cases same : other = number
      · rw [same, Function.update_self] at found
        cases found
      · rw [Function.update_of_ne same] at found
        exact inv.bodies other request body found }

theorem Server.Inv.body (inv : server.Inv deploy port token) (number next : Nat) {request : Request}
    {body : Bytes} (posts : request.Posts port token)
    (small : body.length ≤ bodyLimit) :
    Server.Inv deploy port token
      { server with
        bodies := Function.update server.bodies number (some (request, body)), next } :=
  { inv with
    bodies := by
      intro other request' body' found
      change Function.update server.bodies number _ other = _ at found
      by_cases same : other = number
      · rw [same, Function.update_self] at found
        cases found
        exact ⟨posts, small⟩
      · rw [Function.update_of_ne same] at found
        exact inv.bodies other request' body' found }

theorem Server.Inv.read (inv : server.Inv deploy port token) {request : Request}
    (trusted : request.Trusted port) (read : Read) (args : List String) (color : Bool) :
    (server.read deploy request read args color).Inv deploy port token := by
  unfold Server.read
  split
  · exact inv.answer (fits_fault trusted _)
  · next manager accepted =>
      have stepped : Steps deploy server.manager manager := by
        refine ⟨.read args color, ?_⟩
        rw [Manager.step, accepted]
      have same : manager.slot = server.manager.slot := by
        unfold State.read at accepted
        split at accepted
        · cases accepted
        · cases accepted
          rfl
      have kept : Server.Inv deploy port token { server with manager } :=
        { inv with
          manager := inv.manager.tail stepped
          jobs := by
            change manager.slot.asks.Sublist _
            rw [same]
            exact inv.jobs }
      exact kept.answer (fits_trusted trusted fun _ same => by cases same)

theorem Server.Inv.route (inv : server.Inv deploy port token) {request : Request}
    (valid : validateRequest request port token = .ok ()) (url : Url) :
    (server.route deploy request url).Inv deploy port token := by
  obtain ⟨trusted, page⟩ := trusted_of_validateRequest valid
  have plain {answer : Answer} (other : ∀ token, answer ≠ .session token) :
      (server.answer request answer).Inv deploy port token :=
        inv.answer (fits_trusted trusted other)
  have fault (fault : Fault) : (server.answer request (.fault fault)).Inv deploy port token :=
    inv.answer (fits_fault trusted fault)
  unfold Server.route
  dsimp only
  split
  · split
    · exact plain fun _ same => by cases same
    · exact fault _
  · split
    · next session =>
        rw [decide_eq_true_eq] at session
        apply inv.answer
        exact ⟨fun _ _ => ⟨trusted, session⟩, fun foreign => absurd trusted foreign⟩
    · split
      · exact inv.read trusted _ _ _
      · split
        · exact inv.read trusted _ _ _
        · split
          · exact plain fun _ same => by cases same
          · split
            · unfold Server.logsQuery
              split
              · exact fault _
              · unfold Server.logs
                dsimp only
                split
                · exact fault _
                · exact inv.read trusted _ _ _
            · split
              · next post =>
                  split
                  · exact fault _
                  · exact inv.body _ _ { page post.1 with method := post.1, url := post.2 }
                      (Nat.zero_le _)
              · exact fault _

theorem Server.Inv.handle (inv : server.Inv deploy port token) (newUrl : String → Option Url)
    (request : Request) : (server.handle deploy newUrl request).Inv deploy port token := by
  unfold Server.handle
  rw [inv.listens, inv.secret]
  split
  · next fault refused =>
      by_cases trusted : request.Trusted port
      · exact inv.answer (fits_fault trusted fault)
      · obtain ⟨message, forbidden⟩ := @forbidden_of_not_trusted request port token trusted
        rw [forbidden] at refused
        cases refused
        apply inv.answer
        constructor
        · intro _ same
          cases same
        · exact fun _ => ⟨message, rfl⟩
  · next valid =>
      have trusted := (trusted_of_validateRequest valid).1
      split
      · exact inv.answer (fits_fault trusted _)
      · split
        · exact inv.answer (fits_fault trusted _)
        · exact inv.route valid _

theorem Server.Inv.submit (inv : server.Inv deploy port token) {request : Request} {body : Bytes}
    (posts : request.Posts port token) (small : body.length ≤ bodyLimit)
    {action target : String} (asks : Asks body action target) (id startedAt : String) :
    (server.submit deploy request body action target id startedAt).Inv deploy port token := by
  have stepped : Steps deploy server.manager
      { server.manager with
        slot := (Manager.submit deploy server.manager.slot action target id startedAt).1
        tasks := server.manager.tasks ++
          (Manager.submit deploy server.manager.slot action target id startedAt).2.1.toList } :=
    ⟨.submit action target id startedAt, rfl⟩
  unfold Server.submit
  apply Server.Inv.answer
  · exact
      { inv with
        manager := inv.manager.tail stepped
        asked := by
          intro request' body' action' target' mem
          rcases List.mem_append.mp mem with before | last
          · exact inv.asked request' body' action' target' before
          · cases List.mem_singleton.mp last
            exact ⟨posts, small, asks⟩
        jobs := by
          change
            (Manager.submit deploy server.manager.slot action target id startedAt).1.asks.Sublist
            ((server.asked ++ [(request, body, action, target)]).map _)
          rw [List.map_append]
          rcases asks_submit deploy server.manager.slot action target id startedAt with
            same | more
          · rw [same]
            exact inv.jobs.trans (List.sublist_append_left _ _)
          · rw [more]
            exact inv.jobs.append (List.Sublist.refl _) }
  · exact fits_trusted posts.toTrusted fun _ same => by cases same

theorem Server.Inv.finish (inv : server.Inv deploy port token) {number : Nat} {request : Request}
    {body : Bytes} (reading : server.bodies number = some (request, body)) (id startedAt : String) :
    (server.finish deploy number request body id startedAt).Inv deploy port token := by
  obtain ⟨posts, small⟩ := inv.bodies number request body reading
  have forgotten := inv.forget number
  unfold Server.finish
  dsimp only
  split
  · exact forgotten.answer (fits_fault posts.toTrusted _)
  · next read => exact forgotten.submit posts small (asks_of_actionOf read) id startedAt
  · exact forgotten.answer (fits_fault posts.toTrusted _)

theorem Server.Inv.chunk (inv : server.Inv deploy port token) {number : Nat} {request : Request}
    {body : Bytes} (reading : server.bodies number = some (request, body)) (chunk : Bytes) :
    (server.chunk number request body chunk).Inv deploy port token := by
  obtain ⟨posts, -⟩ := inv.bodies number request body reading
  unfold Server.chunk
  split
  · exact (inv.forget number).answer (fits_fault posts.toTrusted _)
  · next small => exact inv.body number server.next posts (Nat.le_of_not_lt small)

theorem Server.Inv.step (inv : server.Inv deploy port token) {newUrl : String → Option Url}
    {event : ServerEvent} {server' : Server}
    (step : server.step deploy newUrl event = some server') :
    server'.Inv deploy port token := by
  cases event with
  | request request =>
      cases step
      exact inv.handle newUrl request
  | chunk number chunk =>
      obtain ⟨body, reading, rfl⟩ := Option.map_eq_some_iff.mp step
      exact inv.chunk reading chunk
  | finish number id startedAt =>
      obtain ⟨body, reading, rfl⟩ := Option.map_eq_some_iff.mp step
      exact inv.finish reading id startedAt
  | abort number message =>
      obtain ⟨body, reading, rfl⟩ := Option.map_eq_some_iff.mp step
      exact (inv.forget number).answer
        (fits_fault (inv.bodies number body.1 body.2 reading).1.toTrusted _)
  | manager event =>
      rw [Server.step] at step
      split at step
      · next internal =>
          obtain ⟨manager, stepped, rfl⟩ := Option.map_eq_some_iff.mp step
          exact
            { inv with
              manager := inv.manager.tail ⟨event, stepped⟩
              jobs := by
                change manager.slot.asks.Sublist _
                rw [asks_step internal stepped]
                exact inv.jobs }
      · cases step

end Steps

theorem Server.inv_init (deploy : Deploy) (port : Nat) (token : String) :
    Server.Inv deploy port token { port, token } where
  listens := rfl
  secret := rfl
  manager := .refl
  bodies := fun _ _ _ found => by cases found
  asked := fun _ _ _ _ mem => by cases mem
  jobs := List.Sublist.refl _
  answers := fun _ _ mem => by cases mem

theorem Server.run_cons {deploy : Deploy} {newUrl : String → Option Url} {server server' : Server}
    {event : ServerEvent} {events : List ServerEvent} :
    server.run deploy newUrl (event :: events) = some server' ↔
      ∃ next, server.step deploy newUrl event = some next ∧
        next.run deploy newUrl events = some server' := by
  unfold Server.run
  rw [List.foldlM_cons]
  exact Option.bind_eq_some_iff

theorem Server.Inv.run {deploy : Deploy} {port : Nat} {token : String}
    {newUrl : String → Option Url} {server server' : Server} {events : List ServerEvent}
    (inv : server.Inv deploy port token) (ran : server.run deploy newUrl events = some server') :
    server'.Inv deploy port token := by
  induction events generalizing server with
  | nil =>
      cases ran
      exact inv
  | cons event events ih =>
      obtain ⟨next, stepped, rest⟩ := Server.run_cons.mp ran
      exact ih (inv.step stepped) rest

/-- What a state of the server promises. -/
structure Server.Guarded (server : Server) (port : Nat) (token : String) : Prop where
  /-- Every job was asked for by a body of its own. -/
  jobs : ∃ asked : List (Request × Bytes), List.Forall₂ (fun job entry =>
      Request.Posts entry.1 port token ∧ entry.2.length ≤ bodyLimit ∧
        Asks entry.2 job.action job.target) server.manager.slot.jobs asked ∧
    asked.Sublist (server.asked.map fun entry => (entry.1, entry.2.1))
  small : ∀ number request body, server.bodies number = some (request, body) →
    body.length ≤ bodyLimit
  session : ∀ request told, (request, .session told) ∈ server.answers →
    request.Trusted port ∧ request.method = "GET" ∧ request.url = "/api/session"
  foreign : ∀ request answer, (request, answer) ∈ server.answers → ¬ request.Trusted port →
    ∃ message, answer = .fault (.of 403 message)

theorem Server.Inv.guarded {deploy : Deploy} {port : Nat} {token : String} {server : Server}
    (inv : server.Inv deploy port token) : server.Guarded port token where
  jobs := by
    obtain ⟨asked, sublist, same⟩ := List.sublist_map_iff.mp inv.jobs
    refine ⟨asked.map fun entry => (entry.1, entry.2.1), ?_, sublist.map _⟩
    have paired : List.Forall₂ Eq (asked.map fun entry => entry.2.2)
        (server.manager.slot.jobs.map fun job => (job.action, job.target)) := by
      rw [List.forall₂_eq_eq_eq]
      exact same.symm
    have sound : ∀ entry ∈ asked, Request.Posts entry.1 port token ∧
        entry.2.1.length ≤ bodyLimit ∧ Asks entry.2.1 entry.2.2.1 entry.2.2.2 :=
      fun entry mem => inv.asked entry.1 entry.2.1 entry.2.2.1 entry.2.2.2 (sublist.subset mem)
    rw [List.forall₂_map_left_iff, List.forall₂_map_right_iff] at paired
    rw [List.forall₂_map_right_iff]
    apply List.Forall₂.flip
    apply ((List.forall₂_and_left asked server.manager.slot.jobs).mpr ⟨sound, paired⟩).imp
    intro entry job found
    obtain ⟨⟨posts, small, asks⟩, same⟩ := found
    rw [same] at asks
    exact ⟨posts, small, asks⟩
  small := fun number request body reading => (inv.bodies number request body reading).2
  session := fun request told mem => (inv.answers request _ mem).session told rfl
  foreign := fun request answer mem => (inv.answers request answer mem).foreign

/-- Whatever is sent to the server, and in whatever order, only its own page has asked for the
jobs. -/
theorem server_guarded {deploy : Deploy} {newUrl : String → Option Url} {port : Nat}
    {token : String} {events : List ServerEvent} {server : Server}
    (ran : Server.run deploy newUrl { port, token } events = some server) :
    server.Guarded port token :=
  ((Server.inv_init deploy port token).run ran).guarded

/-- A request of the page, without its body. -/
def testRequest : Request where
  method := "POST"
  url := "/api/actions"
  host := some "127.0.0.1:5002"
  origin := some "http://127.0.0.1:5002"
  secFetchSite := some "same-origin"
  csrfToken := some "7a"
  contentType := some "application/json"

/-- The page asks in two chunks, while another site has the same request sent. -/
def guardedEvents : List ServerEvent :=
  [.request { method := "GET", url := "/api/session", host := some "127.0.0.1:5002" },
    .request testRequest, .chunk 0 (utf8 "\x7b\"target\":\"api\","),
    .request { testRequest with origin := some "http://localhost:8080" },
    .chunk 0 (utf8 "\"action\":\"stop\"\x7d"), .finish 0 "1f" "2026-01-01T00:00:00.000Z"]

theorem server_guarded_stop :
    ∃ server, Server.run testDeploy (fun path => some ⟨path, []⟩) { port := 5002, token := "7a" }
        guardedEvents = some server ∧ server.Guarded 5002 "7a" ∧
      server.manager.slot.asks = [("stop", "api")] ∧
      server.answers.map Prod.snd = [.session "7a", .fault (.of 403 "Untrusted Origin."),
        .submitted (.job (some 0))] := by
  have ran : ((Server.run testDeploy (fun path => some ⟨path, []⟩)
      { port := 5002, token := "7a" } guardedEvents).map fun server =>
        (server.manager.slot.asks, server.answers.map Prod.snd)) =
      some ([("stop", "api")], [.session "7a", .fault (.of 403 "Untrusted Origin."),
        .submitted (.job (some 0))]) := by
    decide +kernel
  obtain ⟨server, ran, results⟩ := Option.map_eq_some_iff.mp ran
  obtain ⟨asks, answers⟩ := Prod.mk.inj results
  exact ⟨server, ran, server_guarded ran, asks, answers⟩

end YoAuthorize.Manager
