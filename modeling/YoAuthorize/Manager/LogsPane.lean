import Mathlib.Logic.Relation
import YoAuthorize.Manager.Ansi

/-!
# The logs of the page

`loadLogs` and `selectLogs` of `public/app.js` with the controls that call them.
A request for logs may still be on its way when another service is selected, when
the timer of the live logs fires or when the button is pressed; its reply is shown
only if nothing else was selected since.

The page runs undisturbed from one event to the next.  A request is a call of
`loadLogs` at its await, with the variables that it reads again; the timers are those
of `setTimeout` that have neither fired nor been cleared.
-/

namespace YoAuthorize.Manager

/-! ## The page -/

structure LogRequest : Type where
  service : String
  tail : String
  revision : Nat
  deriving DecidableEq, Repr

/-- The body of a reply. -/
structure LogResult : Type where
  output : List Char
  truncated : Bool
  deriving DecidableEq, Repr

/-- What the `await` of a request gives; an error is its message. -/
abbrev LogOutcome : Type := Except String LogResult

/-- `answers` are the requests that have ended, which the code does not keep. -/
structure LogsPane : Type where
  service : String := "api"
  tail : String := "200"
  live : Bool := false
  refreshDisabled : Bool := false
  note : String := "Bounded snapshots. Live polling is off by default."
  output : Node :=
    { children := [{ textContent := "Select a service to inspect its logs.".toList, style := {} }] }
  logsLoading : Bool := false
  logsPending : Bool := false
  logRevision : Nat := 0
  logTimer : Option Nat := none
  timers : List Nat := []
  nextTimer : Nat := 1
  requests : List LogRequest := []
  answers : List (LogRequest × LogOutcome) := []

def LogsPane.clearTimeout (pane : LogsPane) : LogsPane :=
  { pane with timers := pane.timers.filter fun timer => some timer ≠ pane.logTimer }

def LogsPane.setTimeout (pane : LogsPane) : LogsPane :=
  { pane with
    logTimer := some pane.nextTimer
    timers := pane.timers ++ [pane.nextTimer]
    nextTimer := pane.nextTimer + 1 }

def noSnapshot : List Char := "No current snapshot.".toList

/-- `loadLogs` up to its await. -/
def LogsPane.loadLogs (pane : LogsPane) : LogsPane :=
  let pane := pane.clearTimeout
  if pane.logsLoading then { pane with logsPending := true }
  else
    { pane with
      logsLoading := true
      refreshDisabled := true
      note := "Fetching " ++ pane.service ++ "..."
      requests := pane.requests ++
        [{ service := pane.service, tail := pane.tail, revision := pane.logRevision }] }

def LogResult.text (result : LogResult) : List Char :=
  if result.output = [] then "No logs returned (the container may not exist yet).".toList
  else result.output

/-- The `try` and the `catch` of `loadLogs` after the await; `time` is the local time. -/
def LogsPane.present (pane : LogsPane) (request : LogRequest) (outcome : LogOutcome)
    (time : String) : LogsPane :=
  if request.revision ≠ pane.logRevision then pane
  else
    match outcome with
    | .ok result =>
        { pane with
          output := renderAnsi pane.output result.text result.truncated []
          note := request.service ++ " / snapshot at " ++ time ++
            if result.truncated then " / output truncated" else "" }
    | .error message =>
        { pane with
          note := "Logs unavailable: " ++ message
          output := renderAnsi pane.output noSnapshot false [] }

/-- The `finally` of `loadLogs`. -/
def LogsPane.finally (pane : LogsPane) : LogsPane :=
  let pane := { pane with logsLoading := false, refreshDisabled := false }
  if pane.logsPending then { pane with logsPending := false }.loadLogs
  else if pane.live then pane.setTimeout
  else pane

/-- A request ends. -/
def LogsPane.settle (pane : LogsPane) (position : Nat) (request : LogRequest)
    (outcome : LogOutcome) (time : String) : LogsPane :=
  LogsPane.finally
    { pane.present request outcome time with
      requests := pane.requests.eraseIdx position
      answers := pane.answers ++ [(request, outcome)] }

def LogsPane.selectLogs (pane : LogsPane) : LogsPane :=
  LogsPane.loadLogs
    { pane with
      logRevision := pane.logRevision + 1
      output := renderAnsi pane.output noSnapshot false []
      note := "Waiting for " ++ pane.service ++ " logs..." }

/-! ## Events -/

/-- A service is selected in the list or by the button of its row. -/
inductive LogsEvent : Type
  | refresh
  | selectService (service : String)
  | selectTail (tail : String)
  | toggleLive
  | fire (timer : Nat)
  | settle (position : Nat) (outcome : LogOutcome) (time : String)

/-- A step, where the event can happen. -/
def LogsPane.step (pane : LogsPane) : LogsEvent → Option LogsPane
  | .refresh => if pane.refreshDisabled then none else some pane.loadLogs
  | .selectService service => some { pane with service }.selectLogs
  | .selectTail tail => some { pane with tail }.selectLogs
  | .toggleLive =>
      let pane := { pane with live := !pane.live }.clearTimeout
      some (if pane.live ∧ ¬ pane.logsLoading then pane.loadLogs else pane)
  | .fire timer =>
      if timer ∈ pane.timers then some { pane with timers := pane.timers.erase timer }.loadLogs
      else none
  | .settle position outcome time =>
      pane.requests[position]?.map fun request => pane.settle position request outcome time

abbrev LogsPane.Reach : LogsPane → LogsPane → Prop :=
  Relation.ReflTransGen fun pane pane' => ∃ event, LogsPane.step pane event = some pane'

/-! ## What the pane shows -/

/-- The request is no newer than the selection, and is for it where it is as new. -/
structure LogRequest.Fits (request : LogRequest) (service tail : String) (revision : Nat) :
    Prop where
  notNewer : request.revision ≤ revision
  selection : request.revision = revision → request.service = service ∧ request.tail = tail

/-- The last reply since a selection. -/
def lastAnswer (answers : List (LogRequest × LogOutcome)) (revision : Nat) :
    Option (LogRequest × LogOutcome) :=
  (answers.filter fun answer => answer.1.revision = revision).getLast?

def LogOutcome.drawn : LogOutcome → List Span
  | .ok result => renderText result.text result.truncated []
  | .error _ => renderText noSnapshot false []

/-- The output is the last reply for the selection, or says that there is none. -/
structure ShowsAnswer (output : Node) (answers : List (LogRequest × LogOutcome)) (revision : Nat) :
    Prop where
  current : output.Current
  some : ∀ answer ∈ lastAnswer answers revision, output.children = answer.2.drawn
  none : lastAnswer answers revision = none →
    output.children =
      if revision = 0 then ({} : LogsPane).output.children else renderText noSnapshot false []

/-- What holds between any two statements of the code. -/
structure LogsPane.Coherent (pane : LogsPane) : Prop where
  idle : pane.logsLoading = false → pane.requests = [] ∧ pane.logsPending = false
  busy : pane.logsLoading = true → ∃ request, pane.requests = [request]
  disabled : pane.refreshDisabled = pane.logsLoading
  timers : pane.timers = [] ∨ ∃ timer, pane.logTimer = some timer ∧ pane.timers = [timer]
  asked : ∀ request ∈ pane.requests, request.Fits pane.service pane.tail pane.logRevision
  answers : ∀ answer ∈ pane.answers, answer.1.Fits pane.service pane.tail pane.logRevision
  shown : ShowsAnswer pane.output pane.answers pane.logRevision

/-- What holds between two events. -/
structure LogsPane.Inv (pane : LogsPane) : Prop extends LogsPane.Coherent pane where
  asks : pane.logsLoading = true →
    (∀ request ∈ pane.requests, request.revision = pane.logRevision) ∨ pane.logsPending = true
  answered : pane.logsLoading = false → pane.logRevision ≠ 0 →
    lastAnswer pane.answers pane.logRevision ≠ none
  waits : pane.timers ≠ [] → pane.live = true ∧ pane.logsLoading = false
  polls : pane.live = true → pane.logsLoading = true ∨ pane.timers ≠ []

theorem LogsPane.inv_init : LogsPane.Inv {} where
  idle _ := ⟨rfl, rfl⟩
  busy loading := by cases loading
  disabled := rfl
  timers := .inl rfl
  asked := List.forall_mem_nil _
  answers := List.forall_mem_nil _
  shown :=
    { current := fun _ mem => by cases mem
      some := fun _ mem => by cases mem
      none := fun _ => rfl }
  asks loading := by cases loading
  answered _ selected := absurd rfl selected
  waits timers := absurd rfl timers
  polls live := by cases live

theorem LogsPane.Coherent.clearTimeout {pane : LogsPane} (coherent : pane.Coherent) :
    pane.clearTimeout.Coherent ∧ pane.clearTimeout.timers = [] := by
  have cleared : pane.clearTimeout.timers = [] := by
    unfold LogsPane.clearTimeout
    rcases coherent.timers with none_ | ⟨timer, logTimer, timers⟩
    · simp [none_]
    · simp [timers, logTimer]
  exact ⟨{ coherent with timers := .inl cleared }, cleared⟩

/-- A request for the selection is asked, or will be. -/
theorem LogsPane.Coherent.loadLogs {pane : LogsPane} (coherent : pane.Coherent) :
    pane.loadLogs.Inv ∧ pane.loadLogs.logsLoading = true := by
  obtain ⟨cleared, none_⟩ := coherent.clearTimeout
  unfold LogsPane.loadLogs
  dsimp only
  split
  · next loading =>
      refine ⟨?_, loading⟩
      exact
        { cleared with
          idle := fun idle => by rw [loading] at idle; cases idle
          asks := fun _ => .inr rfl
          answered := fun idle => by rw [loading] at idle; cases idle
          waits := fun timers => absurd none_ timers
          polls := fun _ => .inl loading }
  · next idle =>
      rw [Bool.not_eq_true] at idle
      have requests : pane.clearTimeout.requests = [] := (cleared.idle idle).1
      rw [requests]
      refine ⟨?_, rfl⟩
      exact
        { cleared with
          idle := fun idle => by cases idle
          busy := fun _ => ⟨_, rfl⟩
          disabled := rfl
          asked := by
            rw [List.nil_append, List.forall_mem_singleton]
            exact ⟨Nat.le_refl _, fun _ => ⟨rfl, rfl⟩⟩
          asks := fun _ => .inl (by
            rw [List.nil_append, List.forall_mem_singleton])
          answered := fun idle => by cases idle
          waits := fun timers => absurd none_ timers
          polls := fun _ => .inl rfl }

/-! ## Steps -/

theorem lastAnswer_append (answers : List (LogRequest × LogOutcome)) (revision : Nat)
    (request : LogRequest) (outcome : LogOutcome) :
    lastAnswer (answers ++ [(request, outcome)]) revision =
      if request.revision = revision then some (request, outcome)
      else lastAnswer answers revision := by
  unfold lastAnswer
  rw [List.filter_append]
  by_cases same : request.revision = revision
  · rw [if_pos same, List.filter_cons_of_pos (by simpa using same), List.filter_nil,
      List.getLast?_concat]
  · rw [if_neg same, List.filter_cons_of_neg (by simpa using same), List.filter_nil,
      List.append_nil]

/-- A selection has no replies yet. -/
theorem lastAnswer_succ {answers : List (LogRequest × LogOutcome)} {revision : Nat}
    (older : ∀ answer ∈ answers, answer.1.revision ≤ revision) :
    lastAnswer answers (revision + 1) = none := by
  unfold lastAnswer
  rw [List.getLast?_eq_none_iff, List.filter_eq_nil_iff]
  intro answer mem same
  have bound := older answer mem
  rw [decide_eq_true_eq] at same
  omega

theorem LogRequest.Fits.select {request : LogRequest} {service tail : String} {revision : Nat}
    (fits : request.Fits service tail revision) (service' tail' : String) :
    request.Fits service' tail' (revision + 1) := by
  have notNewer := fits.notNewer
  refine ⟨by omega, ?_⟩
  intro same
  omega

/-- After a selection of any kind. -/
theorem LogsPane.Coherent.selectLogs {pane : LogsPane} (coherent : pane.Coherent)
    (service tail : String) : ({ pane with service, tail }.selectLogs).Inv := by
  have older : ∀ answer ∈ pane.answers, answer.1.revision ≤ pane.logRevision :=
    fun answer mem => (coherent.answers answer mem).notNewer
  have drawn := coherent.shown.current.renderAnsi noSnapshot false []
  apply And.left
  apply LogsPane.Coherent.loadLogs
  exact
    { coherent with
      asked := fun request mem => (coherent.asked request mem).select service tail
      answers := fun answer mem => (coherent.answers answer mem).select service tail
      shown :=
        { current := drawn.1
          some := by
            intro answer mem
            rw [lastAnswer_succ older] at mem
            cases mem
          none := by
            intro _
            rw [if_neg (Nat.succ_ne_zero _)]
            exact drawn.2 } }

theorem LogsPane.present_frame (pane : LogsPane) (request : LogRequest) (outcome : LogOutcome)
    (time : String) :
    ∃ output note, pane.present request outcome time = { pane with output, note } ∧
      (request.revision ≠ pane.logRevision → output = pane.output) ∧
      (request.revision = pane.logRevision → pane.output.Current →
        output.Current ∧ output.children = outcome.drawn) := by
  unfold LogsPane.present
  split
  · next stale => exact ⟨_, _, rfl, fun _ => rfl, fun same => absurd same stale⟩
  · next same =>
      rw [not_not] at same
      cases outcome with
      | ok result =>
          exact ⟨_, _, rfl, fun stale => absurd same stale, fun _ current =>
            current.renderAnsi _ _ _⟩
      | error message =>
          exact ⟨_, _, rfl, fun stale => absurd same stale, fun _ current =>
            current.renderAnsi _ _ _⟩

/-- A reply for the selection is shown; another one changes nothing. -/
theorem LogsPane.Inv.shows {pane : LogsPane} (inv : pane.Inv) {request : LogRequest}
    {outcome : LogOutcome} {output : Node}
    (stale : request.revision ≠ pane.logRevision → output = pane.output)
    (fresh : request.revision = pane.logRevision → pane.output.Current →
      output.Current ∧ output.children = outcome.drawn) :
    ShowsAnswer output (pane.answers ++ [(request, outcome)]) pane.logRevision := by
  have last := lastAnswer_append pane.answers pane.logRevision request outcome
  have before := inv.shown
  by_cases same : request.revision = pane.logRevision
  · obtain ⟨current, drawn⟩ := fresh same before.current
    rw [if_pos same] at last
    constructor
    · exact current
    · intro answer mem
      rw [last] at mem
      cases mem
      exact drawn
    · intro none_
      rw [last] at none_
      cases none_
  · rw [if_neg same] at last
    rw [stale same]
    constructor
    · exact before.current
    · rw [last]
      exact before.some
    · rw [last]
      exact before.none

theorem LogsPane.Inv.busy_of_requests {pane : LogsPane} (inv : pane.Inv) {request : LogRequest}
    (requests : pane.requests = [request]) : pane.logsLoading = true ∧ pane.timers = [] := by
  have loading : pane.logsLoading = true := by
    by_contra idle
    have none_ := (inv.idle (Bool.eq_false_of_not_eq_true idle)).1
    rw [requests] at none_
    cases none_
  refine ⟨loading, ?_⟩
  by_contra waiting
  have idle := (inv.waits waiting).2
  rw [loading] at idle
  cases idle

/-- The only request ends. -/
theorem LogsPane.Inv.settle {pane : LogsPane} (inv : pane.Inv) {request : LogRequest}
    (requests : pane.requests = [request]) (outcome : LogOutcome) (time : String) :
    (pane.settle 0 request outcome time).Inv := by
  obtain ⟨output, note, presented, stale, fresh⟩ := pane.present_frame request outcome time
  have fits := inv.asked request (by rw [requests]; exact List.mem_cons_self)
  have noTimers := (inv.busy_of_requests requests).2
  have ended : LogsPane.Coherent
      { pane with
        output, note, logsLoading := false, refreshDisabled := false, logsPending := false
        requests := [], answers := pane.answers ++ [(request, outcome)] } :=
    { idle := fun _ => ⟨rfl, rfl⟩
      busy := fun loading => by cases loading
      disabled := rfl
      timers := inv.timers
      asked := List.forall_mem_nil _
      answers := by
        rw [List.forall_mem_append, List.forall_mem_singleton]
        exact ⟨inv.answers, fits⟩
      shown := inv.shows stale fresh }
  rw [LogsPane.settle, presented, requests, LogsPane.finally]
  dsimp only
  split
  · exact ended.loadLogs.1
  · next notPending =>
      rw [Bool.not_eq_true] at notPending
      have same : request.revision = pane.logRevision := by
        rcases inv.asks (inv.busy_of_requests requests).1 with all | pending
        · exact all request (by rw [requests]; exact List.mem_cons_self)
        · rw [notPending] at pending
          cases pending
      have answered :
          lastAnswer (pane.answers ++ [(request, outcome)]) pane.logRevision ≠ none := by
        rw [lastAnswer_append, if_pos same]
        exact Option.some_ne_none _
      split
      · next live =>
          exact
            { ended with
              idle := fun _ => ⟨rfl, notPending⟩
              timers := .inr ⟨_, rfl, by rw [noTimers]; rfl⟩
              asks := fun loading => by cases loading
              answered := fun _ _ => answered
              waits := fun _ => ⟨live, rfl⟩
              polls := fun _ => .inr (by simp [LogsPane.setTimeout]) }
      · next still =>
          exact
            { ended with
              idle := fun _ => ⟨rfl, notPending⟩
              asks := fun loading => by cases loading
              answered := fun _ _ => answered
              waits := fun timers => absurd noTimers timers
              polls := fun live => absurd live still }

theorem LogsPane.Inv.toggleLive {pane : LogsPane} (inv : pane.Inv) :
    let toggled := { pane with live := !pane.live }.clearTimeout
    (if toggled.live ∧ ¬ toggled.logsLoading then toggled.loadLogs else toggled).Inv := by
  obtain ⟨cleared, noTimers⟩ :=
    @LogsPane.Coherent.clearTimeout { pane with live := !pane.live }
      { inv.toCoherent with }
  intro toggled
  split
  · exact cleared.loadLogs.1
  · next still =>
      exact
        { cleared with
          asks := inv.asks
          answered := inv.answered
          waits := fun timers => absurd noTimers timers
          polls := by
            intro live
            by_contra idle
            rw [not_or] at idle
            exact still ⟨live, idle.1⟩ }

theorem LogsPane.Inv.fire {pane : LogsPane} (inv : pane.Inv) {timer : Nat}
    (waiting : timer ∈ pane.timers) :
    ({ pane with timers := pane.timers.erase timer }.loadLogs).Inv := by
  apply And.left
  apply LogsPane.Coherent.loadLogs
  have only : pane.timers = [timer] := by
    rcases inv.timers with none_ | ⟨other, -, timers⟩
    · rw [none_] at waiting
      cases waiting
    · rw [timers] at waiting ⊢
      rw [List.mem_singleton.mp waiting]
  exact
    { inv.toCoherent with
      timers := .inl (by
        change pane.timers.erase timer = []
        rw [only, List.erase_cons_head]) }

theorem LogsPane.Inv.step {pane pane' : LogsPane} (inv : pane.Inv) {event : LogsEvent}
    (step : pane.step event = some pane') : pane'.Inv := by
  cases event with
  | refresh =>
      rw [LogsPane.step] at step
      split at step
      · cases step
      · cases step
        exact inv.toCoherent.loadLogs.1
  | selectService service =>
      cases step
      exact inv.toCoherent.selectLogs service pane.tail
  | selectTail tail =>
      cases step
      exact inv.toCoherent.selectLogs pane.service tail
  | toggleLive =>
      cases step
      exact inv.toggleLive
  | fire timer =>
      rw [LogsPane.step] at step
      split at step
      · next waiting =>
          cases step
          exact inv.fire waiting
      · cases step
  | settle position outcome time =>
      obtain ⟨request, found, rfl⟩ := Option.map_eq_some_iff.mp step
      have requests : pane.requests = [request] ∧ position = 0 := by
        cases loading : pane.logsLoading with
        | false =>
            rw [(inv.idle loading).1] at found
            cases found
        | true =>
            obtain ⟨only, requests⟩ := inv.busy loading
            rw [requests] at found ⊢
            obtain ⟨bound, same⟩ := List.getElem?_eq_some_iff.mp found
            have first : position = 0 := Nat.lt_one_iff.mp bound
            subst first
            exact ⟨congrArg (fun request => [request]) same, rfl⟩
      rw [requests.2]
      exact inv.settle requests.1 outcome time

theorem LogsPane.Inv.reach {pane pane' : LogsPane} (inv : pane.Inv) (reach : pane.Reach pane') :
    pane'.Inv := by
  induction reach with
  | refl => exact inv
  | tail _ stepped ih =>
      obtain ⟨event, stepped⟩ := stepped
      exact ih.step stepped

/-! ## Replies -/

theorem LogsPane.loadLogs_frame (pane : LogsPane) :
    pane.loadLogs.answers = pane.answers ∧ pane.loadLogs.logRevision = pane.logRevision := by
  unfold LogsPane.loadLogs
  dsimp only
  split <;> exact ⟨rfl, rfl⟩

theorem LogsPane.finally_frame (pane : LogsPane) :
    pane.finally.answers = pane.answers ∧ pane.finally.logRevision = pane.logRevision := by
  unfold LogsPane.finally
  dsimp only
  split
  · exact LogsPane.loadLogs_frame _
  · split <;> exact ⟨rfl, rfl⟩

/-- A reply to a request for the selection is the last answer. -/
theorem LogsPane.lastAnswer_settle {pane : LogsPane} {request : LogRequest}
    (same : request.revision = pane.logRevision) (position : Nat) (outcome : LogOutcome)
    (time : String) :
    lastAnswer (pane.settle position request outcome time).answers
        (pane.settle position request outcome time).logRevision = some (request, outcome) := by
  obtain ⟨output, note, presented, -⟩ := pane.present_frame request outcome time
  rw [LogsPane.settle, presented]
  obtain ⟨answers, revision⟩ := LogsPane.finally_frame
    { pane with
      output, note, requests := pane.requests.eraseIdx position
      answers := pane.answers ++ [(request, outcome)] }
  rw [answers, revision, lastAnswer_append, if_pos same]

/-- The request that was put off is asked when the one before it has ended. -/
theorem LogsPane.settle_pending {pane : LogsPane} {request : LogRequest}
    (requests : pane.requests = [request]) (pending : pane.logsPending = true)
    (outcome : LogOutcome) (time : String) :
    ∃ asked, (pane.settle 0 request outcome time).requests = [asked] ∧
      asked.revision = (pane.settle 0 request outcome time).logRevision := by
  obtain ⟨output, note, presented, -⟩ := pane.present_frame request outcome time
  rw [LogsPane.settle, presented, requests, LogsPane.finally]
  dsimp only
  rw [if_pos pending]
  exact ⟨_, rfl, rfl⟩

/-! ## The pane in every state -/

/-- What a state of the pane promises. -/
structure LogsPane.Sound (pane : LogsPane) : Prop where
  oneRequest : pane.requests.length ≤ 1
  button : pane.refreshDisabled = true ↔ pane.requests ≠ []
  timers : pane.timers.length = if pane.live = true ∧ pane.requests = [] then 1 else 0
  shown : ∀ request outcome, lastAnswer pane.answers pane.logRevision = some (request, outcome) →
    request.service = pane.service ∧ request.tail = pane.tail ∧
      pane.output.children = outcome.drawn
  unanswered : lastAnswer pane.answers pane.logRevision = none →
    pane.output.children =
      if pane.logRevision = 0 then ({} : LogsPane).output.children
      else renderText noSnapshot false []
  answered : pane.requests = [] → pane.logRevision ≠ 0 →
    lastAnswer pane.answers pane.logRevision ≠ none
  /-- At the latest the second reply is for the selection. -/
  replies : pane.requests ≠ [] → ∀ (first second : LogOutcome) (time time' : String),
    ∃ pane', pane.step (.settle 0 first time) = some pane' ∧
      ((∃ request, lastAnswer pane'.answers pane'.logRevision = some (request, first)) ∨
        ∃ pane'', pane'.step (.settle 0 second time') = some pane'' ∧
          ∃ request, lastAnswer pane''.answers pane''.logRevision = some (request, second))

theorem LogsPane.Inv.requests_ne_nil_iff {pane : LogsPane} (inv : pane.Inv) :
    pane.requests ≠ [] ↔ pane.logsLoading = true := by
  constructor
  · intro asked
    by_contra idle
    exact asked (inv.idle (Bool.eq_false_of_not_eq_true idle)).1
  · intro loading
    obtain ⟨request, requests⟩ := inv.busy loading
    rw [requests]
    exact List.cons_ne_nil _ _

theorem LogsPane.step_settle {pane : LogsPane} {request : LogRequest}
    (requests : pane.requests = [request]) (outcome : LogOutcome) (time : String) :
    pane.step (.settle 0 outcome time) = some (pane.settle 0 request outcome time) := by
  rw [LogsPane.step, requests]
  rfl

theorem LogsPane.Inv.replies {pane : LogsPane} (inv : pane.Inv) (asked : pane.requests ≠ [])
    (first second : LogOutcome) (time time' : String) :
    ∃ pane', pane.step (.settle 0 first time) = some pane' ∧
      ((∃ request, lastAnswer pane'.answers pane'.logRevision = some (request, first)) ∨
        ∃ pane'', pane'.step (.settle 0 second time') = some pane'' ∧
          ∃ request, lastAnswer pane''.answers pane''.logRevision = some (request, second)) := by
  have loading := inv.requests_ne_nil_iff.mp asked
  obtain ⟨request, requests⟩ := inv.busy loading
  refine ⟨_, LogsPane.step_settle requests first time, ?_⟩
  rcases inv.asks loading with all | pending
  · left
    have same := all request (by rw [requests]; exact List.mem_cons_self)
    exact ⟨request, LogsPane.lastAnswer_settle same 0 first time⟩
  · right
    obtain ⟨next, requests', same⟩ := LogsPane.settle_pending requests pending first time
    exact ⟨_, LogsPane.step_settle requests' second time', next,
      LogsPane.lastAnswer_settle same 0 second time'⟩

theorem LogsPane.Inv.sound {pane : LogsPane} (inv : pane.Inv) : pane.Sound where
  oneRequest := by
    cases loading : pane.logsLoading with
    | false =>
        rw [(inv.idle loading).1]
        exact Nat.zero_le _
    | true =>
        obtain ⟨request, requests⟩ := inv.busy loading
        rw [requests]
        exact Nat.le_refl _
  button := by rw [inv.disabled, inv.requests_ne_nil_iff]
  timers := by
    have asked := inv.requests_ne_nil_iff
    rcases inv.timers with none_ | ⟨timer, -, only⟩
    · rw [none_, if_neg]
      · rfl
      · intro ⟨live, idle⟩
        rcases inv.polls live with loading | waiting
        · exact asked.mpr loading idle
        · exact waiting none_
    · have waits := inv.waits (by rw [only]; exact List.cons_ne_nil _ _)
      have idle : pane.requests = [] := (inv.idle waits.2).1
      rw [only, if_pos ⟨waits.1, idle⟩]
      rfl
  shown := by
    intro request outcome last
    have mem : (request, outcome) ∈ pane.answers ∧ request.revision = pane.logRevision := by
      have here := List.mem_of_getLast? last
      rw [List.mem_filter, decide_eq_true_eq] at here
      exact here
    obtain ⟨service, tail⟩ := (inv.answers _ mem.1).selection mem.2
    exact ⟨service, tail, inv.shown.some _ last⟩
  unanswered := inv.shown.none
  answered := by
    intro idle
    apply inv.answered
    by_contra loading
    exact inv.requests_ne_nil_iff.mpr (Bool.eq_true_of_not_eq_false loading) idle
  replies := inv.replies

/-- Whatever is selected and pressed, and whenever the replies and the timer come, the pane
shows nothing that was not asked for the selection. -/
theorem logsPane_sound {pane : LogsPane} (reach : LogsPane.Reach {} pane) : pane.Sound :=
  (LogsPane.inv_init.reach reach).sound

theorem LogsPane.reach_of_foldlM {pane pane' : LogsPane} {events : List LogsEvent}
    (ran : events.foldlM LogsPane.step pane = some pane') : pane.Reach pane' := by
  induction events generalizing pane with
  | nil =>
      cases ran
      exact .refl
  | cons event events ih =>
      rw [List.foldlM_cons] at ran
      obtain ⟨next, stepped, rest⟩ := Option.bind_eq_some_iff.mp ran
      exact .head ⟨event, stepped⟩ (ih rest)

/-- Another service is selected before the first reply has come. -/
def staleEvents : List LogsEvent :=
  [.refresh, .toggleLive, .selectService "redis",
    .settle 0 (.ok { output := "obsolete".toList, truncated := false }) "10:00:00",
    .settle 0 (.ok { output := "current".toList, truncated := true }) "10:00:01"]

theorem logsPane_sound_stale :
    ∃ pane, staleEvents.foldlM LogsPane.step {} = some pane ∧ pane.Sound ∧
      pane.output.children = renderText "current".toList true [] := by
  have ran : (staleEvents.foldlM LogsPane.step {}).map (fun pane => pane.output.children) =
      some (renderText "current".toList true []) := by
    decide +kernel
  obtain ⟨pane, ran, shown⟩ := Option.map_eq_some_iff.mp ran
  exact ⟨pane, ran, logsPane_sound (LogsPane.reach_of_foldlM ran), shown⟩

end YoAuthorize.Manager
