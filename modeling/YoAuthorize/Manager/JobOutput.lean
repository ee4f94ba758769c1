import YoAuthorize.Manager.MutationSlot
import YoAuthorize.Manager.Terminal

/-!
# The output of a job on the page

From the bytes that Docker writes to the spans of the page: the manager keeps the
last of them (`Recorded`), decodes them, and the page draws the text.  What is drawn
is the display of the stream that Docker has written (`cells_showJob`), also where
the manager has cut an `m` sequence in two.
-/

namespace YoAuthorize.Manager

open Octets Backtrack

/-! ## Cut sequences -/

/-- What a cut leaves of the sequence that it falls into, before a stream. -/
inductive Remnant (stream : List Piece) : List Char → Prop
  | between (start : ∀ c ∈ (written stream).head?, isRemnant c = false ∧ c ≠ '[') :
    Remnant stream []
  | sgr {lost left : List Char} (sequence : Sgr) (lost_ : lost ≠ []) (left_ : 2 ≤ left.length)
      (cut : lost ++ left = (Piece.sgr .escaped sequence).written) : Remnant stream left

theorem replaceFirst_remnant_false (text : List Char) : replaceFirst remnant false text = text := by
  induction text with
  | nil => rfl
  | cons c rest ih => exact congrArg (c :: ·) ih

theorem replaceFirst_remnant {left rest : List Char} (some_ : left ≠ [])
    (matched : ((remnant true).ways (left ++ rest)).head? = some ((), rest)) :
    replaceFirst remnant true (left ++ rest) = rest := by
  cases left with
  | nil => exact absurd rfl some_
  | cons c left =>
      rw [List.cons_append] at matched ⊢
      rw [replaceFirst, matched]

theorem stops_m (rest : List Char) : Stops isRemnant ('m' :: rest) := stops_cons rfl

theorem blocked_m : Blocked isRemnant (literal ['m']) := blocked_literal rfl

/-- The bracket of a sequence is left. -/
theorem remnant_bracket {parameters : List Char}
    (parameters_ : ∀ c ∈ parameters, isRemnant c = true) (rest : List Char) :
    ((remnant true).ways ('[' :: parameters ++ 'm' :: rest)).head? = some ((), rest) := by
  rw [remnant, if_pos rfl, orElse_bind, List.head?_append, bind_assoc, List.cons_append, ways_bind,
    one_ways_cons (p := (· = '[')) (decide_eq_true rfl), List.flatMap_singleton,
    many_bind_append (fun _ => blocked_m) parameters_ (stops_m rest)]
  rfl

/-- The end of its parameters is left. -/
theorem remnant_parameters {c : Char} {parameters : List Char} (other : c ≠ '[')
    (parameters_ : ∀ d ∈ c :: parameters, isRemnant d = true) (rest : List Char) :
    ((remnant true).ways (c :: parameters ++ 'm' :: rest)).head? = some ((), rest) := by
  have bracket : ((one (· = '[') : Pattern Char Char)).ways (c :: parameters ++ 'm' :: rest) = [] :=
    one_ways_of_stops (stops_cons (decide_eq_false other))
  rw [remnant, if_pos rfl, orElse_bind, bind_assoc, ways_bind, bracket, List.flatMap_nil,
    List.nil_append, many1_bind_append (fun _ => blocked_m) parameters_ (stops_m rest)]
  rfl

theorem isRemnant_of_mem_text {sequence : Sgr} {c : Char} (mem : c ∈ sequence.text) :
    isRemnant c = true ∧ c ≠ '[' := by
  rcases Sgr.mem_text mem with digit | rfl
  · refine ⟨decide_eq_true (.inl digit), ?_⟩
    rintro rfl
    exact absurd digit (by decide)
  · exact ⟨rfl, by decide⟩

/-- What is left of a sequence is trimmed, and no more. -/
theorem Remnant.trimmed {stream : List Piece} {left : List Char} (remnant_ : Remnant stream left) :
    replaceFirst remnant true (left ++ written stream) = written stream := by
  cases remnant_ with
  | between start =>
      rw [List.nil_append]
      cases text : written stream with
      | nil => rfl
      | cons c rest =>
          obtain ⟨plain, bracket⟩ := start c (by rw [text]; rfl)
          have passed : (remnant true).ways (c :: rest) = [] := by
            rw [remnant, if_pos rfl, orElse_bind, bind_assoc, ways_bind,
              one_ways_of_stops (p := (· = '[')) (stops_cons (decide_eq_false bracket)),
              many1_bind_of_stops _ (stops_cons plain)]
            rfl
          rw [replaceFirst, passed]
          exact congrArg (c :: ·) (replaceFirst_remnant_false rest)
  | @sgr lost left sequence lost_ left_ cut =>
      apply replaceFirst_remnant (by rintro rfl; cases left_)
      have remnants : ∀ c ∈ sequence.text, isRemnant c = true := fun c mem =>
        (isRemnant_of_mem_text mem).1
      cases lost with
      | nil => exact absurd rfl lost_
      | cons escape_ lost =>
          have cut : lost ++ left = '[' :: (sequence.text ++ ['m']) := (List.cons.inj cut).2
          cases lost with
          | nil =>
              rw [List.nil_append] at cut
              rw [cut, List.cons_append, List.append_assoc]
              exact remnant_bracket remnants _
          | cons bracket lost =>
              have cut : lost ++ left = sequence.text ++ ['m'] := (List.cons.inj cut).2
              rcases List.append_eq_append_iff.mp cut with ⟨kept, text, rfl⟩ | ⟨more, -, short⟩
              · cases kept with
                | nil => exact absurd left_ (by decide)
                | cons c kept =>
                    have mem (d : Char) (here : d ∈ c :: kept) : d ∈ sequence.text := by
                      rw [text]
                      exact List.mem_append_right _ here
                    rw [List.append_assoc]
                    exact remnant_parameters (isRemnant_of_mem_text (mem c List.mem_cons_self)).2
                      (fun d here => remnants d (mem d here)) _
              · have length := congrArg List.length short
                rw [List.length_append, List.length_singleton] at length
                omega

/-! ## The pane of the page -/

/-- The text that `showJob` gives for the output. -/
def Job.snapshot (job : Job) : List Char :=
  let busy := job.state = .checking ∨ job.state = .running
  (if job.output ≠ "" then job.output
    else if busy then "Waiting for Docker..." else "No command output.").toList

def Job.suffix (job : Job) : List Char :=
  ((match truthy job.error with
      | some error => "\nERROR: " ++ error
      | none => "") ++
    (if job.state = .succeeded then
      "\nCommand completed. Check service status for readiness." else "")).toList

/-- What `showJob` does to the node `job-output`. -/
def showJob (node : Node) (job : Job) : Node :=
  renderAnsi node job.snapshot job.truncated job.suffix

/-- The bytes are those of a stream, or more than the manager keeps of it. -/
inductive Kept (appended : Bytes) (stream : List Piece) : Prop
  | whole (all : appended = utf8 (.ofList (written stream))) (fits : appended.length ≤ outputLimit)
  | cut {earlier : Bytes} {left : List Char} (some_ : earlier ≠ []) (remnant : Remnant stream left)
      (all : appended = earlier ++ utf8 (.ofList (left ++ written stream)))
      (limit : (utf8 (.ofList (left ++ written stream))).length = outputLimit)

theorem rtake_of_length_le {α : Type} {limit : Nat} {all : List α} (fits : all.length ≤ limit) :
    all.rtake limit = all := by
  rw [List.rtake, Nat.sub_eq_zero_of_le fits, List.drop_zero]

theorem rtake_append {α : Type} (earlier kept : List α) :
    (earlier ++ kept).rtake kept.length = kept := by
  rw [List.rtake, List.length_append, Nat.add_sub_cancel, List.drop_left]

theorem cells_renderText {stream : List Piece} (separate : Separate stream) {snapshot : List Char}
    {truncated : Bool}
    (trimmed : (if truncated then replaceFirst remnant true snapshot else snapshot) =
      written stream) (suffix : List Char) :
    cells (renderText snapshot truncated suffix) =
      styled (display {} stream) ++ cells (renderSource suffix) := by
  rw [renderText, cells_append, trimmed, cells_renderSource stream separate]

theorem Job.snapshot_of_output {job : Job} {text : List Char}
    (output : job.output = String.ofList text) (some_ : text ≠ []) : job.snapshot = text := by
  have written_ : job.output ≠ "" := by
    rw [output]
    intro empty
    exact some_ (String.ofList_injective empty)
  rw [Job.snapshot, if_pos written_, output, String.toList_ofList]

/-- Whatever has happened to the manager, a node shows the stream that was written for a job. -/
theorem cells_showJob {deploy : Deploy} {manager : State} (reach : Reach deploy {} manager)
    {i : Nat} {job : Job} (found : manager.slot.jobs[i]? = some job) {stream : List Piece}
    (kept : Kept (manager.slot.appended i) stream) (some_ : written stream ≠ [])
    (separate : Separate stream) {node : Node} (current : node.Current) :
    cells (showJob node job).children =
      styled (display {} stream) ++ cells (renderSource job.suffix) := by
  obtain ⟨output, truncated⟩ := (inv_reach inv_init reach).1.exclusive.records.recorded i job found
  rw [showJob, (current.renderAnsi _ _ _).2]
  apply cells_renderText separate
  cases kept with
  | whole all fits =>
      have complete : ¬ job.truncated = true := by
        rw [truncated]
        omega
      rw [rtake_of_length_le fits, all, bufferToString_utf8] at output
      rw [if_neg complete, Job.snapshot_of_output output some_]
  | @cut earlier left earlier_ remnant_ all limit =>
      have cut : job.truncated = true := by
        have more := List.length_pos_iff.mpr earlier_
        rw [truncated, all, List.length_append]
        omega
      have text : left ++ written stream ≠ [] :=
        fun empty => some_ (List.append_eq_nil_iff.mp empty).2
      rw [all, ← limit, rtake_append, bufferToString_utf8] at output
      rw [if_pos cut, Job.snapshot_of_output output text, remnant_.trimmed]

/-- A job that ends in a red word, whose sequence arrives in two chunks. -/
def colouredEvents : List Event :=
  [.submit "stop" "api" "1f" "2026-01-01T00:00:00.000Z",
    .command 0 (.stdout (utf8 "done \x1b[3")), .command 0 (.stderr (utf8 "1mfor\x1b[m")),
    .command 0 (.close (some 0) none), .resume 0 "2026-01-01T00:00:02.000Z"]

theorem cells_showJob_coloured :
    ∃ manager job, run testDeploy {} colouredEvents = some manager ∧
      manager.slot.jobs[0]? = some job ∧
      cells (showJob { children := [] } job).children =
        styled (display {} colouredStream) ++ cells (renderSource job.suffix) := by
  have ran : ((run testDeploy {} colouredEvents).map fun manager =>
      (manager.slot.appended 0, manager.slot.jobs.length)) =
        some (utf8 (.ofList (written colouredStream)), 1) := by
    decide +kernel
  obtain ⟨manager, ran, results⟩ := Option.map_eq_some_iff.mp ran
  obtain ⟨appended, length⟩ := Prod.mk.inj results
  have some_ : 0 < manager.slot.jobs.length := by omega
  have found := List.getElem?_eq_getElem some_
  refine ⟨manager, _, ran, found, ?_⟩
  apply cells_showJob (reach_of_run ran) found
  · apply Kept.whole appended
    rw [appended]
    decide +kernel
  · decide +kernel
  · decide +kernel
  · intro _ mem
    cases mem

end YoAuthorize.Manager
