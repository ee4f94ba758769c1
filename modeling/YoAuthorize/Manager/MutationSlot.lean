import Mathlib.Logic.Relation
import YoAuthorize.Manager.Jobs

/-!
# The mutation slot

At most one job is checking or running, under any interleaving.  The code has one
variable for the job and one flag for the slot, and every call of `submit` writes
through the variable: that a call only ever meets its own job is the invariant.  All
the jobs but the last have ended, and the last is held by the one pending call
exactly while the flag is set (`Held`).
-/

namespace YoAuthorize.Manager

open Octets

def Job.Active (job : Job) : Prop := job.state = .checking ∨ job.state = .running

def Job.Ended (job : Job) : Prop :=
  job.state = .succeeded ∨ job.state = .failed ∨ job.state = .timedOut

theorem Job.ended_iff {job : Job} : job.Ended ↔ ¬ job.Active := by
  unfold Ended Active
  cases job.state <;> simp

theorem Job.Active.of_state {job job' : Job} (active : job.Active)
    (state : job'.state = job.state) :
    job'.Active := by
  unfold Job.Active
  rw [state]
  exact active

/-! ## The output of a job -/

/-- The job shows the end of what was appended for it, and says whether that is less. -/
structure Recorded (job : Job) (appended : Bytes) : Prop where
  output : job.output = bufferToString (appended.rtake outputLimit)
  truncated : job.truncated = true ↔ outputLimit < appended.length

structure Slot.Records (slot : Slot) : Prop where
  recorded : ∀ i job, slot.jobs[i]? = some job → Recorded job (slot.appended i)
  fresh : ∀ i, slot.jobs.length ≤ i → slot.appended i = []

/-- The call that holds the slot, with its job. -/
structure Owned (slot : Slot) (earlier : List Job) (job : Job) (task : Task) : Prop where
  active : slot.active = true
  jobs : slot.jobs = earlier ++ [job]
  current : slot.job = some earlier.length
  owner : task.job = earlier.length
  captured : task.captured = (slot.appended earlier.length).rtake outputLimit
  records : slot.Records

section

variable {slot : Slot} {earlier : List Job} {job : Job} {task : Task}

theorem modify_append_last {α : Type} (earlier : List α) (last : α) (write : α → α) :
    (earlier ++ [last]).modify earlier.length write = earlier ++ [write last] := by
  induction earlier with
  | nil => rfl
  | cons old earlier ih =>
      simp only [List.cons_append, List.length_cons, List.modify_succ_cons, ih]

theorem Owned.recorded (owned : Owned slot earlier job task) :
    Recorded job (slot.appended earlier.length) :=
  owned.records.recorded _ _ (by rw [owned.jobs, List.getElem?_concat_length])

/-- What a write to the job has to keep up. -/
theorem Slot.Records.write (records : slot.Records) (jobs : slot.jobs = earlier ++ [job])
    {written : Slot} {job' : Job} (jobs' : written.jobs = earlier ++ [job'])
    (others : ∀ i, i ≠ earlier.length → written.appended i = slot.appended i)
    (recorded : Recorded job' (written.appended earlier.length)) : written.Records := by
  constructor
  · intro i shown found
    rw [jobs'] at found
    by_cases last : i = earlier.length
    · subst last
      rw [List.getElem?_concat_length] at found
      cases found
      exact recorded
    · have bound := (List.getElem?_eq_some_iff.mp found).1
      rw [List.length_append, List.length_singleton] at bound
      have before : i < earlier.length := by omega
      rw [others i last]
      apply records.recorded
      rw [List.getElem?_append_left before] at found
      rw [jobs, List.getElem?_append_left before]
      exact found
  · intro i beyond
    rw [jobs', List.length_append, List.length_singleton] at beyond
    rw [others i (by omega)]
    apply records.fresh
    rw [jobs, List.length_append, List.length_singleton]
    exact beyond

theorem Owned.modifyJob (owned : Owned slot earlier job task) (write : Job → Job)
    (output : (write job).output = job.output) (truncated : (write job).truncated = job.truncated) :
    Owned (slot.modifyJob write) earlier (write job) task := by
  have written : slot.modifyJob write = { slot with jobs := earlier ++ [write job] } := by
    rw [Slot.modifyJob, owned.current, owned.jobs]
    simp only [modify_append_last]
  rw [written]
  have recorded := owned.recorded
  refine { owned with
    jobs := rfl
    records := owned.records.write owned.jobs rfl (fun _ _ => rfl) ?_ }
  constructor
  · rw [output]
    exact recorded.output
  · rw [truncated]
    exact recorded.truncated

theorem Owned.append (owned : Owned slot earlier job task) (chunk : Bytes) :
    ∃ job', Owned (append slot task chunk).1 earlier job' (append slot task chunk).2 ∧
      job'.state = job.state := by
  have recorded := owned.recorded
  let job' : Job :=
    { job with
      truncated := job.truncated || outputLimit < (task.captured ++ chunk).length
      output := bufferToString ((task.captured ++ chunk).rtake outputLimit) }
  let appended : Nat → Bytes :=
    Function.update slot.appended task.job (slot.appended task.job ++ chunk)
  have total : appended earlier.length = slot.appended earlier.length ++ chunk := by
    change Function.update _ task.job _ earlier.length = _
    rw [owned.owner, Function.update_self]
  have shown : Recorded job' (appended earlier.length) := by
    rw [total]
    constructor
    · change bufferToString _ = _
      rw [owned.captured, rtake_append_rtake]
    · change (job.truncated || decide _) = true ↔ _
      rw [Bool.or_eq_true, decide_eq_true_eq, recorded.truncated, owned.captured]
      exact lt_length_rtake_append_iff
  have written : (Manager.append slot task chunk).1 =
      { slot with jobs := earlier ++ [job'], appended } := by
    unfold Manager.append Slot.modifyJob
    rw [owned.current, owned.jobs]
    simp only [modify_append_last]
    rfl
  have kept : (Manager.append slot task chunk).2 =
      { task with captured := (task.captured ++ chunk).rtake outputLimit } := rfl
  refine ⟨job', ?_, rfl⟩
  rw [written, kept]
  refine ⟨owned.active, rfl, owned.current, owned.owner, ?_, ?_⟩
  · have cut := rtake_append_rtake outputLimit (slot.appended earlier.length) chunk
    rw [← owned.captured, ← total] at cut
    dsimp only
    exact cut
  · refine owned.records.write owned.jobs rfl ?_ shown
    intro i other
    exact Function.update_of_ne (by rw [owned.owner]; exact other) _ _

/-- The await is the task's own. -/
theorem Owned.await (owned : Owned slot earlier job task) (await : Await) :
    Owned slot earlier job { task with await } :=
  { owned with }

/-! ## What a task leaves -/

/-- After the jobs before, the last one is active and held by its task, or has ended and left
the slot. -/
inductive Held (earlier : List Job) : Slot × Option Task → Prop
  | taken {slot : Slot} {job : Job} {task : Task} :
    Owned slot earlier job task → job.Active → Held earlier (slot, some task)
  | left {slot : Slot} {job : Job} :
    slot.active = false → slot.jobs = earlier ++ [job] → job.Ended → slot.Records →
    Held earlier (slot, none)

theorem Owned.runCompose (owned : Owned slot earlier job task) (deploy : Deploy) :
    ∃ job', Owned (runCompose deploy slot task).1 earlier job' (runCompose deploy slot task).2 ∧
      job'.state = job.state := by
  obtain ⟨job', noted, state⟩ := owned.append
    (utf8 ("$ docker compose " ++ " ".intercalate task.args ++ "\n"))
  exact ⟨job', noted.await _, state⟩

theorem Owned.launch (owned : Owned slot earlier job task) (deploy : Deploy) :
    Held earlier ((launch deploy slot task).1, some (launch deploy slot task).2) := by
  have running := owned.modifyJob (fun job => { job with state := .running }) rfl rfl
  unfold Manager.launch
  split
  · exact .taken (running.await _) (.inr rfl)
  · obtain ⟨job', called, state⟩ := running.runCompose deploy
    exact .taken called (.inr state)

/-- `finally` after the job has got its last state. -/
theorem Owned.finally (owned : Owned slot earlier job task) (ended : job.Ended)
    (finishedAt : String) : Held earlier (slot.finally finishedAt, none) := by
  have finished := owned.modifyJob
    (fun job => { job with finishedAt := some finishedAt }) rfl rfl
  refine .left rfl finished.jobs ended ?_
  exact ⟨finished.records.recorded, finished.records.fresh⟩

/-- `catch` and `finally`. -/
theorem Owned.fails (owned : Owned slot earlier job task) (fault : Fault) (finishedAt : String) :
    Held earlier ((slot.catch fault).finally finishedAt, none) := by
  have caught := owned.modifyJob
    (fun job =>
      { job with
        state := if job.state = .timedOut then .timedOut else .failed
        error := some fault.message }) rfl rfl
  refine caught.finally ?_ finishedAt
  unfold Job.Ended
  dsimp only
  split
  · exact .inr (.inr rfl)
  · exact .inr (.inl rfl)

/-- How the `try` of the background task goes on. -/
inductive Proceeds (earlier : List Job) : Slot × Except Fault (Option Task) → Prop
  | awaits {slot : Slot} {job : Job} {task : Task} :
    Owned slot earlier job task → job.Active → Proceeds earlier (slot, .ok (some task))
  | ends {slot : Slot} {job : Job} {task : Task} :
    Owned slot earlier job task → job.Ended → Proceeds earlier (slot, .ok none)
  | throws {slot : Slot} {job : Job} {task : Task} (fault : Fault) :
    Owned slot earlier job task → Proceeds earlier (slot, .error fault)

theorem Proceeds.runCompose (owned : Owned slot earlier job task) (busy : job.Active)
    (deploy : Deploy) :
    Proceeds earlier
      ((runCompose deploy slot task).1, .ok (some (runCompose deploy slot task).2)) := by
  obtain ⟨job', called, state⟩ := owned.runCompose deploy
  exact .awaits called (busy.of_state state)

theorem Owned.proceed (owned : Owned slot earlier job task) (busy : job.Active) (deploy : Deploy)
    (call : DockerCall) (outcome : Except Fault Result) :
    Proceeds earlier (proceed deploy slot task call outcome) := by
  cases call with
  | networkList =>
      simp only [Manager.proceed]
      cases outcome.bind checked with
      | error fault => exact .throws fault owned
      | ok networks =>
          dsimp only
          split
          · exact .throws _ owned
          split
          · exact .awaits (owned.await _) busy
          · obtain ⟨job', noted, state⟩ := owned.append
              (utf8 "[Network] Creating dev-net (bridge, br-docker).\n")
            exact .awaits (noted.await _) (busy.of_state state)
  | networkInspect =>
      simp only [Manager.proceed]
      cases outcome.bind checked with
      | error fault => exact .throws fault owned
      | ok network =>
          dsimp only
          split
          · exact .throws _ owned
          · obtain ⟨job', noted, state⟩ := owned.append
              (utf8 "[Network] Reusing dev-net (bridge).\n")
            exact .runCompose noted (busy.of_state state) deploy
  | networkCreate =>
      simp only [Manager.proceed]
      cases outcome.bind checked with
      | error fault => exact .throws fault owned
      | ok created => exact .runCompose owned busy deploy
  | compose =>
      simp only [Manager.proceed]
      cases outcome with
      | error fault => exact .throws fault owned
      | ok result =>
          dsimp only
          have exited := owned.modifyJob
            (fun job => { job with exitCode := some result.code }) rfl rfl
          have timed : ∃ job', Owned (if result.timedOut then
              (slot.modifyJob fun job => { job with exitCode := some result.code }).modifyJob
                fun job => { job with state := .timedOut }
              else slot.modifyJob fun job => { job with exitCode := some result.code })
              earlier job' task := by
            split
            · exact ⟨_, exited.modifyJob _ rfl rfl⟩
            · exact ⟨_, exited⟩
          obtain ⟨job', timed⟩ := timed
          cases checked result with
          | error fault => exact .throws fault timed
          | ok result =>
              exact .ends (timed.modifyJob
                (fun job => { job with state := .succeeded }) rfl rfl) (.inl rfl)

theorem Owned.resume (owned : Owned slot earlier job task) (busy : job.Active) (deploy : Deploy)
    (call : DockerCall) (outcome : Except Fault Result) (finishedAt : String) :
    Held earlier (resume deploy slot task call outcome finishedAt) := by
  have proceeds := owned.proceed busy deploy call outcome
  unfold Manager.resume
  generalize Manager.proceed deploy slot task call outcome = next at proceeds ⊢
  cases proceeds with
  | awaits owned busy => exact .taken owned busy
  | ends owned ended => exact owned.finally ended finishedAt
  | throws fault owned => exact owned.fails fault finishedAt

theorem Owned.checkedFiles (owned : Owned slot earlier job task) (deploy : Deploy)
    (outcome : Except Fault Unit) (finishedAt : String) :
    let next := checkedFiles deploy slot task outcome finishedAt
    Held earlier (next.1, next.2.1) := by
  cases outcome with
  | error fault =>
      have failed := owned.modifyJob (fun job =>
        { job with
          state := .failed, error := some fault.message, finishedAt := some finishedAt }) rfl rfl
      refine .left rfl failed.jobs (.inr (.inl rfl)) ?_
      exact ⟨failed.records.recorded, failed.records.fresh⟩
  | ok _ => exact owned.launch deploy

/-- What a command reports. -/
theorem Owned.report (owned : Owned slot earlier job task) (busy : job.Active) (call : DockerCall)
    (event : CommandEvent) (await : Await) :
    let next := report slot task call event
    Held earlier (next.1, some { next.2 with await }) := by
  unfold Manager.report
  split
  · rename_i chunk reports output
    obtain ⟨job', written, state⟩ := owned.append chunk
    exact .taken (written.await await) (busy.of_state state)
  · exact .taken (owned.await await) busy

end

/-! ## Submitting -/

/-- A well-formed request while the slot is taken. -/
theorem submit_inProgress {slot : Slot} {action target : String} {args : List String}
    (wellFormed : actionArgs action target = .ok args) (taken : slot.active = true)
    (deploy : Deploy) (id startedAt : String) :
    submit deploy slot action target id startedAt = (slot, none, .rejected inProgress) := by
  unfold submit
  rw [wellFormed]
  dsimp only
  rw [if_pos taken]

/-- Nothing has been appended for a new job. -/
theorem Slot.Records.accept {slot : Slot} (records : slot.Records) {job : Job}
    (output : job.output = "") (truncated : job.truncated = false) (active : Bool)
    (reference : Option Nat) :
    ({ slot with active, job := reference, jobs := slot.jobs ++ [job] } : Slot).Records := by
  have unwritten : slot.appended slot.jobs.length = [] := records.fresh _ (Nat.le_refl _)
  constructor
  · intro i shown found
    change (slot.jobs ++ [job])[i]? = some shown at found
    change Recorded shown (slot.appended i)
    by_cases before : i < slot.jobs.length
    · rw [List.getElem?_append_left before] at found
      exact records.recorded i shown found
    · have bound := (List.getElem?_eq_some_iff.mp found).1
      rw [List.length_append, List.length_singleton] at bound
      have last : i = slot.jobs.length := by omega
      subst last
      rw [List.getElem?_concat_length] at found
      cases found
      rw [unwritten]
      constructor
      · rw [output]
        rfl
      · rw [truncated]
        simp
  · intro i beyond
    change (slot.jobs ++ [job]).length ≤ i at beyond
    rw [List.length_append] at beyond
    exact records.fresh i (by omega)

/-- A request that changes the slot has found it free, and holds it. -/
theorem submit_held {slot : Slot} (records : slot.Records) (deploy : Deploy)
    (action target id startedAt : String) :
    let submitted := submit deploy slot action target id startedAt
    (submitted.1 = slot ∧ submitted.2.1 = none) ∨
      (slot.active = false ∧ ∃ task, submitted.2.1 = some task ∧
        Held slot.jobs (submitted.1, some task)) := by
  unfold submit
  cases actionArgs action target with
  | error fault => exact .inl ⟨rfl, rfl⟩
  | ok args =>
      dsimp only
      cases free : slot.active with
      | true => exact .inl ⟨rfl, rfl⟩
      | false =>
          rw [if_neg Bool.false_ne_true]
          refine .inr ⟨rfl, ?_⟩
          let job : Job := { id, action, target, startedAt }
          let task : Task :=
            { job := slot.jobs.length, action, target, args, await := .preflight }
          let taken : Slot :=
            { slot with
              active := true, job := some slot.jobs.length, jobs := slot.jobs ++ [job] }
          have unwritten : slot.appended slot.jobs.length = [] := records.fresh _ (Nat.le_refl _)
          have owned : Owned taken slot.jobs job task := by
            refine ⟨rfl, rfl, rfl, rfl, ?_, records.accept rfl rfl _ _⟩
            change [] = (slot.appended slot.jobs.length).rtake outputLimit
            rw [unwritten]
            rfl
          split
          · exact ⟨task, rfl, .taken owned (.inl rfl)⟩
          · exact ⟨_, rfl, owned.launch deploy⟩

/-! ## Steps -/

/-- No call is pending and the slot is free, or one call holds it. -/
inductive Exclusive (slot : Slot) : List Task → Prop
  | free : slot.active = false → (∀ job ∈ slot.jobs, job.Ended) → slot.Records → Exclusive slot []
  | taken {earlier : List Job} {job : Job} {task : Task} :
    (∀ old ∈ earlier, old.Ended) → Owned slot earlier job task → job.Active →
    Exclusive slot [task]

/-- The jobs that have ended are as they were. -/
def Frozen (before after : Slot) : Prop :=
  ∀ (i : Nat) (job : Job), before.jobs[i]? = some job → job.Ended → after.jobs[i]? = some job

theorem Frozen.refl (slot : Slot) : Frozen slot slot := fun _ _ found _ => found

theorem Frozen.trans {first second third : Slot} (one : Frozen first second)
    (two : Frozen second third) : Frozen first third := by
  intro i job found ended
  exact two i job (one i job found ended) ended

theorem Held.exclusive {earlier : List Job} {slot : Slot} {next : Option Task}
    (held : Held earlier (slot, next)) (ended : ∀ old ∈ earlier, old.Ended) :
    Exclusive slot next.toList := by
  cases held with
  | taken owned busy => exact .taken ended owned busy
  | left free jobs last records =>
      refine .free free ?_ records
      intro job mem
      rw [jobs, List.mem_append, List.mem_singleton] at mem
      rcases mem with old | rfl
      · exact ended job old
      · exact last

theorem Held.jobs {earlier : List Job} {next : Slot × Option Task} (held : Held earlier next) :
    ∃ job, next.1.jobs = earlier ++ [job] := by
  cases held with
  | taken owned _ => exact ⟨_, owned.jobs⟩
  | left _ jobs _ _ => exact ⟨_, jobs⟩

/-- Only the last job changes, and it is active before. -/
theorem Owned.frozen {slot : Slot} {earlier : List Job} {job : Job} {task : Task}
    (owned : Owned slot earlier job task) (busy : job.Active) {next : Slot × Option Task}
    (held : Held earlier next) : Frozen slot next.1 := by
  obtain ⟨last, jobs⟩ := held.jobs
  intro i shown found ended
  rw [owned.jobs] at found
  rw [jobs]
  by_cases before : i < earlier.length
  · rw [List.getElem?_append_left before] at found ⊢
    exact found
  · have bound := (List.getElem?_eq_some_iff.mp found).1
    rw [List.length_append, List.length_singleton] at bound
    have position : i = earlier.length := by omega
    rw [position, List.getElem?_concat_length] at found
    cases found
    exact absurd busy (Job.ended_iff.mp ended)

/-- A pending call is the one that holds the slot, and what it does next is all that happens. -/
theorem Exclusive.step {slot : Slot} {tasks : List Task} (exclusive : Exclusive slot tasks)
    {position : Nat} {task : Task} (pending : tasks[position]? = some task)
    {next : Slot × Option Task}
    (does : ∀ {earlier job}, Owned slot earlier job task → job.Active → Held earlier next) :
    Exclusive next.1 (setTask tasks position next.2) ∧ Frozen slot next.1 := by
  cases exclusive with
  | free => cases pending
  | taken ended owned busy =>
      have first := (List.getElem?_eq_some_iff.mp pending).1
      rw [List.length_singleton] at first
      have position : position = 0 := by omega
      subst position
      cases pending
      have held := does owned busy
      have tasks : setTask [task] 0 next.2 = next.2.toList := by
        cases next.2 <;> rfl
      rw [tasks]
      exact ⟨held.exclusive ended, owned.frozen busy held⟩

/-- What holds in every state of the manager. -/
structure Inv (manager : State) : Prop where
  readers : manager.readers = manager.reads.length
  few : manager.readers ≤ maxReaders
  exclusive : Exclusive manager.slot manager.tasks

theorem Exclusive.records {slot : Slot} {tasks : List Task} (exclusive : Exclusive slot tasks) :
    slot.Records := by
  cases exclusive with
  | free _ _ records => exact records
  | taken _ owned _ => exact owned.records

theorem inv_submit {manager : State} (inv : Inv manager) (deploy : Deploy)
    (action target id startedAt : String) :
    let submitted := submit deploy manager.slot action target id startedAt
    Exclusive submitted.1 (manager.tasks ++ submitted.2.1.toList) ∧
      Frozen manager.slot submitted.1 := by
  intro submitted
  have exclusive := inv.exclusive
  rcases submit_held exclusive.records deploy action target id startedAt with
    ⟨same, refused⟩ | ⟨free, task, accepted, held⟩
  · change submitted.1 = manager.slot at same
    change submitted.2.1 = none at refused
    rw [same, refused, Option.toList_none, List.append_nil]
    exact ⟨exclusive, .refl _⟩
  · change submitted.2.1 = some task at accepted
    rw [accepted]
    generalize manager.tasks = tasks at exclusive
    cases exclusive with
    | free _ ended records =>
        refine ⟨held.exclusive ended, ?_⟩
        obtain ⟨job, jobs⟩ := held.jobs
        intro i job found _
        change submitted.1.jobs = _ at jobs
        rw [jobs, List.getElem?_append_left (List.getElem?_eq_some_iff.mp found).1]
        exact found
    | taken _ owned _ =>
        rw [owned.active] at free
        cases free

theorem inv_step {deploy : Deploy} {manager manager' : State} {event : Event} (inv : Inv manager)
    (stepped : step deploy manager event = some manager') :
    Inv manager' ∧ Frozen manager.slot manager'.slot := by
  cases event with
  | submit action target id startedAt =>
      cases stepped
      obtain ⟨exclusive, frozen⟩ := inv_submit inv deploy action target id startedAt
      exact ⟨⟨inv.readers, inv.few, exclusive⟩, frozen⟩
  | preflight position outcome finishedAt =>
      simp only [Manager.step] at stepped
      split at stepped
      · cases stepped
      rename_i task pending
      split at stepped
      · cases stepped
      cases stepped
      obtain ⟨exclusive, frozen⟩ := inv.exclusive.step pending
        fun owned _ => owned.checkedFiles deploy outcome finishedAt
      exact ⟨⟨inv.readers, inv.few, exclusive⟩, frozen⟩
  | command position event =>
      simp only [Manager.step] at stepped
      split at stepped
      · cases stepped
      rename_i task pending
      split at stepped
      · cases stepped
      rename_i call command awaits
      split at stepped
      · cases stepped
      rename_i command' received
      cases stepped
      obtain ⟨exclusive, frozen⟩ := inv.exclusive.step pending
        fun owned busy => owned.report busy call event (.docker call command')
      exact ⟨⟨inv.readers, inv.few, exclusive⟩, frozen⟩
  | resume position finishedAt =>
      simp only [Manager.step] at stepped
      split at stepped
      · cases stepped
      rename_i task pending
      split at stepped
      · rename_i call outcome awaits
        cases stepped
        obtain ⟨exclusive, frozen⟩ := inv.exclusive.step pending
          fun owned busy => owned.resume busy deploy call outcome finishedAt
        exact ⟨⟨inv.readers, inv.few, exclusive⟩, frozen⟩
      · cases stepped
  | read args color =>
      simp only [Manager.step] at stepped
      split at stepped
      · cases stepped
        exact ⟨inv, .refl _⟩
      · rename_i reading started
        cases stepped
        unfold State.read at started
        split at started
        · cases started
        · rename_i room
          cases started
          refine ⟨⟨?_, ?_, inv.exclusive⟩, .refl _⟩
          · change manager.readers + 1 = (manager.reads ++ [_]).length
            rw [List.length_append, List.length_singleton, inv.readers]
          · exact Nat.lt_of_not_le room
  | readCommand position event =>
      simp only [Manager.step] at stepped
      split at stepped
      · cases stepped
      split at stepped
      · cases stepped
      cases stepped
      refine ⟨⟨?_, inv.few, inv.exclusive⟩, .refl _⟩
      rw [List.length_set]
      exact inv.readers
  | readEnd position =>
      simp only [Manager.step] at stepped
      split at stepped
      · rename_i outcome pending
        cases stepped
        refine ⟨⟨?_, Nat.le_trans (Nat.sub_le _ _) inv.few, inv.exclusive⟩, .refl _⟩
        have bound := (List.getElem?_eq_some_iff.mp pending).1
        rw [List.length_eraseIdx_of_lt bound, inv.readers]
      · cases stepped

/-! ## Runs -/

/-- One step to the next state, by any event that can happen. -/
def Steps (deploy : Deploy) (manager manager' : State) : Prop :=
  ∃ event, step deploy manager event = some manager'

abbrev Reach (deploy : Deploy) : State → State → Prop :=
  Relation.ReflTransGen (Steps deploy)

/-- The state after a list of events. -/
def run (deploy : Deploy) : State → List Event → Option State
  | manager, [] => some manager
  | manager, event :: events => (step deploy manager event).bind fun next => run deploy next events

theorem reach_of_run {deploy : Deploy} {manager manager' : State} {events : List Event}
    (ran : run deploy manager events = some manager') : Reach deploy manager manager' := by
  induction events generalizing manager with
  | nil =>
      cases ran
      exact .refl
  | cons event events ih =>
      obtain ⟨next, stepped, rest⟩ := Option.bind_eq_some_iff.mp ran
      exact .head ⟨event, stepped⟩ (ih rest)

theorem inv_init : Inv {} where
  readers := rfl
  few := Nat.zero_le _
  exclusive := .free rfl (fun _ mem => by cases mem)
    ⟨fun _ _ found => (by cases found), fun _ _ => rfl⟩

theorem inv_reach {deploy : Deploy} {manager manager' : State} (inv : Inv manager)
    (reach : Reach deploy manager manager') :
    Inv manager' ∧ Frozen manager.slot manager'.slot := by
  induction reach with
  | refl => exact ⟨inv, .refl _⟩
  | tail _ stepped ih =>
      obtain ⟨event, stepped⟩ := stepped
      obtain ⟨next, frozen⟩ := inv_step ih.1 stepped
      exact ⟨next, ih.2.trans frozen⟩

/-! ## What is appended in a run -/

/-- A line that the manager itself writes into the output of a job. -/
inductive Line : Bytes → Prop
  | compose (args : List String) :
    Line (utf8 ("$ docker compose " ++ " ".intercalate args ++ "\n"))
  | creating : Line (utf8 "[Network] Creating dev-net (bridge, br-docker).\n")
  | reusing : Line (utf8 "[Network] Reusing dev-net (bridge).\n")

/-- The chunk that a command of the job writes and reports. -/
def State.chunk (manager : State) (i : Nat) : Event → Bytes
  | .command position event =>
      match manager.tasks[position]? with
      | none => []
      | some task =>
          match task.await with
          | .preflight => []
          | .docker call _ => if task.job = i ∧ call.reports then event.output.getD [] else []
  | _ => []

/-- What is written into the output of a job: every chunk of its commands as it comes, and
lines of the manager between the commands. -/
inductive Writes (deploy : Deploy) (i : Nat) (first : State) : Bytes → State → Prop
  | nil : Writes deploy i first [] first
  | step {bytes : Bytes} {lines : List Bytes} {manager next : State} {event : Event}
    (before : Writes deploy i first bytes manager)
    (stepped : step deploy manager event = some next) (own : ∀ line ∈ lines, Line line)
    (between : ∀ position command, event = .command position command → lines = []) :
    Writes deploy i first (bytes ++ manager.chunk i event ++ lines.flatten) next

/-- From one slot to another, only lines of the manager were appended. -/
def Noted (before after : Slot) : Prop :=
  ∀ i, ∃ lines : List Bytes, (∀ line ∈ lines, Line line) ∧
    after.appended i = before.appended i ++ lines.flatten

section

variable {slot : Slot} {task : Task}

theorem Noted.of_eq {after : Slot} (same : after.appended = slot.appended) : Noted slot after := by
  intro i
  refine ⟨[], nofun, ?_⟩
  rw [same, List.flatten_nil, List.append_nil]

theorem Noted.trans {middle after : Slot} (first : Noted slot middle)
    (second : Noted middle after) :
    Noted slot after := by
  intro i
  obtain ⟨lines, own, appended⟩ := first i
  obtain ⟨more, moreOwn, moreAppended⟩ := second i
  refine ⟨lines ++ more, ?_, ?_⟩
  · intro line mem
    exact (List.mem_append.mp mem).elim (own line) (moreOwn line)
  · rw [moreAppended, appended, List.flatten_append, List.append_assoc]

@[simp] theorem Slot.modifyJob_appended (slot : Slot) (write : Job → Job) :
    (slot.modifyJob write).appended = slot.appended := by
  unfold Slot.modifyJob
  split <;> rfl

theorem appended_append (slot : Slot) (task : Task) (chunk : Bytes) (i : Nat) :
    (append slot task chunk).1.appended i =
      slot.appended i ++ if task.job = i then chunk else [] := by
  change Function.update slot.appended task.job _ i = _
  split
  · rename_i own
    rw [← own, Function.update_self]
  · rename_i other
    rw [Function.update_of_ne (Ne.symm other), List.append_nil]

theorem noted_append (slot : Slot) (task : Task) {line : Bytes} (own : Line line) :
    Noted slot (append slot task line).1 := by
  intro i
  rw [appended_append]
  split
  · exact ⟨[line], fun other mem => List.mem_singleton.mp mem ▸ own, by
      rw [List.flatten_singleton]⟩
  · exact ⟨[], nofun, rfl⟩

theorem noted_runCompose (deploy : Deploy) : Noted slot (runCompose deploy slot task).1 := by
  unfold runCompose
  dsimp only
  exact noted_append slot task (.compose task.args)

theorem noted_launch (deploy : Deploy) : Noted slot (launch deploy slot task).1 := by
  have running : Noted slot (slot.modifyJob fun job => { job with state := .running }) :=
    .of_eq (slot.modifyJob_appended _)
  unfold launch
  split
  · exact running
  · exact running.trans (noted_runCompose deploy)

theorem noted_proceed (deploy : Deploy) (call : DockerCall) (outcome : Except Fault Result) :
    Noted slot (proceed deploy slot task call outcome).1 := by
  cases call with
  | networkList =>
      simp only [proceed]
      cases outcome.bind checked with
      | error fault => exact .of_eq rfl
      | ok networks =>
          dsimp only
          split
          · exact .of_eq rfl
          split
          · exact .of_eq rfl
          · dsimp only
            exact noted_append slot task .creating
  | networkInspect =>
      simp only [proceed]
      cases outcome.bind checked with
      | error fault => exact .of_eq rfl
      | ok network =>
          dsimp only
          split
          · exact .of_eq rfl
          · dsimp only
            exact (noted_append slot task .reusing).trans (noted_runCompose deploy)
  | networkCreate =>
      simp only [proceed]
      cases outcome.bind checked with
      | error fault => exact .of_eq rfl
      | ok created =>
          dsimp only
          exact noted_runCompose deploy
  | compose =>
      simp only [proceed]
      cases outcome with
      | error fault => exact .of_eq rfl
      | ok result =>
          have timed : (if result.timedOut = true then
              (slot.modifyJob fun job => { job with exitCode := some result.code }).modifyJob
                fun job => { job with state := .timedOut }
              else slot.modifyJob fun job => { job with exitCode := some result.code }).appended =
                slot.appended := by
            split <;> simp only [Slot.modifyJob_appended]
          dsimp only
          cases checked result with
          | error fault => exact .of_eq timed
          | ok result => exact .of_eq ((Slot.modifyJob_appended _ _).trans timed)

theorem noted_resume (slot : Slot) (task : Task) (deploy : Deploy) (call : DockerCall)
    (outcome : Except Fault Result) (finishedAt : String) :
    Noted slot (resume deploy slot task call outcome finishedAt).1 := by
  have proceeded : Noted slot (proceed deploy slot task call outcome).1 :=
    noted_proceed deploy call outcome
  unfold resume
  generalize proceed deploy slot task call outcome = next at proceeded ⊢
  obtain ⟨slot, fault | task | task⟩ := next
  · refine proceeded.trans (.of_eq ?_)
    simp only [Slot.finally, Slot.catch, Slot.modifyJob_appended]
  · refine proceeded.trans (.of_eq ?_)
    simp only [Slot.finally, Slot.modifyJob_appended]
  · exact proceeded

theorem noted_submit (slot : Slot) (deploy : Deploy) (action target id startedAt : String) :
    Noted slot (submit deploy slot action target id startedAt).1 := by
  unfold submit
  split
  · exact .of_eq rfl
  dsimp only
  split
  · exact .of_eq rfl
  split
  · exact .of_eq rfl
  · exact Noted.trans (.of_eq rfl) (noted_launch deploy)

theorem noted_checkedFiles (slot : Slot) (task : Task) (deploy : Deploy)
    (outcome : Except Fault Unit) (finishedAt : String) :
    Noted slot (checkedFiles deploy slot task outcome finishedAt).1 := by
  cases outcome with
  | error fault => exact .of_eq (slot.modifyJob_appended _)
  | ok _ => exact noted_launch deploy

theorem appended_report (slot : Slot) (task : Task) (call : DockerCall) (event : CommandEvent)
    (i : Nat) :
    (report slot task call event).1.appended i =
      slot.appended i ++ if task.job = i ∧ call.reports then event.output.getD [] else [] := by
  unfold report
  split
  · rename_i chunk reports output
    rw [appended_append, reports, output]
    simp only [and_true, Option.getD_some]
  · rename_i silent
    cases reports : call.reports with
    | false => simp only [Bool.false_eq_true, and_false, if_false, List.append_nil]
    | true =>
        cases output : event.output with
        | none => simp only [Option.getD_none, ite_self, List.append_nil]
        | some chunk => exact absurd output (silent chunk reports)

end

section

variable {deploy : Deploy} {manager next : State} {event : Event}

theorem noted_of_step (stepped : step deploy manager event = some next)
    (between : ∀ position command, event ≠ .command position command) :
    Noted manager.slot next.slot := by
  cases event with
  | command position command => exact absurd rfl (between position command)
  | submit action target id startedAt =>
      cases stepped
      exact noted_submit manager.slot deploy action target id startedAt
  | preflight position outcome finishedAt =>
      simp only [Manager.step] at stepped
      split at stepped
      · cases stepped
      rename_i task pending
      split at stepped
      · cases stepped
      cases stepped
      exact noted_checkedFiles manager.slot task deploy outcome finishedAt
  | resume position finishedAt =>
      simp only [Manager.step] at stepped
      split at stepped
      · cases stepped
      rename_i task pending
      split at stepped
      · rename_i call outcome awaits
        cases stepped
        exact noted_resume manager.slot task deploy call outcome finishedAt
      · cases stepped
  -- whoever reads does not touch the slot
  | read args color =>
      simp only [Manager.step] at stepped
      split at stepped
      · cases stepped
        exact .of_eq rfl
      · rename_i reading started
        cases stepped
        unfold State.read at started
        split at started <;> cases started
        exact .of_eq rfl
  | readCommand position command =>
      simp only [Manager.step] at stepped
      split at stepped
      · cases stepped
      split at stepped <;> cases stepped
      exact .of_eq rfl
  | readEnd position =>
      simp only [Manager.step] at stepped
      split at stepped <;> cases stepped
      exact .of_eq rfl

theorem appended_command {position : Nat} {command : CommandEvent}
    (stepped : step deploy manager (.command position command) = some next) (i : Nat) :
    next.slot.appended i =
      manager.slot.appended i ++ manager.chunk i (.command position command) := by
  simp only [Manager.step] at stepped
  split at stepped
  · cases stepped
  rename_i task pending
  split at stepped
  · cases stepped
  rename_i call running awaits
  split at stepped
  · cases stepped
  cases stepped
  simp only [State.chunk, pending, awaits]
  exact appended_report ..

/-- An event of a command appends its chunk, and every other one only lines of the manager. -/
theorem appended_of_step (stepped : step deploy manager event = some next) (i : Nat) :
    ∃ lines : List Bytes, (∀ line ∈ lines, Line line) ∧
      (∀ position command, event = .command position command → lines = []) ∧
      next.slot.appended i = manager.slot.appended i ++ manager.chunk i event ++ lines.flatten := by
  cases event with
  | command position command =>
      refine ⟨[], nofun, fun _ _ _ => rfl, ?_⟩
      rw [List.flatten_nil, List.append_nil]
      exact appended_command stepped i
  | submit | preflight | resume | read | readCommand | readEnd =>
      obtain ⟨lines, own, appended⟩ := noted_of_step stepped nofun i
      refine ⟨lines, own, nofun, ?_⟩
      simp only [State.chunk, List.append_nil]
      exact appended

/-- What a run has appended for a job is what was written into its output. -/
theorem writes_of_reach {first last : State} (reach : Reach deploy first last) (i : Nat) :
    ∃ bytes, Writes deploy i first bytes last ∧
      last.slot.appended i = first.slot.appended i ++ bytes := by
  induction reach with
  | refl => exact ⟨[], .nil, (List.append_nil _).symm⟩
  | tail _ stepped ih =>
      obtain ⟨bytes, before, appended⟩ := ih
      obtain ⟨event, stepped⟩ := stepped
      obtain ⟨lines, own, between, more⟩ := appended_of_step stepped i
      refine ⟨_, .step before stepped own between, ?_⟩
      rw [more, appended]
      simp only [List.append_assoc]

end

/-! ## The slot in every state -/

section

variable {slot : Slot} {tasks : List Task}

theorem Exclusive.taken_iff (exclusive : Exclusive slot tasks) :
    slot.active = true ↔ ∃ job ∈ slot.jobs, job.Active := by
  cases exclusive with
  | free free ended _ =>
      constructor
      · intro taken
        rw [free] at taken
        cases taken
      · intro ⟨job, mem, busy⟩
        exact absurd busy (Job.ended_iff.mp (ended job mem))
  | @taken earlier job task _ owned busy =>
      refine ⟨fun _ => ⟨job, ?_, busy⟩, fun _ => owned.active⟩
      rw [owned.jobs]
      exact List.mem_append_right _ List.mem_cons_self

/-- An active job is the last one. -/
theorem Exclusive.last (exclusive : Exclusive slot tasks) {i : Nat} {job : Job}
    (found : slot.jobs[i]? = some job) (busy : job.Active) : i + 1 = slot.jobs.length := by
  cases exclusive with
  | free _ ended _ =>
      exact absurd busy (Job.ended_iff.mp (ended job (List.mem_of_getElem? found)))
  | @taken earlier last task ended owned _ =>
      rw [owned.jobs] at found ⊢
      rw [List.length_append, List.length_singleton]
      by_cases before : i < earlier.length
      · rw [List.getElem?_append_left before] at found
        exact absurd busy (Job.ended_iff.mp (ended job (List.mem_of_getElem? found)))
      · have bound := (List.getElem?_eq_some_iff.mp found).1
        rw [List.length_append, List.length_singleton] at bound
        omega

theorem Exclusive.calls (exclusive : Exclusive slot tasks) :
    tasks.length ≤ 1 ∧ ∀ task ∈ tasks, ∃ job, slot.jobs[task.job]? = some job ∧ job.Active := by
  cases exclusive with
  | free => exact ⟨Nat.zero_le _, fun _ mem => absurd mem List.not_mem_nil⟩
  | @taken earlier job task _ owned busy =>
      refine ⟨Nat.le_refl _, ?_⟩
      intro other mem
      rw [List.mem_singleton] at mem
      subst mem
      refine ⟨job, ?_, busy⟩
      rw [owned.jobs, owned.owner, List.getElem?_concat_length]

end

/-- What one state of the manager promises. -/
structure SingleSlot (deploy : Deploy) (manager : State) : Prop where
  one : ∀ (i j : Nat) (first second : Job), manager.slot.jobs[i]? = some first →
    manager.slot.jobs[j]? = some second → first.Active → second.Active → i = j
  commands : ∀ task ∈ manager.tasks, ∃ job, manager.slot.jobs[task.job]? = some job ∧ job.Active
  calls : manager.tasks.length ≤ 1
  refused : ∀ action target args id startedAt, actionArgs action target = .ok args →
    (∃ job ∈ manager.slot.jobs, job.Active) →
    submit deploy manager.slot action target id startedAt =
        (manager.slot, none, .rejected inProgress) ∧
      step deploy manager (.submit action target id startedAt) = some manager
  taken : manager.slot.active = true ↔ ∃ job ∈ manager.slot.jobs, job.Active
  output : ∀ i job, manager.slot.jobs[i]? = some job → Recorded job (manager.slot.appended i)
  written : ∀ i, Writes deploy i {} (manager.slot.appended i) manager
  reads : manager.reads.length ≤ maxReaders

theorem Inv.singleSlot {deploy : Deploy} {manager : State} (inv : Inv manager)
    (reach : Reach deploy {} manager) : SingleSlot deploy manager := by
  have exclusive := inv.exclusive
  constructor
  · intro i j first second atFirst atSecond firstBusy secondBusy
    have firstLast := exclusive.last atFirst firstBusy
    have secondLast := exclusive.last atSecond secondBusy
    omega
  · exact exclusive.calls.2
  · exact exclusive.calls.1
  · intro action target args id startedAt wellFormed busy
    have refused := submit_inProgress wellFormed (exclusive.taken_iff.mpr busy) deploy id startedAt
    refine ⟨refused, ?_⟩
    simp only [Manager.step, refused, Option.toList_none, List.append_nil]
  · exact exclusive.taken_iff
  · exact exclusive.records.recorded
  · intro i
    obtain ⟨bytes, writes, appended⟩ := writes_of_reach reach i
    change _ = [] ++ bytes at appended
    rw [appended]
    exact writes
  · rw [← inv.readers]
    exact inv.few

/-- In every state that the manager reaches, whatever the order of its requests, its
preflights and the events of its commands, the slot is kept, and a job that has ended stays
as it is. -/
theorem mutationSlot (deploy : Deploy) (manager : State) (reach : Reach deploy {} manager) :
    SingleSlot deploy manager ∧
    ∀ later, Reach deploy manager later → ∀ (i : Nat) (job : Job),
      manager.slot.jobs[i]? = some job → job.Ended → later.slot.jobs[i]? = some job := by
  have inv := (inv_reach inv_init reach).1
  refine ⟨inv.singleSlot reach, ?_⟩
  intro later onwards
  exact (inv_reach inv onwards).2

def testDeploy : Deploy where
  directory := "/srv/remote/deploy/"
  join := (· ++ ·)

/-- A job that succeeds while another request is refused. -/
def testEvents : List Event :=
  [.submit "stop" "api" "1f" "2026-01-01T00:00:00.000Z", .command 0 (.stdout [0x6f, 0x6b]),
    .submit "restart" "web" "2f" "2026-01-01T00:00:01.000Z", .command 0 (.close (some 0) none),
    .resume 0 "2026-01-01T00:00:02.000Z"]

theorem mutationSlot_stop :
    ∃ manager, run testDeploy {} testEvents = some manager ∧ SingleSlot testDeploy manager ∧
      manager.slot.jobs.map (fun job => (job.state, job.output, job.truncated)) =
        [(.succeeded, "$ docker compose stop api\nok", false)] := by
  have ran : ((run testDeploy {} testEvents).map fun manager =>
      manager.slot.jobs.map fun job => (job.state, job.output, job.truncated)) =
        some [(.succeeded, "$ docker compose stop api\nok", false)] := by
    decide +kernel
  obtain ⟨manager, ran, shown⟩ := Option.map_eq_some_iff.mp ran
  exact ⟨manager, ran, (mutationSlot testDeploy manager (reach_of_run ran)).1, shown⟩

end YoAuthorize.Manager
