import Mathlib.Logic.Function.Basic
import YoAuthorize.Manager.Commands

/-!
# Jobs of the manager

`createManager` of `server.mjs`.  Between two awaits the code runs undisturbed, so a
step is what happens from one await to the next: a `submit` up to its preflight or
its first command, the rest of a `submit` when the preflight or a command is
settled, an event of a command, and the two ends of a read.  The awaits of several
calls interleave freely.

Every call that has not ended is a task.  It keeps its own `args` and `captured`,
but writes to the job that the shared variable `job` refers to at that moment.
-/

namespace YoAuthorize.Manager

open Octets

/-- `job.state`. -/
inductive JobState : Type
  | checking
  | running
  | succeeded
  | failed
  | timedOut
  deriving DecidableEq, Repr

structure Job : Type where
  id : String
  action : String
  target : String
  state : JobState := .checking
  startedAt : String
  output : String := ""
  truncated : Bool := false
  exitCode : Option (Option Int) := none
  error : Option String := none
  finishedAt : Option String := none
  deriving DecidableEq, Repr

/-- The commands that a job awaits. -/
inductive DockerCall : Type
  | networkList
  | networkInspect
  | networkCreate
  | compose
  deriving DecidableEq, Repr

/-- The call is given `append` as its `onOutput`. -/
def DockerCall.reports : DockerCall → Bool
  | .networkList | .networkInspect => false
  | .networkCreate | .compose => true

inductive Await : Type
  | preflight
  | docker (call : DockerCall) (command : Command)

/-- A call of `submit` at an await.  `captured` is declared after the preflight, and
`job` is the position of the job that the call has created; the code does not have it. -/
structure Task : Type where
  job : Nat
  action : String
  target : String
  args : List String
  captured : Bytes := []
  await : Await

/-- The variables `job` and `active`, the jobs that were created, in their order, and what
was appended for each of them, which is not kept by the code. -/
structure Slot : Type where
  job : Option Nat := none
  active : Bool := false
  jobs : List Job := []
  appended : Nat → Bytes := fun _ => []

/-! ## Writes to the job -/

def Slot.modifyJob (slot : Slot) (write : Job → Job) : Slot :=
  match slot.job with
  | none => slot
  | some job => { slot with jobs := slot.jobs.modify job write }

/-- `append` of `submit`. -/
def append (slot : Slot) (task : Task) (chunk : Bytes) : Slot × Task :=
  let output := task.captured ++ chunk
  let captured := output.rtake outputLimit
  let written := slot.modifyJob fun job =>
    { job with
      truncated := job.truncated || outputLimit < output.length
      output := bufferToString captured }
  ({ written with
     appended := Function.update slot.appended task.job (slot.appended task.job ++ chunk) },
   { task with captured })

/-- The `catch` of the background task. -/
def Slot.catch (slot : Slot) (fault : Fault) : Slot :=
  slot.modifyJob fun job =>
    { job with
      state := if job.state = .timedOut then .timedOut else .failed
      error := some fault.message }

/-- The `finally` of the background task. -/
def Slot.finally (slot : Slot) (finishedAt : String) : Slot :=
  { slot.modifyJob fun job => { job with finishedAt := some finishedAt } with active := false }

/-! ## The background task -/

/-- A task awaits a new command. -/
def Task.call (task : Task) (call : DockerCall) (args : List String) (color : Bool) : Task :=
  { task with await := .docker call (.running (execute args color)) }

/-- The last command of every job. -/
def runCompose (deploy : Deploy) (slot : Slot) (task : Task) : Slot × Task :=
  let noted := append slot task (utf8 ("$ docker compose " ++ " ".intercalate task.args ++ "\n"))
  (noted.1, noted.2.call .compose (composeArgs deploy task.args) true)

/-- From the end of the preflight to the first command. -/
def launch (deploy : Deploy) (slot : Slot) (task : Task) : Slot × Task :=
  let slot := slot.modifyJob fun job => { job with state := .running }
  if task.action = "start" then
    (slot, task.call .networkList ["network", "ls", "--format", "\x7b\x7b.Name\x7d\x7d"] false)
  else runCompose deploy slot task

/-- The `try` of the background task from a settled command on: the task at its next await,
its end, or what it throws. -/
def proceed (deploy : Deploy) (slot : Slot) (task : Task) (call : DockerCall)
    (outcome : Except Fault Result) : Slot × Except Fault (Option Task) :=
  match call with
  | .networkList =>
      match outcome.bind checked with
      | .error fault => (slot, .error fault)
      | .ok networks =>
          if networks.truncated then
            (slot, .error (.of 502 "Network list exceeded the capture limit."))
          else if "dev-net".toList ∈ splitLines (trim networks.stdout.toList) then
            (slot, .ok (some (task.call .networkInspect
              ["network", "inspect", "-f", "\x7b\x7b.Driver\x7d\x7d", "dev-net"] false)))
          else
            let noted := append slot task
              (utf8 "[Network] Creating dev-net (bridge, br-docker).\n")
            (noted.1, .ok (some (noted.2.call .networkCreate ["network", "create", "--driver",
              "bridge", "--opt", "com.docker.network.bridge.name=br-docker", "dev-net"] false)))
  | .networkInspect =>
      match outcome.bind checked with
      | .error fault => (slot, .error fault)
      | .ok network =>
          if trim network.stdout.toList ≠ "bridge".toList then
            (slot, .error (.of 422 "dev-net must use the bridge driver. No network was changed."))
          else
            let noted := append slot task (utf8 "[Network] Reusing dev-net (bridge).\n")
            let called := runCompose deploy noted.1 noted.2
            (called.1, .ok (some called.2))
  | .networkCreate =>
      match outcome.bind checked with
      | .error fault => (slot, .error fault)
      | .ok _ =>
          let called := runCompose deploy slot task
          (called.1, .ok (some called.2))
  | .compose =>
      match outcome with
      | .error fault => (slot, .error fault)
      | .ok result =>
          let exited := slot.modifyJob fun job => { job with exitCode := some result.code }
          let timed := if result.timedOut then
            exited.modifyJob fun job => { job with state := .timedOut } else exited
          match checked result with
          | .error fault => (timed, .error fault)
          | .ok _ => (timed.modifyJob fun job => { job with state := .succeeded }, .ok none)

/-- The background task from a settled command to its next await or its end. -/
def resume (deploy : Deploy) (slot : Slot) (task : Task) (call : DockerCall)
    (outcome : Except Fault Result) (finishedAt : String) : Slot × Option Task :=
  match proceed deploy slot task call outcome with
  | (slot, .ok (some task)) => (slot, some task)
  | (slot, .ok none) => (slot.finally finishedAt, none)
  | (slot, .error fault) => ((slot.catch fault).finally finishedAt, none)

/-! ## Requests -/

/-- What a promise of the manager is settled with so far. -/
inductive Reply : Type
  | pending
  | rejected (fault : Fault)
  | job (job : Option Nat)
  deriving DecidableEq

/-- Another mutation holds the slot. -/
def inProgress : Fault :=
  .of 409 "Another mutation is in progress. Wait for the current job."

/-- `submit` up to its first await; `id` and `startedAt` are the random bytes and the time. -/
def submit (deploy : Deploy) (slot : Slot) (action target id startedAt : String) :
    Slot × Option Task × Reply :=
  match actionArgs action target with
  | .error fault => (slot, none, .rejected fault)
  | .ok args =>
      if slot.active then (slot, none, .rejected inProgress)
      else
        let reference := slot.jobs.length
        let taken :=
          { slot with
            active := true
            job := some reference
            jobs := slot.jobs ++ [{ id, action, target, startedAt }] }
        let task := { job := reference, action, target, args, await := .preflight }
        if action = "start" then (taken, some task, .pending)
        else
          let begun := launch deploy taken task
          (begun.1, some begun.2, .job begun.1.job)

/-- `submit` after its preflight. -/
def checkedFiles (deploy : Deploy) (slot : Slot) (task : Task) (outcome : Except Fault Unit)
    (finishedAt : String) : Slot × Option Task × Reply :=
  match outcome with
  | .error fault =>
      let failed := slot.modifyJob fun job =>
        { job with state := .failed, error := some fault.message, finishedAt := some finishedAt }
      ({ failed with active := false }, none, .rejected fault)
  | .ok () =>
      let begun := launch deploy slot task
      (begun.1, some begun.2, .job begun.1.job)

/-! ## Steps -/

/-- The slot, `readers`, the calls of `submit` and the reads that are pending. -/
structure State : Type where
  slot : Slot := {}
  readers : Nat := 0
  tasks : List Task := []
  reads : List Command := []

def maxReaders : Nat := 4

/-- `read` up to its await. -/
def State.read (deploy : Deploy) (manager : State) (args : List String) (color : Bool) :
    Except Fault State :=
  if manager.readers ≥ maxReaders then .error (.of 429 "Too many Docker reads; retry shortly.")
  else .ok
    { manager with
      readers := manager.readers + 1
      reads := manager.reads ++ [.running (execute (composeArgs deploy args) color)] }

inductive Event : Type
  | submit (action target id startedAt : String)
  | preflight (task : Nat) (outcome : Except Fault Unit) (finishedAt : String)
  | command (task : Nat) (event : CommandEvent)
  | resume (task : Nat) (finishedAt : String)
  | read (args : List String) (color : Bool)
  | readCommand (read : Nat) (event : CommandEvent)
  | readEnd (read : Nat)

/-- The task at a position, replaced or ended. -/
def setTask (tasks : List Task) (position : Nat) : Option Task → List Task
  | none => tasks.eraseIdx position
  | some task => tasks.set position task

/-- What an event of a command does beside changing the command. -/
def report (slot : Slot) (task : Task) (call : DockerCall) (event : CommandEvent) : Slot × Task :=
  match call.reports, event.output with
  | true, some chunk => append slot task chunk
  | _, _ => (slot, task)

/-- A step, where the event can happen. -/
def step (deploy : Deploy) (manager : State) : Event → Option State
  | .submit action target id startedAt =>
      let submitted := submit deploy manager.slot action target id startedAt
      some { manager with slot := submitted.1, tasks := manager.tasks ++ submitted.2.1.toList }
  | .preflight position outcome finishedAt =>
      match manager.tasks[position]? with
      | none => none
      | some task =>
          match task.await with
          | .docker _ _ => none
          | .preflight =>
              let next := checkedFiles deploy manager.slot task outcome finishedAt
              some { manager with
                slot := next.1, tasks := setTask manager.tasks position next.2.1 }
  | .command position event =>
      match manager.tasks[position]? with
      | none => none
      | some task =>
          match task.await with
          | .preflight => none
          | .docker call command =>
              match command.receive event with
              | none => none
              | some command =>
                  let next := report manager.slot task call event
                  some { manager with
                    slot := next.1
                    tasks := setTask manager.tasks position
                      (some { next.2 with await := .docker call command }) }
  | .resume position finishedAt =>
      match manager.tasks[position]? with
      | none => none
      | some task =>
          match task.await with
          | .docker call (.settled outcome) =>
              let next := resume deploy manager.slot task call outcome finishedAt
              some { manager with slot := next.1, tasks := setTask manager.tasks position next.2 }
          | _ => none
  | .read args color =>
      match manager.read deploy args color with
      | .error _ => some manager
      | .ok manager => some manager
  | .readCommand position event =>
      match manager.reads[position]? with
      | none => none
      | some command =>
          match command.receive event with
          | none => none
          | some command => some { manager with reads := manager.reads.set position command }
  | .readEnd position =>
      match manager.reads[position]? with
      | some (.settled _) =>
          some { manager with
            readers := manager.readers - 1, reads := manager.reads.eraseIdx position }
      | _ => none

end YoAuthorize.Manager
