import Mathlib.Data.List.DropRight
import YoAuthorize.Manager.Text

/-!
# Docker commands of the manager

The arguments of the commands, and `execute` and `checked` of `server.mjs`.  A
command is the promise of `execute`: what its child process does reaches it as
events, in any order up to the close.  The output is kept in buffers that hold the
last bytes only (`rtake_append_rtake`).
-/

namespace YoAuthorize.Manager

open Octets

/-- An `Error`; those of `fail` carry a status. -/
structure Fault : Type where
  status : Option Nat := none
  message : String
  deriving DecidableEq, Repr

/-- `fail(status, message)`. -/
def Fault.of (status : Nat) (message : String) : Fault := { status := some status, message }

/-! ## Arguments -/

def services : List String := ["postgres", "redis", "mailpit", "signer", "api", "web", "caddy"]
def visible : List String := services ++ ["migrate"]
def backend : List String := ["postgres", "redis", "mailpit", "signer", "api", "migrate"]
def frontend : List String := ["web", "caddy"]
def infrastructure : List String := ["postgres", "redis", "mailpit"]

/-- `DEPLOY` and `path.join`. -/
structure Deploy : Type where
  directory : String
  join : String → String → String

def composeArgs (deploy : Deploy) (args : List String) : List String :=
  ["compose", "--project-directory", deploy.directory, "--env-file",
    deploy.join deploy.directory ".env", "-p", "yoauthorize", "-f",
    deploy.join deploy.directory "compose.yaml"] ++ args

def actionArgs (action target : String) : Except Fault (List String) :=
  if action ∉ ["start", "stop", "restart"] ∨
      target ∉ visible ++ ["backend", "frontend", "infrastructure", "all"] ∨
      (target = "migrate" ∧ action ≠ "start") then
    .error (.of 400 "Unsupported action or target.")
  else if action = "start" then
    let names := if target = "backend" then ["api", "mailpit"] else
      if target = "frontend" then frontend else
      if target = "infrastructure" then infrastructure else
      if target = "all" then services else [target]
    .ok (["up", "-d"] ++ names)
  else
    let names := if target = "backend" then backend else
      if target = "frontend" then frontend else
      if target = "infrastructure" then infrastructure else
      if target = "all" then services ++ ["migrate"] else [target]
    .ok (if action = "restart" then ["restart", "--no-deps"] ++ names.filter (· ≠ "migrate")
      else "stop" :: names)

/-! ## Bounded buffers -/

def outputLimit : Nat := 256 * 1024

/-- Dropping what a later cut would drop changes nothing. -/
theorem rtake_append_rtake {α : Type} (limit : Nat) (old new : List α) :
    (old.rtake limit ++ new).rtake limit = (old ++ new).rtake limit := by
  unfold List.rtake
  rw [← List.drop_append_of_le_length (by omega), List.drop_drop]
  congr 1
  simp only [List.length_append, List.length_drop]
  omega

theorem lt_length_rtake_append_iff {α : Type} {limit : Nat} {old new : List α} :
    limit < old.length ∨ limit < (old.rtake limit ++ new).length ↔
      limit < (old ++ new).length := by
  unfold List.rtake
  simp only [List.length_append, List.length_drop]
  omega

/-! ## `execute` -/

/-- What the promise of `execute` resolves to. -/
structure Result : Type where
  code : Option Int
  signal : Option String
  stdout : String
  stderr : String
  truncated : Bool
  timedOut : Bool
  error : Option String
  deriving DecidableEq, Repr

/-- The arguments of the child and the variables of `execute`. -/
structure Execution : Type where
  commandArgs : List String
  stdout : Bytes := []
  stderr : Bytes := []
  truncated : Bool := false
  timedOut : Bool := false
  spawnError : Option String := none
  deriving DecidableEq, Repr

def execute (args : List String) (color : Bool) : Execution where
  commandArgs :=
    match args with
    | "compose" :: rest => ["compose", "--ansi", if color then "always" else "never"] ++ rest
    | args => args

/-- `append` of `execute`: the buffer that is kept, and whether something was dropped. -/
def keepLast (previous chunk : Bytes) : Bytes × Bool :=
  let data := previous ++ chunk
  (data.rtake outputLimit, outputLimit < data.length)

/-- What happens to the promise of `execute` while it is pending: the call throws, one of the
pipes delivers a chunk, the timer fires, or the child reports an error or closes. -/
inductive CommandEvent : Type
  | throws (message : String)
  | stdout (chunk : Bytes)
  | stderr (chunk : Bytes)
  | timer
  | error (message : String)
  | close (code : Option Int) (signal : Option String)

/-- The chunk that the event hands to `onOutput`. -/
def CommandEvent.output : CommandEvent → Option Bytes
  | .stdout chunk => some chunk
  | .stderr chunk => some chunk
  | _ => none

/-- The promise of `execute`. -/
inductive Command : Type
  | running (execution : Execution)
  | settled (outcome : Except Fault Result)

/-- After `close` the pipes have ended and the timers are cleared, so there is no event. -/
def Command.receive : Command → CommandEvent → Option Command
  | .settled _, _ => none
  | .running _, .throws message => some (.settled (.error { message }))
  | .running execution, .stdout chunk =>
      let kept := keepLast execution.stdout chunk
      some (.running
        { execution with stdout := kept.1, truncated := execution.truncated || kept.2 })
  | .running execution, .stderr chunk =>
      let kept := keepLast execution.stderr chunk
      some (.running
        { execution with stderr := kept.1, truncated := execution.truncated || kept.2 })
  | .running execution, .timer => some (.running { execution with timedOut := true })
  | .running execution, .error message =>
      some (.running { execution with spawnError := some message })
  | .running execution, .close code signal =>
      some (.settled (.ok
        { code
          signal
          stdout := bufferToString execution.stdout
          stderr := bufferToString execution.stderr
          truncated := execution.truncated
          timedOut := execution.timedOut
          error := execution.spawnError }))

/-! ## `checked` -/

/-- A string that is truthy. -/
def truthy : Option String → Option String
  | none => none
  | some text => if text = "" then none else some text

def showCode : Option Int → String
  | none => "null"
  | some code => toString code

def checked (result : Result) : Except Fault Result :=
  if result.code ≠ some 0 ∨ result.timedOut ∨ truthy result.error ≠ none then
    .error <| .of 502 <|
      if result.timedOut then
        "Docker command timed out. The daemon may still be working; " ++
          "inspect status before retrying."
      else
        ((truthy result.error).or (truthy (some (.ofList (trim result.stderr.toList))))).getD
          ("Docker exited with code " ++ showCode result.code ++ " (" ++
            (truthy result.signal).getD "no signal" ++ ").")
  else .ok result

end YoAuthorize.Manager
