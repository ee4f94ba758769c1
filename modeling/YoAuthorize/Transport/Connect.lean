import YoAuthorize.Transport.UnixSocket
import Mathlib.Data.Finset.Basic
import Mathlib.Data.Fintype.EquivFin
import Mathlib.Order.Nat

/-!
# Connecting a socket

`UnixSocketTransport::connect` (`unix_socket.cpp`) over the answers of the system
calls that it makes.  The descriptor of the socket is published in the state of the
transport before the calls that can still fail, and every exit after that has to
take it back.  `Machine` is a transport that nobody else closes, with the open
descriptors of its process.
-/

namespace YoAuthorize.Transport

open Octets

/-! ## System calls -/

def EINTR : Int := 4
def EMFILE : Int := 24
def EISCONN : Int := 106
def EINPROGRESS : Int := 115

def POLLIN : UInt16 := 0x1
def POLLOUT : UInt16 := 0x4
def POLLERR : UInt16 := 0x8
def POLLHUP : UInt16 := 0x10
def POLLNVAL : UInt16 := 0x20

/-- `sizeof(address.sun_path)`. -/
def sunPathSize : Nat := 108

def systemError (error : Int) : Status := { code := .systemError, systemError := error }

/-- What one `poll` of the socket and the eventfd returns. -/
inductive PollResult : Type
  | failed (error : Int)
  | timedOut
  | ready (revents cancelRevents : UInt16)
  deriving DecidableEq

/-- The answers to the calls of one `connect`: `fcntl`, `connect` and `poll` are
called again when they are interrupted, so they have a list each. -/
structure ConnectCalls : Type where
  socket : Except Int Unit := .ok ()
  duplicates : List (Except Int Unit)
  connects : List (Except Int Unit)
  polls : List PollResult := []
  /-- `getsockopt` and the `SO_ERROR` it reads. -/
  socketError : Except Int Int := .ok 0

/-- What an iteration of the loop of `waitFor` returns; `none` goes on. -/
def PollResult.status (events : UInt16) : PollResult → Option Status
  | .failed error => if error = EINTR then none else some (systemError error)
  | .timedOut => some { code := .timeout }
  | .ready revents cancelRevents =>
      if cancelRevents &&& POLLIN ≠ 0 then some { code := .canceled }
      else if revents &&& (events ||| POLLERR ||| POLLHUP ||| POLLNVAL) ≠ 0 then some {}
      else none

/-- `waitFor`, which does not return while the results go on. -/
def waitFor (polls : List PollResult) (events : UInt16) : Option Status :=
  polls.findSome? (PollResult.status events)

/-- A loop `do … while (result < 0 && errno == EINTR)`. -/
def retry (results : List (Except Int Unit)) : Option (Except Int Unit) :=
  results.find? fun
    | .error error => error ≠ EINTR
    | .ok () => true

/-! ## The transport -/

/-- `UnixSocketTransport::State`; `none` is the descriptor -1. -/
structure State : Type where
  path : Bytes
  fd : Option Nat := none
  cancelFd : Option Nat
  canceled : Bool := false

/-- A transport, without a state after a move, and the open descriptors. -/
structure Machine : Type where
  state : Option State
  descriptors : Finset Nat

namespace Machine

def isOpen (machine : Machine) : Bool :=
  match machine.state with
  | none => false
  | some state => state.fd.isSome

/-- The descriptor that the kernel gives out next: the lowest one that is not open. -/
def lowest (machine : Machine) : Nat :=
  Nat.find (Infinite.exists_notMem_finset machine.descriptors)

def openFd (machine : Machine) (fd : Nat) : Machine :=
  { machine with descriptors := insert fd machine.descriptors }

def closeFd (machine : Machine) (fd : Nat) : Machine :=
  { machine with descriptors := machine.descriptors.erase fd }

/-- `state_->fd = fd`. -/
def publish (machine : Machine) (fd : Option Nat) : Machine :=
  { machine with state := machine.state.map fun state => { state with fd } }

def resetSocket (machine : Machine) : Machine :=
  match machine.state.bind State.fd with
  | none => machine
  | some fd => (machine.publish none).closeFd fd

/-- What `connect` returns when its socket is connected. -/
def connected (state : State) : Status := if state.canceled then { code := .canceled } else {}

/-- `connect` from the duplicated descriptor on. -/
def connectOperation (calls : ConnectCalls) (state : State) (machine : Machine) :
    Option (Machine × Status) :=
  match retry calls.connects with
  | none => none
  | some (.ok ()) => some (machine, connected state)
  | some (.error error) =>
      if error ≠ EINPROGRESS then some (machine.resetSocket, systemError error)
      else
        match waitFor calls.polls POLLOUT with
        | none => none
        | some status =>
            if status.code ≠ .ok then
              if status.code ≠ .canceled then some (machine.resetSocket, status)
              else some (machine, status)
            else
              match calls.socketError with
              | .error error => some (machine.resetSocket, systemError error)
              | .ok error =>
                  if error ≠ 0 then some (machine.resetSocket, systemError error)
                  else some (machine, connected state)

/-- `connect` from the published descriptor on; `operation` is closed when it returns. -/
def connectSocket (calls : ConnectCalls) (state : State) (machine : Machine) :
    Option (Machine × Status) :=
  match retry calls.duplicates with
  | none => none
  | some (.error error) => some (machine, systemError error)
  | some (.ok ()) =>
      let operation := machine.lowest
      (connectOperation calls state (machine.openFd operation)).map fun result =>
        (result.1.closeFd operation, result.2)

/-- `makeAddress` accepts the path. -/
def addressable (state : State) : Bool := state.path ≠ [] ∧ state.path.length < sunPathSize

/-- `UnixSocketTransport::connect`, for which `none` is that it does not return. -/
def connect (calls : ConnectCalls) (machine : Machine) : Option (Machine × Status) :=
  match machine.state with
  | none => some (machine, systemError EMFILE)
  | some state =>
      if state.cancelFd = none then some (machine, systemError EMFILE)
      else if !addressable state then some (machine, { code := .invalidArgument })
      else
        match calls.socket with
        | .error error => some (machine, systemError error)
        | .ok () =>
            let fd := machine.lowest
            let created := machine.openFd fd
            if state.canceled then some (created.closeFd fd, { code := .canceled })
            else if state.fd.isSome then some (created.closeFd fd, systemError EISCONN)
            else connectSocket calls state (created.publish (some fd))

/-! ## A failed connect -/

/-- What is expected of a `connect` that returns: without success it leaves the
descriptors and the state as they were. -/
structure Settles (machine after : Machine) (status : Status) : Prop where
  closed : status.code ≠ .ok → after.isOpen = false
  released : status.code ≠ .ok → after.descriptors = machine.descriptors
  restored : status.code ≠ .ok → after.state = machine.state
  opened : status.code = .ok → after.isOpen = true

/-- The eventfd can be read only after a `close`. -/
def Quiet (calls : ConnectCalls) (machine : Machine) : Prop :=
  ∀ state, machine.state = some state → state.canceled = false →
    ∀ revents cancelRevents, .ready revents cancelRevents ∈ calls.polls →
      cancelRevents &&& POLLIN = 0

/-- The call creates a socket and keeps it. -/
def Publishes (calls : ConnectCalls) (machine : Machine) : Prop :=
  calls.socket = .ok () ∧ ∃ state, machine.state = some state ∧ state.cancelFd ≠ none ∧
    addressable state = true ∧ state.canceled = false

section

variable {calls : ConnectCalls} {machine after : Machine} {state : State} {status : Status}

theorem lowest_notMem (machine : Machine) : machine.lowest ∉ machine.descriptors :=
  Nat.find_spec (Infinite.exists_notMem_finset machine.descriptors)

theorem closeFd_openFd (machine : Machine) {fd : Nat} (fresh : fd ∉ machine.descriptors) :
    (machine.openFd fd).closeFd fd = machine := by
  unfold openFd closeFd
  rw [Finset.erase_insert fresh]

/-- A wait on a quiet eventfd is not canceled. -/
theorem code_of_waitFor {polls : List PollResult} {events : UInt16}
    (quiet : ∀ revents cancelRevents, .ready revents cancelRevents ∈ polls →
      cancelRevents &&& POLLIN = 0)
    (waits : waitFor polls events = some status) : status.code ≠ .canceled := by
  obtain ⟨result, member, returns⟩ := List.exists_of_findSome?_eq_some waits
  cases result with
  | failed error =>
      simp only [PollResult.status] at returns
      split at returns
      · cases returns
      · cases returns
        nofun
  | timedOut =>
      cases returns
      nofun
  | ready revents cancelRevents =>
      simp only [PollResult.status] at returns
      rw [if_neg (not_not.mpr (quiet revents cancelRevents member))] at returns
      split at returns
      · cases returns
        nofun
      · cases returns

/-- Every exit after the duplication is a success or takes the socket back. -/
theorem connectOperation_cases (uncanceled : state.canceled = false)
    (quiet : ∀ revents cancelRevents, .ready revents cancelRevents ∈ calls.polls →
      cancelRevents &&& POLLIN = 0)
    (returns : connectOperation calls state machine = some (after, status)) :
    (status.code = .ok ∧ after = machine) ∨
      (status.code ≠ .ok ∧ after = machine.resetSocket) := by
  have success : connected state = {} := by
    unfold connected
    rw [uncanceled]
    rfl
  unfold connectOperation at returns
  rw [success] at returns
  split at returns
  · cases returns
  · cases returns
    exact .inl ⟨rfl, rfl⟩
  split at returns
  · cases returns
    exact .inr ⟨nofun, rfl⟩
  split at returns
  · cases returns
  rename_i waited waits
  split at returns
  · rename_i failed
    rw [if_pos (code_of_waitFor quiet waits)] at returns
    cases returns
    exact .inr ⟨failed, rfl⟩
  split at returns
  · cases returns
    exact .inr ⟨nofun, rfl⟩
  split at returns
  · cases returns
    exact .inr ⟨nofun, rfl⟩
  · cases returns
    exact .inl ⟨rfl, rfl⟩

/-- A machine with a socket that is only known to its `connect`. -/
theorem resetSocket_created (here : machine.state = some state) (unopened : state.fd = none)
    {fd : Nat} (fresh : fd ∉ machine.descriptors) :
    ((machine.openFd fd).publish (some fd)).resetSocket = machine := by
  obtain ⟨_, descriptors⟩ := machine
  cases here
  have same : { state with fd := none } = state := by
    rw [← unopened]
  change Machine.mk (some { state with fd := none }) ((insert fd descriptors).erase fd) = _
  rw [same, Finset.erase_insert fresh]

theorem closeFd_resetSocket {fd operation : Nat} (here : machine.state = some state)
    (published : state.fd = some fd) :
    (machine.resetSocket).closeFd operation = (machine.closeFd operation).resetSocket := by
  obtain ⟨_, descriptors⟩ := machine
  cases here
  unfold resetSocket closeFd publish
  simp only [Option.bind_some, published, Option.map_some, Finset.erase_right_comm]

/-- What a published socket becomes: the duplication decides. -/
theorem connectSocket_settles_iff (here : machine.state = some state) (unopened : state.fd = none)
    (uncanceled : state.canceled = false)
    (quiet : ∀ revents cancelRevents, .ready revents cancelRevents ∈ calls.polls →
      cancelRevents &&& POLLIN = 0) :
    (∀ after status, connectSocket calls state
        ((machine.openFd machine.lowest).publish (some machine.lowest)) = some (after, status) →
      Settles machine after status) ↔
      ∀ error, retry calls.duplicates ≠ some (.error error) := by
  let created := (machine.openFd machine.lowest).publish (some machine.lowest)
  have createdState : created.state = some { state with fd := some machine.lowest } := by
    change machine.state.map _ = _
    rw [here]
    rfl
  constructor
  · intro settles error failed
    have returns : connectSocket calls state created = some (created, systemError error) := by
      unfold connectSocket
      rw [failed]
    have closed := (settles created (systemError error) returns).closed nofun
    unfold isOpen at closed
    rw [createdState] at closed
    cases closed
  · intro duplicates after status returns
    unfold connectSocket at returns
    split at returns
    · cases returns
    · rename_i error failed
      exact absurd failed (duplicates error)
    obtain ⟨⟨last, code⟩, operated, same⟩ := Option.map_eq_some_iff.mp returns
    cases same
    have fresh : created.lowest ∉ created.descriptors := lowest_notMem created
    have sameState : (created.openFd created.lowest).state =
        some { state with fd := some machine.lowest } :=
      createdState
    rcases connectOperation_cases uncanceled quiet operated with ⟨ok, rfl⟩ | ⟨failed, rfl⟩
    · have kept : (created.openFd created.lowest).closeFd created.lowest = created :=
        closeFd_openFd created fresh
      change Settles machine ((created.openFd created.lowest).closeFd created.lowest) code
      rw [kept]
      refine ⟨fun other => absurd ok other, fun other => absurd ok other,
        fun other => absurd ok other, fun _ => ?_⟩
      unfold isOpen
      rw [createdState]
      rfl
    · have restored : ((created.openFd created.lowest).resetSocket).closeFd created.lowest =
          machine := by
        rw [closeFd_resetSocket sameState rfl, closeFd_openFd created fresh]
        exact resetSocket_created here unopened (lowest_notMem machine)
      change Settles machine
        (((created.openFd created.lowest).resetSocket).closeFd created.lowest) code
      rw [restored]
      refine ⟨fun _ => ?_, fun _ => rfl, fun _ => rfl, fun ok => absurd ok failed⟩
      unfold isOpen
      rw [here]
      dsimp only
      rw [unopened]
      rfl

end

/-- A `connect` of a transport that is not open, and that nobody closes meanwhile, leaves
an open transport or nothing, unless it cannot duplicate the descriptor of its socket. -/
theorem settles_iff_duplicates {machine : Machine} (unopened : machine.isOpen = false)
    {calls : ConnectCalls} (quiet : Quiet calls machine) :
    (∀ after status, connect calls machine = some (after, status) →
      Settles machine after status) ↔
      (Publishes calls machine → ∀ error, retry calls.duplicates ≠ some (.error error)) := by
  -- an exit that leaves the machine as it was is a failed one
  have refused : ∀ status : Status, status.code ≠ .ok → Settles machine machine status :=
    fun status failed => ⟨fun _ => unopened, fun _ => rfl, fun _ => rfl, fun ok => absurd ok failed⟩
  by_cases publishes : Publishes calls machine
  · have published := publishes
    obtain ⟨created, state, here, cancelable, addressed, uncanceled⟩ := published
    have noSocket : state.fd = none := by
      unfold isOpen at unopened
      rw [here] at unopened
      exact Option.not_isSome_iff_eq_none.mp (Bool.eq_false_iff.mp unopened)
    have same : connect calls machine = connectSocket calls state
        ((machine.openFd machine.lowest).publish (some machine.lowest)) := by
      unfold connect
      rw [here]
      dsimp only
      rw [if_neg cancelable, addressed, created, uncanceled, noSocket]
      rfl
    rw [same, connectSocket_settles_iff here noSocket uncanceled (quiet state here uncanceled)]
    exact ⟨fun duplicates _ => duplicates, fun duplicates => duplicates publishes⟩
  · refine ⟨fun _ published => absurd published publishes, fun _ after status returns => ?_⟩
    unfold connect at returns
    split at returns
    · cases returns
      exact refused _ nofun
    rename_i state here
    split at returns
    · cases returns
      exact refused _ nofun
    rename_i cancelable
    split at returns
    · cases returns
      exact refused _ nofun
    rename_i addressed
    split at returns
    · cases returns
      exact refused _ nofun
    rename_i created
    dsimp only at returns
    split at returns
    · cases returns
      rw [closeFd_openFd machine (lowest_notMem machine)]
      exact refused _ nofun
    rename_i uncanceled
    refine absurd ⟨created, state, here, cancelable, ?_, Bool.eq_false_iff.mpr uncanceled⟩ publishes
    rw [Bool.not_eq_true', Bool.not_eq_false] at addressed
    exact addressed

/-- A new transport in a process with five open descriptors. -/
def newMachine : Machine where
  state := some { path := ofAscii "/run/yoauthorize.sock", cancelFd := some 4 }
  descriptors := {0, 1, 2, 3, 4}

/-- `ECONNREFUSED` after an interrupted duplication. -/
def refusedCalls : ConnectCalls where
  duplicates := [.error EINTR, .ok ()]
  connects := [.error 111]

/-- A refused connection leaves nothing. -/
theorem settles_refused :
    ∃ after, connect refusedCalls newMachine = some (after, systemError 111) ∧
      Settles newMachine after (systemError 111) := by
  have quiet : Quiet refusedCalls newMachine := by
    intro state _ _ revents cancelRevents member
    cases member
  refine ⟨_, rfl, (settles_iff_duplicates rfl quiet).mpr ?_ _ _ rfl⟩
  intro _ error failed
  cases failed

/-- The descriptor of the socket cannot be duplicated. -/
def exhaustedCalls : ConnectCalls where
  duplicates := [.error EMFILE]
  connects := []

/-- The failed `connect` leaves its socket open, and no later one can be attempted. -/
theorem connect_exhausted :
    newMachine.isOpen = false ∧ Quiet exhaustedCalls newMachine ∧
      ∃ after, connect exhaustedCalls newMachine = some (after, systemError EMFILE) ∧
      after.isOpen = true ∧ newMachine.lowest ∈ after.descriptors ∧
      ∃ last, connect { duplicates := [.ok ()], connects := [.ok ()] } after =
        some (last, systemError EISCONN) := by
  refine ⟨rfl, ?_, (newMachine.openFd newMachine.lowest).publish (some newMachine.lowest), rfl,
    rfl, Finset.mem_insert_self _ _, _, rfl⟩
  intro state _ _ revents cancelRevents member
  cases member

end Machine

end YoAuthorize.Transport
