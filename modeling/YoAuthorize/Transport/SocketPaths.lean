import YoAuthorize.Transport.Listener
import Mathlib.Logic.Function.Basic
import Mathlib.Logic.Relation

/-!
# Services that share a directory

Any number of listeners come and go, are killed, and live beside other programs.
Every open listener stays reachable at its path, no two open listeners have one
path, and a listener never takes a path from a program that uses it.

A run takes one whole call after the other: the calls of two services may come in any
order, but no two calls that work on one path overlap.
-/

namespace YoAuthorize.Transport

open Octets

/-! ## What a call leaves at its path -/

namespace Kernel

/-- The path names a socket that nobody listens on. -/
def Stale (kernel : Kernel) (path : SocketPath) : Prop :=
  ∃ entry, kernel.paths.lookup path = some entry ∧ entry.isSocket = true ∧
    kernel.listens entry.inode = false

/-- At most a stale socket is gone. -/
def Cleared (kernel after : Kernel) (path : SocketPath) : Prop :=
  after = kernel ∨ kernel.Stale path ∧ after = kernel.remove path

/-- A socket has been bound to a path without a name. -/
structure Created (kernel after : Kernel) (path : SocketPath) (inode : Nat) (mode : UInt32)
    (listening : Bool) : Prop where
  unnamed : kernel.paths.lookup path = none
  paths : after.paths = kernel.paths.insert path { inode, isSocket := true, mode }
  sockets : after.sockets = kernel.sockets.insert inode listening

variable {kernel after : Kernel} {path : SocketPath} {inode : Nat} {mode : UInt32}
  {listening : Bool}

theorem listens_iff : kernel.listens inode = true ↔ kernel.sockets.lookup inode = some true :=
  decide_eq_true_iff

theorem mem_of_listens (listens : kernel.listens inode = true) : inode ∈ kernel.sockets := by
  by_contra absent
  rw [listens_iff, AList.lookup_eq_none.mpr absent] at listens
  cases listens

theorem Cleared.sockets (cleared : kernel.Cleared after path) : after.sockets = kernel.sockets := by
  rcases cleared with rfl | ⟨-, rfl⟩
  · rfl
  · rfl

theorem Cleared.lookup_of_ne (cleared : kernel.Cleared after path) {other : SocketPath}
    (apart : other ≠ path) : after.paths.lookup other = kernel.paths.lookup other := by
  rcases cleared with rfl | ⟨-, rfl⟩
  · rfl
  · exact AList.lookup_erase_ne apart

/-- A path that is cleared keeps what is in use. -/
theorem Cleared.lookup_of_used (cleared : kernel.Cleared after path) {entry : Entry}
    (named : kernel.paths.lookup path = some entry)
    (used : entry.isSocket = true → kernel.listens entry.inode = true) :
    after.paths.lookup path = some entry := by
  rcases cleared with rfl | ⟨⟨stale, present, isSocket, silent⟩, -⟩
  · exact named
  · rw [named] at present
    cases present
    rw [used isSocket] at silent
    cases silent

theorem created_bind (unnamed : kernel.paths.lookup path = none) :
    kernel.Created (kernel.bind path inode) path inode 0o700 false :=
  ⟨unnamed, rfl, rfl⟩

theorem Created.chmod (created : kernel.Created after path inode mode listening)
    (next : UInt32) : kernel.Created (after.chmod path next) path inode next listening := by
  have named : after.paths.lookup path = some { inode, isSocket := true, mode } := by
    rw [created.paths, AList.lookup_insert]
  unfold Kernel.chmod
  rw [named]
  refine ⟨created.unnamed, ?_, created.sockets⟩
  dsimp only
  rw [created.paths, AList.insert_insert]

theorem Created.listen (created : kernel.Created after path inode mode listening) :
    kernel.Created (after.listen inode) path inode mode true := by
  refine ⟨created.unnamed, created.paths, ?_⟩
  unfold Kernel.listen
  rw [created.sockets, AList.insert_insert]

theorem Created.lookup (created : kernel.Created after path inode mode listening) :
    after.paths.lookup path = some { inode, isSocket := true, mode } := by
  rw [created.paths, AList.lookup_insert]

theorem Created.lookup_of_ne (created : kernel.Created after path inode mode listening)
    {other : SocketPath} (apart : other ≠ path) :
    after.paths.lookup other = kernel.paths.lookup other := by
  rw [created.paths, AList.lookup_insert_ne apart]

theorem Created.sockets_of_ne (created : kernel.Created after path inode mode listening)
    {other : Nat} (apart : other ≠ inode) :
    after.sockets.lookup other = kernel.sockets.lookup other := by
  rw [created.sockets, AList.lookup_insert_ne apart]

end Kernel

section

variable {calls : ListenCalls} {kernel : Kernel} {path : SocketPath}

theorem lstat_eq_ok {answer : Except Int Unit} {entry : Entry}
    (found : lstat kernel path answer = .ok entry) : kernel.paths.lookup path = some entry := by
  unfold lstat at found
  split at found
  · cases found
  · split at found
    · cases found
    · rename_i named
      cases found
      exact named

theorem unlinkStale_cases {metadata : Entry} (named : kernel.paths.lookup path = some metadata)
    (isSocket : metadata.isSocket = true) (silent : kernel.listens metadata.inode = false) :
    kernel.Cleared (unlinkStale calls kernel path metadata).1 path := by
  unfold unlinkStale
  split
  · exact .inl rfl
  · split
    · exact .inl rfl
    · split
      · exact .inl rfl
      · exact .inr ⟨⟨metadata, named, isSocket, silent⟩, rfl⟩

/-- A refused connection shows that nobody listens. -/
theorem silent_of_refused {entry : Entry} {fault : Option ConnectFault}
    (named : kernel.paths.lookup path = some entry)
    (refused : connectError kernel path fault = ECONNREFUSED) :
    kernel.listens entry.inode = false := by
  unfold connectError at refused
  cases fault with
  | some fault => exact absurd refused fault.2.2.2.1
  | none =>
      dsimp only at refused
      rw [named] at refused
      dsimp only at refused
      split at refused
      · cases refused
      · rename_i silent
        exact Bool.eq_false_iff.mpr silent

theorem removeStaleSocket_cases :
    kernel.Cleared (removeStaleSocket calls kernel path).1 path := by
  unfold removeStaleSocket
  split
  · exact .inl rfl
  rename_i metadata found
  have named := lstat_eq_ok found
  split
  · exact .inl rfl
  rename_i socket
  split
  · exact .inl rfl
  split
  · exact .inl rfl
  dsimp only
  split
  · exact .inl rfl
  split
  · exact .inl rfl
  split
  · exact .inl rfl
  · rename_i refused
    exact unlinkStale_cases named (by simpa using socket)
      (silent_of_refused named (not_not.mp refused))

end

namespace UnixSocketListener

/-- The ways a call of `listen` ends. -/
inductive Listened (calls : ListenCalls) (kernel : Kernel) (listener : UnixSocketListener) :
    Kernel × UnixSocketListener × Status → Prop
  | refused {cleared : Kernel} {status : Status} :
    kernel.Cleared cleared listener.path → status.code ≠ .ok →
    Listened calls kernel listener (cleared, listener, status)
  | abandoned {cleared created : Kernel} {mode : UInt32} {listening : Bool} {status : Status}
    (canceled : Bool) :
    kernel.Cleared cleared listener.path →
    cleared.Created created listener.path calls.inode mode listening → status.code ≠ .ok →
    Listened calls kernel listener
      (listener.abandon calls created, { listener with canceled }, status)
  | served {cleared created : Kernel} :
    kernel.Cleared cleared listener.path →
    cleared.Created created listener.path calls.inode listener.mode true →
    listener.canceled = false →
    Listened calls kernel listener
      (created,
        { listener with fd := some calls.inode, inode := calls.inode, ownsPath := true }, {})

variable {calls : ListenCalls} {kernel cleared created : Kernel} {listener : UnixSocketListener}

theorem systemError_ne_ok (error : Int) : (systemError error).code ≠ .ok := nofun

theorem publish_cases (clears : kernel.Cleared cleared listener.path)
    (creates : cleared.Created created listener.path calls.inode listener.mode true)
    (uncanceled : listener.canceled = false) (unopened : listener.fd = none) {metadata : Entry}
    (named : created.paths.lookup listener.path = some metadata) :
    Listened calls kernel listener (listener.publish calls created metadata) := by
  have inode : metadata.inode = calls.inode := by
    rw [creates.lookup] at named
    cases named
    rfl
  unfold publish
  dsimp only
  split
  · exact .abandoned (listener.canceled || calls.closed) clears creates (by decide)
  rename_i idle
  have same : (listener.canceled || calls.closed) = listener.canceled := by
    rw [Bool.eq_false_iff.mpr idle, uncanceled]
  rw [if_neg (by simp [unopened]), same, inode]
  exact .served clears creates uncanceled

theorem serve_cases (clears : kernel.Cleared cleared listener.path)
    (unnamed : cleared.paths.lookup listener.path = none)
    (uncanceled : listener.canceled = false) (unopened : listener.fd = none) :
    Listened calls kernel listener
      (listener.serve calls (cleared.bind listener.path calls.inode)) := by
  have bound : cleared.Created (cleared.bind listener.path calls.inode) listener.path calls.inode
      0o700 false := Kernel.created_bind unnamed
  have shared := bound.chmod listener.mode
  have served := shared.listen
  unfold serve
  split
  · exact .abandoned listener.canceled clears bound (systemError_ne_ok _)
  split
  · exact .abandoned listener.canceled clears shared (systemError_ne_ok _)
  dsimp only
  split
  · exact .abandoned listener.canceled clears served (systemError_ne_ok _)
  · rename_i metadata found
    exact publish_cases clears served uncanceled unopened (lstat_eq_ok found)

theorem bindSocket_cases (clears : kernel.Cleared cleared listener.path)
    (uncanceled : listener.canceled = false) (unopened : listener.fd = none) :
    Listened calls kernel listener (listener.bindSocket calls cleared) := by
  unfold bindSocket
  split
  · exact .refused clears (systemError_ne_ok _)
  split
  · exact .refused clears (systemError_ne_ok _)
  split
  · exact .refused clears (systemError_ne_ok _)
  · rename_i unnamed
    exact serve_cases clears (Option.not_isSome_iff_eq_none.mp unnamed) uncanceled unopened

theorem listen_cases : Listened calls kernel listener (listener.listen calls kernel) := by
  unfold listen
  split
  · exact .refused (.inl rfl) nofun
  split
  · exact .refused (.inl rfl) nofun
  split
  · exact .refused (.inl rfl) nofun
  rename_i uncanceled
  split
  · exact .refused (.inl rfl) nofun
  rename_i unopened
  split
  · rename_i invalid
    exact .refused (.inl rfl) invalid
  dsimp only
  split
  · rename_i failed
    exact .refused removeStaleSocket_cases failed
  · exact bindSocket_cases removeStaleSocket_cases (Bool.eq_false_iff.mpr uncanceled)
      (Option.not_isSome_iff_eq_none.mp unopened)

end UnixSocketListener

/-! ## One call among others -/

namespace Kernel

/-- A call that works on one path and creates one inode leaves the rest, and leaves
the path to whoever uses it. -/
structure Moved (kernel after : Kernel) (path : SocketPath) (inode : Nat) : Prop where
  lookup_of_ne : ∀ other, other ≠ path → after.paths.lookup other = kernel.paths.lookup other
  sockets_of_ne : ∀ other, other ≠ inode → after.sockets.lookup other = kernel.sockets.lookup other
  kept : ∀ entry, kernel.paths.lookup path = some entry →
    (entry.isSocket = true → kernel.listens entry.inode = true) →
    after.paths.lookup path = some entry
  origin : ∀ entry, after.paths.lookup path = some entry →
    kernel.paths.lookup path = some entry ∨ entry.inode = inode

/-- No file has two names. -/
def Distinct (kernel : Kernel) : Prop :=
  ∀ path other entry peer, kernel.paths.lookup path = some entry →
    kernel.paths.lookup other = some peer → entry.inode = peer.inode → path = other

variable {kernel cleared after : Kernel} {path : SocketPath} {inode : Nat} {mode : UInt32}
  {listening : Bool}

theorem Cleared.moved (clears : kernel.Cleared cleared path) : kernel.Moved cleared path inode where
  lookup_of_ne _ apart := clears.lookup_of_ne apart
  sockets_of_ne _ _ := by rw [clears.sockets]
  kept _ named used := clears.lookup_of_used named used
  origin entry named := by
    rcases clears with rfl | ⟨-, rfl⟩
    · exact .inl named
    · rw [Kernel.remove, AList.lookup_erase] at named
      cases named

theorem Moved.created (clears : kernel.Cleared cleared path)
    (creates : cleared.Created after path inode mode listening) :
    kernel.Moved after path inode where
  lookup_of_ne _ apart := (creates.lookup_of_ne apart).trans (clears.lookup_of_ne apart)
  sockets_of_ne _ apart := by rw [creates.sockets_of_ne apart, clears.sockets]
  kept _ named used := by
    have present := clears.lookup_of_used named used
    rw [creates.unnamed] at present
    cases present
  origin entry named := by
    rw [creates.lookup] at named
    cases named
    exact .inr rfl

/-- What has been created may be closed and removed again. -/
theorem Moved.abandon (moved : kernel.Moved after path inode)
    (unnamed : ∀ entry, kernel.paths.lookup path = some entry →
      ¬ (entry.isSocket = true → kernel.listens entry.inode = true))
    (answer : Except Int Unit) :
    kernel.Moved ((after.closeSocket inode).unlink path answer) path inode := by
  cases answer with
  | error =>
      exact { moved with
        sockets_of_ne := fun other apart =>
          (AList.lookup_erase_ne apart).trans (moved.sockets_of_ne other apart) }
  | ok =>
      exact
        { lookup_of_ne := fun other apart =>
            (AList.lookup_erase_ne apart).trans (moved.lookup_of_ne other apart)
          sockets_of_ne := fun other apart =>
            (AList.lookup_erase_ne apart).trans (moved.sockets_of_ne other apart)
          kept := fun entry named used => absurd used (unnamed entry named)
          origin := fun entry named => by
            change (after.paths.erase path).lookup path = some entry at named
            rw [AList.lookup_erase] at named
            cases named }

theorem Moved.distinct (moved : kernel.Moved after path inode) (distinct : kernel.Distinct)
    (free : (kernel.remove path).Free inode) : after.Distinct := by
  have kept : ∀ {other : SocketPath} {entry : Entry}, other ≠ path →
      after.paths.lookup other = some entry →
      kernel.paths.lookup other = some entry ∧ entry.inode ≠ inode := by
    intro other entry apart named
    rw [moved.lookup_of_ne other apart] at named
    exact ⟨named, free.2 other entry ((AList.lookup_erase_ne apart).trans named)⟩
  have alone : ∀ {other : SocketPath} {entry peer : Entry}, other ≠ path →
      after.paths.lookup path = some entry → after.paths.lookup other = some peer →
      entry.inode ≠ peer.inode := by
    intro other entry peer apart here there same
    obtain ⟨was, fresh⟩ := kept apart there
    rcases moved.origin entry here with before | created
    · exact apart (distinct path other entry peer before was same).symm
    · exact fresh (same.symm.trans created)
  intro first second entry peer here there same
  by_cases atFirst : first = path
  · by_cases atSecond : second = path
    · rw [atFirst, atSecond]
    · subst atFirst
      exact absurd same (alone atSecond here there)
  · by_cases atSecond : second = path
    · subst atSecond
      exact absurd same.symm (alone atFirst there here)
    · exact distinct first second entry peer (kept atFirst here).1 (kept atSecond there).1 same

end Kernel

namespace UnixSocketListener

variable {calls : ListenCalls} {kernel : Kernel} {listener : UnixSocketListener}
  {result : Kernel × UnixSocketListener × Status}

theorem Listened.moved (listened : Listened calls kernel listener result) :
    kernel.Moved result.1 listener.path calls.inode := by
  cases listened with
  | refused clears => exact clears.moved
  | served clears creates => exact .created clears creates
  | abandoned canceled clears creates =>
      refine Kernel.Moved.abandon (.created clears creates) ?_ calls.unlinkBound
      intro entry named used
      have present := clears.lookup_of_used named used
      rw [creates.unnamed] at present
      cases present

end UnixSocketListener

/-! ## A call that nothing fails -/

/-- The calls of a `listen` in which no system call fails. -/
def ListenCalls.unfailing (inode : Nat) : ListenCalls := { inode }

theorem removeStaleSocket_unfailing {kernel : Kernel} {path : SocketPath} (inode : Nat)
    (valid : (makeAddress path).code = .ok)
    (unused : ∀ entry, kernel.paths.lookup path = some entry →
      entry.isSocket = true ∧ kernel.listens entry.inode = false) :
    ∃ cleared, removeStaleSocket (.unfailing inode) kernel path = (cleared, {}) ∧
      cleared.paths.lookup path = none := by
  unfold removeStaleSocket lstat
  dsimp only [ListenCalls.unfailing]
  cases named : kernel.paths.lookup path with
  | none => exact ⟨kernel, rfl, named⟩
  | some entry =>
      obtain ⟨isSocket, silent⟩ := unused entry named
      refine ⟨kernel.remove path, ?_, AList.lookup_erase path kernel.paths⟩
      dsimp only
      rw [isSocket, if_neg (by decide), if_neg (not_not.mpr valid)]
      have refused : connectError kernel path none = ECONNREFUSED := by
        unfold connectError
        dsimp only
        rw [named]
        dsimp only
        rw [silent]
        rfl
      rw [refused, if_neg (by decide), if_neg (by decide), if_neg (by decide)]
      unfold unlinkStale lstat
      dsimp only
      rw [named]
      dsimp only
      rw [isSocket, if_neg (by simp)]

namespace UnixSocketListener

/-- A listener that has not been used and can be. -/
structure Ready (listener : UnixSocketListener) : Prop extends listener.Fresh where
  backlog : 0 < listener.backlog
  mode : listener.mode &&& ~~~0o777 = 0
  cancelFd : listener.cancelFd ≠ none
  path : (makeAddress listener.path).code = .ok

variable {kernel : Kernel} {listener : UnixSocketListener}

theorem listen_unfailing (ready : listener.Ready) (inode : Nat)
    (unused : ∀ entry, kernel.paths.lookup listener.path = some entry →
      entry.isSocket = true ∧ kernel.listens entry.inode = false) :
    ∃ created, listener.listen (.unfailing inode) kernel =
      (created, { listener with fd := some inode, inode, ownsPath := true }, {}) ∧
        created.paths.lookup listener.path =
          some { inode, isSocket := true, mode := listener.mode } ∧
        created.listens inode = true := by
  obtain ⟨cleared, clears, unnamed⟩ := removeStaleSocket_unfailing inode ready.path unused
  have creates : cleared.Created
      (((cleared.bind listener.path inode).chmod listener.path listener.mode).listen inode)
      listener.path inode listener.mode true :=
    ((Kernel.created_bind unnamed).chmod listener.mode).listen
  have guard : ¬ (listener.backlog ≤ 0 ∨ listener.mode &&& ~~~0o777 ≠ 0) := by
    rintro (short | wide)
    · exact absurd ready.backlog (not_lt.mpr short)
    · exact wide ready.mode
  unfold listen
  rw [if_neg guard, if_neg ready.cancelFd, ready.canceled, if_neg (by decide), ready.fd,
    if_neg (by decide), if_neg (not_not.mpr ready.path), clears, if_neg (not_not.mpr rfl)]
  unfold bindSocket
  dsimp only [ListenCalls.unfailing]
  rw [unnamed, if_neg (by decide)]
  unfold serve Transport.lstat
  dsimp only
  rw [creates.lookup]
  unfold publish
  dsimp only
  rw [ready.canceled, ready.fd]
  refine ⟨_, rfl, creates.lookup, Kernel.listens_iff.mpr ?_⟩
  rw [creates.sockets, AList.lookup_insert]

end UnixSocketListener

/-! ## Hosts -/

/-- The kernel and the listeners of the services that run. -/
structure SocketHost (ι : Type) : Type where
  kernel : Kernel
  listeners : ι → Option UnixSocketListener

namespace SocketHost

section

variable {ι : Type} [DecidableEq ι]

/-- Other programs do as they like, except with the path and the socket of an open
listener. -/
structure Foreign (host : SocketHost ι) (after : Kernel) : Prop where
  paths : ∀ id listener, host.listeners id = some listener → listener.isOpen = true →
    after.paths.lookup listener.path = host.kernel.paths.lookup listener.path
  sockets : ∀ id listener inode, host.listeners id = some listener → listener.fd = some inode →
    after.sockets.lookup inode = host.kernel.sockets.lookup inode
  distinct : after.Distinct

def setListener (host : SocketHost ι) (id : ι) (listener : Option UnixSocketListener) :
    SocketHost ι :=
  { host with listeners := Function.update host.listeners id listener }

/-- A step of one of the listeners. -/
inductive OwnStep : SocketHost ι → SocketHost ι → Prop
  | construct {host : SocketHost ι} {id : ι} {listener : UnixSocketListener} :
    host.listeners id = none → listener.Fresh →
    OwnStep host (host.setListener id (some listener))
  | listen {host : SocketHost ι} {id : ι} {listener : UnixSocketListener} {calls : ListenCalls} :
    host.listeners id = some listener → (host.kernel.remove listener.path).Free calls.inode →
    OwnStep host
      { host.setListener id (some (listener.listen calls host.kernel).2.1) with
        kernel := (listener.listen calls host.kernel).1 }
  | close {host : SocketHost ι} {id : ι} {listener : UnixSocketListener} {calls : CloseCalls} :
    host.listeners id = some listener →
    OwnStep host
      { host.setListener id (some (listener.close calls host.kernel).2) with
        kernel := (listener.close calls host.kernel).1 }
  | destroy {host : SocketHost ι} {id : ι} {listener : UnixSocketListener} {calls : CloseCalls} :
    host.listeners id = some listener →
    OwnStep host
      { host.setListener id none with kernel := (listener.close calls host.kernel).1 }
  /-- The process is killed. -/
  | crash {host : SocketHost ι} {id : ι} {listener : UnixSocketListener} :
    host.listeners id = some listener →
    OwnStep host { host.setListener id none with kernel := host.kernel.closeFd listener.fd }

inductive Step : SocketHost ι → SocketHost ι → Prop
  | own {host next : SocketHost ι} : OwnStep host next → Step host next
  | other {host : SocketHost ι} {after : Kernel} :
    host.Foreign after → Step host { host with kernel := after }

/-- No service runs yet. -/
structure Initial (host : SocketHost ι) : Prop where
  listeners : ∀ id, host.listeners id = none
  distinct : host.kernel.Distinct

end

/-! ## What every step preserves -/

/-- The listener's socket is at its path and listens. -/
structure Serves (kernel : Kernel) (listener : UnixSocketListener) (inode : Nat) : Prop where
  ownsPath : listener.ownsPath = true
  sameInode : listener.inode = inode
  named : kernel.paths.lookup listener.path =
    some { inode, isSocket := true, mode := listener.mode }
  listens : kernel.listens inode = true

structure Sound {ι : Type} (host : SocketHost ι) : Prop where
  serves : ∀ id listener inode, host.listeners id = some listener → listener.fd = some inode →
    Serves host.kernel listener inode
  idle : ∀ id listener, host.listeners id = some listener → listener.fd = none →
    listener.ownsPath = false
  apart : ∀ id other listener peer inode, host.listeners id = some listener →
    host.listeners other = some peer → listener.fd = some inode → peer.fd = some inode →
    id = other
  distinct : host.kernel.Distinct

variable {ι : Type} {host next : SocketHost ι} {listener : UnixSocketListener} {id : ι}

theorem Initial.sound (initial : host.Initial) : host.Sound where
  serves id listener inode here _ := by
    rw [initial.listeners id] at here
    cases here
  idle id listener here _ := by
    rw [initial.listeners id] at here
    cases here
  apart id other listener peer inode here _ _ _ := by
    rw [initial.listeners id] at here
    cases here
  distinct := initial.distinct

/-- A listener that is open goes on serving while others work on their paths. -/
theorem Serves.moved {kernel after : Kernel} {path : SocketPath} {inode created : Nat}
    (serves : Serves kernel listener inode) (moved : kernel.Moved after path created)
    (free : created ∉ kernel.sockets) : Serves after listener inode where
  ownsPath := serves.ownsPath
  sameInode := serves.sameInode
  named := by
    by_cases same : listener.path = path
    · rw [same]
      exact moved.kept _ (same ▸ serves.named) fun _ => serves.listens
    · rw [moved.lookup_of_ne _ same]
      exact serves.named
  listens := by
    have apart : inode ≠ created := by
      rintro rfl
      exact free (Kernel.mem_of_listens serves.listens)
    refine Kernel.listens_iff.mpr ?_
    rw [moved.sockets_of_ne _ apart]
    exact Kernel.listens_iff.mp serves.listens

/-- What a closed or a killed listener leaves. -/
def Closed (kernel after : Kernel) (listener : UnixSocketListener) : Prop :=
  after = kernel.closeFd listener.fd ∨
    listener.ownsPath = true ∧ after = (kernel.closeFd listener.fd).remove listener.path ∧
      ∃ entry, kernel.paths.lookup listener.path = some entry ∧ entry.isSocket = true ∧
        entry.inode = listener.inode

theorem closeFd_paths (kernel : Kernel) (fd : Option Nat) :
    (kernel.closeFd fd).paths = kernel.paths := by
  cases fd with
  | none => rfl
  | some inode => rfl

theorem close_listener (calls : CloseCalls) (kernel : Kernel) (listener : UnixSocketListener) :
    (listener.close calls kernel).2 =
      { listener with canceled := true, fd := none, ownsPath := false } := by
  unfold UnixSocketListener.close
  dsimp only
  split
  · rfl
  · split
    · rfl
    · rfl

theorem close_closed (calls : CloseCalls) (kernel : Kernel) (listener : UnixSocketListener) :
    Closed kernel (listener.close calls kernel).1 listener := by
  unfold UnixSocketListener.close
  dsimp only
  split
  · exact .inl rfl
  rename_i metadata found
  have named := lstat_eq_ok found
  rw [closeFd_paths] at named
  split
  · rename_i own
    cases answer : calls.unlink with
    | error => exact .inl rfl
    | ok => exact .inr ⟨own.1, rfl, metadata, named, own.2.1, own.2.2⟩
  · exact .inl rfl

theorem Closed.lookup {kernel after : Kernel} (closed : Closed kernel after listener)
    {path : SocketPath} {entry : Entry} (named : after.paths.lookup path = some entry) :
    kernel.paths.lookup path = some entry := by
  rcases closed with rfl | ⟨-, rfl, -⟩
  · rwa [closeFd_paths] at named
  · by_cases same : path = listener.path
    · subst same
      rw [Kernel.remove, AList.lookup_erase] at named
      cases named
    · rwa [Kernel.remove, AList.lookup_erase_ne same, closeFd_paths] at named

theorem Closed.sockets {kernel after : Kernel} (closed : Closed kernel after listener)
    {inode : Nat} (apart : listener.fd ≠ some inode) :
    after.sockets.lookup inode = kernel.sockets.lookup inode := by
  have same : (kernel.closeFd listener.fd).sockets.lookup inode = kernel.sockets.lookup inode := by
    cases own : listener.fd with
    | none => rfl
    | some other =>
        exact AList.lookup_erase_ne fun same => apart (own.trans (congrArg some same.symm))
  rcases closed with rfl | ⟨-, rfl, -⟩
  · exact same
  · exact same

/-- Nobody listens on the socket of a listener that has ended. -/
theorem Closed.silent {kernel after : Kernel} (closed : Closed kernel after listener) {own : Nat}
    (opened : listener.fd = some own) : after.listens own = false := by
  have gone : (kernel.closeFd listener.fd).sockets.lookup own = none := by
    rw [opened]
    exact AList.lookup_erase own kernel.sockets
  refine Bool.eq_false_iff.mpr fun listens => ?_
  have present := Kernel.listens_iff.mp listens
  rcases closed with rfl | ⟨-, rfl, -⟩
  · rw [gone] at present
    cases present
  · rw [Kernel.remove, gone] at present
    cases present

/-- The inode that a closed listener may remove is its own. -/
theorem Closed.kept (sound : host.Sound) (here : host.listeners id = some listener)
    {after : Kernel} (closed : Closed host.kernel after listener) {path : SocketPath}
    {entry : Entry} (named : host.kernel.paths.lookup path = some entry)
    (foreign : entry.isSocket = true → listener.fd ≠ some entry.inode) :
    after.paths.lookup path = some entry := by
  rcases closed with rfl | ⟨owns, rfl, own, present, isSocket, sameInode⟩
  · rwa [closeFd_paths]
  · by_cases same : path = listener.path
    · subst same
      rw [named] at present
      cases present
      cases opened : listener.fd with
      | none =>
          rw [sound.idle id listener here opened] at owns
          cases owns
      | some inode =>
          have serves := sound.serves id listener inode here opened
          exact absurd (opened.trans (congrArg some (serves.sameInode.symm.trans sameInode.symm)))
            (foreign isSocket)
    · rwa [Kernel.remove, AList.lookup_erase_ne same, closeFd_paths]

section

variable [DecidableEq ι]

@[simp] theorem setListener_self {replaced : Option UnixSocketListener} :
    (host.setListener id replaced).listeners id = replaced := by
  simp only [setListener, Function.update_self]

theorem setListener_of_ne {other : ι} {replaced : Option UnixSocketListener} (apart : other ≠ id) :
    (host.setListener id replaced).listeners other = host.listeners other := by
  simp only [setListener, Function.update_of_ne apart]

/-- One listener has changed, and the others still serve. -/
theorem Sound.setListener (sound : host.Sound) {after : Kernel}
    {replaced : Option UnixSocketListener}
    (others : ∀ other peer inode, other ≠ id → host.listeners other = some peer →
      peer.fd = some inode → Serves after peer inode)
    (serves : ∀ listener inode, replaced = some listener → listener.fd = some inode →
      Serves after listener inode)
    (fresh : ∀ listener inode, replaced = some listener → listener.fd = some inode →
      ∀ other peer, other ≠ id → host.listeners other = some peer → peer.fd ≠ some inode)
    (idle : ∀ listener, replaced = some listener → listener.fd = none → listener.ownsPath = false)
    (distinct : after.Distinct) :
    Sound { host.setListener id replaced with kernel := after } := by
  have here : ∀ {other : ι} {peer : UnixSocketListener},
      (host.setListener id replaced).listeners other = some peer →
      other = id ∧ replaced = some peer ∨ other ≠ id ∧ host.listeners other = some peer := by
    intro other peer found
    by_cases same : other = id
    · subst same
      rw [setListener_self] at found
      exact .inl ⟨rfl, found⟩
    · rw [setListener_of_ne same] at found
      exact .inr ⟨same, found⟩
  refine ⟨?_, ?_, ?_, distinct⟩
  · intro other peer inode found opened
    rcases here found with ⟨-, same⟩ | ⟨apart, kept⟩
    · exact serves peer inode same opened
    · exact others other peer inode apart kept opened
  · intro other peer found closed
    rcases here found with ⟨-, same⟩ | ⟨-, kept⟩
    · exact idle peer same closed
    · exact sound.idle other peer kept closed
  · intro first second one two inode atFirst atSecond opened also
    rcases here atFirst with ⟨rfl, same⟩ | ⟨apart, kept⟩ <;>
      rcases here atSecond with ⟨rfl, sameToo⟩ | ⟨apartToo, keptToo⟩
    · rfl
    · exact absurd also (fresh one inode same opened second two apartToo keptToo)
    · exact absurd opened (fresh two inode sameToo also first one apart kept)
    · exact sound.apart first second one two inode kept keptToo opened also

theorem Sound.listen (sound : host.Sound) (here : host.listeners id = some listener)
    {calls : ListenCalls} (free : (host.kernel.remove listener.path).Free calls.inode) :
    Sound
      { host.setListener id (some (listener.listen calls host.kernel).2.1) with
        kernel := (listener.listen calls host.kernel).1 } := by
  have listened : UnixSocketListener.Listened calls host.kernel listener
      (listener.listen calls host.kernel) := UnixSocketListener.listen_cases
  have moved := listened.moved
  revert listened moved
  generalize listener.listen calls host.kernel = result
  intro listened moved
  have others : ∀ other peer inode, other ≠ id → host.listeners other = some peer →
      peer.fd = some inode → Serves result.1 peer inode := fun other peer inode _ there opened =>
    (sound.serves other peer inode there opened).moved moved free.1
  have distinct := moved.distinct sound.distinct free
  cases listened with
  | refused clears =>
      refine sound.setListener others ?_ ?_ ?_ distinct
      · rintro _ inode ⟨rfl⟩ opened
        exact (sound.serves id listener inode here opened).moved moved free.1
      · rintro _ inode ⟨rfl⟩ opened other peer apart there also
        exact apart (sound.apart id other listener peer inode here there opened also).symm
      · rintro _ ⟨rfl⟩ closed
        exact sound.idle id listener here closed
  | abandoned canceled clears creates =>
      refine sound.setListener others ?_ ?_ ?_ distinct
      · rintro _ inode ⟨rfl⟩ opened
        have serves := (sound.serves id listener inode here opened).moved moved free.1
        exact ⟨serves.ownsPath, serves.sameInode, serves.named, serves.listens⟩
      · rintro _ inode ⟨rfl⟩ opened other peer apart there also
        exact apart (sound.apart id other listener peer inode here there opened also).symm
      · rintro _ ⟨rfl⟩ closed
        exact sound.idle id listener here closed
  | served clears creates =>
      refine sound.setListener others ?_ ?_ ?_ distinct
      · rintro _ inode ⟨rfl⟩ ⟨rfl⟩
        refine ⟨rfl, rfl, creates.lookup, Kernel.listens_iff.mpr ?_⟩
        rw [creates.sockets, AList.lookup_insert]
      · rintro _ inode ⟨rfl⟩ ⟨rfl⟩ other peer - there also
        exact free.1 (Kernel.mem_of_listens (sound.serves other peer _ there also).listens)
      · rintro _ ⟨rfl⟩ ⟨⟩

theorem Sound.close (sound : host.Sound) (here : host.listeners id = some listener)
    {after : Kernel} (closed : Closed host.kernel after listener)
    {replaced : Option UnixSocketListener}
    (shut : ∀ next, replaced = some next → next.fd = none ∧ next.ownsPath = false) :
    Sound { host.setListener id replaced with kernel := after } := by
  refine sound.setListener ?_ ?_ ?_ (fun next same _ => (shut next same).2) ?_
  · intro other peer inode apart there opened
    have foreign : listener.fd ≠ some inode := fun own =>
      apart (sound.apart id other listener peer inode here there own opened).symm
    have serves := sound.serves other peer inode there opened
    refine ⟨serves.ownsPath, serves.sameInode, ?_, Kernel.listens_iff.mpr ?_⟩
    · exact closed.kept sound here serves.named fun _ => foreign
    · rw [closed.sockets foreign]
      exact Kernel.listens_iff.mp serves.listens
  · intro next inode same opened
    rw [(shut next same).1] at opened
    cases opened
  · intro next inode same opened
    rw [(shut next same).1] at opened
    cases opened
  · exact fun path other entry peer named also => sound.distinct path other entry peer
      (closed.lookup named) (closed.lookup also)

theorem Sound.ownStep (sound : host.Sound) (step : OwnStep host next) : next.Sound := by
  cases step with
  | construct absent fresh =>
      refine sound.setListener ?_ ?_ ?_ ?_ sound.distinct
      · exact fun other peer inode _ there opened => sound.serves other peer inode there opened
      · rintro _ inode ⟨rfl⟩ opened
        rw [fresh.fd] at opened
        cases opened
      · rintro _ inode ⟨rfl⟩ opened
        rw [fresh.fd] at opened
        cases opened
      · rintro _ ⟨rfl⟩ -
        exact fresh.ownsPath
  | listen here free => exact sound.listen here free
  | close here =>
      refine sound.close here (close_closed ..) ?_
      rintro _ ⟨rfl⟩
      rw [close_listener]
      exact ⟨rfl, rfl⟩
  | destroy here => exact sound.close here (close_closed ..) fun _ same => by cases same
  | crash here => exact sound.close here (.inl rfl) fun _ same => by cases same

theorem Sound.step (sound : host.Sound) (step : Step host next) : next.Sound := by
  cases step with
  | own step => exact sound.ownStep step
  | other foreign =>
      refine ⟨?_, sound.idle, sound.apart, foreign.distinct⟩
      intro id listener inode here opened
      have serves := sound.serves id listener inode here opened
      have isOpen : listener.isOpen = true := by rw [UnixSocketListener.isOpen, opened]; rfl
      refine ⟨serves.ownsPath, serves.sameInode, ?_, Kernel.listens_iff.mpr ?_⟩
      · rw [foreign.paths id listener here isOpen]
        exact serves.named
      · rw [foreign.sockets id listener inode here opened]
        exact Kernel.listens_iff.mp serves.listens

theorem sound_of_runs (initial : host.Initial) (runs : Relation.ReflTransGen Step host next) :
    next.Sound := by
  induction runs with
  | refl => exact initial.sound
  | tail _ step sound => exact sound.step step

/-! ## Open listeners are reachable and do not share a path -/

structure PathsServed (host : SocketHost ι) : Prop where
  reachable : ∀ id listener, host.listeners id = some listener → listener.isOpen = true →
    ∃ inode, host.kernel.paths.lookup listener.path =
      some { inode, isSocket := true, mode := listener.mode } ∧ host.kernel.listens inode = true
  exclusive : ∀ id other listener peer, host.listeners id = some listener →
    host.listeners other = some peer → listener.isOpen = true → peer.isOpen = true →
    listener.path = peer.path → id = other

omit [DecidableEq ι] in
theorem Sound.pathsServed (sound : host.Sound) : host.PathsServed where
  reachable id listener here isOpen := by
    obtain ⟨inode, opened⟩ := Option.isSome_iff_exists.mp isOpen
    have serves := sound.serves id listener inode here opened
    exact ⟨inode, serves.named, serves.listens⟩
  exclusive id other listener peer here there isOpen alsoOpen same := by
    obtain ⟨inode, opened⟩ := Option.isSome_iff_exists.mp isOpen
    obtain ⟨inodeToo, openedToo⟩ := Option.isSome_iff_exists.mp alsoOpen
    have named := (sound.serves id listener inode here opened).named
    rw [same, (sound.serves other peer inodeToo there openedToo).named] at named
    have sameInode : inodeToo = inode := congrArg Entry.inode (Option.some.inj named)
    exact sound.apart id other listener peer inode here there opened (sameInode ▸ openedToo)

theorem pathsServed_of_runs (initial : host.Initial)
    (runs : Relation.ReflTransGen Step host next) : next.PathsServed :=
  (sound_of_runs initial runs).pathsServed

end

/-! ### A started service -/

def serviceListener : UnixSocketListener where
  path := ⟨ofAscii "/run/service.sock", by decide⟩
  mode := 0o660
  backlog := 128
  cancelFd := some 3

theorem serviceListener_ready : serviceListener.Ready where
  fd := rfl
  ownsPath := rfl
  canceled := rfl
  backlog := by decide
  mode := by decide
  cancelFd := by decide
  path := by decide

def emptyHost : SocketHost Bool where
  kernel := {}
  listeners _ := none

theorem emptyHost_initial : emptyHost.Initial where
  listeners _ := rfl
  distinct _ _ _ _ named := by cases named

theorem free_of_empty (path : SocketPath) (inode : Nat) :
    ((({} : Kernel)).remove path).Free inode where
  left := AList.notMem_empty inode
  right _ _ named := by cases named

def startedListener : UnixSocketListener := (serviceListener.listen (.unfailing 5) {}).2.1

def startedHost : SocketHost Bool :=
  { (emptyHost.setListener false (some serviceListener)).setListener false
      (some startedListener) with
    kernel := (serviceListener.listen (.unfailing 5) {}).1 }

theorem startedHost_runs : Relation.ReflTransGen Step emptyHost startedHost :=
  .tail (.single (.own (.construct rfl serviceListener_ready.toFresh)))
    (.own (.listen setListener_self (free_of_empty _ _)))

/-- A second service, whose socket lies beside that of the first. -/
def siblingListener : UnixSocketListener where
  path := ⟨ofAscii "/run/sibling.sock", by decide⟩
  mode := 0o600
  backlog := 16
  cancelFd := some 4

theorem siblingListener_ready : siblingListener.Ready where
  fd := rfl
  ownsPath := rfl
  canceled := rfl
  backlog := by decide
  mode := by decide
  cancelFd := by decide
  path := by decide

theorem startedHost_paths : startedHost.kernel.paths =
    AList.insert serviceListener.path { inode := 5, isSocket := true, mode := 0o660 } ∅ :=
  AList.ext (by decide +kernel)

theorem startedHost_free : (startedHost.kernel.remove siblingListener.path).Free 6 where
  left := by decide +kernel
  right path entry named := by
    have apart : path ≠ siblingListener.path := by
      rintro rfl
      rw [Kernel.remove, AList.lookup_erase] at named
      cases named
    rw [Kernel.remove, AList.lookup_erase_ne apart, startedHost_paths] at named
    by_cases same : path = serviceListener.path
    · rw [same, AList.lookup_insert] at named
      cases named
      decide
    · rw [AList.lookup_insert_ne same] at named
      cases named

def siblingStarted : UnixSocketListener :=
  (siblingListener.listen (.unfailing 6) startedHost.kernel).2.1

/-- Both services are started, one after the other. -/
def siblingHost : SocketHost Bool :=
  { (startedHost.setListener true (some siblingListener)).setListener true
      (some siblingStarted) with
    kernel := (siblingListener.listen (.unfailing 6) startedHost.kernel).1 }

theorem siblingHost_runs : Relation.ReflTransGen Step emptyHost siblingHost :=
  .tail (.tail startedHost_runs (.own (.construct rfl siblingListener_ready.toFresh)))
    (.own (.listen setListener_self startedHost_free))

theorem pathsServed_started :
    startedListener.isOpen = true ∧ siblingStarted.isOpen = true ∧
      siblingHost.listeners false = some startedListener ∧
      siblingHost.listeners true = some siblingStarted ∧ siblingHost.PathsServed :=
  ⟨by decide +kernel, by decide +kernel, rfl, rfl,
    pathsServed_of_runs emptyHost_initial siblingHost_runs⟩

/-! ## Paths of other programs -/

section

variable [DecidableEq ι] {path : SocketPath} {entry : Entry}

/-- A path that another program uses: a file, or a socket that it listens on. -/
structure InUse {ι : Type} (host : SocketHost ι) (path : SocketPath) (entry : Entry) : Prop where
  named : host.kernel.paths.lookup path = some entry
  listens : entry.isSocket = true → host.kernel.listens entry.inode = true
  foreign : entry.isSocket = true → ∀ id listener, host.listeners id = some listener →
    listener.fd ≠ some entry.inode

omit [DecidableEq ι] in
theorem inUse_of_file (named : host.kernel.paths.lookup path = some entry)
    (file : entry.isSocket = false) : host.InUse path entry where
  named := named
  listens isSocket := by
    rw [file] at isSocket
    cases isSocket
  foreign isSocket := by
    rw [file] at isSocket
    cases isSocket

theorem InUse.setListener (inUse : host.InUse path entry) {after : Kernel}
    {replaced : Option UnixSocketListener} (named : after.paths.lookup path = some entry)
    (listens : entry.isSocket = true → after.listens entry.inode = true)
    (foreign : entry.isSocket = true → ∀ listener, replaced = some listener →
      listener.fd ≠ some entry.inode) :
    InUse { host.setListener id replaced with kernel := after } path entry where
  named := named
  listens := listens
  foreign isSocket other peer found := by
    change (host.setListener id replaced).listeners other = some peer at found
    by_cases same : other = id
    · subst same
      rw [setListener_self] at found
      exact foreign isSocket peer found
    · rw [setListener_of_ne same] at found
      exact inUse.foreign isSocket other peer found

theorem InUse.listen (inUse : host.InUse path entry) (here : host.listeners id = some listener)
    {calls : ListenCalls} (free : (host.kernel.remove listener.path).Free calls.inode) :
    InUse
      { host.setListener id (some (listener.listen calls host.kernel).2.1) with
        kernel := (listener.listen calls host.kernel).1 } path entry := by
  have listened : UnixSocketListener.Listened calls host.kernel listener
      (listener.listen calls host.kernel) := UnixSocketListener.listen_cases
  have moved := listened.moved
  have apart : entry.isSocket = true → entry.inode ≠ calls.inode := fun isSocket same =>
    free.1 (same ▸ Kernel.mem_of_listens (inUse.listens isSocket))
  refine inUse.setListener ?_ ?_ ?_
  · by_cases same : path = listener.path
    · subst same
      exact moved.kept entry inUse.named inUse.listens
    · exact (moved.lookup_of_ne path same).trans inUse.named
  · intro isSocket
    refine Kernel.listens_iff.mpr ?_
    rw [moved.sockets_of_ne _ (apart isSocket)]
    exact Kernel.listens_iff.mp (inUse.listens isSocket)
  · intro isSocket changed same
    cases same
    have own := inUse.foreign isSocket id listener here
    generalize listener.listen calls host.kernel = result at listened
    cases listened with
    | refused => exact own
    | abandoned => exact own
    | served => exact fun same => apart isSocket (Option.some.inj same).symm

theorem InUse.close (sound : host.Sound) (inUse : host.InUse path entry)
    (here : host.listeners id = some listener) {after : Kernel}
    (closed : Closed host.kernel after listener) {replaced : Option UnixSocketListener}
    (shut : ∀ next, replaced = some next → next.fd = none) :
    InUse { host.setListener id replaced with kernel := after } path entry := by
  refine inUse.setListener ?_ ?_ ?_
  · exact closed.kept sound here inUse.named fun isSocket =>
      inUse.foreign isSocket id listener here
  · intro isSocket
    refine Kernel.listens_iff.mpr ?_
    rw [closed.sockets (inUse.foreign isSocket id listener here)]
    exact Kernel.listens_iff.mp (inUse.listens isSocket)
  · intro isSocket changed same opened
    rw [shut changed same] at opened
    cases opened

theorem InUse.ownStep (sound : host.Sound) (inUse : host.InUse path entry)
    (step : OwnStep host next) : next.InUse path entry := by
  cases step with
  | construct absent fresh =>
      refine inUse.setListener inUse.named inUse.listens ?_
      rintro - _ ⟨rfl⟩ opened
      rw [fresh.fd] at opened
      cases opened
  | listen here free => exact inUse.listen here free
  | close here =>
      refine inUse.close sound here (close_closed ..) ?_
      rintro _ ⟨rfl⟩
      rw [close_listener]
  | destroy here => exact inUse.close sound here (close_closed ..) fun _ same => by cases same
  | crash here => exact inUse.close sound here (.inl rfl) fun _ same => by cases same

/-- Whatever the listeners do, and whatever fails, other programs keep their paths. -/
theorem inUse_of_runs {later : SocketHost ι} (initial : host.Initial)
    (runs : Relation.ReflTransGen Step host next) (inUse : next.InUse path entry)
    (own : Relation.ReflTransGen OwnStep next later) : later.InUse path entry := by
  have sound := sound_of_runs initial runs
  suffices both : later.Sound ∧ later.InUse path entry from both.2
  induction own with
  | refl => exact ⟨sound, inUse⟩
  | tail _ step kept => exact ⟨kept.1.ownStep step, kept.2.ownStep kept.1 step⟩

end

/-- A file has the path that the service is given. -/
def fileHost : SocketHost Bool where
  kernel :=
    { paths :=
        AList.insert serviceListener.path { inode := 9, isSocket := false, mode := 0o600 } ∅ }
  listeners _ := none

theorem fileHost_named {path : SocketPath} {entry : Entry}
    (named : fileHost.kernel.paths.lookup path = some entry) : path = serviceListener.path := by
  by_contra apart
  rw [fileHost, AList.lookup_insert_ne apart] at named
  cases named

theorem fileHost_free : (fileHost.kernel.remove serviceListener.path).Free 5 where
  left := AList.notMem_empty 5
  right path entry named := by
    by_cases same : path = serviceListener.path
    · rw [same, Kernel.remove, AList.lookup_erase] at named
      cases named
    · rw [Kernel.remove, AList.lookup_erase_ne same] at named
      exact absurd (fileHost_named named) same

theorem fileHost_initial : fileHost.Initial where
  listeners _ := rfl
  distinct first second entry peer here there _ := by
    rw [fileHost_named here, fileHost_named there]

theorem inUse_file :
    InUse
      { (fileHost.setListener false (some serviceListener)).setListener false
          (some (serviceListener.listen (.unfailing 5) fileHost.kernel).2.1) with
        kernel := (serviceListener.listen (.unfailing 5) fileHost.kernel).1 }
      serviceListener.path { inode := 9, isSocket := false, mode := 0o600 } :=
  inUse_of_runs fileHost_initial .refl
    (inUse_of_file (AList.lookup_insert _) rfl)
    (.tail (.single (.construct rfl serviceListener_ready.toFresh))
      (.listen setListener_self fileHost_free))

/-! ## A service can be started again -/

section

variable [DecidableEq ι]

/-- However an open listener ends, a new one can take its path at once, unless a
program has been given the path in the meantime. -/
theorem restart_of_runs (initial : host.Initial) (runs : Relation.ReflTransGen Step host next)
    {inode own : Nat} (here : next.listeners id = some listener) (opened : listener.fd = some own)
    {after : Kernel}
    (ended : after = next.kernel.closeFd listener.fd ∨
      ∃ calls, after = (listener.close calls next.kernel).1)
    {successor : UnixSocketListener} (ready : successor.Ready)
    (same : successor.path = listener.path) :
    (successor.listen (.unfailing inode) after).2.2 = {} ∧
      Serves (successor.listen (.unfailing inode) after).1
        (successor.listen (.unfailing inode) after).2.1 inode := by
  have serves := (sound_of_runs initial runs).serves id listener own here opened
  have closed : Closed next.kernel after listener := by
    rcases ended with rfl | ⟨calls, rfl⟩
    · exact .inl rfl
    · exact close_closed calls next.kernel listener
  have unused : ∀ entry, after.paths.lookup successor.path = some entry →
      entry.isSocket = true ∧ after.listens entry.inode = false := by
    intro entry named
    have was := closed.lookup named
    rw [same, serves.named] at was
    cases was
    exact ⟨rfl, closed.silent opened⟩
  obtain ⟨created, listens, named, listening⟩ :=
    UnixSocketListener.listen_unfailing ready inode unused
  rw [listens]
  exact ⟨rfl, rfl, rfl, named, listening⟩

end

theorem restart_killed :
    (serviceListener.listen (.unfailing 8)
        (startedHost.kernel.closeFd startedListener.fd)).2.2 = {} ∧
      Serves
        (serviceListener.listen (.unfailing 8)
          (startedHost.kernel.closeFd startedListener.fd)).1
        (serviceListener.listen (.unfailing 8)
          (startedHost.kernel.closeFd startedListener.fd)).2.1 8 :=
  restart_of_runs emptyHost_initial startedHost_runs setListener_self
    (show startedListener.fd = some 5 by decide +kernel) (.inl rfl) serviceListener_ready
    (by decide +kernel)

end SocketHost

end YoAuthorize.Transport
