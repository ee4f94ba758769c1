import YoAuthorize.Transport.Connect
import Mathlib.Data.List.AList

/-!
# Listening on a path

`UnixSocketListener` and `removeStaleSocket` (`unix_socket.cpp`) over a directory
whose entries outlive the sockets that were bound there.  `Kernel` has what each
path names and which bound sockets are open, and every system call can fail.  A
call runs by itself: two calls that work on one path at once are left out, except
for a `close` of the listener that is in `listen`.  The device and the inode of a
file are one number, and no path has a second name.
-/

namespace YoAuthorize.Transport

open Octets

/-! ## Paths and sockets -/

def ENOENT : Int := 2
def EAGAIN : Int := 11
def EEXIST : Int := 17
def EADDRINUSE : Int := 98
def ECONNREFUSED : Int := 111
def EALREADY : Int := 114

/-- A path, which ends at its first zero byte. -/
abbrev SocketPath : Type := { path : Bytes // 0 ∉ path }

/-- What `lstat` finds. -/
structure Entry : Type where
  inode : Nat
  /-- `S_ISSOCK`. -/
  isSocket : Bool
  /-- The permission bits. -/
  mode : UInt32
  deriving DecidableEq

/-- An open socket is bound to one inode, which names it here, and listens or not. -/
structure Kernel : Type where
  paths : AList fun _ : SocketPath => Entry := ∅
  sockets : AList fun _ : Nat => Bool := ∅

namespace Kernel

/-- Nothing uses the inode, so that a new file can get it. -/
def Free (kernel : Kernel) (inode : Nat) : Prop :=
  inode ∉ kernel.sockets ∧ ∀ path entry, kernel.paths.lookup path = some entry → entry.inode ≠ inode

/-- `bind` under the mask 0077. -/
def bind (kernel : Kernel) (path : SocketPath) (inode : Nat) : Kernel where
  paths := kernel.paths.insert path { inode, isSocket := true, mode := 0o700 }
  sockets := kernel.sockets.insert inode false

def chmod (kernel : Kernel) (path : SocketPath) (mode : UInt32) : Kernel :=
  match kernel.paths.lookup path with
  | none => kernel
  | some entry => { kernel with paths := kernel.paths.insert path { entry with mode } }

def listen (kernel : Kernel) (inode : Nat) : Kernel :=
  { kernel with sockets := kernel.sockets.insert inode true }

def closeSocket (kernel : Kernel) (inode : Nat) : Kernel :=
  { kernel with sockets := kernel.sockets.erase inode }

/-- `closeFd` of a descriptor that is bound to `fd`. -/
def closeFd (kernel : Kernel) : Option Nat → Kernel
  | none => kernel
  | some inode => kernel.closeSocket inode

def remove (kernel : Kernel) (path : SocketPath) : Kernel :=
  { kernel with paths := kernel.paths.erase path }

/-- `unlink`, which may fail. -/
def unlink (kernel : Kernel) (path : SocketPath) : Except Int Unit → Kernel
  | .error _ => kernel
  | .ok () => kernel.remove path

/-- The socket at this inode takes connections. -/
def listens (kernel : Kernel) (inode : Nat) : Bool := kernel.sockets.lookup inode = some true

end Kernel

/-! ## System calls -/

/-- An error of `connect` that says nothing about the socket at the path.  The loop
does not stop at `EINTR`. -/
abbrev ConnectFault : Type :=
  { error : Int // error ≠ 0 ∧ error ≠ ENOENT ∧ error ≠ ECONNREFUSED ∧ error ≠ EINTR }

/-- The failures of the calls of one `listen`, in the order of the calls. -/
structure ListenCalls : Type where
  lstat : Except Int Unit := .ok ()
  probe : Except Int Unit := .ok ()
  connect : Option ConnectFault := none
  lstatAgain : Except Int Unit := .ok ()
  unlink : Except Int Unit := .ok ()
  socket : Except Int Unit := .ok ()
  bind : Except Int Unit := .ok ()
  /-- The inode that `bind` creates. -/
  inode : Nat
  chmod : Except Int Unit := .ok ()
  listen : Except Int Unit := .ok ()
  lstatBound : Except Int Unit := .ok ()
  /-- The `unlink` after a failure. -/
  unlinkBound : Except Int Unit := .ok ()
  /-- Another thread has called `close` since the first check. -/
  closed : Bool := false

structure CloseCalls : Type where
  lstat : Except Int Unit := .ok ()
  unlink : Except Int Unit := .ok ()

/-- `makeAddress`. -/
def makeAddress (path : SocketPath) : Status :=
  if path.val = [] ∨ sunPathSize ≤ path.val.length then { code := .invalidArgument } else {}

/-- What `lstat` reports; a path that names nothing is the error `ENOENT`. -/
def lstat (kernel : Kernel) (path : SocketPath) : Except Int Unit → Except Int Entry
  | .error error => .error error
  | .ok () =>
      match kernel.paths.lookup path with
      | none => .error ENOENT
      | some entry => .ok entry

/-- `connect_error` of the probe; 0 is a connection. -/
def connectError (kernel : Kernel) (path : SocketPath) (fault : Option ConnectFault) : Int :=
  match fault with
  | some fault => fault.val
  | none =>
      match kernel.paths.lookup path with
      | none => ENOENT
      | some entry => if kernel.listens entry.inode then 0 else ECONNREFUSED

/-- `removeStaleSocket` from the refused connection on. -/
def unlinkStale (calls : ListenCalls) (kernel : Kernel) (path : SocketPath) (metadata : Entry) :
    Kernel × Status :=
  match lstat kernel path calls.lstatAgain with
  | .error error => (kernel, if error = ENOENT then {} else systemError error)
  | .ok current =>
      if !current.isSocket ∨ current.inode ≠ metadata.inode then (kernel, systemError EAGAIN)
      else
        match calls.unlink with
        | .error error => (kernel, systemError error)
        | .ok () => (kernel.remove path, {})

def removeStaleSocket (calls : ListenCalls) (kernel : Kernel) (path : SocketPath) :
    Kernel × Status :=
  match lstat kernel path calls.lstat with
  | .error error => (kernel, if error = ENOENT then {} else systemError error)
  | .ok metadata =>
      if !metadata.isSocket then (kernel, systemError EEXIST)
      else if (makeAddress path).code ≠ .ok then (kernel, makeAddress path)
      else
        match calls.probe with
        | .error error => (kernel, systemError error)
        | .ok () =>
            let error := connectError kernel path calls.connect
            if error = 0 ∨ error = EINPROGRESS ∨ error = EAGAIN ∨ error = EALREADY then
              (kernel, systemError EADDRINUSE)
            else if error = ENOENT then (kernel, {})
            else if error ≠ ECONNREFUSED then (kernel, systemError error)
            else unlinkStale calls kernel path metadata

/-! ## The listener -/

/-- `UnixSocketListener::State`.  The descriptor is named by the inode that its
socket is bound to. -/
structure UnixSocketListener : Type where
  path : SocketPath
  mode : UInt32
  backlog : Int
  cancelFd : Option Nat
  fd : Option Nat := none
  inode : Nat := 0
  ownsPath : Bool := false
  canceled : Bool := false

namespace UnixSocketListener

def isOpen (listener : UnixSocketListener) : Bool := listener.fd.isSome

/-- The listener that a constructor leaves. -/
structure Fresh (listener : UnixSocketListener) : Prop where
  fd : listener.fd = none
  ownsPath : listener.ownsPath = false
  canceled : listener.canceled = false

/-- `closeFd(fd); unlink(path)`. -/
def abandon (calls : ListenCalls) (kernel : Kernel) (listener : UnixSocketListener) : Kernel :=
  (kernel.closeSocket calls.inode).unlink listener.path calls.unlinkBound

/-- The second critical section of `listen`. -/
def publish (calls : ListenCalls) (kernel : Kernel) (listener : UnixSocketListener)
    (metadata : Entry) : Kernel × UnixSocketListener × Status :=
  let listener := { listener with canceled := listener.canceled || calls.closed }
  if listener.canceled then (listener.abandon calls kernel, listener, { code := .canceled })
  else if listener.fd.isSome then
    (listener.abandon calls kernel, listener, systemError EADDRINUSE)
  else
    (kernel,
      { listener with fd := some calls.inode, inode := metadata.inode, ownsPath := true }, {})

/-- `listen` from the bound socket on. -/
def serve (calls : ListenCalls) (kernel : Kernel) (listener : UnixSocketListener) :
    Kernel × UnixSocketListener × Status :=
  match calls.chmod with
  | .error error => (listener.abandon calls kernel, listener, systemError error)
  | .ok () =>
      let shared := kernel.chmod listener.path listener.mode
      match calls.listen with
      | .error error => (listener.abandon calls shared, listener, systemError error)
      | .ok () =>
          let served := shared.listen calls.inode
          match Transport.lstat served listener.path calls.lstatBound with
          | .error error => (listener.abandon calls served, listener, systemError error)
          | .ok metadata => listener.publish calls served metadata

/-- `listen` from the socket on. -/
def bindSocket (calls : ListenCalls) (kernel : Kernel) (listener : UnixSocketListener) :
    Kernel × UnixSocketListener × Status :=
  match calls.socket with
  | .error error => (kernel, listener, systemError error)
  | .ok () =>
      match calls.bind with
      | .error error => (kernel, listener, systemError error)
      | .ok () =>
          if (kernel.paths.lookup listener.path).isSome then
            (kernel, listener, systemError EADDRINUSE)
          else listener.serve calls (kernel.bind listener.path calls.inode)

/-- `UnixSocketListener::listen`. -/
def listen (calls : ListenCalls) (kernel : Kernel) (listener : UnixSocketListener) :
    Kernel × UnixSocketListener × Status :=
  if listener.backlog ≤ 0 ∨ listener.mode &&& ~~~0o777 ≠ 0 then
    (kernel, listener, { code := .invalidArgument })
  else if listener.cancelFd = none then (kernel, listener, systemError EMFILE)
  else if listener.canceled then (kernel, listener, { code := .canceled })
  else if listener.fd.isSome then (kernel, listener, systemError EADDRINUSE)
  else if (makeAddress listener.path).code ≠ .ok then
    (kernel, listener, makeAddress listener.path)
  else
    let stale := removeStaleSocket calls kernel listener.path
    if stale.2.code ≠ .ok then (stale.1, listener, stale.2)
    else listener.bindSocket calls stale.1

/-- `UnixSocketListener::close`, which `stop` and the destructor call. -/
def close (calls : CloseCalls) (kernel : Kernel) (listener : UnixSocketListener) :
    Kernel × UnixSocketListener :=
  let closed := { listener with canceled := true, fd := none, ownsPath := false }
  let kernel := kernel.closeFd listener.fd
  match Transport.lstat kernel listener.path calls.lstat with
  | .error _ => (kernel, closed)
  | .ok metadata =>
      if listener.ownsPath ∧ metadata.isSocket ∧ metadata.inode = listener.inode then
        (kernel.unlink listener.path calls.unlink, closed)
      else (kernel, closed)

end UnixSocketListener

end YoAuthorize.Transport
