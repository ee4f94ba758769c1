import Mathlib.Data.List.DropRight
import Mathlib.Data.List.Sort
import YoAuthorize.Core.Session
import YoAuthorize.Crypto

/-!
# The machine identity

`collectLinuxMachineIdentity` (`machine_identity.cpp`).  A component is read,
trimmed and normalized; what is available is hashed, component by component, and
then as one transcript.  A reader is any function that may throw (`none`) and
keep a state; without one the files are read.  An error comes with the identity
that was built so far, so the result is a pair and no `Except`.
-/

namespace YoAuthorize.Core

open Octets YoAuthorize.Crypto

/-- The domain of the final hash. -/
def kHashDomain : Bytes := ofAscii "YOAUTHORIZE-MACHINE-ID-V1"

def kComponentHashDomain : Bytes := ofAscii "YOAUTHORIZE-MACHINE-COMPONENT-V1"

def kMaxComponentSize : Nat := 4096

inductive MachineIdentityComponentType : Type
  | machineId
  | productUuid
  deriving DecidableEq, Repr

/-- `enum class MachineIdentityComponentStatus`. -/
inductive MachineIdentityComponentStatus : Type
  | available
  | missing
  | unreadable
  | invalid
  deriving DecidableEq, Repr

/-- `enum class MachineIdentityReadStatus`. -/
inductive MachineIdentityReadStatus : Type
  | success
  | missing
  | failure
  deriving DecidableEq, Repr

structure MachineIdentityReadResult : Type where
  status : MachineIdentityReadStatus := .failure
  contents : Bytes := []

/-- `none` is a reader that throws. -/
abbrev MachineIdentityReadFunction (σ : Type) : Type :=
  Bytes → σ → σ × Option MachineIdentityReadResult

/-- The two files to read and which of them are required. -/
structure LinuxMachineIdentityConfig : Type where
  machineIdPath : Bytes := ofAscii "/etc/machine-id"
  productUuidPath : Bytes := ofAscii "/sys/class/dmi/id/product_uuid"
  requireMachineId : Bool := true
  requireProductUuid : Bool := false

structure MachineIdentityComponent : Type where
  type : MachineIdentityComponentType := .machineId
  status : MachineIdentityComponentStatus := .missing
  deriving DecidableEq

structure MachineIdentity : Type where
  exactId : Bytes := []
  components : MachineIdentityComponent × MachineIdentityComponent := ({}, {})
  deriving DecidableEq

/-- A component that was read and has a canonical form. -/
structure NormalizedComponent : Type where
  type : Bytes
  value : Bytes
  deriving DecidableEq

structure MachineIdentityResult : Type where
  error : Option ErrorCode := none
  value : MachineIdentity
  deriving DecidableEq

/-! ## Normalizing -/

/-- Space, tab, newline, carriage return, form feed and vertical tab. -/
def isAsciiSpace (value : UInt8) : Bool :=
  value = 32 || value = 9 || value = 10 || value = 13 || value = 12 || value = 11

def isAsciiHex (value : UInt8) : Bool :=
  (value ≥ 48 && value ≤ 57) || (value ≥ 97 && value ≤ 102) || (value ≥ 65 && value ≤ 70)

/-- Lowers the letters from `A` to `F` and no others. -/
def asciiLower (value : UInt8) : UInt8 :=
  if value ≥ 65 && value ≤ 70 then value + 32 else value

/-- Without blanks at either end. -/
def trimAscii (value : Bytes) : Bytes :=
  (value.dropWhile isAsciiSpace).rdropWhile isAsciiSpace

/-- 32 hexadecimal digits, in lower case. -/
def normalizeMachineId (input : Bytes) : Option Bytes :=
  let input := trimAscii input
  if input.length ≠ 32 ∨ !input.all isAsciiHex then none
  else some (input.map asciiLower)

def hyphens : List Nat := [8, 13, 18, 23]

/-- The loop of `normalizeProductUuid` from an index on. -/
def normalizeUuidFrom (index : Nat) (output : Bytes) : Bytes → Option Bytes
  | [] => some output
  | value :: rest =>
      if index ∈ hyphens then
        if value ≠ 45 then none else normalizeUuidFrom (index + 1) output rest
      else if !isAsciiHex value then none
      else normalizeUuidFrom (index + 1) (output ++ [asciiLower value]) rest

/-- A UUID in its usual form, without hyphens and in lower case. -/
def normalizeProductUuid (input : Bytes) : Option Bytes :=
  let input := trimAscii input
  if input.length ≠ 36 then none
  else normalizeUuidFrom 0 [] input

/-! ## Reading -/

/-- A file as `std::ifstream` opens it: the bytes that `get` delivers, and whether
the stream is bad after the last of them. -/
inductive FileStream : Type
  | missing
  | unopened
  | opened (bytes : Bytes) (bad : Bool)

/-- The loop stops at the first byte over the limit. -/
def readFile (files : Bytes → FileStream) (path : Bytes) : MachineIdentityReadResult :=
  match files path with
  | .missing => { status := .missing }
  | .unopened => { status := .failure }
  | .opened bytes bad =>
      let contents := bytes.take (kMaxComponentSize + 1)
      if (bad && contents.length = bytes.length) || contents.length > kMaxComponentSize then
        { status := .failure }
      else { status := .success, contents }

def MachineIdentityComponentType.normalize : MachineIdentityComponentType → Bytes → Option Bytes
  | .machineId => normalizeMachineId
  | .productUuid => normalizeProductUuid

def MachineIdentityComponentType.name : MachineIdentityComponentType → Bytes
  | .machineId => ofAscii "machine-id"
  | .productUuid => ofAscii "product-uuid"

section

variable {σ : Type}

def readComponent (reader : MachineIdentityReadFunction σ) (path : Bytes)
    (type : MachineIdentityComponentType) (out : List NormalizedComponent) (world : σ) :
    σ × MachineIdentityComponentStatus × List NormalizedComponent :=
  match reader path world with
  | (world, none) => (world, .unreadable, out)
  | (world, some read) =>
      match read.status with
      | .missing => (world, .missing, out)
      | .failure => (world, .unreadable, out)
      | .success =>
          match type.normalize read.contents with
          | none => (world, .invalid, out)
          | some value => (world, .available, out ++ [{ type := type.name, value }])

/-! ## Hashing -/

def appendU32 (value : Nat) : Bytes := u32Bytes (UInt32.ofNat value)

/-- A length before the bytes keeps fields apart. -/
def appendField (value : Bytes) : Bytes := appendU32 value.length ++ value

def hexDigits : Bytes := ofAscii "0123456789abcdef"

/-- The two digits of a byte. -/
def hexPair (byte : UInt8) : Bytes :=
  [hexDigits.getD (byte >>> 4).toNat 0, hexDigits.getD (byte &&& 0x0f).toNat 0]

def hexDigest (digest : Sha256Digest) : Bytes := digest.val.flatMap hexPair

def componentInput (component : NormalizedComponent) : Bytes :=
  appendField kComponentHashDomain ++ appendField component.type ++ appendField component.value

/-- The loop over the components, from a transcript on. -/
def appendComponents (ssl : OpenSsl) (transcript : Bytes) :
    List NormalizedComponent → CryptoResult Bytes
  | [] => .ok transcript
  | component :: rest =>
      match sha256 ssl (componentInput component) with
      | .error error => .error error
      | .ok digest =>
          appendComponents ssl
            (transcript ++ appendField component.type ++ appendU32 digest.val.length ++
              digest.val) rest

/-- `std::sort` by the type. -/
def sortComponents (normalized : List NormalizedComponent) : List NormalizedComponent :=
  normalized.insertionSort fun left right => left.type ≤ right.type

def collectLinuxMachineIdentity (ssl : OpenSsl) (files : σ → Bytes → FileStream)
    (config : LinuxMachineIdentityConfig)
    (readFunction : Option (MachineIdentityReadFunction σ)) (world : σ) :
    MachineIdentityResult :=
  let reader := readFunction.getD fun path world => (world, some (readFile (files world) path))
  let machine := readComponent reader config.machineIdPath .machineId [] world
  let product :=
    readComponent reader config.productUuidPath .productUuid machine.2.2 machine.1
  let normalized := product.2.2
  let identity : MachineIdentity :=
    { components :=
        ({ type := .machineId, status := machine.2.1 },
          { type := .productUuid, status := product.2.1 }) }
  if (config.requireMachineId ∧ identity.components.1.status ≠ .available) ∨
      (config.requireProductUuid ∧ identity.components.2.status ≠ .available) then
    { error := some .machineIdentityUnavailable, value := identity }
  else if normalized = [] then
    { error := some .machineIdentityUnavailable, value := identity }
  else
    let transcript := appendField kHashDomain ++ appendU32 normalized.length
    match appendComponents ssl transcript (sortComponents normalized) with
    | .error _ => { error := some .internalError, value := identity }
    | .ok transcript =>
        match sha256 ssl transcript with
        | .error _ => { error := some .internalError, value := identity }
        | .ok digest => { value := { identity with exactId := hexDigest digest } }

end

end YoAuthorize.Core
