import YoAuthorize.Lib.FlatBuffer

/-!
# The license schema

The tables of `license.fbs`, which the C++ core and the Rust backend each keep
a copy of.  The type of strings is a parameter: bytes for the C++ accessors,
UTF-8 text for the Rust builder.  A `vt` field is a vtable slot, and the
accessor of the same name applies the schema default.
-/

namespace YoAuthorize.License

open Octets FlatBuffer

/-- The values of `enum LicenseType : byte`, an unchecked byte on the wire. -/
def typeTrial : Int8 := 0
def typeSubscription : Int8 := 1
def typePermanent : Int8 := 2

/-- The values of `enum MachineMode : byte`. -/
def modeUnbound : Int8 := 0
def modeExact : Int8 := 1

section

variable {σ τ : Type}

/-- `table MachinePolicy`; in the mode `Exact` the license is for `machineId`. -/
structure MachinePolicy (σ : Type) : Type where
  vtMode : Scalar Int8 modeUnbound
  machineId : Option σ
  deriving DecidableEq

def MachinePolicy.mode (table : MachinePolicy σ) : Int8 := getField table.vtMode

/-- The mode `Unbound` is the default and is left out of the buffer. -/
def createMachinePolicy (mode : Int8) (machineId : Option σ) : MachinePolicy σ where
  vtMode := addElement mode modeUnbound
  machineId := machineId

/-- `table LicensePayload`, the part of a package that is signed. -/
structure LicensePayload (σ : Type) : Type where
  licenseId : Option σ
  productId : Option σ
  customerId : Option σ
  vtIssueTime : Scalar UInt64 0
  vtNotBefore : Scalar UInt64 0
  vtExpireTime : Scalar UInt64 0
  vtLicenseType : Scalar Int8 typeTrial
  features : Option (List σ)
  vtMaxSessions : Scalar UInt32 1
  machinePolicy : Option (MachinePolicy σ)
  deriving DecidableEq

namespace LicensePayload

def issueTime (table : LicensePayload σ) : UInt64 := getField table.vtIssueTime

def notBefore (table : LicensePayload σ) : UInt64 := getField table.vtNotBefore

def expireTime (table : LicensePayload σ) : UInt64 := getField table.vtExpireTime

def licenseType (table : LicensePayload σ) : Int8 := getField table.vtLicenseType

def maxSessions (table : LicensePayload σ) : UInt32 := getField table.vtMaxSessions

end LicensePayload

/-- Times of 0, the type `Trial` and one session are the defaults and are left out. -/
def createLicensePayload (licenseId productId customerId : σ)
    (issueTime notBefore expireTime : UInt64) (licenseType : Int8) (features : List σ)
    (maxSessions : UInt32) (machinePolicy : MachinePolicy σ) : LicensePayload σ where
  licenseId := some licenseId
  productId := some productId
  customerId := some customerId
  vtIssueTime := addElement issueTime 0
  vtNotBefore := addElement notBefore 0
  vtExpireTime := addElement expireTime 0
  vtLicenseType := addElement licenseType typeTrial
  features := some features
  vtMaxSessions := addElement maxSessions 1
  machinePolicy := some machinePolicy

/-- `table LicensePackage`: a payload in its own buffer, its signature and the name of the key. -/
structure LicensePackage (σ : Type) : Type where
  vtFormatVersion : Scalar UInt16 0
  keyId : Option σ
  payload : Option Bytes
  signature : Option Bytes
  deriving DecidableEq

def LicensePackage.formatVersion (table : LicensePackage σ) : UInt16 :=
  getField table.vtFormatVersion

def createLicensePackage (formatVersion : UInt16) (keyId : σ) (payload signature : Bytes) :
    LicensePackage σ where
  vtFormatVersion := addElement formatVersion 0
  keyId := some keyId
  payload := some payload
  signature := some signature

/-- `file_identifier`. -/
def packageIdentifier : Bytes := ofAscii "YALC"

/-! ## Strings seen by another language -/

/-- The same table when its strings are read as values of another type. -/
def MachinePolicy.map (view : σ → τ) (table : MachinePolicy σ) : MachinePolicy τ where
  vtMode := table.vtMode
  machineId := table.machineId.map view

def LicensePayload.map (view : σ → τ) (table : LicensePayload σ) : LicensePayload τ where
  licenseId := table.licenseId.map view
  productId := table.productId.map view
  customerId := table.customerId.map view
  vtIssueTime := table.vtIssueTime
  vtNotBefore := table.vtNotBefore
  vtExpireTime := table.vtExpireTime
  vtLicenseType := table.vtLicenseType
  features := table.features.map (List.map view)
  vtMaxSessions := table.vtMaxSessions
  machinePolicy := table.machinePolicy.map (MachinePolicy.map view)

def LicensePackage.map (view : σ → τ) (table : LicensePackage σ) : LicensePackage τ where
  vtFormatVersion := table.vtFormatVersion
  keyId := table.keyId.map view
  payload := table.payload
  signature := table.signature

/-! ## Sizes -/

/-- The bytes of the strings and vectors of a table. -/
def LicensePackage.contentSize (table : LicensePackage Bytes) : Nat :=
  optionSize table.keyId + optionSize table.payload + optionSize table.signature

def LicensePayload.contentSize (table : LicensePayload Bytes) : Nat :=
  optionSize table.licenseId + optionSize table.productId + optionSize table.customerId +
    stringsSize table.features + optionSize (table.machinePolicy.bind MachinePolicy.machineId)

/-- The only string of a payload whose size nobody limits. -/
def LicensePayload.boundMachine (table : LicensePayload Bytes) : Option Bytes :=
  table.machinePolicy.bind MachinePolicy.machineId

end

end YoAuthorize.License
