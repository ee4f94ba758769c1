import YoAuthorize.Core.Session

/-!
# License snapshots

What `LicenseValidator::validate` returns and the service keeps (`license.h`).
-/

namespace YoAuthorize.Core

open Octets

/-- `enum class LicenseType`; a permanent license does not expire. -/
inductive LicenseType : Type
  | trial
  | subscription
  | permanent
  deriving DecidableEq, Repr

/-- `enum class MachineMode`: whether the license is for one machine. -/
inductive MachineMode : Type
  | unbound
  | exact
  deriving DecidableEq, Repr

/-- The fields of a payload whose package has passed every check.  Times are in seconds, an
`expireTime` of 0 is that of a permanent license, and `machineId` counts in the mode
`exact` only. -/
structure LicenseSnapshot : Type where
  licenseId : Bytes := []
  productId : Bytes := []
  customerId : Bytes := []
  issueTime : UInt64 := 0
  notBefore : UInt64 := 0
  expireTime : UInt64 := 0
  type : LicenseType := .trial
  features : List Bytes := []
  maxSessions : UInt32 := 0
  machineMode : MachineMode := .unbound
  machineId : Bytes := []
  deriving DecidableEq

end YoAuthorize.Core
