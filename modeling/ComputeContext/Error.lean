/-
# Statuses and failures

What an API entry point returns is a status: zero for success, one negative
number for each kind of failure. The codes are a fixed subset of the compute
runtime's codes, and reading a code back gives the status it was written for.

A failure of a context's operation names the part that was refused and says
why. Its status is what an entry point returns for it, and is never success.

Key definitions: `Status`, `Status.code`, `Error`, `Error.status`,
`Error.message`, `statusOf`.
-/
namespace ComputeContext

/-- The outcomes an entry point can report. -/
inductive Status
  | success
  | outOfHostMemory
  | invalidValue
  | invalidGlSharegroupReference
  | invalidD3d10Device
  | invalidD3d11Device
  | invalidDx9MediaAdapter
deriving DecidableEq, Repr

namespace Status

/-- Every status, once. -/
def all : List Status :=
  [success, outOfHostMemory, invalidValue, invalidGlSharegroupReference, invalidD3d10Device,
    invalidD3d11Device, invalidDx9MediaAdapter]

/-- The number callers see. -/
def code : Status → Int
  | success => 0
  | outOfHostMemory => -6
  | invalidValue => -30
  | invalidGlSharegroupReference => -1000
  | invalidD3d10Device => -1002
  | invalidD3d11Device => -1006
  | invalidDx9MediaAdapter => -1010

/-- The status with this code, if there is one. -/
def ofCode? (n : Int) : Option Status := all.find? (·.code == n)

/-- Only `success` is a success. -/
def isSuccess (s : Status) : Bool := s == success

theorem ofCode?_code (s : Status) : ofCode? s.code = some s := by cases s <;> rfl

end Status

/-- Why negotiating, creating or finishing a context failed. -/
inductive Error
  /-- A property name or value was refused. -/
  | invalidValue (reason : String)
  /-- The graphics display or context could not be used. -/
  | invalidGlSharegroupReference (reason : String)
  /-- Some device refused the Direct3D 10 device. -/
  | invalidD3d10Device (reason : String)
  /-- Some device refused the Direct3D 11 device. -/
  | invalidD3d11Device (reason : String)
  /-- Some device refused the Direct3D 9 media adapter. -/
  | invalidDx9MediaAdapter (reason : String)
  /-- Host storage for bookkeeping could not be had. -/
  | outOfHostMemory (requestedBytes : UInt64)
deriving DecidableEq, Repr

namespace Error

/-- The status reported for the failure. -/
def status : Error → Status
  | invalidValue _ => .invalidValue
  | invalidGlSharegroupReference _ => .invalidGlSharegroupReference
  | invalidD3d10Device _ => .invalidD3d10Device
  | invalidD3d11Device _ => .invalidD3d11Device
  | invalidDx9MediaAdapter _ => .invalidDx9MediaAdapter
  | outOfHostMemory _ => .outOfHostMemory

/-- The failure as text: what was refused, then the reason. -/
def message : Error → String
  | invalidValue reason => "invalid context property value: " ++ reason
  | invalidGlSharegroupReference reason => "invalid graphics sharegroup reference: " ++ reason
  | invalidD3d10Device reason => "invalid Direct3D 10 device: " ++ reason
  | invalidD3d11Device reason => "invalid Direct3D 11 device: " ++ reason
  | invalidDx9MediaAdapter reason => "invalid DX9 media adapter: " ++ reason
  | outOfHostMemory bytes => "out of host memory: requested " ++ toString bytes.toNat ++ " bytes"

theorem status_ne_success (e : Error) : e.status ≠ .success := by
  cases e <;> simp [status]

end Error

/-- The status of an operation's result. -/
def statusOf {α : Type} : Except Error α → Status
  | .ok _ => .success
  | .error e => e.status

end ComputeContext
