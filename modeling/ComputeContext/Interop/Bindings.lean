/-
# Devices bound to external adapters, and shared graphics

Binding asks every device of a list, in order, whether or not an earlier one
refused; a device that is bound already is not asked again. The devices that
accepted are remembered, so that exactly they are unbound later; the newest
takes the place of one that is unbound. A refusal is reported as the failure
of the most important adapter that was asked for: graphics, Direct3D 10,
Direct3D 11, then the Direct3D 9 family.

To share a graphics context, a library for the API of the agreement is loaded
and asked whether the client's context is the current one. A library that says
no is dropped.

Key definitions: `Bindings`, `Bindings.bindAll`, `Bindings.unbind`,
`BindFailure`, `Graphics.share`, `Graphics.Failure`.
-/
import ComputeContext.Backend
import ComputeContext.Error

namespace ComputeContext

/-- Some devices refused to be bound. -/
structure BindFailure where
  /-- What the devices were asked for. -/
  flags : Interop.Flags
  /-- How many refused. -/
  refused : Nat
  /-- How many were listed. -/
  total : Nat
deriving DecidableEq

namespace BindFailure

/-- The refusals in words. -/
def reason (f : BindFailure) : String :=
  toString f.refused ++ " of " ++ toString f.total ++ " device(s) rejected the external device"

/-- The failure of the most important adapter that was asked for. -/
def toError (f : BindFailure) : Error :=
  if f.flags.contains Interop.Flags.glDevice then .invalidGlSharegroupReference f.reason
  else if f.flags.contains Interop.Flags.d3d10Device then .invalidD3d10Device f.reason
  else if f.flags.contains Interop.Flags.d3d11Device then .invalidD3d11Device f.reason
  else if f.flags.intersects Interop.Flags.d3d9Any then .invalidDx9MediaAdapter f.reason
  else .invalidValue f.reason

end BindFailure

/-- The list without the element at a position, whose place the last element takes. -/
def swapRemove {α : Type} (l : List α) (i : Nat) : List α :=
  match l.getLast? with
  | some last => (l.set i last).dropLast
  | none => []

/-- The devices that are bound. -/
structure Bindings where
  bound : List DeviceId
deriving DecidableEq, Repr

namespace Bindings

variable {σ : Type}

/-- No device is bound. -/
def empty : Bindings := ⟨[]⟩

instance : Inhabited Bindings := ⟨empty⟩

/-- The device is bound. -/
def isBound (bs : Bindings) (d : DeviceId) : Bool := bs.bound.contains d

/-- How many devices are bound. -/
def size (bs : Bindings) : Nat := bs.bound.length

/-- Asks every listed device that is not bound by then, and counts the refusals. -/
def ask (b : Backend σ) (r : Interop.Request) (bs : Bindings) :
    List DeviceId → Run σ (Nat × Bindings)
  | [] => pure (0, bs)
  | d :: ds => do
    if bs.isBound d then ask b r bs ds
    else if ← b.bind d r false then ask b r ⟨bs.bound ++ [d]⟩ ds
    else
      let (refused, bs) ← ask b r bs ds
      return (refused + 1, bs)

/-- Binds the listed devices when the request asks for any adapter. -/
def bindAll (b : Backend σ) (bs : Bindings) (devices : List DeviceId) (r : Interop.Request) :
    Run σ (Except BindFailure Unit × Bindings) :=
  if r.wantsBinding then do
    let (refused, bs) ← ask b r bs devices
    return (if refused = 0 then .ok () else .error ⟨r.flags, refused, devices.length⟩, bs)
  else pure (.ok (), bs)

/-- Unbinds a device if it is bound, and tells whether it was. -/
def unbind (b : Backend σ) (bs : Bindings) (d : DeviceId) (r : Interop.Request) :
    Run σ (Bool × Bindings) := do
  match bs.bound.idxOf? d with
  | some i =>
    b.unbind d r false
    return (true, ⟨swapRemove bs.bound i⟩)
  | none => return (false, bs)

end Bindings
end ComputeContext

namespace ComputeContext.Graphics

/-! ### Sharing a graphics context -/

variable {σ : Type}

/-- Why graphics interop failed. -/
inductive Failure
  /-- No library could be had. -/
  | load (cause : LoadError)
  /-- The client's context is not current. -/
  | handshake (api : Api) (display context : Interop.Handle)
deriving DecidableEq, Repr

namespace Failure

/-- The cause in words. -/
def reason : Failure → String
  | load cause => cause.message
  | handshake api display context =>
    api.text ++ " handshake failed for display " ++ display.hex ++ " and context " ++ context.hex

/-- Graphics failures are sharegroup failures. -/
def toError (f : Failure) : Error := .invalidGlSharegroupReference f.reason

end Failure

/-- Loads the library for a request and shakes hands with it. -/
def share (b : Backend σ) (r : Interop.Request) (loader : Loader) :
    Run σ (Except Failure Library) := do
  let api := Api.ofFlags r.flags
  match ← b.load loader api with
  | .inl cause => return .error (.load cause)
  | .inr library =>
    if ← b.handshake library r.handles.gl r.glContext then return .ok library
    else do
      b.release library
      return .error (.handshake api r.handles.gl r.glContext)

end ComputeContext.Graphics
