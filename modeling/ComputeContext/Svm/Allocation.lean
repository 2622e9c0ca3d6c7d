/-
# Regions on several devices

A region is asked for on one device after another. The first is free to choose
the address; each later one is hinted at the address the one before it gave.
The preferred device has its turn before the listed ones, and when it fails
nothing else is asked. Then the listed devices other than it follow in order;
devices without platform atomics are passed over when the region needs them.
When one of these fails, the request fails, and the policy decides whether the
devices that already hold the region free it, the last one first.

Freeing tells every device, whether it took part in the allocation or not.

Key definitions: `Svm.Progress`, `Svm.placeFirst`, `Svm.mirror`,
`Svm.abandon`, `Svm.allocate`, `Svm.free`.
-/
import ComputeContext.Backend
import ComputeContext.Settings.Basic

namespace ComputeContext.Svm

variable {σ : Type}

/-- The device can serve the request. -/
def canServe (inventory : Inventory) (r : Request) (d : DeviceId) : Bool :=
  !r.needsAtomics || (inventory d).supportsSvmAtomics

/-- A region on a device. -/
structure Placement where
  device : DeviceId
  address : Address
deriving DecidableEq

/-- The address the next device is hinted at: that of the newest placement. -/
def hint (placed : List Placement) : Option Address := placed.head?.map (·.address)

/-- How placing ended: the placements, newest first, and whether every device took the region. -/
structure Progress where
  placed : List Placement
  complete : Bool
deriving DecidableEq

/-- Asks the preferred device, if there is one and it can serve the request. -/
def placeFirst (b : Backend σ) (r : Request) : Option DeviceId → Run σ Progress
  | none => pure ⟨[], true⟩
  | some d =>
    if canServe b.inventory r d then do
      match ← b.svmAlloc d r none with
      | some p => return ⟨[⟨d, p⟩], true⟩
      | none => return ⟨[], false⟩
    else pure ⟨[], true⟩

/-- Asks the listed devices, one after another until one fails. The preferred device had its turn,
and those that cannot serve the request are passed over. -/
def mirror (b : Backend σ) (r : Request) (preferred : Option DeviceId) (placed : List Placement) :
    List DeviceId → Run σ Progress
  | [] => pure ⟨placed, true⟩
  | d :: ds =>
    if preferred = some d then mirror b r preferred placed ds
    else if canServe b.inventory r d then do
      match ← b.svmAlloc d r (hint placed) with
      | some p => mirror b r preferred (⟨d, p⟩ :: placed) ds
      | none => pure ⟨placed, false⟩
    else mirror b r preferred placed ds

/-- Frees regions on the devices that hold them. -/
def undo (b : Backend σ) : List Placement → Run σ Unit
  | [] => pure ()
  | p :: ps => do
    b.svmFree p.device p.address
    undo b ps

/-- What the policy asks for when a request has failed. -/
def abandon (b : Backend σ) (policy : FailurePolicy) (placed : List Placement) : Run σ Unit :=
  match policy with
  | .rollback => undo b placed
  | .leak => pure ()

/-- Allocates a region on all devices that take part in the request. Without any listed device
nothing is called. -/
def allocate (b : Backend σ) (policy : FailurePolicy) (devices : List DeviceId) (r : Request)
    (preferred : Option DeviceId) : Run σ (Option Address) :=
  if devices.isEmpty then pure none
  else do
    let first ← placeFirst b r preferred
    if first.complete then do
      let progress ← mirror b r preferred first.placed devices
      if progress.complete then return hint progress.placed
      else do
        abandon b policy progress.placed
        return none
    else return none

/-- Frees a region on every device. -/
def free (b : Backend σ) (p : Address) : List DeviceId → Run σ Unit
  | [] => pure ()
  | d :: ds => do
    b.svmFree d p
    free b p ds

end ComputeContext.Svm
