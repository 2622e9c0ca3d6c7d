/-
# Devices and requests for shared memory

A device is known by an identity that is its own for as long as it lives; two
devices are the same only if they are the same identity, whatever they report
about themselves. What a device reports never changes, so an inventory is a
function of the identity. It reports which kinds of shared memory it offers,
and an allocation says how its region will be used.

A context holds the devices its client gave it, in the client's order and with
the client's repetitions. Those that take part in shared memory are kept in
allocation order: the order given, except that a leading device whose
coherence covers all of the system's memory changes places with the first
device whose coherence does not. So a device with the strictest requirement
gets a region first. Host memory comes from the first device that has an
allocator for it, whether it shares memory or not.

Key definitions: `Svm.Capabilities`, `Svm.Access`, `Svm.Request`, `DeviceId`,
`Device`, `Inventory`, `Segment`, `Roster`, `Roster.ofList`, `exchangeFront`.
-/
import ComputeContext.FlagSet

namespace ComputeContext.Svm

/-! ### Requests for shared virtual memory -/

/-- The named kinds of shared memory a device can offer. -/
def capabilityVocabulary : FlagVocabulary 32 where
  title := "SvmCapabilities"
  named :=
    [("COARSE_GRAIN_BUFFER", 0x1), ("FINE_GRAIN_BUFFER", 0x2), ("FINE_GRAIN_SYSTEM", 0x4),
      ("ATOMICS", 0x8)]

/-- The kinds of shared memory a device offers. -/
abbrev Capabilities := FlagSet capabilityVocabulary

namespace Capabilities

/-- Buffers that are shared whole. -/
def coarseGrainBuffer : Capabilities := ⟨0x1⟩
/-- Buffers that are shared byte by byte. -/
def fineGrainBuffer : Capabilities := ⟨0x2⟩
/-- All of the system's memory, byte by byte. -/
def fineGrainSystem : Capabilities := ⟨0x4⟩
/-- Atomics that the whole platform sees. -/
def atomics : Capabilities := ⟨0x8⟩

end Capabilities

/-- The named uses of a region. -/
def accessVocabulary : FlagVocabulary 64 where
  title := "SvmMemFlags"
  named :=
    [("READ_WRITE", 0x1), ("WRITE_ONLY", 0x2), ("READ_ONLY", 0x4), ("FINE_GRAIN_BUFFER", 0x400),
      ("ATOMICS", 0x800)]

/-- How a region will be used. -/
abbrev Access := FlagSet accessVocabulary

namespace Access

/-- Read and written. -/
def readWrite : Access := ⟨0x1⟩
/-- Only written. -/
def writeOnly : Access := ⟨0x2⟩
/-- Only read. -/
def readOnly : Access := ⟨0x4⟩
/-- Shared byte by byte. -/
def fineGrainBuffer : Access := ⟨0x400⟩
/-- Used with atomics that the whole platform sees. -/
def atomics : Access := ⟨0x800⟩

end Access

/-- A region to allocate. -/
structure Request where
  size : UInt64
  alignment : UInt64
  access : Access
deriving DecidableEq

/-- The region is used with platform atomics. -/
def Request.needsAtomics (r : Request) : Bool := r.access.contains Access.atomics

end ComputeContext.Svm

namespace ComputeContext

/-! ### Devices -/

/-- Identity of a device. -/
structure DeviceId where
  index : Nat
deriving DecidableEq, Hashable, Repr, Inhabited

/-- What a device reports about itself. -/
structure DeviceInfo where
  name : String
  svm : Svm.Capabilities
  /-- Bound on the on-device queues one context may hold on it. -/
  maxQueues : UInt32
deriving DecidableEq

/-- A device: its report, and whether it allocates host memory for contexts. -/
structure Device extends DeviceInfo where
  hasHostAllocator : Bool
deriving DecidableEq

/-- The devices there are. -/
abbrev Inventory := DeviceId → Device

namespace Device

/-- The device takes part in shared memory at all. -/
def supportsSvm (d : Device) : Bool := !d.svm.isEmpty

/-- The device's coherence covers all of the system's memory. -/
def isFineGrainedSystem (d : Device) : Bool := d.svm.contains Svm.Capabilities.fineGrainSystem

/-- The device has platform atomics on shared memory. -/
def supportsSvmAtomics (d : Device) : Bool := d.svm.contains Svm.Capabilities.atomics

end Device

/-- The part of host memory a device's allocator takes a block from. -/
inductive Segment
  | atomics
  | noAtomics
deriving DecidableEq, Repr

/-- The segment for blocks with or without atomics. -/
def Segment.ofAtomics (atomics : Bool) : Segment := if atomics then .atomics else .noAtomics

/-! ### The devices of a context -/

/-- If the first element passes the test, it changes places with the first one that fails it. -/
def exchangeFront {α : Type} (p : α → Bool) : List α → List α
  | [] => []
  | a :: as =>
    if p a then
      match as.findIdx? (!p ·) with
      | some i => as.getD i a :: as.set i a
      | none => a :: as
    else a :: as

/-- The devices a context holds. -/
structure Roster where
  /-- Every device, as the client gave them. -/
  devices : List DeviceId
  /-- The devices that share memory, in allocation order. -/
  svmDevices : List DeviceId
  /-- The device that allocates host memory. -/
  hostAllocator : Option DeviceId
deriving DecidableEq, Repr

namespace Roster

/-- The roster of a list of devices. -/
def ofList (inventory : Inventory) (devices : List DeviceId) : Roster where
  devices
  svmDevices :=
    exchangeFront (fun d => (inventory d).isFineGrainedSystem)
      (devices.filter fun d => (inventory d).supportsSvm)
  hostAllocator := devices.find? fun d => (inventory d).hasHostAllocator

/-- The device is one of the roster's. -/
def contains (r : Roster) (d : DeviceId) : Bool := r.devices.contains d

/-- How many devices the client gave. -/
def size (r : Roster) : Nat := r.devices.length

/-- The client gave no device. -/
def isEmpty (r : Roster) : Bool := r.devices.isEmpty

end Roster
end ComputeContext
