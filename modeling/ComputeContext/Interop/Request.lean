/-
# What devices are bound to

Negotiation records which external adapters a context has to be bound to, and
two features besides. Each kind of adapter has a slot in the handle table and
a flag that goes with the slot. A handle is a word owned by another API; zero
is the null handle. An interop request is what a device is given when it is
bound: the flags, the table and the graphics context.

Key definitions: `Interop.Flags`, `Interop.Slot`, `Interop.Handle`,
`Interop.HandleTable`, `Interop.Request`, `Interop.Request.wantsBinding`,
`Interop.Request.isConsistent`.
-/
import ComputeContext.FlagSet

namespace ComputeContext.Interop

/-! ### Flags and slots -/

/-- The named interop flags. -/
def flagVocabulary : FlagVocabulary 32 where
  title := "ContextFlags"
  named :=
    [("GL_DEVICE_KHR", 0x1), ("D3D10_DEVICE_KHR", 0x2), ("OFFLINE_DEVICES", 0x4),
      ("INTEROP_USER_SYNC", 0x8), ("D3D11_DEVICE_KHR", 0x10), ("D3D9_DEVICE_KHR", 0x20),
      ("D3D9_DEVICE_EX_KHR", 0x40), ("D3D9_DEVICE_VA_KHR", 0x80), ("EGL_DEVICE_KHR", 0x100)]

/-- What negotiation recorded: adapters to bind to, and features. -/
abbrev Flags := FlagSet flagVocabulary

namespace Flags

/-- A graphics display or context was given. -/
def glDevice : Flags := ⟨0x1⟩
/-- A Direct3D 10 device was given. -/
def d3d10Device : Flags := ⟨0x2⟩
/-- Devices that are not present may be named. -/
def offlineDevices : Flags := ⟨0x4⟩
/-- The client synchronises with the adapter itself. -/
def interopUserSync : Flags := ⟨0x8⟩
/-- A Direct3D 11 device was given. -/
def d3d11Device : Flags := ⟨0x10⟩
/-- A Direct3D 9 adapter was given. -/
def d3d9Device : Flags := ⟨0x20⟩
/-- A Direct3D 9Ex adapter was given. -/
def d3d9ExDevice : Flags := ⟨0x40⟩
/-- A DXVA adapter was given. -/
def d3d9VaDevice : Flags := ⟨0x80⟩
/-- The graphics display is an EGL display. -/
def eglDevice : Flags := ⟨0x100⟩

/-- The Direct3D 9 family. -/
def d3d9Any : Flags := d3d9Device ∪ d3d9ExDevice ∪ d3d9VaDevice

/-- The flags for which devices are bound to an adapter. -/
def adapters : Flags := glDevice ∪ d3d10Device ∪ d3d11Device ∪ d3d9Any

end Flags

/-- The place of an adapter's handle in the handle table. -/
inductive Slot
  | gl
  | d3d10
  | d3d11
  | d3d9
  | d3d9Ex
  | d3d9Va
deriving DecidableEq, Repr

namespace Slot

/-- Every slot, in table order. -/
def all : List Slot := [gl, d3d10, d3d11, d3d9, d3d9Ex, d3d9Va]

/-- The slot's position in the table. -/
def index : Slot → Nat
  | gl => 0
  | d3d10 => 1
  | d3d11 => 2
  | d3d9 => 3
  | d3d9Ex => 4
  | d3d9Va => 5

/-- The flag that says the slot is filled. -/
def flag : Slot → Flags
  | gl => .glDevice
  | d3d10 => .d3d10Device
  | d3d11 => .d3d11Device
  | d3d9 => .d3d9Device
  | d3d9Ex => .d3d9ExDevice
  | d3d9Va => .d3d9VaDevice

end Slot

/-! ### Handles and requests -/

/-- A handle owned by an external API. -/
structure Handle where
  bits : UInt64
deriving DecidableEq, Repr, Inhabited

namespace Handle

/-- The handle that stands for nothing. -/
def null : Handle := ⟨0⟩

/-- The handle with the bits of a property value. -/
def ofWord (w : Int64) : Handle := ⟨w.toUInt64⟩

/-- The handle as a property value. -/
def word (h : Handle) : Int64 := h.bits.toInt64

/-- The handle stands for nothing. -/
def isNull (h : Handle) : Bool := h.bits == 0

/-- The handle as text. -/
def hex (h : Handle) : String := Text.hex h.bits

end Handle

/-- One handle for each slot. -/
structure HandleTable where
  gl : Handle
  d3d10 : Handle
  d3d11 : Handle
  d3d9 : Handle
  d3d9Ex : Handle
  d3d9Va : Handle
deriving DecidableEq, Repr

namespace HandleTable

/-- The table of null handles. -/
def empty : HandleTable := ⟨.null, .null, .null, .null, .null, .null⟩

instance : Inhabited HandleTable := ⟨empty⟩

/-- The handle in a slot. -/
def get (t : HandleTable) : Slot → Handle
  | .gl => t.gl
  | .d3d10 => t.d3d10
  | .d3d11 => t.d3d11
  | .d3d9 => t.d3d9
  | .d3d9Ex => t.d3d9Ex
  | .d3d9Va => t.d3d9Va

/-- The table with one slot replaced. -/
def set (t : HandleTable) (slot : Slot) (h : Handle) : HandleTable :=
  match slot with
  | .gl => { t with gl := h }
  | .d3d10 => { t with d3d10 := h }
  | .d3d11 => { t with d3d11 := h }
  | .d3d9 => { t with d3d9 := h }
  | .d3d9Ex => { t with d3d9Ex := h }
  | .d3d9Va => { t with d3d9Va := h }

/-- The handles in table order. -/
def toList (t : HandleTable) : List Handle := Slot.all.map t.get

theorem get_set (t : HandleTable) (slot other : Slot) (h : Handle) :
    (t.set slot h).get other = if other = slot then h else t.get other := by
  cases slot <;> cases other <;> rfl

end HandleTable

/-- What a device is given when it is bound to an external adapter. -/
structure Request where
  flags : Flags
  handles : HandleTable
  /-- The graphics context shared with the client. -/
  glContext : Handle
deriving DecidableEq

namespace Request

/-- The request of a context that shares nothing. -/
def nothing : Request := ⟨∅, .empty, .null⟩

instance : Inhabited Request := ⟨nothing⟩

/-- Creation has to bind devices to an adapter. -/
def wantsBinding (r : Request) : Bool := r.flags.intersects Flags.adapters

/-- A slot is filled when its handle is not null; the graphics slot also counts as
filled when there is a graphics context. -/
def isFilled (r : Request) (slot : Slot) : Bool :=
  !(r.handles.get slot).isNull || (slot == .gl && !r.glContext.isNull)

/-- Each slot's flag is set exactly when the slot is filled. -/
def isConsistent (r : Request) : Bool :=
  Slot.all.all fun slot => r.isFilled slot == r.flags.contains slot.flag

end Request
end ComputeContext.Interop
