/-
# What a context calls

A context calls its devices, a graphics loader and the libraries it loads, and
the process heap. A backend is all of them: it says what the devices report,
and for each call what the answer is and how the outside changes. Nothing is
asked of the answers, so a backend may answer the same call differently each
time.

Every call is recorded as an event with its arguments and its answer. An
address of a block or region is a word other than zero, so "no block" needs no
address of its own. The process heap hands out blocks of a size and an
alignment: the alignment is a power of two, and the size, rounded up to it,
must not pass the largest signed word.

Key definitions: `Address`, `Layout`, `Event`, `Backend`, `Run`, and one
computation for each call, from `Backend.svmAlloc` to `Backend.heapFree`.
-/
import ComputeContext.Act
import ComputeContext.Device
import ComputeContext.Graphics.Api

namespace ComputeContext

/-! ### Addresses -/

/-- Where a block or region starts; never zero. -/
structure Address where
  word : UInt64
  word_ne_zero : word ≠ 0
deriving DecidableEq

namespace Address

/-- The address a word stands for; zero stands for none. -/
def ofWord? (w : UInt64) : Option Address :=
  if h : w ≠ 0 then some ⟨w, h⟩ else none

/-- The address as text. -/
def hex (a : Address) : String := Text.hex a.word

/-- The address is a multiple of the alignment. -/
def AlignedTo (a : Address) (alignment : UInt64) : Prop := alignment.toNat ∣ a.word.toNat

instance (a : Address) (alignment : UInt64) : Decidable (a.AlignedTo alignment) :=
  inferInstanceAs (Decidable (_ ∣ _))

/-- The order of addresses, no address being below every address. -/
def compareOptional : Option Address → Option Address → Ordering
  | none, none => .eq
  | none, some _ => .lt
  | some _, none => .gt
  | some a, some b => compare a.word b.word

theorem ofWord?_word (a : Address) : ofWord? a.word = some a := by
  simp [ofWord?, a.word_ne_zero]

/-- A word gives an address exactly when it is not zero, and then it is the address's word. -/
theorem ofWord?_eq_some_iff {w : UInt64} {a : Address} : ofWord? w = some a ↔ a.word = w := by
  refine ⟨fun h => ?_, fun h => h ▸ ofWord?_word a⟩
  by_cases hw : w = 0
  · simp [ofWord?, hw] at h
  · simp only [ofWord?, ne_eq, hw, not_false_eq_true, ↓reduceDIte, Option.some.injEq] at h
    exact h ▸ rfl

end Address

/-! ### Layouts of host blocks -/

/-- Size and alignment of a block of the process heap. -/
structure Layout where
  size : UInt64
  alignment : UInt64
deriving DecidableEq, Repr

namespace Layout

/-- Exactly one bit of the word is set. -/
def isPowerOfTwo (w : UInt64) : Bool := w != 0 && w &&& (w - 1) == 0

/-- The largest signed word. -/
def largestSize : Nat := 0x7fffffffffffffff

/-- The layout of this size and alignment, if there is one. -/
def of? (size alignment : UInt64) : Option Layout :=
  if isPowerOfTwo alignment ∧ size.toNat + (alignment.toNat - 1) ≤ largestSize then
    some ⟨size, alignment⟩
  else none

/-- The least alignment of a block that nobody asked to be aligned: that of a word. -/
def wordAlignment : UInt64 := 8

/-- The layout of a block of this size, aligned at least to a word. -/
def ofRequest? (size alignment : UInt64) : Option Layout := of? size (max alignment wordAlignment)

end Layout

/-! ### Calls -/

/-- A call with its arguments and its answer. -/
inductive Event
  /-- A device was asked for a shared region, at the hinted address if there is a hint. -/
  | svmAlloc (device : DeviceId) (request : Svm.Request) (hint answer : Option Address)
  /-- A device was told to free a shared region. -/
  | svmFree (device : DeviceId) (address : Address)
  /-- A device was asked for a host block. -/
  | hostAlloc (device : DeviceId) (size alignment : UInt64) (segment : Segment)
      (answer : Option Address)
  /-- A device was told to free a host block. -/
  | hostFree (device : DeviceId) (address : Address)
  /-- A device was asked to bind itself to external adapters. -/
  | bind (device : DeviceId) (request : Interop.Request) (validateOnly accepted : Bool)
  /-- A device was told to undo a binding. -/
  | unbind (device : DeviceId) (request : Interop.Request) (validateOnly : Bool)
  /-- A device was told that a context that holds it goes away. -/
  | destroy (device : DeviceId)
  /-- A loader was asked for a library. -/
  | load (loader : Graphics.Loader) (api : Graphics.Api)
      (answer : Graphics.LoadError ⊕ Graphics.Library)
  /-- A library was asked whether the client's graphics context is current. -/
  | handshake (library : Graphics.Library) (display context : Interop.Handle) (current : Bool)
  /-- A library was dropped. -/
  | release (library : Graphics.Library)
  /-- The heap was asked for a block. -/
  | heapAlloc (layout : Layout) (answer : Option Address)
  /-- A block was given back to the heap. -/
  | heapFree (layout : Layout) (address : Address)
deriving DecidableEq

/-- Everything a context calls, with `σ` its state. -/
structure Backend (σ : Type) where
  /-- What the devices report. -/
  inventory : Inventory
  answerSvmAlloc : DeviceId → Svm.Request → Option Address → StateM σ (Option Address)
  answerSvmFree : DeviceId → Address → StateM σ Unit
  answerHostAlloc : DeviceId → UInt64 → UInt64 → Segment → StateM σ (Option Address)
  answerHostFree : DeviceId → Address → StateM σ Unit
  answerBind : DeviceId → Interop.Request → Bool → StateM σ Bool
  answerUnbind : DeviceId → Interop.Request → Bool → StateM σ Unit
  answerDestroy : DeviceId → StateM σ Unit
  answerLoad : Graphics.Loader → Graphics.Api → StateM σ (Graphics.LoadError ⊕ Graphics.Library)
  answerHandshake : Graphics.Library → Interop.Handle → Interop.Handle → StateM σ Bool
  answerRelease : Graphics.Library → StateM σ Unit
  answerHeapAlloc : Layout → StateM σ (Option Address)
  answerHeapFree : Layout → Address → StateM σ Unit

/-- A computation that makes calls. -/
abbrev Run (σ α : Type) := Act Event σ α

namespace Backend

variable {σ : Type} (b : Backend σ)

/-- Asks a device for a shared region. -/
def svmAlloc (d : DeviceId) (r : Svm.Request) (hint : Option Address) : Run σ (Option Address) :=
  .call (b.answerSvmAlloc d r hint) (.svmAlloc d r hint)

/-- Tells a device to free a shared region. -/
def svmFree (d : DeviceId) (p : Address) : Run σ Unit :=
  .call (b.answerSvmFree d p) fun _ => .svmFree d p

/-- Asks a device for a host block. -/
def hostAlloc (d : DeviceId) (size alignment : UInt64) (segment : Segment) :
    Run σ (Option Address) :=
  .call (b.answerHostAlloc d size alignment segment) (.hostAlloc d size alignment segment)

/-- Tells a device to free a host block. -/
def hostFree (d : DeviceId) (p : Address) : Run σ Unit :=
  .call (b.answerHostFree d p) fun _ => .hostFree d p

/-- Asks a device to bind itself to external adapters, or only whether it could. -/
def bind (d : DeviceId) (r : Interop.Request) (validateOnly : Bool) : Run σ Bool :=
  .call (b.answerBind d r validateOnly) (.bind d r validateOnly)

/-- Tells a device to undo a binding. -/
def unbind (d : DeviceId) (r : Interop.Request) (validateOnly : Bool) : Run σ Unit :=
  .call (b.answerUnbind d r validateOnly) fun _ => .unbind d r validateOnly

/-- Tells a device that a context that holds it goes away. -/
def destroy (d : DeviceId) : Run σ Unit := .call (b.answerDestroy d) fun _ => .destroy d

/-- Asks a loader for a library. -/
def load (l : Graphics.Loader) (api : Graphics.Api) :
    Run σ (Graphics.LoadError ⊕ Graphics.Library) :=
  .call (b.answerLoad l api) (.load l api)

/-- Asks a library whether the client's graphics context is current. -/
def handshake (l : Graphics.Library) (display context : Interop.Handle) : Run σ Bool :=
  .call (b.answerHandshake l display context) (.handshake l display context)

/-- Drops a library. -/
def release (l : Graphics.Library) : Run σ Unit := .call (b.answerRelease l) fun _ => .release l

/-- Asks the heap for a block. -/
def heapAlloc (layout : Layout) : Run σ (Option Address) :=
  .call (b.answerHeapAlloc layout) (.heapAlloc layout)

/-- Gives a block back to the heap. -/
def heapFree (layout : Layout) (p : Address) : Run σ Unit :=
  .call (b.answerHeapFree layout p) fun _ => .heapFree layout p

end Backend
end ComputeContext
