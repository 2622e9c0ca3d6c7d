/-
# A simulated outside

A simulated device hands out addresses of its own and touches no memory. Its
switches make it refuse shared regions or bindings. Its n-th fresh address is
its base plus n strides, rounded up to the alignment; the bases of different
devices are far apart. A hinted address is taken as it is. A probe is a device
whose next addresses are dictated from outside; a bare device has no part in
host memory.

The outside is such devices, loaders that do as they are told, a dynamic
linker over a list of libraries, and a heap. The heap never hands out an
address twice, nor one that a client has made up.

Key definitions: `Simulation.Model`, `Simulation.DeviceState`,
`Simulation.freshWord`, `Simulation.State`, `Simulation.backend`,
`Simulation.LoaderScript`.
Key theorem: `State.not_mem_reserved`.
-/
import ComputeContext.Backend

namespace ComputeContext.Simulation

/-! ### Simulated devices -/

/-- The part a simulated device plays. -/
inductive Kind
  | plain
  /-- Its calls are recorded with their arguments, and its next addresses may be dictated. -/
  | probe
  /-- It has no part in host memory. -/
  | bare
deriving DecidableEq, Repr

/-- What a simulated device is. -/
structure Model where
  info : DeviceInfo
  /-- It allocates host memory, unless it is bare. -/
  hostAllocator : Bool
  kind : Kind
  /-- Its calls are recorded by name. -/
  logged : Bool
deriving DecidableEq

/-- What the device reports. -/
def Model.device (m : Model) : Device :=
  { m.info with hasHostAllocator := m.hostAllocator && m.kind != .bare }

/-- What changes about a simulated device. -/
structure DeviceState where
  /-- It refuses shared regions. -/
  failsSvm : Bool
  /-- It refuses bindings. -/
  failsBind : Bool
  /-- How many fresh addresses it has handed out. -/
  issued : UInt64
  /-- The shared regions on it, the oldest first. -/
  live : List Address
deriving DecidableEq

/-- A device that has handed out nothing yet. -/
def DeviceState.start (failsSvm failsBind : Bool) : DeviceState := ⟨failsSvm, failsBind, 0, []⟩

instance : Inhabited DeviceState := ⟨.start false false⟩

/-- The distance between the bases of neighbouring devices. -/
def baseStride : UInt64 := 0x100000000

/-- The distance between neighbouring addresses of one device. -/
def addressStride : UInt64 := 0x10000

/-- The least multiple of the alignment that is not below the word; zero and one do not align. -/
def roundUp (w alignment : UInt64) : UInt64 :=
  if alignment ≤ 1 ∨ w % alignment = 0 then w else w + (alignment - w % alignment)

/-- The n-th fresh address of a device. -/
def freshWord (d : DeviceId) (n alignment : UInt64) : UInt64 :=
  roundUp (UInt64.ofNat (d.index + 1) * baseStride + n * addressStride) alignment

namespace DeviceState

/-- Hands out a fresh address. -/
def fresh (d : DeviceId) (alignment : UInt64) : StateM DeviceState (Option Address) := fun s =>
  let n := s.issued + 1
  (Address.ofWord? (freshWord d n alignment), { s with issued := n })

/-- The address of a new region: the hint, or a fresh one. -/
def choose (d : DeviceId) (alignment : UInt64) : Option Address → StateM DeviceState (Option Address)
  | some p => pure (some p)
  | none => fresh d alignment

/-- Answers a request for a shared region. -/
def svmAlloc (d : DeviceId) (alignment : UInt64) (hint : Option Address) :
    StateM DeviceState (Option Address) := fun s =>
  if s.failsSvm then (none, s)
  else
    let (p?, s) := choose d alignment hint s
    (p?, { s with live := s.live ++ p?.toList })

/-- Frees a shared region, as often as it is in the list. -/
def svmFree (p : Address) : StateM DeviceState Unit := fun s =>
  ((), { s with live := s.live.filter (· ≠ p) })

/-- Answers a request for a host block. -/
def hostAlloc (d : DeviceId) (allocates : Bool) (alignment : UInt64) :
    StateM DeviceState (Option Address) :=
  if allocates then fresh d alignment else pure none

/-- Answers a request for a binding. -/
def bind : StateM DeviceState Bool := fun s => (!s.failsBind, s)

end DeviceState

/-! ### The outside -/

/-- What a client's loader does. -/
inductive LoaderScript
  /-- It loads libraries that accept or refuse every handshake. -/
  | loads (accepts : Bool)
  /-- It loads nothing. -/
  | fails (cause : Graphics.LoadError)
deriving DecidableEq, Repr

/-- What is behind a loaded library. -/
inductive LoadedLibrary
  | scripted (accepts : Bool)
  | entryPoints (e : Graphics.EntryPoints)
deriving DecidableEq, Repr

/-- The state of the simulated outside. -/
structure State where
  device : DeviceId → DeviceState
  /-- The addresses dictated for the next shared regions of probes; none leaves one to the probe. -/
  dictated : DeviceId → List (Option Address)
  /-- The clients' loaders, by their numbers. -/
  loaders : List LoaderScript
  /-- The libraries that are loaded, by their identities. -/
  libraries : List (Nat × LoadedLibrary)
  /-- How many libraries have been loaded. -/
  issuedLibraries : Nat
  /-- What is current on the calling thread. -/
  current : Graphics.Current
  /-- Where the heap's free part begins. -/
  heapTop : UInt64
  /-- Addresses that clients make up. No block of the heap starts at one of them. -/
  reserved : List Address

namespace State

/-- Where the heap starts: far from every address a device hands out. -/
def heapBase : UInt64 := 0x4000000000000000

/-- Sizes and alignments from here on are more than the heap has. -/
def heapBound : UInt64 := 0x800000000000

/-- The outside before anything happens. -/
def start (device : DeviceId → DeviceState) (dictated : DeviceId → List (Option Address))
    (reserved : List Address) : State :=
  ⟨device, dictated, [], [], 0, .nothing, heapBase, reserved⟩

/-- Lets one device act. -/
def onDevice {α : Type} (d : DeviceId) (act : StateM DeviceState α) : StateM State α := fun s =>
  let (a, ds) := act (s.device d)
  (a, { s with device := fun other => if other = d then ds else s.device other })

@[simp] theorem onDevice_answer {α : Type} (d : DeviceId) (act : StateM DeviceState α) (s : State) :
    (onDevice d act s).1 = (act (s.device d)).1 := rfl

@[simp] theorem onDevice_device {α : Type} (d other : DeviceId) (act : StateM DeviceState α)
    (s : State) :
    (onDevice d act s).2.device other =
      if other = d then (act (s.device d)).2 else s.device other := rfl

/-- Takes the next address dictated for a device, if there is one. -/
def nextDictated (d : DeviceId) : StateM State (Option Address) := fun s =>
  ((s.dictated d).head?.join,
    { s with dictated := fun other => if other = d then (s.dictated d).tail else s.dictated other })

/-- Answers a request for a shared region. A dictated address takes the place of the hint. -/
def svmAlloc (kind : Kind) (d : DeviceId) (alignment : UInt64) (hint : Option Address) :
    StateM State (Option Address) :=
  if kind = .probe then do
    let dictated ← nextDictated d
    onDevice d (DeviceState.svmAlloc d alignment (dictated <|> hint))
  else onDevice d (DeviceState.svmAlloc d alignment hint)

/-- Adds a client's loader. -/
def addLoader (script : LoaderScript) (s : State) : Graphics.Loader × State :=
  (.custom s.loaders.length, { s with loaders := s.loaders ++ [script] })

/-- The script of the client's loader with this number. -/
def scriptOf (s : State) (id : Nat) : LoaderScript :=
  s.loaders.getD id (.fails (.unavailable "" "no such loader"))

/-- What is behind a library. -/
def library? (s : State) (l : Graphics.Library) : Option LoadedLibrary := s.libraries.lookup l.id

/-- Adds a library. -/
def addLibrary (loader : Graphics.Loader) (api : Graphics.Api) (l : LoadedLibrary) :
    StateM State Graphics.Library := fun s =>
  let id := s.issuedLibraries
  (⟨id, api, loader⟩, { s with libraries := (id, l) :: s.libraries, issuedLibraries := id + 1 })

/-- Loads a library, if the loader has it. -/
def load (linker : Graphics.Linker) (loader : Graphics.Loader) (api : Graphics.Api) :
    StateM State (Graphics.LoadError ⊕ Graphics.Library) := fun s =>
  match loader with
  | .custom id =>
    match s.scriptOf id with
    | .loads accepts => (.inr <$> addLibrary loader api (.scripted accepts)) s
    | .fails cause => (.inl cause, s)
  | .dynamic name =>
    match Graphics.EntryPoints.resolve linker name api with
    | .ok e => (.inr <$> addLibrary loader api (.entryPoints e)) s
    | .error cause => (.inl cause, s)

/-- Replaces what is behind a library. -/
def setLibrary (s : State) (l : Graphics.Library) (loaded : LoadedLibrary) : State :=
  { s with libraries := s.libraries.map fun x => if x.1 = l.id then (x.1, loaded) else x }

/-- Answers a handshake. -/
def handshake (l : Graphics.Library) (display context : Interop.Handle) : StateM State Bool :=
  fun s =>
    match s.library? l with
    | some (.scripted accepts) => (accepts, s)
    | some (.entryPoints e) =>
      let e := e.remember display context
      (e.isCurrent s.current, s.setLibrary l (.entryPoints e))
    | none => (false, s)

/-- Drops a library. -/
def release (l : Graphics.Library) : StateM State Unit := fun s =>
  ((), { s with libraries := s.libraries.filter (·.1 ≠ l.id) })

/-- Where the next block starts: at the first multiple of the alignment in the free part that is
not reserved. One more place than there are reserved addresses is enough to find it. -/
def nextBlock? (s : State) (alignment : UInt64) : Option Address :=
  let first := roundUp s.heapTop alignment
  let places := (List.range (s.reserved.length + 1)).map fun i => first + UInt64.ofNat i * alignment
  (places.filterMap Address.ofWord?).find? (· ∉ s.reserved)

/-- Hands out a block of the heap. -/
def heapAlloc (layout : Layout) : StateM State (Option Address) := fun s =>
  if layout.size ≥ heapBound ∨ layout.alignment ≥ heapBound then (none, s)
  else
    match s.nextBlock? layout.alignment with
    | some p => (some p, { s with heapTop := p.word + max layout.size 1 })
    | none => (none, s)

theorem not_mem_reserved {s : State} {alignment : UInt64} {p : Address}
    (h : s.nextBlock? alignment = some p) : p ∉ s.reserved := by
  simpa using List.find?_some h

end State

/-- The backend of the simulated outside. -/
def backend (models : DeviceId → Model) (linker : Graphics.Linker) : Backend State where
  inventory d := (models d).device
  answerSvmAlloc d r hint := State.svmAlloc (models d).kind d r.alignment hint
  answerSvmFree d p := State.onDevice d (DeviceState.svmFree p)
  answerHostAlloc d _ alignment _ :=
    State.onDevice d (DeviceState.hostAlloc d (models d).device.hasHostAllocator alignment)
  answerHostFree _ _ := pure ()
  answerBind d _ _ := State.onDevice d DeviceState.bind
  answerUnbind _ _ _ := pure ()
  answerDestroy _ := pure ()
  answerLoad := State.load linker
  answerHandshake := State.handshake
  answerRelease := State.release
  answerHeapAlloc := State.heapAlloc
  answerHeapFree _ _ := pure ()

end ComputeContext.Simulation
