/-
# Contexts

A context binds a client to a fixed list of devices under an agreement. It
holds what the client was given: the copy of its property list, the bindings,
the shared graphics library, host blocks and queues. A blueprint is a context
to be: a platform, devices, settings, and a loader if the client brings one.

Creation goes in stages, and a stage that fails leaves what the stages before
it did: first the property list is copied, then devices are bound, then the
graphics library is loaded. So creation can be tried again, and does not
repeat what has been done.

Closing goes through the devices in their order, unbinds each one that is
bound and tells it that the context goes away; a device listed twice is told
twice. After that the heap's blocks are given back and the graphics library is
dropped.

Key definitions: `Context`, `Blueprint`, `Blueprint.build`, `Context.create`,
`Context.close`, `Blueprint.create`.
-/
import ComputeContext.Host.Pool
import ComputeContext.Interop.Bindings
import ComputeContext.Property.Negotiation
import ComputeContext.QueueLedger
import ComputeContext.Svm.Allocation

namespace ComputeContext

/-- A context. -/
structure Context where
  roster : Roster
  agreement : Agreement
  settings : Settings
  /-- Where the graphics library comes from. -/
  loader : Graphics.Loader
  host : HostPool
  bindings : Bindings
  queues : QueueLedger
  /-- The copy of the client's list, the terminating zero included. -/
  properties : Option (List Word)
  /-- The shared graphics library. -/
  graphics : Option Graphics.Library

/-- A context to be. -/
structure Blueprint where
  platform : PlatformId
  devices : List DeviceId
  settings : Settings
  /-- The client's own loader. -/
  loader : Option Graphics.Loader

namespace Blueprint

/-- A blueprint without devices, under the standard settings. -/
def ofPlatform (platform : PlatformId) : Blueprint := ⟨platform, [], .standard, none⟩

/-- The loader of the context to be: the client's own, or the dynamic linker with the library of the
settings. -/
def loaderToUse (p : Blueprint) : Graphics.Loader :=
  p.loader.getD (.dynamic p.settings.glLibrary)

/-- The context under an agreement. It is not created yet: nothing is bound or copied. -/
def build (inventory : Inventory) (p : Blueprint) (agreement : Agreement) : Context :=
  let roster := Roster.ofList inventory p.devices
  { roster
    agreement
    settings := p.settings
    loader := p.loaderToUse
    host := .ofProvider roster.hostAllocator
    bindings := .empty
    queues := .empty
    properties := none
    graphics := none }

end Blueprint

namespace Context

variable {σ : Type}

/-- The context shares a graphics library. -/
def sharesGraphics (c : Context) : Bool := c.graphics.isSome

/-! ### Memory -/

/-- Allocates a region on the context's shared memory devices, a preferred one first. -/
def svmAlloc (b : Backend σ) (c : Context) (r : Svm.Request) (preferred : Option DeviceId) :
    Run σ (Option Address) :=
  Svm.allocate b c.settings.svmFailurePolicy c.roster.svmDevices r preferred

/-- Frees a region on the context's shared memory devices. -/
def svmFree (b : Backend σ) (c : Context) (p : Address) : Run σ Unit :=
  Svm.free b p c.roster.svmDevices

/-- A host block. -/
def hostAlloc (b : Backend σ) (c : Context) (size alignment : UInt64) (atomics : Bool) :
    Run σ (Option Address × Context) := do
  let (p, host) ← c.host.allocate b size alignment atomics
  return (p, { c with host })

/-- Frees a host block. -/
def hostFree (b : Backend σ) (c : Context) (p : Address) : Run σ Context := do
  return { c with host := ← c.host.free b p }

/-! ### Queues -/

/-- Another queue fits on a device. -/
def canAddQueue (inventory : Inventory) (c : Context) (d : DeviceId) : Bool :=
  c.queues.canAdd inventory d

/-- Records a new queue. -/
def addQueue (c : Context) (d : DeviceId) (queue : QueueId) (isDefault : Bool) : Context :=
  { c with queues := c.queues.add d queue isDefault }

/-- Forgets a queue. -/
def removeQueue (c : Context) (d : DeviceId) (queue : QueueId) :
    Except QueueUnderflow Unit × Context :=
  let (result, queues) := c.queues.remove d queue
  (result, { c with queues })

/-- The default queue of a device. -/
def defaultQueue (c : Context) (d : DeviceId) : Option QueueId := c.queues.defaultQueue d

end Context

/-! ### Creating and closing -/

variable {σ : Type}

namespace Context

/-- The list given at creation is shorter than the one that was negotiated. -/
structure ShortList where
  length : Nat
  needed : Nat
deriving DecidableEq, Repr

/-- The shortage as a failure. -/
def ShortList.toError (s : ShortList) : Error :=
  .invalidValue ("property list has " ++ toString s.length ++ " words, negotiated size needs " ++
    toString s.needed)

/-- First stage: keeps a copy of the negotiated words, if there is a list and copies are kept. -/
def keepProperties (c : Context) (words? : Option (List Word)) : Except ShortList Context :=
  match words? with
  | none => .ok c
  | some words =>
    if !c.settings.keepPropertyCopy then .ok c
    else if words.length < c.agreement.listWords then
      .error ⟨words.length, c.agreement.listWords⟩
    else .ok { c with properties := some (words.take c.agreement.listWords) }

/-- Second stage: binds the devices that are not bound. -/
def bindDevices (b : Backend σ) (c : Context) : Run σ (Except Error Unit × Context) := do
  let (result, bindings) ← c.bindings.bindAll b c.roster.devices c.agreement.toRequest
  return (result.mapError (·.toError), { c with bindings })

/-- Third stage: shares the client's graphics context if one was agreed on and none is shared. -/
def shareGraphics (b : Backend σ) (c : Context) : Run σ (Except Error Unit × Context) := do
  if c.agreement.flags.contains Interop.Flags.glDevice && c.graphics.isNone then
    match ← Graphics.share b c.agreement.toRequest c.loader with
    | .error failure => return (.error failure.toError, c)
    | .ok library => return (.ok (), { c with graphics := some library })
  else return (.ok (), c)

/-- Creates the context, with the list its agreement was negotiated from. -/
def create (b : Backend σ) (c : Context) (words? : Option (List Word)) :
    Run σ (Except Error Unit × Context) := do
  match c.keepProperties words? with
  | .error short => return (.error short.toError, c)
  | .ok c =>
    match ← c.bindDevices b with
    | (.error e, c) => return (.error e, c)
    | (.ok (), c) => c.shareGraphics b

/-- Takes leave of devices, in their order. -/
def leave (b : Backend σ) (r : Interop.Request) (bindings : Bindings) :
    List DeviceId → Run σ Bindings
  | [] => pure bindings
  | d :: ds => do
    let bindings ← if r.wantsBinding then Prod.snd <$> bindings.unbind b d r else pure bindings
    b.destroy d
    leave b r bindings ds

/-- Ends the context. -/
def close (b : Backend σ) (c : Context) : Run σ Unit := do
  discard (leave b c.agreement.toRequest c.bindings c.roster.devices)
  c.host.close b
  match c.graphics with
  | some library => b.release library
  | none => pure ()

end Context

/-- Negotiates, builds and creates a context. When the list is refused nothing is called; when
creation fails the context is closed again. -/
def Blueprint.create (b : Backend σ) (p : Blueprint) (words? : Option (List Word)) :
    Run σ (Except Error Context) := do
  match Property.negotiateWords p.platform words? with
  | .error e => return .error e
  | .ok agreement =>
    match ← (p.build b.inventory agreement).create b words? with
    | (.ok (), c) => return .ok c
    | (.error e, c) =>
      c.close b
      return .error e

end ComputeContext
