/-
# Sessions at a simulated outside

Calls are recorded in three logs. Devices record the name of each call, probes
its arguments too, and clients' loaders and their libraries what they are
asked. A bare device does not see calls about host memory. Calls are also
counted per device.

A session is what a client holds: one of each part that can be used on its
own, contexts under names, and names for the addresses it was given. It goes
in steps, and its history is kept with the events of the current step apart.
It ends by closing its contexts in the order of their names. Then the roster
goes, the host blocks, the graphics library and the bindings.

Key definitions: `Simulation.eventText?`, `Simulation.callText?`,
`Simulation.CallCounts`, `Simulation.Session`, `Session.call`,
`Session.finishStep`, `Session.close`.
-/
import ComputeContext.Context
import ComputeContext.Simulation.World

namespace ComputeContext.Simulation

/-! ### What is recorded -/

/-- The device a call goes to, if it goes to one. -/
def receiver? : Event → Option DeviceId
  | .svmAlloc d .. | .svmFree d .. | .hostAlloc d .. | .hostFree d .. | .bind d ..
  | .unbind d .. | .destroy d => some d
  | .load .. | .handshake .. | .release .. | .heapAlloc .. | .heapFree .. => none

/-- The call is about host memory of a device. -/
def isHostCall : Event → Bool
  | .hostAlloc .. | .hostFree .. => true
  | _ => false

/-- The device that sees a call: its receiver, unless that is bare and the call about host
memory. -/
def observer? (models : DeviceId → Model) (e : Event) : Option DeviceId :=
  (receiver? e).filter fun d => !((models d).kind == .bare && isHostCall e)

/-- The name of a device's call. -/
def callName? : Event → Option String
  | .svmAlloc .. => some "svm_alloc"
  | .svmFree .. => some "svm_free"
  | .hostAlloc _ _ _ .atomics _ => some "host_alloc_atomics"
  | .hostAlloc _ _ _ .noAtomics _ => some "host_alloc"
  | .hostFree .. => some "host_free"
  | .bind .. => some "bind"
  | .unbind .. => some "unbind"
  | .destroy .. => some "destroy"
  | _ => none

/-- What a device records by name. -/
def eventText? (models : DeviceId → Model) (e : Event) : Option String := do
  let d ← observer? models e
  let name ← callName? e
  if (models d).logged then some ((models d).info.name ++ ":" ++ name) else none

/-- The text of a flag that is yes or no. -/
def flagText (b : Bool) : String := if b then "true" else "false"

/-- The text of an address that may be missing. -/
def hintText : Option Address → String
  | some p => p.hex
  | none => "none"

/-- The text of a segment. -/
def segmentText : Segment → String
  | .atomics => "Atomics"
  | .noAtomics => "NoAtomics"

/-- The text of an interop request and its validate-only flag. -/
def requestText (r : Interop.Request) (validateOnly : Bool) : String :=
  "(flags=" ++ Text.hexOfNat r.flags.bits.toNat ++ ", handles=[" ++
    " ".intercalate (r.handles.toList.map (·.hex)) ++ "], context=" ++ r.glContext.hex ++
    ", validate=" ++ flagText validateOnly ++ ")"

/-- A device's call with its arguments. That a context goes away is not recorded this way. -/
def argumentText? : Event → Option String
  | .svmAlloc _ r hint _ =>
    some ("svm_alloc(size=" ++ toString r.size.toNat ++ ", align=" ++ toString r.alignment.toNat ++
      ", flags=" ++ Text.hexOfNat r.access.bits.toNat ++ ", hint=" ++ hintText hint ++ ")")
  | .svmFree _ p => some ("svm_free(" ++ p.hex ++ ")")
  | .hostAlloc _ size alignment segment _ =>
    some ("host_alloc(size=" ++ toString size.toNat ++ ", align=" ++ toString alignment.toNat ++
      ", segment=" ++ segmentText segment ++ ")")
  | .hostFree _ p => some ("host_free(" ++ p.hex ++ ")")
  | .bind _ r validateOnly _ => some ("bind" ++ requestText r validateOnly)
  | .unbind _ r validateOnly => some ("unbind" ++ requestText r validateOnly)
  | _ => none

/-- What a probe records with arguments. -/
def callText? (models : DeviceId → Model) (e : Event) : Option String := do
  let d ← observer? models e
  let text ← argumentText? e
  if (models d).kind == .probe then some ((models d).info.name ++ "." ++ text) else none

/-- A client brought the loader. -/
def isCustom : Graphics.Loader → Bool
  | .custom _ => true
  | .dynamic _ => false

/-- What a client's loader and its libraries record. -/
def graphicsText? : Event → Option String
  | .load loader api _ => if isCustom loader then some ("load " ++ api.text) else none
  | .handshake l display context _ =>
    if isCustom l.loader then
      some ("init display=" ++ display.hex ++ " context=" ++ context.hex)
    else none
  | .release l => if isCustom l.loader then some "drop" else none
  | _ => none

/-- How often a device was called. -/
structure CallCounts where
  bind : Nat
  unbind : Nat
  destroy : Nat
  svmAlloc : Nat
  svmFree : Nat
  hostAlloc : Nat
  hostFree : Nat
deriving DecidableEq, Repr

/-- The counts with one more call. -/
def CallCounts.add (c : CallCounts) : Event → CallCounts
  | .bind .. => { c with bind := c.bind + 1 }
  | .unbind .. => { c with unbind := c.unbind + 1 }
  | .destroy .. => { c with destroy := c.destroy + 1 }
  | .svmAlloc .. => { c with svmAlloc := c.svmAlloc + 1 }
  | .svmFree .. => { c with svmFree := c.svmFree + 1 }
  | .hostAlloc .. => { c with hostAlloc := c.hostAlloc + 1 }
  | .hostFree .. => { c with hostFree := c.hostFree + 1 }
  | _ => c

/-- How often a device saw each call in a history. -/
def CallCounts.ofEvents (models : DeviceId → Model) (d : DeviceId) (events : List Event) :
    CallCounts :=
  (events.filter fun e => observer? models e == some d).foldl CallCounts.add ⟨0, 0, 0, 0, 0, 0, 0⟩

/-- The counts in the order they are listed. -/
def CallCounts.toList (c : CallCounts) : List Nat :=
  [c.bind, c.unbind, c.destroy, c.svmAlloc, c.svmFree, c.hostAlloc, c.hostFree]

/-! ### Sessions -/

/-- A simulated device before its first call. -/
structure DeviceSetup where
  model : Model
  state : DeviceState
  /-- The addresses dictated for its next shared regions. -/
  dictated : List (Option Address)
deriving DecidableEq

/-- What a client holds at a simulated outside. -/
structure Session where
  platform : PlatformId
  models : List Model
  linker : Graphics.Linker
  state : State
  /-- The events of the steps before the current one. -/
  past : List Event
  /-- The events of the current step. -/
  recent : List Event
  roster : Option Roster
  bindings : Bindings
  policy : Svm.FailurePolicy
  queues : QueueLedger
  host : Option HostPool
  library : Option Graphics.Library
  /-- The contexts, in the order of their names. -/
  contexts : List (String × Context)
  /-- Names of shared regions, the newest first. -/
  regions : List (String × Address)
  /-- Names of host blocks, the newest first. -/
  blocks : List (String × Address)

namespace Session

/-- A session before its first step, whose client will make up the reserved addresses. -/
def start (platform : PlatformId) (linker : Graphics.Linker) (devices : List DeviceSetup)
    (reserved : List Address) : Session where
  platform
  linker
  models := devices.map (·.model)
  state :=
    .start (fun d => (devices.map (·.state)).getD d.index default)
      (fun d => (devices.map (·.dictated)).getD d.index []) reserved
  past := []
  recent := []
  roster := none
  bindings := .empty
  policy := default
  queues := .empty
  host := none
  library := none
  contexts := []
  regions := []
  blocks := []

/-- A device that was not set up: it shares no memory and records nothing. -/
def absent : Model := ⟨⟨"", ∅, 0⟩, false, .plain, false⟩

/-- What a device of the session is. -/
def model (s : Session) (d : DeviceId) : Model := s.models.getD d.index absent

/-- The outside of the session. -/
def outside (s : Session) : Backend State := backend s.model s.linker

/-- All events so far. -/
def history (s : Session) : List Event := s.past ++ s.recent

/-- Runs calls in the current step. -/
def call {α : Type} (f : Backend State → Run State α) : StateM Session α := fun s =>
  let o := (f s.outside).run s.state
  (o.value, { s with state := o.state, recent := s.recent ++ o.events })

/-! ### Contexts under names -/

/-- The context of a name. -/
def context? (s : Session) (name : String) : Option Context := s.contexts.lookup name

/-- Puts a context under its name into a list in the order of names. -/
def insertByName (name : String) (c : Context) : List (String × Context) → List (String × Context)
  | [] => [(name, c)]
  | (n, old) :: rest =>
    if name = n then (name, c) :: rest
    else if name < n then (name, c) :: (n, old) :: rest
    else (n, old) :: insertByName name c rest

/-- The session with the context of a name replaced. -/
def putContext (s : Session) (name : String) (c : Context) : Session :=
  { s with contexts := insertByName name c s.contexts }

/-- Keeps a new context under a name and closes an older one of that name. -/
def storeContext (name : String) (c : Context) : StateM Session Unit := do
  let older := (← get).context? name
  modify (·.putContext name c)
  match older with
  | some o => call o.close
  | none => pure ()

/-- Closes the context of a name, and tells whether there was one. -/
def dropContext (name : String) : StateM Session Bool := do
  match (← get).context? name with
  | none => return false
  | some c =>
    modify fun s => { s with contexts := s.contexts.filter (·.1 ≠ name) }
    call c.close
    return true

/-! ### Parts on their own -/

/-- Gives all host blocks back, and tells whether there was a pool. -/
def closeHost : StateM Session Bool := do
  match (← get).host with
  | none => return false
  | some pool =>
    modify fun s => { s with host := none }
    call pool.close
    return true

/-- Drops the graphics library, and tells whether there was one. -/
def dropLibrary : StateM Session Bool := do
  match (← get).library with
  | none => return false
  | some l =>
    modify fun s => { s with library := none }
    call (·.release l)
    return true

/-! ### What can be seen -/

/-- Something of the session holds on to the device. Queues and shared regions do not. -/
def holds (s : Session) (d : DeviceId) : Bool :=
  s.roster.any (·.contains d) || s.contexts.any (·.2.roster.contains d) || s.bindings.isBound d ||
    s.host.any (·.provider == some d)

/-- What can be seen of a device. -/
structure DeviceReport where
  name : String
  calls : CallCounts
  /-- The shared regions on it, the oldest first. -/
  live : List Address
  held : Bool
deriving DecidableEq

/-- What can be seen of the session's devices. -/
def reports (s : Session) : List DeviceReport :=
  (List.range s.models.length).map fun i =>
    let d : DeviceId := ⟨i⟩
    { name := (s.model d).info.name
      calls := CallCounts.ofEvents s.model d s.history
      live := (s.state.device d).live
      held := s.holds d }

/-- What the devices have recorded by name. -/
def eventTexts (s : Session) : List String := s.history.filterMap (eventText? s.model)

/-- What a step adds to the logs. -/
structure Gain where
  events : List String
  calls : List String
  graphics : List String
deriving DecidableEq, Repr

/-- Ends the current step, and tells what it has added to the logs. -/
def finishStep : StateM Session Gain := fun s =>
  ({ events := s.recent.filterMap (eventText? s.model)
     calls := s.recent.filterMap (callText? s.model)
     graphics := s.recent.filterMap graphicsText? },
    { s with past := s.history, recent := [] })

/-- Ends the session. -/
def close : StateM Session Unit := do
  (← get).contexts.forM fun (_, c) => call c.close
  modify fun s => { s with contexts := [], roster := none }
  discard closeHost
  discard dropLibrary
  modify fun s => { s with bindings := .empty }

end Session
end ComputeContext.Simulation
