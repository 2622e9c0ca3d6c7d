/-
# The device that is asked first

A device whose coherence does not cover all of the system's memory puts the
strictest requirement on a region, and the allocation order has such a device
at its front if there is one. The order is made once, for all requests, and
each request passes over the devices that cannot serve it. So without a
preferred device the first one asked is the first of the order that can serve
the request (`Svm.head?_asked_allocate`), and this is the strictest device
unless the request needs atomics which that device does not have. Then the
next one in order is asked first, and no second look is taken for a strict
one.

Key definitions: `Svm.asked`, `Blueprint.strictest?`.
Key theorems: `Svm.head?_asked_allocate`, `Context.strictest_asked_first`.
-/
import ComputeContext.Proofs.Context.SharedMemory
import ComputeContext.Simulation.World

namespace ComputeContext

variable {σ : Type}

namespace Svm

/-- The devices that were asked for a region, in order. -/
def asked (events : List Event) : List DeviceId :=
  events.filterMap fun
    | .svmAlloc d _ _ _ => some d
    | _ => none

@[simp] theorem asked_append (es fs : List Event) : asked (es ++ fs) = asked es ++ asked fs :=
  List.filterMap_append

@[simp] theorem asked_freeing (ps : List Placement) : asked (ps.map Placement.freeing) = [] := by
  simp [asked, Placement.freeing]

theorem FanOut.head?_asked {r : Request} {hint answer : Option Address} {ds : List DeviceId}
    {calls : List Event} (h : FanOut r hint ds calls answer) : (asked calls).head? = ds.head? := by
  cases h <;> rfl

/-- Without a preferred device, the listed device asked first is the first that can serve the
request. -/
theorem head?_asked_allocate (b : Backend σ) (policy : FailurePolicy) (devices : List DeviceId)
    (r : Request) (s : σ) :
    (asked ((allocate b policy devices r none).run s).events).head? =
      devices.find? (canServe b.inventory r) := by
  by_cases hnil : devices = []
  · subst hnil
    rfl
  · obtain ⟨calls, hcalls, hevents⟩ := allocate_trace b policy r none s hnil
    rw [hevents, asked_append, asked_freeing, List.append_nil, hcalls.head?_asked,
      head?_participants]
    rfl

end Svm

/-- The first listed device that shares memory and whose coherence does not cover all of the
system's memory. -/
def Blueprint.strictest? (p : Blueprint) (inventory : Inventory) : Option DeviceId :=
  p.devices.find? fun d => (inventory d).supportsSvm && !(inventory d).isFineGrainedSystem

namespace Blueprint

variable {p : Blueprint} {inventory : Inventory} {d : DeviceId}

theorem isFineGrainedSystem_of_strictest (h : p.strictest? inventory = some d) :
    (inventory d).isFineGrainedSystem = false := by
  have hfound := List.find?_some h
  rw [Bool.and_eq_true, Bool.not_eq_true'] at hfound
  exact hfound.2

theorem exists_strictest (hd : p.SharesMemoryOn inventory d)
    (hstrict : (inventory d).isFineGrainedSystem = false) :
    ∃ d', p.strictest? inventory = some d' := by
  rw [← Option.isSome_iff_exists, strictest?, List.find?_isSome]
  exact ⟨d, hd.1, by rw [hd.2, hstrict]; rfl⟩

end Blueprint

namespace Context

/-- **The strictest device is asked first, unless it is passed over.** Without a preferred device
the first one asked is the first in allocation order that can serve the request. If a device without
fine-grained system memory takes part, this is the first of the list, provided that it has atomics
when the request needs them. -/
theorem strictest_asked_first (b : Backend σ) (p : Blueprint) (a : Agreement) (r : Svm.Request)
    (s : σ) :
    let c := p.build b.inventory a
    let first? := (Svm.asked ((c.svmAlloc b r none).run s).events).head?
    first? = c.roster.svmDevices.find? (Svm.canServe b.inventory r) ∧
      ((∃ d, p.SharesMemoryOn b.inventory d ∧ Svm.canServe b.inventory r d = true ∧
          (b.inventory d).isFineGrainedSystem = false) →
        (r.needsAtomics = true → ∀ d, p.strictest? b.inventory = some d →
          (b.inventory d).supportsSvmAtomics = true) →
        ∃ d, first? = some d ∧ p.strictest? b.inventory = some d ∧
          (b.inventory d).isFineGrainedSystem = false) := by
  intro c first?
  have hfirst : first? = c.roster.svmDevices.find? (Svm.canServe b.inventory r) :=
    Svm.head?_asked_allocate b _ _ r s
  refine ⟨hfirst, ?_⟩
  rintro ⟨d, hshares, -, hstrict⟩ hatomics
  obtain ⟨front, hfront⟩ := Blueprint.exists_strictest hshares hstrict
  have hserves : Svm.canServe b.inventory r front = true := by
    unfold Svm.canServe
    cases hneeds : r.needsAtomics with
    | false => rfl
    | true => exact hatomics hneeds front hfront
  have hhead : c.roster.svmDevices.head? = some front :=
    Roster.head?_svmDevices_ofList b.inventory p.devices hfront
  obtain ⟨rest, horder⟩ := List.head?_eq_some_iff.mp hhead
  have hasked : first? = some front := by
    rw [hfirst, horder, List.find?_cons_of_pos hserves]
  exact ⟨front, hasked, hfront, Blueprint.isFineGrainedSystem_of_strictest hfront⟩

/-- Both devices have atomics, and the second one lacks fine-grained system memory: it is asked
first for a region with atomics. -/
theorem strictest_asked_first_for_atomics :
    let models : DeviceId → Simulation.Model := fun d =>
      ⟨⟨"gpu", ⟨[15, 9].getD d.index 0⟩, 0⟩, false, .plain, false⟩
    let b := Simulation.backend models ⟨[]⟩
    let p : Blueprint := { Blueprint.ofPlatform ⟨0⟩ with devices := [⟨0⟩, ⟨1⟩] }
    let c := p.build b.inventory .nothing
    let s := Simulation.State.start (fun _ => .start false false) (fun _ => []) []
    ∃ d, (Svm.asked ((c.svmAlloc b ⟨64, 0, .atomics⟩ none).run s).events).head? = some d ∧
      p.strictest? b.inventory = some d ∧ (b.inventory d).isFineGrainedSystem = false := by
  intro models b p c s
  obtain ⟨-, hstrictest⟩ := strictest_asked_first b p .nothing ⟨64, 0, .atomics⟩ s
  refine hstrictest ⟨⟨1⟩, ⟨by decide, by decide⟩, by decide, by decide⟩ fun _ d hd => ?_
  have hfound : p.strictest? b.inventory = some ⟨1⟩ := by decide
  cases hfound.symm.trans hd
  decide

/-- The strictest device leads the order and has no atomics. A region with atomics is asked of the
second device first, although the third one, which takes part as well, is stricter. -/
theorem strictest_passed_over :
    let models : DeviceId → Simulation.Model := fun d =>
      ⟨⟨"gpu", ⟨[1, 15, 9].getD d.index 0⟩, 0⟩, false, .plain, false⟩
    let b := Simulation.backend models ⟨[]⟩
    let p : Blueprint := { Blueprint.ofPlatform ⟨0⟩ with devices := [⟨0⟩, ⟨1⟩, ⟨2⟩] }
    let c := p.build b.inventory .nothing
    let s := Simulation.State.start (fun _ => .start false false) (fun _ => []) []
    let r : Svm.Request := ⟨64, 0, .atomics⟩
    Svm.asked ((c.svmAlloc b r none).run s).events = [⟨1⟩, ⟨2⟩] ∧
      (∃ d, p.SharesMemoryOn b.inventory d ∧ Svm.canServe b.inventory r d = true ∧
        (b.inventory d).isFineGrainedSystem = false) ∧
      (b.inventory ⟨1⟩).isFineGrainedSystem = true := by
  intro models b p c s r
  exact ⟨by decide +kernel, ⟨⟨2⟩, ⟨by decide, by decide⟩, by decide, by decide⟩, by decide⟩

end Context
end ComputeContext
