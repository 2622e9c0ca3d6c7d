/-
# The regions that a client holds

Between its calls a client of simulated devices holds regions: those it was
given and has not freed. Whatever it asks for and frees, and whatever the
devices refuse meanwhile, each device that shares memory lists exactly the
held regions it can serve, in the order they were given, and the context's
other devices list none (`Custody.Mirrored`). An answered request adds its
region everywhere at once, a refused one is rolled back, and freeing takes a
region away everywhere, so no region is lost, doubled or left on a part of the
devices. All that is asked of the devices is that an address they pick is not
in use, and of the client that it prefers none but the context's own devices.

Key definitions: `Custody`, `Turn`, `Custody.after`, `Custody.Permits`,
`Custody.Reached`, `Custody.Mirrored`.
Key theorems: `Custody.Mirrored.turn`, `Custody.Reached.mirrored`,
`Custody.lists_what_is_held`.
-/
import ComputeContext.Context
import ComputeContext.Proofs.Roster
import ComputeContext.Proofs.Svm.Rollback

namespace ComputeContext

open Simulation

/-- A region that a client was given, and what it was asked for. -/
structure Region where
  address : Address
  request : Svm.Request
deriving DecidableEq

/-- The region belongs on the device: the device shares memory and can serve the request. -/
def Region.liesOn (inventory : Inventory) (d : DeviceId) (g : Region) : Bool :=
  (inventory d).supportsSvm && Svm.canServe inventory g.request d

/-- A simulated outside, and the regions that a client holds there, the oldest first. -/
structure Custody where
  state : State
  regions : List Region

/-- What can happen to the shared memory of a context. -/
inductive Turn
  | request (r : Svm.Request) (preferred : Option DeviceId)
  | free (p : Address)
  /-- The switches of a device are set, so that it refuses or accepts from here on. -/
  | switch (d : DeviceId) (failsSvm failsBind : Bool)

/-- Sets the switches of a device. -/
def Simulation.State.setSwitches (s : State) (d : DeviceId) (failsSvm failsBind : Bool) : State :=
  (State.onDevice d fun ds => ((), { ds with failsSvm, failsBind })) s |>.2

@[simp] theorem Simulation.State.live_setSwitches (s : State) (d other : DeviceId)
    (failsSvm failsBind : Bool) :
    ((s.setSwitches d failsSvm failsBind).device other).live = (s.device other).live := by
  rw [State.setSwitches, State.onDevice_device]
  split_ifs with h
  · rw [h]
  · rfl

namespace Custody

/-- What the client holds after a turn: one more region if a request was answered, and one less if
it freed one of them. -/
def after (b : Backend State) (c : Context) (k : Custody) : Turn → Custody
  | .request r preferred =>
    let o := (c.svmAlloc b r preferred).run k.state
    ⟨o.state, k.regions ++ (o.value.map (⟨·, r⟩)).toList⟩
  | .free p => ⟨((c.svmFree b p).run k.state).state, k.regions.filter (·.address ≠ p)⟩
  | .switch d failsSvm failsBind => ⟨k.state.setSwitches d failsSvm failsBind, k.regions⟩

/-- The turn is one that the parties allow themselves. A client prefers none but the devices its
context shares memory on, and frees what it holds; a device does not pick an address at which a
region lies. Only the first call of a request goes without a hint, so an address that is picked is
picked while the regions are those before the request. -/
def Permits (b : Backend State) (c : Context) (k : Custody) : Turn → Prop
  | .request r preferred =>
    (∀ d ∈ preferred, d ∈ c.roster.svmDevices) ∧
      ∀ p ∈ picks ((c.svmAlloc b r preferred).run k.state).events,
        ∀ d ∈ c.roster.devices, p ∉ (k.state.device d).live
  | .free p => p ∈ k.regions.map (·.address)
  | .switch _ _ _ => True

instance (b : Backend State) (c : Context) (k : Custody) : (t : Turn) → Decidable (k.Permits b c t)
  | .request _ _ => inferInstanceAs (Decidable (_ ∧ _))
  | .free _ => inferInstanceAs (Decidable (_ ∈ _))
  | .switch _ _ _ => .isTrue trivial

/-- What a client can come to hold, from devices of its context without any region. -/
inductive Reached (b : Backend State) (c : Context) : Custody → Prop
  | start {s : State} : (∀ d ∈ c.roster.devices, (s.device d).live = []) → Reached b c ⟨s, []⟩
  | turn {k : Custody} {t : Turn} : Reached b c k → k.Permits b c t → Reached b c (k.after b c t)

/-- Each device lists the held regions that belong on it, in the order they were given. Every held
region lies on some device, and no two at the same address. -/
structure Mirrored (inventory : Inventory) (devices : List DeviceId) (k : Custody) : Prop where
  live : ∀ d ∈ devices,
    (k.state.device d).live = (k.regions.filter (·.liesOn inventory d)).map (·.address)
  held : ∀ g ∈ k.regions, ∃ d ∈ devices, g.liesOn inventory d = true
  distinct : (k.regions.map (·.address)).Nodup

variable {models : DeviceId → Model} {linker : Graphics.Linker} {devices : List DeviceId}
  {inventory : Inventory} {c : Context} {k : Custody} {r : Svm.Request}
  {preferred : Option DeviceId} {d : DeviceId}

theorem Mirrored.not_held (h : Mirrored inventory devices k) {p : Address}
    (hfresh : ∀ d ∈ devices, p ∉ (k.state.device d).live) : p ∉ k.regions.map (·.address) := by
  intro hp
  obtain ⟨g, hg, rfl⟩ := List.mem_map.mp hp
  obtain ⟨d, hd, hlies⟩ := h.held g hg
  apply hfresh d hd
  rw [h.live d hd]
  exact List.mem_map_of_mem (List.mem_filter.mpr ⟨hg, hlies⟩)

theorem devices_eq (hroster : c.roster = .ofList inventory devices) :
    c.roster.devices = devices := by
  rw [hroster, Roster.ofList]

theorem mem_svmDevices_iff (hroster : c.roster = .ofList inventory devices) :
    d ∈ c.roster.svmDevices ↔ d ∈ devices ∧ (inventory d).supportsSvm = true := by
  rw [hroster, Roster.mem_svmDevices_ofList]

/-- A device takes part in a request exactly if the region is to lie on it. -/
theorem mem_participants_iff_liesOn (hroster : c.roster = .ofList inventory devices)
    (hpreferred : ∀ d ∈ preferred, d ∈ c.roster.svmDevices) (hd : d ∈ devices) (p : Address) :
    d ∈ Svm.participants inventory c.roster.svmDevices r preferred ↔
      (⟨p, r⟩ : Region).liesOn inventory d = true := by
  have hshares : d ∈ c.roster.svmDevices ↔ (inventory d).supportsSvm = true := by
    rw [mem_svmDevices_iff hroster, and_iff_right hd]
  have hlisted : preferred = some d ∨ d ∈ c.roster.svmDevices ↔ d ∈ c.roster.svmDevices :=
    or_iff_right_of_imp (hpreferred d)
  rw [Svm.mem_participants, hlisted, hshares, Region.liesOn, Bool.and_eq_true]

theorem mem_of_mem_participants (hroster : c.roster = .ofList inventory devices)
    (hpreferred : ∀ d ∈ preferred, d ∈ c.roster.svmDevices)
    (hd : d ∈ Svm.participants inventory c.roster.svmDevices r preferred) : d ∈ devices := by
  have hlisted : d ∈ c.roster.svmDevices :=
    (Svm.mem_participants.mp hd).1.elim (hpreferred d) id
  exact ((mem_svmDevices_iff hroster).mp hlisted).1

section Turns

variable (hmocks : ∀ d, (models d).kind ≠ .probe) (hdistinct : devices.Nodup)
  (hroster : c.roster = .ofList (backend models linker).inventory devices)
include hmocks hdistinct hroster

theorem live_answered (hpreferred : ∀ d ∈ preferred, d ∈ c.roster.svmDevices) (s : State)
    {p : Address} (hd : d ∈ devices) :
    let b := backend models linker
    let o := (c.svmAlloc b r preferred).run s
    o.value = some p → (o.state.device d).live = (s.device d).live ++
      if (⟨p, r⟩ : Region).liesOn b.inventory d then [p] else [] := by
  intro b o hp
  have hnodup : (Svm.participants b.inventory c.roster.svmDevices r preferred).Nodup := by
    apply Svm.nodup_participants
    rw [hroster]
    exact Roster.nodup_svmDevices_ofList _ hdistinct
  have hmem := mem_participants_iff_liesOn (r := r) hroster hpreferred hd p
  refine (live_allocate linker hmocks _ _ r preferred s p d hp).trans ?_
  rw [hnodup.count, if_congr hmem rfl rfl]
  split_ifs <;> rfl

/-- After an answered request the new region lies where it is to lie, and nowhere at the address of
another one. -/
theorem Mirrored.answered (h : Mirrored (backend models linker).inventory devices k)
    (hpermits : k.Permits (backend models linker) c (.request r preferred)) {p : Address}
    (hp : ((c.svmAlloc (backend models linker) r preferred).run k.state).value = some p) :
    Mirrored (backend models linker).inventory devices
      ⟨((c.svmAlloc (backend models linker) r preferred).run k.state).state,
        k.regions ++ [⟨p, r⟩]⟩ where
  live d hd := by
    rw [live_answered hmocks hdistinct hroster hpermits.1 k.state hd hp, h.live d hd,
      List.filter_append, List.map_append]
    by_cases hlies : (⟨p, r⟩ : Region).liesOn (backend models linker).inventory d = true
    · simp [hlies]
    · simp [hlies]
  held g hg := by
    rcases List.mem_append.mp hg with hg | hg
    · exact h.held g hg
    · rw [List.mem_singleton.mp hg]
      have hfan := (allocate_fans_out_of_answer linker hmocks _ _ r preferred k.state p hp).1
      obtain ⟨d, hpart⟩ := hfan.exists_mem
      have hd := mem_of_mem_participants hroster hpermits.1 hpart
      exact ⟨d, hd, (mem_participants_iff_liesOn hroster hpermits.1 hd p).mp hpart⟩
  distinct := by
    have hpicked := mem_picks_of_answer linker hmocks _ _ r preferred k.state p hp
    have hfresh : ∀ d ∈ devices, p ∉ (k.state.device d).live := by
      rw [← devices_eq hroster]
      exact hpermits.2 p hpicked
    rw [List.map_append, List.map_singleton, List.nodup_append]
    refine ⟨h.distinct, List.nodup_singleton p, fun a ha b hb => ?_⟩
    have hbp : b = p := List.mem_singleton.mp hb
    rintro rfl
    exact h.not_held hfresh (hbp ▸ ha)

omit hdistinct in
theorem Mirrored.refused (hpolicy : c.settings.svmFailurePolicy = .rollback)
    (h : Mirrored (backend models linker).inventory devices k)
    (hpermits : k.Permits (backend models linker) c (.request r preferred))
    (hnone : ((c.svmAlloc (backend models linker) r preferred).run k.state).value = none) :
    Mirrored (backend models linker).inventory devices
      ⟨((c.svmAlloc (backend models linker) r preferred).run k.state).state, k.regions⟩ where
  live d hd := by
    have hfresh := fun p hp => hpermits.2 p hp d (devices_eq hroster ▸ hd)
    unfold Context.svmAlloc at hnone hfresh ⊢
    rw [hpolicy] at hnone hfresh ⊢
    rw [Svm.live_refused_allocate linker hmocks _ r preferred k.state d hnone hfresh]
    exact h.live d hd
  held := h.held
  distinct := h.distinct

omit hmocks hdistinct in
/-- Freeing an address takes the region there away from every device, and touches no other. -/
theorem Mirrored.freed (h : Mirrored (backend models linker).inventory devices k) (p : Address) :
    Mirrored (backend models linker).inventory devices (k.after (backend models linker) c (.free p))
    where
  live d hd := by
    have hreplay := (replays_calls models linker).free p c.roster.svmDevices k.state d
    rw [Svm.free_events, replay_freeing, h.live d hd, List.filter_map] at hreplay
    refine hreplay.trans ?_
    rw [List.filter_filter, after, List.filter_filter]
    congr 1
    apply List.filter_congr
    intro g hg
    by_cases hlies : g.liesOn (backend models linker).inventory d = true
    · have hshares : d ∈ c.roster.svmDevices :=
        (mem_svmDevices_iff hroster).mpr ⟨hd, (Bool.and_eq_true_iff.mp hlies).1⟩
      simp [hlies, hshares, eq_comm (a := p)]
    · simp [hlies]
  held g hg := h.held g (List.mem_of_mem_filter hg)
  distinct := h.distinct.sublist (List.filter_sublist.map _)

/-- Whatever turn is taken, the devices list what the client holds. -/
theorem Mirrored.turn (hpolicy : c.settings.svmFailurePolicy = .rollback) {t : Turn}
    (h : Mirrored (backend models linker).inventory devices k)
    (hpermits : k.Permits (backend models linker) c t) :
    Mirrored (backend models linker).inventory devices (k.after (backend models linker) c t) := by
  cases t with
  | request r preferred =>
    rw [after]
    cases hanswer : ((c.svmAlloc (backend models linker) r preferred).run k.state).value with
    | some p => exact h.answered hmocks hdistinct hroster hpermits hanswer
    | none =>
      rw [Option.map_none, Option.toList_none, List.append_nil]
      exact h.refused hmocks hroster hpolicy hpermits hanswer
  | free p => exact h.freed hroster p
  | switch d failsSvm failsBind =>
    exact ⟨fun other hother => by rw [after, State.live_setSwitches, h.live other hother], h.held,
      h.distinct⟩

/-- The devices list what the client holds, whatever has happened. -/
theorem Reached.mirrored (hpolicy : c.settings.svmFailurePolicy = .rollback)
    (h : Reached (backend models linker) c k) :
    Mirrored (backend models linker).inventory devices k := by
  induction h with
  | start hempty =>
    exact ⟨fun d hd => hempty d (devices_eq hroster ▸ hd), nofun, List.nodup_nil⟩
  | turn _ hpermits ih => exact ih.turn hmocks hdistinct hroster hpolicy hpermits

end Turns

/-- **Devices list exactly what the client holds.** A context over distinct simulated devices rolls
back refused requests. Then after any turns, each device that shares memory lists the regions the
client holds and the device can serve, in the order they were given; the other devices list none,
and no address is that of two held regions. -/
theorem lists_what_is_held (models : DeviceId → Model) (linker : Graphics.Linker)
    (hmocks : ∀ d, (models d).kind ≠ .probe) (devices : List DeviceId) (hdistinct : devices.Nodup)
    (c : Context) (hroster : c.roster = .ofList (backend models linker).inventory devices)
    (hpolicy : c.settings.svmFailurePolicy = .rollback) (k : Custody)
    (hreached : Reached (backend models linker) c k) :
    (∀ d ∈ devices, (models d).device.supportsSvm = true → (k.state.device d).live =
      (k.regions.filter fun g => !g.request.needsAtomics || (models d).device.supportsSvmAtomics).map
        (·.address)) ∧
    (∀ d ∈ devices, (models d).device.supportsSvm = false → (k.state.device d).live = []) ∧
    (k.regions.map (·.address)).Nodup := by
  have h := hreached.mirrored hmocks hdistinct hroster hpolicy
  have hlive : ∀ d ∈ devices, (k.state.device d).live = (k.regions.filter fun g =>
      (models d).device.supportsSvm && (!g.request.needsAtomics ||
        (models d).device.supportsSvmAtomics)).map (·.address) := h.live
  refine ⟨fun d hd hshares => ?_, fun d hd hshares => ?_, h.distinct⟩
  · simpa only [hshares, Bool.true_and] using hlive d hd
  · simpa only [hshares, Bool.false_and, List.filter_false, List.map_nil] using hlive d hd

/-- Two devices with atomics and two without, one of these sharing no memory. One region is asked of
all three, one only of those with atomics, a third is refused by the last of them and rolled back,
and the first is freed again. -/
theorem atomics_region_kept :
    let models : DeviceId → Model := fun d =>
      ⟨⟨"gpu", ⟨[1, 9, 0, 9].getD d.index 0⟩, 0⟩, false, .plain, false⟩
    let b := backend models ⟨[]⟩
    let p : Blueprint := { Blueprint.ofPlatform ⟨0⟩ with devices := [⟨0⟩, ⟨1⟩, ⟨2⟩, ⟨3⟩] }
    let c := p.build b.inventory .nothing
    let k₀ : Custody := ⟨.start (fun _ => .start false false) (fun _ => []) [], []⟩
    let k₁ := k₀.after b c (.request ⟨64, 0, .readWrite⟩ none)
    let k₂ := k₁.after b c (.request ⟨64, 0, .atomics⟩ (some ⟨3⟩))
    let k₃ := k₂.after b c (.switch ⟨3⟩ true false)
    let k₄ := k₃.after b c (.request ⟨64, 0, .readWrite⟩ (some ⟨1⟩))
    let k₅ := k₄.after b c (.free ⟨0x100010000, by decide⟩)
    (k₅.regions.map (·.address.word) = [0x400010000] ∧ k₄.regions.length = 2) ∧
      (k₅.state.device ⟨0⟩).live = [] ∧ (k₅.state.device ⟨2⟩).live = [] ∧
      (k₅.state.device ⟨1⟩).live = (k₅.state.device ⟨3⟩).live ∧
      (k₅.state.device ⟨1⟩).live.map (·.word) = [0x400010000] := by
  intro models b p c k₀ k₁ k₂ k₃ k₄ k₅
  have h₀ : Reached b c k₀ := .start fun _ _ => rfl
  have h₁ : Reached b c k₁ := h₀.turn (by decide +kernel)
  have h₂ : Reached b c k₂ := h₁.turn (by decide +kernel)
  have h₃ : Reached b c k₃ := h₂.turn (by decide +kernel)
  have h₄ : Reached b c k₄ := h₃.turn (by decide +kernel)
  have h₅ : Reached b c k₅ := h₄.turn (by decide +kernel)
  obtain ⟨hshared, hothers, -⟩ := lists_what_is_held models ⟨[]⟩ (fun _ => nofun)
    [⟨0⟩, ⟨1⟩, ⟨2⟩, ⟨3⟩] (by decide) c rfl rfl k₅ h₅
  refine ⟨by decide +kernel, ?_, hothers ⟨2⟩ (by decide) (by decide), ?_, ?_⟩
  · rw [hshared ⟨0⟩ (by decide) (by decide)]
    decide +kernel
  · rw [hshared ⟨1⟩ (by decide) (by decide), hshared ⟨3⟩ (by decide) (by decide)]
    rfl
  · rw [hshared ⟨1⟩ (by decide) (by decide)]
    decide +kernel

end Custody
end ComputeContext
