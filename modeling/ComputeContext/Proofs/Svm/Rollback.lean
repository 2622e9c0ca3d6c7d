/-
# A failed request is all or nothing

When a request fails under the policy to roll back, exactly the regions that
its devices gave are freed, each on the device that gave it at the address it
gave, the last one first. Otherwise nothing is freed: not when the request is
answered, and not under the policy to leak. On simulated devices none of which
had such a region before, all lists are then as they were.

Key theorems: `Svm.frees_allocate`, `Svm.failed_allocate_leaves_nothing`.
-/
import ComputeContext.Proofs.Svm.OneAddress

namespace ComputeContext.Svm

open Simulation

/-- What an allocation frees: all it placed, in reverse, if it fails and the policy is to roll
back, and nothing otherwise. -/
theorem frees_allocate {σ : Type} (b : Backend σ) (policy : FailurePolicy) (devices : List DeviceId)
    (r : Request) (preferred : Option DeviceId) (s : σ) :
    let o := (allocate b policy devices r preferred).run s
    frees o.events =
      if o.value = none ∧ policy = .rollback then (placements o.events).reverse else [] := by
  intro o
  by_cases hnil : devices = []
  · simp [o, hnil, allocate_nil, frees, placements]
  · obtain ⟨calls, hcalls, hevents⟩ := allocate_trace b policy r preferred s hnil
    rw [hevents, frees_append, frees_asking hcalls.isSvmAlloc, frees_freeing, placements_append,
      placements_freeing, List.append_nil, List.nil_append]

/-- Freeing a device's part of what was placed undoes the placing, if no address of it was there
before. -/
theorem replay_placed_freed (d : DeviceId) {calls : List Event} (live : List Address)
    (hcalls : ∀ e ∈ calls, e.isSvmAlloc = true)
    (hfresh : ∀ q ∈ placements calls, q.device = d → q.address ∉ live) :
    replay d live (calls ++ (placements calls).reverse.map Placement.freeing) = live := by
  rw [replay_append, replay_asking d calls live hcalls, replay_freeing, List.filter_append]
  have hold : live.filter (fun a => ⟨d, a⟩ ∉ (placements calls).reverse) = live := by
    rw [List.filter_eq_self]
    intro a ha
    simp only [List.mem_reverse, decide_eq_true_eq]
    exact fun hq => hfresh _ hq rfl ha
  have hnew : (((placements calls).filter (·.device = d)).map (·.address)).filter
      (fun a => ⟨d, a⟩ ∉ (placements calls).reverse) = [] := by
    rw [List.filter_eq_nil_iff]
    intro a ha
    obtain ⟨q, hq, rfl⟩ := List.mem_map.mp ha
    obtain ⟨hmem, hd⟩ := List.mem_filter.mp hq
    have : q.device = d := by simpa using hd
    simpa [← this] using hmem
  rw [hold, hnew, List.append_nil]

theorem live_of_refused {models : DeviceId → Model} (linker : Graphics.Linker)
    (devices : List DeviceId) (r : Request) (preferred : Option DeviceId) (s : State)
    (d : DeviceId) :
    let o := (allocate (backend models linker) .rollback devices r preferred).run s
    o.value = none →
      (∀ q ∈ placements o.events, q.device = d → q.address ∉ (s.device d).live) →
      (o.state.device d).live = (s.device d).live := by
  intro o hfail hfresh
  by_cases hnil : devices = []
  · simp [o, hnil, allocate_nil]
  obtain ⟨calls, hcalls, hevents⟩ :=
    allocate_trace (backend models linker) .rollback r preferred s hnil
  rw [if_pos ⟨hfail, rfl⟩] at hevents
  rw [hevents, placements_append, placements_freeing, List.append_nil] at hfresh
  rw [(replays_calls models linker).allocate .rollback devices r preferred s d, hevents]
  exact replay_placed_freed d _ hcalls.isSvmAlloc hfresh

/-- A refused request that is rolled back leaves a device with the regions it had, if no address
that was picked on the way is the address of one of them. -/
theorem live_refused_allocate {models : DeviceId → Model} (linker : Graphics.Linker)
    (hmocks : ∀ d, (models d).kind ≠ .probe) (devices : List DeviceId) (r : Request)
    (preferred : Option DeviceId) (s : State) (d : DeviceId) :
    let o := (allocate (backend models linker) .rollback devices r preferred).run s
    o.value = none → (∀ p ∈ picks o.events, p ∉ (s.device d).live) →
      (o.state.device d).live = (s.device d).live := by
  intro o hfail hfresh
  by_cases hnil : devices = []
  · simp [o, hnil, allocate_nil]
  obtain ⟨calls, hcalls, hevents⟩ :=
    allocate_trace (backend models linker) .rollback r preferred s hnil
  have hhint := (emits_honoursHint_calls linker hmocks).allocate .rollback devices r preferred s
  have hcalled : ∀ e ∈ calls, e ∈ o.events := fun e he => hevents ▸ List.mem_append_left _ he
  apply live_of_refused linker devices r preferred s d hfail
  intro q hq _
  apply hfresh
  rw [hevents, placements_append, placements_freeing, List.append_nil] at hq
  rw [hevents, picks_append, picks_freeing, List.append_nil]
  exact hcalls.address_mem_picks (fun e he => hhint e (hcalled e he)) q hq

/-- **A failed request leaves nothing behind.** Whatever the devices answer, a request frees its
placements in reverse if it fails under rollback, and nothing otherwise. So simulated devices that
did not have the placed addresses before are left with the regions they had. -/
theorem failed_allocate_leaves_nothing :
    (∀ {σ : Type} (b : Backend σ) (policy : FailurePolicy) (devices : List DeviceId) (r : Request)
      (preferred : Option DeviceId) (s : σ),
      let o := (allocate b policy devices r preferred).run s
      frees o.events =
        if o.value = none ∧ policy = .rollback then (placements o.events).reverse else []) ∧
    (∀ (models : DeviceId → Model) (linker : Graphics.Linker) (devices : List DeviceId)
      (r : Request) (preferred : Option DeviceId) (s : State),
      let o := (allocate (backend models linker) .rollback devices r preferred).run s
      o.value = none → (∀ q ∈ placements o.events, q.address ∉ (s.device q.device).live) →
        ∀ d, (o.state.device d).live = (s.device d).live) := by
  constructor
  · exact frees_allocate
  · intro models linker devices r preferred s o hfail hfresh d
    by_cases hnil : devices = []
    · simp [o, hnil, allocate_nil]
    · obtain ⟨calls, hcalls, hevents⟩ :=
        allocate_trace (backend models linker) .rollback r preferred s hnil
      have hasks := hcalls.isSvmAlloc
      rw [if_pos ⟨hfail, rfl⟩] at hevents
      rw [hevents, placements_append, placements_freeing, List.append_nil] at hfresh
      rw [(replays_calls models linker).allocate .rollback devices r preferred s d, hevents]
      exact replay_placed_freed d _ hasks fun q hq hd => hd ▸ hfresh q hq

/-- Three devices, of which the preferred second one is asked first and the third one refuses. -/
theorem third_device_refuses :
    let models : DeviceId → Model := fun _ =>
      ⟨⟨"gpu", Capabilities.coarseGrainBuffer, 0⟩, false, .plain, false⟩
    let s := State.start (fun d => .start (d.index = 2) false) (fun _ => []) []
    let o := (allocate (backend models ⟨[]⟩) .rollback [⟨0⟩, ⟨1⟩, ⟨2⟩] ⟨64, 256, Access.readWrite⟩
      (some ⟨1⟩)).run s
    o.value = none ∧ (placements o.events).map (·.device) = [⟨1⟩, ⟨0⟩] ∧
      frees o.events = (placements o.events).reverse ∧
      ∀ d, (o.state.device d).live = (s.device d).live := by
  intro models s
  have hfail : ((allocate (backend models ⟨[]⟩) .rollback [⟨0⟩, ⟨1⟩, ⟨2⟩]
      ⟨64, 256, Access.readWrite⟩ (some ⟨1⟩)).run s).value = none := by decide +kernel
  have hfrees := failed_allocate_leaves_nothing.1 (backend models ⟨[]⟩) .rollback
    [⟨0⟩, ⟨1⟩, ⟨2⟩] ⟨64, 256, Access.readWrite⟩ (some ⟨1⟩) s
  have hlive := failed_allocate_leaves_nothing.2 models ⟨[]⟩ [⟨0⟩, ⟨1⟩, ⟨2⟩]
    ⟨64, 256, Access.readWrite⟩ (some ⟨1⟩) s hfail (by decide +kernel)
  exact ⟨hfail, by decide +kernel, hfrees.trans (if_pos ⟨hfail, rfl⟩), hlive⟩

end ComputeContext.Svm
