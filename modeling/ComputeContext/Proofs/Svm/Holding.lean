/-
# Regions that a device holds by its calls

A device holds a region when it has given one at the address and was not told
since to free it. That can be read off the calls alone, and a simulated device
then lists the region. A request frees only what it was given on the way: when
it is rolled back, every device that is told to free a region holds it at that
moment (`Svm.allocate_frees_held`), provided that no device takes part twice.
What is freed then lies at an address that a device picked
(`Simulation.mem_picks_of_freed`), so a region at any other address is held as
before.

Key definitions: `Svm.Holds`.
Key theorems: `Svm.Holds.append`, `Simulation.mem_replay_of_holds`,
`Svm.allocate_frees_held`, `Simulation.mem_picks_of_freed`.
-/
import ComputeContext.Proofs.Svm.OneAddress

namespace ComputeContext

namespace Svm

/-- By these calls the device gave a region at the address, and was not told since to free it. -/
def Holds (d : DeviceId) (p : Address) (calls : List Event) : Prop :=
  ∃ before r hint after, calls = before ++ .svmAlloc d r hint (some p) :: after ∧
    .svmFree d p ∉ after

variable {d : DeviceId} {p : Address} {r : Request} {hint answer : Option Address}
  {ds : List DeviceId} {calls more : List Event}

theorem Holds.append (h : Holds d p calls) (hkept : .svmFree d p ∉ more) :
    Holds d p (calls ++ more) := by
  obtain ⟨before, r, hint, after, rfl, hafter⟩ := h
  refine ⟨before, r, hint, after ++ more, ?_, ?_⟩
  · rw [List.append_assoc, List.cons_append]
  · rw [List.mem_append]
    exact fun hfreed => hfreed.elim hafter hkept

theorem Holds.after (h : Holds d p calls) (earlier : List Event) :
    Holds d p (earlier ++ calls) := by
  obtain ⟨before, r, hint, after, rfl, hafter⟩ := h
  exact ⟨earlier ++ before, r, hint, after, (List.append_assoc ..).symm, hafter⟩

theorem holds_of_given (h : .svmAlloc d r hint (some p) ∈ calls) (hkept : .svmFree d p ∉ calls) :
    Holds d p calls := by
  obtain ⟨before, after, rfl⟩ := List.mem_iff_append.mp h
  refine ⟨before, r, hint, after, rfl, fun hfreed => hkept ?_⟩
  exact List.mem_append_right _ (List.mem_cons_of_mem _ hfreed)

/-! ### What is freed one by one -/

theorem mem_placements : (⟨d, p⟩ : Placement) ∈ placements calls ↔
    ∃ r hint, .svmAlloc d r hint (some p) ∈ calls := by
  rw [placements, List.mem_filterMap]
  constructor
  · rintro ⟨e, he, hplaced⟩
    cases e <;> simp only [reduceCtorEq] at hplaced
    case svmAlloc d' r hint answer =>
      obtain ⟨q, rfl, hq⟩ := Option.map_eq_some_iff.mp hplaced
      cases hq
      exact ⟨r, hint, he⟩
  · rintro ⟨r, hint, hgiven⟩
    exact ⟨_, hgiven, rfl⟩

theorem FanOut.placements_sublist (h : FanOut r hint ds calls answer) :
    ((placements calls).map (·.device)).Sublist ds := by
  induction h with
  | done => exact .slnil
  | placed _ ih => exact ih.cons_cons _
  | refused => exact List.nil_sublist _

theorem FanOut.nodup_placements (h : FanOut r hint ds calls answer) (hds : ds.Nodup) :
    (placements calls).Nodup :=
  .of_map _ (h.placements_sublist.nodup hds)

theorem split_at_free {frees front rest : List Event} (hcalls : .svmFree d p ∉ calls)
    (h : calls ++ frees = front ++ .svmFree d p :: rest) :
    ∃ freed, front = calls ++ freed ∧ frees = freed ++ .svmFree d p :: rest := by
  obtain ⟨freed, hfront, hfrees⟩ | ⟨others, hothers, hrest⟩ := List.append_eq_append_iff.mp h
  · exact ⟨freed, hfront, hfrees⟩
  · cases others with
    | nil =>
      rw [List.append_nil] at hothers
      exact ⟨[], by rw [hothers, List.append_nil], hrest.symm⟩
    | cons e others =>
      rw [List.cons_append, List.cons.injEq] at hrest
      rw [hothers, ← hrest.1] at hcalls
      simp at hcalls

theorem not_freed_before {ps : List Placement} (hps : ps.Nodup) {front rest : List Event}
    (h : ps.map Placement.freeing = front ++ .svmFree d p :: rest) :
    ⟨d, p⟩ ∈ ps ∧ .svmFree d p ∉ front := by
  have hinjective : Function.Injective Placement.freeing := by
    rintro ⟨d, p⟩ ⟨d', p'⟩ heq
    cases heq
    rfl
  have hnodup : (front ++ .svmFree d p :: rest).Nodup := h ▸ hps.map hinjective
  constructor
  · have hmem : Placement.freeing ⟨d, p⟩ ∈ ps.map Placement.freeing := by
      rw [h]
      exact List.mem_append_right _ List.mem_cons_self
    exact (List.mem_map_of_injective hinjective).mp hmem
  · intro hbefore
    exact List.disjoint_of_nodup_append hnodup hbefore List.mem_cons_self

theorem FanOut.free_not_mem (h : FanOut r hint ds calls answer) : .svmFree d p ∉ calls := by
  intro hfreed
  cases h.isSvmAlloc _ hfreed

/-- **A request frees only what it was given.** Whatever the devices answer, a device that a request
tells to free a region has given it for that request and was not told before. -/
theorem allocate_frees_held {σ : Type} (b : Backend σ) (policy : FailurePolicy)
    {devices : List DeviceId} (hdistinct : devices.Nodup) (r : Request)
    (preferred : Option DeviceId) (s : σ) {front rest : List Event}
    (h : ((allocate b policy devices r preferred).run s).events =
      front ++ .svmFree d p :: rest) : Holds d p front := by
  by_cases hnil : devices = []
  · rw [hnil, allocate_nil] at h
    simp at h
  obtain ⟨calls, hcalls, hevents⟩ := allocate_trace b policy r preferred s hnil
  have hnodup := hcalls.nodup_placements (nodup_participants hdistinct)
  rw [hevents] at h
  obtain ⟨freed, rfl, hfrees⟩ := split_at_free hcalls.free_not_mem h
  -- Only placements of this request are freed, and each of them once.
  have hgiven : ⟨d, p⟩ ∈ placements calls ∧ .svmFree d p ∉ freed := by
    split_ifs at hfrees with hfailed
    · have hbefore := not_freed_before (List.nodup_reverse.mpr hnodup) hfrees
      rwa [List.mem_reverse] at hbefore
    · simp at hfrees
  obtain ⟨r', hint, hmem⟩ := mem_placements.mp hgiven.1
  exact (holds_of_given hmem hcalls.free_not_mem).append hgiven.2

end Svm

namespace Simulation

open Svm

variable {d : DeviceId} {p : Address} {calls : List Event} {live : List Address}

theorem mem_replay_of_mem (hp : p ∈ live) (hkept : .svmFree d p ∉ calls) :
    p ∈ replay d live calls := by
  induction calls generalizing live with
  | nil => exact hp
  | cons e calls ih =>
    rw [List.mem_cons, not_or] at hkept
    refine ih ?_ hkept.2
    cases e <;> simp only [liveAfter] <;> try exact hp
    case svmAlloc other _ _ answer =>
      split_ifs
      · exact List.mem_append_left _ hp
      · exact hp
    case svmFree other q =>
      split_ifs with hother
      · subst hother
        have hne : p ≠ q := by
          rintro rfl
          exact hkept.1 rfl
        exact List.mem_filter.mpr ⟨hp, by simpa using hne⟩
      · exact hp

/-- A simulated device lists the regions that it holds by its calls. -/
theorem mem_replay_of_holds (h : Holds d p calls) (live : List Address) :
    p ∈ replay d live calls := by
  obtain ⟨before, r, hint, after, rfl, hafter⟩ := h
  rw [replay_append, replay, List.foldl_cons, ← replay]
  refine mem_replay_of_mem ?_ hafter
  simp [liveAfter]

/-- What simulated devices are told to free by a request lies at an address that one of them
picked, and the request has failed under rollback. -/
theorem mem_picks_of_freed {models : DeviceId → Model} (linker : Graphics.Linker)
    (hmocks : ∀ d, (models d).kind ≠ .probe) (policy : FailurePolicy) (devices : List DeviceId)
    (r : Request) (preferred : Option DeviceId) (s : State) :
    let o := (allocate (backend models linker) policy devices r preferred).run s
    .svmFree d p ∈ o.events → o.value = none ∧ policy = .rollback ∧ p ∈ picks o.events := by
  intro o hfreed
  by_cases hnil : devices = []
  · subst hnil
    cases hfreed
  obtain ⟨calls, hcalls, hevents⟩ :=
    allocate_trace (backend models linker) policy r preferred s hnil
  have hhint := (emits_honoursHint_calls linker hmocks).allocate policy devices r preferred s
  have hcalled : ∀ e ∈ calls, e.HonoursHint :=
    fun e he => hhint e (hevents ▸ List.mem_append_left _ he)
  have hundone := (List.mem_append.mp (hevents ▸ hfreed)).resolve_left hcalls.free_not_mem
  split_ifs at hundone with hfailed
  · obtain ⟨q, hq, hfreeing⟩ := List.mem_map.mp hundone
    cases hfreeing
    have hpicked := hcalls.address_mem_picks hcalled q (List.mem_reverse.mp hq)
    refine ⟨hfailed.1, hfailed.2, ?_⟩
    rw [hevents, picks_append]
    exact List.mem_append_left _ hpicked
  · cases hundone

end Simulation
end ComputeContext
