/-
# When a region lies at one address

A region is meant to lie at one address on all devices that take part in its
request. Each of them gives it once, and is hinted at the address of the one
before it; the answer is the address of the last. Nobody compares the
addresses, so the region lies at the answer everywhere exactly if every device
kept to its hint. A device that went elsewhere still holds its region when the
answer is freed, and no later call can name it.

Key theorems: `Svm.FanOut.honoursHint_of_placements`,
`Svm.mirrored_iff_hints_kept`, `Svm.region_torn_by_probe`.
-/
import ComputeContext.Proofs.Svm.Holding

namespace ComputeContext.Svm

variable {r : Request} {hint answer : Option Address} {ds : List DeviceId} {calls : List Event}
  {p : Address}

theorem placements_cons_given (d : DeviceId) (q : Address) :
    placements (.svmAlloc d r hint (some q) :: calls) = ⟨d, q⟩ :: placements calls := rfl

theorem FanOut.placements_device (h : FanOut r hint ds calls answer) :
    answer = some p → (placements calls).map (·.device) = ds := by
  induction h with
  | done => exact fun _ => rfl
  | placed _ ih =>
    intro ha
    rw [placements_cons_given, List.map_cons, ih ha]
  | refused => intro ha; cases ha

theorem FanOut.answer_eq_last (h : FanOut r hint ds calls answer) :
    answer = some p → ((placements calls).getLast?.map (·.address)).or hint = some p := by
  induction h with
  | done => exact id
  | @placed _ _ q d ds calls _ ih =>
    intro ha
    have hlast := ih ha
    rw [placements_cons_given]
    cases hrest : placements calls with
    | nil => rwa [hrest] at hlast
    | cons x xs =>
      rw [hrest] at hlast
      rw [List.getLast?_cons_cons]
      simpa [List.getLast?_cons] using hlast
  | refused => intro ha; cases ha

/-- Devices that all give the region at the hinted address have kept to their hints. -/
theorem FanOut.honoursHint_of_placements (h : FanOut r hint ds calls answer) :
    (∀ q ∈ placements calls, q.address = p) → (∀ q, hint = some q → q = p) →
      ∀ e ∈ calls, e.HonoursHint := by
  induction h with
  | done => exact fun _ _ => nofun
  | @placed hint _ q d ds calls _ ih =>
    intro hplaced hhint
    have hq : q = p := hplaced ⟨d, q⟩ List.mem_cons_self
    have hhere : (Event.svmAlloc d r hint (some q)).HonoursHint := by
      cases hint with
      | none => exact trivial
      | some q' => exact hq.trans (hhint q' rfl).symm
    have hlater : ∀ e ∈ calls, e.HonoursHint := by
      refine ih (fun x hx => hplaced x (List.mem_cons_of_mem _ hx)) fun q' hq' => ?_
      cases hq'
      exact hq
    exact List.forall_mem_cons.mpr ⟨hhere, hlater⟩
  | @refused hint d ds =>
    intro _ _ e he
    rw [List.mem_singleton.mp he]
    cases hint <;> exact trivial

theorem FanOut.placed_at_answer_iff (h : FanOut r none ds calls (some p)) :
    (∀ q ∈ placements calls, q.address = p) ↔ ∀ e ∈ calls, e.HonoursHint := by
  constructor
  · exact fun hplaced => h.honoursHint_of_placements hplaced fun _ => nofun
  · intro hhint q hq
    rw [(h.placements_eq rfl hhint).1] at hq
    obtain ⟨d, -, rfl⟩ := List.mem_map.mp hq
    rfl

variable {σ : Type}

theorem svmFree_mem_free_iff (b : Backend σ) {d : DeviceId} {q : Address} {devices : List DeviceId}
    (s : σ) : .svmFree d q ∈ ((free b p devices).run s).events ↔ d ∈ devices ∧ q = p := by
  rw [free_events]
  simp only [Placement.freeing, List.map_map, List.mem_map, Function.comp_apply,
    Event.svmFree.injEq]
  constructor
  · rintro ⟨d', hd', rfl, rfl⟩
    exact ⟨hd', rfl⟩
  · rintro ⟨hd, rfl⟩
    exact ⟨d, hd, rfl, rfl⟩

/-- **A region lies at one address exactly if every device kept to its hint.** Whatever the devices
answer, each participant of an answered request gives the region once, and the answer is the address
of the last one. They all lie at the answer exactly if no device left its hint; one that lies
elsewhere is still held by its device when the answer has been freed on every listed device. -/
theorem mirrored_iff_hints_kept (b : Backend σ) (policy : FailurePolicy) (devices : List DeviceId)
    (r : Request) (preferred : Option DeviceId) (s : σ) (p : Address) :
    let o := (allocate b policy devices r preferred).run s
    let freeing := (free b p devices).run o.state
    o.value = some p →
      (placements o.events).map (·.device) = participants b.inventory devices r preferred ∧
      (placements o.events).getLast?.map (·.address) = some p ∧
      ((∀ q ∈ placements o.events, q.address = p) ↔ ∀ e ∈ o.events, e.HonoursHint) ∧
      ∀ q ∈ placements o.events, q.address ≠ p →
        Holds q.device q.address (o.events ++ freeing.events) := by
  intro o freeing hp
  have hcalls : FanOut r none (participants b.inventory devices r preferred) o.events (some p) :=
    allocate_fans_out b policy devices r preferred s hp
  have hlast := hcalls.answer_eq_last rfl
  rw [Option.or_none] at hlast
  refine ⟨hcalls.placements_device rfl, hlast, hcalls.placed_at_answer_iff, ?_⟩
  rintro ⟨d, q⟩ hgiven hne
  obtain ⟨r', hint', hmem⟩ := mem_placements.mp hgiven
  have hheld : Holds d q o.events := holds_of_given hmem hcalls.free_not_mem
  exact hheld.append fun hfreed => hne ((svmFree_mem_free_iff b o.state).mp hfreed).2

/-- Three devices, of which the last is preferred and the second is told where to give the region:
as it is the hinted address, the region lies there on all three, and everybody kept to the hint. -/
theorem probe_keeps_to_hint :
    let models : DeviceId → Simulation.Model := fun d =>
      ⟨⟨"gpu", .coarseGrainBuffer, 0⟩, false, if d.index = 1 then .probe else .plain, false⟩
    let b := Simulation.backend models ⟨[]⟩
    let q : Address := ⟨0x300010000, by decide⟩
    let s := Simulation.State.start (fun _ => .start false false)
      (fun d => if d.index = 1 then [some q] else []) []
    let o := (allocate b .rollback [⟨0⟩, ⟨1⟩, ⟨2⟩] ⟨64, 256, .readWrite⟩ (some ⟨2⟩)).run s
    o.value = some q ∧ (placements o.events).map (·.device) = [⟨2⟩, ⟨0⟩, ⟨1⟩] ∧
      ∀ e ∈ o.events, e.HonoursHint := by
  intro models b q s o
  have hvalue : o.value = some q := by decide +kernel
  obtain ⟨hdevices, -, hiff, -⟩ := mirrored_iff_hints_kept b .rollback [⟨0⟩, ⟨1⟩, ⟨2⟩]
    ⟨64, 256, .readWrite⟩ (some ⟨2⟩) s q hvalue
  exact ⟨hvalue, hdevices.trans (by decide +kernel), hiff.mp (by decide +kernel)⟩

/-- A second device that is told another address tears the region apart: the request is answered
with that address, the first device gave its own, and keeps it when the answer is freed. -/
theorem region_torn_by_probe :
    let models : DeviceId → Simulation.Model := fun d =>
      ⟨⟨"gpu", .coarseGrainBuffer, 0⟩, false, if d.index = 1 then .probe else .plain, false⟩
    let b := Simulation.backend models ⟨[]⟩
    let p : Address := ⟨0x100010000, by decide⟩
    let q : Address := ⟨0x200000000, by decide⟩
    let s := Simulation.State.start (fun _ => .start false false)
      (fun d => if d.index = 1 then [some q] else []) []
    let o := (allocate b .rollback [⟨0⟩, ⟨1⟩] ⟨64, 0, .readWrite⟩ none).run s
    let freeing := (free b q [⟨0⟩, ⟨1⟩]).run o.state
    o.value = some q ∧ placements o.events = [⟨⟨0⟩, p⟩, ⟨⟨1⟩, q⟩] ∧ p ≠ q ∧
      (freeing.state.device ⟨0⟩).live = [p] ∧ (freeing.state.device ⟨1⟩).live = [] := by
  intro models b p q s o freeing
  exact ⟨by decide +kernel, by decide +kernel, by decide, by decide +kernel, by decide +kernel⟩

end ComputeContext.Svm
