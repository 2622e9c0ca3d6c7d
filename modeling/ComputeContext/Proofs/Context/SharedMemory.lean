/-
# Regions of a context, given and taken back

A context frees a region on each of its devices that share memory. Its
requests go to those devices too, but the preferred device is asked without
being looked up among them: it strays when it can serve the request and is
none of them. A request reaches other devices than the context's own exactly
when the preferred one strays, and then, and only then, a region that is freed
again stays behind, on the device that was preferred.

Key definitions: `Blueprint.SharesMemoryOn`, `Blueprint.Strays`.
Key theorems: `Context.receivers_svmAlloc_iff`,
`Context.svmFree_restores_iff_not_strays`.
-/
import ComputeContext.Context
import ComputeContext.Proofs.Roster
import ComputeContext.Proofs.Svm.OneAddress

namespace ComputeContext

namespace Blueprint

/-- The device is one of the context's, and shares memory. -/
def SharesMemoryOn (p : Blueprint) (inventory : Inventory) (d : DeviceId) : Prop :=
  d ∈ p.devices ∧ (inventory d).supportsSvm = true

/-- The preferred device can serve the request, but is none of those the context shares memory
on. -/
def Strays (p : Blueprint) (inventory : Inventory) (r : Svm.Request)
    (preferred : Option DeviceId) : Prop :=
  ∃ d, preferred = some d ∧ Svm.canServe inventory r d = true ∧ ¬p.SharesMemoryOn inventory d

theorem mem_svmDevices_build {p : Blueprint} {inventory : Inventory} {a : Agreement}
    {d : DeviceId} :
    d ∈ (p.build inventory a).roster.svmDevices ↔ p.SharesMemoryOn inventory d :=
  Roster.mem_svmDevices_ofList inventory p.devices d

theorem sharesMemoryOn_of_participant {p : Blueprint} {inventory : Inventory} {a : Agreement}
    {r : Svm.Request} {preferred : Option DeviceId} (h : ¬p.Strays inventory r preferred)
    {d : DeviceId} (hd : d ∈ Svm.participants inventory (p.build inventory a).roster.svmDevices r
      preferred) : p.SharesMemoryOn inventory d := by
  obtain ⟨hpref | hlisted, hserves⟩ := Svm.mem_participants.mp hd
  · by_contra hnot
    exact h ⟨d, hpref, hserves, hnot⟩
  · exact mem_svmDevices_build.mp hlisted

end Blueprint

namespace Context

/-- A request reaches only devices that the context shares memory on, unless it shares memory on
some device and the preferred one strays. -/
theorem receivers_svmAlloc_iff {σ : Type} (b : Backend σ) (p : Blueprint) (a : Agreement)
    (r : Svm.Request) (preferred : Option DeviceId) (s : σ) :
    (∀ d r' hint answer, .svmAlloc d r' hint answer ∈
        (((p.build b.inventory a).svmAlloc b r preferred).run s).events →
      p.SharesMemoryOn b.inventory d) ↔
      (∀ d, ¬p.SharesMemoryOn b.inventory d) ∨ ¬p.Strays b.inventory r preferred := by
  set devices := (p.build b.inventory a).roster.svmDevices with hdevices
  have hmem : ∀ d, d ∈ devices ↔ p.SharesMemoryOn b.inventory d :=
    fun d => Blueprint.mem_svmDevices_build
  by_cases hnil : devices = []
  · -- Nobody is asked then, not even a preferred device.
    have hnone : ∀ d, ¬p.SharesMemoryOn b.inventory d := by
      intro d hd
      rw [← hmem, hnil] at hd
      cases hd
    refine ⟨fun _ => .inl hnone, fun _ d r' hint answer he => ?_⟩
    rw [svmAlloc, ← hdevices, hnil, Svm.allocate_nil] at he
    cases he
  · obtain ⟨calls, hcalls, hevents⟩ :=
      Svm.allocate_trace b (p.build b.inventory a).settings.svmFailurePolicy r preferred s hnil
    have hasked : ∀ d r' hint answer, .svmAlloc d r' hint answer ∈
        (((p.build b.inventory a).svmAlloc b r preferred).run s).events ↔
          .svmAlloc d r' hint answer ∈ calls := by
      intro d r' hint answer
      rw [svmAlloc, ← hdevices, hevents, List.mem_append, or_iff_left]
      simp [Svm.Placement.freeing]
    simp only [hasked]
    constructor
    · -- A preferred device that can serve the request is always asked: it is the first.
      intro honly
      right
      rintro ⟨d, rfl, hserves, hnot⟩
      apply hnot
      obtain ⟨ds, hfirst⟩ := Svm.participants_of_preferred devices hserves
      rw [hfirst] at hcalls
      obtain ⟨answer, hd⟩ := hcalls.head_asked
      exact honly d _ _ answer hd
    · rintro (hnone | hstay) d r' hint answer he
      · obtain ⟨d', hd'⟩ := List.exists_mem_of_ne_nil devices hnil
        exact absurd ((hmem d').mp hd') (hnone d')
      · exact Blueprint.sharesMemoryOn_of_participant hstay (hcalls.receiver_mem he)

/-- **A region given and taken back leaves no trace unless the preferred device strays.** On
simulated devices, requests reach only devices that the context shares memory on exactly when it
shares none or the preferred device does not stray; and a region that is freed again leaves every
device with the regions it had exactly when the preferred device does not stray. -/
theorem svmFree_restores_iff_not_strays (models : DeviceId → Simulation.Model)
    (linker : Graphics.Linker) (hmocks : ∀ d, (models d).kind ≠ .probe) (p : Blueprint)
    (a : Agreement) (r : Svm.Request) (preferred : Option DeviceId) (s : Simulation.State) :
    let b := Simulation.backend models linker
    let c := p.build b.inventory a
    let o := (c.svmAlloc b r preferred).run s
    ((∀ d r' hint answer, .svmAlloc d r' hint answer ∈ o.events → p.SharesMemoryOn b.inventory d) ↔
      (∀ d, ¬p.SharesMemoryOn b.inventory d) ∨ ¬p.Strays b.inventory r preferred) ∧
    ∀ q, o.value = some q → (∀ d, p.SharesMemoryOn b.inventory d → q ∉ (s.device d).live) →
      ((∀ d, (((c.svmFree b q).run o.state).state.device d).live = (s.device d).live) ↔
        ¬p.Strays b.inventory r preferred) := by
  intro b c o
  refine ⟨receivers_svmAlloc_iff b p a r preferred s, fun q hq hfresh => ?_⟩
  have hmem : ∀ d, d ∈ c.roster.svmDevices ↔ p.SharesMemoryOn b.inventory d :=
    fun d => Blueprint.mem_svmDevices_build
  have hlive : ∀ d, _ := fun d => Simulation.live_allocate_free linker hmocks
    c.settings.svmFailurePolicy c.roster.svmDevices r preferred s q d hq
    fun hd => hfresh d ((hmem d).mp hd)
  constructor
  · rintro hsame ⟨d, hpref, hserves, hnot⟩
    have hd := (hlive d).symm.trans (hsame d)
    rw [if_neg (mt (hmem d).mp hnot), List.append_right_eq_self, List.replicate_eq_nil_iff,
      List.count_eq_zero] at hd
    exact hd (Svm.mem_participants.mpr ⟨.inl hpref, hserves⟩)
  · intro hstay d
    refine (hlive d).trans ?_
    split_ifs with hd
    · rw [List.append_nil]
    · have hout : d ∉ Svm.participants b.inventory c.roster.svmDevices r preferred :=
        fun hpart => hd ((hmem d).mpr (Blueprint.sharesMemoryOn_of_participant hstay hpart))
      rw [List.count_eq_zero.mpr hout, List.replicate_zero, List.append_nil]

/-- A region that the second of three devices was preferred for: the devices that share memory give
it and free it, the third one is not asked. -/
theorem preferred_region_restored :
    let models : DeviceId → Simulation.Model := fun d =>
      ⟨⟨"gpu", if d.index < 2 then .coarseGrainBuffer else ∅, 0⟩, false, .plain, false⟩
    let b := Simulation.backend models ⟨[]⟩
    let p : Blueprint := { Blueprint.ofPlatform ⟨0⟩ with devices := [⟨0⟩, ⟨1⟩, ⟨2⟩] }
    let c := p.build b.inventory .nothing
    let s := Simulation.State.start (fun _ => .start false false) (fun _ => []) []
    let o := (c.svmAlloc b ⟨64, 256, .readWrite⟩ (some ⟨1⟩)).run s
    ∃ q, o.value = some q ∧ (Svm.placements o.events).map (·.device) = [⟨1⟩, ⟨0⟩] ∧
      ∀ d, (((c.svmFree b q).run o.state).state.device d).live = (s.device d).live := by
  intro models b p c s
  refine ⟨⟨0x200010000, by decide⟩, by decide +kernel, by decide +kernel, ?_⟩
  have h := svmFree_restores_iff_not_strays models ⟨[]⟩ (fun _ => nofun) p .nothing
    ⟨64, 256, .readWrite⟩ (some ⟨1⟩) s
  refine (h.2 ⟨0x200010000, by decide⟩ (by decide +kernel) fun _ _ => List.not_mem_nil).mpr ?_
  rintro ⟨d, hpref, -, hnot⟩
  cases hpref
  exact hnot ⟨by decide +kernel, by decide +kernel⟩

/-- A device of the context that shares no memory is asked when it is preferred, and keeps the
region when the context frees it. -/
theorem stray_region_stays :
    let models : DeviceId → Simulation.Model := fun d =>
      ⟨⟨"gpu", if d.index < 1 then .coarseGrainBuffer else ∅, 0⟩, false, .plain, false⟩
    let b := Simulation.backend models ⟨[]⟩
    let p : Blueprint := { Blueprint.ofPlatform ⟨0⟩ with devices := [⟨0⟩, ⟨1⟩] }
    let c := p.build b.inventory .nothing
    let s := Simulation.State.start (fun _ => .start false false) (fun _ => []) []
    let o := (c.svmAlloc b ⟨64, 0, .readWrite⟩ (some ⟨1⟩)).run s
    c.roster.svmDevices = [⟨0⟩] ∧ (Svm.placements o.events).map (·.device) = [⟨1⟩, ⟨0⟩] ∧
      ∃ q, o.value = some q ∧ (s.device ⟨1⟩).live = [] ∧
        (((c.svmFree b q).run o.state).state.device ⟨1⟩).live = [q] := by
  intro models b p c s
  exact ⟨by decide +kernel, by decide +kernel, ⟨0x200010000, by decide⟩, by decide +kernel, rfl,
    by decide +kernel⟩

end Context
end ComputeContext
