/-
# Which devices are told to free a region

A context does not remember which devices took part in a region, so freeing
one tells every device that it shares memory on. All of them hold the region
but those that were passed over when it was asked for, which are those without
atomics if it needs atomics. Apart from them, whatever a client asks for and
frees and whatever the devices refuse, a device is told to free only a region
that it gave and holds (`Custody.freed_where_held`).

The devices are expected to pick their addresses with care in one case only: a
request that is rolled back takes away, on the devices that it reached, what
lies at its address, so that address must not be one of a held region.

Key definitions: `Custody.calls`, `Custody.Allows`, `Custody.Recorded`,
`Custody.Accounted`.
Key theorems: `Custody.Accounted.turn`, `Custody.Recorded.accounted`,
`Custody.freed_where_held`.
-/
import ComputeContext.Proofs.Context.Custody
import ComputeContext.Proofs.Svm.Holding

namespace ComputeContext.Custody

open Simulation

/-- The calls of a turn. -/
def calls (b : Backend State) (c : Context) (k : Custody) : Turn → List Event
  | .request r preferred => ((c.svmAlloc b r preferred).run k.state).events
  | .free p => ((c.svmFree b p).run k.state).events
  | .switch _ _ _ => []

/-- The turn is one that the parties allow themselves. A client prefers none but the devices its
context shares memory on, and frees what it holds; no address that is picked for a request that is
rolled back is that of a held region. -/
def Allows (b : Backend State) (c : Context) (k : Custody) : Turn → Prop
  | .request r preferred =>
    (∀ d ∈ preferred, d ∈ c.roster.svmDevices) ∧
      (((c.svmAlloc b r preferred).run k.state).value = none ∧
          c.settings.svmFailurePolicy = .rollback →
        ∀ p ∈ picks ((c.svmAlloc b r preferred).run k.state).events,
          p ∉ k.regions.map (·.address))
  | .free p => p ∈ k.regions.map (·.address)
  | .switch _ _ _ => True

instance (b : Backend State) (c : Context) (k : Custody) : (t : Turn) → Decidable (k.Allows b c t)
  | .request _ _ => inferInstanceAs (Decidable (_ ∧ (_ → _)))
  | .free _ => inferInstanceAs (Decidable (_ ∈ _))
  | .switch _ _ _ => .isTrue trivial

/-- What a client can come to hold, and the calls that led there. -/
inductive Recorded (b : Backend State) (c : Context) : Custody → List Event → Prop
  | start (s : State) : Recorded b c ⟨s, []⟩ []
  | turn {k : Custody} {history : List Event} {t : Turn} : Recorded b c k history →
      k.Allows b c t → Recorded b c (k.after b c t) (history ++ k.calls b c t)

/-- The calls account for the regions: each device lists what they left on it, and holds by them
each held region that it can serve. -/
structure Accounted (inventory : Inventory) (c : Context) (k : Custody) (history : List Event) :
    Prop where
  listed : ∃ first : DeviceId → List Address,
    ∀ d, (k.state.device d).live = replay d (first d) history
  held : ∀ g ∈ k.regions, ∀ d ∈ c.roster.svmDevices,
    Svm.canServe inventory g.request d = true → Svm.Holds d g.address history

variable {models : DeviceId → Model} {linker : Graphics.Linker} {devices : List DeviceId}
  {c : Context} {k : Custody} {history front rest : List Event} {r : Svm.Request}
  {preferred : Option DeviceId} {d : DeviceId} {p : Address} {t : Turn}

theorem live_after (k : Custody) (t : Turn) (d : DeviceId) :
    ((k.after (backend models linker) c t).state.device d).live =
      replay d (k.state.device d).live (k.calls (backend models linker) c t) := by
  have hreplays := replays_calls models linker
  cases t with
  | request r preferred => exact hreplays.allocate _ _ r preferred k.state d
  | free p => exact hreplays.free p _ k.state d
  | switch d' failsSvm failsBind => exact State.live_setSwitches ..

theorem calls_free (b : Backend State) (k : Custody) (p : Address) :
    k.calls b c (.free p) = (c.roster.svmDevices.map (⟨·, p⟩)).map Svm.Placement.freeing :=
  Svm.free_events b p c.roster.svmDevices k.state

section Turns

variable (hmocks : ∀ d, (models d).kind ≠ .probe)
include hmocks

theorem kept_by_request (hallows : k.Allows (backend models linker) c (.request r preferred))
    {g : Region} (hg : g ∈ k.regions) :
    .svmFree d g.address ∉ k.calls (backend models linker) c (.request r preferred) := by
  intro hfreed
  obtain ⟨hnone, hrollback, hpicked⟩ := mem_picks_of_freed linker hmocks
    c.settings.svmFailurePolicy c.roster.svmDevices r preferred k.state hfreed
  exact hallows.2 ⟨hnone, hrollback⟩ _ hpicked (List.mem_map_of_mem hg)

theorem holds_answered (hd : d ∈ c.roster.svmDevices)
    (hserves : Svm.canServe (backend models linker).inventory r d = true)
    (hp : ((c.svmAlloc (backend models linker) r preferred).run k.state).value = some p) :
    Svm.Holds d p (k.calls (backend models linker) c (.request r preferred)) := by
  obtain ⟨hasks, hplaced⟩ := allocate_of_answer linker hmocks c.settings.svmFailurePolicy
    c.roster.svmDevices r preferred k.state p hp
  have hpart : ⟨d, p⟩ ∈ Svm.placements
      ((c.svmAlloc (backend models linker) r preferred).run k.state).events := by
    refine hplaced ▸ List.mem_map_of_mem ?_
    exact Svm.mem_participants.mpr ⟨.inr hd, hserves⟩
  obtain ⟨r', hint, hgiven⟩ := Svm.mem_placements.mp hpart
  refine Svm.holds_of_given hgiven fun hfreed => ?_
  cases hasks _ hfreed

/-- Every turn is accounted for. -/
theorem Accounted.turn (h : Accounted (backend models linker).inventory c k history)
    (hallows : k.Allows (backend models linker) c t) :
    Accounted (backend models linker).inventory c (k.after (backend models linker) c t)
      (history ++ k.calls (backend models linker) c t) where
  listed := by
    obtain ⟨first, hlisted⟩ := h.listed
    refine ⟨first, fun d => ?_⟩
    rw [live_after, hlisted, replay_append]
  held := by
    intro g hg d hd hserves
    cases t with
    | request r preferred =>
      rcases List.mem_append.mp hg with hg | hg
      · exact (h.held g hg d hd hserves).append (kept_by_request hmocks hallows hg)
      · obtain ⟨p, hp, rfl⟩ := Option.map_eq_some_iff.mp (Option.mem_toList.mp hg)
        exact (holds_answered hmocks hd hserves hp).after history
    | free p =>
      obtain ⟨hg, hne⟩ := List.mem_filter.mp hg
      refine (h.held g hg d hd hserves).append ?_
      rw [calls_free]
      simp only [decide_eq_true_eq] at hne
      simp [Svm.Placement.freeing, Ne.symm hne]
    | switch d' failsSvm failsBind =>
      exact (h.held g hg d hd hserves).append List.not_mem_nil

theorem Recorded.accounted (h : Recorded (backend models linker) c k history) :
    Accounted (backend models linker).inventory c k history := by
  induction h with
  | start s => exact ⟨⟨fun d => (s.device d).live, fun _ => rfl⟩, nofun⟩
  | turn _ hallows ih => exact ih.turn hmocks hallows

end Turns

/-- A device that is told to free holds the region, unless it was passed over by every request for
a region at the address. -/
theorem holds_or_passed_over (hdistinct : c.roster.svmDevices.Nodup)
    (h : Accounted (backend models linker).inventory c k history)
    (hallows : k.Allows (backend models linker) c t)
    (hcalls : k.calls (backend models linker) c t = front ++ .svmFree d p :: rest) :
    Svm.Holds d p (history ++ front) ∨
      t = .free p ∧ d ∈ c.roster.svmDevices ∧ (models d).device.supportsSvmAtomics = false ∧
        ∀ g ∈ k.regions, g.address = p → g.request.needsAtomics = true := by
  cases t with
  | request r preferred =>
    left
    exact (Svm.allocate_frees_held _ _ hdistinct r preferred k.state hcalls).after history
  | free q =>
    rw [calls_free] at hcalls
    have hnodup : (c.roster.svmDevices.map fun d => (⟨d, q⟩ : Svm.Placement)).Nodup :=
      hdistinct.map fun d d' heq => congrArg Svm.Placement.device heq
    obtain ⟨htold, hbefore⟩ := Svm.not_freed_before hnodup hcalls
    obtain ⟨d', hd, heq⟩ := List.mem_map.mp htold
    cases heq
    -- Addresses may repeat among held regions: one that the device can serve is enough.
    by_cases hserved : ∃ g ∈ k.regions, g.address = p ∧
        Svm.canServe (backend models linker).inventory g.request d = true
    · obtain ⟨g, hg, rfl, hserves⟩ := hserved
      exact .inl ((h.held g hg d hd hserves).append hbefore)
    · have hpassed : ∀ g ∈ k.regions, g.address = p → g.request.needsAtomics = true ∧
          (models d).device.supportsSvmAtomics = false := by
        intro g hg hat
        have hnot := fun hserves => hserved ⟨g, hg, hat, hserves⟩
        simpa [Svm.canServe, backend] using hnot
      obtain ⟨g, hg, hat⟩ := List.mem_map.mp hallows
      refine .inr ⟨rfl, hd, (hpassed g hg hat).2, fun g hg hat => (hpassed g hg hat).1⟩
  | switch d' failsSvm failsBind => simp [calls] at hcalls

/-- **Devices free what they hold, or were passed over.** A client gets regions from a context over
distinct simulated devices and frees them, under either policy. Whenever a device is then told to
free a region, it gave the region, was not told since to free it, and lists it; or else the client
frees a region that needs atomics, and the device is one of those without atomics that the context
shares memory on. Freeing a region tells each of the devices that the context shares memory on. -/
theorem freed_where_held (models : DeviceId → Model) (linker : Graphics.Linker)
    (hmocks : ∀ d, (models d).kind ≠ .probe) (devices : List DeviceId) (hdistinct : devices.Nodup)
    (c : Context) (hroster : c.roster = .ofList (backend models linker).inventory devices)
    (k : Custody) (history : List Event)
    (hrecorded : Recorded (backend models linker) c k history) (t : Turn)
    (hallows : k.Allows (backend models linker) c t) :
    (∀ front d p rest, k.calls (backend models linker) c t = front ++ .svmFree d p :: rest →
      (Svm.Holds d p (history ++ front) ∧ p ∈ replay d (k.state.device d).live front) ∨
        (t = .free p ∧ d ∈ c.roster.svmDevices ∧ (models d).device.supportsSvmAtomics = false ∧
          ∀ g ∈ k.regions, g.address = p → g.request.needsAtomics = true)) ∧
    ∀ p, k.calls (backend models linker) c (.free p) = c.roster.svmDevices.map (.svmFree · p) := by
  have haccounted := hrecorded.accounted hmocks
  have hnodup : c.roster.svmDevices.Nodup := by
    rw [hroster]
    exact Roster.nodup_svmDevices_ofList _ hdistinct
  refine ⟨fun front d p rest hcalls => ?_, fun p => ?_⟩
  · refine (holds_or_passed_over hnodup haccounted hallows hcalls).imp_left fun hholds => ?_
    obtain ⟨first, hlisted⟩ := haccounted.listed
    refine ⟨hholds, ?_⟩
    rw [hlisted, ← replay_append]
    exact mem_replay_of_holds hholds (first d)
  · rw [calls_free, List.map_map]
    rfl

/-- Two devices with atomics and one without. The client holds a region that needs atomics and one
that does not, and frees the second: each device is told, the one without atomics holds it. -/
theorem plain_region_freed_where_held :
    let models : DeviceId → Model := fun d =>
      ⟨⟨"gpu", ⟨[9, 1, 9].getD d.index 0⟩, 0⟩, false, .plain, false⟩
    let b := backend models ⟨[]⟩
    let p : Blueprint := { Blueprint.ofPlatform ⟨0⟩ with devices := [⟨0⟩, ⟨1⟩, ⟨2⟩] }
    let c := p.build b.inventory .nothing
    let k₀ : Custody := ⟨.start (fun _ => .start false false) (fun _ => []) [], []⟩
    let t₀ : Turn := .request ⟨64, 0, .atomics⟩ (some ⟨2⟩)
    let k₁ := k₀.after b c t₀
    let t₁ : Turn := .request ⟨64, 0, .readWrite⟩ none
    let k₂ := k₁.after b c t₁
    let q : Address := ⟨0x100010000, by decide⟩
    k₂.regions.map (·.address.word) = [0x300010000, 0x100010000] ∧
      k₂.calls b c (.free q) = [.svmFree ⟨0⟩ q, .svmFree ⟨1⟩ q, .svmFree ⟨2⟩ q] ∧
      Svm.Holds ⟨1⟩ q (k₀.calls b c t₀ ++ k₁.calls b c t₁ ++ [.svmFree ⟨0⟩ q]) := by
  intro models b p c k₀ t₀ k₁ t₁ k₂ q
  have h₁ : Recorded b c k₁ ([] ++ k₀.calls b c t₀) := (Recorded.start _).turn (by decide +kernel)
  have h₂ : Recorded b c k₂ ([] ++ k₀.calls b c t₀ ++ k₁.calls b c t₁) :=
    h₁.turn (by decide +kernel)
  have hcalls : k₂.calls b c (.free q) = [.svmFree ⟨0⟩ q, .svmFree ⟨1⟩ q, .svmFree ⟨2⟩ q] := by
    decide +kernel
  obtain ⟨hfreed, -⟩ := freed_where_held models ⟨[]⟩ (fun _ => nofun) [⟨0⟩, ⟨1⟩, ⟨2⟩] (by decide) c
    rfl k₂ _ h₂ (.free q) (by decide +kernel)
  refine ⟨by decide +kernel, hcalls, ?_⟩
  obtain ⟨hholds, -⟩ | ⟨-, -, -, hpassed⟩ := hfreed [.svmFree ⟨0⟩ q] ⟨1⟩ q [.svmFree ⟨2⟩ q] hcalls
  · exact hholds
  · have hplain : ∃ g ∈ k₂.regions, g.address = q ∧ g.request.needsAtomics = false := by
      decide +kernel
    obtain ⟨g, hg, hat, hneeds⟩ := hplain
    cases hneeds.symm.trans (hpassed g hg hat)

/-- Two ways to be told to free what is not held. A device without atomics is told when the client
frees a region with atomics, for which it was not asked. And when a device picks the address of a
held region for a request that is rolled back, the held region is gone from it too. -/
theorem told_to_free_what_is_not_held :
    let models : Svm.Capabilities → DeviceId → Model := fun svm _ =>
      ⟨⟨"gpu", svm, 0⟩, false, .plain, false⟩
    let p : Blueprint := { Blueprint.ofPlatform ⟨0⟩ with devices := [⟨0⟩, ⟨1⟩] }
    let k₀ : Custody := ⟨.start (fun _ => .start false false) (fun _ => []) [], []⟩
    (let b := backend (fun d => models (if d = ⟨0⟩ then ⟨9⟩ else ⟨1⟩) d) ⟨[]⟩
      let c := p.build b.inventory .nothing
      let t₀ : Turn := .request ⟨64, 0, .atomics⟩ none
      let k₁ := k₀.after b c t₀
      let q : Address := ⟨0x100010000, by decide⟩
      k₁.regions.map (·.address) = [q] ∧
        k₀.calls b c t₀ = [.svmAlloc ⟨0⟩ ⟨64, 0, .atomics⟩ none (some q)] ∧
        .svmFree ⟨1⟩ q ∈ k₁.calls b c (.free q) ∧ (k₁.state.device ⟨1⟩).live = []) ∧
    (let b := backend (models .coarseGrainBuffer) ⟨[]⟩
      let c := p.build b.inventory .nothing
      let t : Turn := .request ⟨64, 0x20000, .readWrite⟩ none
      let k₃ := ((k₀.after b c t).after b c (.switch ⟨1⟩ true false)).after b c t
      let q : Address := ⟨0x100020000, by decide⟩
      k₃.regions.map (·.address) = [q] ∧ .svmFree ⟨0⟩ q ∈ k₃.calls b c (.free q) ∧
        (k₃.state.device ⟨0⟩).live = []) := by
  intro models p k₀
  exact ⟨⟨by decide +kernel, by decide +kernel, by decide +kernel, by decide +kernel⟩,
    by decide +kernel, by decide +kernel, by decide +kernel⟩

end ComputeContext.Custody
