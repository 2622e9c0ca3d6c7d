/-
# What a preferred device changes

A preferred device has its turn before the others. If it is one of the listed
devices anyway, the request has the same participants with it as without it,
only in another order. On simulated devices the order decides which of them
picks the address (`Svm.picker`), and how many have given the region before
one refuses, but not whether one refuses: a request is answered exactly if the
one that picks can do so, and all who take part accept
(`Svm.isSome_allocate_of_listed`).

So the preference has a say in the answer only where one of the two devices
that would pick the address can do so and the other cannot. A device cannot
pick once its next address goes past the end of all words, which takes 2^31
devices or 2^47 addresses. Where both requests are answered the same devices
end up with the region, and where both are refused none of them does.

Key theorems: `Svm.mem_participants_of_listed`,
`Svm.isSome_allocate_of_listed`, `Svm.preference_changes_order_only`.
-/
import ComputeContext.Proofs.Simulation.Landing
import ComputeContext.Proofs.Svm.Rollback

namespace ComputeContext.Svm

open Simulation

/-- A listed device that is preferred takes part as it would otherwise. -/
theorem mem_participants_of_listed {inventory : Inventory} {devices : List DeviceId} {r : Request}
    {preferred : Option DeviceId} (hlisted : ∀ d ∈ preferred, d ∈ devices) {d : DeviceId} :
    d ∈ participants inventory devices r preferred ↔
      d ∈ devices ∧ canServe inventory r d = true := by
  have hmem : preferred = some d ∨ d ∈ devices ↔ d ∈ devices :=
    or_iff_right_of_imp fun h => hlisted d h
  rw [mem_participants, hmem]

/-- If each listed device is as `P` says, so is the one that picks, and there is one if anybody can
serve the request. -/
theorem exists_mem_picker_iff {inventory : Inventory} {devices : List DeviceId} {r : Request}
    {preferred : Option DeviceId} {P : DeviceId → Prop} (hlisted : ∀ d ∈ preferred, d ∈ devices)
    (hall : ∀ d ∈ devices, P d) : (∃ d ∈ picker inventory devices r preferred, P d) ↔
      ∃ d ∈ devices, canServe inventory r d = true := by
  rw [← head?_participants]
  constructor
  · rintro ⟨d, hhead, -⟩
    have hd := List.mem_of_mem_head? hhead
    exact ⟨d, (mem_participants_of_listed hlisted).mp hd⟩
  · rintro ⟨d, hd⟩
    have hmem := (mem_participants_of_listed hlisted).mpr hd
    obtain ⟨e, he⟩ := Option.isSome_iff_exists.mp
      (List.isSome_head?.mpr (List.ne_nil_of_mem hmem))
    have hlisted := (mem_participants_of_listed hlisted).mp (List.mem_of_mem_head? he)
    exact ⟨e, he, hall e hlisted.1⟩

/-! ### Who is served -/

section Served

variable {models : DeviceId → Model} (linker : Graphics.Linker)
  (hmocks : ∀ d, (models d).kind ≠ .probe)
include hmocks

theorem answerSvmAlloc_eq (d : DeviceId) (r : Request) (hint : Option Address) :
    (backend models linker).answerSvmAlloc d r hint =
      State.onDevice d (DeviceState.svmAlloc d r.alignment hint) := by
  show State.svmAlloc (models d).kind d r.alignment hint = _
  rw [State.svmAlloc, if_neg (hmocks d)]

theorem failsSvm_answerSvmAlloc (d other : DeviceId) (r : Request) (hint : Option Address)
    (s : State) :
    (((backend models linker).answerSvmAlloc d r hint s).2.device other).failsSvm =
      (s.device other).failsSvm := by
  have hswitch : ∀ ds : DeviceState,
      (DeviceState.svmAlloc d r.alignment hint ds).2.failsSvm = ds.failsSvm := by
    intro ds
    unfold DeviceState.svmAlloc
    split_ifs
    · rfl
    · cases hint <;> rfl
  rw [answerSvmAlloc_eq linker hmocks, State.onDevice_device]
  split_ifs with hother
  · rw [hother, hswitch]
  · rfl

/-- Once an address is picked, it is placed on all the devices that are left if they all accept. -/
theorem isSome_answer_of_hint (r : Request) : ∀ (ds : List DeviceId) (placed : List Placement)
    (s : State), (hint placed).isSome = true →
    (((place (backend models linker) r placed ds).run s).value.answer.isSome = true ↔
      ∀ d ∈ ds, (s.device d).failsSvm = false)
  | [], placed, s, hhint => by
    show (hint placed).isSome = true ↔ _
    exact iff_of_true hhint fun d hd => absurd hd List.not_mem_nil
  | d :: ds, placed, s, hhint => by
    obtain ⟨p, hp⟩ := Option.isSome_iff_exists.mp hhint
    have ih := isSome_answer_of_hint r ds (⟨d, p⟩ :: placed)
      ((backend models linker).answerSvmAlloc d r (some p) s).2 rfl
    simp only [failsSvm_answerSvmAlloc linker hmocks] at ih
    simp only [place, Backend.svmAlloc, Act.bind_value, Act.call_value, Act.call_state, hp,
      answerSvmAlloc_hint linker hmocks, List.forall_mem_cons]
    cases hfails : (s.device d).failsSvm with
    | true => simp [Progress.answer]
    | false => simpa using ih

theorem isSome_answer_cons (r : Request) (d : DeviceId) (ds : List DeviceId) (s : State) :
    ((place (backend models linker) r [] (d :: ds)).run s).value.answer.isSome = true ↔
      (s.device d).CanPick d r.alignment ∧ ∀ e ∈ d :: ds, (s.device e).failsSvm = false := by
  have hpicks := DeviceState.isSome_svmAlloc_none d r.alignment (s.device d)
  have hanswer : ((backend models linker).answerSvmAlloc d r none s).1 =
      (DeviceState.svmAlloc d r.alignment none (s.device d)).1 := by
    rw [answerSvmAlloc_eq linker hmocks, State.onDevice_answer]
  simp only [place, Backend.svmAlloc, Act.bind_value, Act.call_value, Act.call_state, hint,
    List.head?_nil, Option.map_none, hanswer, List.forall_mem_cons]
  cases hpicked : (DeviceState.svmAlloc d r.alignment none (s.device d)).1 with
  | none =>
    rw [hpicked] at hpicks
    refine iff_of_false (fun h => Bool.false_ne_true h) ?_
    rintro ⟨hpick, haccepts, -⟩
    exact Bool.false_ne_true (hpicks.mpr ⟨haccepts, hpick⟩)
  | some p =>
    rw [hpicked] at hpicks
    have hrest := isSome_answer_of_hint linker hmocks r ds [⟨d, p⟩]
      ((backend models linker).answerSvmAlloc d r none s).2 rfl
    simp only [failsSvm_answerSvmAlloc linker hmocks] at hrest
    obtain ⟨haccepts, hpick⟩ := hpicks.mp rfl
    rw [hrest]
    simp [haccepts, hpick]

/-- **Who is served.** A request is answered exactly if somebody takes part in it, the first who
does can pick an address, and all of them accept. -/
theorem isSome_allocate_iff (policy : FailurePolicy) {devices : List DeviceId} (hne : devices ≠ [])
    (r : Request) (preferred : Option DeviceId) (s : State) :
    let b := backend models linker
    let ds := participants b.inventory devices r preferred
    ((allocate b policy devices r preferred).run s).value.isSome = true ↔
      (∃ d ∈ ds.head?, (s.device d).CanPick d r.alignment) ∧
        ∀ d ∈ ds, (s.device d).failsSvm = false := by
  intro b ds
  have hvalue : ((allocate b policy devices r preferred).run s).value =
      ((place b r [] ds).run s).value.answer := by
    rw [allocate_eq_place, if_neg (show ¬devices.isEmpty = true by simpa using hne),
      Act.bind_value, settle_value]
  rw [hvalue]
  cases hds : ds with
  | nil =>
    refine iff_of_false (fun h => Bool.false_ne_true h) ?_
    rintro ⟨⟨d, hd, -⟩, -⟩
    cases hd
  | cons d ds =>
    rw [isSome_answer_cons linker hmocks]
    simp

/-- **Who is served, when the preferred device is listed.** A request is answered exactly if the
device that picks the address can do so, and all who can serve it accept. -/
theorem isSome_allocate_of_listed (policy : FailurePolicy) {devices : List DeviceId}
    (hne : devices ≠ []) (r : Request) {preferred : Option DeviceId}
    (hlisted : ∀ d ∈ preferred, d ∈ devices) (s : State) :
    let b := backend models linker
    ((allocate b policy devices r preferred).run s).value.isSome = true ↔
      (∃ d ∈ picker b.inventory devices r preferred, (s.device d).CanPick d r.alignment) ∧
        ∀ d ∈ devices, canServe b.inventory r d = true → (s.device d).failsSvm = false := by
  intro b
  refine (isSome_allocate_iff linker hmocks policy hne r preferred s).trans ?_
  rw [head?_participants]
  simp only [mem_participants_of_listed hlisted, and_imp]
  rfl

/-- An answered request adds its region once to each listed device that can serve it. -/
theorem live_of_answered (policy : FailurePolicy) {devices : List DeviceId}
    (hdistinct : devices.Nodup) (r : Request) {preferred : Option DeviceId}
    (hlisted : ∀ d ∈ preferred, d ∈ devices) (s : State) (p : Address) (d : DeviceId) :
    let b := backend models linker
    let o := (allocate b policy devices r preferred).run s
    o.value = some p → (o.state.device d).live = (s.device d).live ++
      if d ∈ devices ∧ canServe b.inventory r d = true then [p] else [] := by
  intro b o hp
  have hnodup : (participants b.inventory devices r preferred).Nodup := nodup_participants hdistinct
  refine (live_allocate linker hmocks policy devices r preferred s p d hp).trans ?_
  rw [hnodup.count, if_congr (mem_participants_of_listed hlisted) rfl rfl]
  split_ifs <;> rfl

end Served

/-- **A preference for a listed device changes the order only.** On simulated devices that are
listed once each, whatever their switches: a request with and without the preference is answered
both times or not at all, unless all who can serve it accept, and of the two devices that would pick
its address one can and the other cannot. All can that are not among the last before the end of all
words, whatever the alignment. When it is answered, the same devices gain its region, each of them
once. When it is refused and rolled back, all devices have the regions they had, if none lay where
the new one was placed. -/
theorem preference_changes_order_only {models : DeviceId → Model} (linker : Graphics.Linker)
    (hmocks : ∀ d, (models d).kind ≠ .probe) {devices : List DeviceId} (hdistinct : devices.Nodup)
    (r : Request) {first : DeviceId} (hfirst : first ∈ devices) (s : State) :
    let b := backend models linker
    let o := (allocate b .rollback devices r (some first)).run s
    let o' := (allocate b .rollback devices r none).run s
    let begins := fun preferred : Option DeviceId =>
      ∃ d ∈ picker b.inventory devices r preferred, (s.device d).CanPick d r.alignment
    let gained := fun (p : Address) (d : DeviceId) =>
      if d ∈ devices ∧ canServe b.inventory r d = true then [p] else []
    (o.value.isSome = o'.value.isSome ↔
      ((∀ d ∈ devices, canServe b.inventory r d = true → (s.device d).failsSvm = false) →
        (begins (some first) ↔ begins none))) ∧
    ((∀ d ∈ devices, d.index + 1 < 2 ^ 30 ∧ (s.device d).issued.toNat < 2 ^ 45) →
      o.value.isSome = o'.value.isSome) ∧
    (∀ p p', o.value = some p → o'.value = some p' → ∀ d,
      (o.state.device d).live = (s.device d).live ++ gained p d ∧
      (o'.state.device d).live = (s.device d).live ++ gained p' d) ∧
    (o.value = none → (∀ q ∈ placements o.events, q.address ∉ (s.device q.device).live) →
      ∀ d, (o.state.device d).live = (s.device d).live) ∧
    (o'.value = none → (∀ q ∈ placements o'.events, q.address ∉ (s.device q.device).live) →
      ∀ d, (o'.state.device d).live = (s.device d).live) := by
  intro b o o' begins gained
  have hlisted : ∀ d ∈ some first, d ∈ devices := by simpa using hfirst
  have hlisted' : ∀ d ∈ none, d ∈ devices := by simp
  have hne : devices ≠ [] := List.ne_nil_of_mem hfirst
  have halike : o.value.isSome = o'.value.isSome ↔
      ((∀ d ∈ devices, canServe b.inventory r d = true → (s.device d).failsSvm = false) →
        (begins (some first) ↔ begins none)) := by
    have hserved := isSome_allocate_of_listed linker hmocks .rollback hne r hlisted s
    have hserved' := isSome_allocate_of_listed linker hmocks .rollback hne r hlisted' s
    exact Bool.eq_iff_iff.trans ((iff_congr hserved hserved').trans and_congr_left_iff)
  have hrefused : ∀ preferred : Option DeviceId,
      let o := (allocate b .rollback devices r preferred).run s
      o.value = none → (∀ q ∈ placements o.events, q.address ∉ (s.device q.device).live) →
        ∀ d, (o.state.device d).live = (s.device d).live := by
    intro preferred o hnone hfresh d
    exact live_of_refused linker devices r preferred s d hnone fun q hq hd => hd ▸ hfresh q hq
  refine ⟨halike, fun hfew => halike.mpr fun _ => ?_, ?_, hrefused (some first), hrefused none⟩
  · have hpick : ∀ d ∈ devices, (s.device d).CanPick d r.alignment := fun d hd =>
      DeviceState.canPick_of_few r.alignment (hfew d hd).1 (hfew d hd).2
    exact (exists_mem_picker_iff hlisted hpick).trans (exists_mem_picker_iff hlisted' hpick).symm
  · intro p p' hp hp' d
    constructor
    · exact live_of_answered linker hmocks .rollback hdistinct r hlisted s p d hp
    · exact live_of_answered linker hmocks .rollback hdistinct r hlisted' s p' d hp'

/-- Three devices, of which the second has no platform atomics. With the third preferred it picks
the address, otherwise the first does, and the same two have the region. If the first refuses, the
third has given the region before, and is left without it. -/
theorem preferred_device_picks :
    let models : DeviceId → Model := fun d =>
      ⟨⟨"gpu", if d.index = 1 then Capabilities.coarseGrainBuffer else Capabilities.atomics, 0⟩,
        false, .plain, false⟩
    let b := backend models ⟨[]⟩
    let devices : List DeviceId := [⟨0⟩, ⟨1⟩, ⟨2⟩]
    let r : Request := ⟨64, 256, Access.atomics⟩
    let accepting := State.start (fun _ => .start false false) (fun _ => []) []
    let refusing := State.start (fun d => .start (d.index = 0) false) (fun _ => []) []
    let p : Address := ⟨0x300010000, by decide⟩
    let p' : Address := ⟨0x100010000, by decide⟩
    let o := (allocate b .rollback devices r (some ⟨2⟩)).run accepting
    let o' := (allocate b .rollback devices r none).run accepting
    let refused := (allocate b .rollback devices r (some ⟨2⟩)).run refusing
    o.value = some p ∧ o'.value = some p' ∧ o.value.isSome = o'.value.isSome ∧
      (o.state.device ⟨0⟩).live = [p] ∧ (o'.state.device ⟨2⟩).live = [p'] ∧
      (o'.state.device ⟨1⟩).live = [] ∧ placements refused.events = [⟨⟨2⟩, p⟩] ∧
      refused.value = none ∧ ∀ d, (refused.state.device d).live = [] := by
  intro models b devices r accepting refusing p p' o o' refused
  have hmocks : ∀ d, (models d).kind ≠ .probe := fun _ => nofun
  have hfew : ∀ d ∈ devices, d.index + 1 < 2 ^ 30 ∧ (accepting.device d).issued.toNat < 2 ^ 45 := by
    intro d hd
    have hall : ∀ d ∈ devices, d.index < 3 := by decide
    have hindex := hall d hd
    exact ⟨by omega, show (0 : UInt64).toNat < 2 ^ 45 by decide⟩
  have hdistinct : devices.Nodup := by decide
  have hlast : (⟨2⟩ : DeviceId) ∈ devices := by decide
  obtain ⟨-, hboth, hlive, -, -⟩ :=
    preference_changes_order_only ⟨[]⟩ hmocks hdistinct r hlast accepting
  obtain ⟨-, -, -, hkept, -⟩ := preference_changes_order_only ⟨[]⟩ hmocks hdistinct r hlast refusing
  have hp : o.value = some p := by decide +kernel
  have hp' : o'.value = some p' := by decide +kernel
  have hplaced : placements refused.events = [⟨⟨2⟩, p⟩] := by decide +kernel
  have hnone : refused.value = none := by decide +kernel
  have hgained := hlive p p' hp hp'
  refine ⟨hp, hp', hboth hfew, (hgained ⟨0⟩).1.trans (by decide),
    (hgained ⟨2⟩).2.trans (by decide), (hgained ⟨1⟩).2.trans (by decide), hplaced, hnone,
    hkept hnone ?_⟩
  show ∀ q ∈ placements refused.events, q.address ∉ (refusing.device q.device).live
  intro q _
  exact List.not_mem_nil

/-- Two devices that accept, the first of them the 2^31st that there is: at an alignment of 2^63 its
next address goes past the end of all words. So it has none to pick when it is asked first, and the
request is refused, but with the second device preferred it takes the address this one picks. -/
theorem served_only_with_preference :
    let models : DeviceId → Model := fun _ =>
      ⟨⟨"gpu", Capabilities.coarseGrainBuffer, 0⟩, false, .plain, false⟩
    let b := backend models ⟨[]⟩
    let devices : List DeviceId := [⟨2 ^ 31 - 1⟩, ⟨0⟩]
    let r : Request := ⟨64, 0x8000000000000000, Access.readWrite⟩
    let s := State.start (fun _ => .start false false) (fun _ => []) []
    let o := (allocate b .rollback devices r (some ⟨0⟩)).run s
    let o' := (allocate b .rollback devices r none).run s
    (∀ d, (models d).kind ≠ .probe) ∧ devices.Nodup ∧ ⟨0⟩ ∈ devices ∧
      o.value = Address.ofWord? 0x8000000000000000 ∧ o'.value = none ∧
      ¬o.value.isSome = o'.value.isSome := by
  intro models b devices r s o o'
  exact ⟨fun _ => nofun, by decide, by decide, by decide +kernel, by decide +kernel,
    by decide +kernel⟩

end ComputeContext.Svm
