/-
# The regions on simulated devices

A simulated device lists the regions that live on it. The list follows from
the calls alone: a region that is given is added at the end, a region that is
freed is left out wherever it stands. A computation `Replays` when the lists
it leaves are those it found with its own events replayed on them, and
allocating and freeing do (`replays_calls`). So facts about the devices' lists
become facts about lists of events.

The devices of a request are hinted at the address of the device before them.
Where every device that is hinted gives the region at that address or not at
all, an answered request has placed its region on each participant once, at
the address that is the answer (`FanOut.placements_eq`). Simulated devices
whose addresses are not dictated do so (`emits_honoursHint_calls`).

Key definitions: `Simulation.liveAfter`, `Simulation.replay`,
`Simulation.Replays`, `Event.HonoursHint`.
Key theorems: `replay_asking`, `replay_freeing`, `replays_calls`,
`Svm.FanOut.placements_eq`, `Simulation.emits_honoursHint_calls`,
`Simulation.allocate_of_answer`.
-/
import ComputeContext.Proofs.Svm.FanOut
import ComputeContext.Simulation.World

namespace ComputeContext.Simulation

/-! ### Replaying events -/

/-- The regions on a device after a call. -/
def liveAfter (d : DeviceId) (live : List Address) : Event → List Address
  | .svmAlloc other _ _ answer => if other = d then live ++ answer.toList else live
  | .svmFree other p => if other = d then live.filter (· ≠ p) else live
  | _ => live

/-- The regions on a device after calls, the oldest first. -/
def replay (d : DeviceId) (live : List Address) (events : List Event) : List Address :=
  events.foldl (liveAfter d) live

@[simp] theorem replay_nil (d : DeviceId) (live : List Address) : replay d live [] = live := rfl

@[simp] theorem replay_append (d : DeviceId) (live : List Address) (es fs : List Event) :
    replay d live (es ++ fs) = replay d (replay d live es) fs := List.foldl_append

/-- Calls that ask for regions add those that the device gave. -/
theorem replay_asking (d : DeviceId) : ∀ (events : List Event) (live : List Address),
    (∀ e ∈ events, e.isSvmAlloc = true) →
    replay d live events =
      live ++ ((Svm.placements events).filter (·.device = d)).map (·.address)
  | [], live, _ => by simp [Svm.placements]
  | e :: es, live, h => by
    obtain ⟨he, hes⟩ := List.forall_mem_cons.mp h
    cases e <;> simp only [Event.isSvmAlloc, Bool.false_eq_true] at he
    case svmAlloc other r hint answer =>
      have ih := replay_asking d es (liveAfter d live (.svmAlloc other r hint answer)) hes
      rw [replay, List.foldl_cons, ← replay, ih]
      cases answer with
      | none => simp [liveAfter, Svm.placements]
      | some p => by_cases hd : other = d <;> simp [liveAfter, Svm.placements, hd]

theorem replay_freeing (d : DeviceId) : ∀ (ps : List Svm.Placement) (live : List Address),
    replay d live (ps.map Svm.Placement.freeing) = live.filter fun a => ⟨d, a⟩ ∉ ps
  | [], live => by simp
  | q :: ps, live => by
    have ih := replay_freeing d ps (liveAfter d live q.freeing)
    rw [List.map_cons, replay, List.foldl_cons, ← replay, ih]
    obtain ⟨other, p⟩ := q
    by_cases hd : other = d
    · subst hd
      simp only [liveAfter, Svm.Placement.freeing, ↓reduceIte, List.filter_filter]
      apply List.filter_congr
      intro a _
      simp [Bool.and_comm]
    · simp only [liveAfter, Svm.Placement.freeing, hd, ↓reduceIte]
      apply List.filter_congr
      intro a _
      simp [Ne.symm hd]

/-! ### Computations that replay -/

/-- The lists of regions that the computation leaves are those it found, with its events replayed
on them. -/
def Replays {α : Type} (m : Run State α) : Prop :=
  ∀ (s : State) (d : DeviceId),
    ((m.run s).state.device d).live = replay d (s.device d).live (m.run s).events

theorem replays_compositional : Act.Compositional fun _ => Replays where
  pure _ _ _ := rfl
  bind hm hf s d := by rw [Act.bind_state, Act.bind_events, replay_append, hf, hm]

theorem DeviceState.svmAlloc_live (d : DeviceId) (alignment : UInt64) (hint : Option Address)
    (s : DeviceState) :
    (DeviceState.svmAlloc d alignment hint s).2.live =
      s.live ++ (DeviceState.svmAlloc d alignment hint s).1.toList := by
  unfold DeviceState.svmAlloc
  cases hs : s.failsSvm with
  | true => simp
  | false => cases hint <;> rfl

theorem State.onDevice_svmAlloc_live (d other : DeviceId) (alignment : UInt64)
    (hint : Option Address) (s : State) :
    let o := State.onDevice d (DeviceState.svmAlloc d alignment hint) s
    (o.2.device other).live =
      if other = d then (s.device other).live ++ o.1.toList else (s.device other).live := by
  simp only [State.onDevice_device, State.onDevice_answer]
  split_ifs with h
  · rw [h, DeviceState.svmAlloc_live]
  · rfl

theorem State.svmAlloc_live (kind : Kind) (d other : DeviceId) (alignment : UInt64)
    (hint : Option Address) (s : State) :
    let o := State.svmAlloc kind d alignment hint s
    (o.2.device other).live =
      if other = d then (s.device other).live ++ o.1.toList else (s.device other).live := by
  unfold State.svmAlloc
  split
  · exact State.onDevice_svmAlloc_live d other alignment _ (State.nextDictated d s).2
  · exact State.onDevice_svmAlloc_live d other alignment hint s

/-! ### Shared memory replays -/

section Backend

variable (models : DeviceId → Model) (linker : Graphics.Linker)

theorem replays_svmAlloc (d : DeviceId) (r : Svm.Request) (hint : Option Address) :
    Replays ((backend models linker).svmAlloc d r hint) := by
  intro s other
  have h := State.svmAlloc_live (models d).kind d other r.alignment hint s
  simp only [Backend.svmAlloc, Act.call_state, Act.call_events, replay, List.foldl_cons,
    List.foldl_nil, liveAfter, eq_comm (a := d)]
  exact h

theorem replays_svmFree (d : DeviceId) (p : Address) :
    Replays ((backend models linker).svmFree d p) := by
  intro s other
  simp only [Backend.svmFree, Act.call_state, Act.call_events, replay, List.foldl_cons,
    List.foldl_nil, liveAfter, eq_comm (a := d), backend, State.onDevice, DeviceState.svmFree]
  split_ifs with h
  · rw [h]
  · rfl

/-- Allocating and freeing regions replays. -/
theorem replays_calls : Svm.HoldsOfCalls (fun _ => Replays) (backend models linker) where
  toCompositional := replays_compositional
  svmAlloc := replays_svmAlloc models linker
  svmFree := replays_svmFree models linker

end Backend

end ComputeContext.Simulation

namespace ComputeContext

/-! ### One address on every device -/

/-- A region is given at the hinted address, if there is a hint. -/
def Event.HonoursHint : Event → Prop
  | .svmAlloc _ _ (some hint) (some p) => p = hint
  | _ => True

/-- An answered request whose devices kept to their hints has one placement for each device, all at
the address that is the answer. -/
theorem Svm.FanOut.placements_eq {r : Svm.Request} {hint answer : Option Address}
    {ds : List DeviceId} {calls : List Event} (h : FanOut r hint ds calls answer) {p : Address} :
    answer = some p → (∀ e ∈ calls, e.HonoursHint) →
      placements calls = ds.map (⟨·, p⟩) ∧ ∀ q, hint = some q → q = p := by
  induction h with
  | done hint =>
    intro ha _
    refine ⟨rfl, fun q hq => ?_⟩
    rw [hq] at ha
    exact Option.some.inj ha
  | @placed hint answer p' d ds calls _ ih =>
    intro ha hhint
    obtain ⟨hhere, hrest⟩ := List.forall_mem_cons.mp hhint
    obtain ⟨hplacements, heq⟩ := ih ha hrest
    have hp : p' = p := heq p' rfl
    refine ⟨?_, fun q hq => ?_⟩
    · rw [List.map_cons, ← hplacements, ← hp]
      rfl
    · subst hq
      exact Eq.trans (Eq.symm hhere) hp
  | refused => intro ha; cases ha

/-! ### Addresses that devices pick -/

/-- The address that a device picked itself: it was asked for a region without a hint. -/
def Event.pick? : Event → Option Address
  | .svmAlloc _ _ none answer => answer
  | _ => none

/-- The addresses that devices picked themselves. -/
def picks (events : List Event) : List Address := events.filterMap Event.pick?

@[simp] theorem picks_append (es fs : List Event) : picks (es ++ fs) = picks es ++ picks fs :=
  List.filterMap_append

namespace Svm

variable {r : Request} {hint answer : Option Address} {ds : List DeviceId} {calls : List Event}
  {p : Address}

@[simp] theorem picks_freeing (ps : List Placement) : picks (ps.map Placement.freeing) = [] := by
  simp [picks, Placement.freeing, Event.pick?]

/-- Devices that keep to their hints place a region at the hinted address and nowhere else. -/
theorem FanOut.address_of_hint (h : FanOut r hint ds calls answer) :
    hint = some p → (∀ e ∈ calls, e.HonoursHint) → ∀ q ∈ placements calls, q.address = p := by
  induction h generalizing p with
  | done => simp [placements]
  | @placed hint answer p' d ds calls _ ih =>
    rintro rfl hhint q hq
    obtain ⟨hhere, hrest⟩ := List.forall_mem_cons.mp hhint
    have hp : p' = p := hhere
    rcases List.mem_cons.mp (show q ∈ ⟨d, p'⟩ :: placements calls from hq) with rfl | hq
    · exact hp
    · exact (ih rfl hrest q hq).trans hp
  | refused => simp [placements]

/-- A request is placed at the address that its first device picked. -/
theorem FanOut.address_mem_picks (h : FanOut r none ds calls answer)
    (hhint : ∀ e ∈ calls, e.HonoursHint) : ∀ q ∈ placements calls, q.address ∈ picks calls := by
  cases h with
  | done => simp [placements]
  | @placed _ _ p d ds calls hrest =>
    intro q hq
    have hpick : picks (.svmAlloc d r none (some p) :: calls) = p :: picks calls := rfl
    have haddress : q.address = p := by
      rcases List.mem_cons.mp (show q ∈ ⟨d, p⟩ :: placements calls from hq) with rfl | hq
      · rfl
      · exact hrest.address_of_hint rfl (List.forall_mem_cons.mp hhint).2 q hq
    rw [hpick, haddress]
    exact List.mem_cons_self
  | refused => simp [placements]

theorem FanOut.answer_mem_picks (h : FanOut r none ds calls (some p))
    (hhint : ∀ e ∈ calls, e.HonoursHint) : p ∈ picks calls := by
  obtain ⟨d, hd⟩ := h.exists_mem
  apply h.address_mem_picks hhint ⟨d, p⟩
  rw [(h.placements_eq rfl hhint).1]
  exact List.mem_map_of_mem hd

end Svm

namespace Simulation

theorem DeviceState.svmAlloc_hint (d : DeviceId) (alignment : UInt64) (hint : Address)
    (s : DeviceState) :
    (DeviceState.svmAlloc d alignment (some hint) s).1 = if s.failsSvm then none else some hint := by
  unfold DeviceState.svmAlloc
  cases s.failsSvm <;> rfl

variable {models : DeviceId → Model} (linker : Graphics.Linker)

theorem answerSvmAlloc_hint (hmocks : ∀ d, (models d).kind ≠ .probe) (d : DeviceId)
    (r : Svm.Request) (hint : Address) (s : State) :
    ((backend models linker).answerSvmAlloc d r (some hint) s).1 =
      if (s.device d).failsSvm then none else some hint := by
  simp only [backend, State.svmAlloc, if_neg (hmocks d), State.onDevice_answer,
    DeviceState.svmAlloc_hint]

theorem emits_honoursHint_svmAlloc (hmocks : ∀ d, (models d).kind ≠ .probe) (d : DeviceId)
    (r : Svm.Request) (hint : Option Address) :
    Act.Emits Event.HonoursHint ((backend models linker).svmAlloc d r hint) := by
  intro s e he
  rw [Backend.svmAlloc, Act.call_events, List.mem_singleton] at he
  subst he
  cases hint with
  | none => exact trivial
  | some h =>
    rw [answerSvmAlloc_hint linker hmocks]
    cases (s.device d).failsSvm with
    | true => exact trivial
    | false => rfl

/-- Devices whose addresses are not dictated keep to their hints, however many are asked. -/
theorem emits_honoursHint_calls (hmocks : ∀ d, (models d).kind ≠ .probe) :
    Svm.HoldsOfCalls (fun _ => Act.Emits Event.HonoursHint) (backend models linker) where
  toCompositional := Act.emits_compositional Event.HonoursHint
  svmAlloc := emits_honoursHint_svmAlloc linker hmocks
  svmFree _ _ := Act.emits_call fun _ => trivial

section Answered

variable (hmocks : ∀ d, (models d).kind ≠ .probe) (policy : Svm.FailurePolicy)
  (devices : List DeviceId) (r : Svm.Request) (preferred : Option DeviceId) (s : State)
  (p : Address)
include hmocks

/-- An answered request calls nothing but the fan-out that leads to the answer, and its devices
keep to their hints. -/
theorem allocate_fans_out_of_answer :
    let b := backend models linker
    let o := (Svm.allocate b policy devices r preferred).run s
    o.value = some p →
      Svm.FanOut r none (Svm.participants b.inventory devices r preferred) o.events (some p) ∧
        ∀ e ∈ o.events, e.HonoursHint := by
  intro b o hp
  exact ⟨Svm.allocate_fans_out b policy devices r preferred s hp,
    (emits_honoursHint_calls linker hmocks).allocate policy devices r preferred s⟩

/-- An answered request asks each participant once, and each gives the region at the address that
is the answer. Nothing else is called. -/
theorem allocate_of_answer :
    let b := backend models linker
    let o := (Svm.allocate b policy devices r preferred).run s
    o.value = some p → (∀ e ∈ o.events, e.isSvmAlloc = true) ∧
      Svm.placements o.events =
        (Svm.participants b.inventory devices r preferred).map (⟨·, p⟩) := by
  intro b o hp
  obtain ⟨hcalls, hhint⟩ :=
    allocate_fans_out_of_answer linker hmocks policy devices r preferred s p hp
  exact ⟨hcalls.isSvmAlloc, (hcalls.placements_eq rfl hhint).1⟩

theorem mem_picks_of_answer :
    let o := (Svm.allocate (backend models linker) policy devices r preferred).run s
    o.value = some p → p ∈ picks o.events := by
  intro o hp
  obtain ⟨hcalls, hhint⟩ :=
    allocate_fans_out_of_answer linker hmocks policy devices r preferred s p hp
  exact hcalls.answer_mem_picks hhint

end Answered

theorem live_allocate (hmocks : ∀ d, (models d).kind ≠ .probe) (policy : Svm.FailurePolicy)
    (devices : List DeviceId) (r : Svm.Request) (preferred : Option DeviceId) (s : State)
    (p : Address) (d : DeviceId) :
    let b := backend models linker
    let o := (Svm.allocate b policy devices r preferred).run s
    o.value = some p → (o.state.device d).live = (s.device d).live ++
      List.replicate ((Svm.participants b.inventory devices r preferred).count d) p := by
  intro b o hp
  obtain ⟨hasks, hplaced⟩ := allocate_of_answer linker hmocks policy devices r preferred s p hp
  rw [(replays_calls models linker).allocate policy devices r preferred s d,
    replay_asking d _ _ hasks, hplaced, List.filter_map, List.map_map]
  simp only [Function.comp_def]
  rw [List.filter_eq, List.map_replicate]

/-- Allocating a region and freeing it again leaves a device that is told to free with what it had,
if it did not have the region before. Any other device keeps the region as often as it took part. -/
theorem live_allocate_free (hmocks : ∀ d, (models d).kind ≠ .probe) (policy : Svm.FailurePolicy)
    (devices : List DeviceId) (r : Svm.Request) (preferred : Option DeviceId) (s : State)
    (p : Address) (d : DeviceId) :
    let b := backend models linker
    let o := (Svm.allocate b policy devices r preferred).run s
    o.value = some p → (d ∈ devices → p ∉ (s.device d).live) →
      (((Svm.free b p devices).run o.state).state.device d).live = (s.device d).live ++
        if d ∈ devices then []
        else List.replicate ((Svm.participants b.inventory devices r preferred).count d) p := by
  intro b o hp hfresh
  rw [(replays_calls models linker).free p devices o.state d, Svm.free_events, replay_freeing,
    live_allocate linker hmocks policy devices r preferred s p d hp, List.filter_append]
  split_ifs with hd
  · have hold : (s.device d).live.filter
        (fun a => (⟨d, a⟩ : Svm.Placement) ∉ devices.map (⟨·, p⟩)) = (s.device d).live := by
      rw [List.filter_eq_self]
      intro a ha
      have hne : p ≠ a := fun h => hfresh hd (h ▸ ha)
      simp [hne]
    rw [hold, List.filter_eq_nil_iff.mpr]
    intro a ha
    simpa [List.eq_of_mem_replicate ha] using hd
  · have hkept : ∀ a : Address, (⟨d, a⟩ : Svm.Placement) ∉ devices.map (⟨·, p⟩) := by
      simp [hd]
    simp [hkept, b]

end Simulation

end ComputeContext
