/-
# The order in which devices are asked for a region

Allocation gives the preferred device its turn and then goes through the
listed ones, each part with its own look at platform atomics. Together they
ask one list of devices, `participants`: allocation is `place` along that
list followed by `settle` (`allocate_eq_place`), so what it calls can be read
off a single recursion. `FanOut` says which calls those are, each at the
address the one before it gave, until a device refuses.

Key definitions: `Svm.participants`, `Svm.picker`, `Svm.place`, `Svm.settle`,
`Svm.FanOut`, `Svm.HoldsOfCalls`.
Key theorems: `Svm.allocate_eq_place`, `Svm.place_fans_out`,
`Svm.head?_participants`, `Svm.allocate_trace`, `Svm.allocate_fans_out`,
`Svm.allocate_asks_in_order`.
-/
import ComputeContext.Act
import ComputeContext.Svm.Allocation
import Mathlib.Data.List.Nodup

namespace ComputeContext

/-- The call asks a device for a shared region. -/
def Event.isSvmAlloc : Event → Bool
  | .svmAlloc .. => true
  | _ => false

namespace Svm

variable {σ : Type}

/-- The call that frees a placement. -/
def Placement.freeing (q : Placement) : Event := .svmFree q.device q.address

/-- The regions that devices gave, in order. -/
def placements (events : List Event) : List Placement :=
  events.filterMap fun
    | .svmAlloc d _ _ answer => answer.map (⟨d, ·⟩)
    | _ => none

/-- The regions that devices were told to free, in order. -/
def frees (events : List Event) : List Placement :=
  events.filterMap fun
    | .svmFree d p => some ⟨d, p⟩
    | _ => none

/-- The devices that take part in a request, in order: the preferred one, then the listed ones
other than it, as far as they can serve the request. -/
def participants (inventory : Inventory) (devices : List DeviceId) (r : Request)
    (preferred : Option DeviceId) : List DeviceId :=
  (preferred.toList ++ devices.filter fun d => preferred ≠ some d).filter (canServe inventory r)

/-- The device that picks the address of a region: the first that is asked for it. That is the
preferred one if it can serve the request, or else the first listed one that can. -/
def picker (inventory : Inventory) (devices : List DeviceId) (r : Request)
    (preferred : Option DeviceId) : Option DeviceId :=
  (preferred.filter (canServe inventory r)).or (devices.find? (canServe inventory r))

/-- Asks devices for a region, one after another until one fails. -/
def place (b : Backend σ) (r : Request) (placed : List Placement) :
    List DeviceId → Run σ Progress
  | [] => pure ⟨placed, true⟩
  | d :: ds => do
    match ← b.svmAlloc d r (hint placed) with
    | some p => place b r (⟨d, p⟩ :: placed) ds
    | none => pure ⟨placed, false⟩

/-- The answer to a request: the address of the newest placement if no device has failed. -/
def Progress.answer (p : Progress) : Option Address := if p.complete then hint p.placed else none

/-- Answers a request, and lets the policy decide about the placements if it has failed. -/
def settle (b : Backend σ) (policy : FailurePolicy) (p : Progress) : Run σ (Option Address) :=
  if p.complete then pure p.answer
  else do
    abandon b policy p.placed
    return p.answer

/-- The calls that ask the devices of a list for a region, starting from a hint, and the answer
they lead to. Each device is asked at the address the one before it gave; the first one that
refuses ends the calls. -/
inductive FanOut (r : Request) :
    Option Address → List DeviceId → List Event → Option Address → Prop
  | done (hint : Option Address) : FanOut r hint [] [] hint
  | placed {hint answer : Option Address} {p : Address} {d : DeviceId} {ds : List DeviceId}
      {calls : List Event} : FanOut r (some p) ds calls answer →
      FanOut r hint (d :: ds) (.svmAlloc d r hint (some p) :: calls) answer
  | refused {hint : Option Address} {d : DeviceId} {ds : List DeviceId} :
      FanOut r hint (d :: ds) [.svmAlloc d r hint none] none

/-! ### One list instead of two parts -/

/-- Passing over devices on the way is the same as leaving them out beforehand. -/
theorem mirror_eq_place (b : Backend σ) (r : Request) (preferred : Option DeviceId) :
    ∀ (ds : List DeviceId) (placed : List Placement),
      mirror b r preferred placed ds =
        place b r placed ((ds.filter fun d => preferred ≠ some d).filter (canServe b.inventory r))
  | [], _ => rfl
  | d :: ds, placed => by
    have ih := mirror_eq_place b r preferred ds
    unfold mirror
    by_cases hp : preferred = some d
    · simp only [hp, ↓reduceIte]
      rw [← hp, ih]
      simp [hp]
    · by_cases hs : canServe b.inventory r d = true
      · simp only [hp, hs, ↓reduceIte, ne_eq, not_false_eq_true, decide_true,
          List.filter_cons_of_pos]
        unfold place
        congr 1
        funext answer
        cases answer with
        | some p => exact ih (⟨d, p⟩ :: placed)
        | none => rfl
      · simp only [hp, hs, ↓reduceIte, ne_eq, not_false_eq_true, decide_true,
          List.filter_cons_of_pos, Bool.false_eq_true, List.filter_cons_of_neg]
        exact ih placed

/-- Allocation is placing along the participants. A preferred device that refuses ends it at once,
but then there is nothing to abandon. -/
theorem allocate_eq_place (b : Backend σ) (policy : FailurePolicy) (devices : List DeviceId)
    (r : Request) (preferred : Option DeviceId) :
    allocate b policy devices r preferred =
      if devices.isEmpty then pure none
      else place b r [] (participants b.inventory devices r preferred) >>= settle b policy := by
  unfold allocate
  by_cases he : devices.isEmpty = true
  · simp only [he, ↓reduceIte]
  have hsettle : ∀ p : Progress, (if p.complete then (return hint p.placed : Run σ (Option Address))
      else do abandon b policy p.placed; return none) = settle b policy p := by
    intro p
    cases hc : p.complete <;> simp [settle, Progress.answer, hc]
  simp only [he, Bool.false_eq_true, ↓reduceIte, hsettle]
  cases preferred with
  | none => simp [placeFirst, participants, mirror_eq_place]
  | some d =>
    by_cases hs : canServe b.inventory r d = true
    · have hparts : participants b.inventory devices r (some d) =
          d :: (devices.filter fun e => some d ≠ some e).filter (canServe b.inventory r) := by
        simp [participants, hs]
      rw [hparts]
      simp only [placeFirst, hs, ↓reduceIte, place, bind_assoc, hint, List.head?_nil,
        Option.map_none]
      congr 1
      funext answer
      cases answer with
      | some p => simp [mirror_eq_place]
      | none =>
        -- One side returns at once, the other abandons no placements.
        cases policy <;> simp [settle, Progress.answer, abandon, undo]
    · simp [placeFirst, hs, participants, mirror_eq_place]

theorem allocate_nil (b : Backend σ) (policy : FailurePolicy) (r : Request)
    (preferred : Option DeviceId) (s : σ) :
    (allocate b policy [] r preferred).run s = ⟨none, s, []⟩ := rfl

/-- What holds of asking for and freeing one region holds of allocating and freeing on many
devices. -/
structure HoldsOfCalls (Q : ∀ α : Type, Run σ α → Prop) (b : Backend σ) : Prop
    extends Act.Compositional Q where
  svmAlloc : ∀ d r hint, Q _ (b.svmAlloc d r hint)
  svmFree : ∀ d p, Q _ (b.svmFree d p)

namespace HoldsOfCalls

variable {Q : ∀ α : Type, Run σ α → Prop} {b : Backend σ} (hQ : HoldsOfCalls Q b)
include hQ

theorem place (r : Request) : ∀ (ds : List DeviceId) (placed : List Placement),
    Q _ (Svm.place b r placed ds)
  | [], _ => hQ.pure _
  | d :: ds, placed => by
    refine hQ.bind (hQ.svmAlloc d r _) fun answer => ?_
    cases answer with
    | some p => exact place r ds _
    | none => exact hQ.pure _

theorem undo : ∀ ps : List Placement, Q _ (Svm.undo b ps)
  | [] => hQ.pure ()
  | p :: ps => hQ.bind (hQ.svmFree p.device p.address) fun _ => undo ps

theorem settle (policy : FailurePolicy) (p : Progress) : Q _ (Svm.settle b policy p) := by
  unfold Svm.settle
  split
  · exact hQ.pure _
  · refine hQ.bind ?_ fun _ => hQ.pure _
    cases policy with
    | rollback => exact hQ.undo p.placed
    | leak => exact hQ.pure ()

theorem allocate (policy : FailurePolicy) (devices : List DeviceId) (r : Request)
    (preferred : Option DeviceId) : Q _ (Svm.allocate b policy devices r preferred) := by
  rw [allocate_eq_place]
  split
  · exact hQ.pure none
  · exact hQ.bind (hQ.place r _ []) (hQ.settle policy)

theorem free (p : Address) : ∀ ds : List DeviceId, Q _ (Svm.free b p ds)
  | [] => hQ.pure ()
  | d :: ds => hQ.bind (hQ.svmFree d p) fun _ => free p ds

end HoldsOfCalls

/-! ### The calls -/

@[simp] theorem placements_append (es fs : List Event) :
    placements (es ++ fs) = placements es ++ placements fs := List.filterMap_append

@[simp] theorem frees_append (es fs : List Event) : frees (es ++ fs) = frees es ++ frees fs :=
  List.filterMap_append

@[simp] theorem placements_freeing (ps : List Placement) :
    placements (ps.map Placement.freeing) = [] := by
  simp [placements, Placement.freeing]

@[simp] theorem frees_freeing (ps : List Placement) : frees (ps.map Placement.freeing) = ps := by
  simp [frees, Placement.freeing, Function.comp_def]

theorem frees_asking {events : List Event} (h : ∀ e ∈ events, e.isSvmAlloc = true) :
    frees events = [] := by
  rw [frees, List.filterMap_eq_nil_iff]
  intro e he
  have := h e he
  cases e <;> simp_all [Event.isSvmAlloc]

/-- Placing asks the devices of its list in order. -/
theorem place_fans_out (b : Backend σ) (r : Request) :
    ∀ (ds : List DeviceId) (placed : List Placement) (s : σ),
      FanOut r (hint placed) ds ((place b r placed ds).run s).events
        ((place b r placed ds).run s).value.answer
  | [], placed, _ => .done (hint placed)
  | d :: ds, placed, s => by
    have ih := place_fans_out b r ds
    simp only [place, Backend.svmAlloc, Act.bind_events, Act.bind_value, Act.call_events,
      Act.call_value, Act.call_state]
    cases (b.answerSvmAlloc d r (hint placed) s).1 with
    | some p => exact .placed (ih (⟨d, p⟩ :: placed) _)
    | none => exact .refused

/-- The placements that placing ends with are the regions its calls gave, the newest first, before
those it started with. -/
theorem place_placed (b : Backend σ) (r : Request) :
    ∀ (ds : List DeviceId) (placed : List Placement) (s : σ),
      ((place b r placed ds).run s).value.placed =
        (placements ((place b r placed ds).run s).events).reverse ++ placed
  | [], _, _ => rfl
  | d :: ds, placed, s => by
    have ih := place_placed b r ds
    simp only [place, Backend.svmAlloc, Act.bind_events, Act.bind_value, Act.call_events,
      Act.call_value, Act.call_state, placements_append]
    cases (b.answerSvmAlloc d r (hint placed) s).1 with
    | some p =>
      rw [ih (⟨d, p⟩ :: placed)]
      simp [placements]
    | none => simp [placements]

theorem undo_events (b : Backend σ) : ∀ (ps : List Placement) (s : σ),
    ((undo b ps).run s).events = ps.map Placement.freeing
  | [], _ => rfl
  | p :: ps, s => by
    simp only [undo, Backend.svmFree, Act.bind_events, Act.call_events, Act.call_state,
      undo_events b ps, List.map_cons, List.singleton_append]
    rfl

/-- A request without an answer that no device has refused asked no device at all, so settling
frees what was placed whenever there is no answer and the policy is to roll back. -/
theorem settle_events (b : Backend σ) (policy : FailurePolicy) (p : Progress) (s : σ) :
    ((settle b policy p).run s).events =
      (if p.answer = none ∧ policy = .rollback then p.placed else []).map Placement.freeing := by
  unfold settle
  cases hc : p.complete with
  | true =>
    cases hp : p.placed with
    | nil => simp
    | cons q ps => simp [Progress.answer, hc, hp, hint]
  | false => cases policy <;> simp [Progress.answer, hc, abandon, undo_events]

@[simp] theorem settle_value (b : Backend σ) (policy : FailurePolicy) (p : Progress) (s : σ) :
    ((settle b policy p).run s).value = p.answer := by
  unfold settle
  cases p.complete <;> rfl

/-! ### Reading a fan-out -/

section FanOut

variable {inventory : Inventory} {devices ds : List DeviceId} {r : Request} {d : DeviceId}
  {preferred : Option DeviceId} {hint answer : Option Address} {calls : List Event}

theorem mem_participants : d ∈ participants inventory devices r preferred ↔
    (preferred = some d ∨ d ∈ devices) ∧ canServe inventory r d = true := by
  simp only [participants, List.mem_filter, List.mem_append, Option.mem_toList, ne_eq, decide_not,
    Bool.not_eq_eq_eq_not, Bool.not_true, decide_eq_false_iff_not]
  by_cases hp : preferred = some d <;> simp [hp]

variable (devices) in
theorem participants_of_preferred (h : canServe inventory r d = true) :
    ∃ ds, participants inventory devices r (some d) = d :: ds := by
  simp [participants, h]

theorem head?_participants : (participants inventory devices r preferred).head? =
    picker inventory devices r preferred := by
  unfold picker
  cases preferred with
  | none => simp [participants]
  | some first =>
    cases hserves : canServe inventory r first with
    | true =>
      obtain ⟨ds, hds⟩ := participants_of_preferred devices hserves
      rw [hds, List.head?_cons, Option.filter_some_pos hserves, Option.some_or]
    | false =>
      -- a device that can serve the request is not the preferred one
      have hothers : ∀ d ∈ devices, (canServe inventory r d && decide (some first ≠ some d)) =
          canServe inventory r d := by
        intro d _
        cases hd : canServe inventory r d with
        | false => rfl
        | true =>
          have hne : some first ≠ some d := by
            rintro ⟨⟩
            exact Bool.false_ne_true (hserves.symm.trans hd)
          exact decide_eq_true hne
      rw [participants, List.filter_append, List.filter_filter, List.filter_congr hothers,
        Option.filter_some_neg hserves]
      simp [hserves]

theorem nodup_participants (h : devices.Nodup) :
    (participants inventory devices r preferred).Nodup := by
  apply List.Nodup.filter
  cases preferred with
  | none => simpa using h
  | some d => simpa using h.filter _

theorem FanOut.isSvmAlloc (h : FanOut r hint ds calls answer) :
    ∀ e ∈ calls, e.isSvmAlloc = true := by
  induction h with
  | done => simp
  | placed _ ih => simpa [Event.isSvmAlloc] using ih
  | refused => simp [Event.isSvmAlloc]

theorem FanOut.receiver_mem (h : FanOut r hint ds calls answer) {r' : Request}
    {hint' answer' : Option Address} (hmem : .svmAlloc d r' hint' answer' ∈ calls) : d ∈ ds := by
  induction h with
  | done => cases hmem
  | placed _ ih =>
    rcases List.mem_cons.mp hmem with heq | hmem
    · cases heq
      exact List.mem_cons_self
    · exact List.mem_cons_of_mem _ (ih hmem)
  | refused =>
    cases List.mem_singleton.mp hmem
    exact List.mem_cons_self

theorem FanOut.head_asked (h : FanOut r hint (d :: ds) calls answer) :
    ∃ answer', .svmAlloc d r hint answer' ∈ calls := by
  cases h with
  | placed _ => exact ⟨_, List.mem_cons_self⟩
  | refused => exact ⟨_, List.mem_cons_self⟩

theorem FanOut.exists_mem {p : Address} (h : FanOut r none ds calls (some p)) : ∃ d, d ∈ ds := by
  cases ds with
  | nil => cases h
  | cons d ds => exact ⟨d, List.mem_cons_self⟩

end FanOut

/-! ### Allocation and freeing -/

theorem free_events (b : Backend σ) (p : Address) : ∀ (ds : List DeviceId) (s : σ),
    ((free b p ds).run s).events = (ds.map (⟨·, p⟩)).map Placement.freeing
  | [], _ => rfl
  | d :: ds, s => by
    simp only [free, Backend.svmFree, Act.bind_events, Act.call_events, Act.call_state,
      free_events b p ds, List.map_cons, List.singleton_append]
    rfl

/-- The calls of an allocation: a fan-out over the participants that leads to the answer, then, if
there is none and the policy is to roll back, frees of what was given, the last one first. -/
theorem allocate_trace (b : Backend σ) (policy : FailurePolicy) {devices : List DeviceId}
    (r : Request) (preferred : Option DeviceId) (s : σ) (hne : devices ≠ []) :
    let o := (allocate b policy devices r preferred).run s
    ∃ calls, FanOut r none (participants b.inventory devices r preferred) calls o.value ∧
      o.events = calls ++ (if o.value = none ∧ policy = .rollback then (placements calls).reverse
        else []).map Placement.freeing := by
  intro o
  set placing := (place b r [] (participants b.inventory devices r preferred)).run s with hplacing
  have ho : o =
      (place b r [] (participants b.inventory devices r preferred) >>= settle b policy).run s := by
    simp only [o, allocate_eq_place, if_neg (show ¬devices.isEmpty = true by simpa using hne)]
  have hvalue : o.value = placing.value.answer := by rw [ho, Act.bind_value, settle_value]
  have hplaced : placing.value.placed = (placements placing.events).reverse := by
    rw [hplacing, place_placed, List.append_nil]
  refine ⟨placing.events, ?_, ?_⟩
  · rw [hvalue]
    exact place_fans_out b r _ [] s
  · rw [hvalue, ho, Act.bind_events, settle_events, ← hplaced]

/-- An answered request calls nothing but the fan-out that leads to its answer. -/
theorem allocate_fans_out (b : Backend σ) (policy : FailurePolicy) (devices : List DeviceId)
    (r : Request) (preferred : Option DeviceId) (s : σ) {p : Address} :
    let o := (allocate b policy devices r preferred).run s
    o.value = some p →
      FanOut r none (participants b.inventory devices r preferred) o.events (some p) := by
  intro o hp
  have hne : devices ≠ [] := by
    rintro rfl
    cases hp
  obtain ⟨calls, hcalls, hevents⟩ := allocate_trace b policy r preferred s hne
  have hnofree : ¬(o.value = none ∧ policy = .rollback) := by
    rw [hp]
    exact fun h => Option.some_ne_none p h.1
  rw [if_neg hnofree, List.map_nil, List.append_nil] at hevents
  rwa [hp, ← hevents] at hcalls

/-- **Allocation asks the participants in order.** Whatever the devices answer, the requests go to
the participants one after another until one refuses, each at the address the one before it gave;
the answer is the last address if nobody has refused. Without listed devices nothing is called. -/
theorem allocate_asks_in_order (b : Backend σ) (policy : FailurePolicy) (devices : List DeviceId)
    (r : Request) (preferred : Option DeviceId) (s : σ) :
    let o := (allocate b policy devices r preferred).run s
    if devices = [] then o.events = [] ∧ o.value = none
    else FanOut r none (participants b.inventory devices r preferred)
      (o.events.filter Event.isSvmAlloc) o.value := by
  intro o
  split_ifs with hnil
  · simp only [o, hnil, allocate_nil, and_self]
  · obtain ⟨calls, hcalls, hevents⟩ := allocate_trace b policy r preferred s hnil
    have hfrees : ∀ ps : List Placement,
        (ps.map Placement.freeing).filter Event.isSvmAlloc = [] := by
      intro ps
      simp [Placement.freeing, Event.isSvmAlloc]
    rw [hevents, List.filter_append, hfrees, List.append_nil,
      List.filter_eq_self.mpr hcalls.isSvmAlloc]
    exact hcalls

end Svm
end ComputeContext
