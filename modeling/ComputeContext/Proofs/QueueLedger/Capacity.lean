/-
# Queues within the bound of their device

A ledger records a queue whether it fits or not, and a removal is refused only
when nothing is left to remove. A client who asks first keeps it in order:
queues are added to a device only where another one fits, and removed only
where one lives (`QueueLedger.KeepsBound`). Then no removal is refused, and
the count neither goes over the bound nor past what a count can hold, so it is
the additions less the removals, whatever the bound is
(`QueueLedger.KeepsBound.counted`). The room that is left below the bound is
exactly the number of queues that can still be added
(`QueueLedger.keepsBound_iff_room`). What happens on other devices does not
matter.

Key definitions: `QueueLedger.Admits`, `QueueLedger.KeepsBound`,
`QueueLedger.Counted`, `QueueLedger.room`.
Key theorems: `QueueLedger.KeepsBound.counted`,
`QueueLedger.keepsBound_iff_room`, `QueueLedger.capacity_kept`.
-/
import ComputeContext.Proofs.QueueLedger

namespace ComputeContext.QueueLedger

variable {inventory : Inventory} {d : DeviceId} {l : QueueLedger} {call : Call}

/-- The ledger takes the call as it is meant: there is room for the queue that is added, and a queue
where one is removed. -/
def Admits (inventory : Inventory) (l : QueueLedger) : Call → Prop
  | .add d _ _ => l.canAdd inventory d = true
  | .remove d _ => (l.entry d).count ≠ 0

/-- Each call on the device is admitted when its turn comes. -/
def KeepsBound (inventory : Inventory) (d : DeviceId) : QueueLedger → List Call → Prop
  | _, [] => True
  | l, call :: calls =>
    (call.device = d → l.Admits inventory call) ∧ KeepsBound inventory d (l.perform call).2 calls

/-- How one ledger comes from another: the device's count has gone up and down with the journal, is
within the bound, and no removal was refused there. -/
structure Counted (inventory : Inventory) (d : DeviceId) (l : QueueLedger) (journal : List Line)
    (l' : QueueLedger) : Prop where
  le_bound : (l'.entry d).count.toNat ≤ (inventory d).maxQueues.toNat
  balance : (l'.entry d).count.toNat + removals d journal =
    (l.entry d).count.toNat + additions d journal
  not_refused : ∀ q, .refused d q ∉ journal

/-- How many more queues fit on the device. -/
def room (inventory : Inventory) (l : QueueLedger) (d : DeviceId) : Nat :=
  (inventory d).maxQueues.toNat - (l.entry d).count.toNat

theorem canAdd_iff_lt : l.canAdd inventory d = true ↔
    (l.entry d).count.toNat < (inventory d).maxQueues.toNat := by
  unfold canAdd
  rw [decide_eq_true_iff, UInt32.lt_iff_toNat_lt]

/-! ### Counts within the bound -/

theorem Admits.lt_bound (h : l.Admits inventory call)
    (hadds : ((l.entry call.device).line call).adds d = true) :
    (l.entry d).count.toNat < (inventory d).maxQueues.toNat := by
  cases call with
  | add other q isDefault =>
    have hother : other = d := of_decide_eq_true hadds
    subst hother
    exact canAdd_iff_lt.mp h
  | remove other q =>
    have hline : (l.entry other).line (.remove other q) = .removed other q := if_neg h
    rw [Call.device, hline] at hadds
    cases hadds

theorem Admits.not_refused (h : l.Admits inventory call) (q : QueueId) :
    (l.entry call.device).line call ≠ .refused d q := by
  cases call with
  | add other q' isDefault =>
    intro hrefused
    cases hrefused
  | remove other q' =>
    have hline : (l.entry other).line (.remove other q') = .removed other q' := if_neg h
    rw [Call.device, hline]
    intro hrefused
    cases hrefused

/-- A call that is admitted moves the count by one, within the bound. Below the bound there is
always room for one more in the count itself. -/
theorem count_of_admits (hadmits : call.device = d → l.Admits inventory call)
    (hle : (l.entry d).count.toNat ≤ (inventory d).maxQueues.toNat) :
    let line := (l.perform call).1
    let count := ((l.perform call).2.entry d).count.toNat
    count ≤ (inventory d).maxQueues.toNat ∧
      count + (if line.removes d then 1 else 0) =
        (l.entry d).count.toNat + if line.adds d then 1 else 0 := by
  intro line count
  have hline : line = (l.entry call.device).line call := line_perform l call
  have hentry := entry_perform l call d
  by_cases hd : call.device = d
  · have hsize : (inventory d).maxQueues.toNat < UInt32.size := UInt32.toNat_lt _
    have hlt : line.adds d = true → (l.entry d).count.toNat < (inventory d).maxQueues.toNat := by
      intro hadds
      rw [hline] at hadds
      exact (hadmits hd).lt_bound hadds
    have hmoved : count + (if line.removes d then 1 else 0) =
        (l.entry d).count.toNat + if line.adds d then 1 else 0 := by
      show ((l.perform call).2.entry d).count.toNat + _ = _
      rw [hentry, if_pos hd, hline, hd]
      refine (l.entry d).count_after call hd fun hadds => ?_
      rw [hline, hd] at hlt
      have := hlt hadds
      omega
    refine ⟨?_, hmoved⟩
    by_cases hadds : line.adds d = true
    · have := hlt hadds
      rw [if_pos hadds] at hmoved
      omega
    · rw [if_neg hadds] at hmoved
      omega
  · -- A call on another device is neither counted here nor does it move the count.
    have hother : line.device ≠ d := by rwa [hline, QueueEntry.line_device]
    have hsame : count = (l.entry d).count.toNat := by
      show ((l.perform call).2.entry d).count.toNat = _
      rw [hentry, if_neg hd]
    rw [Line.adds_of_ne hother, Line.removes_of_ne hother, hsame]
    exact ⟨hle, rfl⟩

/-- Calls that keep to the bound are counted. -/
theorem KeepsBound.counted : ∀ {calls : List Call} {l : QueueLedger},
    KeepsBound inventory d l calls →
    (l.entry d).count.toNat ≤ (inventory d).maxQueues.toNat →
    Counted inventory d l (l.performAll calls).1 (l.performAll calls).2
  | [], _, _, hle => ⟨hle, rfl, fun _ => List.not_mem_nil⟩
  | call :: calls, l, ⟨hadmits, hrest⟩, hle => by
    obtain ⟨hbetween, hmoved⟩ := count_of_admits hadmits hle
    have ih := hrest.counted hbetween
    refine ⟨ih.le_bound, ?_, fun q => ?_⟩
    · have hbalance := ih.balance
      simp only [performAll_cons, additions, removals, List.countP_cons] at hbalance hmoved ⊢
      omega
    · rw [performAll_cons, List.mem_cons, not_or]
      refine ⟨fun hrefused => ?_, ih.not_refused q⟩
      rw [line_perform] at hrefused
      have hd : call.device = d := by rw [← QueueEntry.line_device, ← hrefused, Line.device]
      exact (hadmits hd).not_refused q hrefused.symm

/-! ### What still fits -/

theorem canAdd_iff_room : l.canAdd inventory d = true ↔ 0 < l.room inventory d := by
  unfold room
  rw [canAdd_iff_lt]
  omega

theorem adds_admitted_iff_room (inventory : Inventory) (l : QueueLedger) (hd : call.device = d)
    (hadds : ∀ q, .remove d q ≠ call) :
    (l.perform call).1.adds d = true ∧ (l.Admits inventory call ↔ 0 < l.room inventory d) := by
  subst hd
  cases call with
  | add other q isDefault => exact ⟨decide_eq_true rfl, canAdd_iff_room⟩
  | remove other q => exact absurd rfl (hadds q)

/-- A queue that is added where it fits takes one place of the room. Calls on other devices take
none. -/
theorem room_perform (hadmits : call.device = d → l.Admits inventory call)
    (hadds : ∀ q, .remove d q ≠ call) :
    (l.perform call).2.room inventory d + (if call.device = d then 1 else 0) =
      l.room inventory d := by
  by_cases hd : call.device = d
  · obtain ⟨hadded, hfits⟩ := adds_admitted_iff_room inventory l hd hadds
    have hroom : 0 < l.room inventory d := hfits.mp (hadmits hd)
    unfold room at hroom ⊢
    obtain ⟨-, hmoved⟩ := count_of_admits hadmits (by omega)
    rw [if_pos hadded, Line.removes_of_adds hadded, if_neg Bool.false_ne_true] at hmoved
    rw [if_pos hd]
    omega
  · unfold room
    rw [entry_perform, if_neg hd, if_neg hd]
    rfl

/-- Calls that add queues to a device and remove none there keep to its bound exactly as long as
there is room. -/
theorem keepsBound_iff_room {more : List Call} (hadds : ∀ q, .remove d q ∉ more) :
    KeepsBound inventory d l more ↔ more.countP (·.device = d) ≤ l.room inventory d := by
  induction more generalizing l with
  | nil => exact ⟨fun _ => Nat.zero_le _, fun _ => trivial⟩
  | cons call more ih =>
    have hcall : ∀ q, .remove d q ≠ call := fun q h => hadds q (h ▸ List.mem_cons_self)
    have hmore : ∀ q, .remove d q ∉ more := fun q h => hadds q (List.mem_cons_of_mem _ h)
    have htakes : (call.device = d → l.Admits inventory call) →
        (l.perform call).2.room inventory d + (if call.device = d then 1 else 0) =
          l.room inventory d := fun h => room_perform h hcall
    rw [KeepsBound, ih hmore, List.countP_cons]
    by_cases hd : call.device = d
    · have hfits : l.Admits inventory call ↔ 0 < l.room inventory d :=
        (adds_admitted_iff_room inventory l hd hcall).2
      simp only [hd, forall_const, hfits, decide_true, if_true] at htakes ⊢
      omega
    · simp only [hd, false_implies, forall_const, true_and, decide_false, Bool.false_eq_true,
        if_false] at htakes ⊢
      omega

theorem KeepsBound.room_performAll : ∀ {more : List Call} {l : QueueLedger},
    KeepsBound inventory d l more → (∀ q, .remove d q ∉ more) →
    (l.performAll more).2.room inventory d + more.countP (·.device = d) = l.room inventory d
  | [], _, _, _ => rfl
  | call :: more, l, ⟨hadmits, hrest⟩, hadds => by
    have hcall : ∀ q, .remove d q ≠ call := fun q h => hadds q (h ▸ List.mem_cons_self)
    have hfirst := room_perform hadmits hcall
    have ih := hrest.room_performAll fun q h => hadds q (List.mem_cons_of_mem _ h)
    rw [performAll_cons, List.countP_cons]
    simp only [decide_eq_true_eq] at ih ⊢
    omega

/-- **Who asks first stays within the bound.** Whatever is done on other devices, and whatever the
bound is: if queues are added to a device only where another one fits and removed only where one
lives, no removal is refused, the count is the additions less the removals and never over the bound,
and another queue fits exactly if fewer live than the bound. Then as many more can be added as are
left up to the bound, and when they are, none fits any more. -/
theorem capacity_kept (inventory : Inventory) (calls : List Call) (d : DeviceId) :
    let run := empty.performAll calls
    let bound := (inventory d).maxQueues
    KeepsBound inventory d empty calls →
      (∀ q, .refused d q ∉ run.1) ∧
      (run.2.entry d).count ≤ bound ∧
      (run.2.entry d).count.toNat + removals d run.1 = additions d run.1 ∧
      (run.2.canAdd inventory d = true ↔ additions d run.1 < removals d run.1 + bound.toNat) ∧
      ∀ more : List Call, (∀ q, .remove d q ∉ more) →
        let added := more.countP (·.device = d)
        let left := bound.toNat - (run.2.entry d).count.toNat
        (KeepsBound inventory d run.2 more ↔ added ≤ left) ∧
        (added ≤ left → ((run.2.performAll more).2.canAdd inventory d = true ↔ added < left)) := by
  intro run bound hkeeps
  have hempty : (empty.entry d).count.toNat = 0 := by
    rw [entry_empty]
    rfl
  have hcounted : Counted inventory d empty run.1 run.2 := hkeeps.counted (by omega)
  have hbalance := hcounted.balance
  rw [hempty, Nat.zero_add] at hbalance
  refine ⟨hcounted.not_refused, UInt32.le_iff_toNat_le.mpr hcounted.le_bound, hbalance, ?_, ?_⟩
  · have hbound : bound.toNat = (inventory d).maxQueues.toNat := rfl
    rw [canAdd_iff_lt]
    omega
  · intro more hadds added left
    have hfit : KeepsBound inventory d run.2 more ↔ added ≤ left := keepsBound_iff_room hadds
    refine ⟨hfit, fun hle => ?_⟩
    have hroom : (run.2.performAll more).2.room inventory d + added = left :=
      (hfit.mpr hle).room_performAll hadds
    rw [canAdd_iff_room]
    omega

/-- A device for two queues, beside one for none. Two queues are added, one of them is removed, and
one more can be added, whatever the other device is asked for in between. -/
theorem one_more_fits :
    let inventory : Inventory := fun d => ⟨⟨"gpu", ⟨0⟩, if d.index = 0 then 2 else 0⟩, false⟩
    let calls : List Call :=
      [.add ⟨0⟩ ⟨7⟩ true, .remove ⟨1⟩ ⟨7⟩, .add ⟨0⟩ ⟨8⟩ false, .remove ⟨0⟩ ⟨7⟩]
    let more : List Call := [.remove ⟨1⟩ ⟨8⟩, .add ⟨0⟩ ⟨9⟩ false]
    let run := empty.performAll calls
    KeepsBound inventory ⟨0⟩ empty calls ∧ (run.2.entry ⟨0⟩).count = 1 ∧
      run.2.canAdd inventory ⟨0⟩ = true ∧ KeepsBound inventory ⟨0⟩ run.2 more ∧
      (run.2.performAll more).2.canAdd inventory ⟨0⟩ = false := by
  intro inventory calls more run
  have hkeeps : KeepsBound inventory ⟨0⟩ empty calls := by
    simp [calls, inventory, KeepsBound, Admits, canAdd, perform_eq, entry_put, entry_empty,
      Call.device, QueueEntry.after, QueueEntry.add, QueueEntry.empty]
  obtain ⟨-, -, hbalance, hfits, hmore⟩ := capacity_kept inventory calls ⟨0⟩ hkeeps
  have hjournal : run.1 =
      [.added ⟨0⟩ ⟨7⟩ true, .refused ⟨1⟩ ⟨7⟩, .added ⟨0⟩ ⟨8⟩ false, .removed ⟨0⟩ ⟨7⟩] := by
    simp [run, calls, performAll, perform_eq, entry_put, entry_empty, Call.device, QueueEntry.line,
      QueueEntry.after, QueueEntry.add, QueueEntry.empty]
  have hadditions : additions ⟨0⟩ run.1 = 2 := by
    rw [hjournal]
    rfl
  have hremovals : removals ⟨0⟩ run.1 = 1 := by
    rw [hjournal]
    rfl
  have hcount : (run.2.entry ⟨0⟩).count.toNat = 1 := by
    rw [hadditions, hremovals] at hbalance
    exact Nat.succ.inj hbalance
  have hleft : (inventory ⟨0⟩).maxQueues.toNat - (run.2.entry ⟨0⟩).count.toNat = 1 := by
    rw [hcount]
    rfl
  obtain ⟨hkept, hfull⟩ := hmore more (by simp [more])
  have hadded : more.countP (·.device = ⟨0⟩) = 1 := by decide
  rw [hadded, hleft] at hkept hfull
  refine ⟨hkeeps, UInt32.toNat_inj.mp hcount, hfits.mpr ?_, hkept.mpr le_rfl, ?_⟩
  · rw [hadditions, hremovals]
    decide
  · exact Bool.eq_false_iff.mpr fun h => Nat.lt_irrefl 1 ((hfull le_rfl).mp h)

end ComputeContext.QueueLedger
