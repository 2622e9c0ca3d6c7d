/-
# The queues that live, and the default one

A ledger counts queues and remembers the default one, but not which queues
live. A removal lowers the count whatever queue it names, and only the removal
of the default queue takes it away. So a client that removes a queue which was
never there can bring the count to zero and leave the default queue standing
(`QueueLedger.default_without_queues`). As long as each queue that is removed
lives on the device, the queues that live can be followed through the journal
(`QueueLedger.liveQueues`): the count is their number, and the default queue
is one of them (`QueueLedger.no_default_without_queues`).

Key definition: `QueueLedger.liveQueues`.
Key theorems: `QueueLedger.Standing.mem`, `QueueLedger.length_liveQueues`,
`QueueLedger.no_default_without_queues`.
-/
import ComputeContext.Proofs.QueueLedger
import ComputeContext.Proofs.Stock

namespace ComputeContext.QueueLedger

variable {d : DeviceId} {q : QueueId} {live live' : List QueueId} {line : Line}
  {journal : List Line}

/-- The queues that live on a device after one more line of its journal, the newest first. A queue
that does not live there cannot be removed. -/
def liveAfter (d : DeviceId) (live : List QueueId) : Line → Option (List QueueId)
  | .added other q _ => some (if other = d then q :: live else live)
  | .removed other q =>
    if other = d then (if q ∈ live then some (live.erase q) else none) else some live
  | .refused _ _ => some live

/-- The queues that live on a device, through its journal. A queue that was added twice lives
twice. -/
def liveQueues (d : DeviceId) : Stock Line (List QueueId) QueueId where
  after := liveAfter d
  items := id
  gain?
    | .added other q _ => if other = d then some q else none
    | _ => none
  loss?
    | .removed other q => if other = d then some q else none
    | _ => none
  balanced := by
    intro live live' line h
    cases line with
    | added other q isDefault =>
      cases h
      by_cases hd : other = d
      · simp only [hd, if_true, Option.toList_some, Option.toList_none, List.append_nil]
        exact List.perm_append_singleton q live
      · simp [hd]
    | removed other q =>
      by_cases hd : other = d
      · simp only [liveAfter, hd, if_true] at h ⊢
        split_ifs at h with hlives
        cases h
        simp only [id, Option.toList_some, Option.toList_none, List.append_nil]
        exact (List.perm_cons_erase hlives).trans (List.perm_append_singleton q _).symm
      · simp only [liveAfter, hd, if_false] at h ⊢
        cases h
        rfl
    | refused other q =>
      cases h
      rfl

theorem mem_liveAfter (h : liveAfter d live line = some live') (hkept : line ≠ .removed d q)
    (hq : q ∈ live) : q ∈ live' := by
  cases line with
  | added other added isDefault =>
    cases h
    split_ifs
    · exact List.mem_cons_of_mem _ hq
    · exact hq
  | removed other removed =>
    rw [liveAfter] at h
    split_ifs at h with hd hlives
    · cases h
      have hne : q ≠ removed := by
        rintro rfl
        exact hkept (by rw [hd])
      exact (List.mem_erase_of_ne hne).mpr hq
    · cases h
      exact hq
  | refused other refused =>
    cases h
    exact hq

theorem mem_run_liveQueues (h : (liveQueues d).run live journal = some live')
    (hkept : .removed d q ∉ journal) (hq : q ∈ live) : q ∈ live' := by
  induction journal generalizing live with
  | nil =>
    cases h
    exact hq
  | cons line journal ih =>
    rw [Stock.run_cons, Option.bind_eq_some_iff] at h
    obtain ⟨between, hline, hrest⟩ := h
    rw [List.mem_cons, not_or] at hkept
    have hbetween : q ∈ between := mem_liveAfter hline (Ne.symm hkept.1) hq
    exact ih hrest hkept.2 hbetween

/-- A queue that stands as the default lives. -/
theorem Standing.mem (h : Standing d q journal) (hrun : (liveQueues d).run [] journal = some live) :
    q ∈ live := by
  obtain ⟨before, after, rfl, -, hkept⟩ := h
  rw [Stock.run_append, Option.bind_eq_some_iff] at hrun
  obtain ⟨earlier, -, hrun⟩ := hrun
  rw [Stock.run_cons, Option.bind_eq_some_iff] at hrun
  obtain ⟨between, hadded, hrest⟩ := hrun
  have hbetween : between = q :: earlier := by
    have hafter : liveAfter d earlier (.added d q true) = some between := hadded
    rw [liveAfter, if_pos rfl] at hafter
    exact (Option.some.inj hafter).symm
  exact mem_run_liveQueues hrest hkept (hbetween ▸ List.mem_cons_self)

/-- As many queues live as were added and not removed. -/
theorem length_liveQueues (h : (liveQueues d).run [] journal = some live) :
    live.length + removals d journal = additions d journal := by
  have hgained : ((liveQueues d).gained journal).length = additions d journal := by
    rw [Stock.gained, List.length_filterMap_eq_countP, additions]
    congr 1
    funext line
    cases line with
    | added other q isDefault => by_cases hd : other = d <;> simp [liveQueues, Line.adds, hd]
    | _ => rfl
  have hlost : ((liveQueues d).lost journal).length = removals d journal := by
    rw [Stock.lost, List.length_filterMap_eq_countP, removals]
    congr 1
    funext line
    cases line with
    | removed other q => by_cases hd : other = d <;> simp [liveQueues, Line.removes, hd]
    | _ => rfl
  have hlength := (liveQueues d).length_gained rfl h
  have hitems : ((liveQueues d).items live).length = live.length := rfl
  omega

/-- **No default queue without queues.** Whatever is added and removed, in any order and under
identities that may repeat: while each queue that is removed from a device lives there, and no more
live than a count can hold, the count is the number of queues that live and the default queue is one
of them. So a device without queues has no default one. -/
theorem no_default_without_queues (calls : List Call) (d : DeviceId) :
    let run := empty.performAll calls
    WithinCount d run.1 → ∀ live, (liveQueues d).run [] run.1 = some live →
      (run.2.entry d).count.toNat = live.length ∧
      (∀ q, run.2.defaultQueue d = some q → q ∈ live) ∧
      ((run.2.entry d).count = 0 → run.2.defaultQueue d = none) := by
  intro run hwithin live hlive
  have hcount : (run.2.entry d).count.toNat = live.length := by
    have hcounted : (run.2.entry d).count.toNat + removals d run.1 = additions d run.1 :=
      count_performAll calls d hwithin
    have hlength := length_liveQueues hlive
    omega
  have hlives : ∀ q, run.2.defaultQueue d = some q → q ∈ live := by
    intro q hdefault
    have hstands : Standing d q run.1 := (defaultQueue_performAll calls d q).mp hdefault
    exact hstands.mem hlive
  refine ⟨hcount, hlives, fun hzero => ?_⟩
  have hnone : live = [] := by
    rw [hzero, UInt32.toNat_zero] at hcount
    exact List.length_eq_zero_iff.mp hcount.symm
  rw [Option.eq_none_iff_forall_ne_some]
  intro q hdefault
  have := hlives q hdefault
  rw [hnone] at this
  cases this

/-- Two default queues under one identity, and another queue beside them: when all are gone, in
whatever order, so is the default. -/
theorem default_goes_with_queues :
    let calls : List Call := [.add ⟨0⟩ ⟨7⟩ true, .add ⟨0⟩ ⟨8⟩ false, .add ⟨0⟩ ⟨7⟩ true,
      .remove ⟨0⟩ ⟨7⟩, .remove ⟨0⟩ ⟨8⟩, .remove ⟨0⟩ ⟨7⟩]
    let run := empty.performAll calls
    WithinCount ⟨0⟩ run.1 ∧ (liveQueues ⟨0⟩).run [] run.1 = some [] ∧
      (run.2.entry ⟨0⟩).count = 0 ∧ run.2.defaultQueue ⟨0⟩ = none := by
  intro calls run
  have hjournal : run.1 = [.added ⟨0⟩ ⟨7⟩ true, .added ⟨0⟩ ⟨8⟩ false, .added ⟨0⟩ ⟨7⟩ true,
      .removed ⟨0⟩ ⟨7⟩, .removed ⟨0⟩ ⟨8⟩, .removed ⟨0⟩ ⟨7⟩] := by
    simp [run, calls, performAll, perform_eq, entry_put, entry_empty, Call.device, QueueEntry.line,
      QueueEntry.after, QueueEntry.add, QueueEntry.remove, QueueEntry.empty]
  have hwithin : WithinCount ⟨0⟩ run.1 := by
    apply withinCount_of_length
    rw [hjournal]
    decide
  have hlive : (liveQueues ⟨0⟩).run [] run.1 = some [] := by
    rw [hjournal]
    rfl
  obtain ⟨hcount, -, hnone⟩ := no_default_without_queues calls ⟨0⟩ hwithin [] hlive
  have hzero : (run.2.entry ⟨0⟩).count = 0 := UInt32.toNat_inj.mp hcount
  exact ⟨hwithin, hlive, hzero, hnone hzero⟩

/-- A queue that was never there is removed: the count is zero, and the default queue stands. -/
theorem default_without_queues :
    let run := empty.performAll [.add ⟨0⟩ ⟨7⟩ true, .remove ⟨0⟩ ⟨8⟩]
    run.1 = [.added ⟨0⟩ ⟨7⟩ true, .removed ⟨0⟩ ⟨8⟩] ∧ (run.2.entry ⟨0⟩).count = 0 ∧
      run.2.defaultQueue ⟨0⟩ = some ⟨7⟩ ∧ (liveQueues ⟨0⟩).run [] run.1 = none := by
  intro run
  have hjournal : run.1 = [.added ⟨0⟩ ⟨7⟩ true, .removed ⟨0⟩ ⟨8⟩] := by
    simp [run, performAll, perform_eq, entry_put, entry_empty, Call.device, QueueEntry.line,
      QueueEntry.after, QueueEntry.add, QueueEntry.empty]
  have hentry : run.2.entry ⟨0⟩ = ⟨0, some ⟨7⟩⟩ := by
    simp [run, performAll, perform_eq, entry_put, entry_empty, Call.device, QueueEntry.after,
      QueueEntry.add, QueueEntry.remove, QueueEntry.empty]
  refine ⟨hjournal, ?_, ?_, ?_⟩
  · rw [hentry]
  · rw [defaultQueue, hentry]
  · rw [hjournal]
    rfl

end ComputeContext.QueueLedger
