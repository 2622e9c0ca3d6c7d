/-
# What a refused removal leaves behind

A removal is refused on a device without queues. It changes no count and no
default queue, and no answer to whether another queue fits, on any device. But
the device has an entry afterwards, so a refusal on a device that had none is
seen by who asks for entries (`QueueLedger.refusal_leaves_entry`). A device
has an entry exactly if a queue was added there or a removal was refused there
before (`QueueLedger.isSome_find?_performAll`), so it is the first refusal, on
a device where nothing was ever added, that leaves something behind.

Key definitions: `QueueLedger.Line.opens`, `QueueLedger.Opened`.
Key theorems: `QueueLedger.isSome_find?_performAll`,
`QueueLedger.refusal_unseen_iff_opened`.
-/
import ComputeContext.Proofs.QueueLedger

namespace ComputeContext.QueueLedger

variable {l : QueueLedger} {d other : DeviceId} {q : QueueId} {journal : List Line}

/-- The line gives the device an entry if it has none: a queue was added there, or a removal was
refused there. -/
def Line.opens (d : DeviceId) : Line → Bool
  | .added other _ _ => other = d
  | .removed _ _ => false
  | .refused other _ => other = d

theorem Line.opens_of_ne {line : Line} (h : line.device ≠ d) : line.opens d = false := by
  cases line with
  | removed other q => rfl
  | _ => exact decide_eq_false h

/-- A queue was added on the device, or a removal was refused there. -/
def Opened (d : DeviceId) (journal : List Line) : Prop := ∃ line ∈ journal, line.opens d = true

theorem opened_concat (d : DeviceId) (history : List Line) (line : Line) :
    Opened d (history ++ [line]) ↔ Opened d history ∨ line.opens d = true := by
  unfold Opened
  constructor
  · rintro ⟨opening, hmem, hopens⟩
    rcases List.mem_append.mp hmem with hmem | hmem
    · exact .inl ⟨opening, hmem, hopens⟩
    · exact .inr (List.mem_singleton.mp hmem ▸ hopens)
  · rintro (⟨opening, hmem, hopens⟩ | hopens)
    · exact ⟨opening, List.mem_append_left _ hmem, hopens⟩
    · exact ⟨line, List.mem_append_right _ List.mem_cons_self, hopens⟩

theorem opened_iff_added (hnone : ∀ q, .refused d q ∉ journal) :
    Opened d journal ↔ ∃ q isDefault, .added d q isDefault ∈ journal := by
  constructor
  · rintro ⟨line, hmem, hopens⟩
    cases line with
    | added other q isDefault =>
      have hother : other = d := of_decide_eq_true hopens
      exact ⟨q, isDefault, hother ▸ hmem⟩
    | removed other q => cases hopens
    | refused other q =>
      have hother : other = d := of_decide_eq_true hopens
      exact absurd (hother ▸ hmem) (hnone q)
  · rintro ⟨q, isDefault, hmem⟩
    exact ⟨_, hmem, decide_eq_true rfl⟩

theorem count_of_find?_none (h : l.find? d = none) : (l.entry d).count = 0 := by
  rw [entry, h]
  rfl

/-- A call that is not refused finds an entry, or adds a queue and with it the entry. -/
theorem isSome_find?_perform (l : QueueLedger) (call : Call) (d : DeviceId) :
    ((l.perform call).2.find? d).isSome = true ↔
      (l.find? d).isSome = true ∨ (l.perform call).1.opens d = true := by
  rw [find?_perform, line_perform]
  by_cases hd : call.device = d
  · subst hd
    rw [if_pos rfl]
    refine iff_of_true rfl ?_
    cases call with
    | add other q isDefault => exact .inr (decide_eq_true rfl)
    | remove other q =>
      show (l.find? other).isSome = true ∨
        ((l.entry other).line (.remove other q)).opens other = true
      cases hfound : l.find? other with
      | some e => exact .inl rfl
      | none =>
        have hline : (l.entry other).line (.remove other q) = .refused other q :=
          if_pos (count_of_find?_none hfound)
        rw [hline]
        exact .inr (decide_eq_true rfl)
  · have hother : ((l.entry call.device).line call).device ≠ d := by rwa [QueueEntry.line_device]
    rw [if_neg hd, Line.opens_of_ne hother]
    exact (or_iff_left Bool.false_ne_true).symm

/-- A device has an entry exactly if a queue was added there or a removal was refused there. -/
theorem isSome_find?_performAll (calls : List Call) (d : DeviceId) :
    let run := empty.performAll calls
    (run.2.find? d).isSome = true ↔ Opened d run.1 := by
  have hkeeps := performAll_keeps
    (I := fun l history => (l.find? d).isSome = true ↔ Opened d history)
    (fun l history call h => by rw [isSome_find?_perform, opened_concat, h])
  exact hkeeps calls empty [] (by simp [find?, empty, Opened])

/-! ### Refused removals -/

theorem remove_of_refused (h : (l.remove d q).1 = .error ⟨d, q⟩) :
    (l.remove d q).2 = l.put d (l.entry d) := by
  have hzero : (l.entry d).count = 0 := by
    by_contra hne
    rw [remove_result, if_neg hne] at h
    cases h
  rw [remove, if_pos hzero]

theorem entry_of_refused (h : (l.remove d q).1 = .error ⟨d, q⟩) (other : DeviceId) :
    (l.remove d q).2.entry other = l.entry other := by
  rw [remove_of_refused h, entry_put]
  split_ifs with hother
  · rw [hother]
  · rfl

/-- Only the entry of the device can be new, and only if it had none. -/
theorem find?_of_refused (h : (l.remove d q).1 = .error ⟨d, q⟩) :
    (∀ other, (l.remove d q).2.find? other = l.find? other) ↔ (l.find? d).isSome = true := by
  have hfind : ∀ other, (l.remove d q).2.find? other =
      if other = d then some (l.entry d) else l.find? other := by
    intro other
    rw [remove_of_refused h, find?_put]
  constructor
  · intro hsame
    have hhere : some (l.entry d) = l.find? d := by
      rw [← hsame d, hfind, if_pos rfl]
    rw [← hhere]
    rfl
  · intro hfound other
    rw [hfind]
    split_ifs with hother
    · obtain ⟨e, he⟩ := Option.isSome_iff_exists.mp hfound
      rw [hother, entry, he]
      rfl
    · rfl

/-- **A refused removal goes unseen exactly if its device had an entry.** After any run of calls, a
removal that is refused changes no default queue and nothing about which queues fit, on any device.
All entries are as before exactly if a queue was ever added on the device or a removal refused there
before; otherwise the device has an entry now, with no queues. A device has an entry exactly if one
of these has happened there, so as long as no removal is refused, exactly if a queue was added. -/
theorem refusal_unseen_iff_opened (calls : List Call) (d : DeviceId) (q : QueueId) :
    let run := empty.performAll calls
    let l := run.2
    let l' := (l.remove d q).2
    (l.remove d q).1 = .error ⟨d, q⟩ →
      (∀ other, l'.defaultQueue other = l.defaultQueue other) ∧
      (∀ inventory other, l'.canAdd inventory other = l.canAdd inventory other) ∧
      ((∀ other, l'.find? other = l.find? other) ↔ Opened d run.1) ∧
      (¬Opened d run.1 → l.find? d = none ∧ l'.find? d = some .empty) ∧
      ∀ other, ((l.find? other).isSome = true ↔ Opened other run.1) ∧
        ((∀ q, .refused other q ∉ run.1) →
          ((l.find? other).isSome = true ↔ ∃ q isDefault, .added other q isDefault ∈ run.1)) := by
  intro run l l' hrefused
  have hopened : ∀ other, (l.find? other).isSome = true ↔ Opened other run.1 :=
    isSome_find?_performAll calls
  have hentry : ∀ other, l'.entry other = l.entry other := entry_of_refused hrefused
  refine ⟨fun other => ?_, fun inventory other => ?_, ?_, fun hnew => ?_, fun other => ?_⟩
  · rw [defaultQueue, hentry, defaultQueue]
  · rw [canAdd, hentry, canAdd]
  · exact (find?_of_refused hrefused).trans (hopened d)
  · have hnone : l.find? d = none := by
      rw [← Option.not_isSome_iff_eq_none, hopened]
      exact hnew
    refine ⟨hnone, ?_⟩
    show (l.remove d q).2.find? d = some .empty
    rw [remove_of_refused hrefused, find?_put, if_pos rfl, entry, hnone]
    rfl
  · exact ⟨hopened other, fun hnone => (hopened other).trans (opened_iff_added hnone)⟩

/-- A device whose only queue is gone keeps its entry, so one more removal is refused there and goes
unseen. -/
theorem refusal_unseen_at_zero :
    let run := empty.performAll [.add ⟨0⟩ ⟨7⟩ true, .remove ⟨0⟩ ⟨7⟩]
    let l' := (run.2.remove ⟨0⟩ ⟨7⟩).2
    (run.2.remove ⟨0⟩ ⟨7⟩).1 = .error ⟨⟨0⟩, ⟨7⟩⟩ ∧ Opened ⟨0⟩ run.1 ∧
      (∀ other, l'.find? other = run.2.find? other) ∧ run.2.find? ⟨1⟩ = none := by
  intro run l'
  have hjournal : run.1 = [.added ⟨0⟩ ⟨7⟩ true, .removed ⟨0⟩ ⟨7⟩] := by
    simp [run, performAll, perform_eq, entry_put, entry_empty, Call.device, QueueEntry.line,
      QueueEntry.after, QueueEntry.add, QueueEntry.empty]
  have hrefused : (run.2.remove ⟨0⟩ ⟨7⟩).1 = .error ⟨⟨0⟩, ⟨7⟩⟩ := by
    simp [run, performAll, perform_eq, remove_result, entry_put, entry_empty, Call.device,
      QueueEntry.after, QueueEntry.add, QueueEntry.remove, QueueEntry.empty]
  obtain ⟨-, -, hsame, -, hentries⟩ := refusal_unseen_iff_opened _ ⟨0⟩ ⟨7⟩ hrefused
  have hopened : Opened ⟨0⟩ run.1 := by
    rw [hjournal]
    exact ⟨_, List.mem_cons_self, rfl⟩
  have hother : ¬Opened ⟨1⟩ run.1 := by
    rw [hjournal]
    rintro ⟨line, hmem, hopens⟩
    simp at hmem
    rcases hmem with rfl | rfl <;> cases hopens
  refine ⟨hrefused, hopened, hsame.mpr hopened, ?_⟩
  rwa [← (hentries ⟨1⟩).1, Option.not_isSome_iff_eq_none] at hother

/-- On a device that was never called a removal is refused, and leaves an entry behind. -/
theorem refusal_leaves_entry :
    (empty.remove ⟨0⟩ ⟨7⟩).1 = .error ⟨⟨0⟩, ⟨7⟩⟩ ∧ empty.find? ⟨0⟩ = none ∧
      (empty.remove ⟨0⟩ ⟨7⟩).2.find? ⟨0⟩ = some .empty := by
  have hrefused : (empty.remove ⟨0⟩ ⟨7⟩).1 = .error ⟨⟨0⟩, ⟨7⟩⟩ := by
    rw [remove_result, entry_empty]
    rfl
  refine ⟨hrefused, by simp [find?, empty], ?_⟩
  rw [remove_of_refused hrefused, find?_put, if_pos rfl, entry_empty]

end ComputeContext.QueueLedger
