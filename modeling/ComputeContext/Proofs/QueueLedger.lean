/-
# What a ledger has recorded

Queues are added to and removed from a ledger in any order, on any devices and
under any identities. The journal of such a run has a line for each call: a
queue was added, one was removed, or the removal was refused because the
device had none. A device's entry can be read off the journal. Its count is
the additions less the removals, as long as fewer queues live than a count can
hold (`QueueLedger.count_performAll`). Its default queue is the one that was
last added as the default, unless that one was removed later
(`QueueLedger.defaultQueue_performAll`); an addition under the same identity
does not shield it.

An entry changes only by calls on its device, each of which changes it by the
entry alone (`QueueLedger.find?_performAll`).

Key definitions: `QueueLedger.Call`, `QueueLedger.Line`,
`QueueLedger.performAll`, `QueueLedger.WithinCount`, `QueueLedger.Standing`.
Key theorems: `QueueLedger.find?_performAll`, `QueueLedger.count_performAll`,
`QueueLedger.defaultQueue_performAll`, `QueueLedger.entry_read_off_journal`.
-/
import ComputeContext.QueueLedger
import Mathlib.Data.List.Infix

namespace ComputeContext

namespace QueueLedger

/-- What is done with a ledger. -/
inductive Call
  | add (device : DeviceId) (queue : QueueId) (isDefault : Bool)
  | remove (device : DeviceId) (queue : QueueId)
deriving DecidableEq, Repr

/-- The device on which a queue is added or removed. -/
def Call.device : Call → DeviceId
  | .add d _ _ => d
  | .remove d _ => d

/-- What came of a call. -/
inductive Line
  | added (device : DeviceId) (queue : QueueId) (isDefault : Bool)
  | removed (device : DeviceId) (queue : QueueId)
  /-- There was no queue to remove. -/
  | refused (device : DeviceId) (queue : QueueId)
deriving DecidableEq, Repr

/-- The device of the queue that the line names. -/
def Line.device : Line → DeviceId
  | .added d _ _ => d
  | .removed d _ => d
  | .refused d _ => d

/-- A queue was added on the device. -/
def Line.adds (d : DeviceId) : Line → Bool
  | .added other _ _ => other = d
  | _ => false

/-- A queue was removed from the device. -/
def Line.removes (d : DeviceId) : Line → Bool
  | .removed other _ => other = d
  | _ => false

theorem Line.adds_of_ne {d : DeviceId} {line : Line} (h : line.device ≠ d) :
    line.adds d = false := by
  cases line with
  | added other q isDefault => exact decide_eq_false h
  | _ => rfl

theorem Line.removes_of_ne {d : DeviceId} {line : Line} (h : line.device ≠ d) :
    line.removes d = false := by
  cases line with
  | removed other q => exact decide_eq_false h
  | _ => rfl

theorem Line.removes_of_adds {d : DeviceId} {line : Line} (h : line.adds d = true) :
    line.removes d = false := by
  cases line with
  | removed other q => cases h
  | _ => rfl

/-- How many queues were added on the device. -/
def additions (d : DeviceId) (journal : List Line) : Nat := journal.countP (Line.adds d)

/-- How many queues were removed from the device. -/
def removals (d : DeviceId) (journal : List Line) : Nat := journal.countP (Line.removes d)

/-- A call with what comes of it. -/
def perform (l : QueueLedger) : Call → Line × QueueLedger
  | .add d q isDefault => (.added d q isDefault, l.add d q isDefault)
  | .remove d q =>
    match l.remove d q with
    | (.ok (), l) => (.removed d q, l)
    | (.error _, l) => (.refused d q, l)

/-- Any number of calls, with their journal, the first line first. -/
def performAll (l : QueueLedger) : List Call → List Line × QueueLedger
  | [] => ([], l)
  | call :: calls =>
    let (line, l) := l.perform call
    let (journal, l) := performAll l calls
    (line :: journal, l)

end QueueLedger

namespace QueueEntry

open QueueLedger

/-- What comes of a call on the device of the entry. -/
def line (e : QueueEntry) : Call → Line
  | .add d q isDefault => .added d q isDefault
  | .remove d q => if e.count = 0 then .refused d q else .removed d q

/-- The entry after a call on its device. -/
def after (e : QueueEntry) : Call → QueueEntry
  | .add _ q isDefault => e.add q isDefault
  | .remove _ q => if e.count = 0 then e else e.remove q

variable {d : DeviceId}

theorem line_device (e : QueueEntry) (call : Call) : (e.line call).device = call.device := by
  cases call with
  | add d q isDefault => rfl
  | remove d q =>
    rw [line]
    split_ifs <;> rfl

theorem count_after (e : QueueEntry) (call : Call) (hd : call.device = d)
    (hroom : (e.line call).adds d = true → e.count.toNat + 1 < UInt32.size) :
    (e.after call).count.toNat + (if (e.line call).removes d then 1 else 0) =
      e.count.toNat + if (e.line call).adds d then 1 else 0 := by
  subst hd
  cases call with
  | add d q isDefault =>
    have hfits : e.count.toNat + 1 < UInt32.size := hroom (by simp [line, Line.adds, Call.device])
    have hcount : (e.count + 1).toNat = e.count.toNat + 1 := by
      rw [UInt32.toNat_add]
      exact Nat.mod_eq_of_lt hfits
    simpa [line, after, add, Line.adds, Line.removes, Call.device] using hcount
  | remove d q =>
    by_cases hzero : e.count = 0
    · simp [line, after, hzero, Line.adds, Line.removes]
    · have hpos : 1 ≤ e.count.toNat := by
        rw [Nat.one_le_iff_ne_zero]
        exact fun h => hzero (UInt32.toNat_inj.mp h)
      have hcount : (e.count - 1).toNat = e.count.toNat - 1 :=
        UInt32.toNat_sub_of_le _ _ (UInt32.le_iff_toNat_le.mpr hpos)
      simp only [line, after, hzero, ↓reduceIte, remove, Line.adds, Line.removes, Call.device,
        decide_true, Bool.false_eq_true, hcount]
      omega

/-- A queue is the default after a call if it was added as the default, or if it was the default
before and the call neither made another one so nor removed it. -/
theorem defaultQueue_after (e : QueueEntry) (call : Call) (hd : call.device = d) (q : QueueId) :
    (e.after call).defaultQueue = some q ↔ e.line call = .added d q true ∨
      e.defaultQueue = some q ∧ (∀ other, e.line call ≠ .added d other true) ∧
        e.line call ≠ .removed d q := by
  subst hd
  cases call with
  | add d added isDefault =>
    cases isDefault with
    | true => simp [line, after, add, Call.device]
    | false => simp [line, after, add, Call.device]
  | remove d removed =>
    by_cases hzero : e.count = 0
    · simp [line, after, hzero]
    · have hremoved : (e.remove removed).defaultQueue = some q ↔
          e.defaultQueue = some q ∧ removed ≠ q := by
        rw [remove]
        by_cases hdefault : e.defaultQueue = some removed
        · simp [hdefault]
        · rw [if_neg hdefault, iff_self_and]
          rintro h rfl
          exact hdefault h
      simpa [line, after, hzero, Call.device] using hremoved

end QueueEntry

namespace QueueLedger

variable {l : QueueLedger} {d : DeviceId} {q : QueueId} {history journal : List Line} {line : Line}

theorem entry_put (l : QueueLedger) (d other : DeviceId) (e : QueueEntry) :
    (l.put d e).entry other = if other = d then e else l.entry other := by
  rw [entry, find?_put]
  split_ifs <;> rfl

theorem entry_empty (d : DeviceId) : empty.entry d = .empty := by simp [entry, find?, empty]

theorem perform_eq (l : QueueLedger) (call : Call) :
    l.perform call =
      ((l.entry call.device).line call, l.put call.device ((l.entry call.device).after call)) := by
  cases call with
  | add d q isDefault => rfl
  | remove d q =>
    simp only [perform, remove, QueueEntry.line, QueueEntry.after, Call.device]
    by_cases hzero : (l.entry d).count = 0
    · simp only [hzero, ↓reduceIte]
    · simp only [hzero, ↓reduceIte]

theorem line_perform (l : QueueLedger) (call : Call) :
    (l.perform call).1 = (l.entry call.device).line call := by rw [perform_eq]

theorem find?_perform (l : QueueLedger) (call : Call) (d : DeviceId) :
    (l.perform call).2.find? d =
      if call.device = d then some ((l.entry d).after call) else l.find? d := by
  rw [perform_eq, find?_put]
  by_cases hd : call.device = d
  · rw [if_pos hd, if_pos hd.symm, hd]
  · rw [if_neg hd, if_neg (Ne.symm hd)]

theorem entry_perform (l : QueueLedger) (call : Call) (d : DeviceId) :
    (l.perform call).2.entry d =
      if call.device = d then (l.entry d).after call else l.entry d := by
  rw [entry, find?_perform]
  split_ifs <;> rfl

theorem performAll_cons (l : QueueLedger) (call : Call) (calls : List Call) :
    l.performAll (call :: calls) =
      ((l.perform call).1 :: ((l.perform call).2.performAll calls).1,
        ((l.perform call).2.performAll calls).2) := rfl

/-- The entry of a device comes of the calls on this device, in their order. -/
theorem find?_performAll (l : QueueLedger) (calls : List Call) (d : DeviceId) :
    (l.performAll calls).2.find? d =
      (calls.filter (·.device = d)).foldl (fun e? call => some ((e?.getD .empty).after call))
        (l.find? d) := by
  induction calls generalizing l with
  | nil => rfl
  | cons call calls ih =>
    rw [performAll, ih, find?_perform]
    by_cases hd : call.device = d
    · rw [if_pos hd, List.filter_cons_of_pos (by simpa using hd), List.foldl_cons]
      rfl
    · rw [if_neg hd, List.filter_cons_of_neg (by simpa using hd)]

theorem performAll_keeps {I : QueueLedger → List Line → Prop}
    (hstep : ∀ l history call, I l history →
      I (l.perform call).2 (history ++ [(l.perform call).1])) :
    ∀ (calls : List Call) (l : QueueLedger) (history : List Line), I l history →
      I (l.performAll calls).2 (history ++ (l.performAll calls).1)
  | [], l, history, h => by
    rw [performAll, List.append_nil]
    exact h
  | call :: calls, l, history, h => by
    have hrest := performAll_keeps hstep calls _ _ (hstep l history call h)
    rwa [List.append_assoc] at hrest

/-! ### Counts -/

theorem additions_concat (d : DeviceId) (history : List Line) (line : Line) :
    additions d (history ++ [line]) = additions d history + if line.adds d then 1 else 0 := by
  rw [additions, List.countP_append, List.countP_singleton]
  rfl

theorem removals_concat (d : DeviceId) (history : List Line) (line : Line) :
    removals d (history ++ [line]) = removals d history + if line.removes d then 1 else 0 := by
  rw [removals, List.countP_append, List.countP_singleton]
  rfl

/-- At no time do more queues live on the device than a count can hold. -/
def WithinCount (d : DeviceId) (journal : List Line) : Prop :=
  ∀ front, front <+: journal → additions d front < removals d front + UInt32.size

theorem WithinCount.of_append (h : WithinCount d (history ++ journal)) : WithinCount d history :=
  fun front hfront => h front (hfront.trans (List.prefix_append ..))

theorem withinCount_of_length (h : journal.length < UInt32.size) : WithinCount d journal := by
  intro front hfront
  have hadded : additions d front ≤ front.length := List.countP_le_length
  have hlength := hfront.length_le
  omega

theorem count_perform (l : QueueLedger) (call : Call)
    (hwithin : WithinCount d (history ++ [(l.perform call).1]))
    (h : (l.entry d).count.toNat + removals d history = additions d history) :
    ((l.perform call).2.entry d).count.toNat + removals d (history ++ [(l.perform call).1]) =
      additions d (history ++ [(l.perform call).1]) := by
  have hnow := hwithin _ (List.prefix_refl _)
  rw [entry_perform]
  rw [line_perform, additions_concat, removals_concat] at hnow ⊢
  by_cases hd : call.device = d
  · rw [hd] at hnow ⊢
    rw [if_pos rfl]
    have hroom : ((l.entry d).line call).adds d = true →
        (l.entry d).count.toNat + 1 < UInt32.size := by
      intro hadds
      rw [if_pos hadds, Line.removes_of_adds hadds, if_neg Bool.false_ne_true] at hnow
      omega
    have hstep := (l.entry d).count_after call hd hroom
    omega
  · have hother : ((l.entry call.device).line call).device ≠ d := by rwa [QueueEntry.line_device]
    rw [if_neg hd, Line.adds_of_ne hother, Line.removes_of_ne hother]
    simpa using h

/-- A count is the additions less the removals, while no more queues live than it can hold. -/
theorem count_performAll (calls : List Call) (d : DeviceId) :
    let run := empty.performAll calls
    WithinCount d run.1 →
      (run.2.entry d).count.toNat + removals d run.1 = additions d run.1 := by
  have hkeeps := performAll_keeps (I := fun l history => WithinCount d history →
    (l.entry d).count.toNat + removals d history = additions d history)
    (fun l history call h hwithin => count_perform l call hwithin (h hwithin.of_append))
  intro run hwithin
  exact hkeeps calls empty [] (fun _ => by rw [entry_empty]; rfl) hwithin

/-! ### Default queues -/

/-- The queue was the last one to be added as the default of the device, and was not removed after
that. -/
def Standing (d : DeviceId) (q : QueueId) (journal : List Line) : Prop :=
  ∃ before after, journal = before ++ .added d q true :: after ∧
    (∀ other, .added d other true ∉ after) ∧ .removed d q ∉ after

theorem not_standing_nil (d : DeviceId) (q : QueueId) : ¬Standing d q [] := by
  rintro ⟨before, after, h, -⟩
  exact List.append_ne_nil_of_right_ne_nil _ (List.cons_ne_nil _ _) h.symm

/-- One more line lets a queue stand if it adds it as the default, or if the queue stood before and
the line neither adds a default nor removes it. -/
theorem standing_concat : Standing d q (history ++ [line]) ↔ line = .added d q true ∨
    Standing d q history ∧ (∀ other, line ≠ .added d other true) ∧ line ≠ .removed d q := by
  constructor
  · rintro ⟨before, after, heq, hlast, hkept⟩
    obtain rfl | ⟨front, final, rfl⟩ := List.eq_nil_or_concat' after
    · obtain ⟨-, hline⟩ := List.append_inj' heq rfl
      exact .inl (List.singleton_inj.mp hline)
    · rw [← List.cons_append, ← List.append_assoc] at heq
      obtain ⟨rfl, hline⟩ := List.append_inj' heq rfl
      cases List.singleton_inj.mp hline
      simp only [List.mem_append, List.mem_singleton, not_or] at hlast hkept
      exact .inr ⟨⟨before, front, rfl, fun other => (hlast other).1, hkept.1⟩,
        fun other => Ne.symm (hlast other).2, Ne.symm hkept.2⟩
  · rintro (rfl | ⟨⟨before, after, rfl, hlast, hkept⟩, hadds, hremoves⟩)
    · exact ⟨history, [], rfl, fun _ => List.not_mem_nil, List.not_mem_nil⟩
    · refine ⟨before, after ++ [line], by simp, fun other => ?_, ?_⟩
      · simp [hlast other, Ne.symm (hadds other)]
      · simp [hkept, Ne.symm hremoves]

theorem default_perform (l : QueueLedger) (call : Call)
    (h : (l.entry d).defaultQueue = some q ↔ Standing d q history) :
    ((l.perform call).2.entry d).defaultQueue = some q ↔
      Standing d q (history ++ [(l.perform call).1]) := by
  rw [entry_perform, line_perform, standing_concat, ← h]
  by_cases hd : call.device = d
  · rw [if_pos hd, hd]
    exact (l.entry d).defaultQueue_after call hd q
  · have hother : ((l.entry call.device).line call).device ≠ d := by rwa [QueueEntry.line_device]
    rw [if_neg hd]
    have hline : ∀ line : Line, line.device = d → (l.entry call.device).line call ≠ line := by
      rintro line hline rfl
      exact hother hline
    rw [or_iff_right (hline _ rfl), and_iff_left]
    exact ⟨fun other => hline _ rfl, hline _ rfl⟩

/-- The default queue is the one that stands. -/
theorem defaultQueue_performAll (calls : List Call) (d : DeviceId) (q : QueueId) :
    let run := empty.performAll calls
    run.2.defaultQueue d = some q ↔ Standing d q run.1 := by
  have hkeeps := performAll_keeps
    (I := fun l history => (l.entry d).defaultQueue = some q ↔ Standing d q history)
    (fun l history call h => default_perform l call h)
  exact hkeeps calls empty [] (by simp [entry_empty, QueueEntry.empty, not_standing_nil])

theorem remove_result (l : QueueLedger) (d : DeviceId) (q : QueueId) :
    (l.remove d q).1 = if (l.entry d).count = 0 then .error ⟨d, q⟩ else .ok () := by
  rw [remove]
  split_ifs <;> rfl

/-- **An entry can be read off the journal.** Whatever is added and removed, in any order and under
identities that may repeat: while fewer queues live on a device than a count can hold, its count is
the additions less the removals, and one more removal is refused exactly if these are equal. Its
default queue is the one last added as the default, unless that one was removed after it. All of
this depends on nothing but the calls on the device. -/
theorem entry_read_off_journal (calls : List Call) (d : DeviceId) :
    let run := empty.performAll calls
    (WithinCount d run.1 →
      (run.2.entry d).count.toNat + removals d run.1 = additions d run.1 ∧
      ∀ q, (run.2.remove d q).1 =
        if additions d run.1 = removals d run.1 then .error ⟨d, q⟩ else .ok ()) ∧
    (∀ q, run.2.defaultQueue d = some q ↔ Standing d q run.1) ∧
    ∀ others : List Call, others.filter (·.device = d) = calls.filter (·.device = d) →
      let other := (empty.performAll others).2
      other.find? d = run.2.find? d ∧ other.defaultQueue d = run.2.defaultQueue d ∧
        ∀ inventory, other.canAdd inventory d = run.2.canAdd inventory d := by
  intro run
  refine ⟨fun hwithin => ?_, defaultQueue_performAll calls d, fun others hsame => ?_⟩
  · have hcount : (run.2.entry d).count.toNat + removals d run.1 = additions d run.1 :=
      count_performAll calls d hwithin
    have hzero : (run.2.entry d).count = 0 ↔ additions d run.1 = removals d run.1 := by
      rw [← UInt32.toNat_inj, UInt32.toNat_zero]
      omega
    refine ⟨hcount, fun q => ?_⟩
    rw [remove_result]
    exact if_congr hzero rfl rfl
  · intro other
    have hfind : other.find? d = run.2.find? d := by
      simp only [other, run, find?_performAll, hsame]
    have hentry : other.entry d = run.2.entry d := congrArg (·.getD .empty) hfind
    refine ⟨hfind, ?_, fun inventory => ?_⟩
    · rw [defaultQueue, hentry, defaultQueue]
    · rw [canAdd, hentry, canAdd]

/-- A second default queue replaces the first, whose removal leaves it alone. Meanwhile a removal is
refused on another device, to which the first device's entry owes nothing. -/
theorem second_default_stands :
    let calls : List Call :=
      [.add ⟨0⟩ ⟨7⟩ true, .remove ⟨1⟩ ⟨7⟩, .add ⟨0⟩ ⟨8⟩ true, .remove ⟨0⟩ ⟨7⟩]
    let run := empty.performAll calls
    let alone := (empty.performAll [.add ⟨0⟩ ⟨7⟩ true, .add ⟨0⟩ ⟨8⟩ true, .remove ⟨0⟩ ⟨7⟩]).2
    run.1 = [.added ⟨0⟩ ⟨7⟩ true, .refused ⟨1⟩ ⟨7⟩, .added ⟨0⟩ ⟨8⟩ true, .removed ⟨0⟩ ⟨7⟩] ∧
      (run.2.entry ⟨0⟩).count.toNat = 1 ∧ (run.2.remove ⟨0⟩ ⟨9⟩).1.isOk = true ∧
      run.2.defaultQueue ⟨0⟩ = some ⟨8⟩ ∧ alone.find? ⟨0⟩ = run.2.find? ⟨0⟩ := by
  intro calls run alone
  have hjournal : run.1 =
      [.added ⟨0⟩ ⟨7⟩ true, .refused ⟨1⟩ ⟨7⟩, .added ⟨0⟩ ⟨8⟩ true, .removed ⟨0⟩ ⟨7⟩] := by
    simp [run, calls, performAll, perform_eq, entry_put, entry_empty, Call.device, QueueEntry.line,
      QueueEntry.after, QueueEntry.add, QueueEntry.empty]
  have hwithin : WithinCount ⟨0⟩ run.1 := by
    apply withinCount_of_length
    rw [hjournal]
    decide
  obtain ⟨hcounted, hdefault, halone⟩ := entry_read_off_journal calls ⟨0⟩
  obtain ⟨hcount, hremove⟩ := hcounted hwithin
  have hadditions : additions ⟨0⟩ run.1 = 2 := by
    rw [hjournal]
    rfl
  have hremovals : removals ⟨0⟩ run.1 = 1 := by
    rw [hjournal]
    rfl
  refine ⟨hjournal, ?_, ?_, ?_, (halone _ (by decide)).1⟩
  · rw [hadditions, hremovals] at hcount
    exact Nat.succ.inj hcount
  · rw [hremove, hadditions, hremovals]
    rfl
  · rw [hdefault, hjournal]
    exact ⟨[.added ⟨0⟩ ⟨7⟩ true, .refused ⟨1⟩ ⟨7⟩], [.removed ⟨0⟩ ⟨7⟩], rfl, by simp, by simp⟩

end QueueLedger
end ComputeContext
