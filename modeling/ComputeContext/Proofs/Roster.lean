/-
# The devices of a roster that share memory

The allocation order of a roster is the client's list without the devices
that share no memory, with two of them exchanged at most. At its front stands
the first of them whose coherence does not cover all of the system's memory,
if there is any (`Roster.head?_svmDevices_ofList`).

The exchange moves no other device: the two that change places are the front
one and the first that fails the test, and each further place keeps its device
(`exchanged_exchangeFront`). After it the front fails the test if any device
does, so exchanging again changes nothing (`exchangeFront_idem`).

Key definitions: `FirstAt`, `Exchanged`.
Key theorems: `exchangeFront_perm`, `head?_exchangeFront`,
`exchanged_exchangeFront`, `exchangeFront_idem`,
`Roster.mem_svmDevices_ofList`, `Roster.head?_svmDevices_ofList`,
`Roster.one_exchange_puts_strictest_first`.
-/
import ComputeContext.Device
import Mathlib.Data.List.Perm.Basic

namespace ComputeContext

/-- The first element of the list that passes the test stands at place `i`. -/
structure FirstAt {α : Type} (p : α → Bool) (l : List α) (i : Nat) : Prop where
  passes : ∃ a, l[i]? = some a ∧ p a = true
  first : ∀ j < i, ∀ a, l[j]? = some a → p a = false

/-- The second list is the first one after its front and place `i` have been exchanged. -/
structure Exchanged {α : Type} (i : Nat) (l l' : List α) : Prop where
  front : l'[0]? = l[i]?
  back : l'[i]? = l[0]?
  others : ∀ j, j ≠ 0 → j ≠ i → l'[j]? = l[j]?

theorem findIdx?_eq_some_iff_firstAt {α : Type} {p : α → Bool} {l : List α} {i : Nat} :
    l.findIdx? p = some i ↔ FirstAt p l i := by
  rw [List.findIdx?_eq_some_iff_getElem]
  constructor
  · rintro ⟨hi, hpasses, hfirst⟩
    refine ⟨⟨l[i], List.getElem?_eq_getElem hi, hpasses⟩, ?_⟩
    intro j hj a ha
    obtain ⟨hlt, rfl⟩ := List.getElem?_eq_some_iff.mp ha
    exact Bool.eq_false_iff.mpr (hfirst j hj)
  · rintro ⟨⟨a, ha, hpasses⟩, hfirst⟩
    obtain ⟨hi, rfl⟩ := List.getElem?_eq_some_iff.mp ha
    refine ⟨hi, hpasses, ?_⟩
    intro j hj
    have hlt : j < l.length := Nat.lt_trans hj hi
    exact Bool.eq_false_iff.mp (hfirst j hj _ (List.getElem?_eq_getElem hlt))

theorem find?_eq_some_iff_firstAt {α : Type} {p : α → Bool} {l : List α} {a : α} :
    l.find? p = some a ↔ ∃ i, FirstAt p l i ∧ l[i]? = some a := by
  rw [List.find?_eq_bind_findIdx?_getElem?, Option.bind_eq_some_iff]
  simp only [findIdx?_eq_some_iff_firstAt]

theorem exists_firstAt {α : Type} {p : α → Bool} {l : List α} (h : ∃ a ∈ l, p a = true) :
    ∃ i, FirstAt p l i := by
  have hfound : (l.findIdx? p).isSome = true := by
    rw [List.findIdx?_isSome, List.any_eq_true]
    exact h
  obtain ⟨i, hi⟩ := Option.isSome_iff_exists.mp hfound
  exact ⟨i, findIdx?_eq_some_iff_firstAt.mp hi⟩

/-- Behind an element that fails the test, the first that passes stands one place earlier in the
rest. -/
theorem FirstAt.tail {α : Type} {p : α → Bool} {a : α} {as : List α} {i : Nat}
    (h : FirstAt p (a :: as) (i + 1)) : FirstAt p as i :=
  ⟨h.passes, fun j hj => h.first (j + 1) (Nat.succ_lt_succ hj)⟩

theorem exchangeFront_perm {α : Type} (p : α → Bool) (l : List α) : (exchangeFront p l).Perm l := by
  cases l with
  | nil => exact .refl _
  | cons a as =>
    simp only [exchangeFront]
    split_ifs
    · cases hi : as.findIdx? (!p ·) with
      | none => exact .refl _
      | some i =>
        have hlt : i < as.length := (List.findIdx?_eq_some_iff_findIdx_eq.mp hi).1
        have hget : as.getD i a = as[i] := by simp [hlt]
        have hset : (as[i] :: as.set i a).Perm (as[i] :: a :: as.eraseIdx i) :=
          (List.set_perm_cons_eraseIdx hlt a).cons _
        have hback : (a :: as[i] :: as.eraseIdx i).Perm (a :: as) :=
          (List.getElem_cons_eraseIdx_perm hlt).cons _
        simp only [hget]
        exact hset.trans ((List.Perm.swap _ _ _).trans hback)
    · exact .refl _

/-- At the front stands the first element that fails the test, if there is any. -/
theorem head?_exchangeFront {α : Type} (p : α → Bool) (l : List α) :
    (exchangeFront p l).head? = (l.find? (!p ·)).or l.head? := by
  cases l with
  | nil => rfl
  | cons a as =>
    by_cases ha : p a = true
    · have hfind : (a :: as).find? (!p ·) = (as.findIdx? (!p ·)).bind fun i => as[i]? := by
        rw [List.find?_cons_of_neg (by simp [ha]), List.find?_eq_bind_findIdx?_getElem?]
      rw [hfind]
      cases hi : as.findIdx? (!p ·) with
      | none => simp [exchangeFront, ha, hi]
      | some i =>
        have hlt : i < as.length := (List.findIdx?_eq_some_iff_findIdx_eq.mp hi).1
        simp [exchangeFront, ha, hi, hlt]
    · have hfind : (a :: as).find? (!p ·) = some a := List.find?_cons_of_pos (by simp [ha])
      rw [hfind]
      simp [exchangeFront, ha]

theorem exchangeFront_of_front {α : Type} {p : α → Bool} {l : List α} {a : α}
    (hfront : l.head? = some a) (h : p a = false) : exchangeFront p l = l := by
  obtain ⟨as, rfl⟩ := List.head?_eq_some_iff.mp hfront
  simp only [exchangeFront, h, Bool.false_eq_true, ↓reduceIte]

theorem exchangeFront_of_all {α : Type} {p : α → Bool} {l : List α} (h : ∀ a ∈ l, p a = true) :
    exchangeFront p l = l := by
  cases l with
  | nil => rfl
  | cons a as =>
    have hnone : as.findIdx? (!p ·) = none := by
      rw [List.findIdx?_eq_none_iff]
      intro b hb
      rw [h b (List.mem_cons_of_mem a hb), Bool.not_true]
    simp only [exchangeFront, hnone, ite_self]

/-- The front changes places with the first element that fails the test. -/
theorem exchanged_exchangeFront {α : Type} {p : α → Bool} {l : List α} {i : Nat}
    (h : FirstAt (!p ·) l i) : Exchanged i l (exchangeFront p l) := by
  cases i with
  | zero =>
    obtain ⟨a, hfront, ha⟩ := h.passes
    rw [Bool.not_eq_true'] at ha
    rw [← List.head?_eq_getElem?] at hfront
    rw [exchangeFront_of_front hfront ha]
    exact ⟨rfl, rfl, fun _ _ _ => rfl⟩
  | succ k =>
    cases l with
    | nil =>
      obtain ⟨a, ha, -⟩ := h.passes
      cases ha
    | cons a as =>
      have ha : p a = true := by
        have hfirst := h.first 0 (Nat.succ_pos k) a rfl
        rwa [Bool.not_eq_false'] at hfirst
      have hk : as.findIdx? (!p ·) = some k := findIdx?_eq_some_iff_firstAt.mpr h.tail
      have hlt : k < as.length := (List.findIdx?_eq_some_iff_findIdx_eq.mp hk).1
      have horder : exchangeFront p (a :: as) = as.getD k a :: as.set k a := by
        simp only [exchangeFront, ha, hk, ↓reduceIte]
      have hget : as.getD k a = as[k] := by simp [hlt]
      rw [horder]
      refine ⟨?_, ?_, ?_⟩
      · rw [List.getElem?_cons_zero, List.getElem?_cons_succ, hget, List.getElem?_eq_getElem hlt]
      · rw [List.getElem?_cons_zero, List.getElem?_cons_succ, List.getElem?_set_self hlt]
      · intro j hzero hj
        obtain ⟨m, rfl⟩ := Nat.exists_eq_succ_of_ne_zero hzero
        have hm : k ≠ m := fun heq => hj (congrArg Nat.succ heq.symm)
        rw [List.getElem?_cons_succ, List.getElem?_cons_succ, List.getElem?_set_ne hm]

/-- Exchanging a second time changes nothing. -/
theorem exchangeFront_idem {α : Type} (p : α → Bool) (l : List α) :
    exchangeFront p (exchangeFront p l) = exchangeFront p l := by
  cases hfind : l.find? (!p ·) with
  | none =>
    have hall : ∀ a ∈ l, p a = true := by
      intro a ha
      have hpasses := List.find?_eq_none.mp hfind a ha
      rwa [Bool.not_eq_true, Bool.not_eq_false'] at hpasses
    rw [exchangeFront_of_all hall, exchangeFront_of_all hall]
  | some a =>
    have hfront : (exchangeFront p l).head? = some a := by
      rw [head?_exchangeFront, hfind, Option.some_or]
    have ha : p a = false := by
      have hfails := List.find?_some hfind
      rwa [Bool.not_eq_true'] at hfails
    exact exchangeFront_of_front hfront ha

namespace Roster

/-- The devices in allocation order are the client's that share memory. -/
theorem mem_svmDevices_ofList (inventory : Inventory) (devices : List DeviceId) (d : DeviceId) :
    d ∈ (ofList inventory devices).svmDevices ↔
      d ∈ devices ∧ (inventory d).supportsSvm = true := by
  rw [ofList, (exchangeFront_perm _ _).mem_iff, List.mem_filter]

theorem nodup_svmDevices_ofList (inventory : Inventory) {devices : List DeviceId}
    (h : devices.Nodup) : (ofList inventory devices).svmDevices.Nodup :=
  (exchangeFront_perm _ _).nodup_iff.mpr (h.filter _)

/-- The first device in allocation order is the first one of the list that shares memory, but not
all of the system's, if there is such a device. -/
theorem head?_svmDevices_ofList (inventory : Inventory) (devices : List DeviceId) {d : DeviceId}
    (h : devices.find? (fun d => (inventory d).supportsSvm && !(inventory d).isFineGrainedSystem) =
      some d) : (ofList inventory devices).svmDevices.head? = some d := by
  have hfirst : (devices.filter fun d => (inventory d).supportsSvm).find?
      (fun d => !(inventory d).isFineGrainedSystem) = some d := by
    rw [← h, List.find?_filter]
    simp only [Bool.decide_and, Bool.decide_eq_true]
  rw [ofList, head?_exchangeFront, hfirst, Option.some_or]

/-- **The allocation order is the client's order after one exchange.** A roster keeps the client's
list. In allocation order stand the devices of it that share memory, as the client gave them if the
first of them lacks fine-grained system memory or none does; otherwise the first one has changed
places with the first that lacks it, and all others stand where they stood. So a device that lacks
it comes first if there is any, namely the first such device of the list, and ordering once more
changes nothing. The host allocator is the first device of the list that has one, if any does. -/
theorem one_exchange_puts_strictest_first (inventory : Inventory) (devices : List DeviceId) :
    let r := ofList inventory devices
    let covers := fun d => (inventory d).isFineGrainedSystem
    let sharing := devices.filter fun d => (inventory d).supportsSvm
    let unmoved := (∃ d, sharing[0]? = some d ∧ covers d = false) ∨ ∀ d ∈ sharing, covers d = true
    r.devices = devices ∧ r.svmDevices.Perm sharing ∧ (unmoved → r.svmDevices = sharing) ∧
      (¬unmoved → ∃ i, i ≠ 0 ∧ FirstAt (!covers ·) sharing i ∧ Exchanged i sharing r.svmDevices) ∧
      ((∃ d ∈ sharing, covers d = false) → ∃ i,
        FirstAt (fun d => (inventory d).supportsSvm && !covers d) devices i ∧
          r.svmDevices[0]? = devices[i]?) ∧
      exchangeFront covers r.svmDevices = r.svmDevices ∧
      (∀ d, r.hostAllocator = some d ↔
        ∃ i, FirstAt (fun d => (inventory d).hasHostAllocator) devices i ∧ devices[i]? = some d) ∧
      (r.hostAllocator = none ↔ ∀ d ∈ devices, (inventory d).hasHostAllocator = false) := by
  intro r covers sharing unmoved
  refine ⟨rfl, exchangeFront_perm covers sharing, ?_, ?_, ?_, exchangeFront_idem covers sharing,
    fun d => find?_eq_some_iff_firstAt, ?_⟩
  · rintro (⟨d, hfront, hd⟩ | hall)
    · rw [← List.head?_eq_getElem?] at hfront
      exact exchangeFront_of_front hfront hd
    · exact exchangeFront_of_all hall
  · -- The front covers the system and another does not, so the first that does not stands behind.
    intro hmoved
    obtain ⟨hfront, hlacks⟩ := not_or.mp hmoved
    obtain ⟨d, hd, hcovers⟩ : ∃ d ∈ sharing, (!covers d) = true := by
      simpa using hlacks
    obtain ⟨i, hi⟩ : ∃ i, FirstAt (!covers ·) sharing i := exists_firstAt ⟨d, hd, hcovers⟩
    refine ⟨i, ?_, hi, exchanged_exchangeFront hi⟩
    rintro rfl
    obtain ⟨e, he, hnot⟩ := hi.passes
    exact hfront ⟨e, he, by rwa [Bool.not_eq_true'] at hnot⟩
  · rintro ⟨d, hd, hcovers⟩
    obtain ⟨hmem, hshares⟩ := List.mem_filter.mp hd
    obtain ⟨i, hi⟩ : ∃ i, FirstAt (fun d => (inventory d).supportsSvm && !covers d) devices i :=
      exists_firstAt ⟨d, hmem, by rw [hshares, hcovers]; rfl⟩
    obtain ⟨e, he, -⟩ := hi.passes
    have hstrictest : devices.find? (fun d => (inventory d).supportsSvm && !covers d) = some e :=
      find?_eq_some_iff_firstAt.mpr ⟨i, hi, he⟩
    refine ⟨i, hi, ?_⟩
    rw [he, ← List.head?_eq_getElem?]
    exact head?_svmDevices_ofList inventory devices hstrictest
  · show devices.find? _ = none ↔ _
    rw [List.find?_eq_none]
    simp only [Bool.not_eq_true]

/-- Of five devices four share memory, and the third of these is the first that lacks fine-grained
system memory: it changes places with the front one. In a list that starts with it nothing moves. -/
theorem third_device_leads :
    let inventory : Inventory := fun d =>
      ⟨⟨"gpu", ⟨[15, 0, 15, 1, 1].getD d.index 0⟩, 0⟩, d.index = 1⟩
    let r := ofList inventory [⟨0⟩, ⟨1⟩, ⟨2⟩, ⟨3⟩, ⟨4⟩]
    r.svmDevices = [⟨3⟩, ⟨2⟩, ⟨0⟩, ⟨4⟩] ∧ r.hostAllocator = some ⟨1⟩ ∧
      (∃ i, i ≠ 0 ∧ Exchanged i [⟨0⟩, ⟨2⟩, ⟨3⟩, ⟨4⟩] r.svmDevices) ∧
      (∃ i : Nat, r.svmDevices[0]? = [(⟨0⟩ : DeviceId), ⟨1⟩, ⟨2⟩, ⟨3⟩, ⟨4⟩][i]?) ∧
      (ofList inventory [⟨3⟩, ⟨0⟩]).svmDevices = [⟨3⟩, ⟨0⟩] := by
  intro inventory r
  obtain ⟨-, -, -, hmoved, hstrictest, -, -, -⟩ :=
    one_exchange_puts_strictest_first inventory [⟨0⟩, ⟨1⟩, ⟨2⟩, ⟨3⟩, ⟨4⟩]
  obtain ⟨-, -, hunmoved, -⟩ := one_exchange_puts_strictest_first inventory [⟨3⟩, ⟨0⟩]
  refine ⟨by decide, by decide, ?_, ?_, hunmoved (.inl ⟨⟨3⟩, by decide, by decide⟩)⟩
  · have hfront : ¬((∃ d, [(⟨0⟩ : DeviceId), ⟨2⟩, ⟨3⟩, ⟨4⟩][0]? = some d ∧
        (inventory d).isFineGrainedSystem = false) ∨
        ∀ d ∈ [(⟨0⟩ : DeviceId), ⟨2⟩, ⟨3⟩, ⟨4⟩], (inventory d).isFineGrainedSystem = true) := by
      rintro (⟨d, hd, hlacks⟩ | hall)
      · cases hd
        revert hlacks
        decide
      · have hthird := hall ⟨3⟩ (by decide)
        revert hthird
        decide
    obtain ⟨i, hi, -, hexchanged⟩ := hmoved hfront
    exact ⟨i, hi, hexchanged⟩
  · obtain ⟨i, -, hi⟩ := hstrictest ⟨⟨3⟩, by decide, by decide⟩
    exact ⟨i, hi⟩

end Roster
end ComputeContext
