/-
# Stocks

A stock is what is held between calls that add to it and take from it, such as
the library of a context or the blocks of a heap. Not every call may be made
at any time: what is not held cannot be taken, and there may be no room for
more. A history can be followed as long as each of its calls may be made, and
then everything that was held or added is still held or has been taken
(`Stock.run_perm`).

Key definitions: `Stock`, `Stock.run`, `Stock.gained`, `Stock.lost`.
Key theorems: `Stock.run_append`, `Stock.run_perm`, `Stock.gained_perm_lost`.
-/
import Mathlib.Data.List.Perm.Basic

namespace ComputeContext

/-- What is held between calls: `ε` the calls, `κ` the states of the stock, `α` what it consists
of. -/
structure Stock (ε κ α : Type) where
  /-- The stock after a call, if the call may be made. -/
  after : κ → ε → Option κ
  /-- What is held. -/
  items : κ → List α
  /-- What the call adds. -/
  gain? : ε → Option α
  /-- What the call takes. -/
  loss? : ε → Option α
  balanced : ∀ {k k' : κ} {e : ε}, after k e = some k' →
    (items k ++ (gain? e).toList).Perm (items k' ++ (loss? e).toList)

namespace Stock

variable {ε κ α : Type} (t : Stock ε κ α) {k k' : κ} {calls : List ε}

/-- The stock after a history, if every call of it may be made. -/
def run (k : κ) (calls : List ε) : Option κ := calls.foldlM t.after k

/-- What a history adds, in order. -/
def gained (calls : List ε) : List α := calls.filterMap t.gain?

/-- What a history takes, in order. -/
def lost (calls : List ε) : List α := calls.filterMap t.loss?

@[simp] theorem run_nil (k : κ) : t.run k [] = some k := rfl

theorem run_cons (k : κ) (e : ε) (calls : List ε) :
    t.run k (e :: calls) = (t.after k e).bind fun k' => t.run k' calls := List.foldlM_cons

theorem run_append (k : κ) (es fs : List ε) :
    t.run k (es ++ fs) = (t.run k es).bind fun k' => t.run k' fs := List.foldlM_append

theorem run_of_forall (h : ∀ e ∈ calls, t.after k e = some k) : t.run k calls = some k := by
  induction calls with
  | nil => rfl
  | cons e calls ih =>
    obtain ⟨he, hrest⟩ := List.forall_mem_cons.mp h
    rw [run_cons, he, Option.bind_some]
    exact ih hrest

theorem gained_cons (e : ε) (calls : List ε) :
    t.gained (e :: calls) = (t.gain? e).toList ++ t.gained calls := by
  rw [gained, List.filterMap_cons]
  cases t.gain? e <;> rfl

theorem lost_cons (e : ε) (calls : List ε) :
    t.lost (e :: calls) = (t.loss? e).toList ++ t.lost calls := by
  rw [lost, List.filterMap_cons]
  cases t.loss? e <;> rfl

open scoped List in
/-- What was held before a history or is added by it is taken by it or held after it. -/
theorem run_perm (h : t.run k calls = some k') :
    (t.items k ++ t.gained calls).Perm (t.items k' ++ t.lost calls) := by
  induction calls generalizing k with
  | nil =>
    cases h
    exact .refl _
  | cons e calls ih =>
    rw [run_cons, Option.bind_eq_some_iff] at h
    obtain ⟨between, hcall, hrest⟩ := h
    rw [gained_cons, lost_cons]
    calc t.items k ++ ((t.gain? e).toList ++ t.gained calls)
      _ = t.items k ++ (t.gain? e).toList ++ t.gained calls := (List.append_assoc ..).symm
      _ ~ t.items between ++ (t.loss? e).toList ++ t.gained calls :=
        (t.balanced hcall).append_right _
      _ ~ (t.loss? e).toList ++ (t.items between ++ t.gained calls) := by
        rw [← List.append_assoc]
        exact List.perm_append_comm.append_right _
      _ ~ (t.loss? e).toList ++ (t.items k' ++ t.lost calls) := (ih hrest).append_left _
      _ ~ t.items k' ++ ((t.loss? e).toList ++ t.lost calls) := List.perm_append_comm_assoc ..

theorem length_gained (hempty : t.items k = []) (h : t.run k calls = some k') :
    (t.gained calls).length = (t.lost calls).length + (t.items k').length := by
  have hlength := (t.run_perm h).length_eq
  rwa [hempty, List.nil_append, List.length_append, Nat.add_comm] at hlength

theorem lost_perm_gained (hempty : t.items k = []) (hleft : t.items k' = [])
    (h : t.run k calls = some k') : (t.lost calls).Perm (t.gained calls) := by
  have hperm := t.run_perm h
  rw [hempty, hleft] at hperm
  exact hperm.symm

end Stock
end ComputeContext
