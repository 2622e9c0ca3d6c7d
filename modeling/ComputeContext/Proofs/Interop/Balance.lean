/-
# The balance of bindings

A device that accepts its binding is bound until it is unbound. However
requests, lists and answers change from one operation to the next, a device
that is bound is not asked again and one that is not bound is not unbound, so
the bound devices are what is held of a history: an accepted binding adds a
device and an unbinding takes it (`Bindings.held`). No device is held twice.
That is why unbinding, which takes out the first place of a device, takes it
out altogether, and why the acceptances of a device are as many as its
unbindings, and one more while it is bound.

Key definitions: `Bindings.held`, `Bindings.Operation`, `Bindings.performAll`,
`Bindings.Follows`.
Key theorems: `Bindings.Asking.run_held`, `Bindings.run_held_unbind`,
`Bindings.Follows.performAll`, `Bindings.bound_while_accepted`.
-/
import ComputeContext.Proofs.Interop.Bindings
import ComputeContext.Proofs.Stock
import ComputeContext.Simulation.World
import Mathlib.Data.Finset.Card

namespace ComputeContext

/-- The device that the call unbound. -/
def Event.unbinds? : Event → Option DeviceId
  | .unbind d _ _ => some d
  | _ => none

namespace Bindings

variable {σ : Type} {r : Interop.Request} {bs bs' : Bindings} {ds : List DeviceId} {d : DeviceId}
  {calls history : List Event} {refused : Nat}

/-- The bindings after a call. There are none after one by which a device that is bound accepts, or
one that is not bound is unbound. -/
def afterCall (bs : Bindings) : Event → Option Bindings
  | .bind d _ _ true => if bs.isBound d then none else some ⟨bs.bound ++ [d]⟩
  | .unbind d _ _ => (bs.bound.idxOf? d).map fun i => ⟨swapRemove bs.bound i⟩
  | _ => some bs

open scoped List in
theorem afterCall_perm {e : Event} (h : afterCall bs e = some bs') :
    (bs.bound ++ e.binds?.toList).Perm (bs'.bound ++ e.unbinds?.toList) := by
  cases e with
  | bind d r validateOnly accepted =>
    cases accepted with
    | true =>
      obtain ⟨-, hbound⟩ := Option.ite_none_left_eq_some.mp h
      cases hbound
      simp [Event.binds?, Event.unbinds?]
    | false =>
      cases h
      exact .refl _
  | unbind d r validateOnly =>
    obtain ⟨i, hi, rfl⟩ := Option.map_eq_some_iff.mp h
    have hd : d ∈ bs.bound := by simp [← List.isSome_idxOf?, hi]
    calc bs.bound ++ []
      _ = bs.bound := List.append_nil _
      _ ~ d :: bs.bound.erase d := List.perm_cons_erase hd
      _ ~ d :: swapRemove bs.bound i := (swapRemove_perm_erase hi).symm.cons d
      _ ~ swapRemove bs.bound i ++ [d] := (List.perm_append_singleton d _).symm
  | _ =>
    cases h
    exact .refl _

/-- The devices that are bound: an accepted binding adds one, an unbinding takes one. -/
def held : Stock Event Bindings DeviceId where
  after := afterCall
  items := bound
  gain? := Event.binds?
  loss? := Event.unbinds?
  balanced := afterCall_perm

theorem Asking.run_held (h : Asking r bs ds calls refused bs') : held.run bs calls = some bs' := by
  induction h with
  | done => rfl
  | passed _ _ ih => exact ih
  | @accepted bs _ d _ _ _ hd _ ih =>
    have hfree : ¬bs.isBound d = true := fun hbound => hd (isBound_iff.mp hbound)
    have hcall : held.after bs (.bind d r false true) = some ⟨bs.bound ++ [d]⟩ := if_neg hfree
    rw [Stock.run_cons, hcall, Option.bind_some]
    exact ih
  | @refused bs _ d _ _ _ _ _ ih =>
    have hcall : held.after bs (.bind d r false false) = some bs := rfl
    rw [Stock.run_cons, hcall, Option.bind_some]
    exact ih

theorem run_held_unbind (b : Backend σ) (bs : Bindings) (d : DeviceId) (r : Interop.Request)
    (s : σ) :
    let o := (bs.unbind b d r).run s
    held.run bs o.events = some o.value.2 := by
  intro o
  simp only [o, unbind]
  cases hi : bs.bound.idxOf? d with
  | none => rfl
  | some i =>
    have hcall : held.after bs (.unbind d r false) = some ⟨swapRemove bs.bound i⟩ := by
      simp [held, afterCall, hi]
    simp only [Backend.unbind, Act.bind_events, Act.call_events, Act.pure_events, List.append_nil,
      Act.bind_value, Act.pure_value]
    rw [Stock.run_cons, hcall]
    rfl

theorem unbind_answer (b : Backend σ) (bs : Bindings) (d : DeviceId) (r : Interop.Request) (s : σ) :
    ((bs.unbind b d r).run s).value.1 = bs.isBound d := by
  rw [Bool.eq_iff_iff, isBound_iff, ← List.isSome_idxOf?, unbind]
  cases bs.bound.idxOf? d <;> simp

/-! ### Any operations -/

/-- What is done with bindings. -/
inductive Operation
  | bind (devices : List DeviceId) (request : Interop.Request)
  | unbind (device : DeviceId) (request : Interop.Request)

/-- The bindings after an operation. -/
def perform (b : Backend σ) (bs : Bindings) : Operation → Run σ Bindings
  | .bind ds r => Prod.snd <$> bs.bindAll b ds r
  | .unbind d r => Prod.snd <$> bs.unbind b d r

/-- The bindings after operations. -/
def performAll (b : Backend σ) (bs : Bindings) : List Operation → Run σ Bindings
  | [] => pure bs
  | op :: ops => do
    let bs ← bs.perform b op
    performAll b bs ops

/-- The bindings are what is held of their history, and no device is bound twice. -/
structure Follows (bs : Bindings) (history : List Event) : Prop where
  held : held.run .empty history = some bs
  nodup : bs.bound.Nodup

theorem Follows.start : Follows .empty [] where
  held := rfl
  nodup := List.nodup_nil

theorem Follows.append (h : Follows bs history) (hcalls : Bindings.held.run bs calls = some bs')
    (hnodup : bs'.bound.Nodup) : Follows bs' (history ++ calls) where
  held := by rw [Stock.run_append, h.held, Option.bind_some, hcalls]
  nodup := hnodup

theorem Follows.perform (h : Follows bs history) (b : Backend σ) (op : Operation) (s : σ) :
    let o := (bs.perform b op).run s
    Follows o.value (history ++ o.events) := by
  intro o
  cases op with
  | bind ds r =>
    obtain ⟨refused, hasks, -⟩ := bindAll_asks b bs ds r s
    simp only [o, Bindings.perform, Act.map_value, Act.map_events]
    exact h.append hasks.run_held (hasks.nodup h.nodup)
  | unbind d r =>
    have hperm := unbind_bound_perm b bs d r s
    simp only [o, Bindings.perform, Act.map_value, Act.map_events]
    exact h.append (run_held_unbind b bs d r s) (hperm.nodup_iff.mpr (h.nodup.erase d))

theorem Follows.performAll (b : Backend σ) : ∀ (ops : List Operation) {bs : Bindings}
    {history : List Event} (s : σ), Follows bs history →
      Follows ((bs.performAll b ops).run s).value
        (history ++ ((bs.performAll b ops).run s).events)
  | [], bs, history, s, h => by
    rw [Bindings.performAll, Act.pure_value, Act.pure_events, List.append_nil]
    exact h
  | op :: ops, bs, history, s, h => by
    have hrest := Follows.performAll b ops ((bs.perform b op).run s).state (h.perform b op s)
    rw [Bindings.performAll, Act.bind_value, Act.bind_events, ← List.append_assoc]
    exact hrest

/-- A device has accepted as often as it has been unbound, and once more if it is bound. -/
theorem Follows.count_accepted (h : Follows bs history) (d : DeviceId) :
    (history.filterMap Event.binds?).count d =
      (history.filterMap Event.unbinds?).count d + if bs.isBound d then 1 else 0 := by
  have hcount := (Bindings.held.run_perm h.held).count_eq d
  have hbound : bs.bound.count d = if bs.isBound d then 1 else 0 := by
    simp only [h.nodup.count, isBound_iff]
  rw [List.count_append, List.count_append] at hcount
  change 0 + (history.filterMap Event.binds?).count d =
    bs.bound.count d + (history.filterMap Event.unbinds?).count d at hcount
  omega

theorem Follows.isBound_unbind (h : Follows bs history) (b : Backend σ) (d e : DeviceId)
    (r : Interop.Request) (s : σ) :
    ((bs.unbind b d r).run s).value.2.isBound e = (bs.isBound e && e != d) := by
  have hmem : e ∈ ((bs.unbind b d r).run s).value.2.bound ↔ e ≠ d ∧ e ∈ bs.bound := by
    rw [(unbind_bound_perm b bs d r s).mem_iff, h.nodup.mem_erase_iff]
  rw [Bool.eq_iff_iff, isBound_iff, hmem, Bool.and_eq_true, isBound_iff, bne_iff_ne]
  exact and_comm

/-- **A device is bound while it has accepted once more than it was unbound.** After any bindings
and unbindings, of any lists, under any requests and with any answers: no device is bound twice, and
each has accepted as often as it was unbound, and once more if it is bound. Unbinding a device tells
whether it was bound; if so it is told once and nobody else is, and all others stay as they are. The
devices that are bound are as many as the bindings count. -/
theorem bound_while_accepted (b : Backend σ) (ops : List Operation) (d : DeviceId)
    (r : Interop.Request) (s : σ) :
    let life := (Bindings.empty.performAll b ops).run s
    let bs := life.value
    let o := (bs.unbind b d r).run life.state
    bs.bound.Nodup ∧
    (life.events.filterMap Event.binds?).count d =
      (life.events.filterMap Event.unbinds?).count d + (if bs.isBound d then 1 else 0) ∧
    (o.value.1 = bs.isBound d ∧
      o.events = (if bs.isBound d then [.unbind d r false] else []) ∧
      ∀ e, o.value.2.isBound e = (bs.isBound e && e != d)) ∧
    ∃ devices : Finset DeviceId, (∀ e, e ∈ devices ↔ bs.isBound e = true) ∧
      devices.card = bs.size := by
  intro life bs o
  have hlife : Follows bs life.events := Follows.start.performAll b ops s
  refine ⟨hlife.nodup, hlife.count_accepted d, ⟨unbind_answer b bs d r _, ?_, fun e => ?_⟩, ?_⟩
  · simp only [o, unbind_events, isBound_iff]
  · exact hlife.isBound_unbind b d e r life.state
  · refine ⟨bs.bound.toFinset, fun e => ?_, List.toFinset_card_of_nodup hlife.nodup⟩
    rw [List.mem_toFinset, isBound_iff]

/-- Two devices are bound under one request, the first of them is unbound and bound again under
another, by a list that names it twice; then the second, which now stands first, is unbound. -/
theorem second_unbound_after_first :
    let b := Simulation.backend (fun _ => ⟨⟨"gpu", ∅, 0⟩, false, .plain, false⟩) ⟨[]⟩
    let s := Simulation.State.start (fun _ => .start false false) (fun _ => []) []
    let egl : Interop.Request := ⟨Interop.Flags.glDevice, .set .empty .gl ⟨0x50⟩, ⟨0x70⟩⟩
    let d3d : Interop.Request := ⟨Interop.Flags.d3d10Device, .set .empty .d3d10 ⟨0x60⟩, .null⟩
    let ops : List Operation :=
      [.bind [⟨0⟩, ⟨1⟩] egl, .unbind ⟨0⟩ d3d, .unbind ⟨0⟩ egl, .bind [⟨0⟩, ⟨1⟩, ⟨0⟩] d3d]
    let life := (Bindings.empty.performAll b ops).run s
    let o := (life.value.unbind b ⟨1⟩ egl).run life.state
    life.value.bound = [⟨1⟩, ⟨0⟩] ∧ life.value.bound.Nodup ∧
      (life.events.filterMap Event.binds?).count ⟨0⟩ =
        (life.events.filterMap Event.unbinds?).count ⟨0⟩ + 1 ∧
      o.value.1 = true ∧ o.events = [.unbind ⟨1⟩ egl false] ∧ o.value.2.isBound ⟨0⟩ = true := by
  intro b s egl d3d ops life o
  have hbound : life.value.bound = [⟨1⟩, ⟨0⟩] := by decide +kernel
  have hisBound : ∀ d, life.value.isBound d = [⟨1⟩, ⟨0⟩].contains d := by
    intro d
    rw [isBound, hbound]
  obtain ⟨hnodup, -, ⟨hanswer, hevents, hothers⟩, -⟩ := bound_while_accepted b ops ⟨1⟩ egl s
  obtain ⟨-, hcount, -, -⟩ := bound_while_accepted b ops ⟨0⟩ egl s
  refine ⟨hbound, hnodup, hcount.trans ?_, hanswer.trans ?_, hevents.trans ?_, ?_⟩
  · rw [hisBound]
    rfl
  · rw [hisBound]
    rfl
  · rw [hisBound]
    rfl
  · rw [hothers, hisBound]
    rfl

end Bindings
end ComputeContext
