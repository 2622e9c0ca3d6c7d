/-
# Who is bound when every device keeps to its answer

When each device gives the same answer every time it is asked, which devices
are asked and which are bound can be read off the list. An entry is passed
over if its device was bound before, or accepts and is listed earlier
(`Bindings.turns`); all others are asked, since a refusal does not end the
asking. Those that accept are bound in the order in which they are listed
first, and binding succeeds exactly if all that is listed is bound by then.

A request for any adapter asks for graphics, Direct3D 10, Direct3D 11 or the
Direct3D 9 family, so refusals are always reported for one of these
(`BindFailure.toError_of_wanted`).

Key definitions: `Bindings.AnswersAs`, `Bindings.turns`.
Key theorems: `Bindings.Asking.calls_eq`, `Bindings.Asking.bound_eq_of_answers`,
`BindFailure.toError_of_wanted`, `Bindings.binds_those_who_accept`.
-/
import ComputeContext.Proofs.Interop.Bindings
import ComputeContext.Simulation.World

namespace ComputeContext

namespace BindFailure

/-- A request that asks for an adapter, and for neither graphics nor Direct3D 10 or 11, asks for the
Direct3D 9 family. -/
theorem intersects_d3d9Any {flags : Interop.Flags}
    (h : flags.intersects Interop.Flags.adapters = true)
    (hgl : flags.contains Interop.Flags.glDevice ≠ true)
    (hd3d10 : flags.contains Interop.Flags.d3d10Device ≠ true)
    (hd3d11 : flags.contains Interop.Flags.d3d11Device ≠ true) :
    flags.intersects Interop.Flags.d3d9Any = true := by
  rw [Interop.Flags.adapters, FlagSet.intersects_union, FlagSet.intersects_union,
    FlagSet.intersects_union] at h
  obtain ((hmeets | hmeets) | hmeets) | hmeets := h
  · exact absurd (FlagSet.contains_of_intersects_bit (i := 0) rfl hmeets) hgl
  · exact absurd (FlagSet.contains_of_intersects_bit (i := 1) rfl hmeets) hd3d10
  · exact absurd (FlagSet.contains_of_intersects_bit (i := 4) rfl hmeets) hd3d11
  · exact hmeets

/-- Refusals are never reported as an invalid value. -/
theorem toError_of_wanted {f : BindFailure}
    (h : f.flags.intersects Interop.Flags.adapters = true) :
    f.toError =
      if f.flags.contains Interop.Flags.glDevice then .invalidGlSharegroupReference f.reason
      else if f.flags.contains Interop.Flags.d3d10Device then .invalidD3d10Device f.reason
      else if f.flags.contains Interop.Flags.d3d11Device then .invalidD3d11Device f.reason
      else .invalidDx9MediaAdapter f.reason := by
  rw [toError]
  split_ifs with hgl hd3d10 hd3d11 hd3d9
  · rfl
  · rfl
  · rfl
  · rfl
  · exact absurd (intersects_d3d9Any h hgl hd3d10 hd3d11) hd3d9

end BindFailure

namespace Bindings

variable {σ : Type} {r : Interop.Request} {bs bs' : Bindings} {ds : List DeviceId} {d : DeviceId}
  {calls : List Event} {refused : Nat} {accepts : DeviceId → Bool}

/-- Each device answers as `accepts` says, every time it is asked to bind itself. -/
def AnswersAs (accepts : DeviceId → Bool) (calls : List Event) : Prop :=
  ∀ d r validateOnly accepted, .bind d r validateOnly accepted ∈ calls → accepted = accepts d

/-- The entries of a list whose device is not bound when their turn comes: it was not bound before,
nor is it listed earlier and accepts. -/
def turns (accepts : DeviceId → Bool) (bs : Bindings) (ds : List DeviceId) : List DeviceId :=
  (ds.zipIdx.filter fun (d, i) => !(bs.isBound d || accepts d && (ds.take i).contains d)).map (·.1)

/-- The bindings after the turn of a device that answers as `accepts` says. -/
def afterTurn (accepts : DeviceId → Bool) (bs : Bindings) (d : DeviceId) : Bindings :=
  if accepts d && !bs.isBound d then ⟨bs.bound ++ [d]⟩ else bs

theorem isBound_afterTurn (accepts : DeviceId → Bool) (bs : Bindings) (d e : DeviceId) :
    (afterTurn accepts bs d).isBound e = (bs.isBound e || accepts e && e == d) := by
  by_cases hed : e = d
  · subst hed
    cases ha : accepts e <;> cases hb : bs.isBound e <;> simp_all [afterTurn, isBound]
  · cases ha : accepts d <;> cases hb : bs.isBound d <;> simp_all [afterTurn, isBound]

/-- After its first entry a list has the turns of the rest, with the first device bound if it
accepts. -/
theorem turns_cons : turns accepts bs (d :: ds) =
    (if bs.isBound d then [] else [d]) ++ turns accepts (afterTurn accepts bs d) ds := by
  have hrest : ∀ (e : DeviceId) (i : Nat),
      (bs.isBound e || accepts e && ((d :: ds).take (i + 1)).contains e) =
        ((afterTurn accepts bs d).isBound e || accepts e && (ds.take i).contains e) := by
    intro e i
    rw [List.take_succ_cons, List.contains_cons, isBound_afterTurn, Bool.and_or_distrib_left,
      Bool.or_assoc]
  rw [turns, List.zipIdx_cons', List.filter_cons, List.filter_map, turns]
  simp only [Function.comp_def, Prod.map, id, hrest]
  cases bs.isBound d <;> simp

/-- The turns of those that accept are the first times that they are listed. -/
theorem filter_turns (accepts : DeviceId → Bool) : ∀ (ds : List DeviceId) (bs : Bindings),
    (turns accepts bs ds).filter accepts =
      (ds.filter fun d => accepts d && !bs.isBound d).eraseDups
  | [], _ => rfl
  | d :: ds, bs => by
    rw [turns_cons, List.filter_append, filter_turns accepts ds]
    by_cases hnew : (accepts d && !bs.isBound d) = true
    · obtain ⟨ha, hb⟩ := Bool.and_eq_true_iff.mp hnew
      have hlater : ∀ e, (accepts e && !(afterTurn accepts bs d).isBound e) =
          (!(e == d) && (accepts e && !bs.isBound e)) := by
        intro e
        rw [isBound_afterTurn]
        cases accepts e <;> cases bs.isBound e <;> simp
      rw [Bool.not_eq_true'] at hb
      have hfirst : (d :: ds).filter (fun e => accepts e && !bs.isBound e) =
          d :: ds.filter fun e => accepts e && !bs.isBound e := List.filter_cons_of_pos hnew
      rw [hfirst, List.eraseDups_cons, List.filter_filter]
      simp only [hlater, hb, Bool.false_eq_true, ↓reduceIte, List.filter_cons_of_pos ha,
        List.filter_nil, List.cons_append, List.nil_append]
    · have hsame : afterTurn accepts bs d = bs := if_neg hnew
      have hskip : (d :: ds).filter (fun e => accepts e && !bs.isBound e) =
          ds.filter fun e => accepts e && !bs.isBound e := List.filter_cons_of_neg hnew
      rw [hskip, hsame]
      cases hb : bs.isBound d with
      | true => rfl
      | false =>
        have ha : ¬accepts d = true := by simpa [hb] using hnew
        rw [if_neg Bool.false_ne_true, List.filter_cons_of_neg ha]
        rfl

/-- What is called can be read off the list. -/
theorem Asking.calls_eq (h : Asking r bs ds calls refused bs')
    (hanswers : AnswersAs accepts calls) :
    calls = (turns accepts bs ds).map fun d => .bind d r false (accepts d) := by
  have hlater : ∀ {e : Event} {calls : List Event}, AnswersAs accepts (e :: calls) →
      AnswersAs accepts calls :=
    fun h d r v accepted hcall => h d r v accepted (List.mem_cons_of_mem _ hcall)
  induction h with
  | done => rfl
  | @passed bs _ d _ _ _ hd _ ih =>
    have hsame : afterTurn accepts bs d = bs := by simp [afterTurn, isBound_iff.mpr hd]
    rw [turns_cons, if_pos (isBound_iff.mpr hd), hsame]
    exact ih hanswers
  | @accepted bs _ d _ _ _ hd _ ih =>
    have ha : true = accepts d := hanswers d _ _ _ List.mem_cons_self
    have hb : ¬bs.isBound d = true := fun hb => hd (isBound_iff.mp hb)
    have hnext : afterTurn accepts bs d = ⟨bs.bound ++ [d]⟩ := by simp [afterTurn, ← ha, hb]
    rw [turns_cons, if_neg hb, hnext, List.map_append, ← ih (hlater hanswers)]
    simp [← ha]
  | @refused bs _ d _ _ _ hd _ ih =>
    -- Nothing is bound, so the device has another turn each time it is listed again.
    have ha : false = accepts d := hanswers d _ _ _ List.mem_cons_self
    have hb : ¬bs.isBound d = true := fun hb => hd (isBound_iff.mp hb)
    have hsame : afterTurn accepts bs d = bs := by simp [afterTurn, ← ha]
    rw [turns_cons, if_neg hb, hsame, List.map_append, ← ih (hlater hanswers)]
    simp [← ha]

theorem Asking.bound_eq_of_answers (h : Asking r bs ds calls refused bs')
    (hanswers : AnswersAs accepts calls) :
    bs'.bound = bs.bound ++ (ds.filter fun d => accepts d && !bs.isBound d).eraseDups := by
  have hbinds : ∀ ds : List DeviceId,
      (ds.map fun d => Event.bind d r false (accepts d)).filterMap Event.binds? =
        ds.filter accepts := by
    intro ds
    induction ds with
    | nil => rfl
    | cons d ds ih =>
      rw [List.map_cons, List.filterMap_cons, ih, List.filter_cons]
      cases accepts d <;> rfl
  rw [h.bound_eq, h.calls_eq hanswers, hbinds, filter_turns]

theorem Asking.refused_eq (h : Asking r bs ds calls refused bs')
    (hanswers : AnswersAs accepts calls) :
    refused = (turns accepts bs ds).countP fun d => !accepts d := by
  rw [← h.countP_rejects, h.calls_eq hanswers, List.countP_map]
  rfl

theorem Asking.refused_eq_zero_iff (h : Asking r bs ds calls refused bs')
    (hanswers : AnswersAs accepts calls) :
    refused = 0 ↔ ∀ d ∈ ds, bs'.isBound d = true := by
  constructor
  · intro hnone d hd
    exact isBound_iff.mpr (h.subset_bound hnone hd)
  · intro hall
    by_contra hsome
    rw [← h.countP_rejects] at hsome
    obtain ⟨e, he, hrejects⟩ := List.countP_pos_iff.mp (Nat.pos_of_ne_zero hsome)
    obtain ⟨d, hd, accepted, rfl⟩ := h.eq_bind e he
    have hbound := isBound_iff.mp (hall d hd)
    rw [h.bound_eq_of_answers hanswers, List.mem_append] at hbound
    rcases hbound with hbefore | hnew
    · exact h.not_bound he hbefore
    · rw [List.mem_eraseDups, List.mem_filter, Bool.and_eq_true, ← hanswers d r false accepted he]
        at hnew
      rw [Event.rejects, hnew.2.1] at hrejects
      cases hrejects

/-- **Binding binds those who accept.** When every device keeps to its answer: without a request for
an adapter nothing is called or changed. With one, every entry whose device is not bound by then is
asked, whoever refuses; those that accept are bound behind those that were, in the order in which
they are listed first; and binding succeeds exactly if all that is listed is bound. Otherwise the
failure is that of the most important adapter, and tells the refusals and the length of the list. -/
theorem binds_those_who_accept (b : Backend σ) (bs : Bindings) (ds : List DeviceId)
    (r : Interop.Request) (accepts : DeviceId → Bool) (s : σ)
    (hanswers : AnswersAs accepts ((bs.bindAll b ds r).run s).events) :
    let o := (bs.bindAll b ds r).run s
    (r.wantsBinding = false → o = ⟨(.ok (), bs), s, []⟩) ∧
    (r.wantsBinding = true →
      let asked := turns accepts bs ds
      o.events = asked.map (fun d => .bind d r false (accepts d)) ∧
      o.value.2.bound = bs.bound ++ (ds.filter fun d => accepts d && !bs.isBound d).eraseDups ∧
      (bs.bound.Nodup → o.value.2.bound.Nodup) ∧
      (o.value.1 = .ok () ↔ ∀ d ∈ ds, o.value.2.isBound d = true) ∧
      ∀ failure, o.value.1 = .error failure →
        let reason := toString (asked.countP fun d => !accepts d) ++ " of " ++ toString ds.length ++
          " device(s) rejected the external device"
        failure.toError =
          (if r.flags.contains Interop.Flags.glDevice then .invalidGlSharegroupReference reason
          else if r.flags.contains Interop.Flags.d3d10Device then .invalidD3d10Device reason
          else if r.flags.contains Interop.Flags.d3d11Device then .invalidD3d11Device reason
          else .invalidDx9MediaAdapter reason) ∧
        failure.toError.status ≠ .invalidValue) := by
  intro o
  refine ⟨fun hr => ?_, fun hr => ?_⟩
  · simp only [o, bindAll_of_not_wanted b bs ds hr]
    rfl
  · obtain ⟨refused, hasks, hresult⟩ := bindAll_asks b bs ds r s
    rw [if_pos hr] at hasks
    refine ⟨hasks.calls_eq hanswers, hasks.bound_eq_of_answers hanswers, hasks.nodup, ?_, ?_⟩
    · rw [← hasks.refused_eq_zero_iff hanswers, hresult]
      by_cases hnone : refused = 0 <;> simp [hnone]
    · intro failure hfailure
      have hrefused : refused ≠ 0 := by
        rintro rfl
        rw [hresult] at hfailure
        cases hfailure
      rw [hresult, if_neg hrefused] at hfailure
      obtain rfl : ⟨r.flags, refused, ds.length⟩ = failure := Except.error.inj hfailure
      rw [BindFailure.toError_of_wanted (f := ⟨r.flags, refused, ds.length⟩) hr,
        BindFailure.reason, hasks.refused_eq hanswers]
      refine ⟨rfl, ?_⟩
      split_ifs <;> simp [Error.status]

/-- One device is bound before, one refuses and is listed twice, and one accepts and is listed
twice. The request asks for the last of the adapters, and has a bit without a name. -/
theorem binds_one_of_three :
    let b := Simulation.backend (fun _ => ⟨⟨"gpu", ∅, 0⟩, false, .plain, false⟩) ⟨[]⟩
    let s := Simulation.State.start (fun d => .start false (d = ⟨1⟩)) (fun _ => []) []
    let r : Interop.Request := ⟨⟨0x80000080⟩, .set .empty .d3d9Va ⟨0x50⟩, .null⟩
    let o := ((⟨[⟨2⟩]⟩ : Bindings).bindAll b [⟨0⟩, ⟨1⟩, ⟨0⟩, ⟨2⟩, ⟨1⟩] r).run s
    o.events = [.bind ⟨0⟩ r false true, .bind ⟨1⟩ r false false, .bind ⟨1⟩ r false false] ∧
      o.value.2.bound = [⟨2⟩, ⟨0⟩] ∧ o.value.1 ≠ .ok () ∧
      ∀ failure, o.value.1 = .error failure → failure.toError =
        .invalidDx9MediaAdapter "2 of 5 device(s) rejected the external device" := by
  intro b s r o
  have hevents : o.events =
      [.bind ⟨0⟩ r false true, .bind ⟨1⟩ r false false, .bind ⟨1⟩ r false false] := by
    decide +kernel
  have hanswers : AnswersAs (fun d => d ≠ ⟨1⟩) o.events := by
    rw [hevents]
    intro d r' validateOnly accepted hcall
    simp only [List.mem_cons, Event.bind.injEq, List.not_mem_nil, or_false] at hcall
    obtain ⟨rfl, -, -, rfl⟩ | ⟨rfl, -, -, rfl⟩ | ⟨rfl, -, -, rfl⟩ := hcall <;> rfl
  obtain ⟨-, hbinds⟩ := binds_those_who_accept b ⟨[⟨2⟩]⟩ [⟨0⟩, ⟨1⟩, ⟨0⟩, ⟨2⟩, ⟨1⟩] r _ s hanswers
  obtain ⟨-, hbound, -, hok, hfailure⟩ := hbinds (by decide)
  refine ⟨hevents, hbound.trans (by decide), fun h => ?_, fun failure h => ?_⟩
  · have hone := hok.mp h ⟨1⟩ (by decide)
    rw [isBound, hbound] at hone
    revert hone
    decide
  · exact (hfailure failure h).1.trans (by decide)

end Bindings
end ComputeContext
