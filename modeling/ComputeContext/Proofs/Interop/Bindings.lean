/-
# What devices are told about their binding

Asking devices to bind themselves is one call for each that is not bound by
then, and those that accept are bound from there on (`Asking`). A history of
calls accounts for bindings when every device has refused some times and, if
it is bound, has then accepted once, with nothing about its binding after
that (`Account`). Asking keeps the account, whatever the devices answer and
however often they are listed (`Account.ask`). Unbinding takes a device out
wherever it stands (`unbind_bound_perm`).

Key definitions: `attachments`, `Bindings.Asking`, `Bindings.Account`.
Key theorems: `swapRemove_perm`, `Bindings.ask_asks`, `Bindings.bindAll_asks`,
`Bindings.Asking.bound_eq`, `Bindings.Account.ask`, `Bindings.unbind_events`,
`Bindings.unbind_bound_perm`.
-/
import ComputeContext.Interop.Bindings
import Mathlib.Data.List.Nodup
import Mathlib.Data.List.Perm.Basic

namespace ComputeContext

/-- The call binds or unbinds the device, or takes leave of it. -/
def Event.attaches (d : DeviceId) : Event → Bool
  | .bind other .. | .unbind other .. | .destroy other => other = d
  | _ => false

/-- The calls that bind or unbind a device or take leave of it, in order. -/
def attachments (d : DeviceId) (events : List Event) : List Event :=
  events.filter (Event.attaches d)

/-- The call is a device's refusal to bind itself. -/
def Event.rejects : Event → Bool
  | .bind _ _ _ accepted => !accepted
  | _ => false

/-- The device that the call bound. -/
def Event.binds? : Event → Option DeviceId
  | .bind d _ _ true => some d
  | _ => none

@[simp] theorem attachments_append (d : DeviceId) (es fs : List Event) :
    attachments d (es ++ fs) = attachments d es ++ attachments d fs := List.filter_append ..

/-- The element at the position is left out; where the others stand does not matter here. -/
theorem swapRemove_perm {α : Type} {l : List α} {i : Nat} (h : i < l.length) :
    (swapRemove l i).Perm (l.eraseIdx i) := by
  obtain rfl | ⟨front, last, rfl⟩ := List.eq_nil_or_concat' l
  · cases h
  rw [List.length_append, List.length_singleton] at h
  rw [swapRemove, List.getLast?_concat]
  by_cases hi : i < front.length
  · have hset : (front ++ [last]).set i last = front.set i last ++ [last] :=
      List.set_append_left i last hi
    have herase : (front ++ [last]).eraseIdx i = front.eraseIdx i ++ [last] :=
      List.eraseIdx_append_of_lt_length hi [last]
    simp only [hset, herase, List.dropLast_concat]
    exact (List.set_perm_cons_eraseIdx hi last).trans (List.perm_append_singleton last _).symm
  · have hlast : i = front.length := by omega
    have herase : (front ++ [last]).eraseIdx i = front ++ [last].eraseIdx (i - front.length) :=
      List.eraseIdx_append_of_length_le (Nat.le_of_not_lt hi) [last]
    subst hlast
    simp [herase]

theorem swapRemove_perm_erase {α : Type} [BEq α] [LawfulBEq α] {l : List α} {a : α} {i : Nat}
    (h : l.idxOf? a = some i) : (swapRemove l i).Perm (l.erase a) := by
  obtain ⟨hlt, -, -⟩ := List.idxOf?_eq_some_iff.mp h
  have hidx : l.idxOf a = i := by
    rw [List.idxOf_eq_getD_idxOf?, h]
    rfl
  rw [List.erase_eq_eraseIdx_of_idxOf hidx]
  exact swapRemove_perm hlt

namespace Bindings

variable {σ : Type} {r : Interop.Request} {bs bs' : Bindings} {ds : List DeviceId} {d : DeviceId}
  {calls history : List Event} {refused : Nat}

theorem isBound_iff : bs.isBound d = true ↔ d ∈ bs.bound := List.contains_iff_mem

/-- The calls that ask the devices of a list to bind themselves, how many refuse, and which are
bound afterwards. A device that is bound when its turn comes is passed over. -/
inductive Asking (r : Interop.Request) :
    Bindings → List DeviceId → List Event → Nat → Bindings → Prop
  | done (bs : Bindings) : Asking r bs [] [] 0 bs
  | passed {bs bs' : Bindings} {d : DeviceId} {ds : List DeviceId} {calls : List Event}
      {refused : Nat} : d ∈ bs.bound → Asking r bs ds calls refused bs' →
      Asking r bs (d :: ds) calls refused bs'
  | accepted {bs bs' : Bindings} {d : DeviceId} {ds : List DeviceId} {calls : List Event}
      {refused : Nat} : d ∉ bs.bound → Asking r ⟨bs.bound ++ [d]⟩ ds calls refused bs' →
      Asking r bs (d :: ds) (.bind d r false true :: calls) refused bs'
  | refused {bs bs' : Bindings} {d : DeviceId} {ds : List DeviceId} {calls : List Event}
      {refused : Nat} : d ∉ bs.bound → Asking r bs ds calls refused bs' →
      Asking r bs (d :: ds) (.bind d r false false :: calls) (refused + 1) bs'

theorem ask_asks (b : Backend σ) (r : Interop.Request) :
    ∀ (ds : List DeviceId) (bs : Bindings) (s : σ),
      let o := (ask b r bs ds).run s
      Asking r bs ds o.events o.value.1 o.value.2
  | [], bs, _ => .done bs
  | d :: ds, bs, s => by
    have ih := ask_asks b r ds
    by_cases hd : d ∈ bs.bound
    · have hbound : bs.isBound d = true := by simpa [isBound] using hd
      simp only [ask, hbound, ↓reduceIte]
      exact .passed hd (ih bs s)
    · have hbound : bs.isBound d = false := by simpa [isBound] using hd
      simp only [ask, hbound, Bool.false_eq_true, ↓reduceIte, Backend.bind, Act.bind_events,
        Act.bind_value, Act.call_events, Act.call_value, Act.call_state]
      by_cases ha : (b.answerBind d r false s).1 = true
      · simp only [ha, ↓reduceIte]
        exact .accepted hd (ih _ _)
      · rw [Bool.not_eq_true] at ha
        simp only [ha, Bool.false_eq_true, ↓reduceIte, Act.bind_events, Act.bind_value,
          Act.pure_events, Act.pure_value, List.append_nil]
        exact .refused hd (ih _ _)

theorem Asking.eq_bind (h : Asking r bs ds calls refused bs') :
    ∀ e ∈ calls, ∃ d ∈ ds, ∃ accepted, e = .bind d r false accepted := by
  have hlater : ∀ {d : DeviceId} {ds : List DeviceId} {calls : List Event},
      (∀ e ∈ calls, ∃ d ∈ ds, ∃ accepted, e = .bind d r false accepted) →
        ∀ e ∈ calls, ∃ d' ∈ d :: ds, ∃ accepted, e = .bind d' r false accepted := by
    intro d ds calls h e he
    obtain ⟨d', hd', hbind⟩ := h e he
    exact ⟨d', List.mem_cons_of_mem d hd', hbind⟩
  induction h with
  | done => exact nofun
  | passed _ _ ih => exact hlater ih
  | accepted _ _ ih =>
    exact List.forall_mem_cons.mpr ⟨⟨_, List.mem_cons_self, true, rfl⟩, hlater ih⟩
  | refused _ _ ih =>
    exact List.forall_mem_cons.mpr ⟨⟨_, List.mem_cons_self, false, rfl⟩, hlater ih⟩

theorem Asking.countP_rejects (h : Asking r bs ds calls refused bs') :
    calls.countP Event.rejects = refused := by
  induction h with
  | done => rfl
  | passed _ _ ih => exact ih
  | accepted _ _ ih => rwa [List.countP_cons_of_neg (by simp [Event.rejects])]
  | refused _ _ ih => rw [List.countP_cons_of_pos rfl, ih]

theorem Asking.asked (h : Asking r bs ds calls refused bs') (hd : d ∈ ds) (hbs : d ∉ bs.bound) :
    ∃ accepted, .bind d r false accepted ∈ calls := by
  induction h with
  | done => cases hd
  | passed he _ ih =>
    rcases List.mem_cons.mp hd with rfl | hd
    · exact absurd he hbs
    · exact ih hd hbs
  | @accepted bs _ e _ _ _ _ _ ih =>
    by_cases hde : d = e
    · exact ⟨true, hde ▸ List.mem_cons_self⟩
    · have hlater : d ∉ bs.bound ++ [e] := by simp [hbs, hde]
      obtain ⟨accepted, hbind⟩ := ih ((List.mem_cons.mp hd).resolve_left hde) hlater
      exact ⟨accepted, List.mem_cons_of_mem _ hbind⟩
  | @refused _ _ e _ _ _ _ _ ih =>
    by_cases hde : d = e
    · exact ⟨false, hde ▸ List.mem_cons_self⟩
    · obtain ⟨accepted, hbind⟩ := ih ((List.mem_cons.mp hd).resolve_left hde) hbs
      exact ⟨accepted, List.mem_cons_of_mem _ hbind⟩

theorem Asking.not_bound {v accepted : Bool} (h : Asking r bs ds calls refused bs')
    (hcall : .bind d r v accepted ∈ calls) : d ∉ bs.bound := by
  induction h with
  | done => cases hcall
  | passed _ _ ih => exact ih hcall
  | accepted he _ ih =>
    rcases List.mem_cons.mp hcall with hfirst | hcall
    · cases hfirst
      exact he
    · exact fun hd => ih hcall (List.mem_append_left _ hd)
  | refused he _ ih =>
    rcases List.mem_cons.mp hcall with hfirst | hcall
    · cases hfirst
      exact he
    · exact ih hcall

/-- Those that accept are bound after those that were bound before, in the order of their calls. -/
theorem Asking.bound_eq (h : Asking r bs ds calls refused bs') :
    bs'.bound = bs.bound ++ calls.filterMap Event.binds? := by
  induction h with
  | done => exact (List.append_nil _).symm
  | passed _ _ ih => exact ih
  | accepted _ _ ih =>
    rw [ih, List.append_assoc]
    rfl
  | refused _ _ ih => exact ih

theorem Asking.bound_subset (h : Asking r bs ds calls refused bs') : bs.bound ⊆ bs'.bound := by
  rw [h.bound_eq]
  exact List.subset_append_left ..

theorem Asking.subset_bound (h : Asking r bs ds calls refused bs') :
    refused = 0 → ds ⊆ bs'.bound := by
  induction h with
  | done => exact fun _ => List.nil_subset _
  | passed hbound hrest ih =>
    exact fun hnone => List.cons_subset.mpr ⟨hrest.bound_subset hbound, ih hnone⟩
  | accepted _ hrest ih =>
    refine fun hnone => List.cons_subset.mpr ⟨hrest.bound_subset ?_, ih hnone⟩
    exact List.mem_append_right _ List.mem_cons_self
  | refused => exact fun hnone => absurd hnone (Nat.succ_ne_zero _)

theorem Asking.nodup (h : Asking r bs ds calls refused bs') (hnodup : bs.bound.Nodup) :
    bs'.bound.Nodup := by
  induction h with
  | done => exact hnodup
  | passed _ _ ih => exact ih hnodup
  | @accepted bs _ d _ _ _ hd _ ih =>
    apply ih
    rw [← List.concat_eq_append]
    exact hnodup.concat hd
  | refused _ _ ih => exact ih hnodup

theorem bindAll_of_not_wanted (b : Backend σ) (bs : Bindings) (ds : List DeviceId)
    (hr : r.wantsBinding = false) : bs.bindAll b ds r = pure (.ok (), bs) := by
  rw [bindAll, if_neg (Bool.eq_false_iff.mp hr)]

/-- Binding asks the devices of the list if any adapter is asked for, and nobody otherwise. It
succeeds exactly if nobody refuses. -/
theorem bindAll_asks (b : Backend σ) (bs : Bindings) (ds : List DeviceId) (r : Interop.Request)
    (s : σ) :
    let o := (bs.bindAll b ds r).run s
    ∃ refused, Asking r bs (if r.wantsBinding then ds else []) o.events refused o.value.2 ∧
      o.value.1 = if refused = 0 then .ok () else .error ⟨r.flags, refused, ds.length⟩ := by
  intro o
  cases hr : r.wantsBinding with
  | true =>
    have hevents : o.events = ((ask b r bs ds).run s).events := by simp [o, bindAll, hr]
    have hbindings : o.value.2 = ((ask b r bs ds).run s).value.2 := by simp [o, bindAll, hr]
    refine ⟨((ask b r bs ds).run s).value.1, ?_, ?_⟩
    · rw [hevents, hbindings]
      exact ask_asks b r ds bs s
    · simp [o, bindAll, hr]
  | false =>
    have ho : o = ⟨(.ok (), bs), s, []⟩ := by
      simp only [o, bindAll_of_not_wanted b bs ds hr]
      rfl
    rw [ho]
    exact ⟨0, .done bs, rfl⟩

/-- The devices are bound by these calls: no device twice, each because it was listed and asked
for, and each having refused some times and then, if it is bound, accepted once. -/
structure Account (r : Interop.Request) (ds : List DeviceId) (bs : Bindings)
    (history : List Event) : Prop where
  nodup : bs.bound.Nodup
  listed : ∀ d ∈ bs.bound, d ∈ ds
  wanted : ∀ d ∈ bs.bound, r.wantsBinding = true
  told : ∀ d, ∃ refusals, attachments d history =
    List.replicate refusals (.bind d r false false) ++
      if d ∈ bs.bound then [.bind d r false true] else []

theorem Account.empty (r : Interop.Request) (ds : List DeviceId) : Account r ds .empty [] where
  nodup := List.nodup_nil
  listed _ hd := by cases hd
  wanted _ hd := by cases hd
  told _ := ⟨0, rfl⟩

theorem Account.append (h : Account r ds bs history) (hcalls : ∀ d, attachments d calls = []) :
    Account r ds bs (history ++ calls) where
  nodup := h.nodup
  listed := h.listed
  wanted := h.wanted
  told d := by
    rw [attachments_append, hcalls, List.append_nil]
    exact h.told d

theorem Account.accept (h : Account r ds bs history) (hr : r.wantsBinding = true) (hlisted : d ∈ ds)
    (hd : d ∉ bs.bound) : Account r ds ⟨bs.bound ++ [d]⟩ (history ++ [.bind d r false true]) where
  nodup := by
    rw [← List.concat_eq_append]
    exact h.nodup.concat hd
  listed e he := by
    rcases List.mem_append.mp he with he | he
    · exact h.listed e he
    · rwa [List.mem_singleton.mp he]
  wanted _ _ := hr
  told e := by
    obtain ⟨refusals, he⟩ := h.told e
    refine ⟨refusals, ?_⟩
    rw [attachments_append, he]
    by_cases hed : e = d
    · subst hed
      simp [hd, attachments, Event.attaches]
    · simp [hed, Ne.symm hed, attachments, Event.attaches]

theorem Account.refuse (h : Account r ds bs history) (hd : d ∉ bs.bound) :
    Account r ds bs (history ++ [.bind d r false false]) where
  nodup := h.nodup
  listed := h.listed
  wanted := h.wanted
  told e := by
    obtain ⟨refusals, he⟩ := h.told e
    rw [attachments_append, he]
    by_cases hed : e = d
    · subst hed
      refine ⟨refusals + 1, ?_⟩
      simp [hd, attachments, Event.attaches, List.replicate_succ']
    · refine ⟨refusals, ?_⟩
      simp [Ne.symm hed, attachments, Event.attaches]

/-- Asking devices of the list accounts for what is bound afterwards. -/
theorem Account.ask {asked : List DeviceId} (hask : Asking r bs asked calls refused bs')
    (hasked : ∀ d ∈ asked, r.wantsBinding = true ∧ d ∈ ds) (h : Account r ds bs history) :
    Account r ds bs' (history ++ calls) := by
  induction hask generalizing history with
  | done => rwa [List.append_nil]
  | passed _ _ ih => exact ih (List.forall_mem_cons.mp hasked).2 h
  | accepted hd _ ih =>
    obtain ⟨⟨hr, hlisted⟩, hlater⟩ := List.forall_mem_cons.mp hasked
    have hrest := ih hlater (h.accept hr hlisted hd)
    rwa [List.append_assoc] at hrest
  | refused hd _ ih =>
    have hrest := ih (List.forall_mem_cons.mp hasked).2 (h.refuse hd)
    rwa [List.append_assoc] at hrest

/-- Binding the devices of the list, or not binding because nothing asks for it, accounts for what
is bound afterwards. -/
theorem Account.bindAll (h : Account r ds bs history) (b : Backend σ) (s : σ) :
    let o := (bs.bindAll b ds r).run s
    Account r ds o.value.2 (history ++ o.events) := by
  intro o
  obtain ⟨refused, hasks, -⟩ := bindAll_asks b bs ds r s
  refine h.ask hasks fun d hd => ?_
  split_ifs at hd with hr
  · exact ⟨hr, hd⟩
  · cases hd

/-! ### Unbinding -/

theorem unbind_events (b : Backend σ) (bs : Bindings) (d : DeviceId) (r : Interop.Request) (s : σ) :
    ((bs.unbind b d r).run s).events = if d ∈ bs.bound then [.unbind d r false] else [] := by
  unfold unbind
  cases hi : bs.bound.idxOf? d with
  | none => simp [List.idxOf?_eq_none_iff.mp hi]
  | some i =>
    have hd : d ∈ bs.bound := by simp [← List.isSome_idxOf?, hi]
    simp [hd, Backend.unbind]

theorem unbind_bound_perm (b : Backend σ) (bs : Bindings) (d : DeviceId) (r : Interop.Request)
    (s : σ) : (((bs.unbind b d r).run s).value.2.bound).Perm (bs.bound.erase d) := by
  unfold unbind
  cases hi : bs.bound.idxOf? d with
  | none => simp [List.erase_of_not_mem (List.idxOf?_eq_none_iff.mp hi)]
  | some i => exact swapRemove_perm_erase hi

end Bindings
end ComputeContext
