/-
# The attachment of devices over the life of a context

However often creation is tried and whatever else a client does with a
context, its bindings account for what each device was told about its
attachment (`Context.Attached.performAll`). When the context is closed, a
device is unbound if it is bound, and is then taken leave of as often as it is
listed (`Context.attachments_close`). So a device is unbound exactly when it
has accepted, once, under the request it accepted, and before it is told that
the context goes away.

Key definitions: `Context.Attached`.
Key theorems: `Context.Attached.performAll`, `Context.emits_leave`,
`Context.attachments_close`, `Context.unbound_iff_accepted`.
-/
import ComputeContext.Proofs.Context.Operation
import ComputeContext.Proofs.Interop.Bindings

namespace ComputeContext

theorem attachments_of_concern {k : Concern} (hk : k ≠ .attachment) {calls : List Event}
    (h : ∀ e ∈ calls, e.concern = k) (d : DeviceId) : attachments d calls = [] := by
  rw [attachments, List.filter_eq_nil_iff]
  intro e he
  have hconcern := h e he
  cases e <;> simp_all [Event.attaches, Event.concern]

namespace Context

variable {σ : Type} {p : Blueprint} {a : Agreement} {c : Context} {history calls : List Event}

/-- The context is one of the blueprint's, and its bindings account for the history. -/
structure Attached (p : Blueprint) (a : Agreement) (c : Context) (history : List Event) : Prop where
  devices : c.roster.devices = p.devices
  agreement : c.agreement = a
  account : c.bindings.Account a.toRequest p.devices history

theorem Attached.build (inventory : Inventory) (p : Blueprint) (a : Agreement) :
    Attached p a (p.build inventory a) [] where
  devices := rfl
  agreement := rfl
  account := .empty a.toRequest p.devices

theorem Attached.append {k : Concern} (h : Attached p a c history) (hk : k ≠ .attachment)
    (hcalls : ∀ e ∈ calls, e.concern = k) : Attached p a c (history ++ calls) where
  devices := h.devices
  agreement := h.agreement
  account := h.account.append (attachments_of_concern hk hcalls)

theorem Attached.create (h : Attached p a c history) (b : Backend σ) (words? : Option (List Word))
    (s : σ) :
    let o := (c.create b words?).run s
    Attached p a o.value.2 (history ++ o.events) := by
  intro o
  have hcreate := create_calls b c words? s
  simp only [h.devices, h.agreement] at hcreate
  obtain ⟨hvalue, hevents⟩ | ⟨properties, graphics, rest, hvalue, hevents, hrest⟩ := hcreate
  · rw [hvalue, hevents, List.append_nil]
    exact h
  · have hbound := h.account.bindAll b s
    rw [hvalue, hevents, ← List.append_assoc]
    exact Attached.append ⟨h.devices, rfl, hbound⟩ (by decide) hrest

theorem Attached.perform (h : Attached p a c history) (b : Backend σ) (op : Operation) (s : σ) :
    let o := (c.perform b op).run s
    Attached p a o.value (history ++ o.events) := by
  intro o
  by_cases hop : ∃ words?, op = .create words?
  · obtain ⟨words?, rfl⟩ := hop
    simp only [o, Context.perform, Act.map_value, Act.map_events]
    exact h.create b words? s
  · obtain ⟨⟨k, hk, -, hcalls⟩, hvalue⟩ := perform_other b c fun words? hw => hop ⟨words?, hw⟩
    obtain ⟨host, queues, hvalue⟩ := hvalue s
    have hstep := h.append hk (hcalls s)
    rw [hvalue]
    exact ⟨hstep.devices, hstep.agreement, hstep.account⟩

theorem Attached.performAll (h : Attached p a c history) (b : Backend σ) (ops : List Operation)
    (s : σ) :
    let o := (c.performAll b ops).run s
    Attached p a o.value (history ++ o.events) :=
  performAll_keeps (fun _ _ op s h => h.perform b op s) ops c history s h

/-! ### Closing -/

/-- Unbinds a device if the request asks for any adapter and the device is bound. -/
def letGo (b : Backend σ) (r : Interop.Request) (bs : Bindings) (d : DeviceId) : Run σ Bindings :=
  if r.wantsBinding then Prod.snd <$> bs.unbind b d r else pure bs

theorem leave_cons (b : Backend σ) (r : Interop.Request) (bs : Bindings) (d : DeviceId)
    (ds : List DeviceId) : leave b r bs (d :: ds) = (do
      let bs ← letGo b r bs d
      b.destroy d
      leave b r bs ds) := by
  unfold letGo
  cases hr : r.wantsBinding <;> simp only [leave, hr] <;> rfl

/-- What holds of unbinding and of taking leave holds of every call that does so in order. -/
theorem emits_leave {P : Event → Prop} {r : Interop.Request} (b : Backend σ)
    (hunbind : ∀ d, P (.unbind d r false)) (hdestroy : ∀ d, P (.destroy d)) :
    ∀ (ds : List DeviceId) (bs : Bindings), Act.Emits P (leave b r bs ds)
  | [], bs => (Act.emits_compositional P).pure bs
  | d :: ds, bs => by
    have hc := Act.emits_compositional (σ := σ) P
    have hletGo : Act.Emits P (letGo b r bs d) := by
      intro s e he
      unfold letGo at he
      split_ifs at he
      · rw [Act.map_events, Bindings.unbind_events] at he
        split_ifs at he
        · exact List.mem_singleton.mp he ▸ hunbind d
        · cases he
      · cases he
    rw [leave_cons]
    refine hc.bind hletGo fun bs => hc.bind (Act.emits_call fun _ => hdestroy d) fun _ => ?_
    exact emits_leave b hunbind hdestroy ds bs

section LetGo

variable {r : Interop.Request} {bs : Bindings} (hwanted : ∀ d ∈ bs.bound, r.wantsBinding = true)
include hwanted

theorem letGo_events (b : Backend σ) (d : DeviceId) (s : σ) :
    ((letGo b r bs d).run s).events = if d ∈ bs.bound then [.unbind d r false] else [] := by
  unfold letGo
  by_cases hr : r.wantsBinding = true
  · rw [if_pos hr, Act.map_events, Bindings.unbind_events]
  · have hd : d ∉ bs.bound := fun hd => hr (hwanted d hd)
    rw [if_neg hr, if_neg hd, Act.pure_events]

theorem letGo_bound_perm (b : Backend σ) (d : DeviceId) (s : σ) :
    ((letGo b r bs d).run s).value.bound.Perm (bs.bound.erase d) := by
  unfold letGo
  by_cases hr : r.wantsBinding = true
  · rw [if_pos hr, Act.map_value]
    exact Bindings.unbind_bound_perm b bs d r s
  · have hd : d ∉ bs.bound := fun hd => hr (hwanted d hd)
    rw [if_neg hr, Act.pure_value, List.erase_of_not_mem hd]

end LetGo

/-- Taking leave of devices in order: one that is bound is unbound before the first time it is told,
and every device is told as often as it is listed. -/
theorem attachments_leave (b : Backend σ) (r : Interop.Request) (d : DeviceId) :
    ∀ (ds : List DeviceId) (bs : Bindings) (s : σ), bs.bound.Nodup →
      (∀ e ∈ bs.bound, r.wantsBinding = true) →
      attachments d ((leave b r bs ds).run s).events =
        (if d ∈ bs.bound ∧ d ∈ ds then [.unbind d r false] else []) ++
          List.replicate (ds.count d) (.destroy d)
  | [], bs, s, _, _ => by simp [leave, attachments]
  | e :: ds, bs, s, hnodup, hwanted => by
    set bs' := ((letGo b r bs e).run s).value with hbs'
    have hperm : bs'.bound.Perm (bs.bound.erase e) := letGo_bound_perm hwanted b e s
    have hmem : ∀ x, x ∈ bs'.bound ↔ x ≠ e ∧ x ∈ bs.bound := by
      intro x
      rw [hperm.mem_iff, hnodup.mem_erase_iff]
    have hnodup' : bs'.bound.Nodup := hperm.nodup_iff.mpr (hnodup.erase e)
    have hwanted' : ∀ x ∈ bs'.bound, r.wantsBinding = true :=
      fun x hx => hwanted x ((hmem x).mp hx).2
    have ih := fun s => attachments_leave b r d ds bs' s hnodup' hwanted'
    rw [leave_cons, Act.bind_events, Act.bind_events, letGo_events hwanted, ← hbs',
      attachments_append, attachments_append, ih]
    -- The first time the device is listed decides: it is not bound for the rest of the list.
    by_cases hed : e = d
    · subst hed
      have hout : e ∉ bs'.bound := fun h => ((hmem e).mp h).1 rfl
      by_cases hbound : e ∈ bs.bound
      · simp [hbound, hout, attachments, Event.attaches, Backend.destroy, List.replicate_succ]
      · simp [hbound, hout, attachments, Event.attaches, Backend.destroy, List.replicate_succ]
    · have hsame : d ∈ bs'.bound ↔ d ∈ bs.bound := by
        rw [hmem]
        exact and_iff_right (Ne.symm hed)
      have hother : attachments d (if e ∈ bs.bound then [.unbind e r false] else []) = [] := by
        split_ifs <;> simp [attachments, Event.attaches, hed]
      rw [hother]
      simp [hsame, hed, Ne.symm hed, attachments, Event.attaches, Backend.destroy]

/-- Closing unbinds a device if it is bound, and then takes leave of it as often as it is listed. -/
theorem attachments_close (h : Attached p a c history) (b : Backend σ) (d : DeviceId) (s : σ) :
    attachments d ((c.close b).run s).events =
      (if d ∈ c.bindings.bound then [.unbind d a.toRequest false] else []) ++
        List.replicate (p.devices.count d) (.destroy d) := by
  obtain ⟨giving, dropping, hevents, hgiving, hdropping⟩ := close_calls b c s
  have hlisted : d ∈ c.bindings.bound ∧ d ∈ p.devices ↔ d ∈ c.bindings.bound :=
    and_iff_left_of_imp (h.account.listed d)
  rw [hevents, attachments_append, attachments_append, attachments_of_concern (by decide) hgiving,
    attachments_of_concern (by decide) hdropping, List.append_nil, List.append_nil, h.devices,
    h.agreement, attachments_leave b _ d _ _ s h.account.nodup h.account.wanted]
  simp only [hlisted]

/-- **A device is unbound exactly if it has accepted.** Whatever the devices and libraries answer
and whatever the client does, a device refuses some times and then accepts once at most; closing
the context unbinds it once if it has accepted, under the request it accepted, and then takes leave
of it as often as it is listed. -/
theorem unbound_iff_accepted (b : Backend σ) (p : Blueprint) (a : Agreement) (ops : List Operation)
    (s : σ) (d : DeviceId) :
    let r := a.toRequest
    let life := ((p.build b.inventory a).performAll b ops).run s
    let ending := (life.value.close b).run life.state
    ∃ (refusals : Nat) (accepted : Bool),
      attachments d life.events =
        List.replicate refusals (.bind d r false false) ++
          (if accepted then [.bind d r false true] else []) ∧
      attachments d ending.events =
        (if accepted then [.unbind d r false] else []) ++
          List.replicate (p.devices.count d) (.destroy d) := by
  intro r life ending
  have hlife := (Attached.build b.inventory p a).performAll b ops s
  obtain ⟨refusals, htold⟩ := hlife.account.told d
  refine ⟨refusals, decide (d ∈ life.value.bindings.bound), ?_, ?_⟩
  · simpa using htold
  · simpa using attachments_close hlife b d life.state

end Context
end ComputeContext
