/-
# Taking leave of devices

A device is told that a context goes away when the context is closed, and at
no other time. Closing goes through the client's list, whoever was bound and
whatever the outside answers, so over the life of a context the devices taken
leave of are that list, in its order (`Blueprint.farewells_live`). A device
that the client has listed once is told once. One that is listed twice is told
twice, although it was bound and is unbound only once.

A client that has a context created never sees the one that fails; it is
closed all the same, so that is a life too (`Blueprint.use_events`). When the
list of properties is refused there is no context, and nothing is called.

Key definitions: `farewells`, `Blueprint.live`, `Blueprint.use`.
Key theorems: `Blueprint.farewells_live`, `Blueprint.use_events`,
`Blueprint.told_once_iff_distinct`.
-/
import ComputeContext.Proofs.Context.Attachment
import ComputeContext.Simulation.World

namespace ComputeContext

/-- The device that the call takes leave of. -/
def Event.leaves? : Event → Option DeviceId
  | .destroy d => some d
  | _ => none

/-- The devices that were taken leave of, in order. -/
def farewells (events : List Event) : List DeviceId := events.filterMap Event.leaves?

@[simp] theorem farewells_append (es fs : List Event) :
    farewells (es ++ fs) = farewells es ++ farewells fs := List.filterMap_append

theorem farewells_eq_nil_iff {events : List Event} :
    farewells events = [] ↔ ∀ e ∈ events, e.leaves? = none := List.filterMap_eq_nil_iff

theorem count_destroy (d : DeviceId) (events : List Event) :
    events.count (.destroy d) = (farewells events).count d := by
  rw [farewells, List.count_filterMap, List.count]
  apply List.countP_congr
  intro e _
  cases e <;> simp [Event.leaves?]

theorem Event.leaves?_of_concern {e : Event} (h : e.concern ≠ .attachment) : e.leaves? = none := by
  cases e <;> first | rfl | exact absurd rfl h

theorem farewells_of_concern {k : Concern} (hk : k ≠ .attachment) {calls : List Event}
    (h : ∀ e ∈ calls, e.concern = k) : farewells calls = [] :=
  farewells_eq_nil_iff.mpr fun e he => Event.leaves?_of_concern (h e he ▸ hk)

variable {σ : Type}

theorem Bindings.Asking.farewells {r : Interop.Request} {bs bs' : Bindings} {ds : List DeviceId}
    {calls : List Event} {refused : Nat} (h : Asking r bs ds calls refused bs') :
    farewells calls = [] := by
  rw [farewells_eq_nil_iff]
  induction h with
  | done => exact nofun
  | passed _ _ ih => exact ih
  | accepted _ _ ih => exact List.forall_mem_cons.mpr ⟨rfl, ih⟩
  | refused _ _ ih => exact List.forall_mem_cons.mpr ⟨rfl, ih⟩

theorem Bindings.farewells_bindAll (b : Backend σ) (bs : Bindings) (ds : List DeviceId)
    (r : Interop.Request) (s : σ) : farewells ((bs.bindAll b ds r).run s).events = [] := by
  unfold bindAll
  cases r.wantsBinding with
  | true =>
    simp only [↓reduceIte, Act.bind_events, Act.pure_events, List.append_nil]
    exact (ask_asks b r ds bs s).farewells
  | false => rfl

namespace Context

theorem farewells_perform (b : Backend σ) (c : Context) (op : Operation) (s : σ) :
    farewells ((c.perform b op).run s).events = [] := by
  by_cases hop : ∃ words?, op = .create words?
  · obtain ⟨words?, rfl⟩ := hop
    simp only [perform, Act.map_events]
    obtain ⟨-, hevents⟩ | ⟨properties, graphics, rest, -, hevents, hrest⟩ :=
      create_calls b c words? s
    · rw [hevents]
      rfl
    · rw [hevents, farewells_append, Bindings.farewells_bindAll,
        farewells_of_concern (by decide) hrest, List.append_nil]
  · obtain ⟨⟨k, hk, -, hcalls⟩, -⟩ := perform_other b c fun words? hw => hop ⟨words?, hw⟩
    exact farewells_of_concern hk (hcalls s)

theorem farewells_performAll (b : Backend σ) (c : Context) (ops : List Operation) (s : σ) :
    farewells ((c.performAll b ops).run s).events = [] := by
  have hkeeps := performAll_keeps (b := b) (I := fun _ history => farewells history = [])
    fun c history op s h => by rw [farewells_append, h, farewells_perform, List.append_nil]
  exact hkeeps ops c [] s rfl

theorem farewells_letGo (b : Backend σ) (r : Interop.Request) (bs : Bindings) (d : DeviceId)
    (s : σ) : farewells ((letGo b r bs d).run s).events = [] := by
  unfold letGo
  split_ifs
  · rw [Act.map_events, Bindings.unbind_events]
    split_ifs <;> rfl
  · rfl

/-- Taking leave of devices tells each of them, in order, whether or not it is bound. -/
theorem farewells_leave (b : Backend σ) (r : Interop.Request) :
    ∀ (ds : List DeviceId) (bs : Bindings) (s : σ),
      farewells ((leave b r bs ds).run s).events = ds
  | [], _, _ => rfl
  | d :: ds, bs, s => by
    rw [leave_cons, Act.bind_events, Act.bind_events, farewells_append, farewells_append,
      farewells_letGo, farewells_leave b r ds]
    rfl

theorem farewells_close (b : Backend σ) (c : Context) (s : σ) :
    farewells ((c.close b).run s).events = c.roster.devices := by
  obtain ⟨giving, dropping, hevents, hgiving, hdropping⟩ := close_calls b c s
  rw [hevents, farewells_append, farewells_append, farewells_leave,
    farewells_of_concern (by decide) hgiving, farewells_of_concern (by decide) hdropping,
    List.append_nil, List.append_nil]

end Context

namespace Blueprint

/-- The life of a context: it is built, used for operations, and closed. -/
def live (b : Backend σ) (p : Blueprint) (a : Agreement) (ops : List Operation) : Run σ Unit := do
  let c ← (p.build b.inventory a).performAll b ops
  c.close b

/-- What becomes of a client's request for a context: if one is created it is used for operations
and closed. -/
def use (b : Backend σ) (p : Blueprint) (words? : Option (List Word)) (ops : List Operation) :
    Run σ Unit := do
  match ← p.create b words? with
  | .ok c => do
    let c ← c.performAll b ops
    c.close b
  | .error _ => pure ()

/-- Over its life a context takes leave of the client's devices, in the client's order. -/
theorem farewells_live (b : Backend σ) (p : Blueprint) (a : Agreement) (ops : List Operation)
    (s : σ) : farewells ((p.live b a ops).run s).events = p.devices := by
  have hdevices := ((Context.Attached.build b.inventory p a).performAll b ops s).devices
  rw [live, Act.bind_events, farewells_append, Context.farewells_performAll,
    Context.farewells_close, List.nil_append, hdevices]

/-- After an agreement a client's request comes to the life of a context, whether or not the context
could be created. -/
theorem use_events {b : Backend σ} {p : Blueprint} {words? : Option (List Word)} {a : Agreement}
    (h : Property.negotiateWords p.platform words? = .ok a) (ops : List Operation) (s : σ) :
    ∃ ops', ((p.use b words? ops).run s).events = ((p.live b a ops').run s).events := by
  obtain ⟨-, hcreate⟩ | ⟨e, -, hcreate⟩ := created_or_closed b h s
  · refine ⟨.create words? :: ops, ?_⟩
    simp [use, live, Context.performAll, Context.perform, hcreate]
  · refine ⟨[.create words?], ?_⟩
    simp [use, live, Context.performAll, Context.perform, hcreate]

theorem use_events_of_refused {b : Backend σ} {p : Blueprint} {words? : Option (List Word)}
    {e : Error} (h : Property.negotiateWords p.platform words? = .error e) (ops : List Operation)
    (s : σ) : ((p.use b words? ops).run s).events = [] := by
  rw [use, create_of_refused b h]
  rfl

/-- **Each device is told once exactly if the client lists none twice.** However a client goes about
it, by building a context itself or by having one created, whatever is agreed on, whatever devices,
loaders and libraries answer and whatever is done in between: if there is an agreement, the devices
of the list are taken leave of in its order, as often as they are listed. Only a refused list of
properties makes no context, and calls nothing. -/
theorem told_once_iff_distinct (b : Backend σ) (p : Blueprint) (ops : List Operation) (s : σ) :
    (∀ a, let events := ((p.live b a ops).run s).events
      farewells events = p.devices ∧
        ((∀ d ∈ p.devices, events.count (.destroy d) = 1) ↔ p.devices.Nodup)) ∧
    (∀ words? a, Property.negotiateWords p.platform words? = .ok a →
      let events := ((p.use b words? ops).run s).events
      farewells events = p.devices ∧
        ((∀ d ∈ p.devices, events.count (.destroy d) = 1) ↔ p.devices.Nodup)) ∧
    (∀ words? e, Property.negotiateWords p.platform words? = .error e →
      ((p.use b words? ops).run s).events = []) := by
  have honce : ∀ events, farewells events = p.devices →
      ((∀ d ∈ p.devices, events.count (.destroy d) = 1) ↔ p.devices.Nodup) := by
    intro events h
    simp only [count_destroy, h, List.nodup_iff_count_eq_one]
  refine ⟨?_, ?_, ?_⟩
  · intro a events
    have htold : farewells events = p.devices := farewells_live b p a ops s
    exact ⟨htold, honce events htold⟩
  · intro words? a haccepted events
    obtain ⟨ops', hlife⟩ := use_events haccepted ops s (b := b)
    have htold : farewells events = p.devices := by
      simp only [events, hlife]
      exact farewells_live b p a ops' s
    exact ⟨htold, honce events htold⟩
  · intro words? e hrefused
    exact use_events_of_refused hrefused ops s

/-- Two devices, of which the second refuses to be bound: the context that fails is closed, and each
of the two is told once. -/
theorem told_once_after_refusal :
    let b := Simulation.backend (fun _ => ⟨⟨"gpu", ∅, 0⟩, false, .plain, false⟩) ⟨[]⟩
    let p : Blueprint := { Blueprint.ofPlatform ⟨4096⟩ with devices := [⟨0⟩, ⟨1⟩] }
    let s := Simulation.State.start (fun d => .start false (d = ⟨1⟩)) (fun _ => []) []
    let words := Property.encode [.named .eglDisplay 0x50, .named .glContext 0x70]
    let o := (p.use b (some words) []).run s
    ((p.create b (some words)).run s).value.isOk = false ∧
      farewells o.events = [⟨0⟩, ⟨1⟩] ∧ ∀ d ∈ p.devices, o.events.count (.destroy d) = 1 := by
  intro b p s words o
  obtain ⟨-, haccepted, -⟩ := told_once_iff_distinct b p [] s
  obtain ⟨htold, honce⟩ := haccepted (some words) _ (by rfl)
  exact ⟨by decide +kernel, htold, honce.mpr (by decide)⟩

/-- A device that is listed twice is bound and unbound once, and told twice. -/
theorem listed_twice_told_twice :
    let b := Simulation.backend (fun _ => ⟨⟨"gpu", ∅, 0⟩, false, .plain, false⟩) ⟨[]⟩
    let (loader, s) := (Simulation.State.start (fun _ => .start false false) (fun _ => [])
      []).addLoader (.loads true)
    let p : Blueprint :=
      { Blueprint.ofPlatform ⟨4096⟩ with devices := [⟨0⟩, ⟨0⟩], loader := some loader }
    let words := Property.encode [.named .eglDisplay 0x50, .named .glContext 0x70]
    let r : Interop.Request :=
      ⟨Interop.Flags.glDevice ∪ Interop.Flags.eglDevice, .set .empty .gl ⟨0x50⟩, ⟨0x70⟩⟩
    let o := (p.use b (some words) []).run s
    ((p.create b (some words)).run s).value.isOk = true ∧ attachments ⟨0⟩ o.events =
      [.bind ⟨0⟩ r false true, .unbind ⟨0⟩ r false, .destroy ⟨0⟩, .destroy ⟨0⟩] ∧
      o.events.count (.destroy ⟨0⟩) = 2 := by
  exact ⟨by decide +kernel, by decide +kernel, by decide +kernel⟩

end Blueprint
end ComputeContext
