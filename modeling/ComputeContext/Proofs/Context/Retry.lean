/-
# Creating a context again

A creation that fails leaves what it did, and the next one goes on from there.
After any number of failures with one list the context has at most its copy
and some more devices bound (`Context.Underway`), and a creation that then
succeeds leaves it as one that succeeds at once would (`Context.Finished`):
with the same copy and the same devices bound, up to their order, and sharing
graphics or not (`Context.Alike`). It succeeds exactly if the devices that are
left accept and graphics, if it is lacking, is granted.

After a success there is nothing left to do (`Context.Settled`), and a further
creation with the same list does nothing, whatever else is done in between.

Key definitions: `Bindings.Grows`, `Context.Settled`, `Context.Tried`,
`Context.Underway`, `Context.Finished`, `Context.Alike`.
Key theorems: `Bindings.Grows.perm`, `Context.Settled.create_eq`,
`Context.Tried.underway`, `Context.Underway.finish`,
`Context.creation_goes_on`.
-/
import ComputeContext.Proofs.Context.Stages
import ComputeContext.Simulation.World

namespace ComputeContext

variable {σ : Type}

namespace Bindings

variable {r : Interop.Request} {bs bs' bs₁ bs₂ : Bindings} {ds : List DeviceId}
  {calls : List Event} {refused : Nat}

/-- Some devices of the list are bound besides those that were, no device twice. -/
def Grows (ds : List DeviceId) (bs bs' : Bindings) : Prop :=
  ∃ new, bs'.bound = bs.bound ++ new ∧ new.Nodup ∧ ∀ d ∈ new, d ∈ ds ∧ d ∉ bs.bound

theorem Grows.refl (ds : List DeviceId) (bs : Bindings) : Grows ds bs bs :=
  ⟨[], (List.append_nil _).symm, List.nodup_nil, List.forall_mem_nil _⟩

theorem Grows.trans (h : Grows ds bs bs₁) (h' : Grows ds bs₁ bs₂) : Grows ds bs bs₂ := by
  obtain ⟨first, hfirst, hnodup, hmem⟩ := h
  obtain ⟨second, hsecond, hnodup', hmem'⟩ := h'
  rw [hfirst] at hsecond hmem'
  refine ⟨first ++ second, by rw [hsecond, List.append_assoc], ?_, ?_⟩
  · refine List.nodup_append'.mpr ⟨hnodup, hnodup', ?_⟩
    exact List.disjoint_right.mpr fun d hd hin => (hmem' d hd).2 (List.mem_append_right _ hin)
  · refine List.forall_mem_append.mpr ⟨hmem, fun d hd => ?_⟩
    exact ⟨(hmem' d hd).1, fun hin => (hmem' d hd).2 (List.mem_append_left _ hin)⟩

theorem Grows.mono {more : List DeviceId} (h : Grows ds bs bs') (hsub : ds ⊆ more) :
    Grows more bs bs' := by
  obtain ⟨new, heq, hnodup, hmem⟩ := h
  exact ⟨new, heq, hnodup, fun d hd => ⟨hsub (hmem d hd).1, (hmem d hd).2⟩⟩

theorem Asking.grows (h : Asking r bs ds calls refused bs') : Grows ds bs bs' := by
  induction h with
  | done => exact .refl _ _
  | passed _ _ ih => exact ih.mono (List.subset_cons_self ..)
  | @accepted bs _ d ds _ _ hd _ ih =>
    have hfirst : Grows (d :: ds) bs ⟨bs.bound ++ [d]⟩ :=
      ⟨[d], rfl, List.nodup_singleton d, by simp [hd]⟩
    exact hfirst.trans (ih.mono (List.subset_cons_self ..))
  | refused _ _ ih => exact ih.mono (List.subset_cons_self ..)

/-- When the whole list is bound there is only one way to have grown, but for the order. -/
theorem Grows.perm (h₁ : Grows ds bs bs₁) (h₂ : Grows ds bs bs₂) (hall₁ : ds ⊆ bs₁.bound)
    (hall₂ : ds ⊆ bs₂.bound) : bs₁.bound.Perm bs₂.bound := by
  obtain ⟨new₁, heq₁, hnodup₁, hmem₁⟩ := h₁
  obtain ⟨new₂, heq₂, hnodup₂, hmem₂⟩ := h₂
  rw [heq₁] at hall₁ ⊢
  rw [heq₂] at hall₂ ⊢
  refine List.Perm.append_left _ ((List.perm_ext_iff_of_nodup hnodup₁ hnodup₂).mpr fun d => ?_)
  constructor
  · intro hd
    exact (List.mem_append.mp (hall₂ (hmem₁ d hd).1)).resolve_left (hmem₁ d hd).2
  · intro hd
    exact (List.mem_append.mp (hall₁ (hmem₂ d hd).1)).resolve_left (hmem₂ d hd).2

theorem ask_of_bound (b : Backend σ) (r : Interop.Request) (bs : Bindings) :
    ∀ {ds : List DeviceId}, ds ⊆ bs.bound → ask b r bs ds = pure (0, bs)
  | [], _ => rfl
  | d :: ds, h => by
    obtain ⟨hd, hds⟩ := List.cons_subset.mp h
    rw [ask, if_pos (isBound_iff.mpr hd)]
    exact ask_of_bound b r bs hds

theorem bindAll_of_bound (b : Backend σ) (bs : Bindings)
    (h : (if r.wantsBinding then ds else []) ⊆ bs.bound) :
    bs.bindAll b ds r = pure (.ok (), bs) := by
  cases hr : r.wantsBinding with
  | true =>
    rw [hr, if_pos rfl] at h
    rw [bindAll, hr, if_pos rfl, ask_of_bound b r bs h]
    rfl
  | false => exact bindAll_of_not_wanted b bs ds hr

end Bindings

namespace Context

variable {c c' tried : Context} {words? : Option (List Word)} {calls history : List Event}
  {result : Except Error Unit}

/-- Creation with this list has nothing left to do: it fits and is copied, all devices to bind are
bound, and graphics is not lacking. -/
structure Settled (c : Context) (words? : Option (List Word)) : Prop where
  fits : c.Fits words?
  copied : c.copyOf words? = c.properties
  bound : c.toBind ⊆ c.bindings.bound
  shared : c.lacksGraphics = false

theorem Settled.create_eq (h : c.Settled words?) (b : Backend σ) :
    c.create b words? = pure (.ok (), c) := by
  have hkept : c.keepProperties words? = .ok c := by
    rw [keepProperties_of_fits h.fits, h.copied]
  have hbind : c.bindDevices b = pure (.ok (), c) := by
    rw [bindDevices, Bindings.bindAll_of_bound b c.bindings h.bound]
    rfl
  rw [create, hkept]
  simp only [hbind, pure_bind, shareGraphics_eq, h.shared, Bool.false_eq_true, ↓reduceIte]

theorem copyOf_idem (c : Context) (words? : Option (List Word)) (bindings : Bindings)
    (graphics : Option Graphics.Library) :
    ({ c with properties := c.copyOf words?, bindings, graphics } : Context).copyOf words? =
      c.copyOf words? := by
  cases words? with
  | none => rfl
  | some words => cases hkeep : c.settings.keepPropertyCopy <;> simp [copyOf, hkeep]

/-- A creation that succeeds leaves nothing to do. -/
theorem Creation.settles (hfits : c.Fits words?)
    (h : Creation { c with properties := c.copyOf words? } calls result c')
    (hok : result = .ok ()) : c'.Settled words? := by
  cases h with
  | refused => cases hok
  | bound hasks hshared =>
    exact ⟨hfits, copyOf_idem c words? _ _, hasks.subset_bound rfl, hshared⟩
  | unshared => cases hok
  | shared hasks _ _ =>
    exact ⟨hfits, copyOf_idem c words? _ _, hasks.subset_bound rfl, Bool.and_false _⟩

theorem Settled.perform (h : c.Settled words?) (b : Backend σ) (op : Operation)
    (hop : ∀ other, op = .create other → other = words?) (s : σ) :
    ((c.perform b op).run s).value.Settled words? := by
  by_cases hcreate : ∃ other, op = .create other
  · obtain ⟨other, rfl⟩ := hcreate
    rw [hop other rfl, Context.perform, Act.map_value, h.create_eq b]
    exact h
  · obtain ⟨-, hvalue⟩ := perform_other b c fun other heq => hcreate ⟨other, heq⟩
    obtain ⟨host, queues, hvalue⟩ := hvalue s
    rw [hvalue]
    exact ⟨h.fits, h.copied, h.bound, h.shared⟩

/-- As long as no other list is given, there is nothing left to do. -/
theorem Settled.performAll (b : Backend σ) : ∀ (ops : List Operation) {c : Context} (s : σ),
    c.Settled words? → (∀ other, .create other ∈ ops → other = words?) →
      ((c.performAll b ops).run s).value.Settled words?
  | [], _, _, h, _ => h
  | op :: ops, c, s, h, hops => by
    have hop : ∀ other, op = .create other → other = words? :=
      fun other heq => hops other (heq ▸ List.mem_cons_self)
    have hrest : ∀ other, .create other ∈ ops → other = words? :=
      fun other hmem => hops other (List.mem_cons_of_mem _ hmem)
    rw [Context.performAll, Act.bind_value]
    exact Settled.performAll b ops _ (h.perform b op hop s) hrest

/-! ### After failures -/

/-- The contexts after any number of failed creations with one list, from any states of the outside,
and the calls of all of them. -/
inductive Tried (b : Backend σ) (words? : Option (List Word)) (c : Context) :
    Context → List Event → Prop
  | start : Tried b words? c c []
  | failed {tried : Context} {history : List Event} {e : Error} (s : σ) :
      Tried b words? c tried history → ((tried.create b words?).run s).value.1 = .error e →
      Tried b words? c ((tried.create b words?).run s).value.2
        (history ++ ((tried.create b words?).run s).events)

/-- The context differs by its copy and by more devices that are bound at most, and what it copies
of the list is the same. -/
def Underway (c : Context) (words? : Option (List Word)) (tried : Context) : Prop :=
  ∃ properties bindings, tried = { c with properties, bindings } ∧
    tried.copyOf words? = c.copyOf words? ∧ c.bindings.Grows c.toBind bindings

/-- The context after a creation that succeeds: the list is copied, all devices to bind are bound,
and graphics is shared if it was lacking. -/
def Finished (c : Context) (words? : Option (List Word)) (done : Context) : Prop :=
  ∃ bindings graphics, done = { c with properties := c.copyOf words?, bindings, graphics } ∧
    c.bindings.Grows c.toBind bindings ∧ c.toBind ⊆ bindings.bound ∧
    (c.lacksGraphics = false → graphics = c.graphics) ∧
    (c.lacksGraphics = true → graphics.isSome = true)

/-- The contexts are the same but for the order in which devices were bound, and for which library
they share. -/
structure Alike (c c' : Context) : Prop where
  same : c' = { c with bindings := c'.bindings, graphics := c'.graphics }
  bound : c.bindings.bound.Perm c'.bindings.bound
  shares : c.sharesGraphics = c'.sharesGraphics

theorem Creation.of_error {e : Error} (h : Creation c calls result c')
    (hfailed : result = .error e) :
    ∃ bindings, c' = { c with bindings } ∧ c.bindings.Grows c.toBind bindings := by
  cases h with
  | refused hasks _ => exact ⟨_, rfl, hasks.grows⟩
  | bound => cases hfailed
  | unshared hasks _ _ => exact ⟨_, rfl, hasks.grows⟩
  | shared => cases hfailed

/-- A creation that succeeds binds all devices to bind, and shares graphics if it was lacking. -/
theorem Creation.of_ok (h : Creation c calls result c') (hok : result = .ok ()) :
    ∃ bindings graphics, c' = { c with bindings, graphics } ∧
      c.bindings.Grows c.toBind bindings ∧ c.toBind ⊆ bindings.bound ∧
      (c.lacksGraphics = false → graphics = c.graphics) ∧
      (c.lacksGraphics = true → graphics.isSome = true) := by
  cases h with
  | refused => cases hok
  | bound hasks hshared =>
    refine ⟨_, c.graphics, rfl, hasks.grows, hasks.subset_bound rfl, fun _ => rfl, ?_⟩
    intro hlacks
    cases hlacks.symm.trans hshared
  | unshared => cases hok
  | @shared _ _ _ library hasks hlacks _ =>
    refine ⟨_, some library, rfl, hasks.grows, hasks.subset_bound rfl, ?_, fun _ => rfl⟩
    intro hshared
    cases hshared.symm.trans hlacks

theorem create_eq_ok_iff (b : Backend σ) (c : Context) (words? : Option (List Word)) (s : σ) :
    let o := (c.create b words?).run s
    o.value.1 = .ok () ↔ c.Fits words? ∧ (∀ e ∈ o.events, e.rejects = false) ∧
      (c.lacksGraphics = true → Granted c.agreement.toRequest c.loader o.events) := by
  intro o
  by_cases hfits : c.Fits words?
  · exact (create_of_fits b hfits s).eq_ok_iff.trans (and_iff_right hfits).symm
  · obtain ⟨reason, hshort⟩ := create_of_short b hfits
    refine iff_of_false ?_ fun h => hfits h.1
    simp only [o, hshort, Act.pure_value]
    exact nofun

theorem Underway.fits_iff (h : Underway c words? tried) : tried.Fits words? ↔ c.Fits words? := by
  obtain ⟨properties, bindings, rfl, -, -⟩ := h
  exact Iff.rfl

theorem Underway.creation (h : Underway c words? tried) (hfits : c.Fits words?) (b : Backend σ)
    (s : σ) :
    let o := (tried.create b words?).run s
    ∃ bindings, c.bindings.Grows c.toBind bindings ∧
      Creation { c with properties := c.copyOf words?, bindings } o.events o.value.1 o.value.2 := by
  have hcreate := create_of_fits b (h.fits_iff.mpr hfits) s
  obtain ⟨properties, bindings, rfl, hcopy, hgrows⟩ := h
  rw [hcopy] at hcreate
  exact ⟨bindings, hgrows, hcreate⟩

theorem Underway.start (c : Context) (words? : Option (List Word)) : Underway c words? c :=
  ⟨c.properties, c.bindings, rfl, rfl, .refl _ _⟩

theorem Tried.underway {b : Backend σ} (h : Tried b words? c tried history) :
    Underway c words? tried := by
  induction h with
  | start => exact .start c words?
  | @failed tried history e s _ hfailed ih =>
    -- Either the list is too short each time, or what failed was one of the later stages.
    by_cases hfits : c.Fits words?
    · obtain ⟨bindings, hgrows, hcreate⟩ := ih.creation hfits b s
      obtain ⟨more, hvalue, hmore⟩ := hcreate.of_error hfailed
      rw [hvalue]
      exact ⟨_, more, rfl, copyOf_idem c words? more c.graphics, hgrows.trans hmore⟩
    · obtain ⟨reason, hshort⟩ := create_of_short b (mt ih.fits_iff.mp hfits)
      rw [hshort]
      exact ih

theorem create_bound_eq (b : Backend σ) (c : Context) (words? : Option (List Word)) (s : σ) :
    let o := (c.create b words?).run s
    o.value.2.bindings.bound = c.bindings.bound ++ o.events.filterMap Event.binds? := by
  intro o
  by_cases hfits : c.Fits words?
  · exact (create_of_fits b hfits s).bound_eq
  · obtain ⟨reason, hshort⟩ := create_of_short b hfits
    simp only [o, hshort, Act.pure_value, Act.pure_events, List.filterMap_nil, List.append_nil]

theorem Tried.bound_eq {b : Backend σ} (h : Tried b words? c tried history) :
    tried.bindings.bound = c.bindings.bound ++ history.filterMap Event.binds? := by
  induction h with
  | start => exact (List.append_nil _).symm
  | @failed tried history e s _ _ ih =>
    rw [create_bound_eq, ih, List.filterMap_append, List.append_assoc]

/-- Of the devices that are bound when creation has succeeded, each that was not bound before has
accepted once. -/
theorem Finished.count_accepted {done : Context} (h : Finished c words? done)
    (hbound : done.bindings.bound = c.bindings.bound ++ history.filterMap Event.binds?)
    (d : DeviceId) : (history.filterMap Event.binds?).count d =
      if d ∈ c.toBind ∧ d ∉ c.bindings.bound then 1 else 0 := by
  obtain ⟨bindings, graphics, rfl, ⟨new, hnew, hnodup, hmem⟩, hall, -, -⟩ := h
  obtain rfl : new = history.filterMap Event.binds? :=
    List.append_cancel_left (hnew.symm.trans hbound)
  have hiff : d ∈ history.filterMap Event.binds? ↔ d ∈ c.toBind ∧ d ∉ c.bindings.bound := by
    refine ⟨hmem d, fun ⟨hd, hfree⟩ => ?_⟩
    have hin := hall hd
    rw [hnew] at hin
    exact (List.mem_append.mp hin).resolve_left hfree
  simp only [hnodup.count, hiff]

/-- A creation that succeeds after failures finishes what they began. -/
theorem Underway.finish (h : Underway c words? tried) (b : Backend σ) (s : σ)
    (hok : ((tried.create b words?).run s).value.1 = .ok ()) :
    Finished c words? ((tried.create b words?).run s).value.2 := by
  have hfits := h.fits_iff.mp ((create_eq_ok_iff b tried words? s).mp hok).1
  obtain ⟨bindings, hgrows, hcreate⟩ := h.creation hfits b s
  obtain ⟨more, graphics, hvalue, hmore, hall, hheld, hshared⟩ := hcreate.of_ok hok
  rw [hvalue]
  exact ⟨more, graphics, rfl, hgrows.trans hmore, hall, hheld, hshared⟩

theorem Finished.alike {first second : Context} (h₁ : Finished c words? first)
    (h₂ : Finished c words? second) : first.Alike second := by
  obtain ⟨bindings₁, graphics₁, rfl, hgrows₁, hall₁, hheld₁, hshared₁⟩ := h₁
  obtain ⟨bindings₂, graphics₂, rfl, hgrows₂, hall₂, hheld₂, hshared₂⟩ := h₂
  refine ⟨rfl, hgrows₁.perm hgrows₂ hall₁ hall₂, ?_⟩
  cases hlacks : c.lacksGraphics with
  | true => exact (hshared₁ hlacks).trans (hshared₂ hlacks).symm
  | false => exact congrArg Option.isSome ((hheld₁ hlacks).trans (hheld₂ hlacks).symm)

theorem Underway.create_eq_ok_iff (h : Underway c words? tried) (b : Backend σ) (s : σ) :
    let o := (tried.create b words?).run s
    o.value.1 = .ok () ↔ c.Fits words? ∧ (∀ e ∈ o.events, e.rejects = false) ∧
      (c.lacksGraphics = true → Granted c.agreement.toRequest c.loader o.events) := by
  have hiff := Context.create_eq_ok_iff b tried words? s
  obtain ⟨properties, bindings, rfl, -, -⟩ := h
  exact hiff

/-- **Creation goes on where it was left.** A list that is too short is refused before anything is
called or changed. Otherwise the list is copied and creation goes through its stages: the first one
that fails ends it, and what was done before stays. After a success, and whatever is done then as
long as no other list is given, a creation with the same list calls and changes nothing. After any
number of failures with one list, a creation succeeds exactly if the list fits, the devices that are
left accept, and graphics is granted if it was lacking. The context is then as it is after a
creation that succeeds at once, and each device that was to be bound has accepted once in all. -/
theorem creation_goes_on (b : Backend σ) (c : Context) (words? : Option (List Word)) (s : σ) :
    let o := (c.create b words?).run s
    (¬c.Fits words? → ∃ reason, o = ⟨(.error (.invalidValue reason), c), s, []⟩) ∧
    (c.Fits words? →
      Staged { c with properties := c.copyOf words? } o.events o.value.1 o.value.2) ∧
    (o.value.1 = .ok () → ∀ ops, (∀ other, .create other ∈ ops → other = words?) →
      let later := ((o.value.2.performAll b ops).run o.state).value
      later.create b words? = pure (.ok (), later)) ∧
    ∀ tried history, Tried b words? c tried history → ∀ t : σ,
      let last := (tried.create b words?).run t
      (last.value.1 = .ok () ↔ c.Fits words? ∧ (∀ e ∈ last.events, e.rejects = false) ∧
        (c.lacksGraphics = true → Granted c.agreement.toRequest c.loader last.events)) ∧
      (last.value.1 = .ok () →
        (o.value.1 = .ok () → last.value.2.Alike o.value.2) ∧
        (c.lacksGraphics = false → last.value.2.graphics = c.graphics) ∧
        ∀ d, ((history ++ last.events).filterMap Event.binds?).count d =
          if d ∈ c.toBind ∧ d ∉ c.bindings.bound then 1 else 0) := by
  intro o
  refine ⟨fun hshort => ?_, fun hfits => (create_of_fits b hfits s).staged, ?_, ?_⟩
  · obtain ⟨reason, hrefused⟩ := create_of_short b hshort
    refine ⟨reason, ?_⟩
    simp only [o, hrefused]
    rfl
  · intro hok ops hops later
    have hfits := ((create_eq_ok_iff b c words? s).mp hok).1
    have hsettled := (create_of_fits b hfits s).settles hfits hok
    exact (Settled.performAll b ops o.state hsettled hops).create_eq b
  · intro tried history htried t last
    refine ⟨htried.underway.create_eq_ok_iff b t, fun hlast => ?_⟩
    have hdone := htried.underway.finish b t hlast
    refine ⟨fun hok => ?_, fun hshared => ?_, ?_⟩
    · exact hdone.alike ((Underway.start c words?).finish b s hok)
    · obtain ⟨bindings, graphics, hvalue, -, -, hheld, -⟩ := hdone
      rw [hvalue]
      exact hheld hshared
    · apply hdone.count_accepted
      rw [create_bound_eq, htried.bound_eq, List.filterMap_append, List.append_assoc]

/-- One of two devices refuses at first, then the first library finds the client's context not
current, and the third creation has only a library to load. It leaves the context as a creation that
succeeds at once does, but for the order of the devices. -/
theorem third_creation_succeeds :
    let b := { Simulation.backend (fun _ => ⟨⟨"gpu", ∅, 0⟩, false, .plain, false⟩) ⟨[]⟩ with
      answerHandshake := fun library _ _ => pure (library.id == 1) }
    let outside := fun refuses : DeviceId → Bool =>
      (Simulation.State.start (fun d => .start false (refuses d)) (fun _ => []) []).addLoader
        (.loads true)
    let p : Blueprint :=
      { Blueprint.ofPlatform ⟨4096⟩ with
        devices := [⟨0⟩, ⟨1⟩], loader := some (outside fun _ => false).1 }
    let r : Interop.Request := ⟨Interop.Flags.glDevice, .set .empty .gl ⟨0x50⟩, ⟨0x70⟩⟩
    let list : List Word := [0x200A, 0x50, 0x2008, 0x70, 0]
    let c := p.build b.inventory ⟨r, 40⟩
    let first := (c.create b (some list)).run (outside fun d => d = ⟨0⟩).2
    let second := (first.value.2.create b (some list)).run (outside fun _ => false).2
    let last := (second.value.2.create b (some list)).run second.state
    let once := (c.create b (some list)).run second.state
    first.value.1.isOk = false ∧ second.value.1.isOk = false ∧ last.value.1 = .ok () ∧
      last.value.2.bindings.bound = [⟨1⟩, ⟨0⟩] ∧ once.value.2.bindings.bound = [⟨0⟩, ⟨1⟩] ∧
      last.value.2.Alike once.value.2 ∧
      last.value.2.create b (some list) = pure (.ok (), last.value.2) ∧
      ∃ reason, (c.create b (some [0])).run second.state =
        ⟨(.error (.invalidValue reason), c), second.state, []⟩ := by
  intro b outside p r list c first second last once
  have herror : ∀ {result : Except Error Unit}, result.isOk = false → ∃ e, result = .error e
    | .error e, _ => ⟨e, rfl⟩
  have hfirst : first.value.1.isOk = false := by decide +kernel
  have hsecond : second.value.1.isOk = false := by decide +kernel
  have hlast : last.value.1 = .ok () := by decide +kernel
  have honce : once.value.1 = .ok () := by decide +kernel
  obtain ⟨e₁, he₁⟩ := herror hfirst
  obtain ⟨e₂, he₂⟩ := herror hsecond
  have htried : Tried b (some list) c second.value.2 (first.events ++ second.events) :=
    .failed _ (.failed _ .start he₁) he₂
  have hfits : ¬c.Fits (some [0]) := fun h => absurd (h [0] rfl rfl) (by decide)
  obtain ⟨-, -, -, hretry⟩ := creation_goes_on b c (some list) second.state
  obtain ⟨-, hdone⟩ := hretry _ _ htried second.state
  obtain ⟨halike, -, -⟩ := hdone hlast
  obtain ⟨-, -, hsettled, -⟩ := creation_goes_on b second.value.2 (some list) second.state
  obtain ⟨hshort, -⟩ := creation_goes_on b c (some [0]) second.state
  refine ⟨hfirst, hsecond, hlast, by decide +kernel, by decide +kernel, halike honce, ?_,
    hshort hfits⟩
  exact hsettled hlast [] fun _ h => nomatch h

end Context
end ComputeContext
