/-
# The graphics library that a context holds

A context holds at most one graphics library. It asks its loader only while it
holds none, asks no other library about the client's graphics context than the
one it has just loaded, and drops a library when this says no, or when the
context is closed. A library that is loaded and not dropped yet is the stock of
a history that keeps to this (`Graphics.libraries`).

A creation that shares the graphics context has every device bound by then, and
devices stay bound until the context is closed, so a context that holds a
library has them all bound. It never loads another. When it is closed the
library outlives its devices' leave-taking.

Key definitions: `Graphics.libraries`, `Context.KeepsLibrary`.
Key theorems: `Context.perform_cases`, `Context.Creation.graphics_cases`,
`Context.KeepsLibrary.performAll`, `Context.library_owned`.
-/
import ComputeContext.Proofs.Context.Attachment
import ComputeContext.Proofs.Context.Granted
import ComputeContext.Proofs.Stock
import ComputeContext.Simulation.World

namespace ComputeContext

variable {σ : Type}

/-- The library that the call loaded. -/
def Event.loads? : Event → Option Graphics.Library
  | .load _ _ (.inr library) => some library
  | _ => none

/-- The library that the call dropped. -/
def Event.drops? : Event → Option Graphics.Library
  | .release library => some library
  | _ => none

namespace Graphics

/-- The library that is held after a call. There is none for a call that asks a loader while a
library is held, or that asks or drops another library than the one that is held. -/
def holdAfter (held : Option Library) : Event → Option (Option Library)
  | .load _ _ answer => if held.isNone then some answer.getRight? else none
  | .handshake library _ _ _ => if held = some library then some held else none
  | .release library => if held = some library then some none else none
  | _ => some held

/-- A call that may be made adds the library that it loads and takes away the one that it drops. -/
theorem holdAfter_perm {held held' : Option Library} {e : Event}
    (h : holdAfter held e = some held') :
    (held.toList ++ e.loads?.toList).Perm (held'.toList ++ e.drops?.toList) := by
  cases e with
  | load loader api answer =>
    obtain ⟨hnone, hloaded⟩ := Option.ite_none_right_eq_some.mp h
    cases hloaded
    rw [Option.isNone_iff_eq_none.mp hnone]
    cases answer <;> exact .refl _
  | release library =>
    obtain ⟨rfl, hdropped⟩ := Option.ite_none_right_eq_some.mp h
    cases hdropped
    exact .refl _
  | handshake library display context current =>
    obtain ⟨-, hsame⟩ := Option.ite_none_right_eq_some.mp h
    cases hsame
    exact .refl _
  | _ =>
    cases h
    exact .refl _

/-- The library that is loaded and not dropped yet, if there is one. -/
def libraries : Stock Event (Option Library) Library where
  after := holdAfter
  items := Option.toList
  gain? := Event.loads?
  loss? := Event.drops?
  balanced := holdAfter_perm

theorem run_libraries_of_concern (held : Option Library) {calls : List Event}
    (h : ∀ e ∈ calls, e.concern ≠ .graphics) : libraries.run held calls = some held := by
  refine libraries.run_of_forall fun e he => ?_
  have hconcern := h e he
  cases e <;> first | rfl | exact absurd rfl hconcern

/-- An attempt to share ends with the library that it loaded, or with none. -/
theorem Attempt.run_libraries {r : Interop.Request} {loader : Loader} {calls : List Event}
    {result : Except Failure Library} (h : Attempt r loader calls result) :
    libraries.run none calls = some result.toOption := by
  cases h with
  | unavailable cause => rfl
  | stale library => simp [Stock.run, Graphics.libraries, holdAfter, Except.toOption]
  | current library => simp [Stock.run, Graphics.libraries, holdAfter, Except.toOption]

end Graphics

namespace Bindings.Asking

variable {r : Interop.Request} {bs bs' : Bindings} {ds : List DeviceId} {calls : List Event}
  {refused : Nat}

theorem spares_graphics (h : Asking r bs ds calls refused bs') :
    ∀ e ∈ calls, e.concern ≠ .graphics := by
  intro e he
  rw [h.concern e he]
  decide

end Bindings.Asking

theorem Interop.Request.wantsBinding_of_graphics {r : Request}
    (h : r.flags.contains Flags.glDevice = true) : r.wantsBinding = true :=
  FlagSet.intersects_of_contains h (by decide) (by decide)

namespace Context

variable {c c' : Context} {calls history : List Event} {result : Except Error Unit}

/-- Creation does nothing when the list is too short, and otherwise goes one of the ways of a
creation whose list is copied. -/
theorem create_cases (b : Backend σ) (c : Context) (words? : Option (List Word)) (s : σ) :
    let o := (c.create b words?).run s
    (o.value.2 = c ∧ o.events = []) ∨
      ∃ properties, Creation { c with properties } o.events o.value.1 o.value.2 := by
  intro o
  cases hkeep : c.keepProperties words? with
  | error short =>
    refine .inl ?_
    have ho : o = ⟨(.error short.toError, c), s, []⟩ := by
      simp only [o, create, hkeep]
      rfl
    rw [ho]
    exact ⟨rfl, rfl⟩
  | ok kept =>
    obtain ⟨properties, rfl⟩ := keepProperties_ok hkeep
    exact .inr ⟨properties, create_creates b s hkeep⟩

/-- An operation is a creation whose list is copied, or it leaves devices and graphics alone and
changes at most the host blocks and the queues. -/
theorem perform_cases (b : Backend σ) (c : Context) (op : Operation) (s : σ) :
    let o := (c.perform b op).run s
    (∃ properties result, Creation { c with properties } o.events result o.value) ∨
      ∃ host queues, o.value = { c with host, queues } ∧
        ∀ e ∈ o.events, e.concern ≠ .attachment ∧ e.concern ≠ .graphics := by
  intro o
  by_cases hop : ∃ words?, op = .create words?
  · obtain ⟨words?, rfl⟩ := hop
    simp only [o, perform, Act.map_value, Act.map_events]
    obtain ⟨hvalue, hevents⟩ | ⟨properties, hcreate⟩ := create_cases b c words? s
    · rw [hvalue, hevents]
      exact .inr ⟨c.host, c.queues, rfl, List.forall_mem_nil _⟩
    · exact .inl ⟨properties, _, hcreate⟩
  · obtain ⟨⟨k, hattachment, hgraphics, hcalls⟩, hvalue⟩ :=
      perform_other b c fun words? hw => hop ⟨words?, hw⟩
    obtain ⟨host, queues, hvalue⟩ := hvalue s
    refine .inr ⟨host, queues, hvalue, fun e he => ?_⟩
    rw [hcalls s e he]
    exact ⟨hattachment, hgraphics⟩

/-! ### What creation does with the library -/

theorem lacksGraphics_eq_true_iff : c.lacksGraphics = true ↔
    c.agreement.flags.contains Interop.Flags.glDevice = true ∧ c.graphics = none := by
  rw [lacksGraphics, Bool.and_eq_true, Option.isNone_iff_eq_none]

/-- Creation keeps the devices and the agreement, and unbinds nobody. -/
theorem Creation.keeps (h : Creation c calls result c') :
    c'.roster = c.roster ∧ c'.agreement = c.agreement ∧ c.bindings.bound ⊆ c'.bindings.bound := by
  cases h with
  | refused hasks _ => exact ⟨rfl, rfl, hasks.bound_subset⟩
  | bound hasks _ => exact ⟨rfl, rfl, hasks.bound_subset⟩
  | unshared hasks _ _ => exact ⟨rfl, rfl, hasks.bound_subset⟩
  | shared hasks _ _ => exact ⟨rfl, rfl, hasks.bound_subset⟩

/-- Creation has nothing to do with graphics, or it makes one attempt to share what the context
lacks, with all devices bound by then. -/
theorem Creation.graphics_cases (h : Creation c calls result c') :
    (c'.graphics = c.graphics ∧ ∀ e ∈ calls, e.concern ≠ .graphics) ∨
      ∃ asking sharing outcome, calls = asking ++ sharing ∧ (∀ e ∈ asking, e.concern ≠ .graphics) ∧
        c.lacksGraphics = true ∧ c.roster.devices ⊆ c'.bindings.bound ∧
        Graphics.Attempt c.agreement.toRequest c.loader sharing outcome ∧
        c'.graphics = outcome.toOption := by
  have hall : ∀ {asking : List Event} {bs : Bindings}, c.lacksGraphics = true →
      Bindings.Asking c.agreement.toRequest c.bindings c.toBind asking 0 bs →
        c.roster.devices ⊆ bs.bound := by
    intro asking bs hlacks hasks d hd
    have hwants : c.agreement.wantsBinding = true :=
      Interop.Request.wantsBinding_of_graphics (lacksGraphics_eq_true_iff.mp hlacks).1
    exact hasks.subset_bound rfl (mem_toBind.mpr ⟨hwants, hd⟩)
  cases h with
  | refused hasks _ => exact .inl ⟨rfl, hasks.spares_graphics⟩
  | bound hasks _ => exact .inl ⟨rfl, hasks.spares_graphics⟩
  | unshared hasks hlacks hattempt =>
    exact .inr ⟨_, _, _, rfl, hasks.spares_graphics, hlacks, hall hlacks hasks, hattempt,
      (lacksGraphics_eq_true_iff.mp hlacks).2⟩
  | shared hasks hlacks hattempt =>
    exact .inr ⟨_, _, _, rfl, hasks.spares_graphics, hlacks, hall hlacks hasks, hattempt, rfl⟩

theorem Creation.run_libraries (h : Creation c calls result c') :
    Graphics.libraries.run c.graphics calls = some c'.graphics := by
  obtain ⟨hsame, hspares⟩ |
    ⟨asking, sharing, outcome, rfl, hspares, hlacks, -, hattempt, houtcome⟩ := h.graphics_cases
  · rw [hsame, Graphics.run_libraries_of_concern _ hspares]
  · rw [Stock.run_append, Graphics.run_libraries_of_concern _ hspares, Option.bind_some,
      (lacksGraphics_eq_true_iff.mp hlacks).2, hattempt.run_libraries, houtcome]

/-- When creation gives the context a library, graphics is agreed on and all devices are bound. -/
theorem Creation.agreed_and_bound (h : Creation c calls result c') (hnone : c.graphics = none)
    (hshares : c'.sharesGraphics = true) :
    c.agreement.flags.contains Interop.Flags.glDevice = true ∧
      c.roster.devices ⊆ c'.bindings.bound := by
  obtain ⟨hsame, -⟩ | ⟨-, -, -, -, -, hlacks, hbound, -, -⟩ := h.graphics_cases
  · rw [sharesGraphics, hsame, hnone] at hshares
    cases hshares
  · exact ⟨(lacksGraphics_eq_true_iff.mp hlacks).1, hbound⟩

/-- A context that shares graphics keeps its library, and has nothing to do with graphics again. -/
theorem Creation.of_shares (h : Creation c calls result c') (hshares : c.sharesGraphics = true) :
    c'.graphics = c.graphics ∧ ∀ e ∈ calls, e.concern ≠ .graphics := by
  obtain hspares | ⟨-, -, -, -, -, hlacks, -, -, -⟩ := h.graphics_cases
  · exact hspares
  · rw [sharesGraphics, (lacksGraphics_eq_true_iff.mp hlacks).2] at hshares
    cases hshares

/-! ### The library over the life of a context -/

/-- The context holds the library of its history. If there is one, graphics is agreed on and every
device is bound. -/
structure KeepsLibrary (c : Context) (history : List Event) : Prop where
  held : Graphics.libraries.run none history = some c.graphics
  agreed : c.sharesGraphics = true → c.agreement.flags.contains Interop.Flags.glDevice = true
  bound : c.sharesGraphics = true → c.roster.devices ⊆ c.bindings.bound

theorem KeepsLibrary.build (inventory : Inventory) (p : Blueprint) (a : Agreement) :
    KeepsLibrary (p.build inventory a) [] where
  held := rfl
  agreed := nofun
  bound := nofun

theorem KeepsLibrary.creation (h : KeepsLibrary c history) (hcreate : Creation c calls result c') :
    KeepsLibrary c' (history ++ calls) := by
  have hheld : Graphics.libraries.run none (history ++ calls) = some c'.graphics := by
    rw [Stock.run_append, h.held, Option.bind_some, hcreate.run_libraries]
  obtain ⟨hroster, hagreement, hgrows⟩ := hcreate.keeps
  cases hgraphics : c.graphics with
  | none =>
    have hnew := hcreate.agreed_and_bound hgraphics
    exact ⟨hheld, fun hs => hagreement ▸ (hnew hs).1, fun hs => hroster ▸ (hnew hs).2⟩
  | some library =>
    have hshares : c.sharesGraphics = true := by
      rw [sharesGraphics, hgraphics]
      rfl
    exact ⟨hheld, fun _ => hagreement ▸ h.agreed hshares,
      fun _ => hroster ▸ List.Subset.trans (h.bound hshares) hgrows⟩

theorem KeepsLibrary.perform (h : KeepsLibrary c history) (b : Backend σ) (op : Operation) (s : σ) :
    let o := (c.perform b op).run s
    KeepsLibrary o.value (history ++ o.events) := by
  intro o
  obtain ⟨properties, result, hcreate⟩ | ⟨host, queues, hvalue, hcalls⟩ := perform_cases b c op s
  · have hcopied : KeepsLibrary { c with properties } history := ⟨h.held, h.agreed, h.bound⟩
    exact hcopied.creation hcreate
  · have hstays : Graphics.libraries.run c.graphics o.events = some c.graphics :=
      Graphics.run_libraries_of_concern _ fun e he => (hcalls e he).2
    rw [hvalue]
    refine ⟨?_, h.agreed, h.bound⟩
    rw [Stock.run_append, h.held, Option.bind_some, hstays]

theorem KeepsLibrary.performAll (h : KeepsLibrary c history) (b : Backend σ)
    (ops : List Operation) (s : σ) :
    let o := (c.performAll b ops).run s
    KeepsLibrary o.value (history ++ o.events) :=
  performAll_keeps (fun _ _ op s h => h.perform b op s) ops c history s h

theorem perform_of_shares (b : Backend σ) (op : Operation) (s : σ)
    (hshares : c.sharesGraphics = true) :
    let o := (c.perform b op).run s
    o.value.graphics = c.graphics ∧ ∀ e ∈ o.events, e.concern ≠ .graphics := by
  intro o
  obtain ⟨properties, result, hcreate⟩ | ⟨host, queues, hvalue, hcalls⟩ := perform_cases b c op s
  · exact hcreate.of_shares hshares
  · rw [hvalue]
    exact ⟨rfl, fun e he => (hcalls e he).2⟩

theorem performAll_of_shares (b : Backend σ) (ops : List Operation) (s : σ)
    (hshares : c.sharesGraphics = true) :
    let o := (c.performAll b ops).run s
    o.value.graphics = c.graphics ∧ ∀ e ∈ o.events, e.concern ≠ .graphics := by
  have hkeeps := performAll_keeps (b := b)
    (I := fun now history => now.graphics = c.graphics ∧ ∀ e ∈ history, e.concern ≠ .graphics)
    (fun now history op s h => by
      have hstill : now.sharesGraphics = true := by
        rw [sharesGraphics, h.1]
        exact hshares
      obtain ⟨hgraphics, hcalls⟩ := perform_of_shares b op s hstill
      exact ⟨hgraphics.trans h.1, List.forall_mem_append.mpr ⟨h.2, hcalls⟩⟩)
  exact hkeeps ops c [] s ⟨rfl, List.forall_mem_nil _⟩

/-- Closing drops the library that the context holds, after everything else. -/
theorem close_drops_last (b : Backend σ) (c : Context) (s : σ) :
    ∃ leaving, ((c.close b).run s).events = leaving ++ c.graphics.toList.map .release ∧
      ∀ e ∈ leaving, e.concern ≠ .graphics := by
  set leave := (leave b c.agreement.toRequest c.bindings c.roster.devices).run s with hleave
  set giving := (c.host.close b).run leave.state with hgiving
  refine ⟨leave.events ++ giving.events, ?_, List.forall_mem_append.mpr ⟨?_, ?_⟩⟩
  · cases hgraphics : c.graphics with
    | none =>
      simp only [close, hgraphics, Act.discard_eq_map, Act.bind_events, Act.map_events]
      exact (List.append_assoc ..).symm
    | some library =>
      simp only [close, hgraphics, Act.discard_eq_map, Act.bind_events, Act.map_events]
      exact (List.append_assoc ..).symm
  · exact emits_leave b (fun _ => by simp [Event.concern]) (fun _ => by simp [Event.concern]) _ _ s
  · exact HostPool.emits_giveBack b (fun _ _ => by simp [Event.concern]) _ leave.state

/-- Over a life that ends, nothing stays held. -/
theorem KeepsLibrary.run_libraries_close (h : KeepsLibrary c history) (b : Backend σ) (s : σ) :
    Graphics.libraries.run none (history ++ ((c.close b).run s).events) = some none := by
  obtain ⟨leaving, hevents, hleaving⟩ := close_drops_last b c s
  rw [hevents, Stock.run_append, h.held, Option.bind_some, Stock.run_append,
    Graphics.run_libraries_of_concern _ hleaving, Option.bind_some]
  cases c.graphics with
  | none => rfl
  | some library => simp [Stock.run, Graphics.libraries, Graphics.holdAfter]

/-- **A library is owned from its loading to its dropping.** Whatever devices, loaders and libraries
answer and whatever a client does, as often as it tries to create the context: one library more has
been loaded than dropped if the context shares graphics, and none otherwise. If it does, graphics is
agreed on, every device is bound, and whatever is done next it keeps the library and has nothing to
do with graphics. When it is closed, every library has been dropped as often as it was loaded, and
the one that it held is dropped after all else. -/
theorem library_owned (b : Backend σ) (p : Blueprint) (a : Agreement) (ops more : List Operation)
    (s : σ) :
    let life := ((p.build b.inventory a).performAll b ops).run s
    let c := life.value
    let later := (c.performAll b more).run life.state
    let ending := (c.close b).run life.state
    let history := life.events ++ ending.events
    (Graphics.libraries.run none life.events = some c.graphics ∧
      (Graphics.libraries.gained life.events).length =
        (Graphics.libraries.lost life.events).length + if c.sharesGraphics then 1 else 0) ∧
    (c.sharesGraphics = true →
      a.flags.contains Interop.Flags.glDevice = true ∧
      (∀ d ∈ p.devices, c.bindings.isBound d = true) ∧
      later.value.graphics = c.graphics ∧ ∀ e ∈ later.events, e.concern ≠ .graphics) ∧
    Graphics.libraries.run none history = some none ∧
    (Graphics.libraries.lost history).Perm (Graphics.libraries.gained history) ∧
    ∃ leaving, ending.events = leaving ++ c.graphics.toList.map .release ∧
      ∀ e ∈ leaving, e.concern ≠ .graphics := by
  intro life c later ending history
  have hattached : Attached p a c life.events :=
    (Attached.build b.inventory p a).performAll b ops s
  have hkeeps : KeepsLibrary c life.events :=
    (KeepsLibrary.build b.inventory p a).performAll b ops s
  have hclosed : Graphics.libraries.run none history = some none :=
    hkeeps.run_libraries_close b life.state
  refine ⟨⟨hkeeps.held, ?_⟩, fun hshares => ⟨?_, ?_, ?_⟩, hclosed, ?_, ?_⟩
  · rw [Graphics.libraries.length_gained rfl hkeeps.held, sharesGraphics]
    cases c.graphics <;> rfl
  · rw [← hattached.agreement]
    exact hkeeps.agreed hshares
  · intro d hd
    rw [← hattached.devices] at hd
    rw [Bindings.isBound, List.contains_iff_mem]
    exact hkeeps.bound hshares hd
  · exact performAll_of_shares b more life.state hshares
  · exact Graphics.libraries.lost_perm_gained rfl rfl hclosed
  · exact close_drops_last b c life.state

/-- The first library finds the client's context not current and is dropped, the second finds it
current, and the third creation loads nothing. -/
theorem second_library_kept :
    let b := { Simulation.backend (fun _ => ⟨⟨"gpu", ∅, 0⟩, false, .plain, false⟩) ⟨[]⟩ with
      answerHandshake := fun library _ _ => pure (library.id == 1) }
    let outside := Simulation.State.start (fun _ => .start false false) (fun _ => []) []
    let loader := (outside.addLoader (.loads true)).1
    let s := (outside.addLoader (.loads true)).2
    let p : Blueprint :=
      { Blueprint.ofPlatform ⟨4096⟩ with devices := [⟨0⟩, ⟨1⟩], loader := some loader }
    let r : Interop.Request := ⟨Interop.Flags.glDevice, .set .empty .gl ⟨0x50⟩, ⟨0x70⟩⟩
    let creating := List.replicate 2 (Operation.create none)
    let life := ((p.build b.inventory ⟨r, 0⟩).performAll b creating).run s
    let c := life.value
    let third := (c.performAll b [.create none]).run life.state
    let ending := (c.close b).run life.state
    (Graphics.libraries.gained life.events).length =
        (Graphics.libraries.lost life.events).length + 1 ∧
      (∀ d ∈ p.devices, c.bindings.isBound d = true) ∧
      (∀ e ∈ third.events, e.concern ≠ .graphics) ∧
      Graphics.libraries.lost (life.events ++ ending.events) =
        [⟨0, .glx, loader⟩, ⟨1, .glx, loader⟩] ∧
      ending.events.getLast? = some (.release ⟨1, .glx, loader⟩) := by
  intro b outside loader s p r creating life c third ending
  obtain ⟨⟨-, hcount⟩, hshared, -, -, -⟩ :=
    library_owned b p ⟨r, 0⟩ creating [.create none] s
  have hshares : c.sharesGraphics = true := by decide +kernel
  obtain ⟨-, hbound, -, hspared⟩ := hshared hshares
  exact ⟨by rwa [if_pos hshares] at hcount, hbound, hspared, by decide +kernel, by decide +kernel⟩

end Context
end ComputeContext
