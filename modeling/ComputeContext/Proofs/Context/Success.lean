/-
# When a client has its context

A client that asks for a context gets it exactly if its words are accepted and
what the agreement asks for is granted (`Blueprint.created_iff_granted`). What
is asked for follows from the agreement: each listed device, and, if none
rejects its binding, a library and the library's opinion of the client's
context. What is answered is up to the outside, and the history has its
answers (`Blueprint.answered_create`).

A context that could not be created is closed before the client has its error.
Closing only gives back (`Context.close_asks_nothing`), so the calls of a
failed request still show what was asked and what was answered, and then each
device that accepted is unbound and each listed device is told.

Key definitions: `Event.AnsweredBy`, `Context.AsksNothing`.
Key theorems: `Context.close_asks_nothing`, `Blueprint.answered_create`,
`Blueprint.create_agreed`, `Blueprint.created_iff_granted`.
-/
import ComputeContext.Proofs.Context.Attachment
import ComputeContext.Proofs.Context.Creation
import ComputeContext.Proofs.Context.Granted

namespace ComputeContext

variable {σ : Type}

/-- The outside gives this answer to the call, in some state. -/
def Event.AnsweredBy (b : Backend σ) : Event → Prop
  | .svmAlloc d r hint answer => ∃ s, (b.answerSvmAlloc d r hint s).1 = answer
  | .hostAlloc d size alignment segment answer =>
    ∃ s, (b.answerHostAlloc d size alignment segment s).1 = answer
  | .bind d r validateOnly accepted => ∃ s, (b.answerBind d r validateOnly s).1 = accepted
  | .load l api answer => ∃ s, (b.answerLoad l api s).1 = answer
  | .handshake l display context current => ∃ s, (b.answerHandshake l display context s).1 = current
  | .heapAlloc layout answer => ∃ s, (b.answerHeapAlloc layout s).1 = answer
  | _ => True

theorem Event.answeredBy_of_asks {b : Backend σ} {e : Event} (h : e.asks = false) :
    e.AnsweredBy b := by
  cases e <;> trivial

theorem answered_compositional (b : Backend σ) :
    Act.Compositional fun (α : Type) (m : Run σ α) => Act.Emits (Event.AnsweredBy b) m :=
  Act.emits_compositional (Event.AnsweredBy b)

theorem Bindings.answered_ask (b : Backend σ) (r : Interop.Request) :
    ∀ (ds : List DeviceId) (bs : Bindings), Act.Emits (Event.AnsweredBy b) (ask b r bs ds)
  | [], bs => (answered_compositional b).pure _
  | d :: ds, bs => by
    have hc := answered_compositional b
    unfold ask
    split
    · exact answered_ask b r ds bs
    · refine hc.bind (Act.emits_call fun s => ⟨s, rfl⟩) fun accepted => ?_
      cases accepted with
      | true => exact answered_ask b r ds _
      | false => exact hc.bind (answered_ask b r ds bs) fun _ => hc.pure _

namespace Context

theorem answered_create (b : Backend σ) (c : Context) (words? : Option (List Word)) :
    Act.Emits (Event.AnsweredBy b) (c.create b words?) := by
  have hc := answered_compositional b
  have hbind : ∀ c : Context, Act.Emits (Event.AnsweredBy b) (c.bindDevices b) := by
    intro c
    refine hc.bind ?_ fun _ => hc.pure _
    unfold Bindings.bindAll
    split
    · exact hc.bind (Bindings.answered_ask b _ _ _) fun _ => hc.pure _
    · exact hc.pure _
  have hshare : ∀ c : Context, Act.Emits (Event.AnsweredBy b) (c.shareGraphics b) := by
    intro c
    rw [shareGraphics_eq]
    split
    · exact hc.map _ (Graphics.emits_share b _ _ (fun s => ⟨s, rfl⟩) (fun _ s => ⟨s, rfl⟩)
        fun _ => trivial)
    · exact hc.pure _
  unfold create
  cases c.keepProperties words? with
  | error short => exact hc.pure _
  | ok kept =>
    refine hc.bind (hbind kept) fun bound => ?_
    obtain ⟨result, c⟩ := bound
    cases result with
    | error e => exact hc.pure _
    | ok _ => exact hshare c

/-- The computation gives back at most. -/
def AsksNothing {α : Type} (m : Run σ α) : Prop := Act.Emits (fun e : Event => e.asks = false) m

theorem asksNothing_compositional :
    Act.Compositional fun (α : Type) (m : Run σ α) => AsksNothing m :=
  Act.emits_compositional fun e : Event => e.asks = false

theorem close_asks_nothing (b : Backend σ) (c : Context) : AsksNothing (c.close b) := by
  have hc := asksNothing_compositional (σ := σ)
  have hleave : AsksNothing (leave b c.agreement.toRequest c.bindings c.roster.devices) :=
    emits_leave b (fun _ => rfl) (fun _ => rfl) _ _
  have hgive : AsksNothing (c.host.close b) := HostPool.emits_giveBack b (fun _ _ => rfl) _
  unfold close
  rw [Act.discard_eq_map]
  refine hc.bind (hc.map _ hleave) fun _ => hc.bind hgive fun _ => ?_
  cases c.graphics with
  | none => exact hc.pure ()
  | some library => exact Act.emits_call fun _ => rfl

end Context

namespace Blueprint

open Context

variable {p : Blueprint} {words : List Word} {a : Agreement}

/-- Whatever a client's request for a context calls, its history has the outside's answers. -/
theorem answered_create (b : Backend σ) (p : Blueprint) (words? : Option (List Word)) :
    Act.Emits (Event.AnsweredBy b) (p.create b words?) := by
  have hc := answered_compositional b
  unfold create
  cases Property.negotiateWords p.platform words? with
  | error e => exact hc.pure _
  | ok a =>
    refine hc.bind (Context.answered_create b _ words?) fun created => ?_
    obtain ⟨result, c⟩ := created
    cases result with
    | ok _ => exact hc.pure _
    | error e =>
      have hclose : Act.Emits (Event.AnsweredBy b) (c.close b) := fun s e he =>
        Event.answeredBy_of_asks (close_asks_nothing b c s e he)
      exact hc.bind hclose fun _ => hc.pure _

theorem build_creates (b : Backend σ)
    (h : Property.negotiateWords p.platform (some words) = .ok a) (s : σ) :
    let first := ((p.build b.inventory a).create b (some words)).run s
    ∃ properties, Creation { p.build b.inventory a with properties } first.events first.value.1
      first.value.2 := by
  intro first
  have hagreed : Property.negotiateWords p.platform (some words) =
      .ok (p.build b.inventory a).agreement := h
  obtain ⟨ps, -, hkept⟩ := keepProperties_agreed hagreed
  have hcreates := create_creates b s hkept
  obtain ⟨properties, hproperties⟩ := keepProperties_ok hkept
  rw [hproperties] at hcreates
  exact ⟨properties, hcreates⟩

/-- After an agreement a client's request is a creation, followed by calls that ask for nothing if
it fails. -/
theorem create_agreed (b : Backend σ)
    (h : Property.negotiateWords p.platform (some words) = .ok a) (s : σ) :
    let o := (p.create b (some words)).run s
    ∃ properties result calls closing c,
      Creation { p.build b.inventory a with properties } calls result c ∧
        o.events = calls ++ closing ∧ (∀ e ∈ closing, e.asks = false) ∧
        o.value = result.map fun _ => c := by
  intro o
  obtain ⟨properties, hcreates⟩ := build_creates b h s
  obtain ⟨hok, hrun⟩ | ⟨e, herror, hrun⟩ := created_or_closed b h s
  · refine ⟨properties, _, _, [], _, hcreates, ?_, nofun, ?_⟩
    · simp only [o, hrun, List.append_nil]
    · simp only [o, hrun, hok, Except.map]
  · have hevents := congrArg Outcome.events hrun
    refine ⟨properties, _, _, _, _, hcreates, hevents, close_asks_nothing b _ _, ?_⟩
    simp only [o, hrun, herror, Except.map]

section Agreed

variable (h : Property.negotiateWords p.platform (some words) = .ok a)
include h

theorem created_iff_of_agreed (b : Backend σ) (s : σ) :
    let o := (p.create b (some words)).run s
    (∃ c, o.value = .ok c) ↔ (a.flags.contains Interop.Flags.glDevice = true →
      Granted a.toRequest p.loaderToUse o.events) := by
  intro o
  obtain ⟨properties, result, calls, closing, c, hcreates, hevents, hclosing, hvalue⟩ :=
    create_agreed b h s
  have hgl := Property.wantsBinding_of_negotiateWords h
  have hiff : result = .ok () ↔ (a.flags.contains Interop.Flags.glDevice = true →
      Granted a.toRequest p.loaderToUse calls) := hcreates.ok_iff_granted hgl rfl
  rw [hevents, granted_append_iff hclosing, ← hiff, hvalue]
  cases result <;> simp [Except.map]

theorem asked_iff_of_agreed (b : Backend σ) (s : σ) (d : DeviceId) :
    (∃ accepted, .bind d a.toRequest false accepted ∈ ((p.create b (some words)).run s).events) ↔
      a.flags.contains Interop.Flags.glDevice = true ∧ d ∈ p.devices := by
  obtain ⟨properties, result, calls, closing, c, hcreates, hevents, hclosing, -⟩ :=
    create_agreed b h s
  have hasked : (∃ accepted, .bind d a.toRequest false accepted ∈ calls) ↔
      a.wantsBinding = true ∧ d ∈ p.devices :=
    ((hcreates.asked_iff d).trans (and_iff_left List.not_mem_nil)).trans mem_toBind
  have hmem : ∀ accepted, .bind d a.toRequest false accepted ∈ calls ++ closing ↔
      .bind d a.toRequest false accepted ∈ calls :=
    fun _ => mem_append_iff_of_asks hclosing rfl
  simp only [hevents, hmem]
  rw [hasked, Property.wantsBinding_of_negotiateWords h]

theorem rejects_of_load_of_agreed (b : Backend σ) (s : σ) {l : Graphics.Loader}
    {api : Graphics.Api} {answer : Graphics.LoadError ⊕ Graphics.Library}
    (hload : .load l api answer ∈ ((p.create b (some words)).run s).events) :
    ∀ e ∈ ((p.create b (some words)).run s).events, e.rejects = false := by
  obtain ⟨properties, result, calls, closing, c, hcreates, hevents, hclosing, -⟩ :=
    create_agreed b h s
  rw [hevents, mem_append_iff_of_asks hclosing rfl] at hload
  rw [hevents, rejects_append_iff hclosing]
  exact hcreates.rejects_of_load hload

/-- Under an agreement on graphics, if no device rejects its binding, a library is asked for and, if
there is one, asked about the client's context. -/
theorem asksGraphics_of_agreed (b : Backend σ) (s : σ)
    (hgl : a.flags.contains Interop.Flags.glDevice = true)
    (haccepted : ∀ e ∈ ((p.create b (some words)).run s).events, e.rejects = false) :
    let asked := ((p.create b (some words)).run s).events.filter Event.asksGraphics
    let api := Graphics.Api.ofFlags a.flags
    (∃ cause, asked = [.load p.loaderToUse api (.inl cause)]) ∨
      ∃ library current, asked = [.load p.loaderToUse api (.inr library),
        .handshake library a.handles.gl a.glContext current] := by
  intro asked api
  obtain ⟨properties, result, calls, closing, c, hcreates, hevents, hclosing, -⟩ :=
    create_agreed b h s
  rw [hevents, rejects_append_iff hclosing] at haccepted
  have hlacks : ({ p.build b.inventory a with properties } : Context).lacksGraphics = true :=
    (Bool.and_eq_true _ _).mpr ⟨hgl, rfl⟩
  obtain ⟨sharing, answer, hattempt, hfilter⟩ := hcreates.attempts_of_accepted hlacks haccepted
  have hasked : asked = sharing.filter Event.asksGraphics := by
    rw [← hfilter, ← filter_asksGraphics_append hclosing, ← hevents]
  rw [hasked]
  exact hattempt.filter_asksGraphics

theorem asksGraphics_of_not_agreed (b : Backend σ) (s : σ)
    (hgl : a.flags.contains Interop.Flags.glDevice = false) :
    ∀ e ∈ ((p.create b (some words)).run s).events, e.asksGraphics = false := by
  obtain ⟨properties, result, calls, closing, c, hcreates, hevents, hclosing, -⟩ :=
    create_agreed b h s
  have hnot : ({ p.build b.inventory a with properties } : Context).lacksGraphics = false :=
    (Bool.and_eq_false_iff).mpr (.inl hgl)
  have hcalls := hcreates.asksGraphics_of_not_lacking hnot
  intro e he
  rw [hevents, List.mem_append] at he
  obtain he | he := he
  · exact hcalls e he
  · have hasks := hclosing e he
    cases e <;> first | rfl | cases hasks

theorem error_of_agreed (b : Backend σ) (s : σ) {e : Error}
    (hfailed : ((p.create b (some words)).run s).value = .error e) :
    ∃ reason, e = .invalidGlSharegroupReference reason := by
  obtain ⟨properties, result, calls, closing, c, hcreates, -, -, hvalue⟩ := create_agreed b h s
  rw [hvalue] at hfailed
  cases result with
  | ok _ => cases hfailed
  | error e' =>
    cases hfailed
    exact hcreates.error_eq (Property.wantsBinding_of_negotiateWords h)

/-- A device of a context that cannot be created has refused some times; if it has accepted then, it
is unbound again, and it is taken leave of as often as it is listed. -/
theorem attachments_of_failed (b : Backend σ) (s : σ) {e : Error}
    (hfailed : ((p.create b (some words)).run s).value = .error e) (d : DeviceId) :
    ∃ (refusals : Nat) (accepted : Bool), attachments d ((p.create b (some words)).run s).events =
      List.replicate refusals (.bind d a.toRequest false false) ++
        (if accepted then [.bind d a.toRequest false true, .unbind d a.toRequest false] else []) ++
        List.replicate (p.devices.count d) (.destroy d) := by
  obtain ⟨-, hrun⟩ | ⟨e', -, hrun⟩ := created_or_closed b h s
  · rw [hrun] at hfailed
    cases hfailed
  · have hattached := (Attached.build b.inventory p a).create b (some words) s
    obtain ⟨refusals, htold⟩ := hattached.account.told d
    rw [List.nil_append] at htold
    rw [hrun, attachments_append, htold, attachments_close hattached b d]
    by_cases hbound :
        d ∈ (((p.build b.inventory a).create b (some words)).run s).value.2.bindings.bound
    · refine ⟨refusals, true, ?_⟩
      simp [hbound]
    · refine ⟨refusals, false, ?_⟩
      simp [hbound]

end Agreed

/-- **A context is created exactly if all that it asks for is granted.** Words that are refused give
the error of their negotiation, and nothing is called. Under an agreement on graphics every listed
device is asked to bind itself. If none rejects, and only then, one library is asked for, and if
there is one it is asked once whether the client's context is current. The answers in the history
are those of the outside. A failure is one of the sharegroup, and by then every device that accepted
is unbound and every listed device is told. -/
theorem created_iff_granted (b : Backend σ) (p : Blueprint) (words : List Word) (s : σ) :
    let o := (p.create b (some words)).run s
    ((∃ c, o.value = .ok c) ↔
      ∃ a, Property.negotiateWords p.platform (some words) = .ok a ∧
        (a.flags.contains Interop.Flags.glDevice = true →
          Granted a.toRequest p.loaderToUse o.events)) ∧
    (∀ e, Property.negotiateWords p.platform (some words) = .error e →
      o.value = .error e ∧ o.events = []) ∧
    (∀ e ∈ o.events, e.AnsweredBy b) ∧
    ∀ a, Property.negotiateWords p.platform (some words) = .ok a →
      (∀ d, (∃ accepted, .bind d a.toRequest false accepted ∈ o.events) ↔
        a.flags.contains Interop.Flags.glDevice = true ∧ d ∈ p.devices) ∧
      (∀ l api answer, .load l api answer ∈ o.events → ∀ e ∈ o.events, e.rejects = false) ∧
      (a.flags.contains Interop.Flags.glDevice = true → (∀ e ∈ o.events, e.rejects = false) →
        let asked := o.events.filter Event.asksGraphics
        let api := Graphics.Api.ofFlags a.flags
        (∃ cause, asked = [.load p.loaderToUse api (.inl cause)]) ∨
          ∃ library current, asked = [.load p.loaderToUse api (.inr library),
            .handshake library a.handles.gl a.glContext current]) ∧
      (a.flags.contains Interop.Flags.glDevice = false → ∀ e ∈ o.events, e.asksGraphics = false) ∧
      ∀ e, o.value = .error e → (∃ reason, e = .invalidGlSharegroupReference reason) ∧
        ∀ d, ∃ (refusals : Nat) (accepted : Bool), attachments d o.events =
          List.replicate refusals (.bind d a.toRequest false false) ++
            (if accepted then [.bind d a.toRequest false true, .unbind d a.toRequest false]
              else []) ++
            List.replicate (p.devices.count d) (.destroy d) := by
  intro o
  have hrefused : ∀ e, Property.negotiateWords p.platform (some words) = .error e →
      o.value = .error e ∧ o.events = [] := by
    intro e h
    simp only [o, create_of_refused b h]
    exact ⟨rfl, rfl⟩
  refine ⟨⟨?_, ?_⟩, hrefused, answered_create b p (some words) s, fun a h => ⟨?_, ?_, ?_, ?_, ?_⟩⟩
  · rintro ⟨c, hok⟩
    cases h : Property.negotiateWords p.platform (some words) with
    | error e =>
      rw [(hrefused e h).1] at hok
      cases hok
    | ok a => exact ⟨a, rfl, (created_iff_of_agreed h b s).mp ⟨c, hok⟩⟩
  · rintro ⟨a, h, hgranted⟩
    exact (created_iff_of_agreed h b s).mpr hgranted
  · exact asked_iff_of_agreed h b s
  · exact fun l api answer hload => rejects_of_load_of_agreed h b s hload
  · exact asksGraphics_of_agreed h b s
  · exact asksGraphics_of_not_agreed h b s
  · exact fun e he => ⟨error_of_agreed h b s he, attachments_of_failed h b s he⟩

/-- Two devices, and a loader whose libraries find every context current. If both accept their
binding, the library is asked once and the context is created. If the second rejects, no library is
asked for, and the first is unbound again before it is told. A display that is null is refused
before anything is called. -/
theorem created_unless_second_rejects :
    let b := Simulation.backend (fun _ => ⟨⟨"gpu", ∅, 0⟩, false, .plain, false⟩) ⟨[]⟩
    let p : Blueprint := ⟨⟨4096⟩, [⟨0⟩, ⟨1⟩], .standard, some (.custom 0)⟩
    let start := fun rejects => { Simulation.State.start
      (fun d => .start false (rejects && d = ⟨1⟩)) (fun _ => []) [] with loaders := [.loads true] }
    let list := [.named .eglDisplay 0x50, .named .glContext 0x70]
    let words := Property.encode list
    let r := Property.requestOf (Property.valueOf? list)
    let library : Graphics.Library := ⟨0, .egl, .custom 0⟩
    let granted := (p.create b (some words)).run (start false)
    let o := (p.create b (some words)).run (start true)
    (∃ c, granted.value = .ok c) ∧
      granted.events.filter Event.asksGraphics = [.load (.custom 0) .egl (.inr library),
        .handshake library ⟨0x50⟩ ⟨0x70⟩ true] ∧
      (∃ reason, o.value = .error (.invalidGlSharegroupReference reason)) ∧
      (∀ l api answer, .load l api answer ∉ o.events) ∧
      attachments ⟨0⟩ o.events = [.bind ⟨0⟩ r false true, .unbind ⟨0⟩ r false, .destroy ⟨0⟩] ∧
      ((p.create b (some [0x2009, 0, 0])).run (start false)).events = [] := by
  intro b p start list words r library granted o
  have hagreed : Property.negotiateWords ⟨4096⟩ (some words) = .ok ⟨r, 40⟩ := by decide +kernel
  have hrejected : .bind ⟨1⟩ r false false ∈ o.events := by decide +kernel
  have hnull : ∃ e, Property.negotiateWords ⟨4096⟩ (some [0x2009, 0, 0]) = .error e :=
    ⟨_, by rfl⟩
  obtain ⟨hcreates, -, -, hasks⟩ := created_iff_granted b p words (start false)
  obtain ⟨hiff, -, -, hcreated⟩ := created_iff_granted b p words (start true)
  obtain ⟨-, -, hsharing, -, -⟩ := hasks ⟨r, 40⟩ hagreed
  obtain ⟨-, hload, -, -, hfailed⟩ := hcreated ⟨r, 40⟩ hagreed
  have haccepted : ∀ e ∈ granted.events, e.rejects = false := by decide +kernel
  have hloaded : .load p.loaderToUse (.ofFlags r.flags) (.inr library) ∈ granted.events := by
    decide +kernel
  have hcurrent : .handshake library r.handles.gl r.glContext true ∈ granted.events := by
    decide +kernel
  have hnot : ¬∃ c, o.value = .ok c := by
    intro hc
    obtain ⟨a, ha, hgranted⟩ := hiff.mp hc
    cases hagreed.symm.trans ha
    cases (hgranted (by decide)).bound _ hrejected
  refine ⟨hcreates.mpr ⟨_, hagreed, fun _ => ⟨haccepted, library, hloaded, hcurrent⟩⟩, ?_, ?_, ?_,
    by decide +kernel, ?_⟩
  · have hmem : .handshake library r.handles.gl r.glContext true ∈
        granted.events.filter Event.asksGraphics := List.mem_filter.mpr ⟨hcurrent, rfl⟩
    obtain ⟨cause, hasked⟩ | ⟨other, current, hasked⟩ := hsharing (by decide) haccepted
    · rw [hasked] at hmem
      cases List.mem_singleton.mp hmem
    · rw [hasked] at hmem
      obtain ⟨rfl, -, -, rfl⟩ := Event.handshake.inj
        (List.mem_singleton.mp ((List.mem_cons.mp hmem).resolve_left nofun))
      exact hasked.trans (by decide +kernel)
  · cases hvalue : o.value with
    | ok c => exact absurd ⟨c, hvalue⟩ hnot
    | error e =>
      obtain ⟨⟨reason, rfl⟩, -⟩ := hfailed e hvalue
      exact ⟨reason, rfl⟩
  · intro l api answer hmem
    cases hload l api answer hmem _ hrejected
  · obtain ⟨e, he⟩ := hnull
    obtain ⟨-, hrefused, -, -⟩ := created_iff_granted b p [0x2009, 0, 0] (start false)
    exact (hrefused e he).2

end Blueprint
end ComputeContext
