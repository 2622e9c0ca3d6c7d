/-
# How creation goes

Once the list of a context is copied, creation asks the devices that are not
bound to bind themselves, all of them if an adapter is agreed on and none
otherwise. If one refuses that is the end. If all accept, and graphics is
agreed on and not shared yet, one library is loaded and asked whether the
client's context is current; a library that says no is dropped. `Creation`
says which calls that makes, how it ends and what context it leaves. Whatever
the devices, the loader and the library answer, creation goes one of these
ways (`Context.create_creates`).

A context keeps the words that its agreement counts. When it is created with
the words that were negotiated these are the front of them, the list itself
with its zero name, and there are always enough of them
(`Context.keepProperties_agreed`). The later stages leave the copy alone, so
it is kept even if one of them fails. Read again, the copy is the client's
list, and negotiated again it gives the same agreement.

Key definitions: `Graphics.Attempt`, `Context.Creation`.
Key theorems: `Graphics.share_attempts`, `Context.create_creates`,
`Context.keepProperties_agreed`, `Context.copy_is_front`.
-/
import ComputeContext.Context
import ComputeContext.Proofs.Interop.Bindings
import ComputeContext.Proofs.Property.Wire
import ComputeContext.Simulation.World

namespace ComputeContext

variable {σ : Type}

namespace Graphics

/-- The calls that try to share a client's graphics context, and how the attempt ends. -/
inductive Attempt (r : Interop.Request) (loader : Loader) :
    List Event → Except Failure Library → Prop
  | unavailable (cause : LoadError) :
      Attempt r loader [.load loader (Api.ofFlags r.flags) (.inl cause)] (.error (.load cause))
  | stale (library : Library) :
      Attempt r loader
        [.load loader (Api.ofFlags r.flags) (.inr library),
          .handshake library r.handles.gl r.glContext false, .release library]
        (.error (.handshake (Api.ofFlags r.flags) r.handles.gl r.glContext))
  | current (library : Library) :
      Attempt r loader
        [.load loader (Api.ofFlags r.flags) (.inr library),
          .handshake library r.handles.gl r.glContext true]
        (.ok library)

/-- Sharing is an attempt, whatever the loader and the library answer. -/
theorem share_attempts (b : Backend σ) (r : Interop.Request) (loader : Loader) (s : σ) :
    let o := (share b r loader).run s
    Attempt r loader o.events o.value := by
  intro o
  simp only [o, share, Backend.load, Act.bind_events, Act.bind_value, Act.call_events,
    Act.call_value, Act.call_state]
  cases (b.answerLoad loader (Api.ofFlags r.flags) s).1 with
  | inl cause => exact .unavailable cause
  | inr library =>
    simp only [Backend.handshake, Act.bind_events, Act.bind_value, Act.call_events, Act.call_value,
      Act.call_state]
    by_cases hcurrent : (b.answerHandshake library r.handles.gl r.glContext
        (b.answerLoad loader (Api.ofFlags r.flags) s).2).1 = true
    · simp only [hcurrent, ↓reduceIte]
      exact .current library
    · rw [Bool.not_eq_true] at hcurrent
      simp only [hcurrent, Bool.false_eq_true, ↓reduceIte]
      exact .stale library

end Graphics

namespace Context

/-- The devices that creation goes through: all of them if any adapter is agreed on. -/
def toBind (c : Context) : List DeviceId :=
  if c.agreement.wantsBinding then c.roster.devices else []

/-- Graphics is agreed on, and none is shared yet. -/
def lacksGraphics (c : Context) : Bool :=
  c.agreement.flags.contains Interop.Flags.glDevice && c.graphics.isNone

/-- The calls of creating a context whose list is copied, how it ends, and the context it leaves. -/
inductive Creation (c : Context) : List Event → Except Error Unit → Context → Prop
  | refused {calls : List Event} {refused : Nat} {bs : Bindings} :
      Bindings.Asking c.agreement.toRequest c.bindings c.toBind calls refused bs → refused ≠ 0 →
      Creation c calls
        (.error (BindFailure.toError ⟨c.agreement.flags, refused, c.roster.devices.length⟩))
        { c with bindings := bs }
  | bound {calls : List Event} {bs : Bindings} :
      Bindings.Asking c.agreement.toRequest c.bindings c.toBind calls 0 bs →
      c.lacksGraphics = false → Creation c calls (.ok ()) { c with bindings := bs }
  | unshared {calls sharing : List Event} {bs : Bindings} {failure : Graphics.Failure} :
      Bindings.Asking c.agreement.toRequest c.bindings c.toBind calls 0 bs →
      c.lacksGraphics = true →
      Graphics.Attempt c.agreement.toRequest c.loader sharing (.error failure) →
      Creation c (calls ++ sharing) (.error failure.toError) { c with bindings := bs }
  | shared {calls sharing : List Event} {bs : Bindings} {library : Graphics.Library} :
      Bindings.Asking c.agreement.toRequest c.bindings c.toBind calls 0 bs →
      c.lacksGraphics = true →
      Graphics.Attempt c.agreement.toRequest c.loader sharing (.ok library) →
      Creation c (calls ++ sharing) (.ok ()) { c with bindings := bs, graphics := some library }

/-- How the last stage of creation ends, and the context it leaves, after an attempt to share. -/
def afterSharing (c : Context) : Except Graphics.Failure Graphics.Library →
    Except Error Unit × Context
  | .error failure => (.error failure.toError, c)
  | .ok library => (.ok (), { c with graphics := some library })

theorem shareGraphics_eq (b : Backend σ) (c : Context) : c.shareGraphics b =
    if c.lacksGraphics then c.afterSharing <$> Graphics.share b c.agreement.toRequest c.loader
    else pure (.ok (), c) := by
  rw [shareGraphics, ← lacksGraphics, map_eq_pure_bind]
  congr 2
  funext result
  cases result <;> rfl

/-- When no device has refused, the last stage decides how creation goes. -/
theorem creation_of_accepted (b : Backend σ) {c : Context} {calls : List Event} {bs : Bindings}
    (hasks : Bindings.Asking c.agreement.toRequest c.bindings c.toBind calls 0 bs) (s : σ) :
    let o := (({ c with bindings := bs } : Context).shareGraphics b).run s
    Creation c (calls ++ o.events) o.value.1 o.value.2 := by
  intro o
  set bound : Context := { c with bindings := bs }
  have ho : o = (bound.shareGraphics b).run s := rfl
  rw [shareGraphics_eq] at ho
  cases hlacks : bound.lacksGraphics with
  | false =>
    rw [hlacks, if_neg Bool.false_ne_true] at ho
    rw [ho, Act.pure_events, Act.pure_value, List.append_nil]
    exact .bound hasks hlacks
  | true =>
    set sharing := (Graphics.share b bound.agreement.toRequest bound.loader).run s
    have hattempt : Graphics.Attempt c.agreement.toRequest c.loader sharing.events sharing.value :=
      Graphics.share_attempts b bound.agreement.toRequest bound.loader s
    rw [hlacks, if_pos rfl] at ho
    rw [ho, Act.map_events, Act.map_value]
    cases hresult : sharing.value with
    | error failure => exact .unshared hasks hlacks (hresult ▸ hattempt)
    | ok library => exact .shared hasks hlacks (hresult ▸ hattempt)

/-- After the list is copied creation goes one of these ways, whatever is answered. -/
theorem create_creates (b : Backend σ) {c kept : Context} {words? : Option (List Word)} (s : σ)
    (h : c.keepProperties words? = .ok kept) :
    let o := (c.create b words?).run s
    Creation kept o.events o.value.1 o.value.2 := by
  intro o
  set binding := (kept.bindings.bindAll b kept.roster.devices kept.agreement.toRequest).run s
    with hbinding
  obtain ⟨refused, hasks, hresult⟩ := Bindings.bindAll_asks b kept.bindings kept.roster.devices
    kept.agreement.toRequest s
  rw [← hbinding] at hasks hresult
  simp only [o, create, h, bindDevices, Act.bind_value, Act.bind_events, Act.bind_state,
    Act.pure_value, Act.pure_events, Act.pure_state, List.append_nil, ← hbinding]
  by_cases hrefused : refused = 0
  · subst hrefused
    rw [hresult]
    simp only [↓reduceIte, Except.mapError]
    exact creation_of_accepted b hasks binding.state
  · rw [hresult, if_neg hrefused]
    simp only [Except.mapError, Act.pure_value, Act.pure_events, List.append_nil]
    exact .refused hasks hrefused

/-! ### The copy of the client's list -/

open Property

variable {platform : PlatformId} {words : List Word} {c c' : Context}
  {calls : List Event} {result : Except Error Unit}

/-- The words that were negotiated are enough, and the words that are kept of them are the list. -/
theorem keepProperties_agreed (h : negotiateWords platform (some words) = .ok c.agreement) :
    ∃ ps, decode words = .ok ps ∧ c.keepProperties (some words) =
      .ok (if c.settings.keepPropertyCopy then { c with properties := some (encode ps) } else c) := by
  obtain ⟨ps, hps, -, hcount, htake⟩ := take_listWords h
  have henough : ¬words.length < c.agreement.listWords := by
    rw [hcount]
    exact Nat.not_lt.mpr (front_encode hps).leads.length_le
  refine ⟨ps, hps, ?_⟩
  unfold keepProperties
  cases c.settings.keepPropertyCopy with
  | true => simp [henough, htake]
  | false => rfl

theorem Creation.properties_eq (h : Creation c calls result c') : c'.properties = c.properties := by
  cases h <;> rfl

/-- **The copy is the client's list.** A context that keeps copies, created with the words its
agreement was negotiated from, keeps the front of these words, whether or not creation succeeds. The
copy has the bytes that were agreed on, it is read as the list that the words are read as and is
written as that list, and it is negotiated to the same agreement. -/
theorem copy_is_front (b : Backend σ) (c : Context) (platform : PlatformId) (words : List Word)
    (hkeep : c.settings.keepPropertyCopy = true)
    (hagreed : negotiateWords platform (some words) = .ok c.agreement) (s : σ) :
    ∃ copy ps, ((c.create b (some words)).run s).value.2.properties = some copy ∧
      Front copy words ∧ copy.length * wordBytes = c.agreement.listBytes.toNat ∧
      decode copy = .ok ps ∧ decode words = .ok ps ∧ encode ps = copy ∧
      negotiateWords platform (some copy) = .ok c.agreement := by
  obtain ⟨ps, hps, hkept⟩ := keepProperties_agreed hagreed
  rw [if_pos hkeep] at hkept
  have hcopied := (create_creates b s hkept).properties_eq
  have hfront := front_encode hps
  have hnames := (decode_eq_ok_iff.mp hps).2
  have hagain : decode (encode ps) = .ok ps :=
    decode_eq_ok_iff.mpr ⟨List.prefix_rfl, hnames⟩
  refine ⟨encode ps, ps, hcopied, hfront, ?_, hagain, hps, rfl, ?_⟩
  · obtain ⟨qs, hqs, hbytes, -⟩ := take_listWords hagreed
    cases hps.symm.trans hqs
    exact hbytes.symm
  · obtain ⟨qs, hqs, hnegotiated⟩ := negotiateWords_eq_ok_iff.mp hagreed
    cases hps.symm.trans hqs
    exact negotiateWords_eq_ok_iff.mpr ⟨ps, hagain, hnegotiated⟩

/-- An EGL display and a context, followed by words that are not read, under a device that refuses
to be bound: the copy is kept all the same, without the words that follow. -/
theorem copy_kept_after_refusal :
    let b := Simulation.backend (fun _ => ⟨⟨"gpu", ∅, 0⟩, false, .plain, false⟩) ⟨[]⟩
    let p : Blueprint := { Blueprint.ofPlatform ⟨4096⟩ with devices := [⟨0⟩] }
    let s := Simulation.State.start (fun _ => .start false true) (fun _ => []) []
    let list : List Word := [0x2009, 0x50, 0x2008, 0x70, 0]
    let words := list ++ [0x1084, 7, 0]
    let a : Agreement := ⟨requestOf (valueOf? [named .eglDisplay 0x50, named .glContext 0x70]), 40⟩
    let o := ((p.build b.inventory a).create b (some words)).run s
    o.value.1.isOk = false ∧ o.value.2.properties = some list ∧ Front list words ∧
      negotiateWords ⟨4096⟩ (some list) = .ok a := by
  intro b p s list words a o
  have hagreed : negotiateWords ⟨4096⟩ (some words) = .ok a := by decide +kernel
  obtain ⟨copy, ps, hcopy, hfront, -, -, -, -, hagain⟩ :=
    copy_is_front b (p.build b.inventory a) ⟨4096⟩ words rfl hagreed s
  have hlist : o.value.2.properties = some list := by decide +kernel
  obtain rfl : list = copy := Option.some.inj (hlist.symm.trans hcopy)
  exact ⟨by decide +kernel, hlist, hfront, hagain⟩

end Context
end ComputeContext
