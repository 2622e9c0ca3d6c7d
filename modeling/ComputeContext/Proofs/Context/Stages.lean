/-
# The stages of creation

Creation keeps a copy of the list, binds the devices, and shares graphics, in
this order, and stops at the first stage that fails. A list that is too short
for the copy stops it before anything is called or changed. After the copy the
devices that are not bound are asked, and those that accept stay bound even if
another refuses; a refusal stops creation before graphics. If nobody refuses,
one library is loaded when graphics is agreed on and none is held, and it is
kept exactly if it finds the client's context current (`Context.Staged`).

Key definitions: `Context.Fits`, `Context.copyOf`, `Context.Staged`.
Key theorems: `Context.create_of_short`, `Context.create_of_fits`,
`Context.Creation.staged`.
-/
import ComputeContext.Proofs.Context.Library

namespace ComputeContext

/-- The call asks a loader for a library. -/
def Event.isLoad : Event → Bool
  | .load .. => true
  | _ => false

namespace Context

variable {σ : Type} {c c' : Context} {words? : Option (List Word)} {calls : List Event}
  {result : Except Error Unit}

/-- The list has the words of the copy that is to be kept, if one is to be kept. -/
def Fits (c : Context) (words? : Option (List Word)) : Prop :=
  ∀ words, words? = some words → c.settings.keepPropertyCopy = true →
    c.agreement.listWords ≤ words.length

/-- The copy that is held after creation was given this list. -/
def copyOf (c : Context) : Option (List Word) → Option (List Word)
  | some words =>
    if c.settings.keepPropertyCopy then some (words.take c.agreement.listWords) else c.properties
  | none => c.properties

theorem keepProperties_of_fits (h : c.Fits words?) :
    c.keepProperties words? = .ok { c with properties := c.copyOf words? } := by
  cases words? with
  | none => rfl
  | some words =>
    cases hkeep : c.settings.keepPropertyCopy with
    | false => simp [keepProperties, copyOf, hkeep]
    | true =>
      have henough : ¬words.length < c.agreement.listWords := Nat.not_lt.mpr (h words rfl hkeep)
      simp [keepProperties, copyOf, hkeep, henough]

/-- A list that is too short is an invalid value, and nothing is called or changed. -/
theorem create_of_short (b : Backend σ) (h : ¬c.Fits words?) :
    ∃ reason, c.create b words? = pure (.error (.invalidValue reason), c) := by
  simp only [Fits, not_forall, Nat.not_le] at h
  obtain ⟨words, rfl, hkeep, hshort⟩ := h
  have hrefused : c.keepProperties (some words) =
      .error ⟨words.length, c.agreement.listWords⟩ := by
    simp [keepProperties, hkeep, hshort]
  rw [create, hrefused]
  exact ⟨_, rfl⟩

/-- After a list that fits, creation is a creation of the context with its copy. -/
theorem create_of_fits (b : Backend σ) (h : c.Fits words?) (s : σ) :
    let o := (c.create b words?).run s
    Creation { c with properties := c.copyOf words? } o.events o.value.1 o.value.2 :=
  create_creates b s (keepProperties_of_fits h)

/-! ### After the copy -/

/-- The first stage that fails ends creation, and what the stages before it did stays. -/
structure Staged (c : Context) (calls : List Event) (result : Except Error Unit) (c' : Context) :
    Prop where
  /-- The bindings and the library are all that changes. -/
  same : c' = { c with bindings := c'.bindings, graphics := c'.graphics }
  /-- The devices that are asked are those to bind that are not bound before. -/
  asked : ∀ d, (∃ accepted, .bind d c.agreement.toRequest false accepted ∈ calls) ↔
    d ∈ c.toBind ∧ d ∉ c.bindings.bound
  /-- Asking devices is all that is called, other than for graphics. -/
  called : ∀ e ∈ calls, e.concern = .graphics ∨
    ∃ d accepted, e = .bind d c.agreement.toRequest false accepted
  /-- Who accepts is bound, however creation ends. -/
  bound : c'.bindings.bound = c.bindings.bound ++ calls.filterMap Event.binds?
  /-- A refusal ends creation before graphics. -/
  refused : (∃ e ∈ calls, e.rejects = true) →
    (∃ e, result = .error e) ∧ c'.graphics = c.graphics ∧ ∀ e ∈ calls, e.concern ≠ .graphics
  /-- There is nothing more to do when graphics is not lacking. -/
  accepted : (∀ e ∈ calls, e.rejects = false) → c.lacksGraphics = false →
    result = .ok () ∧ c'.graphics = c.graphics ∧ ∀ e ∈ calls, e.concern ≠ .graphics
  /-- Otherwise one library is loaded, and it is kept if it finds the client's context current. -/
  attempted : (∀ e ∈ calls, e.rejects = false) → c.lacksGraphics = true →
    calls.countP Event.isLoad = 1 ∧
      ((∃ library, result = .ok () ∧ c'.graphics = some library ∧
          .load c.loader (Graphics.Api.ofFlags c.agreement.flags) (.inr library) ∈ calls ∧
          .handshake library c.agreement.handles.gl c.agreement.glContext true ∈ calls) ∨
        ((∃ e, result = .error e) ∧ c'.graphics = none ∧
          ¬Granted c.agreement.toRequest c.loader calls))

theorem filterMap_binds?_of_concern (h : ∀ e ∈ calls, e.concern = .graphics) :
    calls.filterMap Event.binds? = [] := by
  rw [List.filterMap_eq_nil_iff]
  intro e he
  have hconcern := h e he
  cases e <;> first | rfl | cases hconcern

theorem countP_isLoad_of_concern (h : ∀ e ∈ calls, e.concern ≠ .graphics) :
    calls.countP Event.isLoad = 0 := by
  rw [List.countP_eq_zero]
  intro e he
  have hconcern := h e he
  cases e <;> first | exact Bool.false_ne_true | exact absurd rfl hconcern

theorem countP_isLoad_of_attempt {r : Interop.Request} {loader : Graphics.Loader}
    {outcome : Except Graphics.Failure Graphics.Library}
    (h : Graphics.Attempt r loader calls outcome) : calls.countP Event.isLoad = 1 := by
  cases h <;> rfl

theorem Creation.called (h : Creation c calls result c') : ∀ e ∈ calls, e.concern = .graphics ∨
    ∃ d accepted, e = .bind d c.agreement.toRequest false accepted := by
  obtain ⟨asking, sharing, refused, bs, rfl, hasks, hsharing, -⟩ := h.stages
  intro e he
  rcases List.mem_append.mp he with he | he
  · obtain ⟨d, -, accepted, rfl⟩ := hasks.eq_bind e he
    exact .inr ⟨d, accepted, rfl⟩
  · exact .inl (hsharing e he)

theorem Creation.bound_eq (h : Creation c calls result c') :
    c'.bindings.bound = c.bindings.bound ++ calls.filterMap Event.binds? := by
  cases h with
  | refused hasks _ => exact hasks.bound_eq
  | bound hasks _ => exact hasks.bound_eq
  | unshared hasks _ hattempt =>
    rw [List.filterMap_append, filterMap_binds?_of_concern hattempt.concern, List.append_nil]
    exact hasks.bound_eq
  | shared hasks _ hattempt =>
    rw [List.filterMap_append, filterMap_binds?_of_concern hattempt.concern, List.append_nil]
    exact hasks.bound_eq

theorem Creation.graphics_of_not_attempted (h : Creation c calls result c')
    (hnot : ¬((∀ e ∈ calls, e.rejects = false) ∧ c.lacksGraphics = true)) :
    c'.graphics = c.graphics ∧ ∀ e ∈ calls, e.concern ≠ .graphics := by
  have haccepted : ∀ {asking sharing : List Event} {bs : Bindings}
      {outcome : Except Graphics.Failure Graphics.Library},
      Bindings.Asking c.agreement.toRequest c.bindings c.toBind asking 0 bs →
        Graphics.Attempt c.agreement.toRequest c.loader sharing outcome →
          ∀ e ∈ asking ++ sharing, e.rejects = false := fun hasks hattempt =>
    List.forall_mem_append.mpr ⟨hasks.rejects_eq_false, hattempt.rejects_eq_false⟩
  cases h with
  | refused hasks _ => exact ⟨rfl, hasks.spares_graphics⟩
  | bound hasks _ => exact ⟨rfl, hasks.spares_graphics⟩
  | unshared hasks hlacks hattempt => exact absurd ⟨haccepted hasks hattempt, hlacks⟩ hnot
  | shared hasks hlacks hattempt => exact absurd ⟨haccepted hasks hattempt, hlacks⟩ hnot

/-- What is left of an attempt. -/
theorem Creation.attempted (h : Creation c calls result c')
    (haccepted : ∀ e ∈ calls, e.rejects = false) (hlacks : c.lacksGraphics = true) :
    calls.countP Event.isLoad = 1 ∧
      ((∃ library, result = .ok () ∧ c'.graphics = some library ∧
          .load c.loader (Graphics.Api.ofFlags c.agreement.flags) (.inr library) ∈ calls ∧
          .handshake library c.agreement.handles.gl c.agreement.glContext true ∈ calls) ∨
        ((∃ e, result = .error e) ∧ c'.graphics = none ∧
          ¬Granted c.agreement.toRequest c.loader calls)) := by
  have hiff := h.eq_ok_iff
  cases h with
  | refused hasks hrefused => exact absurd (hasks.refused_eq_zero haccepted) hrefused
  | bound _ hshared =>
    rw [hshared] at hlacks
    cases hlacks
  | unshared hasks _ hattempt =>
    refine ⟨?_, .inr ⟨⟨_, rfl⟩, (lacksGraphics_eq_true_iff.mp hlacks).2, fun hgranted => ?_⟩⟩
    · rw [List.countP_append, countP_isLoad_of_concern hasks.spares_graphics,
        countP_isLoad_of_attempt hattempt]
    · cases hiff.mpr ⟨haccepted, fun _ => hgranted⟩
  | @shared asking sharing bs library hasks _ hattempt =>
    refine ⟨?_, .inl ⟨library, rfl, rfl, ?_⟩⟩
    · rw [List.countP_append, countP_isLoad_of_concern hasks.spares_graphics,
        countP_isLoad_of_attempt hattempt]
    · cases hattempt
      simp

theorem Creation.staged (h : Creation c calls result c') : Staged c calls result c' where
  same := by cases h <;> rfl
  asked := h.asked_iff
  called := h.called
  bound := h.bound_eq
  refused := by
    rintro ⟨e, he, hrejects⟩
    have hnot : ¬∀ e ∈ calls, e.rejects = false := fun hnone =>
      Bool.false_ne_true ((hnone e he).symm.trans hrejects)
    refine ⟨?_, h.graphics_of_not_attempted fun hall => hnot hall.1⟩
    cases hresult : result with
    | ok _ => exact absurd (h.eq_ok_iff.mp hresult).1 hnot
    | error e => exact ⟨e, rfl⟩
  accepted hall hshared := by
    have hlacks : ¬c.lacksGraphics = true := Bool.eq_false_iff.mp hshared
    exact ⟨h.eq_ok_iff.mpr ⟨hall, fun h => absurd h hlacks⟩,
      h.graphics_of_not_attempted fun hall => hlacks hall.2⟩
  attempted := h.attempted

end Context
end ComputeContext
