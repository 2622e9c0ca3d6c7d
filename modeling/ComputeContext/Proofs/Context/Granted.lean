/-
# What creation is granted

Creation asks devices to bind themselves, then asks for a library, and then
asks the library whether the client's context is current. All of that is
granted when no device rejects its binding, a library is loaded, and it finds
the context current (`Context.Granted`). Creation succeeds exactly if nobody
rejects its binding and graphics is granted where it is lacking
(`Context.Creation.eq_ok_iff`). An agreement asks for graphics or for nothing,
so what decides is whether graphics, when it is agreed on, is granted
(`Context.Creation.ok_iff_granted`), and whatever is refused, it is the
sharegroup that could not be used (`Context.Creation.error_eq`).

Calls that only give something back grant nothing and refuse nothing, so what
was granted can still be seen among them (`Context.granted_append_iff`).

Key definitions: `Event.asks`, `Event.asksGraphics`, `Context.Granted`.
Key theorems: `Context.granted_append_iff`, `Context.Creation.eq_ok_iff`,
`Context.Creation.stages`, `Context.Creation.attempts_of_accepted`,
`Context.Creation.ok_iff_granted`, `Context.Creation.error_eq`.
-/
import ComputeContext.Proofs.Context.Creation
import ComputeContext.Proofs.Context.Operation

namespace ComputeContext

/-- The call asks for something. The other calls give something back. -/
def Event.asks : Event → Bool
  | .svmAlloc .. | .hostAlloc .. | .bind .. | .load .. | .handshake .. | .heapAlloc .. => true
  | .svmFree .. | .hostFree .. | .unbind .. | .destroy .. | .release .. | .heapFree .. => false

/-- The call asks for the client's graphics context. -/
def Event.asksGraphics : Event → Bool
  | .load .. | .handshake .. => true
  | _ => false

theorem Event.asksGraphics_of_concern {e : Event} (h : e.concern ≠ .graphics) :
    e.asksGraphics = false := by
  cases e <;> first | rfl | exact absurd rfl h

theorem Event.rejects_of_concern {e : Event} (h : e.concern ≠ .attachment) : e.rejects = false := by
  cases e <;> first | rfl | exact absurd rfl h

namespace Bindings.Asking

variable {r : Interop.Request} {bs bs' : Bindings} {ds : List DeviceId} {calls : List Event}
  {refused : Nat}

theorem concern (h : Asking r bs ds calls refused bs') : ∀ e ∈ calls, e.concern = .attachment := by
  intro e he
  obtain ⟨d, -, accepted, rfl⟩ := h.eq_bind e he
  rfl

theorem rejects_eq_false (h : Asking r bs ds calls 0 bs') : ∀ e ∈ calls, e.rejects = false := by
  intro e he
  have hnone := List.countP_eq_zero.mp h.countP_rejects e he
  exact Bool.eq_false_iff.mpr hnone

theorem refused_eq_zero (h : Asking r bs ds calls refused bs')
    (haccepted : ∀ e ∈ calls, e.rejects = false) : refused = 0 := by
  rw [← h.countP_rejects, List.countP_eq_zero]
  exact fun e he => Bool.eq_false_iff.mp (haccepted e he)

theorem asksGraphics_eq_false (h : Asking r bs ds calls refused bs') :
    ∀ e ∈ calls, e.asksGraphics = false := by
  intro e he
  apply Event.asksGraphics_of_concern
  rw [h.concern e he]
  decide

theorem filter_asksGraphics (h : Asking r bs ds calls refused bs') (rest : List Event) :
    (calls ++ rest).filter Event.asksGraphics = rest.filter Event.asksGraphics := by
  have hnone : calls.filter Event.asksGraphics = [] :=
    List.filter_eq_nil_iff.mpr fun e he => Bool.eq_false_iff.mp (h.asksGraphics_eq_false e he)
  rw [List.filter_append, hnone, List.nil_append]

end Bindings.Asking

namespace Graphics.Attempt

variable {r : Interop.Request} {loader : Loader} {calls : List Event}
  {result : Except Failure Library}

theorem concern (h : Attempt r loader calls result) : ∀ e ∈ calls, e.concern = .graphics := by
  cases h <;> simp [Event.concern]

theorem rejects_eq_false (h : Attempt r loader calls result) : ∀ e ∈ calls, e.rejects = false := by
  intro e he
  apply Event.rejects_of_concern
  rw [h.concern e he]
  decide

/-- A library is asked for and, if there is one, asked whether the context is current. -/
theorem filter_asksGraphics (h : Attempt r loader calls result) :
    (∃ cause, calls.filter Event.asksGraphics =
        [.load loader (Api.ofFlags r.flags) (.inl cause)]) ∨
      ∃ library current, calls.filter Event.asksGraphics =
        [.load loader (Api.ofFlags r.flags) (.inr library),
          .handshake library r.handles.gl r.glContext current] := by
  cases h with
  | unavailable cause => exact .inl ⟨cause, rfl⟩
  | stale library => exact .inr ⟨library, false, rfl⟩
  | current library => exact .inr ⟨library, true, rfl⟩

/-- The context is shared exactly if a library was had that found it current. -/
theorem eq_ok_iff (h : Attempt r loader calls result) :
    (∃ library, result = .ok library) ↔
      ∃ library, .load loader (Api.ofFlags r.flags) (.inr library) ∈ calls ∧
        .handshake library r.handles.gl r.glContext true ∈ calls := by
  cases h <;> simp

end Graphics.Attempt

namespace Context

variable {r : Interop.Request} {loader : Graphics.Loader} {c c' : Context}
  {calls closing sharing : List Event} {result : Except Error Unit}

/-- All that creation asks for is granted: nobody rejects the binding, a library is loaded, and it
finds the client's context current. -/
structure Granted (r : Interop.Request) (loader : Graphics.Loader) (calls : List Event) :
    Prop where
  bound : ∀ e ∈ calls, e.rejects = false
  shared : ∃ library, .load loader (Graphics.Api.ofFlags r.flags) (.inr library) ∈ calls ∧
    .handshake library r.handles.gl r.glContext true ∈ calls

section Closing

variable (hclosing : ∀ e ∈ closing, e.asks = false)
include hclosing

theorem mem_append_iff_of_asks {e : Event} (h : e.asks = true) :
    e ∈ calls ++ closing ↔ e ∈ calls := by
  rw [List.mem_append, or_iff_left]
  intro he
  rw [hclosing e he] at h
  cases h

theorem rejects_append_iff :
    (∀ e ∈ calls ++ closing, e.rejects = false) ↔ ∀ e ∈ calls, e.rejects = false := by
  rw [List.forall_mem_append, and_iff_left]
  intro e he
  have hasks := hclosing e he
  cases e <;> first | rfl | cases hasks

theorem granted_append_iff : Granted r loader (calls ++ closing) ↔ Granted r loader calls := by
  have hmem : ∀ {e : Event}, e.asks = true → (e ∈ calls ++ closing ↔ e ∈ calls) :=
    mem_append_iff_of_asks hclosing
  constructor
  · rintro ⟨hbound, library, hload, hshake⟩
    exact ⟨(rejects_append_iff hclosing).mp hbound, library, (hmem rfl).mp hload,
      (hmem rfl).mp hshake⟩
  · rintro ⟨hbound, library, hload, hshake⟩
    exact ⟨(rejects_append_iff hclosing).mpr hbound, library, (hmem rfl).mpr hload,
      (hmem rfl).mpr hshake⟩

theorem filter_asksGraphics_append :
    (calls ++ closing).filter Event.asksGraphics = calls.filter Event.asksGraphics := by
  have hnone : closing.filter Event.asksGraphics = [] := by
    rw [List.filter_eq_nil_iff]
    intro e he
    have hasks := hclosing e he
    cases e <;> first | exact Bool.false_ne_true | cases hasks
  rw [List.filter_append, hnone, List.append_nil]

end Closing

/-! ### How creation ends -/

theorem mem_toBind {d : DeviceId} :
    d ∈ c.toBind ↔ c.agreement.wantsBinding = true ∧ d ∈ c.roster.devices := by
  unfold toBind
  split_ifs with hwants <;> simp [hwants]

/-- When nobody rejected the binding, what follows decides. -/
theorem granted_iff_of_attempt {bs bs' : Bindings} {ds : List DeviceId}
    {answer : Except Graphics.Failure Graphics.Library}
    (hasks : Bindings.Asking r bs ds calls 0 bs')
    (hattempt : Graphics.Attempt r loader sharing answer) :
    Granted r loader (calls ++ sharing) ↔ ∃ library, answer = .ok library := by
  have hmem : ∀ {e : Event}, e.concern = .graphics → (e ∈ calls ++ sharing ↔ e ∈ sharing) := by
    intro e hconcern
    rw [List.mem_append, or_iff_right]
    intro he
    rw [hasks.concern e he] at hconcern
    cases hconcern
  rw [hattempt.eq_ok_iff]
  constructor
  · rintro ⟨-, library, hload, hshake⟩
    exact ⟨library, (hmem rfl).mp hload, (hmem rfl).mp hshake⟩
  · rintro ⟨library, hload, hshake⟩
    refine ⟨?_, library, (hmem rfl).mpr hload, (hmem rfl).mpr hshake⟩
    exact List.forall_mem_append.mpr ⟨hasks.rejects_eq_false, hattempt.rejects_eq_false⟩

/-- Creation succeeds exactly if nobody refuses, and graphics is granted if it is lacking. -/
theorem Creation.eq_ok_iff (h : Creation c calls result c') :
    result = .ok () ↔ (∀ e ∈ calls, e.rejects = false) ∧
      (c.lacksGraphics = true → Granted c.agreement.toRequest c.loader calls) := by
  cases h with
  | refused hasks hrefused =>
    exact iff_of_false (by simp) fun hgranted => hrefused (hasks.refused_eq_zero hgranted.1)
  | bound hasks hshared =>
    refine iff_of_true rfl ⟨hasks.rejects_eq_false, fun hlacks => ?_⟩
    rw [hshared] at hlacks
    cases hlacks
  | unshared hasks hlacks hattempt =>
    have hiff := granted_iff_of_attempt hasks hattempt
    refine iff_of_false (by simp) fun hgranted => ?_
    obtain ⟨library, hok⟩ := hiff.mp (hgranted.2 hlacks)
    cases hok
  | shared hasks hlacks hattempt =>
    have hgranted := (granted_iff_of_attempt hasks hattempt).mpr ⟨_, rfl⟩
    exact iff_of_true rfl ⟨hgranted.bound, fun _ => hgranted⟩

/-- Creation asks devices first, and goes on to graphics only if none has rejected its binding. -/
theorem Creation.stages (h : Creation c calls result c') :
    ∃ asking sharing refused bs, calls = asking ++ sharing ∧
      Bindings.Asking c.agreement.toRequest c.bindings c.toBind asking refused bs ∧
      (∀ e ∈ sharing, e.concern = .graphics) ∧ (refused ≠ 0 → sharing = []) := by
  cases h with
  | refused hasks _ => exact ⟨_, [], _, _, (List.append_nil _).symm, hasks, nofun, fun _ => rfl⟩
  | bound hasks _ => exact ⟨_, [], _, _, (List.append_nil _).symm, hasks, nofun, fun _ => rfl⟩
  | unshared hasks _ hattempt =>
    exact ⟨_, _, _, _, rfl, hasks, hattempt.concern, fun h => absurd rfl h⟩
  | shared hasks _ hattempt =>
    exact ⟨_, _, _, _, rfl, hasks, hattempt.concern, fun h => absurd rfl h⟩

theorem Creation.wantsBinding_of_rejects (h : Creation c calls result c') {e : Event}
    (he : e ∈ calls) (hrejects : e.rejects = true) : c.agreement.wantsBinding = true := by
  obtain ⟨asking, sharing, refused, bs, rfl, hasks, hsharing, -⟩ := h.stages
  rcases List.mem_append.mp he with he | he
  · obtain ⟨d, hd, -⟩ := hasks.eq_bind e he
    exact (mem_toBind.mp hd).1
  · have hshared : e.concern ≠ .attachment := by
      rw [hsharing e he]
      decide
    rw [Event.rejects_of_concern hshared] at hrejects
    cases hrejects

/-- If nobody rejects its binding, what is lacking is asked for. -/
theorem Creation.attempts_of_accepted (h : Creation c calls result c')
    (hlacks : c.lacksGraphics = true) (haccepted : ∀ e ∈ calls, e.rejects = false) :
    ∃ sharing answer, Graphics.Attempt c.agreement.toRequest c.loader sharing answer ∧
      calls.filter Event.asksGraphics = sharing.filter Event.asksGraphics := by
  cases h with
  | refused hasks hrefused => exact absurd (hasks.refused_eq_zero haccepted) hrefused
  | bound _ hshared =>
    rw [hshared] at hlacks
    cases hlacks
  | unshared hasks _ hattempt => exact ⟨_, _, hattempt, hasks.filter_asksGraphics _⟩
  | shared hasks _ hattempt => exact ⟨_, _, hattempt, hasks.filter_asksGraphics _⟩

theorem Creation.asksGraphics_of_not_lacking (h : Creation c calls result c')
    (hnot : c.lacksGraphics = false) : ∀ e ∈ calls, e.asksGraphics = false := by
  cases h with
  | refused hasks _ => exact hasks.asksGraphics_eq_false
  | bound hasks _ => exact hasks.asksGraphics_eq_false
  | unshared _ hlacks _ =>
    rw [hnot] at hlacks
    cases hlacks
  | shared _ hlacks _ =>
    rw [hnot] at hlacks
    cases hlacks

section Agreed

variable (hgl : c.agreement.wantsBinding = c.agreement.flags.contains Interop.Flags.glDevice)
include hgl

/-- Creation succeeds exactly if graphics, when it is agreed on, is granted. -/
theorem Creation.ok_iff_granted (hgraphics : c.graphics = none) (h : Creation c calls result c') :
    result = .ok () ↔ (c.agreement.flags.contains Interop.Flags.glDevice = true →
      Granted c.agreement.toRequest c.loader calls) := by
  -- A context that shares nothing yet lacks graphics exactly if it is agreed on.
  have hlacks : c.lacksGraphics = c.agreement.flags.contains Interop.Flags.glDevice := by
    rw [lacksGraphics, hgraphics, Option.isNone_none, Bool.and_true]
  rw [h.eq_ok_iff, hlacks]
  refine ⟨And.right, fun hgranted => ⟨fun e he => ?_, hgranted⟩⟩
  cases hrejects : e.rejects with
  | false => rfl
  | true =>
    have hwants := h.wantsBinding_of_rejects he hrejects
    rw [hgl] at hwants
    exact hrejects.symm.trans ((hgranted hwants).bound e he)

/-- However creation fails, it is the sharegroup that could not be used. -/
theorem Creation.error_eq {e : Error} (h : Creation c calls (.error e) c') :
    ∃ reason, e = .invalidGlSharegroupReference reason := by
  have hagreed : ∀ e ∈ calls, e.rejects = true → c.agreement.wantsBinding = true :=
    fun _ => h.wantsBinding_of_rejects
  cases h with
  | refused hasks hrefused =>
    rw [← hasks.countP_rejects] at hrefused
    obtain ⟨call, hcall, hrejects⟩ := List.countP_pos_iff.mp (Nat.pos_of_ne_zero hrefused)
    have hwants := hagreed call hcall hrejects
    rw [hgl] at hwants
    exact ⟨_, by rw [BindFailure.toError, if_pos hwants]⟩
  | unshared _ _ _ => exact ⟨_, rfl⟩

end Agreed

/-- No library is asked for when a binding is rejected. -/
theorem Creation.rejects_of_load (h : Creation c calls result c') {l : Graphics.Loader}
    {api : Graphics.Api} {answer : Graphics.LoadError ⊕ Graphics.Library}
    (hload : .load l api answer ∈ calls) : ∀ e ∈ calls, e.rejects = false := by
  obtain ⟨asking, sharing, refused, bs, rfl, hasks, hsharing, hlast⟩ := h.stages
  have hshared : .load l api answer ∈ sharing := by
    refine (List.mem_append.mp hload).resolve_left fun hmem => ?_
    cases hasks.concern _ hmem
  have haccepted : refused = 0 := by
    by_contra hrefused
    rw [hlast hrefused] at hshared
    cases hshared
  subst haccepted
  refine List.forall_mem_append.mpr ⟨hasks.rejects_eq_false, fun e he => ?_⟩
  apply Event.rejects_of_concern
  rw [hsharing e he]
  decide

/-- The devices that are asked are those that creation goes through and that are not yet bound. -/
theorem Creation.asked_iff (h : Creation c calls result c') (d : DeviceId) :
    (∃ accepted, .bind d c.agreement.toRequest false accepted ∈ calls) ↔
      d ∈ c.toBind ∧ d ∉ c.bindings.bound := by
  obtain ⟨asking, sharing, refused, bs, rfl, hasks, hsharing, -⟩ := h.stages
  constructor
  · rintro ⟨accepted, hmem⟩
    have hasking := (List.mem_append.mp hmem).resolve_right fun hmem => by cases hsharing _ hmem
    obtain ⟨e, he, other, heq⟩ := hasks.eq_bind _ hasking
    cases heq
    exact ⟨he, hasks.not_bound hasking⟩
  · rintro ⟨hd, hfree⟩
    obtain ⟨accepted, hmem⟩ := hasks.asked hd hfree
    exact ⟨accepted, List.mem_append_left _ hmem⟩

end Context
end ComputeContext
