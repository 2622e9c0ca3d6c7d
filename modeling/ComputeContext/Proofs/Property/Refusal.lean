/-
# What a pair is refused for

Behind the pairs of an acceptable list a pair may follow or is refused, and what
it is refused for depends on itself and on those pairs (`Refuses`, one line for
each cause). Negotiation finds just that cause (`Draft.add_of_refuses`) and
stops there, so the list is refused for it, whatever follows
(`negotiate_of_refuses`).

All causes are invalid values but one, a graphics handle that is null. It is
looked at last, so it counts only if nothing else is wrong with the pair: its
name is new and, for a display, no display stands before it (`LacksHandle`).

Key definitions: `Property.Refuses`, `Property.LacksHandle`.
Key theorems: `Property.follows_or_refuses`, `Property.Refuses.status_eq`,
`Property.Draft.add_of_refuses`, `Property.negotiate_append_of_refused`,
`Property.negotiate_of_refuses`.
-/
import ComputeContext.Proofs.Property.Agreement

namespace ComputeContext.Property

variable {platform : PlatformId} {before ps : List Property} {p : Property} {n m : Name} {v : Word}
  {r : Rejection} {d : Draft}

/-- What a pair is refused for behind others. Each cause leaves out those that come before it. -/
inductive Refuses (platform : PlatformId) (before : List Property) : Property → Rejection → Prop
  | unknown {p : Property} (hunknown : ∀ n : Name, p.name ≠ n.code) :
    Refuses platform before p (.unknown p.name)
  | unsupported {n : Name} {v : Word} (hn : n.isSupported = false) :
    Refuses platform before (named n v) (.unsupported n)
  | repeated {n : Name} {v : Word} (hn : n.isSupported = true) (hgiven : Gives before n) :
    Refuses platform before (named n v) (.repeated n)
  | displayConflict {n m : Name} {v : Word} (hn : n.isDisplay = true) (hnew : ¬Gives before n)
    (hm : m.isDisplay = true) (hgiven : Gives before m) :
    Refuses platform before (named n v) (.displayConflict n m)
  | nullDisplay {n : Name} (hn : n.isDisplay = true)
    (hfirst : ∀ m : Name, m.isDisplay = true → ¬Gives before m) :
    Refuses platform before (named n 0) (.nullDisplay n)
  | nullContext (hnew : ¬Gives before .glContext) :
    Refuses platform before (named .glContext 0) .nullContext
  | foreignPlatform {v : Word} (hnew : ¬Gives before .platform)
    (hv : ¬Name.platform.Permits platform v) :
    Refuses platform before (named .platform v) (.foreignPlatform v)
  | offlineToken {v : Word} (hnew : ¬Gives before .offlineDevices)
    (hv : ¬Name.offlineDevices.Permits platform v) :
    Refuses platform before (named .offlineDevices v) (.offlineToken v)

/-- The pair gives a graphics context or display by a null handle, and does so for the first time:
its name is new and, if it is a display, no display stands before it. -/
def LacksHandle (before : List Property) (p : Property) : Prop :=
  ∃ n ∈ [Name.glContext, .eglDisplay, .glxDisplay], p = named n 0 ∧ ¬Gives before n ∧
    (n.isDisplay = true → ∀ m : Name, m.isDisplay = true → ¬Gives before m)

/-! ### A pair behind others -/

/-- A name with nothing against it is refused if its value is not permitted. -/
theorem exists_refuses_of_not_permits (hsupported : n.isSupported = true) (hnew : ¬Gives before n)
    (hfirst : n.isDisplay = true → ∀ m : Name, m.isDisplay = true → ¬Gives before m)
    (hv : ¬n.Permits platform v) : ∃ r, Refuses platform before (named n v) r := by
  cases n with
  | platform => exact ⟨_, .foreignPlatform hnew hv⟩
  | offlineDevices => exact ⟨_, .offlineToken hnew hv⟩
  | interopUserSync => exact absurd trivial hv
  | glContext =>
    obtain rfl : v = 0 := not_not.mp hv
    exact ⟨_, .nullContext hnew⟩
  | eglDisplay | glxDisplay =>
    obtain rfl : v = 0 := not_not.mp hv
    exact ⟨_, .nullDisplay rfl (hfirst rfl)⟩
  | wglHdc | cglSharegroup | d3d10Device | d3d11Device | adapterD3d9 | adapterD3d9Ex
  | adapterDxva => cases hsupported

/-- A pair may follow the others, or it is refused for some cause. -/
theorem follows_or_refuses (platform : PlatformId) (before : List Property) (p : Property) :
    (∃ n v, p = named n v ∧ Follows platform before n v) ∨ ∃ r, Refuses platform before p r := by
  -- The cases stand in the order of the checks: name, repetition, displays, value.
  by_cases hknown : ∃ n : Name, p.name = n.code
  · obtain ⟨n, hname⟩ := hknown
    obtain ⟨v, rfl⟩ : ∃ v, p = named n v := ⟨_, eq_named_iff.mpr hname⟩
    cases hsupported : n.isSupported with
    | false => exact .inr ⟨_, .unsupported hsupported⟩
    | true =>
      by_cases hgiven : Gives before n
      · exact .inr ⟨_, .repeated hsupported hgiven⟩
      · by_cases hdisplay : n.isDisplay = true ∧ ∃ m : Name, m.isDisplay = true ∧ Gives before m
        · obtain ⟨hn, m, hm, hgives⟩ := hdisplay
          exact .inr ⟨_, .displayConflict hn hgiven hm hgives⟩
        · have hfirst : n.isDisplay = true → ∀ m : Name, m.isDisplay = true → ¬Gives before m :=
            fun hn m hm hgives => hdisplay ⟨hn, m, hm, hgives⟩
          by_cases hv : n.Permits platform v
          · exact .inl ⟨n, v, rfl, hsupported, hgiven, hfirst, hv⟩
          · exact .inr (exists_refuses_of_not_permits hsupported hgiven hfirst hv)
  · exact .inr ⟨_, .unknown (not_exists.mp hknown)⟩

theorem lacksHandle_named_iff : LacksHandle before (named n v) ↔
    n ∈ [Name.glContext, .eglDisplay, .glxDisplay] ∧ v = 0 ∧ ¬Gives before n ∧
      (n.isDisplay = true → ∀ m : Name, m.isDisplay = true → ¬Gives before m) := by
  unfold LacksHandle
  constructor
  · rintro ⟨n', hn', hsame, hnew, hfirst⟩
    obtain ⟨rfl, rfl⟩ := named_inj.mp hsame
    exact ⟨hn', rfl, hnew, hfirst⟩
  · rintro ⟨hn, rfl, hnew, hfirst⟩
    exact ⟨n, hn, rfl, hnew, hfirst⟩

/-- A pair that lacks a handle is a sharegroup failure, and any other refused pair is an invalid
value. -/
theorem Refuses.status_eq (h : Refuses platform before p r) :
    LacksHandle before p ∧ r.toError.status = .invalidGlSharegroupReference ∨
      ¬LacksHandle before p ∧ r.toError.status = .invalidValue := by
  cases h with
  | unknown hunknown =>
    right
    refine ⟨?_, rfl⟩
    rintro ⟨n, -, rfl, -⟩
    exact hunknown n rfl
  | @unsupported n v hn =>
    right
    refine ⟨fun hlacks => ?_, rfl⟩
    obtain ⟨hgraphics, -⟩ := lacksHandle_named_iff.mp hlacks
    have hsupported : ∀ m ∈ [Name.glContext, .eglDisplay, .glxDisplay], m.isSupported = true := by
      decide
    rw [hsupported n hgraphics] at hn
    cases hn
  | repeated _ hgiven =>
    right
    refine ⟨fun hlacks => ?_, rfl⟩
    obtain ⟨-, -, hnew, -⟩ := lacksHandle_named_iff.mp hlacks
    exact hnew hgiven
  | displayConflict hn _ hm hgiven =>
    right
    refine ⟨fun hlacks => ?_, rfl⟩
    obtain ⟨-, -, -, hfirst⟩ := lacksHandle_named_iff.mp hlacks
    exact hfirst hn _ hm hgiven
  | nullDisplay hn hfirst =>
    left
    refine ⟨lacksHandle_named_iff.mpr ⟨?_, rfl, hfirst _ hn, fun _ => hfirst⟩, rfl⟩
    rcases Name.isDisplay_iff.mp hn with rfl | rfl <;> decide
  | nullContext hnew =>
    left
    exact ⟨lacksHandle_named_iff.mpr ⟨by decide, rfl, hnew, nofun⟩, rfl⟩
  | foreignPlatform | offlineToken =>
    right
    refine ⟨fun hlacks => ?_, rfl⟩
    obtain ⟨hgraphics, -⟩ := lacksHandle_named_iff.mp hlacks
    revert hgraphics
    decide

/-! ### A draft that refuses a pair -/

theorem gives_display_of_draft (h : draft platform ps = .ok d) (hm : d.display = some m) :
    m.isDisplay = true ∧ Gives ps m := by
  induction ps using List.reverseRecOn generalizing d with
  | nil =>
    cases h
    cases hm
  | append_singleton ps p ih =>
    obtain ⟨before, hd, hadd⟩ := draft_append_singleton_eq_ok_iff.mp h
    obtain ⟨n, v, rfl⟩ := Draft.eq_named_of_add hadd
    obtain ⟨-, rfl⟩ := (settles_of_draft hd).2.add_eq_ok_iff.mp hadd
    rw [Draft.record, Draft.display_take] at hm
    rw [gives_append_singleton]
    split_ifs at hm with hn
    · obtain rfl : n = m := Option.some.inj hm
      exact ⟨hn, .inr rfl⟩
    · obtain ⟨hdisplay, hgives⟩ := ih hd hm
      exact ⟨hdisplay, .inl hgives⟩

/-- A draft of an acceptable list knows the display that the list gives. -/
theorem display_eq_of_gives (h : draft platform ps = .ok d) (hm : m.isDisplay = true)
    (hgives : Gives ps m) : d.display = some m := by
  obtain ⟨hacceptable, hsettles⟩ := settles_of_draft h
  cases hdisplay : d.display with
  | none => exact absurd hgives (hsettles.display.mp hdisplay m hm)
  | some m' =>
    obtain ⟨hm', hgives'⟩ := gives_display_of_draft h hdisplay
    -- A list with two displays is not acceptable.
    have hone : m' = m := by
      rcases Name.isDisplay_iff.mp hm with rfl | rfl <;>
        rcases Name.isDisplay_iff.mp hm' with rfl | rfl
      · rfl
      · exact absurd ⟨hgives, hgives'⟩ hacceptable.oneDisplay
      · exact absurd ⟨hgives', hgives⟩ hacceptable.oneDisplay
      · rfl
    rw [hone]

/-- What becomes of a name that is accepted and new is up to its value. -/
theorem Draft.add_named_of_new {role : Role} (hrole : n.role? = some role) (hnew : n ∉ d.seen) :
    d.add platform (named n v) = settle platform { d with seen := n :: d.seen } n role v := by
  simp only [Draft.add, named, Name.ofCode?_code, hrole, hnew, ↓reduceIte]

/-- A draft refuses a pair for what it is refused for behind the pairs of the draft. -/
theorem Draft.add_of_refuses (h : draft platform before = .ok d)
    (hr : Refuses platform before p r) :
    d.add platform p = .error r := by
  obtain ⟨-, hsettles⟩ := settles_of_draft h
  have hfresh : ∀ n, ¬Gives before n → n ∉ d.seen :=
    fun n hnew hmem => hnew ((hsettles.seen n).mp hmem)
  cases hr with
  | unknown hunknown => rw [Draft.add, Name.ofCode?_eq_none_iff.mpr hunknown]
  | @unsupported n v hn =>
    have hrole : n.role? = none := by
      rwa [Name.isSupported, Option.isSome_eq_false_iff, Option.isNone_iff_eq_none] at hn
    simp only [Draft.add, named, Name.ofCode?_code, hrole]
  | @repeated n v hn hgiven =>
    obtain ⟨role, hrole⟩ := Option.isSome_iff_exists.mp hn
    have hseen : n ∈ d.seen := (hsettles.seen n).mpr hgiven
    simp only [Draft.add, named, Name.ofCode?_code, hrole, hseen, ↓reduceIte]
  | displayConflict hn hnew hm hgiven =>
    have hdisplay := display_eq_of_gives h hm hgiven
    rcases Name.isDisplay_iff.mp hn with rfl | rfl <;>
      rw [Draft.add_named_of_new rfl (hfresh _ hnew)] <;> simp only [settle, hdisplay]
  | nullDisplay hn hfirst =>
    have hdisplay : d.display = none := hsettles.display.mpr hfirst
    rcases Name.isDisplay_iff.mp hn with rfl | rfl <;>
      rw [Draft.add_named_of_new rfl (hfresh _ (hfirst _ hn))] <;>
      simp only [settle, hdisplay, isNull_ofWord, ↓reduceIte]
  | nullContext hnew =>
    rw [Draft.add_named_of_new rfl (hfresh _ hnew)]
    simp only [settle, isNull_ofWord, ↓reduceIte]
  | foreignPlatform hnew hv =>
    rw [Draft.add_named_of_new rfl (hfresh _ hnew)]
    exact if_pos (not_or.mp hv)
  | offlineToken hnew hv =>
    rw [Draft.add_named_of_new rfl (hfresh _ hnew)]
    exact if_pos hv

/-! ### A whole list -/

theorem exists_agreement_iff :
    (∃ a, negotiate platform (some ps) = .ok a) ↔ Acceptable platform ps := by
  simp only [negotiate_eq_ok_iff, exists_and_left, exists_eq, and_true]

theorem negotiate_eq_error_iff :
    negotiate platform (some ps) = .error r ↔ draft platform ps = .error r := by
  rw [negotiate]
  cases draft platform ps with
  | error e => simp [Except.map]
  | ok d => simp [Except.map]

/-- What a list is refused for does not change with what follows. -/
theorem negotiate_append_of_refused (h : negotiate platform (some ps) = .error r)
    (rest : List Property) : negotiate platform (some (ps ++ rest)) = .error r := by
  rw [negotiate_eq_error_iff] at h ⊢
  have hsplit : draft platform (ps ++ rest) =
      draft platform ps >>= fun d => rest.foldlM (Draft.add platform) d := List.foldlM_append
  rw [hsplit, h]
  rfl

/-- A list is refused for what a pair is refused for behind accepted ones. -/
theorem negotiate_of_refuses (h : Acceptable platform before) (hr : Refuses platform before p r)
    (rest : List Property) : negotiate platform (some (before ++ p :: rest)) = .error r := by
  obtain ⟨d, hd⟩ := h.exists_draft
  have hlast : draft platform (before ++ [p]) = .error r := by
    rw [draft_append_singleton, hd]
    exact Draft.add_of_refuses hd hr
  rw [List.append_cons]
  exact negotiate_append_of_refused (negotiate_eq_error_iff.mpr hlast) rest

end ComputeContext.Property
