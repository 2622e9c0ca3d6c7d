/-
# What negotiation makes of a list

Negotiation takes the pairs one after another, with a draft of what they have
settled so far. A pair is taken exactly if it may follow those before it
(`Draft.Settles.add_eq_ok_iff`), and then the draft settles what the pairs say: which
names they give, and, through the values they give them, what is asked for
(`Settles`). So a list is negotiated exactly if it is acceptable, and the
agreement is a function of the values it gives, whatever their order.

Key definitions: `Interop.Flags.ofFeatures`, `Property.requestOf`,
`Draft.record`, `Draft.Settles`.
Key theorems: `Draft.Settles.add_eq_ok_iff`, `Property.settles_of_draft`,
`Property.Acceptable.exists_draft`, `Property.negotiate_eq_ok_iff`,
`Property.negotiate_accepts_iff_acceptable`.
-/
import ComputeContext.Proofs.Property.Grammar
import Mathlib.Data.List.Induction

namespace ComputeContext

namespace Interop.Flags

/-- The flags of what a list asks for. -/
def ofFeatures (graphics egl offline userSync : Bool) : Flags :=
  (if graphics then glDevice else ∅) ∪ (if egl then eglDevice else ∅) ∪
    (if offline then offlineDevices else ∅) ∪ (if userSync then interopUserSync else ∅)

variable (graphics egl offline userSync : Bool)

theorem ofFeatures_union_glDevice :
    ofFeatures graphics egl offline userSync ∪ glDevice = ofFeatures true egl offline userSync := by
  cases graphics <;> cases egl <;> cases offline <;> cases userSync <;> rfl

theorem ofFeatures_union_eglDevice :
    ofFeatures graphics egl offline userSync ∪ (glDevice ∪ eglDevice) =
      ofFeatures true true offline userSync := by
  cases graphics <;> cases egl <;> cases offline <;> cases userSync <;> rfl

theorem ofFeatures_union_offlineDevices :
    ofFeatures graphics egl offline userSync ∪ offlineDevices =
      ofFeatures graphics egl true userSync := by
  cases graphics <;> cases egl <;> cases offline <;> cases userSync <;> rfl

theorem ofFeatures_union_interopUserSync :
    ofFeatures graphics egl offline userSync ∪ interopUserSync =
      ofFeatures graphics egl offline true := by
  cases graphics <;> cases egl <;> cases offline <;> cases userSync <;> rfl

end Interop.Flags

namespace Property

variable {platform : PlatformId} {ps qs : List Property} {p : Property} {n m : Name} {v : Word}
  {d d' : Draft} {value : Name → Option Word}

/-- The handle of a value, null if there is none. -/
def handleOf (v? : Option Word) : Interop.Handle := (v?.map .ofWord).getD .null

/-- The display among the values that names are given. -/
def displayOf? (value : Name → Option Word) : Option Word :=
  value .eglDisplay <|> value .glxDisplay

/-- What is asked for by giving names these values. -/
def requestOf (value : Name → Option Word) : Interop.Request where
  flags := .ofFeatures ((value .glContext).isSome || (displayOf? value).isSome)
    (value .eglDisplay).isSome (value .offlineDevices).isSome
    (value .interopUserSync = some trueToken)
  handles := Interop.HandleTable.empty.set .gl (handleOf (displayOf? value))
  glContext := handleOf (value .glContext)

theorem ite_error_eq_ok_iff {ε α : Type} {c : Prop} [Decidable c] {e : ε} {a a' : α} :
    (if c then .error e else .ok a : Except ε α) = .ok a' ↔ ¬c ∧ a' = a := by
  by_cases h : c
  · simp [h]
  · simp [h, eq_comm]

theorem isNull_ofWord : (Interop.Handle.ofWord v).isNull = true ↔ v = 0 := by
  rw [Interop.Handle.isNull, Interop.Handle.ofWord, beq_iff_eq]
  constructor
  · intro h
    calc v = v.toUInt64.toInt64 := v.toInt64_toUInt64.symm
      _ = (0 : UInt64).toInt64 := congrArg UInt64.toInt64 h
  · rintro rfl
    rfl

namespace Draft

/-- The draft after a value has been taken for a name. -/
def take (d : Draft) (n : Name) (v : Word) : Draft :=
  let withDisplay := { d.request with handles := d.request.handles.set .gl (.ofWord v) }
  match n with
  | .interopUserSync =>
    if v = trueToken then { d with request := raise d.request .interopUserSync } else d
  | .glContext => { d with request := raise { d.request with glContext := .ofWord v } .glDevice }
  | .eglDisplay =>
    { d with display := some n, request := raise withDisplay (.glDevice ∪ .eglDevice) }
  | .glxDisplay => { d with display := some n, request := raise withDisplay .glDevice }
  | .offlineDevices => { d with request := raise d.request .offlineDevices }
  | _ => d

/-- The draft after a pair of this name has been recorded. -/
def record (d : Draft) (n : Name) (v : Word) : Draft := take { d with seen := n :: d.seen } n v

@[simp] theorem seen_take : (d.take n v).seen = d.seen := by
  cases n <;> simp only [take]
  split <;> rfl

@[simp] theorem display_take :
    (d.take n v).display = if n.isDisplay then some n else d.display := by
  cases n <;> simp only [take, Name.isDisplay, Bool.false_eq_true, ↓reduceIte]
  split <;> rfl

theorem settle_eq_ok_iff {role : Role} (hrole : n.role? = some role) :
    settle platform d n role v = .ok d' ↔
      (n.isDisplay = true → d.display = none) ∧ n.Permits platform v ∧ d' = d.take n v := by
  cases n <;> cases hrole <;>
    simp only [settle, take, Name.isDisplay, Name.Permits, Bool.false_eq_true, false_imp_iff,
      true_imp_iff, true_and]
  case platform => rw [ite_error_eq_ok_iff, not_and_or, not_ne_iff, not_ne_iff]
  case interopUserSync => rw [Except.ok.injEq, eq_comm]
  case glContext => rw [ite_error_eq_ok_iff, isNull_ofWord]
  case offlineDevices => rw [ite_error_eq_ok_iff, not_ne_iff]
  case eglDisplay | glxDisplay =>
    cases d.display with
    | some previous => simp
    | none => simp [ite_error_eq_ok_iff, isNull_ofWord]

/-- A pair is taken if its name is accepted and new, its value permitted, and it gives no second
display; then it is recorded. -/
theorem add_named_eq_ok_iff : add platform d (named n v) = .ok d' ↔
    n.isSupported = true ∧ n ∉ d.seen ∧ (n.isDisplay = true → d.display = none) ∧
      n.Permits platform v ∧ d' = d.record n v := by
  simp only [add, named, Name.ofCode?_code]
  cases hrole : n.role? with
  | none => simp [Name.isSupported, hrole]
  | some role =>
    by_cases hseen : n ∈ d.seen
    · simp [hseen]
    · simp only [hseen, ↓reduceIte, settle_eq_ok_iff hrole, Name.isSupported, hrole,
        Option.isSome_some, not_false_eq_true, true_and, record]

theorem eq_named_of_add (h : add platform d p = .ok d') : ∃ n v, p = named n v := by
  cases hcode : Name.ofCode? p.name with
  | none => simp [add, hcode] at h
  | some n => exact ⟨n, p.value, eq_named_iff.mpr (Name.ofCode?_eq_some_iff.mp hcode).symm⟩

end Draft

/-! ### What a draft settles -/

/-- The draft has seen the names that the list gives and knows whether one of them is a display, and
it asks for what the values of the list ask for. -/
structure Draft.Settles (d : Draft) (ps : List Property) : Prop where
  seen : ∀ n, n ∈ d.seen ↔ Gives ps n
  display : d.display = none ↔ ∀ n, n.isDisplay = true → ¬Gives ps n
  request : d.request = requestOf (valueOf? ps)

theorem Draft.settles_nil : Draft.start.Settles [] where
  seen n := by simp [Draft.start, Gives]
  display := by simp [Draft.start, Gives]
  request := rfl

/-- A draft takes a pair after those it has settled exactly if the pair may follow them. -/
theorem Draft.Settles.add_eq_ok_iff (h : d.Settles ps) : Draft.add platform d (named n v) = .ok d' ↔
    Follows platform ps n v ∧ d' = d.record n v := by
  rw [Draft.add_named_eq_ok_iff, h.seen, h.display]
  constructor
  · rintro ⟨hsupported, hnew, hdisplay, hpermits, rfl⟩
    exact ⟨⟨hsupported, hnew, hdisplay, hpermits⟩, rfl⟩
  · rintro ⟨hv, rfl⟩
    exact ⟨hv.supported, hv.new, hv.display, hv.permits, rfl⟩

/-- Taking a value adds to what is asked for just what that value asks for. -/
theorem Draft.request_take (hrequest : d.request = requestOf value)
    (hsupported : n.isSupported = true) (hnew : value n = none)
    (hdisplay : n.isDisplay = true → ∀ m, m.isDisplay = true → value m = none) :
    (d.take n v).request = requestOf (Function.update value n (some v)) := by
  cases n <;> try cases hsupported
  case platform => exact hrequest
  case interopUserSync =>
    by_cases hv : v = trueToken
    · simp [take, raise, hrequest, requestOf, displayOf?, hv,
        Interop.Flags.ofFeatures_union_interopUserSync]
    · simp [take, hrequest, requestOf, displayOf?, hv, hnew]
  case glContext =>
    simp [take, raise, hrequest, requestOf, displayOf?, handleOf,
      Interop.Flags.ofFeatures_union_glDevice]
  case eglDisplay =>
    simp [take, raise, hrequest, requestOf, displayOf?, handleOf, Interop.HandleTable.set,
      Interop.Flags.ofFeatures_union_eglDevice]
  case glxDisplay =>
    have hegl : value .eglDisplay = none := hdisplay rfl .eglDisplay rfl
    simp [take, raise, hrequest, requestOf, displayOf?, handleOf, hegl, Interop.HandleTable.set,
      Interop.Flags.ofFeatures_union_glDevice]
  case offlineDevices =>
    simp [take, raise, hrequest, requestOf, displayOf?,
      Interop.Flags.ofFeatures_union_offlineDevices]

theorem Draft.Settles.record (h : d.Settles ps) (hv : Follows platform ps n v) :
    (d.record n v).Settles (ps ++ [named n v]) where
  seen m := by
    rw [Draft.record, Draft.seen_take, List.mem_cons, gives_append_singleton, h.seen, or_comm]
  display := by
    simp only [Draft.record, Draft.display_take, gives_append_singleton]
    by_cases hn : n.isDisplay = true
    · simp only [hn, ↓reduceIte, reduceCtorEq, false_iff, not_forall]
      exact ⟨n, hn, not_not.mpr (.inr rfl)⟩
    · simp only [hn, Bool.false_eq_true, ↓reduceIte, h.display]
      constructor
      · rintro hnone m hm (hgives | rfl)
        · exact hnone m hm hgives
        · exact hn hm
      · exact fun hnone m hm hgives => hnone m hm (.inl hgives)
  request := by
    rw [valueOf?_append_singleton hv.new, Draft.record]
    have hrequest : Draft.request { d with seen := n :: d.seen } = requestOf (valueOf? ps) :=
      h.request
    apply Draft.request_take hrequest hv.supported (valueOf?_eq_none_iff.mpr hv.new)
    intro hn m hm
    exact valueOf?_eq_none_iff.mpr (hv.display hn m hm)

/-! ### A whole list -/

theorem draft_append_singleton :
    draft platform (ps ++ [p]) = draft platform ps >>= fun d => d.add platform p := by
  simp [draft, List.foldlM_append]

theorem draft_append_singleton_eq_ok_iff : draft platform (ps ++ [p]) = .ok d ↔
    ∃ before, draft platform ps = .ok before ∧ before.add platform p = .ok d := by
  rw [draft_append_singleton]
  cases draft platform ps with
  | error e => exact ⟨nofun, nofun⟩
  | ok before =>
    constructor
    · exact fun h => ⟨before, rfl, h⟩
    · rintro ⟨_, hbefore, h⟩
      cases hbefore
      exact h

/-- A list that has a draft is acceptable, and its draft settles it. -/
theorem settles_of_draft (h : draft platform ps = .ok d) :
    Acceptable platform ps ∧ d.Settles ps := by
  induction ps using List.reverseRecOn generalizing d with
  | nil =>
    cases h
    exact ⟨acceptable_nil platform, Draft.settles_nil⟩
  | append_singleton ps p ih =>
    obtain ⟨before, hd, hadd⟩ := draft_append_singleton_eq_ok_iff.mp h
    obtain ⟨hacceptable, hsettles⟩ := ih hd
    obtain ⟨n, v, rfl⟩ := Draft.eq_named_of_add hadd
    obtain ⟨hv, rfl⟩ := hsettles.add_eq_ok_iff.mp hadd
    exact ⟨hacceptable.append_singleton hv, hsettles.record hv⟩

theorem Acceptable.exists_draft (h : Acceptable platform ps) : ∃ d, draft platform ps = .ok d := by
  induction ps using List.reverseRecOn with
  | nil => exact ⟨.start, rfl⟩
  | append_singleton ps p ih =>
    obtain ⟨before, hd⟩ := ih h.of_append
    obtain ⟨n, v, rfl, hv⟩ := h.last
    have hadd := (settles_of_draft hd).2.add_eq_ok_iff.mpr ⟨hv, rfl⟩
    exact ⟨before.record n v, draft_append_singleton_eq_ok_iff.mpr ⟨before, hd, hadd⟩⟩

/-- A list is negotiated exactly if it is acceptable, and the agreement is what its values ask for,
with the bytes that a copy of it needs. -/
theorem negotiate_eq_ok_iff {a : Agreement} : negotiate platform (some ps) = .ok a ↔
    Acceptable platform ps ∧ a = ⟨requestOf (valueOf? ps), UInt64.ofNat (byteSize ps)⟩ := by
  rw [negotiate]
  constructor
  · intro h
    cases hd : draft platform ps with
    | error e => rw [hd] at h; cases h
    | ok d =>
      obtain ⟨hacceptable, hsettles⟩ := settles_of_draft hd
      rw [hd] at h
      cases h
      exact ⟨hacceptable, congrArg (Agreement.mk · _) hsettles.request⟩
  · rintro ⟨hacceptable, rfl⟩
    obtain ⟨d, hd⟩ := hacceptable.exists_draft
    rw [hd, ← (settles_of_draft hd).2.request]
    rfl

theorem Acceptable.valueOf?_perm (h : Acceptable platform ps) (hperm : qs.Perm ps) :
    valueOf? qs = valueOf? ps := by
  funext n
  apply Option.ext
  intro v
  rw [valueOf?_eq_some_iff h.once, valueOf?_eq_some_iff (h.perm hperm).once, hperm.mem_iff]

/-- **Negotiation accepts exactly the acceptable lists.** It accepts a list if and only if all its
names are accepted ones, none stands twice, it gives one display at most, and every value is one
that its name permits. Rearranging a list changes neither whether it is accepted nor what is agreed
on. -/
theorem negotiate_accepts_iff_acceptable (platform : PlatformId) (ps : List Property) :
    ((∃ a, negotiate platform (some ps) = .ok a) ↔ Acceptable platform ps) ∧
      ∀ qs : List Property, qs.Perm ps → ∀ a,
        negotiate platform (some qs) = .ok a ↔ negotiate platform (some ps) = .ok a := by
  constructor
  · simp only [negotiate_eq_ok_iff, exists_and_left, exists_eq, and_true]
  · intro qs hperm a
    have hsize : byteSize qs = byteSize ps := by rw [byteSize, byteSize, hperm.length_eq]
    rw [negotiate_eq_ok_iff, negotiate_eq_ok_iff, hsize]
    constructor
    · rintro ⟨hqs, ha⟩
      exact ⟨hqs.perm hperm.symm, (hqs.perm hperm.symm).valueOf?_perm hperm ▸ ha⟩
    · rintro ⟨hps, ha⟩
      exact ⟨hps.perm hperm, hps.valueOf?_perm hperm ▸ ha⟩

/-- A list of five pairs, with the display after the context, agrees on the same when it
is turned round. -/
theorem reversed_list_agrees :
    let ps := [named .platform 4096, named .glContext 0x70, named .interopUserSync 1,
      named .eglDisplay 0x50, named .offlineDevices trueToken]
    ∃ a, negotiate ⟨4096⟩ (some ps) = .ok a ∧ negotiate ⟨4096⟩ (some ps.reverse) = .ok a ∧
      a.flags = .ofFeatures true true true true := by
  intro ps
  obtain ⟨-, hperm⟩ := negotiate_accepts_iff_acceptable ⟨4096⟩ ps
  have hps : negotiate ⟨4096⟩ (some ps) = .ok ⟨requestOf (valueOf? ps), 88⟩ := by decide +kernel
  exact ⟨_, hps, (hperm ps.reverse ps.reverse_perm _).mpr hps, by decide +kernel⟩

end Property
end ComputeContext
