/-
# Which property lists are acceptable

Whether a list is acceptable can be said without going through it in order:
its names are among the accepted ones, none stands twice, it gives one display
at most, and each value is one that its name permits (`Acceptable`). Nothing of
this changes when the list is rearranged. Along a list it comes down to what
the last pair may be after those before it (`Follows`).

Key definitions: `Property.Gives`, `Property.valueOf?`,
`Property.acceptedNames`, `Property.Name.Permits`, `Property.Acceptable`,
`Property.Follows`.
Key theorems: `Property.valueOf?_eq_some_iff`, `Property.Acceptable.perm`,
`Property.Acceptable.last`, `Property.Acceptable.append_singleton`.
-/
import ComputeContext.Property.Negotiation
import Mathlib.Data.List.Nodup
import Mathlib.Data.List.Perm.Subperm

namespace ComputeContext.Property

variable {platform : PlatformId} {ps qs : List Property} {p : Property} {n m : Name} {v : Word}

/-! ### Names and the words that stand for them -/

namespace Name

theorem code_injective : Function.Injective code := by
  intro n m h
  have hn := ofCode?_code n
  rw [h, ofCode?_code] at hn
  exact (Option.some.inj hn).symm

theorem ofCode?_eq_some_iff {w : Word} : ofCode? w = some n ↔ n.code = w := by
  constructor
  · intro h
    simpa using List.find?_some h
  · rintro rfl
    exact ofCode?_code n

theorem ofCode?_eq_none_iff {w : Word} : ofCode? w = none ↔ ∀ n : Name, w ≠ n.code := by
  constructor
  · rintro h n rfl
    rw [ofCode?_code] at h
    cases h
  · intro h
    cases hcode : ofCode? w with
    | none => rfl
    | some n => exact absurd (ofCode?_eq_some_iff.mp hcode).symm (h n)

/-- The name gives a graphics display that this platform has. -/
def isDisplay : Name → Bool
  | eglDisplay | glxDisplay => true
  | _ => false

theorem isDisplay_iff : n.isDisplay = true ↔ n = eglDisplay ∨ n = glxDisplay := by
  cases n <;> decide

end Name

theorem eq_named_iff : p = named n p.value ↔ p.name = n.code := by
  cases p
  simp [named]

theorem named_inj {w : Word} : named n v = named m w ↔ n = m ∧ v = w := by
  simp [named, Name.code_injective.eq_iff]

/-! ### What a list gives -/

/-- The list gives the name some value. -/
def Gives (ps : List Property) (n : Name) : Prop := ∃ v, named n v ∈ ps

/-- The value that the list gives the name, the first one if there are several. -/
def valueOf? (ps : List Property) (n : Name) : Option Word :=
  (ps.find? (·.name = n.code)).map (·.value)

theorem gives_iff_mem_map : Gives ps n ↔ n.code ∈ ps.map (·.name) := by
  rw [List.mem_map]
  constructor
  · rintro ⟨v, hv⟩
    exact ⟨_, hv, rfl⟩
  · rintro ⟨p, hp, hn⟩
    exact ⟨p.value, eq_named_iff.mpr hn ▸ hp⟩

theorem isSome_valueOf?_iff : (valueOf? ps n).isSome = true ↔ Gives ps n := by
  rw [valueOf?, Option.isSome_map, List.find?_isSome, gives_iff_mem_map, List.mem_map]
  simp

theorem valueOf?_eq_none_iff : valueOf? ps n = none ↔ ¬Gives ps n := by
  rw [← isSome_valueOf?_iff, Bool.not_eq_true, Option.isSome_eq_false_iff,
    Option.isNone_iff_eq_none]

/-- In a list without repeated names, a name has the value that stands next to it. -/
theorem valueOf?_eq_some_iff (h : (ps.map (·.name)).Nodup) :
    valueOf? ps n = some v ↔ named n v ∈ ps := by
  have hinj := List.inj_on_of_nodup_map h
  rw [valueOf?, Option.map_eq_some_iff]
  constructor
  · rintro ⟨p, hp, rfl⟩
    have hname : p.name = n.code := by simpa using List.find?_some hp
    exact eq_named_iff.mpr hname ▸ List.mem_of_find?_eq_some hp
  · intro hv
    obtain ⟨p, hp⟩ : ∃ p, ps.find? (·.name = n.code) = some p := by
      rw [← Option.isSome_iff_exists, List.find?_isSome]
      exact ⟨_, hv, by simp [named]⟩
    have hname : p.name = n.code := by simpa using List.find?_some hp
    have hsame : p = named n v := hinj (List.mem_of_find?_eq_some hp) hv hname
    exact ⟨p, hp, by rw [hsame, named]⟩

theorem valueOf?_append_singleton (h : ¬Gives ps n) :
    valueOf? (ps ++ [named n v]) = Function.update (valueOf? ps) n (some v) := by
  rw [← valueOf?_eq_none_iff, valueOf?, Option.map_eq_none_iff] at h
  funext m
  rw [valueOf?, List.find?_append]
  by_cases hm : m = n
  · subst hm
    simp [h, named]
  · have hne : n.code ≠ m.code := fun heq => hm (Name.code_injective heq).symm
    simp [valueOf?, Function.update_of_ne hm, named, hne]

theorem gives_append_singleton : Gives (ps ++ [named n v]) m ↔ Gives ps m ∨ m = n := by
  simp only [Gives, List.mem_append, List.mem_singleton, named_inj, exists_or, exists_and_left,
    exists_eq, and_true]

/-! ### The grammar -/

/-- The names that this platform accepts. -/
def acceptedNames : List Name :=
  [.platform, .interopUserSync, .glContext, .eglDisplay, .glxDisplay, .offlineDevices]

/-- The values that a name may be given: for the platform none or the platform's own, the true
token for devices that are not present, and a handle for what is graphics. The client's own
synchronisation may be given any value. -/
def Name.Permits (platform : PlatformId) (v : Word) : Name → Prop
  | .platform => v = 0 ∨ v = platform.word
  | .offlineDevices => v = trueToken
  | .glContext | .eglDisplay | .glxDisplay => v ≠ 0
  | _ => True

/-- The lists that are acceptable. -/
structure Acceptable (platform : PlatformId) (ps : List Property) : Prop where
  known : ∀ p ∈ ps, ∃ n ∈ acceptedNames, p.name = n.code
  once : (ps.map (·.name)).Nodup
  oneDisplay : ¬(Gives ps .eglDisplay ∧ Gives ps .glxDisplay)
  permitted : ∀ n v, named n v ∈ ps → n.Permits platform v

theorem mem_acceptedNames_iff : n ∈ acceptedNames ↔ n.isSupported = true := by
  cases n <;> decide

theorem acceptable_nil (platform : PlatformId) : Acceptable platform [] :=
  ⟨by simp, by simp, by simp [Gives], by simp⟩

/-- The order of a list does not matter. -/
theorem Acceptable.perm (h : Acceptable platform ps) (hperm : qs.Perm ps) :
    Acceptable platform qs where
  known p hp := h.known p (hperm.mem_iff.mp hp)
  once := (hperm.map _).nodup_iff.mpr h.once
  oneDisplay := by
    simp only [Gives, hperm.mem_iff]
    exact h.oneDisplay
  permitted n v hv := h.permitted n v (hperm.mem_iff.mp hv)

theorem Acceptable.length_le (h : Acceptable platform ps) : ps.length ≤ acceptedNames.length := by
  have hsub : ps.map (·.name) ⊆ acceptedNames.map Name.code := by
    intro w hw
    obtain ⟨p, hp, rfl⟩ := List.mem_map.mp hw
    obtain ⟨n, hn, hname⟩ := h.known p hp
    exact List.mem_map.mpr ⟨n, hn, hname.symm⟩
  simpa using (h.once.subperm hsub).length_le

theorem Acceptable.of_append (h : Acceptable platform (ps ++ qs)) : Acceptable platform ps where
  known p hp := h.known p (List.mem_append_left _ hp)
  once := by
    have honce := h.once
    rw [List.map_append] at honce
    exact honce.of_append_left
  oneDisplay := fun ⟨⟨v, hegl⟩, ⟨w, hglx⟩⟩ =>
    h.oneDisplay ⟨⟨v, List.mem_append_left _ hegl⟩, ⟨w, List.mem_append_left _ hglx⟩⟩
  permitted n v hv := h.permitted n v (List.mem_append_left _ hv)

/-- The pair may follow those of the list: it gives an accepted name that is new there a permitted
value, and gives no second display. -/
structure Follows (platform : PlatformId) (ps : List Property) (n : Name) (v : Word) : Prop where
  supported : n.isSupported = true
  new : ¬Gives ps n
  display : n.isDisplay = true → ∀ m, m.isDisplay = true → ¬Gives ps m
  permits : n.Permits platform v

/-- The last pair of an acceptable list may follow the others. -/
theorem Acceptable.last (h : Acceptable platform (ps ++ [p])) :
    ∃ n v, p = named n v ∧ Follows platform ps n v := by
  have hp : p ∈ ps ++ [p] := List.mem_append_right _ (List.mem_singleton_self p)
  obtain ⟨n, hn, hname⟩ := h.known p hp
  obtain ⟨v, rfl⟩ : ∃ v, p = named n v := ⟨_, eq_named_iff.mpr hname⟩
  have honce := h.once
  rw [List.map_append, List.map_singleton, List.nodup_append_comm, List.singleton_append,
    List.nodup_cons, hname, ← gives_iff_mem_map] at honce
  have hboth := h.oneDisplay
  simp only [gives_append_singleton] at hboth
  refine ⟨n, v, rfl, mem_acceptedNames_iff.mp hn, honce.1, ?_, h.permitted n v hp⟩
  intro hn m hm hgives
  rcases Name.isDisplay_iff.mp hn with rfl | rfl <;> rcases Name.isDisplay_iff.mp hm with rfl | rfl
  · exact honce.1 hgives
  · exact hboth ⟨.inr rfl, .inl hgives⟩
  · exact hboth ⟨.inl hgives, .inr rfl⟩
  · exact honce.1 hgives

/-- A pair that may follow an acceptable list makes another one with it. -/
theorem Acceptable.append_singleton (h : Acceptable platform ps) (hv : Follows platform ps n v) :
    Acceptable platform (ps ++ [named n v]) where
  known p hp := by
    rcases List.mem_append.mp hp with hp | hp
    · exact h.known p hp
    · exact ⟨n, mem_acceptedNames_iff.mpr hv.supported, by rw [List.mem_singleton.mp hp, named]⟩
  once := by
    rw [List.map_append, List.map_singleton, List.nodup_append_comm, List.singleton_append,
      List.nodup_cons]
    exact ⟨fun hmem => hv.new (gives_iff_mem_map.mpr hmem), h.once⟩
  oneDisplay := by
    simp only [gives_append_singleton]
    rintro ⟨hegl | rfl, hglx | hglx⟩
    · exact h.oneDisplay ⟨hegl, hglx⟩
    · exact hv.display (hglx ▸ rfl) _ rfl hegl
    · exact hv.display rfl _ rfl hglx
    · cases hglx
  permitted m w hw := by
    rcases List.mem_append.mp hw with hw | hw
    · exact h.permitted m w hw
    · obtain ⟨rfl, rfl⟩ := named_inj.mp (List.mem_singleton.mp hw)
      exact hv.permits

end ComputeContext.Property
