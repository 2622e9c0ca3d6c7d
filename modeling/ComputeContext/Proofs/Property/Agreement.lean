/-
# What an agreement says about its list

The agreement of an accepted list is what the values of the list ask for
(`Property.negotiate_eq_ok_iff`). So each part of it can be read back as
something about the pairs (`Property.Describes`): a flag as a pair that stands
there, a handle as the value of a pair, the sizes as their number. Two lists
with the same pairs have one agreement, since no pair stands twice.

A flag that has a slot is set exactly if the slot is filled. For the graphics
slot both come down to a display or a context in the list, whose handle is not
null; the slots of Direct3D are never filled.

Key definitions: `Property.Describes`.
Key theorems: `Property.isConsistent_requestOf`, `Property.negotiateWords_eq_ok_iff`,
`Property.agreement_describes_list`.
-/
import ComputeContext.Proofs.Property.Draft

namespace ComputeContext

namespace Interop

namespace Flags

variable (graphics egl offline userSync : Bool)

@[simp] theorem contains_ofFeatures_glDevice :
    (ofFeatures graphics egl offline userSync).contains glDevice = graphics := by
  cases graphics <;> cases egl <;> cases offline <;> cases userSync <;> rfl

@[simp] theorem contains_ofFeatures_eglDevice :
    (ofFeatures graphics egl offline userSync).contains eglDevice = egl := by
  cases graphics <;> cases egl <;> cases offline <;> cases userSync <;> rfl

@[simp] theorem contains_ofFeatures_offlineDevices :
    (ofFeatures graphics egl offline userSync).contains offlineDevices = offline := by
  cases graphics <;> cases egl <;> cases offline <;> cases userSync <;> rfl

@[simp] theorem contains_ofFeatures_interopUserSync :
    (ofFeatures graphics egl offline userSync).contains interopUserSync = userSync := by
  cases graphics <;> cases egl <;> cases offline <;> cases userSync <;> rfl

theorem ofFeatures_contains :
    (ofFeatures true true true true).contains (ofFeatures graphics egl offline userSync) = true := by
  cases graphics <;> cases egl <;> cases offline <;> cases userSync <;> rfl

theorem contains_ofFeatures_slot {slot : Slot} (h : slot ≠ .gl) :
    (ofFeatures graphics egl offline userSync).contains slot.flag = false := by
  cases slot <;> first
    | exact absurd rfl h
    | cases graphics <;> cases egl <;> cases offline <;> cases userSync <;> rfl

/-- The only adapter that features ask for is the graphics one. -/
theorem intersects_ofFeatures_adapters :
    (ofFeatures graphics egl offline userSync).intersects adapters = graphics := by
  cases graphics <;> cases egl <;> cases offline <;> cases userSync <;> rfl

end Flags

theorem HandleTable.get_set_empty {slot : Slot} (h : slot ≠ .gl) (handle : Handle) :
    (HandleTable.empty.set .gl handle).get slot = .null := by
  rw [HandleTable.get_set, if_neg h]
  cases slot <;> rfl

end Interop

namespace Property

variable {platform : PlatformId} {ps qs : List Property} {v : Word} {value : Name → Option Word}

/-- The handle of values that are never zero is null exactly if there is none. -/
theorem isNull_handleOf {v? : Option Word} (h : ∀ v, v? = some v → v ≠ 0) :
    (handleOf v?).isNull = v?.isNone := by
  cases v? with
  | none => rfl
  | some v => exact Bool.eq_false_iff.mpr fun hnull => h v rfl (isNull_ofWord.mp hnull)

theorem isConsistent_requestOf (hdisplay : ∀ v, displayOf? value = some v → v ≠ 0)
    (hcontext : ∀ v, value .glContext = some v → v ≠ 0) :
    (requestOf value).isConsistent = true := by
  rw [Interop.Request.isConsistent, List.all_eq_true]
  intro slot _
  rw [beq_iff_eq, Interop.Request.isFilled]
  by_cases hslot : slot = .gl
  · subst hslot
    simp only [requestOf, Interop.HandleTable.get_set, ↓reduceIte, isNull_handleOf hdisplay,
      isNull_handleOf hcontext, Interop.Slot.flag, Interop.Flags.contains_ofFeatures_glDevice]
    cases displayOf? value <;> cases value .glContext <;> rfl
  · simp only [requestOf, Interop.HandleTable.get_set_empty hslot,
      Interop.Flags.contains_ofFeatures_slot _ _ _ _ hslot, beq_eq_false_iff_ne.mpr hslot]
    rfl

/-! ### The display of a list -/

theorem Acceptable.displayOf?_eq_some_iff (h : Acceptable platform ps) :
    displayOf? (valueOf? ps) = some v ↔ ∃ n, n.isDisplay = true ∧ named n v ∈ ps := by
  simp only [displayOf?, Name.isDisplay_iff, or_and_right, exists_or, exists_eq_left,
    ← valueOf?_eq_some_iff h.once]
  cases hegl : valueOf? ps .eglDisplay with
  | none => simp
  | some w =>
    -- Beside one display the other has no value.
    have hglx : valueOf? ps .glxDisplay = none :=
      valueOf?_eq_none_iff.mpr fun hglx =>
        h.oneDisplay ⟨isSome_valueOf?_iff.mp (by rw [hegl]; rfl), hglx⟩
    simp [hglx]

theorem isSome_displayOf?_iff :
    (displayOf? (valueOf? ps)).isSome = true ↔ Gives ps .eglDisplay ∨ Gives ps .glxDisplay := by
  rw [displayOf?, ← isSome_valueOf?_iff, ← isSome_valueOf?_iff]
  cases valueOf? ps .eglDisplay <;> simp

theorem displayOf?_eq_none_iff :
    displayOf? (valueOf? ps) = none ↔ ∀ n, n.isDisplay = true → ¬Gives ps n := by
  simp [displayOf?, Name.isDisplay_iff, ← valueOf?_eq_none_iff]

theorem Acceptable.isConsistent (h : Acceptable platform ps) :
    (requestOf (valueOf? ps)).isConsistent = true := by
  apply isConsistent_requestOf
  · intro v hv
    obtain ⟨n, hn, hmem⟩ := h.displayOf?_eq_some_iff.mp hv
    rcases Name.isDisplay_iff.mp hn with rfl | rfl
    · exact h.permitted _ _ hmem
    · exact h.permitted _ _ hmem
  · intro v hv
    exact h.permitted _ _ ((valueOf?_eq_some_iff h.once).mp hv)

/-! ### What is agreed on -/

/-- The agreement says what the list gives, and nothing else. -/
structure Describes (a : Agreement) (ps : List Property) : Prop where
  glDevice : a.flags.contains Interop.Flags.glDevice = true ↔
    Gives ps .glContext ∨ Gives ps .eglDisplay ∨ Gives ps .glxDisplay
  eglDevice : a.flags.contains Interop.Flags.eglDevice = true ↔ Gives ps .eglDisplay
  offlineDevices : a.flags.contains Interop.Flags.offlineDevices = true ↔ Gives ps .offlineDevices
  interopUserSync : a.flags.contains Interop.Flags.interopUserSync = true ↔
    named .interopUserSync trueToken ∈ ps
  noOther : (Interop.Flags.glDevice ∪ Interop.Flags.eglDevice ∪ Interop.Flags.offlineDevices ∪
    Interop.Flags.interopUserSync).contains a.flags = true
  display : ∀ n v, n.isDisplay = true → named n v ∈ ps → a.handles.get .gl = .ofWord v
  noDisplay : (∀ n, n.isDisplay = true → ¬Gives ps n) → a.handles.get .gl = .null
  glContext : ∀ v, named .glContext v ∈ ps → a.glContext = .ofWord v
  noContext : ¬Gives ps .glContext → a.glContext = .null
  direct3D : ∀ slot ≠ .gl, a.handles.get slot = .null
  listBytes : a.listBytes.toNat = 16 * ps.length + 8
  listWords : a.listWords = 2 * ps.length + 1

theorem Acceptable.toNat_byteSize (h : Acceptable platform ps) :
    (UInt64.ofNat (byteSize ps)).toNat = 16 * ps.length + 8 := by
  have hlength : ps.length ≤ 6 := h.length_le
  have hsize : byteSize ps = 16 * ps.length + 8 := by
    rw [byteSize, pairBytes, terminatorBytes, wordBytes]
    omega
  rw [hsize, UInt64.toNat_ofNat', Nat.mod_eq_of_lt (by omega)]

theorem Acceptable.describes (h : Acceptable platform ps) :
    Describes ⟨requestOf (valueOf? ps), UInt64.ofNat (byteSize ps)⟩ ps where
  glDevice := by
    simp only [requestOf, Interop.Flags.contains_ofFeatures_glDevice, Bool.or_eq_true,
      isSome_displayOf?_iff, isSome_valueOf?_iff]
  eglDevice := by
    simp only [requestOf, Interop.Flags.contains_ofFeatures_eglDevice, isSome_valueOf?_iff]
  offlineDevices := by
    simp only [requestOf, Interop.Flags.contains_ofFeatures_offlineDevices, isSome_valueOf?_iff]
  interopUserSync := by
    simp only [requestOf, Interop.Flags.contains_ofFeatures_interopUserSync, decide_eq_true_eq,
      valueOf?_eq_some_iff h.once]
  noOther := Interop.Flags.ofFeatures_contains _ _ _ _
  display n v hn hv := by
    have hdisplay := h.displayOf?_eq_some_iff.mpr ⟨n, hn, hv⟩
    simp only [requestOf, Interop.HandleTable.get_set, ↓reduceIte, hdisplay]
    rfl
  noDisplay hnone := by
    simp only [requestOf, Interop.HandleTable.get_set, ↓reduceIte,
      displayOf?_eq_none_iff.mpr hnone]
    rfl
  glContext v hv := by
    simp only [requestOf, (valueOf?_eq_some_iff h.once).mpr hv]
    rfl
  noContext hnone := by
    simp only [requestOf, valueOf?_eq_none_iff.mpr hnone]
    rfl
  direct3D slot hslot := Interop.HandleTable.get_set_empty hslot _
  listBytes := h.toNat_byteSize
  listWords := by
    rw [Agreement.listWords, h.toNat_byteSize, wordBytes]
    omega

theorem Acceptable.perm_of_mem_iff {platform' : PlatformId} (hps : Acceptable platform ps)
    (hqs : Acceptable platform' qs) (h : ∀ p, p ∈ ps ↔ p ∈ qs) : ps.Perm qs :=
  (List.perm_ext_iff_of_nodup (.of_map _ hps.once) (.of_map _ hqs.once)).mpr h

theorem mapError_eq_ok_iff {ε ε' α : Type} {x : Except ε α} {f : ε → ε'} {a : α} :
    x.mapError f = .ok a ↔ x = .ok a := by
  cases x <;> simp [Except.mapError]

/-- Unreadable words are refused for what makes them unreadable, and that is an invalid value. -/
theorem negotiateWords_of_malformed {words : List Word} {m : Malformed}
    (h : decode words = .error m) :
    negotiateWords platform (some words) = .error m.toError ∧ m.toError.status = .invalidValue := by
  constructor
  · rw [negotiateWords, h]
    rfl
  · rfl

/-- Readable words are negotiated as the list that they are read as, and refused in the words of its
refusal. -/
theorem negotiateWords_of_decode {words : List Word} (h : decode words = .ok ps) :
    negotiateWords platform (some words) =
      (negotiate platform (some ps)).mapError Rejection.toError := by
  rw [negotiateWords, h]
  rfl

/-- Words are accepted as the list that they are read as. -/
theorem negotiateWords_eq_ok_iff {words : List Word} {a : Agreement} :
    negotiateWords platform (some words) = .ok a ↔
      ∃ ps, decode words = .ok ps ∧ negotiate platform (some ps) = .ok a := by
  cases hread : decode words with
  | error m =>
    rw [(negotiateWords_of_malformed hread).1]
    exact ⟨nofun, nofun⟩
  | ok ps =>
    rw [negotiateWords_of_decode hread, mapError_eq_ok_iff]
    simp only [Except.ok.injEq, exists_eq_left']

theorem isConsistent_nothing : Agreement.nothing.isConsistent = true := by
  decide

theorem isConsistent_of_negotiate {list? : Option (List Property)} {a : Agreement}
    (h : negotiate platform list? = .ok a) : a.isConsistent = true := by
  cases list? with
  | none =>
    cases h
    exact isConsistent_nothing
  | some ps =>
    obtain ⟨hacceptable, rfl⟩ := negotiate_eq_ok_iff.mp h
    exact hacceptable.isConsistent

theorem isConsistent_of_negotiateWords {words? : Option (List Word)} {a : Agreement}
    (h : negotiateWords platform words? = .ok a) : a.isConsistent = true := by
  cases words? with
  | none =>
    cases h
    exact isConsistent_nothing
  | some words =>
    obtain ⟨ps, -, hps⟩ := negotiateWords_eq_ok_iff.mp h
    exact isConsistent_of_negotiate hps

/-- Under an agreement devices are bound for graphics, if at all. -/
theorem wantsBinding_of_negotiateWords {words : List Word} {a : Agreement}
    (h : negotiateWords platform (some words) = .ok a) :
    a.wantsBinding = a.flags.contains Interop.Flags.glDevice := by
  obtain ⟨ps, -, hps⟩ := negotiateWords_eq_ok_iff.mp h
  obtain ⟨-, rfl⟩ := negotiate_eq_ok_iff.mp hps
  rw [Interop.Request.wantsBinding]
  simp only [requestOf, Interop.Flags.intersects_ofFeatures_adapters,
    Interop.Flags.contains_ofFeatures_glDevice]

/-- **An agreement describes its list.** What is agreed on for an accepted list is determined by the
set of its pairs: each flag, handle and size can be read off them, no further flag is set and no
further handle given, and the words counted are those the list has on the wire. So whatever is
agreed on, for properties, for words or without a list, each slot's flag is set exactly if the slot
is filled. -/
theorem agreement_describes_list (platform : PlatformId) :
    (∀ ps a, negotiate platform (some ps) = .ok a →
      Describes a ps ∧ a.listWords = (encode ps).length) ∧
    (∀ ps qs a a', negotiate platform (some ps) = .ok a → negotiate platform (some qs) = .ok a' →
      (∀ p, p ∈ ps ↔ p ∈ qs) → a = a') ∧
    (∀ list? a, negotiate platform list? = .ok a → a.isConsistent = true) ∧
    (∀ words? a, negotiateWords platform words? = .ok a → a.isConsistent = true) := by
  refine ⟨?_, ?_, fun _ _ => isConsistent_of_negotiate, fun _ _ => isConsistent_of_negotiateWords⟩
  · intro ps a h
    obtain ⟨hacceptable, rfl⟩ := negotiate_eq_ok_iff.mp h
    have hdescribes := hacceptable.describes
    exact ⟨hdescribes, by rw [hdescribes.listWords, length_encode]⟩
  · intro ps qs a a' hps hqs hsame
    obtain ⟨hp, rfl⟩ := negotiate_eq_ok_iff.mp hps
    obtain ⟨hq, rfl⟩ := negotiate_eq_ok_iff.mp hqs
    have hperm : ps.Perm qs := hp.perm_of_mem_iff hq hsame
    rw [hq.valueOf?_perm hperm, byteSize, byteSize, hperm.length_eq]

/-- An EGL display, a context and a synchronisation that is not asked for: two flags are set, one
slot is filled, and as words the list agrees on the same. -/
theorem egl_list_described :
    let ps := [named .eglDisplay 0x50, named .interopUserSync 0, named .glContext 0x70]
    ∃ a, negotiate ⟨4096⟩ (some ps) = .ok a ∧ a.flags = .ofFeatures true true false false ∧
      a.handles.get .gl = ⟨0x50⟩ ∧ a.glContext = ⟨0x70⟩ ∧ a.listWords = 7 ∧
      negotiate ⟨4096⟩ (some ps.reverse) = .ok a ∧ a.isConsistent = true ∧
      ∃ a', negotiateWords ⟨4096⟩ (some (encode ps)) = .ok a' ∧ a'.isConsistent = true := by
  intro ps
  obtain ⟨hdescribes, hsame, hproperties, hwords⟩ := agreement_describes_list ⟨4096⟩
  have hps : negotiate ⟨4096⟩ (some ps) = .ok ⟨requestOf (valueOf? ps), 56⟩ := by decide +kernel
  have hreverse : negotiate ⟨4096⟩ (some ps.reverse) =
      .ok ⟨requestOf (valueOf? ps.reverse), 56⟩ := by decide +kernel
  have hencoded : negotiateWords ⟨4096⟩ (some (encode ps)) =
      .ok ⟨requestOf (valueOf? ps), 56⟩ := by decide +kernel
  obtain ⟨hpairs, -⟩ := hdescribes ps _ hps
  have hagree := hsame ps ps.reverse _ _ hps hreverse fun p => List.mem_reverse.symm
  refine ⟨_, hps, by decide +kernel, ?_, ?_, hpairs.listWords, hagree ▸ hreverse,
    hproperties _ _ hps, _, hencoded, hwords _ _ hencoded⟩
  · exact hpairs.display .eglDisplay 0x50 rfl (by decide)
  · exact hpairs.glContext 0x70 (by decide)

end Property
end ComputeContext
