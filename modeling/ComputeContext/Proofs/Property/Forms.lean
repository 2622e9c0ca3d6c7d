/-
# A list and its words

A list can be negotiated as it is or written as words first. On the wire a zero
name ends a list, so the words of a list without a zero name are read as that
list again, and both ways give the same result. Of another list the words carry
just what stands before its first zero name (`negotiateWords_encode`), while the
list itself is refused there at the latest, since zero is no name
(`negotiate_of_zero_name`). So the two results part exactly if the front is
accepted (`list_and_words_agree_iff`).

Key theorems: `Property.negotiateWords_encode`, `Property.split_at_zero_name`,
`Property.negotiate_of_zero_name`, `Property.list_and_words_agree_iff`.
-/
import ComputeContext.Proofs.Property.Breaking
import ComputeContext.Proofs.Property.Wire

namespace ComputeContext.Property

variable {platform : PlatformId} {ps : List Property} {p : Property} {a : Agreement} {r : Rejection}

/-- What stands in a list before its first zero name. -/
def beforeZeroName (ps : List Property) : List Property := ps.takeWhile fun p => p.name ≠ 0

/-- The words of a list are negotiated as what stands before its first zero name. -/
theorem negotiateWords_encode (platform : PlatformId) (ps : List Property) :
    negotiateWords platform (some (encode ps)) =
      (negotiate platform (some (beforeZeroName ps))).mapError Rejection.toError :=
  negotiateWords_of_decode (decode_encode ps)

theorem beforeZeroName_eq_self (h : ∀ p ∈ ps, p.name ≠ 0) : beforeZeroName ps = ps := by
  rw [beforeZeroName, List.takeWhile_eq_self_iff]
  intro p hp
  exact decide_eq_true (h p hp)

/-- A list with a zero name goes on with one behind the front without any. -/
theorem split_at_zero_name : ∀ {ps : List Property}, (∃ p ∈ ps, p.name = 0) →
    ∃ p rest, p.name = 0 ∧ ps = beforeZeroName ps ++ p :: rest
  | [], h => by
    obtain ⟨p, hp, -⟩ := h
    cases hp
  | q :: qs, h => by
    by_cases hq : q.name = 0
    · have hfront : beforeZeroName (q :: qs) = [] := List.takeWhile_cons_of_neg (by simp [hq])
      exact ⟨q, qs, hq, by rw [hfront, List.nil_append]⟩
    · have hfront : beforeZeroName (q :: qs) = q :: beforeZeroName qs :=
        List.takeWhile_cons_of_pos (by simp [hq])
      have hqs : ∃ p ∈ qs, p.name = 0 := by
        obtain ⟨p, hp, hzero⟩ := h
        rcases List.mem_cons.mp hp with rfl | hp
        · exact absurd hzero hq
        · exact ⟨p, hp, hzero⟩
      obtain ⟨p, rest, hp, hsplit⟩ := split_at_zero_name hqs
      refine ⟨p, rest, hp, ?_⟩
      rw [hfront, List.cons_append, ← hsplit]

theorem refuses_zero_name (platform : PlatformId) (before : List Property) (h : p.name = 0) :
    Refuses platform before p (.unknown 0) := by
  rw [← h]
  apply Refuses.unknown
  intro n
  rw [h]
  cases n <;> decide

/-- A list with a zero name is refused there if what stands before is accepted. -/
theorem negotiate_of_zero_name (h : ∃ p ∈ ps, p.name = 0)
    (hfront : negotiate platform (some (beforeZeroName ps)) = .ok a) :
    negotiate platform (some ps) = .error (.unknown 0) := by
  obtain ⟨p, rest, hzero, hsplit⟩ := split_at_zero_name h
  have hacceptable : Acceptable platform (beforeZeroName ps) := exists_agreement_iff.mp ⟨a, hfront⟩
  rw [hsplit]
  exact negotiate_of_refuses hacceptable (refuses_zero_name platform _ hzero) rest

theorem negotiate_of_front_refused
    (hfront : negotiate platform (some (beforeZeroName ps)) = .error r) :
    negotiate platform (some ps) = .error r := by
  obtain ⟨rest, hsplit⟩ : beforeZeroName ps <+: ps := List.takeWhile_prefix _
  rw [← hsplit]
  exact negotiate_append_of_refused hfront rest

/-- **A list and its words give the same result unless a zero name cuts the words off.** The words
of a list are negotiated as what stands before its first zero name. The result is that of the list
itself exactly if no name of the list is zero or that front is refused. Else the words are accepted
for the front, and the list is refused for a name that is unknown. -/
theorem list_and_words_agree_iff (platform : PlatformId) (ps : List Property) :
    negotiateWords platform (some (encode ps)) =
      (negotiate platform (some (beforeZeroName ps))).mapError Rejection.toError ∧
    (negotiateWords platform (some (encode ps)) =
        (negotiate platform (some ps)).mapError Rejection.toError ↔
      (∀ p ∈ ps, p.name ≠ 0) ∨ ¬∃ a, negotiate platform (some (beforeZeroName ps)) = .ok a) ∧
    ((∃ p ∈ ps, p.name = 0) → ∀ a, negotiate platform (some (beforeZeroName ps)) = .ok a →
      negotiateWords platform (some (encode ps)) = .ok a ∧
        negotiate platform (some ps) = .error (.unknown 0)) := by
  have hwords := negotiateWords_encode platform ps
  refine ⟨hwords, ?_, ?_⟩
  · rw [hwords]
    constructor
    · intro hsame
      by_contra hnot
      rw [not_or, not_forall, not_not] at hnot
      obtain ⟨⟨p, hp⟩, a, ha⟩ := hnot
      have hzero : ∃ p ∈ ps, p.name = 0 := ⟨p, by simpa using hp⟩
      rw [ha, negotiate_of_zero_name hzero ha] at hsame
      cases hsame
    · rintro (hnames | hrefused)
      · rw [beforeZeroName_eq_self hnames]
      · cases hfront : negotiate platform (some (beforeZeroName ps)) with
        | ok a => exact absurd ⟨a, hfront⟩ hrefused
        | error r => rw [negotiate_of_front_refused hfront]
  · intro hzero a ha
    rw [hwords, ha]
    exact ⟨rfl, negotiate_of_zero_name hzero ha⟩

/-- A zero name behind a display: the words are accepted for the display, the list is refused. With
a null display in front both are refused for it, and a zero value does not part them. -/
theorem zero_name_behind_display :
    let zero : Property := ⟨0, 5⟩
    let accepted := [named .eglDisplay 0x50, zero]
    let refused := [named .eglDisplay 0, zero]
    let whole := [named .eglDisplay 0x50, named .interopUserSync 0]
    (∃ a, negotiateWords ⟨4096⟩ (some (encode accepted)) = .ok a ∧
      negotiate ⟨4096⟩ (some accepted) = .error (.unknown 0)) ∧
    negotiateWords ⟨4096⟩ (some (encode refused)) =
      (negotiate ⟨4096⟩ (some refused)).mapError Rejection.toError ∧
    negotiateWords ⟨4096⟩ (some (encode whole)) =
      (negotiate ⟨4096⟩ (some whole)).mapError Rejection.toError := by
  intro zero accepted refused whole
  obtain ⟨-, -, hparted⟩ := list_and_words_agree_iff ⟨4096⟩ accepted
  obtain ⟨-, hrefused, -⟩ := list_and_words_agree_iff ⟨4096⟩ refused
  obtain ⟨-, hwhole, -⟩ := list_and_words_agree_iff ⟨4096⟩ whole
  have hfront : negotiate ⟨4096⟩ (some (beforeZeroName accepted)) =
      .ok ⟨requestOf (valueOf? [named .eglDisplay 0x50]), 24⟩ := by decide +kernel
  have hnull : negotiate ⟨4096⟩ (some (beforeZeroName refused)) =
      .error (.nullDisplay .eglDisplay) := by decide +kernel
  refine ⟨⟨_, hparted ⟨zero, by decide, rfl⟩ _ hfront⟩, hrefused.mpr (.inr ?_),
    hwhole.mpr (.inl (by decide))⟩
  rintro ⟨a, ha⟩
  cases hnull.symm.trans ha

/-- A list that starts with a zero name is refused, and its words are accepted as an empty list. -/
theorem zero_name_parts_words_from_list :
    let ps : List Property := [⟨0, 5⟩]
    negotiate ⟨4096⟩ (some ps) = .error (.unknown 0) ∧
      negotiateWords ⟨4096⟩ (some (encode ps)) = .ok ⟨.nothing, 8⟩ ∧
      negotiateWords ⟨4096⟩ (some (encode ps)) ≠
        (negotiate ⟨4096⟩ (some ps)).mapError Rejection.toError := by
  decide +kernel

end ComputeContext.Property
