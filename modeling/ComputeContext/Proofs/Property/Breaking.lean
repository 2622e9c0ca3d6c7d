/-
# Where a list breaks

A refused list breaks at one place (`BreaksAt`): the pairs before it are
accepted, and with the pair that stands there they are not. There is such a
place in every refused list (`exists_breaksAt`), and only one
(`BreaksAt.unique`), since every front of an accepted list is accepted. The pair
there is refused behind accepted ones, and so the whole list is refused for it.

So a mistake further on does not show. A list with an unknown name is always
refused, and for an invalid value, unless it breaks before that name at a
graphics handle that is null (`unknown_name_refused`).

Words are looked at as pairs only after they have been read, so what makes them
unreadable comes before whatever their pairs would be refused for.

Key definitions: `Property.BreaksAt`.
Key theorems: `Property.exists_breaksAt`, `Property.BreaksAt.unique`,
`Property.BreaksAt.decides`, `Property.first_refusal_decides`,
`Property.unknown_name_refused`.
-/
import ComputeContext.Proofs.Property.Refusal

namespace ComputeContext.Property

variable {platform : PlatformId} {before after ps : List Property} {p : Property} {r : Rejection}

/-- The list breaks at the pair: it is accepted before it, and not with it. -/
structure BreaksAt (platform : PlatformId) (before : List Property) (p : Property) : Prop where
  accepted : ∃ a, negotiate platform (some before) = .ok a
  refused : ¬∃ a, negotiate platform (some (before ++ [p])) = .ok a

theorem BreaksAt.exists_refuses (h : BreaksAt platform before p) :
    ∃ r, Refuses platform before p r := by
  have hbefore : Acceptable platform before := exists_agreement_iff.mp h.accepted
  rcases follows_or_refuses platform before p with ⟨n, v, rfl, hfollows⟩ | hrefuses
  · exact absurd (exists_agreement_iff.mpr (hbefore.append_singleton hfollows)) h.refused
  · exact hrefuses

/-- A refused list breaks somewhere. -/
theorem exists_breaksAt (h : ¬∃ a, negotiate platform (some ps) = .ok a) :
    ∃ before p after, ps = before ++ p :: after ∧ BreaksAt platform before p := by
  induction ps using List.reverseRecOn with
  | nil => exact absurd (exists_agreement_iff.mpr (acceptable_nil platform)) h
  | append_singleton ps p ih =>
    by_cases haccepted : ∃ a, negotiate platform (some ps) = .ok a
    · exact ⟨ps, p, [], rfl, haccepted, h⟩
    · obtain ⟨before, q, after, rfl, hbreaks⟩ := ih haccepted
      refine ⟨before, q, after ++ [p], ?_, hbreaks⟩
      rw [List.append_assoc, List.cons_append]

theorem BreaksAt.not_accepted (h : BreaksAt platform before p) :
    ¬∃ a, negotiate platform (some (before ++ p :: after)) = .ok a := by
  intro haccepted
  have hall : Acceptable platform (before ++ [p] ++ after) := by
    rw [← List.append_cons]
    exact exists_agreement_iff.mp haccepted
  exact h.refused (exists_agreement_iff.mpr hall.of_append)

/-- A list breaks at one place only. -/
theorem BreaksAt.unique {before' after' : List Property} {p' : Property}
    (h : BreaksAt platform before p) (h' : BreaksAt platform before' p')
    (hsame : before' ++ p' :: after' = before ++ p :: after) :
    before' = before ∧ p' = p ∧ after' = after := by
  -- If one of the two broke earlier, what stands before the other would not be accepted.
  rcases List.append_eq_append_iff.mp hsame with ⟨rest, hbefore, hrest⟩ | ⟨rest, hbefore, hrest⟩
  · cases rest with
    | nil =>
      rw [List.append_nil] at hbefore
      exact ⟨hbefore.symm, List.cons.inj hrest⟩
    | cons q rest =>
      obtain ⟨rfl, -⟩ := List.cons.inj hrest
      exact absurd (hbefore ▸ h.accepted) h'.not_accepted
  · cases rest with
    | nil =>
      rw [List.append_nil] at hbefore
      obtain ⟨hp, hafter⟩ := List.cons.inj hrest
      exact ⟨hbefore, hp.symm, hafter.symm⟩
    | cons q rest =>
      obtain ⟨rfl, -⟩ := List.cons.inj hrest
      exact absurd (hbefore ▸ h'.accepted) h.not_accepted

/-- Where a list breaks decides what it is refused for, whatever follows. -/
theorem BreaksAt.decides (h : BreaksAt platform before p) :
    ∃ r, Refuses platform before p r ∧
      (∀ after, negotiate platform (some (before ++ p :: after)) = .error r) ∧
      (r.toError.status = .invalidGlSharegroupReference ↔ LacksHandle before p) ∧
      (r.toError.status = .invalidValue ↔ ¬LacksHandle before p) := by
  obtain ⟨r, hr⟩ := h.exists_refuses
  refine ⟨r, hr, negotiate_of_refuses (exists_agreement_iff.mp h.accepted) hr, ?_⟩
  rcases hr.status_eq with ⟨hlacks, hstatus⟩ | ⟨hlacks, hstatus⟩
  · rw [hstatus]
    exact ⟨iff_of_true rfl hlacks, iff_of_false nofun (not_not.mpr hlacks)⟩
  · rw [hstatus]
    exact ⟨iff_of_false nofun hlacks, iff_of_true rfl hlacks⟩

/-- **A list is refused for its first refused pair.** A refused list breaks at exactly one place,
and what the pair there is refused for behind those before it is what the list is refused for,
whatever follows. That is a sharegroup failure exactly if the pair lacks a handle, and an invalid
value otherwise. Words that cannot be read are refused for that, as an invalid value, whatever their
pairs are; others are refused for what their pairs are refused for. -/
theorem first_refusal_decides (platform : PlatformId) :
    (∀ ps, (¬∃ a, negotiate platform (some ps) = .ok a) →
      ∃ before p after, ps = before ++ p :: after ∧ BreaksAt platform before p ∧
        ∀ before' p' after', ps = before' ++ p' :: after' → BreaksAt platform before' p' →
          before' = before ∧ p' = p ∧ after' = after) ∧
    (∀ before p, BreaksAt platform before p →
      ∃ r, Refuses platform before p r ∧ negotiate platform (some (before ++ [p])) = .error r ∧
        (∀ after, negotiate platform (some (before ++ p :: after)) = .error r) ∧
        (r.toError.status = .invalidGlSharegroupReference ↔ LacksHandle before p) ∧
        (r.toError.status = .invalidValue ↔ ¬LacksHandle before p)) ∧
    (∀ words m, decode words = .error m →
      negotiateWords platform (some words) = .error m.toError ∧
        m.toError.status = .invalidValue) ∧
    (∀ words ps, decode words = .ok ps →
      negotiateWords platform (some words) =
        (negotiate platform (some ps)).mapError Rejection.toError) := by
  refine ⟨fun ps h => ?_, fun before p h => ?_, fun words m => negotiateWords_of_malformed,
    fun words ps => negotiateWords_of_decode⟩
  · obtain ⟨before, p, after, rfl, hbreaks⟩ := exists_breaksAt h
    refine ⟨before, p, after, rfl, hbreaks, ?_⟩
    intro before' p' after' hsame hbreaks'
    exact hbreaks.unique hbreaks' hsame.symm
  · obtain ⟨r, hr, hrefused, hgraphics, hvalue⟩ := h.decides
    exact ⟨r, hr, hrefused [], hrefused, hgraphics, hvalue⟩

/-- A display is given, the context behind it by a null handle: the list is refused for the context,
and neither the second display nor the unknown name behind it shows. Behind the first display a
second one that is null is refused as a second one. As words, the last name without its value, the
null context is not looked at. -/
theorem null_context_refused_first :
    let before := [named .eglDisplay 0x50]
    let after := [named .glxDisplay 0, ⟨0x7777, 5⟩]
    let words : List Word := [0x2008, 0, 0x2009]
    (∃ r, Refuses ⟨4096⟩ before (named .glContext 0) r ∧
      negotiate ⟨4096⟩ (some (before ++ named .glContext 0 :: after)) = .error r ∧
      r.toError.status = .invalidGlSharegroupReference) ∧
    (∃ r, Refuses ⟨4096⟩ before (named .glxDisplay 0) r ∧
      negotiate ⟨4096⟩ (some (before ++ after)) = .error r ∧ r.toError.status = .invalidValue) ∧
    (∃ before' p' after', before ++ after = before' ++ p' :: after' ∧
      BreaksAt ⟨4096⟩ before' p') ∧
    negotiateWords ⟨4096⟩ (some words) = .error (Malformed.missingValue 0x2009).toError ∧
    negotiateWords ⟨4096⟩ (some (words ++ [5, 0])) = .error Rejection.nullContext.toError := by
  intro before after words
  obtain ⟨hbreaks, hdecides, hmalformed, hread⟩ := first_refusal_decides ⟨4096⟩
  have haccepted : ∃ a, negotiate ⟨4096⟩ (some before) = .ok a :=
    ⟨⟨requestOf (valueOf? before), 24⟩, by decide +kernel⟩
  have hnot : ∀ ps r, negotiate ⟨4096⟩ (some ps) = .error r →
      ¬∃ a, negotiate ⟨4096⟩ (some ps) = .ok a := by
    rintro ps r hr ⟨a, ha⟩
    cases hr.symm.trans ha
  have hcontext : BreaksAt ⟨4096⟩ before (named .glContext 0) :=
    ⟨haccepted, hnot _ .nullContext (by decide +kernel)⟩
  have hdisplay : BreaksAt ⟨4096⟩ before (named .glxDisplay 0) :=
    ⟨haccepted, hnot _ (.displayConflict .glxDisplay .eglDisplay) (by decide +kernel)⟩
  have hegl : Gives before .eglDisplay := ⟨0x50, List.mem_singleton_self _⟩
  refine ⟨?_, ?_, ?_, (hmalformed words _ rfl).1, ?_⟩
  · obtain ⟨r, hr, -, hrefused, hgraphics, -⟩ := hdecides _ _ hcontext
    have hnew : ¬Gives before .glContext := by
      rw [gives_iff_mem_map]
      decide
    exact ⟨r, hr, hrefused after, hgraphics.mpr ⟨.glContext, by decide, rfl, hnew, nofun⟩⟩
  · obtain ⟨r, hr, -, hrefused, -, hvalue⟩ := hdecides _ _ hdisplay
    refine ⟨r, hr, hrefused [⟨0x7777, 5⟩], hvalue.mpr fun hlacks => ?_⟩
    obtain ⟨-, -, -, hfirst⟩ := lacksHandle_named_iff.mp hlacks
    exact hfirst rfl _ rfl hegl
  · obtain ⟨before', p', after', hsplit, hthere, -⟩ := hbreaks (before ++ after)
      (hnot _ (.displayConflict .glxDisplay .eglDisplay) (by decide +kernel))
    exact ⟨before', p', after', hsplit, hthere⟩
  · rw [hread _ [named .glContext 0, named .eglDisplay 5] rfl]
    decide +kernel

/-! ### Unknown names -/

theorem Acceptable.not_mem_of_unknown (h : Acceptable platform ps)
    (hunknown : Name.ofCode? p.name = none) : p ∉ ps := by
  intro hp
  obtain ⟨n, -, hname⟩ := h.known p hp
  exact Name.ofCode?_eq_none_iff.mp hunknown n hname

/-- **A list with an unknown name is refused.** That is for an invalid value, unless the list breaks
before the unknown name, at a graphics handle that is null. -/
theorem unknown_name_refused (platform : PlatformId) {ps : List Property} {p : Property}
    (hp : p ∈ ps) (hunknown : Name.ofCode? p.name = none) :
    ∃ r, negotiate platform (some ps) = .error r ∧
      (r.toError.status = .invalidGlSharegroupReference ↔
        ∃ before q after, ps = before ++ q :: after ∧ p ∈ after ∧ BreaksAt platform before q ∧
          LacksHandle before q) ∧
      (r.toError.status = .invalidValue ↔
        ¬∃ before q after, ps = before ++ q :: after ∧ p ∈ after ∧ BreaksAt platform before q ∧
          LacksHandle before q) := by
  have hrefused : ¬∃ a, negotiate platform (some ps) = .ok a := fun haccepted =>
    (exists_agreement_iff.mp haccepted).not_mem_of_unknown hunknown hp
  obtain ⟨before, q, after, rfl, hbreaks⟩ := exists_breaksAt hrefused
  obtain ⟨r, -, hr, hgraphics, hvalue⟩ := hbreaks.decides
  have hbefore : p ∉ before :=
    (exists_agreement_iff.mp hbreaks.accepted).not_mem_of_unknown hunknown
  have hlacks : LacksHandle before q ↔ ∃ before' q' after',
      before ++ q :: after = before' ++ q' :: after' ∧ p ∈ after' ∧ BreaksAt platform before' q' ∧
        LacksHandle before' q' := by
    constructor
    · intro hlacks
      have hq : p ≠ q := by
        rintro rfl
        obtain ⟨n, -, hname, -⟩ := hlacks
        rw [hname, named, Name.ofCode?_code] at hunknown
        cases hunknown
      rcases List.mem_append.mp hp with hmem | hmem
      · exact absurd hmem hbefore
      · exact ⟨before, q, after, rfl, List.mem_of_ne_of_mem hq hmem, hbreaks, hlacks⟩
    · rintro ⟨before', q', after', hsame, -, hbreaks', hlacks'⟩
      obtain ⟨rfl, rfl, -⟩ := hbreaks.unique hbreaks' hsame.symm
      exact hlacks'
  exact ⟨r, hr after, hgraphics.trans hlacks, hvalue.trans (not_congr hlacks)⟩

/-- The same two pairs in both orders: with the unknown name in front the list breaks there, and
with the null context in front it breaks before the unknown name. -/
theorem unknown_name_behind_null_context :
    let p : Property := ⟨0x7777, 5⟩
    let ps := [p, named .glContext 0]
    negotiate ⟨4096⟩ (some ps) = .error (.unknown 0x7777) ∧
      (¬∃ before q after, ps = before ++ q :: after ∧ p ∈ after ∧ BreaksAt ⟨4096⟩ before q ∧
        LacksHandle before q) ∧
      ∃ before q after, ps.reverse = before ++ q :: after ∧ p ∈ after ∧
        BreaksAt ⟨4096⟩ before q ∧ LacksHandle before q := by
  intro p ps
  have hp : p ∈ ps := List.mem_cons_self
  have hunknown : Name.ofCode? p.name = none := by decide
  have hfront : negotiate ⟨4096⟩ (some ps) = .error (.unknown 0x7777) := by decide +kernel
  have hback : negotiate ⟨4096⟩ (some ps.reverse) = .error .nullContext := by decide +kernel
  refine ⟨hfront, ?_, ?_⟩
  · obtain ⟨r, hr, -, hvalue⟩ := unknown_name_refused ⟨4096⟩ hp hunknown
    cases hfront.symm.trans hr
    exact hvalue.mp rfl
  · obtain ⟨r, hr, hgraphics, -⟩ :=
      unknown_name_refused ⟨4096⟩ (List.mem_reverse.mpr hp) hunknown
    cases hback.symm.trans hr
    exact hgraphics.mp rfl

/-- An unknown name behind a null context does not show: the list is refused for the context, which
is a sharegroup failure and no invalid value. -/
theorem null_context_hides_unknown_name :
    let ps : List Property := [named .glContext 0, ⟨0x7777, 5⟩]
    Name.ofCode? 0x7777 = none ∧ negotiate ⟨4096⟩ (some ps) = .error .nullContext ∧
      Rejection.nullContext.toError.status = .invalidGlSharegroupReference ∧
      Rejection.nullContext.toError.status ≠ .invalidValue := by
  decide +kernel

end ComputeContext.Property
