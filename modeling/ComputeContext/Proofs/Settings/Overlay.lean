/-
# What an overlay leaves behind

The environment overrides settings one after another: the library, the failure
policy, the property copy. An override that is refused stops the overlay, and
the settings at hand are then what the variables before the refused one have
made of them (`Settings.overlay_cases`). So a refused overlay does not undo
what it did: the settings are as they were only if every earlier variable is
unset or says what they said already
(`Settings.refused_overlay_keeps_earlier`). When nothing is refused the
environment's values stand in the place of those it names, and all others are
as before.

Key definitions: `Settings.overlaid`, `Settings.Environment.Refuses`,
`Settings.Variable.earlier`, `Settings.Environment.only`,
`Settings.Environment.Confirms`.
Key theorems: `Settings.overlay_cases`, `Settings.overlaid_only_eq_self_iff`,
`Settings.refused_overlay_keeps_earlier`.
-/
import ComputeContext.Settings.Basic
import Mathlib.Tactic.SplitIfs

namespace ComputeContext.Settings

namespace Environment

/-- The environment in which variables are set to texts. -/
def ofTexts (texts : Variable → Option String) : Environment := fun v =>
  (texts v).map String.toUTF8

/-- The library that the environment names. -/
def library? (env : Environment) : Option String := env.text? .glLibrary

/-- The policy that the environment names. -/
def policy? (env : Environment) : Option Svm.FailurePolicy :=
  (env.text? .svmFailurePolicy).bind fun text => (Svm.FailurePolicy.parse text).toOption

/-- What the environment says about the property copy. -/
def switch? (env : Environment) : Option Bool :=
  (env.text? .keepProperties).bind fun text => (parseSwitch text).toOption

/-- The variable is set to a text that names no value of its setting. Every text names a library. -/
def Refuses (env : Environment) (v : Variable) (text reason : String) : Prop :=
  env.text? v = some text ∧
    match v with
    | .glLibrary => False
    | .svmFailurePolicy => Svm.FailurePolicy.parse text = .error reason
    | .keepProperties => parseSwitch text = .error reason

/-- The variable is unset, or names a value of its setting. -/
def Accepts (env : Environment) (v : Variable) : Prop := ∀ text reason, ¬env.Refuses v text reason

/-- The environment in which only these variables are set. -/
def only (env : Environment) (vs : List Variable) : Environment := fun v =>
  if v ∈ vs then env v else none

/-- The variable is unset, or names no value, or names the one that its setting has. -/
def Confirms (env : Environment) (s : Settings) : Variable → Prop
  | .glLibrary => ∀ name ∈ env.library?, s.glLibrary = some name
  | .svmFailurePolicy => ∀ policy ∈ env.policy?, s.svmFailurePolicy = policy
  | .keepProperties => ∀ keep ∈ env.switch?, s.keepPropertyCopy = keep

theorem text?_ofTexts (texts : Variable → Option String) (v : Variable) :
    (ofTexts texts).text? v = texts v := by
  have hread (text : String) : String.fromUTF8? text.toUTF8 = some text :=
    dif_pos text.isValidUTF8
  unfold text? ofTexts
  cases texts v with
  | none => rfl
  | some text => exact hread text

theorem accepts_glLibrary (env : Environment) : env.Accepts .glLibrary :=
  fun _ _ h => h.2

theorem accepts_or_refuses (env : Environment) (v : Variable) :
    env.Accepts v ∨ ∃ text reason, env.Refuses v text reason := by
  by_cases h : ∃ text reason, env.Refuses v text reason
  · exact .inr h
  · exact .inl fun text reason hrefuses => h ⟨text, reason, hrefuses⟩

theorem text?_only (env : Environment) (vs : List Variable) (v : Variable) :
    (env.only vs).text? v = if v ∈ vs then env.text? v else none := by
  unfold text? only
  split_ifs <;> rfl

end Environment

/-- The variables that are looked at before this one. -/
def Variable.earlier : Variable → List Variable
  | .glLibrary => []
  | .svmFailurePolicy => [.glLibrary]
  | .keepProperties => [.glLibrary, .svmFailurePolicy]

/-- The settings with the values that the environment names in the place of those they had. -/
def overlaid (env : Environment) (s : Settings) : Settings where
  glLibrary := env.library?.or s.glLibrary
  svmFailurePolicy := env.policy?.getD s.svmFailurePolicy
  keepPropertyCopy := env.switch?.getD s.keepPropertyCopy

variable {env : Environment} {s s' : Settings} {v : Variable} {text reason : String} {fault : Fault}
  {α : Type} {read : String → Except String α} {put : α → Settings → Settings}

/-! ### One override -/

theorem overrideBy_of_refused (htext : env.text? v = some text)
    (hread : read text = .error reason) :
    (overrideBy env v read put).run.run s = (.error (.badOverride v text reason), s) := by
  unfold overrideBy
  simp only [htext, hread]
  rfl

/-- An override that is not refused puts the value that the variable names, if it is set. -/
theorem overrideBy_of_accepted
    (haccepts : ∀ text reason, env.text? v = some text → read text ≠ .error reason) :
    (overrideBy env v read put).run.run s =
      (.ok (), ((env.text? v).bind fun text => (read text).toOption).elim s (put · s)) := by
  unfold overrideBy
  cases htext : env.text? v with
  | none => rfl
  | some text =>
    cases hread : read text with
    | ok a =>
      simp only [hread, Option.bind_some]
      rfl
    | error reason => exact absurd hread (haccepts text reason htext)

theorem overrideLibrary_run (env : Environment) (s : Settings) :
    (overrideLibrary env).run.run s =
      (.ok (), { s with glLibrary := env.library?.or s.glLibrary }) := by
  refine (overrideBy_of_accepted fun _ _ _ h => ?_).trans ?_
  · cases h
  · unfold Environment.library?
    cases env.text? .glLibrary <;> rfl

theorem overridePolicy_of_accepts (haccepts : env.Accepts .svmFailurePolicy) :
    (overridePolicy env).run.run s =
      (.ok (), { s with svmFailurePolicy := env.policy?.getD s.svmFailurePolicy }) := by
  unfold overridePolicy
  rw [overrideBy_of_accepted fun text reason htext hread => haccepts text reason ⟨htext, hread⟩]
  show (_, env.policy?.elim s _) = _
  cases env.policy? <;> rfl

theorem overrideCopy_of_accepts (haccepts : env.Accepts .keepProperties) :
    (overrideCopy env).run.run s =
      (.ok (), { s with keepPropertyCopy := env.switch?.getD s.keepPropertyCopy }) := by
  unfold overrideCopy
  rw [overrideBy_of_accepted fun text reason htext hread => haccepts text reason ⟨htext, hread⟩]
  show (_, env.switch?.elim s _) = _
  cases env.switch? <;> rfl

/-! ### One override after another -/

theorem run_bind_of_ok {m : Override} {f : Unit → Override} (h : m.run.run s = (.ok (), s')) :
    (m >>= f).run.run s = (f ()).run.run s' := by
  rw [ExceptT.run_bind, StateT.run_bind, h]
  rfl

theorem run_bind_of_error {m : Override} {f : Unit → Override}
    (h : m.run.run s = (.error fault, s')) : (m >>= f).run.run s = (.error fault, s') := by
  rw [ExceptT.run_bind, StateT.run_bind, h]
  rfl

theorem overlaid_only (env : Environment) (vs : List Variable) (s : Settings) :
    s.overlaid (env.only vs) =
      { glLibrary := if .glLibrary ∈ vs then env.library?.or s.glLibrary else s.glLibrary
        svmFailurePolicy :=
          if .svmFailurePolicy ∈ vs then env.policy?.getD s.svmFailurePolicy else s.svmFailurePolicy
        keepPropertyCopy :=
          if .keepProperties ∈ vs then env.switch?.getD s.keepPropertyCopy
          else s.keepPropertyCopy } := by
  unfold overlaid Environment.library? Environment.policy? Environment.switch?
  simp only [Environment.text?_only]
  split_ifs <;> rfl

/-- The library is always overridden first. -/
theorem overlay_eq (env : Environment) (s : Settings) :
    overlay env s = (overridePolicy env >>= fun _ => overrideCopy env).run.run
      { s with glLibrary := env.library?.or s.glLibrary } :=
  run_bind_of_ok (overrideLibrary_run env s)

theorem overlay_of_refused_policy (hrefuses : env.Refuses .svmFailurePolicy text reason) :
    overlay env s = (.error (.badOverride .svmFailurePolicy text reason),
      s.overlaid (env.only [.glLibrary])) := by
  rw [overlay_eq, overlaid_only]
  exact run_bind_of_error (overrideBy_of_refused hrefuses.1 hrefuses.2)

theorem overlay_of_refused_switch (hpolicy : env.Accepts .svmFailurePolicy)
    (hrefuses : env.Refuses .keepProperties text reason) :
    overlay env s = (.error (.badOverride .keepProperties text reason),
      s.overlaid (env.only [.glLibrary, .svmFailurePolicy])) := by
  rw [overlay_eq, run_bind_of_ok (overridePolicy_of_accepts hpolicy), overlaid_only]
  exact overrideBy_of_refused hrefuses.1 hrefuses.2

theorem overlay_of_accepted (hpolicy : env.Accepts .svmFailurePolicy)
    (hswitch : env.Accepts .keepProperties) : overlay env s = (.ok (), s.overlaid env) := by
  rw [overlay_eq, run_bind_of_ok (overridePolicy_of_accepts hpolicy)]
  exact overrideCopy_of_accepts hswitch

/-- An overlay is refused at the first variable that has to be, after what the earlier ones have
changed, or every variable is accepted and the environment's values stand. -/
theorem overlay_cases (env : Environment) (s : Settings) :
    (∃ v text reason, env.Refuses v text reason ∧ (∀ u ∈ v.earlier, env.Accepts u) ∧
      overlay env s = (.error (.badOverride v text reason), s.overlaid (env.only v.earlier))) ∨
    (∀ v, env.Accepts v) ∧ overlay env s = (.ok (), s.overlaid env) := by
  have hlibrary := env.accepts_glLibrary
  rcases env.accepts_or_refuses .svmFailurePolicy with hpolicy | ⟨text, reason, hrefuses⟩
  · rcases env.accepts_or_refuses .keepProperties with hswitch | ⟨text, reason, hrefuses⟩
    · refine .inr ⟨fun v => ?_, overlay_of_accepted hpolicy hswitch⟩
      cases v <;> assumption
    · refine .inl ⟨.keepProperties, text, reason, hrefuses, ?_,
        overlay_of_refused_switch hpolicy hrefuses⟩
      simp [Variable.earlier, hlibrary, hpolicy]
  · refine .inl ⟨.svmFailurePolicy, text, reason, hrefuses, ?_,
      overlay_of_refused_policy hrefuses⟩
    simp [Variable.earlier, hlibrary]

/-! ### What a refused overlay leaves -/

theorem or_eq_self_iff (o x : Option α) : o.or x = x ↔ ∀ a ∈ o, x = some a := by
  cases o <;> simp [eq_comm]

theorem getD_eq_self_iff (o : Option α) (x : α) : o.getD x = x ↔ ∀ a ∈ o, x = a := by
  cases o <;> simp [eq_comm]

/-- Variables change nothing exactly if each confirms what its setting was. -/
theorem overlaid_only_eq_self_iff (env : Environment) (vs : List Variable) (s : Settings) :
    s.overlaid (env.only vs) = s ↔ ∀ u ∈ vs, env.Confirms s u := by
  have hfields : s.overlaid (env.only vs) = s ↔
      (.glLibrary ∈ vs → env.Confirms s .glLibrary) ∧
      (.svmFailurePolicy ∈ vs → env.Confirms s .svmFailurePolicy) ∧
      (.keepProperties ∈ vs → env.Confirms s .keepProperties) := by
    rw [overlaid_only, Settings.mk.injEq, ite_eq_right_iff, ite_eq_right_iff, ite_eq_right_iff,
      or_eq_self_iff, getD_eq_self_iff, getD_eq_self_iff]
    rfl
  rw [hfields]
  constructor
  · rintro ⟨hlibrary, hpolicy, hcopy⟩ u hu
    cases u with
    | glLibrary => exact hlibrary hu
    | svmFailurePolicy => exact hpolicy hu
    | keepProperties => exact hcopy hu
  · exact fun h => ⟨h _, h _, h _⟩

/-- **A refused overlay keeps what earlier variables have changed.** Whatever the settings and the
environment, an overlay that is refused is so for a variable that is set to a text which names no
value of its setting, with all variables before it accepted. The settings it leaves are those of an
environment in which only the variables before it are set. So they are the settings it found exactly
if each of these variables is unset or names what its setting was; whether a copy of the property
list is kept is never changed. -/
theorem refused_overlay_keeps_earlier (env : Environment) (s : Settings) {fault : Fault}
    (hrefused : (overlay env s).1 = .error fault) :
    ∃ v text reason, fault = .badOverride v text reason ∧ env.Refuses v text reason ∧
      (∀ u ∈ v.earlier, env.Accepts u) ∧
      (overlay env s).2 = s.overlaid (env.only v.earlier) ∧
      (overlay env s).2.keepPropertyCopy = s.keepPropertyCopy ∧
      ((overlay env s).2 = s ↔ ∀ u ∈ v.earlier, env.Confirms s u) := by
  rcases overlay_cases env s with ⟨v, text, reason, hrefuses, haccepts, hleft⟩ | ⟨-, hall⟩
  · rw [hleft] at hrefused ⊢
    have hfault : fault = .badOverride v text reason := (Except.error.inj hrefused).symm
    refine ⟨v, text, reason, hfault, hrefuses, haccepts, rfl, ?_, ?_⟩
    · have hlast : .keepProperties ∉ v.earlier := by cases v <;> simp [Variable.earlier]
      simp [overlaid_only, hlast]
    · exact overlaid_only_eq_self_iff env v.earlier s
  · rw [hall] at hrefused
    cases hrefused

/-- The library is named anew, then the policy is refused: the new library stays. -/
theorem refused_policy_leaves_library :
    let env := Environment.ofTexts fun
      | .glLibrary => some "libX.so"
      | .svmFailurePolicy => some "sometimes"
      | .keepProperties => some "no"
    (overlay env .standard).1 = .error (.badOverride .svmFailurePolicy "sometimes"
      "unknown SVM failure policy: sometimes") ∧
    (overlay env .standard).2 = { Settings.standard with glLibrary := some "libX.so" } ∧
    (overlay env .standard).2 ≠ .standard := by
  intro env
  have hleft : (overlay env .standard).2 = ⟨some "libX.so", .rollback, true⟩ := by rfl
  refine ⟨by rfl, hleft, ?_⟩
  rw [hleft]
  decide

/-- The library is named as it was and the policy is unset when the switch is refused, so nothing
has changed. -/
theorem refused_switch_leaves_all :
    let env := Environment.ofTexts fun
      | .glLibrary => some "libX.so"
      | .svmFailurePolicy => none
      | .keepProperties => some "perhaps"
    let s : Settings := ⟨some "libX.so", .leak, true⟩
    (overlay env s).1 = .error (.badOverride .keepProperties "perhaps" "expected a boolean") ∧
      (overlay env s).2 = s := by
  intro env s
  have hrefused : (overlay env s).1 =
      .error (.badOverride .keepProperties "perhaps" "expected a boolean") := by rfl
  obtain ⟨v, text, reason, hfault, -, -, -, -, hsame⟩ := refused_overlay_keeps_earlier env s hrefused
  obtain rfl : v = .keepProperties := by cases hfault; rfl
  refine ⟨hrefused, hsame.mpr fun u hu => ?_⟩
  simp only [Variable.earlier, List.mem_cons, List.not_mem_nil, or_false] at hu
  rcases hu with rfl | rfl
  · intro name hname
    rw [Environment.library?, Environment.text?_ofTexts] at hname
    exact hname
  · intro policy hpolicy
    rw [Environment.policy?, Environment.text?_ofTexts] at hpolicy
    cases hpolicy

end ComputeContext.Settings
