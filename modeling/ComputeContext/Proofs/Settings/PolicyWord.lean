/-
# Which texts name a failure policy

A policy is named by its word in any letter case, and letter case is that of
the Unicode standard. Both words are ASCII, so by what is known of lower case
(`Text.lowercase_eq_iff`) a text names a policy exactly if it is the policy's
word up to the case of ASCII letters once each Kelvin sign in it is written as
a k (`Svm.FailurePolicy.Spells`); both words have a k, at their end. Without
that sign the texts are those that equal the word up to the case of ASCII
letters, and a text with any other character beyond ASCII names no policy. What
a text names decides what the environment's variable does: it sets the policy
(`Settings.overlay_of_spells`), or it stops the overlay before the policy is
changed (`Settings.overlay_of_not_spells`).

Key definition: `Svm.FailurePolicy.Spells`.
Key theorems: `Svm.FailurePolicy.parse_eq_ok_iff`,
`Svm.FailurePolicy.parse_eq_error_iff`, `Settings.policy_named_in_any_case`.
-/
import ComputeContext.Proofs.Settings.Overlay
import ComputeContext.Proofs.Text.Lowercase

namespace ComputeContext

namespace Svm.FailurePolicy

variable {p : FailurePolicy} {s reason : String}

/-- With a k for each Kelvin sign, the text is the policy's word up to the case of ASCII letters. -/
def Spells (s : String) (p : FailurePolicy) : Prop := (Text.kelvinAsK s).toLower = p.text

instance (s : String) (p : FailurePolicy) : Decidable (Spells s p) :=
  inferInstanceAs (Decidable (_ = _))

theorem text_ascii (p : FailurePolicy) : ∀ c ∈ p.text.toList, c.toNat < 128 := by
  have hall : p.text.toList.all (·.toNat < 128) = true := by cases p <;> decide
  intro c hmem
  exact of_decide_eq_true (List.all_eq_true.mp hall c hmem)

theorem ofText?_eq_some_iff : ofText? s = some p ↔ s = p.text := by
  unfold ofText?
  cases p <;> split_ifs <;> simp_all [text]

theorem ofText?_lowercase : ofText? (Text.lowercase s) = some p ↔ Spells s p :=
  ofText?_eq_some_iff.trans (Text.lowercase_eq_iff p.text_ascii)

theorem ofText?_lowercase_eq_none :
    ofText? (Text.lowercase s) = none ↔ ∀ p, ¬Spells s p := by
  rw [Option.eq_none_iff_forall_ne_some]
  exact forall_congr' fun p => not_congr ofText?_lowercase

/-- A text is read as a policy exactly if it spells it. -/
theorem parse_eq_ok_iff : parse s = .ok p ↔ Spells s p := by
  rw [← ofText?_lowercase]
  simp only [parse]
  cases ofText? (Text.lowercase s) <;> simp

/-- A text is refused exactly if it spells no policy, and the refusal tells it in lower case. -/
theorem parse_eq_error_iff : parse s = .error reason ↔
    (∀ p, ¬Spells s p) ∧ reason = "unknown SVM failure policy: " ++ Text.lowercase s := by
  rw [← ofText?_lowercase_eq_none]
  simp only [parse]
  cases ofText? (Text.lowercase s) <;> simp [eq_comm]

theorem spells_text (p : FailurePolicy) : Spells p.text p := by
  cases p <;> decide +kernel

theorem spells_iff_toLower (hnone : Text.kelvinSign ∉ s.toList) :
    Spells s p ↔ s.toLower = p.text := by
  unfold Spells
  rw [Text.kelvinAsK_eq_self hnone]

theorem plain_of_spells (h : Spells s p) : ∀ c ∈ s.toList, Text.Plain c :=
  Text.plain_of_toLower_eq p.text_ascii h

end Svm.FailurePolicy

namespace Settings

open Svm.FailurePolicy (Spells)

variable {env : Environment} {s : Settings} {word : String} {policy : Svm.FailurePolicy}

/-! ### The environment's variable -/

theorem accepts_svmFailurePolicy (hword : env.text? .svmFailurePolicy = some word)
    (hspells : Spells word policy) : env.Accepts .svmFailurePolicy := by
  rintro text reason ⟨htext, hparse⟩
  obtain rfl : word = text := Option.some.inj (hword.symm.trans htext)
  exact (Svm.FailurePolicy.parse_eq_error_iff.mp hparse).1 policy hspells

theorem policy?_of_spells (hword : env.text? .svmFailurePolicy = some word)
    (hspells : Spells word policy) : env.policy? = some policy := by
  unfold Environment.policy?
  rw [hword, Option.bind_some, Svm.FailurePolicy.parse_eq_ok_iff.mpr hspells]
  rfl

/-- A text that spells a policy sets it, and is not what an overlay is refused for. -/
theorem overlay_of_spells (hword : env.text? .svmFailurePolicy = some word)
    (hspells : Spells word policy) (s : Settings) :
    (overlay env s).2.svmFailurePolicy = policy ∧
      ∀ text reason, (overlay env s).1 ≠ .error (.badOverride .svmFailurePolicy text reason) := by
  have haccepts := accepts_svmFailurePolicy hword hspells
  have hpolicy := policy?_of_spells hword hspells
  rcases overlay_cases env s with ⟨v, text, reason, hrefuses, -, hleft⟩ | ⟨-, hall⟩
  · -- Only the switch can be refused, and the policy is set before it is looked at.
    cases v with
    | glLibrary => exact absurd hrefuses (env.accepts_glLibrary _ _)
    | svmFailurePolicy => exact absurd hrefuses (haccepts _ _)
    | keepProperties =>
      rw [hleft]
      exact ⟨by simp [overlaid_only, Variable.earlier, hpolicy], by simp⟩
  · rw [hall]
    exact ⟨by simp [overlaid, hpolicy], by simp⟩

theorem overlay_of_not_spells (hword : env.text? .svmFailurePolicy = some word)
    (hspells : ∀ policy, ¬Spells word policy) (s : Settings) :
    (overlay env s).1 = .error (.badOverride .svmFailurePolicy word
        ("unknown SVM failure policy: " ++ Text.lowercase word)) ∧
      (overlay env s).2.svmFailurePolicy = s.svmFailurePolicy := by
  have hparse := Svm.FailurePolicy.parse_eq_error_iff.mpr ⟨hspells, rfl⟩
  rw [overlay_of_refused_policy ⟨hword, hparse⟩]
  exact ⟨rfl, by simp [overlaid_only]⟩

/-- **A policy is named by its word in any case of its ASCII letters, and with a Kelvin sign for the
k.** Whatever the text, it is read as a policy exactly if it spells its word in that way, and if it
spells none it is refused. So a text without that sign is read as the policy whose word it equals up
to the case of ASCII letters, a text with another character beyond ASCII is not read as any, and
each policy's own word is read as the policy. The environment's variable goes by this as well: set
to the text, it sets the policy that the text spells, and stops the overlay if there is none. -/
theorem policy_named_in_any_case (word : String) :
    (∀ policy, Svm.FailurePolicy.parse word = .ok policy ↔ Spells word policy) ∧
    (∀ reason, Svm.FailurePolicy.parse word = .error reason ↔
      (∀ policy, ¬Spells word policy) ∧
        reason = "unknown SVM failure policy: " ++ Text.lowercase word) ∧
    (Text.kelvinSign ∉ word.toList →
      ∀ policy, Svm.FailurePolicy.parse word = .ok policy ↔ word.toLower = policy.text) ∧
    (∀ c ∈ word.toList, 128 ≤ c.toNat → c ≠ Text.kelvinSign →
      ∀ policy, Svm.FailurePolicy.parse word ≠ .ok policy) ∧
    (∀ policy : Svm.FailurePolicy, Svm.FailurePolicy.parse policy.text = .ok policy) ∧
    ∀ env : Environment, env.text? .svmFailurePolicy = some word → ∀ s,
      (∀ policy, Spells word policy →
        (overlay env s).2.svmFailurePolicy = policy ∧
          ∀ text reason,
            (overlay env s).1 ≠ .error (.badOverride .svmFailurePolicy text reason)) ∧
      ((∀ policy, ¬Spells word policy) →
        (overlay env s).1 = .error (.badOverride .svmFailurePolicy word
            ("unknown SVM failure policy: " ++ Text.lowercase word)) ∧
          (overlay env s).2.svmFailurePolicy = s.svmFailurePolicy) := by
  have hread (policy : Svm.FailurePolicy) :
      Svm.FailurePolicy.parse word = .ok policy ↔ Spells word policy :=
    Svm.FailurePolicy.parse_eq_ok_iff
  refine ⟨hread, fun reason => Svm.FailurePolicy.parse_eq_error_iff, ?_, ?_, ?_, ?_⟩
  · intro hnone policy
    exact (hread policy).trans (Svm.FailurePolicy.spells_iff_toLower hnone)
  · intro c hmem hbeyond hkelvin policy hparse
    have hplain := Svm.FailurePolicy.plain_of_spells ((hread policy).mp hparse) c hmem
    rcases hplain with hascii | hsign
    · omega
    · exact hkelvin hsign
  · intro policy
    exact Svm.FailurePolicy.parse_eq_ok_iff.mpr (Svm.FailurePolicy.spells_text policy)
  · intro env hword s
    exact ⟨fun policy hspells => overlay_of_spells hword hspells s,
      fun hspells => overlay_of_not_spells hword hspells s⟩

/-- The Kelvin sign is no ASCII letter in either case, but stands for the k of the word. -/
theorem kelvin_sign_read_as_k :
    let word := "LEA\u212A"
    Svm.FailurePolicy.parse word = .ok .leak ∧
      (∀ policy : Svm.FailurePolicy, word.toLower ≠ policy.text) ∧
      ∃ c ∈ word.toList, 128 ≤ c.toNat := by
  refine ⟨by rfl, fun policy => ?_, '\u212A', by decide, by decide⟩
  cases policy <;> decide +kernel

/-- The variable sets a policy whose word ends in a Kelvin sign, though the switch is refused after
it. A k with an acute is another letter, and stops the overlay. -/
theorem kelvin_rollback_sets_policy :
    let env (word : String) := Environment.ofTexts fun
      | .glLibrary => none
      | .svmFailurePolicy => some word
      | .keepProperties => some "perhaps"
    let s : Settings := ⟨none, .leak, true⟩
    Spells "RollBac\u212A" .rollback ∧
      (overlay (env "RollBac\u212A") s).2.svmFailurePolicy = .rollback ∧
      Svm.FailurePolicy.parse "LeAk" = .ok .leak ∧
      (∀ policy, Svm.FailurePolicy.parse "lea\u1E30" ≠ .ok policy) ∧
      (overlay (env "lea\u1E30") s).1 = .error (.badOverride .svmFailurePolicy "lea\u1E30"
        "unknown SVM failure policy: lea\u1E31") := by
  intro env s
  have htext (word : String) : (env word).text? .svmFailurePolicy = some word :=
    Environment.text?_ofTexts _ _
  have hrollback : Spells "RollBac\u212A" .rollback := by decide +kernel
  have hnone : ∀ policy, ¬Spells "lea\u1E30" policy := by
    intro policy
    cases policy <;> decide +kernel
  obtain ⟨-, -, -, -, -, hset⟩ := policy_named_in_any_case "RollBac\u212A"
  obtain ⟨-, -, hplain, -, -, -⟩ := policy_named_in_any_case "LeAk"
  obtain ⟨-, -, -, hbeyond, -, hrefused⟩ := policy_named_in_any_case "lea\u1E30"
  refine ⟨hrollback, ((hset _ (htext _) s).1 _ hrollback).1, ?_, ?_, ?_⟩
  · exact (hplain (by decide) .leak).mpr (by decide +kernel)
  · exact hbeyond '\u1E30' (by decide) (by decide) (by decide)
  · exact ((hrefused _ (htext _) s).2 hnone).1

end Settings
end ComputeContext
