/-
# Settings in layers

Settings come from three sources: the standard ones, a text that a reader
makes settings of, and the environment, each in the place of the one before
it. What comes of them is one of five things, looked for in this order
(`Settings.Layered`): the reader finds nothing, the policy's variable is
refused, the switch's variable is refused, the library that results is blank,
or the settings stand. Nothing is asked of the reader; what one that finds the
standard settings in the empty text makes of it is what the environment alone
gives.

Key definition: `Settings.Layered`.
Key theorems: `Settings.ofTextBy_eq_iff`, `Settings.validate_of_layered`,
`Settings.sources_layered`.
-/
import ComputeContext.Proofs.Settings.Overlay
import ComputeContext.Settings.File

namespace ComputeContext.Settings

/-- The environment in which a variable is unset. -/
def Environment.unset (env : Environment) (v : Variable) : Environment := fun u =>
  if u = v then none else env u

/-- What comes of the settings that were read, if any were, under an environment. -/
inductive Layered (env : Environment) : Option Settings → Except Fault Settings → Prop
  | malformed : Layered env none (.error .malformed)
  | badPolicy {file : Settings} {text reason : String} :
      env.Refuses .svmFailurePolicy text reason →
      Layered env (some file) (.error (.badOverride .svmFailurePolicy text reason))
  | badSwitch {file : Settings} {text reason : String} :
      env.Accepts .svmFailurePolicy → env.Refuses .keepProperties text reason →
      Layered env (some file) (.error (.badOverride .keepProperties text reason))
  | blankLibrary {file : Settings} {name : String} :
      env.Accepts .svmFailurePolicy → env.Accepts .keepProperties →
      (file.overlaid env).glLibrary = some name → Text.isBlank name = true →
      Layered env (some file) (.error (.invalid "gl_library must not be empty"))
  | settled {file : Settings} :
      env.Accepts .svmFailurePolicy → env.Accepts .keepProperties →
      (∀ name ∈ (file.overlaid env).glLibrary, Text.isBlank name = false) →
      Layered env (some file) (.ok (file.overlaid env))

variable {env : Environment} {file s : Settings} {found : Option Settings}
  {outcome : Except Fault Settings} {name text reason : String} {read : String → Option Settings}

/-! ### The check at the end -/

theorem validate_of_blank (hname : s.glLibrary = some name) (hblank : Text.isBlank name = true) :
    s.validate = .error (.invalid "gl_library must not be empty") := by
  unfold validate
  rw [hname, Option.any_some, if_pos hblank]

theorem validate_eq_ok_iff :
    s.validate = .ok () ↔ ∀ name ∈ s.glLibrary, Text.isBlank name = false := by
  unfold validate
  cases s.glLibrary with
  | none => simp
  | some name => cases hblank : Text.isBlank name <;> simp [hblank]

/-! ### What comes of settings under an environment -/

theorem finish_of_refused {left : Settings} {fault : Fault}
    (h : overlay env s = (.error fault, left)) : finish env s = .error fault := by
  unfold finish
  rw [h]

theorem finish_of_accepted (hpolicy : env.Accepts .svmFailurePolicy)
    (hswitch : env.Accepts .keepProperties) :
    finish env s = (validate (s.overlaid env)).map fun _ => s.overlaid env := by
  unfold finish
  rw [overlay_of_accepted hpolicy hswitch]

/-- Each source of a fault is looked for in the order of the layers. -/
theorem layered_finish (env : Environment) (file : Settings) :
    Layered env (some file) (finish env file) := by
  rcases env.accepts_or_refuses .svmFailurePolicy with hpolicy | ⟨text, reason, hrefuses⟩
  · rcases env.accepts_or_refuses .keepProperties with hswitch | ⟨text, reason, hrefuses⟩
    · rw [finish_of_accepted hpolicy hswitch]
      by_cases hnames : ∃ name ∈ (file.overlaid env).glLibrary, Text.isBlank name = true
      · obtain ⟨name, hname, hblank⟩ := hnames
        rw [validate_of_blank hname hblank]
        exact .blankLibrary hpolicy hswitch hname hblank
      · have hvalid : ∀ name ∈ (file.overlaid env).glLibrary, Text.isBlank name = false :=
          fun name hname => Bool.eq_false_iff.mpr fun hblank => hnames ⟨name, hname, hblank⟩
        rw [validate_eq_ok_iff.mpr hvalid]
        exact .settled hpolicy hswitch hvalid
    · rw [finish_of_refused (overlay_of_refused_switch hpolicy hrefuses)]
      exact .badSwitch hpolicy hrefuses
  · rw [finish_of_refused (overlay_of_refused_policy hrefuses)]
    exact .badPolicy hrefuses

theorem eq_finish_of_layered (h : Layered env (some file) outcome) : outcome = finish env file := by
  cases h with
  | badPolicy hrefuses =>
    rw [finish_of_refused (overlay_of_refused_policy hrefuses)]
  | badSwitch hpolicy hrefuses =>
    rw [finish_of_refused (overlay_of_refused_switch hpolicy hrefuses)]
  | blankLibrary hpolicy hswitch hname hblank =>
    rw [finish_of_accepted hpolicy hswitch, validate_of_blank hname hblank]
    rfl
  | settled hpolicy hswitch hnames =>
    rw [finish_of_accepted hpolicy hswitch, validate_eq_ok_iff.mpr hnames]
    rfl

/-- What comes of a text is what comes of the settings that the reader finds in it. -/
theorem ofTextBy_eq_iff (read : String → Option Settings) (env : Environment) (text : String)
    (outcome : Except Fault Settings) :
    ofTextBy read env text = outcome ↔ Layered env (read text) outcome := by
  unfold ofTextBy
  cases read text with
  | none =>
    constructor
    · rintro rfl
      exact .malformed
    · intro h
      cases h
      rfl
  | some file =>
    constructor
    · rintro rfl
      exact layered_finish env file
    · exact fun h => (eq_finish_of_layered h).symm

/-- Settings that stand are valid. -/
theorem validate_of_layered (h : Layered env found (.ok s)) : s.validate = .ok () := by
  cases h with
  | settled _ _ hnames => exact validate_eq_ok_iff.mpr hnames

theorem ofEnvironment_eq (env : Environment) (read : String → Option Settings)
    (hempty : read "" = some .standard) : ofEnvironment env = ofTextBy read env "" := by
  unfold ofEnvironment ofTextBy
  rw [hempty]

theorem exists_text_of_ofFileBy {contents : Except ReadFault ByteArray}
    (h : ofFileBy read env contents = .ok s) : ∃ text, ofTextBy read env text = .ok s := by
  unfold ofFileBy at h
  split at h
  · cases h
  · split at h
    · cases h
    · exact ⟨_, h⟩

theorem finish_congr {env' : Environment} (h : env.text? = env'.text?) (s : Settings) :
    finish env s = finish env' s := by
  unfold finish overlay applyOverrides overrideLibrary overridePolicy overrideCopy overrideBy
  rw [h]

theorem text?_unset {v : Variable} (hnone : env.text? v = none) :
    (env.unset v).text? = env.text? := by
  funext u
  by_cases hu : u = v
  · subst hu
    rw [hnone]
    unfold Environment.text? Environment.unset
    rw [if_pos rfl, Option.bind_none]
  · unfold Environment.text? Environment.unset
    rw [if_neg hu]

theorem finish_unset {v : Variable} {bytes : ByteArray} (hset : env v = some bytes)
    (hbytes : ¬bytes.IsValidUTF8) (s : Settings) : finish (env.unset v) s = finish env s := by
  have hnone : env.text? v = none := by
    unfold Environment.text?
    rw [hset, Option.bind_some]
    exact dif_neg hbytes
  exact finish_congr (text?_unset hnone) s

/-- **Settings come in layers.** Whatever a reader finds in texts, and whatever the environment is,
what comes of a text is the first of the following that is the case: the reader finds nothing, the
policy's variable is refused, the switch's variable is refused, the library that results is blank,
the settings stand, each as the environment has it or else as the reader found it. So all settings
that are had from a text, from a file or from the environment alone are valid. A blank library that
the reader found is refused if the environment names none, and gives way to one that is not blank. A
variable that is not text counts as unset. If the reader finds the standard settings in the empty
text, the environment alone gives what it gives with that text. -/
theorem sources_layered (read : String → Option Settings) (env : Environment) :
    (∀ text outcome, ofTextBy read env text = outcome ↔ Layered env (read text) outcome) ∧
    (∀ s, (∃ text, ofTextBy read env text = .ok s) ∨
      (∃ contents, ofFileBy read env contents = .ok s) ∨ ofEnvironment env = .ok s →
        s.validate = .ok ()) ∧
    (∀ text file blank, read text = some file → file.glLibrary = some blank →
      Text.isBlank blank = true → env.Accepts .svmFailurePolicy → env.Accepts .keepProperties →
        (env.library? = none →
          ofTextBy read env text = .error (.invalid "gl_library must not be empty")) ∧
        ∀ name ∈ env.library?, Text.isBlank name = false →
          ofTextBy read env text = .ok (file.overlaid env) ∧
            (file.overlaid env).glLibrary = some name) ∧
    (∀ v bytes, env v = some bytes → ¬bytes.IsValidUTF8 →
      (∀ text, ofTextBy read (env.unset v) text = ofTextBy read env text) ∧
        ofEnvironment (env.unset v) = ofEnvironment env) ∧
    (read "" = some .standard → ofEnvironment env = ofTextBy read env "") := by
  refine ⟨ofTextBy_eq_iff read env, ?_, ?_, ?_, ofEnvironment_eq env read⟩
  · have hvalid : ∀ {s text}, ofTextBy read env text = .ok s → s.validate = .ok () :=
      fun h => validate_of_layered ((ofTextBy_eq_iff read env _ _).mp h)
    rintro s (⟨text, h⟩ | ⟨contents, h⟩ | h)
    · exact hvalid h
    · obtain ⟨text, htext⟩ := exists_text_of_ofFileBy h
      exact hvalid htext
    · have hfinish : finish env .standard = .ok s := h
      exact validate_of_layered (hfinish ▸ layered_finish env .standard)
  · intro text file blank hread hblank hisBlank hpolicy hswitch
    refine ⟨fun hunset => ?_, fun name hname hnotBlank => ?_⟩
    · have hlibrary : (file.overlaid env).glLibrary = some blank := by
        show env.library?.or file.glLibrary = some blank
        rw [hunset, Option.none_or, hblank]
      rw [ofTextBy_eq_iff, hread]
      exact .blankLibrary hpolicy hswitch hlibrary hisBlank
    · have hlibrary : (file.overlaid env).glLibrary = some name := by
        show env.library?.or file.glLibrary = some name
        rw [hname, Option.some_or]
      refine ⟨?_, hlibrary⟩
      rw [ofTextBy_eq_iff, hread]
      apply Layered.settled hpolicy hswitch
      intro other hother
      rw [hlibrary, Option.mem_some_iff] at hother
      rwa [← hother]
  · intro v bytes hset hbytes
    refine ⟨fun text => ?_, finish_unset hset hbytes .standard⟩
    unfold ofTextBy
    cases read text with
    | none => rfl
    | some file => exact finish_unset hset hbytes file

/-- A file names a blank library. With the environment naming another one and a policy in capital
letters the settings stand and are valid; with only a byte that is no text in the place of that
library they are refused. -/
theorem blank_library_repaired :
    let text := "gl_library = \"  \"\nkeep_property_copy = false\n"
    let env := Environment.ofTexts fun
      | .glLibrary => some "libEGL.so"
      | .svmFailurePolicy => some "LEAK"
      | .keepProperties => none
    let env' : Environment := fun
      | .glLibrary => some ⟨#[255]⟩
      | _ => none
    let s : Settings := ⟨some "libEGL.so", .leak, false⟩
    ofText env text = .ok s ∧ s.validate = .ok () ∧
      ofText env' text = .error (.invalid "gl_library must not be empty") ∧
      ofText (env'.unset .glLibrary) text = ofText env' text ∧
      ofEnvironment env = ofTextBy parse env "" := by
  intro text env env' s
  have hfile : parse text = some ⟨some "  ", .rollback, false⟩ := by decide +kernel
  obtain ⟨-, hvalid, hrepaired, -, hempty⟩ := sources_layered parse env
  obtain ⟨-, -, hrefused, hunset, -⟩ := sources_layered parse env'
  have hpolicy : env.Accepts .svmFailurePolicy := by
    rintro word reason ⟨hword, hparse⟩
    rw [Environment.text?_ofTexts] at hword
    cases hword
    cases hparse
  have hswitch : env.Accepts .keepProperties := by
    rintro word reason ⟨hword, -⟩
    rw [Environment.text?_ofTexts] at hword
    cases hword
  have hlibrary : env.library? = some "libEGL.so" := Environment.text?_ofTexts _ _
  have hstands : ofText env text = .ok s :=
    ((hrepaired text _ _ hfile rfl rfl hpolicy hswitch).2 _ hlibrary rfl).1
  have hnothing : env'.library? = none := by rfl
  have hrest : ∀ v ≠ .glLibrary, env'.Accepts v := by
    rintro v hv word reason ⟨hword, -⟩
    cases v with
    | glLibrary => exact hv rfl
    | svmFailurePolicy => cases hword
    | keepProperties => cases hword
  exact ⟨hstands, hvalid s (.inl ⟨text, hstands⟩),
    (hrefused text _ _ hfile rfl rfl (hrest _ nofun) (hrest _ nofun)).1 hnothing,
    (hunset .glLibrary ⟨#[255]⟩ rfl (by decide +kernel)).1 text, hempty parse_empty⟩

end ComputeContext.Settings
