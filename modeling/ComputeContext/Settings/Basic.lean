/-
# Settings

Three settings steer how contexts are created: the graphics library to load in
place of the platform's, what to do with a region when shared memory cannot be
had on every device, and whether a context keeps a copy of its property list.
A named library must not be blank.

Variables of the environment override settings one after another: the library,
the failure policy, the property copy. A variable that is not text counts as
unset. A value that its setting does not know stops the overlay; what earlier
variables have set by then stays set.

Key definitions: `Svm.FailurePolicy`, `Settings`, `Settings.Fault`,
`Settings.validate`, `Settings.Environment`, `Settings.overrideBy`,
`Settings.overlay`.
-/
import ComputeContext.Text

namespace ComputeContext.Svm

/-- What is done with the devices that already hold a region when a later one fails. -/
inductive FailurePolicy
  /-- The region is freed on them. -/
  | rollback
  /-- They keep it, and the caller has to clean up. -/
  | leak
deriving DecidableEq, Repr, Inhabited

namespace FailurePolicy

/-- The policy's word. -/
def text : FailurePolicy → String
  | rollback => "rollback"
  | leak => "leak"

/-- The policy of a word, letter by letter as it is written. -/
def ofText? (s : String) : Option FailurePolicy :=
  if s = "rollback" then some rollback else if s = "leak" then some leak else none

/-- The policy of a word in any letter case; a refusal tells the word in lower case. -/
def parse (s : String) : Except String FailurePolicy :=
  let word := Text.lowercase s
  match ofText? word with
  | some p => .ok p
  | none => .error ("unknown SVM failure policy: " ++ word)

end FailurePolicy
end ComputeContext.Svm

namespace ComputeContext

/-- How contexts are created. -/
structure Settings where
  /-- The graphics library to load in place of the platform's own. -/
  glLibrary : Option String
  svmFailurePolicy : Svm.FailurePolicy
  /-- A context keeps a copy of its property list. -/
  keepPropertyCopy : Bool
deriving DecidableEq, Repr

namespace Settings

/-- The settings when nothing is said: the platform's library, rollback, and a copy is kept. -/
def standard : Settings := ⟨none, .rollback, true⟩

instance : Inhabited Settings := ⟨standard⟩

/-- The environment variables that override settings. -/
inductive Variable
  | glLibrary
  | svmFailurePolicy
  | keepProperties
deriving DecidableEq, Repr

/-- The variable's name in the environment. -/
def Variable.key : Variable → String
  | glLibrary => "CLRT_GL_LIBRARY"
  | svmFailurePolicy => "CLRT_SVM_FAILURE_POLICY"
  | keepProperties => "CLRT_KEEP_PROPERTIES"

/-- Why a settings file could not be read. -/
inductive ReadFault
  | notFound
  | isDirectory
  | notText
deriving DecidableEq, Repr

/-- The cause in words. -/
def ReadFault.reason : ReadFault → String
  | notFound => "No such file or directory (os error 2)"
  | isDirectory => "Is a directory (os error 21)"
  | notText => "stream did not contain valid UTF-8"

/-- Why there are no settings. -/
inductive Fault
  /-- The file could not be read. -/
  | unreadable (cause : ReadFault)
  /-- The text is no settings file. -/
  | malformed
  /-- The settings contradict their rules. -/
  | invalid (reason : String)
  /-- An environment variable holds no value of its setting. -/
  | badOverride (name : Variable) (value reason : String)
deriving DecidableEq, Repr

/-- The cause in words. -/
def Fault.message : Fault → String
  | unreadable cause => "failed to read config file: " ++ cause.reason
  | malformed => "failed to parse TOML"
  | invalid reason => "validation failed: " ++ reason
  | badOverride name value reason =>
    "invalid environment override " ++ name.key ++ "=" ++ value ++ ": " ++ reason

/-- Refuses a library name that is blank. -/
def validate (s : Settings) : Except Fault Unit :=
  if s.glLibrary.any Text.isBlank then .error (.invalid "gl_library must not be empty") else .ok ()

/-! ### The environment -/

/-- The bytes each variable is set to, if it is set. -/
abbrev Environment := Variable → Option ByteArray

/-- The text a variable is set to. -/
def Environment.text? (env : Environment) (v : Variable) : Option String :=
  (env v).bind String.fromUTF8?

/-- A yes or no, in any letter case. -/
def parseSwitch (s : String) : Except String Bool :=
  let word := Text.lowercase s
  if word ∈ ["1", "true", "yes"] then .ok true
  else if word ∈ ["0", "false", "no"] then .ok false
  else .error "expected a boolean"

/-- A step that changes the settings at hand, and may fail after it has. -/
abbrev Override := ExceptT Fault (StateM Settings) Unit

/-- A variable that is set puts the value it names in the place of a setting. A text that names no
value is refused. -/
def overrideBy {α : Type} (env : Environment) (v : Variable) (read : String → Except String α)
    (put : α → Settings → Settings) : Override :=
  match env.text? v with
  | none => pure ()
  | some text =>
    match read text with
    | .ok a => modify (put a)
    | .error reason => throw (.badOverride v text reason)

/-- The variable names the library; every text will do. -/
def overrideLibrary (env : Environment) : Override :=
  overrideBy env .glLibrary .ok fun text s => { s with glLibrary := some text }

/-- The variable names the policy. -/
def overridePolicy (env : Environment) : Override :=
  overrideBy env .svmFailurePolicy Svm.FailurePolicy.parse fun policy s =>
    { s with svmFailurePolicy := policy }

/-- The variable says whether a copy of the property list is kept. -/
def overrideCopy (env : Environment) : Override :=
  overrideBy env .keepProperties parseSwitch fun keep s => { s with keepPropertyCopy := keep }

/-- Overrides the settings at hand by what the environment says. -/
def applyOverrides (env : Environment) : Override := do
  overrideLibrary env
  overridePolicy env
  overrideCopy env

/-- Whether all overrides could be applied, and the settings after those that were. -/
def overlay (env : Environment) (s : Settings) : Except Fault Unit × Settings :=
  (applyOverrides env).run.run s

/-- Settings under an environment's overrides, checked. -/
def finish (env : Environment) (s : Settings) : Except Fault Settings :=
  match overlay env s with
  | (.error fault, _) => .error fault
  | (.ok (), s) => (validate s).map fun _ => s

/-- The standard settings under an environment's overrides. -/
def ofEnvironment (env : Environment) : Except Fault Settings := finish env .standard

end Settings
end ComputeContext
