/-
# Settings from a file

A settings file is a TOML document. It may set each setting once; a missing
setting has its standard value, and other keys do not matter. The failure
policy is a string, or a table whose only key is the policy's word and whose
value is empty. The environment overrides the file, and the result is checked
after that; neither depends on how the text was read.

Key definitions: `Settings.ofTable`, `Settings.parse`, `Settings.ofTextBy`,
`Settings.ofText`, `Settings.ofFile`.
Key theorem: `Settings.ofText_empty`.
-/
import ComputeContext.Settings.Basic
import ComputeContext.Toml.Document

namespace ComputeContext.Settings

/-- A string. -/
def readString : Toml.Value → Option String
  | .string s => some s
  | _ => none

/-- A switch. -/
def readSwitch : Toml.Value → Option Bool
  | .boolean b => some b
  | _ => none

/-- An empty table or array, the value of a word that stands for itself. -/
def isEmptyValue : Toml.Value → Bool
  | .table _ entries => entries.isEmpty
  | .array elements => elements.isEmpty
  | _ => false

/-- A failure policy, as a word or as a table with the word as its only key. -/
def readPolicy : Toml.Value → Option Svm.FailurePolicy
  | .string s => Svm.FailurePolicy.ofText? s
  | .table _ [(word, v)] => if isEmptyValue v then Svm.FailurePolicy.ofText? word else none
  | _ => none

/-- A setting of a document, or its standard value when the key is missing. -/
def field {α : Type} (t : Toml.Table) (key : String) (read : Toml.Value → Option α) (standard : α) :
    Option α :=
  match t.get? key with
  | none => some standard
  | some v => read v

/-- The settings a document gives. -/
def ofTable (t : Toml.Table) : Option Settings := do
  let glLibrary ← field t "gl_library" (fun v => some <$> readString v) standard.glLibrary
  let svmFailurePolicy ← field t "svm_failure_policy" readPolicy standard.svmFailurePolicy
  let keepPropertyCopy ← field t "keep_property_copy" readSwitch standard.keepPropertyCopy
  return { glLibrary, svmFailurePolicy, keepPropertyCopy }

/-- The settings a text gives before the environment's overrides. -/
def parse (text : String) : Option Settings := (Toml.parse text).bind ofTable

/-- The settings that a reader finds in a text, under an environment. -/
def ofTextBy (read : String → Option Settings) (env : Environment) (text : String) :
    Except Fault Settings :=
  match read text with
  | none => .error .malformed
  | some s => finish env s

/-- The settings of a file, given its bytes or why there are none. -/
def ofFileBy (read : String → Option Settings) (env : Environment)
    (contents : Except ReadFault ByteArray) : Except Fault Settings :=
  match contents with
  | .error cause => .error (.unreadable cause)
  | .ok bytes =>
    match String.fromUTF8? bytes with
    | none => .error (.unreadable .notText)
    | some text => ofTextBy read env text

/-- The settings a text gives under an environment. -/
def ofText (env : Environment) (text : String) : Except Fault Settings := ofTextBy parse env text

theorem parse_empty : parse "" = some .standard := by rfl

/-- An empty text leaves everything to the environment. -/
theorem ofText_empty (env : Environment) : ofText env "" = ofEnvironment env := by
  unfold ofText ofTextBy ofEnvironment
  rw [parse_empty]

/-- The settings a file gives under an environment. -/
def ofFile (env : Environment) (contents : Except ReadFault ByteArray) : Except Fault Settings :=
  ofFileBy parse env contents

end ComputeContext.Settings
