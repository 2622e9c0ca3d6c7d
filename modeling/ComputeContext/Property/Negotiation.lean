/-
# Negotiation

A property list is checked pair by pair, in its order, and the first pair that
is refused refuses the list. For each pair the name must be known, then
accepted on this platform, then new in the list; after that its role decides
about the value. What the accepted pairs ask for is collected in an agreement,
together with the bytes that a copy of the list needs.

An absent list is accepted and asks for nothing, and its copy needs no bytes.

Key definitions: `Agreement`, `Rejection`, `Draft.add`, `negotiate`,
`negotiateWords`.
-/
import ComputeContext.Interop.Request
import ComputeContext.Property.Basic

namespace ComputeContext

/-- Identity of the platform a context is created on. -/
structure PlatformId where
  bits : UInt64
deriving DecidableEq, Repr, Inhabited

/-- The platform as a property value. -/
def PlatformId.word (p : PlatformId) : Word := p.bits.toInt64

/-- What negotiation settled. -/
structure Agreement extends Interop.Request where
  /-- Bytes that a copy of the client's list needs; zero when there was no list. -/
  listBytes : UInt64
deriving DecidableEq

namespace Agreement

/-- The agreement of a client that gave no list. -/
def nothing : Agreement := ⟨.nothing, 0⟩

instance : Inhabited Agreement := ⟨nothing⟩

/-- Words that a copy of the client's list needs. -/
def listWords (a : Agreement) : Nat := a.listBytes.toNat / Property.wordBytes

end Agreement

namespace Property

/-- Why a pair, and with it the list, is refused. -/
inductive Rejection
  /-- No known name has this word. -/
  | unknown (name : Word)
  /-- The name is not accepted on this platform. -/
  | unsupported (name : Name)
  /-- The name stands earlier in the list. -/
  | repeated (name : Name)
  /-- A display stands earlier in the list. -/
  | displayConflict (name previous : Name)
  /-- A display has to be given by a handle. -/
  | nullDisplay (name : Name)
  /-- A graphics context has to be given by a handle. -/
  | nullContext
  /-- The value is neither zero nor this platform. -/
  | foreignPlatform (value : Word)
  /-- The value is not the true token. -/
  | offlineToken (value : Word)
deriving DecidableEq, Repr

namespace Rejection

/-- The cause in words. -/
def reason : Rejection → String
  | unknown name => "unknown property " ++ Text.hexOfSigned name
  | unsupported name => "property " ++ name.text ++ " is not supported on this platform"
  | repeated name => "property " ++ name.text ++ " specified more than once"
  | displayConflict name previous =>
    name.text ++ " conflicts with " ++ previous.text ++ ": only one graphics display may be given"
  | nullDisplay name => name.text ++ " requires a non-null display"
  | nullContext => "GlContext requires a non-null context handle"
  | foreignPlatform value =>
    "platform " ++ Text.hexOfSigned value ++ " is not this runtime's platform"
  | offlineToken value => "OfflineDevices expects the true token, got " ++ toString value.toInt

/-- A null graphics handle is a sharegroup failure, every other refusal an invalid value. -/
def toError (r : Rejection) : Error :=
  match r with
  | nullDisplay _ | nullContext => .invalidGlSharegroupReference r.reason
  | _ => .invalidValue r.reason

end Rejection

/-- What the pairs so far have settled. -/
structure Draft where
  /-- The names that have been given. -/
  seen : List Name
  /-- The display that has been given. -/
  display : Option Name
  /-- What has been asked for. -/
  request : Interop.Request
deriving DecidableEq

namespace Draft

/-- Before the first pair. -/
def start : Draft := ⟨[], none, .nothing⟩

/-- The request with further flags. -/
def raise (r : Interop.Request) (flags : Interop.Flags) : Interop.Request :=
  { r with flags := r.flags ∪ flags }

/-- What a value does to the request, by the role of its name. -/
def settle (platform : PlatformId) (d : Draft) (name : Name) (role : Role) (value : Word) :
    Except Rejection Draft :=
  let handle := Interop.Handle.ofWord value
  match role with
  | .userSync =>
    .ok (if value = trueToken then { d with request := raise d.request .interopUserSync } else d)
  | .display egl =>
    match d.display with
    | some previous => .error (.displayConflict name previous)
    | none =>
      if handle.isNull then .error (.nullDisplay name)
      else
        let flags := if egl then .glDevice ∪ .eglDevice else Interop.Flags.glDevice
        let handles := d.request.handles.set .gl handle
        .ok { d with display := some name, request := raise { d.request with handles } flags }
  | .glContext =>
    if handle.isNull then .error .nullContext
    else .ok { d with request := raise { d.request with glContext := handle } .glDevice }
  | .platform =>
    if value ≠ 0 ∧ value ≠ platform.word then .error (.foreignPlatform value) else .ok d
  | .offlineDevices =>
    if value ≠ trueToken then .error (.offlineToken value)
    else .ok { d with request := raise d.request .offlineDevices }

/-- One pair after those of `d`. -/
def add (platform : PlatformId) (d : Draft) (p : Property) : Except Rejection Draft :=
  match Name.ofCode? p.name with
  | none => .error (.unknown p.name)
  | some name =>
    match name.role? with
    | none => .error (.unsupported name)
    | some role =>
      if name ∈ d.seen then .error (.repeated name)
      else settle platform { d with seen := name :: d.seen } name role p.value

end Draft

/-- The draft of a whole list, or the first refusal. -/
def draft (platform : PlatformId) (ps : List Property) : Except Rejection Draft :=
  ps.foldlM (Draft.add platform) Draft.start

/-- The agreement for a list of properties, or the first refusal. -/
def negotiate (platform : PlatformId) (list? : Option (List Property)) :
    Except Rejection Agreement :=
  match list? with
  | none => .ok .nothing
  | some ps =>
    (draft platform ps).map fun d => ⟨d.request, UInt64.ofNat (byteSize ps)⟩

/-- The agreement for a list of words: a malformed list is refused before any pair is looked at. -/
def negotiateWords (platform : PlatformId) (words? : Option (List Word)) :
    Except Error Agreement :=
  match words? with
  | none => .ok .nothing
  | some words => do
    let ps ← (decode words).mapError Malformed.toError
    (negotiate platform (some ps)).mapError Rejection.toError

end Property
end ComputeContext
