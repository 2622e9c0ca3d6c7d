/-
# Graphics APIs and what a library must offer

The window system decides how the client's graphics context is reached. Each
way has a library that is loaded when no other is named, and two symbols that
report what is current on the calling thread.

The dynamic linker opens a library by name and looks symbols up in it. The
entry points of an API are its two queries, the context's looked up first. A
handshake remembers the client's display and context and asks whether they are
current: the context has to be, and the display too unless it is null.

Key definitions: `Graphics.Api`, `Graphics.Api.ofFlags`, `Graphics.LoadError`,
`Graphics.Loader`, `Graphics.Library`, `Graphics.Linker`,
`Graphics.EntryPoints.resolve`, `Graphics.EntryPoints.isCurrent`.
-/
import ComputeContext.Interop.Request

namespace ComputeContext.Graphics

/-- A way to reach the client's graphics context. -/
inductive Api
  | egl
  | glx
  | wgl
deriving DecidableEq, Repr

namespace Api

/-- Every API. -/
def all : List Api := [egl, glx, wgl]

/-- The API as it appears in messages. -/
def text : Api → String
  | egl => "Egl"
  | glx => "Glx"
  | wgl => "Wgl"

/-- An EGL display is reached by EGL, everything else by GLX on this platform. -/
def ofFlags (flags : Interop.Flags) : Api :=
  if flags.contains Interop.Flags.eglDevice then egl else glx

/-- The library to load when none is named. -/
def defaultLibrary : Api → String
  | egl => "libEGL.so.1"
  | glx => "libGL.so.1"
  | wgl => "OpenGL32.dll"

/-- The symbol that reports the current context. -/
def contextSymbol : Api → String
  | egl => "eglGetCurrentContext"
  | glx => "glXGetCurrentContext"
  | wgl => "wglGetCurrentContext"

/-- The symbol that reports the current display. -/
def displaySymbol : Api → String
  | egl => "eglGetCurrentDisplay"
  | glx => "glXGetCurrentDisplay"
  | wgl => "wglGetCurrentDC"

end Api

/-- Why a graphics library could not be had. -/
inductive LoadError
  | unavailable (name reason : String)
  | missingSymbol (library symbol : String)
deriving DecidableEq, Repr

/-- The cause in words. -/
def LoadError.message : LoadError → String
  | .unavailable name reason => "failed to load graphics library '" ++ name ++ "': " ++ reason
  | .missingSymbol library symbol =>
    "graphics library '" ++ library ++ "' is missing symbol '" ++ symbol ++ "'"

/-- Where graphics libraries come from. -/
inductive Loader
  /-- The dynamic linker, which loads the named library or the API's own. -/
  | dynamic (library : Option String)
  /-- A loader that the client brings, by its number. -/
  | custom (id : Nat)
deriving DecidableEq, Repr

/-- A loaded library: an identity of its own, the API it was loaded for, and where it is from. -/
structure Library where
  id : Nat
  api : Api
  loader : Loader
deriving DecidableEq, Repr

/-! ### Entry points from the dynamic linker -/

/-- The libraries the dynamic linker finds, with their symbols. -/
structure Linker where
  libraries : List (String × List String)

namespace Linker

/-- Why a text names no library: a zero character ends a name, so there is none before the end. -/
inductive BadName
  /-- The text holds a zero character, but not as its last one. -/
  | unended
  /-- The text holds a zero character besides its last one. -/
  | ended
deriving DecidableEq, Repr

/-- The cause in words. -/
def BadName.reason : BadName → String
  | unended => "could not create a C string from bytes"
  | ended => "could not create a C string from bytes with trailing null"

/-- The name that a text stands for. A zero character at the end is not part of it. -/
def nameOf (text : String) : Except BadName String :=
  let ended := text.toList.getLast? == some '\x00'
  let name := if ended then text.toList.dropLast else text.toList
  if '\x00' ∈ name then .error (if ended then .ended else .unended) else .ok (String.ofList name)

/-- The symbols of a library, or why it cannot be opened. -/
def symbols (l : Linker) (text : String) : Except String (List String) := do
  let name ← (nameOf text).mapError BadName.reason
  match l.libraries.lookup name with
  | some symbols => .ok symbols
  | none => .error (name ++ ": cannot open shared object file: No such file or directory")

end Linker

/-- What is current on the calling thread. -/
structure Current where
  context : Interop.Handle
  display : Interop.Handle
deriving DecidableEq, Repr

/-- Nothing is current. -/
def Current.nothing : Current := ⟨.null, .null⟩

/-- The queries of an API in an opened library, and the client's handles. -/
structure EntryPoints where
  /-- The library as it was named. -/
  name : String
  api : Api
  display : Interop.Handle
  context : Interop.Handle
deriving DecidableEq, Repr

namespace EntryPoints

/-- Opens the named library, or the API's own, and looks its queries up. -/
def resolve (l : Linker) (library : Option String) (api : Api) :
    Except LoadError EntryPoints := do
  let name := library.getD api.defaultLibrary
  let symbols ← (l.symbols name).mapError (.unavailable name)
  match [api.contextSymbol, api.displaySymbol].find? (· ∉ symbols) with
  | some symbol => .error (.missingSymbol name symbol)
  | none => .ok { name, api, display := .null, context := .null }

/-- The entry points after the client named its display and context. -/
def remember (e : EntryPoints) (display context : Interop.Handle) : EntryPoints :=
  { e with display, context }

/-- The client's context is current, and its display unless it is null. -/
def isCurrent (e : EntryPoints) (current : Current) : Bool :=
  !e.context.isNull && current.context == e.context &&
    (e.display.isNull || current.display == e.display)

/-- A handle as a constructor with its number. -/
def handleText (h : Interop.Handle) : String :=
  "ExternalHandle(" ++ toString h.bits.toNat ++ ")"

/-- A library's name in quotes. The linker finds no name with a character that has to be escaped,
but the name may be ended by a zero character, which is written `\0`. -/
def quoted (name : String) : String :=
  "\"" ++ String.ofList (name.toList.flatMap fun c => if c = '\x00' then ['\\', '0'] else [c]) ++ "\""

/-- The entry points as text. -/
def describe (e : EntryPoints) : String :=
  "GlFunctions \x7b name: " ++ quoted e.name ++ ", api: " ++ e.api.text ++ ", display: " ++
    handleText e.display ++ ", context: " ++ handleText e.context ++ " \x7d"

end EntryPoints
end ComputeContext.Graphics
