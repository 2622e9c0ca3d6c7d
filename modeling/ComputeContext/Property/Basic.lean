/-
# Context properties and their lists

A client describes a context by properties: a name and a value, both words of
the machine's signed pointer size. Thirteen names are known. What a name asks
for is its role; a name without a role is known but not accepted on this
platform, which has EGL and GLX displays and no Direct3D.

On the wire a list is its names and values in turn, ended by a name that is
zero. Reading takes two words at a time and stops at the first zero name; what
follows it is not looked at. A list that ends before a zero name is refused,
and a name without a value is refused by name.

Key definitions: `Property`, `Property.Name`, `Property.Role`,
`Property.Name.ofCode?`, `Property.Name.role?`, `Property.encode`,
`Property.decode`, `Property.byteSize`, `Property.Malformed`.
-/
import ComputeContext.Error
import ComputeContext.Text

namespace ComputeContext

/-- A property word: signed and as wide as a pointer. -/
abbrev Word := Int64

/-- One name and value of a client's list, as it came. -/
structure Property where
  name : Word
  value : Word
deriving DecidableEq, Repr

namespace Property

/-- The value that switches a feature on. -/
def trueToken : Word := 1

/-- The bytes of a property word. -/
def wordBytes : Nat := 8

/-- The bytes of a name and its value. -/
def pairBytes : Nat := 2 * wordBytes

/-- The bytes of the zero name that ends a list. -/
def terminatorBytes : Nat := wordBytes

/-- The known property names. -/
inductive Name
  | platform
  | interopUserSync
  | glContext
  | eglDisplay
  | glxDisplay
  | wglHdc
  | cglSharegroup
  | d3d10Device
  | d3d11Device
  | adapterD3d9
  | adapterD3d9Ex
  | adapterDxva
  | offlineDevices
deriving DecidableEq, Repr

/-- What an accepted property asks for. -/
inductive Role
  /-- The platform the client believes it is on. -/
  | platform
  /-- The client synchronises with the adapter itself. -/
  | userSync
  /-- The graphics context to share. -/
  | glContext
  /-- The graphics display to share; `egl` tells the two displays apart. -/
  | display (egl : Bool)
  /-- Devices that are not present may be named. -/
  | offlineDevices
deriving DecidableEq, Repr

namespace Name

/-- Every known name, in table order. -/
def all : List Name :=
  [platform, interopUserSync, glContext, eglDisplay, glxDisplay, wglHdc, cglSharegroup,
    d3d10Device, d3d11Device, adapterD3d9, adapterD3d9Ex, adapterDxva, offlineDevices]

/-- The word that stands for the name in a list. -/
def code : Name → Word
  | platform => 0x1084
  | interopUserSync => 0x1085
  | glContext => 0x2008
  | eglDisplay => 0x2009
  | glxDisplay => 0x200A
  | wglHdc => 0x200B
  | cglSharegroup => 0x200C
  | d3d10Device => 0x4014
  | d3d11Device => 0x401D
  | adapterD3d9 => 0x2025
  | adapterD3d9Ex => 0x2026
  | adapterDxva => 0x2027
  | offlineDevices => 0x403F

/-- The name a word stands for, if it is known. -/
def ofCode? (w : Word) : Option Name := all.find? (·.code == w)

/-- The name as it appears in messages. -/
def text : Name → String
  | platform => "Platform"
  | interopUserSync => "InteropUserSync"
  | glContext => "GlContext"
  | eglDisplay => "EglDisplay"
  | glxDisplay => "GlxDisplay"
  | wglHdc => "WglHdc"
  | cglSharegroup => "CglSharegroup"
  | d3d10Device => "D3d10Device"
  | d3d11Device => "D3d11Device"
  | adapterD3d9 => "AdapterD3d9"
  | adapterD3d9Ex => "AdapterD3d9Ex"
  | adapterDxva => "AdapterDxva"
  | offlineDevices => "OfflineDevices"

/-- What the name asks for, if this platform accepts it. -/
def role? : Name → Option Role
  | platform => some .platform
  | interopUserSync => some .userSync
  | glContext => some .glContext
  | eglDisplay => some (.display true)
  | glxDisplay => some (.display false)
  | offlineDevices => some .offlineDevices
  | wglHdc | cglSharegroup | d3d10Device | d3d11Device
  | adapterD3d9 | adapterD3d9Ex | adapterDxva => none

/-- This platform accepts the name. -/
def isSupported (n : Name) : Bool := n.role?.isSome

theorem ofCode?_code (n : Name) : ofCode? n.code = some n := by cases n <;> rfl

end Name

/-- A property by its known name. -/
def named (n : Name) (value : Word) : Property := ⟨n.code, value⟩

/-! ### Lists as words -/

/-- Why a word list is no property list. -/
inductive Malformed
  /-- The list ends after a name. -/
  | missingValue (name : Word)
  /-- The list ends without a zero name. -/
  | unterminated
deriving DecidableEq, Repr

namespace Malformed

/-- The cause in words. -/
def reason : Malformed → String
  | missingValue name => "property " ++ Text.hexOfSigned name ++ " has no value"
  | unterminated => "property list is not zero-terminated"

/-- A malformed list is an invalid value. -/
def toError (m : Malformed) : Error := .invalidValue m.reason

end Malformed

/-- The words of a list, the terminating zero included. -/
def encode : List Property → List Word
  | [] => [0]
  | p :: ps => p.name :: p.value :: encode ps

/-- The properties before the first zero name. -/
def decode : List Word → Except Malformed (List Property)
  | [] => .error .unterminated
  | [name] => if name = 0 then .ok [] else .error (.missingValue name)
  | name :: value :: rest =>
    if name = 0 then .ok [] else (decode rest).map (⟨name, value⟩ :: ·)

/-- The bytes of a list's words, the terminating zero included. -/
def byteSize (ps : List Property) : Nat := ps.length * pairBytes + terminatorBytes

theorem length_encode (ps : List Property) : (encode ps).length = 2 * ps.length + 1 := by
  induction ps with
  | nil => rfl
  | cons p ps ih => simp only [encode, List.length_cons, ih]; omega

theorem decode_encode (ps : List Property) :
    decode (encode ps) = .ok (ps.takeWhile fun p => p.name ≠ 0) := by
  induction ps with
  | nil => rfl
  | cons p ps ih =>
    by_cases h : p.name = 0
    · simp [encode, decode, h]
    · simp [encode, decode, h, ih, Except.map]

end Property
end ComputeContext
