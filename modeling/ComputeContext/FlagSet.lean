/-
# Sets of named flags

A flag word has some named bits and may carry bits that no name covers; those
are kept as they came. A vocabulary gives the width, the title and the named
bits in their order, and a set over it is the word itself. The text of a set
is its names in that order, then what is left as one hexadecimal number:
`Title(A | B | 0x8000)`, and `Title(0x0)` for the empty set.

Key definitions: `FlagVocabulary`, `FlagSet`, `FlagSet.contains`,
`FlagSet.intersects`, `FlagSet.describe`.
-/
import ComputeContext.Text

namespace ComputeContext

/-- The named bits of a kind of flag word, in the order they are listed. -/
structure FlagVocabulary (width : Nat) where
  /-- What the kind is called in text. -/
  title : String
  /-- The named bits. -/
  named : List (String × BitVec width)

/-- A flag word of the kind `v` describes; bits without a name are kept. -/
structure FlagSet {width : Nat} (v : FlagVocabulary width) where
  bits : BitVec width
deriving DecidableEq

namespace FlagSet

variable {width : Nat} {v : FlagVocabulary width}

/-- The set without any bit. -/
def empty : FlagSet v := ⟨0⟩

instance : EmptyCollection (FlagSet v) := ⟨empty⟩
instance : Inhabited (FlagSet v) := ⟨empty⟩
instance : Union (FlagSet v) := ⟨fun a b => ⟨a.bits ||| b.bits⟩⟩

/-- No bit is set, named or not. -/
def isEmpty (a : FlagSet v) : Bool := a.bits == 0

/-- Every bit of `b` is set in `a`. -/
def contains (a b : FlagSet v) : Bool := a.bits &&& b.bits == b.bits

/-- Some bit is set in both. -/
def intersects (a b : FlagSet v) : Bool := a.bits &&& b.bits != 0

/-- All named bits of the vocabulary. -/
def all : FlagSet v := ⟨v.named.foldl (fun acc n => acc ||| n.2) 0⟩

/-- The bits that have a name. -/
def truncate (a : FlagSet v) : FlagSet v := ⟨a.bits &&& (all : FlagSet v).bits⟩

/-- Every bit has a name. -/
def isKnown (a : FlagSet v) : Bool := a.truncate == a

@[simp] theorem bits_union (a b : FlagSet v) : (a ∪ b).bits = a.bits ||| b.bits := rfl

theorem contains_iff {a b : FlagSet v} : a.contains b = true ↔ a.bits &&& b.bits = b.bits := by
  simp [contains]

theorem intersects_iff {a b : FlagSet v} : a.intersects b = true ↔ a.bits &&& b.bits ≠ 0 := by
  simp [intersects]

/-- Sets that both contain a third one that is not empty intersect. -/
theorem intersects_of_contains {a b c : FlagSet v} (ha : a.contains c = true)
    (hb : b.contains c = true) (hc : c.bits ≠ 0) : a.intersects b = true := by
  rw [contains_iff] at ha hb
  rw [intersects_iff]
  intro hnone
  apply hc
  calc c.bits = a.bits &&& c.bits := ha.symm
    _ = a.bits &&& (b.bits &&& c.bits) := by rw [hb]
    _ = 0 &&& c.bits := by rw [← BitVec.and_assoc, hnone]
    _ = 0 := BitVec.zero_and

theorem intersects_union {a b c : FlagSet v} : a.intersects (b ∪ c) = true ↔
    a.intersects b = true ∨ a.intersects c = true := by
  have hnone : a.bits &&& (b ∪ c).bits = 0 ↔ a.bits &&& b.bits = 0 ∧ a.bits &&& c.bits = 0 := by
    rw [bits_union, BitVec.and_or_distrib_left]
    exact BitVec.or_eq_zero_iff
  rw [intersects_iff, intersects_iff, intersects_iff, Ne, hnone]
  exact Decidable.not_and_iff_not_or_not

/-- A single bit is contained as soon as it intersects. -/
theorem contains_of_intersects_bit {a b : FlagSet v} {i : Nat} (h : b.bits = BitVec.twoPow width i)
    (hmeets : a.intersects b = true) : a.contains b = true := by
  rw [intersects_iff, h, BitVec.and_twoPow] at hmeets
  rw [contains_iff, h, BitVec.and_twoPow]
  by_cases hbit : a.bits.getLsbD i = true
  · exact if_pos hbit
  · exact absurd (if_neg hbit) hmeets

/-- The names of the set's bits, in the vocabulary's order. -/
def names (a : FlagSet v) : List String :=
  (v.named.filter fun n => a.contains ⟨n.2⟩).map (·.1)

/-- The bits that have no name. -/
def residue (a : FlagSet v) : BitVec width := a.bits &&& ~~~(all : FlagSet v).bits

/-- The parts of the text: the names, then the residue if there is one. -/
def parts (a : FlagSet v) : List String :=
  a.names ++ if a.residue == 0 then [] else [Text.hexOfNat a.residue.toNat]

/-- The set as text, `Title(A | B)`. -/
def describe (a : FlagSet v) : String :=
  v.title ++ "(" ++ (if a.isEmpty then "0x0" else " | ".intercalate a.parts) ++ ")"

end FlagSet
end ComputeContext
