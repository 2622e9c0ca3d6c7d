/-
# The list at the front of words

Words end with a zero name when a zero stands at their end, after whole pairs.
What words are read as is what stands at their front: the words of the list
that is read are a prefix of them, and of all prefixes that end with a zero
name it is the shortest (`Property.front_encode`). So words are read as a list
exactly if the list is written at their front and none of its names is zero
(`Property.decode_eq_ok_iff`), and what follows does not matter. What is agreed
on for words counts just the words of that list, and there are that many
(`Property.take_listWords`).

A zero ends a list where a name is expected, at an even position; a value may
be zero. Of words with such a zero exactly the pairs before the first one are
read (`Property.decode_of_firstZeroName`). Words without one are refused, and
the cause shows on which side the last word stands
(`Property.decode_of_no_zeroName`). A list that is written and read again ends
before its first pair with a zero name, and comes back whole if it has none.

Key definitions: `Property.EndsInZeroName`, `Property.Front`,
`Property.pairsOf`, `Property.FirstZeroName`, `Property.Malformed.Explains`.
Key theorems: `Property.decode_eq_ok_iff`, `Property.front_encode`,
`Property.take_listWords`, `Property.decode_of_firstZeroName`,
`Property.decode_congr`, `Property.decode_of_no_zeroName`,
`Property.list_read_to_zero_name`.
-/
import ComputeContext.Proofs.Property.Agreement
import Mathlib.Data.List.TakeWhile
import Mathlib.Data.Nat.Find
import Mathlib.Tactic.IntervalCases

namespace ComputeContext.Property

variable {platform : PlatformId} {words : List Word} {ps : List Property} {a : Agreement}

/-- The words end with a zero that stands where a name stands: after pairs. -/
def EndsInZeroName (words : List Word) : Prop :=
  ∃ pairs, words = pairs ++ [0] ∧ pairs.length % 2 = 0

/-- The front of words is their shortest prefix that ends with a zero name. -/
structure Front (front words : List Word) : Prop where
  leads : front <+: words
  ends : EndsInZeroName front
  shortest : ∀ other, other <+: words → EndsInZeroName other → front.length ≤ other.length

theorem endsInZeroName_encode : ∀ ps : List Property, EndsInZeroName (encode ps)
  | [] => ⟨[], rfl, rfl⟩
  | p :: ps => by
    obtain ⟨pairs, hpairs, heven⟩ := endsInZeroName_encode ps
    refine ⟨p.name :: p.value :: pairs, ?_, ?_⟩
    · rw [encode, hpairs, List.cons_append, List.cons_append]
    · rw [List.length_cons, List.length_cons]
      omega

theorem decode_pair_eq_ok_iff {name value : Word} {rest : List Word} (h : name ≠ 0) :
    decode (name :: value :: rest) = .ok ps ↔
      ∃ qs, decode rest = .ok qs ∧ ps = ⟨name, value⟩ :: qs := by
  rw [decode, if_neg h]
  cases decode rest with
  | error e => simp [Except.map]
  | ok qs => simp [Except.map, eq_comm (a := ps)]

/-- Words are read as a list exactly if they start with its words and none of its names is zero. -/
theorem decode_eq_ok_iff : ∀ {words : List Word} {ps : List Property},
    decode words = .ok ps ↔ encode ps <+: words ∧ ∀ p ∈ ps, p.name ≠ 0
  | [], ps => by
    have hnot : ¬encode ps <+: [] := by cases ps <;> simp [encode]
    rw [decode]
    simp [hnot]
  | [name], ps => by
    rw [decode]
    by_cases hname : name = 0
    · cases ps <;> simp [encode, hname]
    · cases ps <;> simp [encode, hname, Ne.symm hname]
  | name :: value :: rest, ps => by
    by_cases hname : name = 0
    · -- Nothing is read. A list that starts these words has the zero for a name or is empty.
      rw [decode, if_pos hname, hname]
      cases ps <;> simp +contextual [encode]
    · have ih : ∀ qs, decode rest = .ok qs ↔ encode qs <+: rest ∧ ∀ p ∈ qs, p.name ≠ 0 :=
        fun qs => decode_eq_ok_iff
      rw [decode_pair_eq_ok_iff hname]
      simp only [ih]
      cases ps with
      | nil => simp [encode, Ne.symm hname]
      | cons p ps =>
        obtain ⟨first, second⟩ := p
        simp only [encode, List.cons_prefix_cons, List.cons.injEq, Property.mk.injEq,
          List.forall_mem_cons]
        constructor
        · rintro ⟨qs, ⟨hqs, hnames⟩, ⟨rfl, rfl⟩, rfl⟩
          exact ⟨⟨rfl, rfl, hqs⟩, hname, hnames⟩
        · rintro ⟨⟨rfl, rfl, hps⟩, -, hnames⟩
          exact ⟨ps, ⟨hps, hnames⟩, ⟨rfl, rfl⟩, rfl⟩

/-- Only the whole of a list's words ends with a zero name, if no name of the list is zero. -/
theorem eq_encode_of_endsInZeroName {front : List Word} (hnames : ∀ p ∈ ps, p.name ≠ 0)
    (hfront : front <+: encode ps) (hends : EndsInZeroName front) : front = encode ps := by
  obtain ⟨pairs, rfl, heven⟩ := hends
  induction ps generalizing pairs with
  | nil =>
    apply hfront.eq_of_length_le
    rw [encode, List.length_append]
    exact Nat.le_add_left ..
  | cons p ps ih =>
    obtain ⟨hname, hnames⟩ := List.forall_mem_cons.mp hnames
    rw [encode] at hfront
    cases pairs with
    | nil => exact absurd (List.cons_prefix_cons.mp hfront).1.symm hname
    | cons first pairs =>
      cases pairs with
      | nil => cases heven
      | cons second pairs =>
        rw [List.cons_append, List.cons_append, List.cons_prefix_cons, List.cons_prefix_cons]
          at hfront
        obtain ⟨rfl, rfl, hrest⟩ := hfront
        have heven : pairs.length % 2 = 0 := by
          rw [List.length_cons, List.length_cons] at heven
          omega
        rw [encode, ← ih hnames pairs heven hrest, List.cons_append, List.cons_append]

/-- The words of the list that is read are the front of the words that are read. -/
theorem front_encode (h : decode words = .ok ps) : Front (encode ps) words := by
  obtain ⟨hleads, hnames⟩ := decode_eq_ok_iff.mp h
  refine ⟨hleads, endsInZeroName_encode ps, fun other hother hends => ?_⟩
  rcases List.prefix_or_prefix_of_prefix hother hleads with hshort | hlong
  · exact Nat.le_of_eq
      (congrArg List.length (eq_encode_of_endsInZeroName hnames hshort hends)).symm
  · exact hlong.length_le

/-- An agreement on words counts the words of the list that they are read as, and as many words
taken off the front are that list. -/
theorem take_listWords (h : negotiateWords platform (some words) = .ok a) :
    ∃ ps, decode words = .ok ps ∧ a.listBytes.toNat = (encode ps).length * wordBytes ∧
      a.listWords = (encode ps).length ∧ words.take a.listWords = encode ps := by
  obtain ⟨ps, hps, hagreed⟩ := negotiateWords_eq_ok_iff.mp h
  obtain ⟨hacceptable, rfl⟩ := negotiate_eq_ok_iff.mp hagreed
  have hbytes := hacceptable.describes.listBytes
  have hcount := hacceptable.describes.listWords
  rw [← length_encode] at hcount
  refine ⟨ps, hps, ?_, hcount, ?_⟩
  · rw [hbytes, length_encode, wordBytes]
    omega
  · rw [hcount]
    exact (List.prefix_iff_eq_take.mp (front_encode hps).leads).symm

/-! ### Where words end a list -/

variable {k : Nat}

/-- The words two by two, without a last one that stands alone. -/
def pairsOf : List Word → List Property
  | name :: value :: rest => ⟨name, value⟩ :: pairsOf rest
  | _ => []

/-- The first zero that stands where a name stands comes after `k` pairs. -/
structure FirstZeroName (words : List Word) (k : Nat) : Prop where
  zero : words[2 * k]? = some 0
  first : ∀ j < k, words[2 * j]? ≠ some 0

/-- The cause fits words without a zero name: they end after a value, or after the name that is
told. -/
def Malformed.Explains (words : List Word) : Malformed → Prop
  | .unterminated => words.length % 2 = 0
  | .missingValue name => words.length % 2 = 1 ∧ words.getLast? = some name

theorem exists_firstZeroName (h : ∃ k, words[2 * k]? = some 0) : ∃ k, FirstZeroName words k :=
  ⟨Nat.find h, Nat.find_spec h, fun _ => Nat.find_min h⟩

theorem FirstZeroName.tail {name value : Word} {rest : List Word}
    (h : FirstZeroName (name :: value :: rest) (k + 1)) : name ≠ 0 ∧ FirstZeroName rest k := by
  refine ⟨fun hname => h.first 0 (Nat.succ_pos k) (congrArg some hname), h.zero, fun j hj => ?_⟩
  exact h.first (j + 1) (Nat.succ_lt_succ hj)

/-- **The pairs before the first zero name are read.** -/
theorem decode_of_firstZeroName : ∀ {k : Nat} {words : List Word}, FirstZeroName words k →
    decode words = .ok (pairsOf (words.take (2 * k)))
  | 0, words, h => by
    have hzero := h.zero
    cases words with
    | nil => cases hzero
    | cons name rest =>
      obtain rfl : name = 0 := Option.some.inj hzero
      cases rest <;> rfl
  | k + 1, [], h => nomatch h.zero
  | k + 1, [_], h => nomatch h.zero
  | k + 1, name :: value :: rest, h => by
    obtain ⟨hname, hrest⟩ := h.tail
    rw [decode, if_neg hname, decode_of_firstZeroName hrest]
    rfl

/-- The pairs before the first zero name are as many, and their words with a zero are the words up
to it. -/
theorem encode_pairsOf : ∀ {k : Nat} {words : List Word}, FirstZeroName words k →
    encode (pairsOf (words.take (2 * k))) = words.take (2 * k + 1) ∧
      (pairsOf (words.take (2 * k))).length = k
  | 0, words, h => by
    have hzero := h.zero
    cases words with
    | nil => cases hzero
    | cons name rest =>
      obtain rfl : name = 0 := Option.some.inj hzero
      exact ⟨rfl, rfl⟩
  | k + 1, [], h => nomatch h.zero
  | k + 1, [_], h => nomatch h.zero
  | k + 1, name :: value :: rest, h => by
    obtain ⟨hencode, hlength⟩ := encode_pairsOf h.tail.2
    constructor
    · exact congrArg (fun words => name :: value :: words) hencode
    · exact congrArg Nat.succ hlength

theorem FirstZeroName.congr {others : List Word} (h : FirstZeroName words k)
    (hsame : others.take (2 * k + 1) = words.take (2 * k + 1)) : FirstZeroName others k := by
  have hget : ∀ i ≤ 2 * k, others[i]? = words[i]? := by
    intro i hi
    have hlt : i < 2 * k + 1 := Nat.lt_succ_of_le hi
    rw [← List.getElem?_take_of_lt hlt, hsame, List.getElem?_take_of_lt hlt]
  refine ⟨?_, fun j hj => ?_⟩
  · rw [hget _ (Nat.le_refl _)]
    exact h.zero
  · rw [hget _ (by omega)]
    exact h.first j hj

/-- What follows a zero name is not looked at. -/
theorem decode_congr {others : List Word} (h : FirstZeroName words k)
    (hsame : others.take (2 * k + 1) = words.take (2 * k + 1)) : decode others = decode words := by
  have hpairs : others.take (2 * k) = words.take (2 * k) := by
    have htake := congrArg (List.take (2 * k)) hsame
    rwa [List.take_take, List.take_take, Nat.min_eq_left (Nat.le_succ _)] at htake
  rw [decode_of_firstZeroName (h.congr hsame), decode_of_firstZeroName h, hpairs]

/-- Words without a zero name are refused for what they end with. -/
theorem decode_of_no_zeroName : ∀ {words : List Word}, (∀ k : Nat, words[2 * k]? ≠ some 0) →
    ∃ m : Malformed, decode words = .error m ∧ m.Explains words
  | [], _ => ⟨.unterminated, rfl, rfl⟩
  | [name], h => by
    have hname : name ≠ 0 := fun hname => h 0 (congrArg some hname)
    refine ⟨.missingValue name, ?_, rfl, rfl⟩
    rw [decode, if_neg hname]
  | name :: value :: rest, h => by
    have hname : name ≠ 0 := fun hname => h 0 (congrArg some hname)
    have hrest : ∀ k : Nat, rest[2 * k]? ≠ some 0 := fun k => h (k + 1)
    obtain ⟨m, hm, hexplains⟩ := decode_of_no_zeroName hrest
    refine ⟨m, ?_, ?_⟩
    · rw [decode, if_neg hname, hm]
      rfl
    · cases m with
      | unterminated =>
        rw [Malformed.Explains] at hexplains ⊢
        rw [List.length_cons, List.length_cons]
        omega
      | missingValue last =>
        obtain ⟨hodd, hlast⟩ := hexplains
        cases rest with
        | nil => cases hlast
        | cons first rest =>
          refine ⟨?_, ?_⟩
          · rw [List.length_cons, List.length_cons]
            omega
          · rw [List.getLast?_cons_cons, List.getLast?_cons_cons]
            exact hlast

theorem decode_isOk_iff : (∃ ps, decode words = .ok ps) ↔ ∃ k : Nat, words[2 * k]? = some 0 := by
  constructor
  · rintro ⟨ps, hps⟩
    by_contra hnone
    obtain ⟨m, hm, -⟩ := decode_of_no_zeroName (not_exists.mp hnone)
    rw [hps] at hm
    cases hm
  · intro h
    obtain ⟨k, hk⟩ := exists_firstZeroName h
    exact ⟨_, decode_of_firstZeroName hk⟩

theorem name_ne_zero_of_read {p : Property} (h : p ∈ ps.takeWhile fun p => p.name ≠ 0) :
    p.name ≠ 0 := by
  simpa using List.mem_takeWhile_imp h

/-- No longer part of the list is without a zero name. -/
theorem prefix_read {qs : List Property} (hfront : qs <+: ps) (hnames : ∀ p ∈ qs, p.name ≠ 0) :
    qs <+: ps.takeWhile fun p => p.name ≠ 0 := by
  obtain ⟨rest, rfl⟩ := hfront
  rw [List.takeWhile_append_of_pos fun p hp => decide_eq_true (hnames p hp)]
  exact List.prefix_append qs _

theorem decode_encode_eq_iff : decode (encode ps) = .ok ps ↔ ∀ p ∈ ps, p.name ≠ 0 := by
  rw [decode_eq_ok_iff]
  exact and_iff_right List.prefix_rfl

/-- **A list is read to its zero name.** Words are read exactly if a zero stands at an even
position; then the pairs before the first such zero are read and written as the words up to it,
whatever follows. Without one the words are refused as an invalid value. A list that is written and
read again comes back to its longest part without a zero name, which is all of it exactly if no name
is zero. -/
theorem list_read_to_zero_name (words : List Word) (ps : List Property) :
    ((∃ qs, decode words = .ok qs) ↔ ∃ k : Nat, words[2 * k]? = some 0) ∧
    (∀ k : Nat, FirstZeroName words k →
      let qs := pairsOf (words.take (2 * k))
      decode words = .ok qs ∧ qs.length = k ∧ encode qs = words.take (2 * k + 1) ∧
        byteSize qs = 8 * (2 * k + 1) ∧
        ∀ others : List Word, others.take (2 * k + 1) = words.take (2 * k + 1) →
          decode others = decode words) ∧
    ((∀ k : Nat, words[2 * k]? ≠ some 0) →
      ∃ m : Malformed, decode words = .error m ∧ m.toError.status = .invalidValue ∧
        m.Explains words) ∧
    (∃ read, decode (encode ps) = .ok read ∧ read <+: ps ∧ (∀ p ∈ read, p.name ≠ 0) ∧
      ∀ qs, qs <+: ps → (∀ p ∈ qs, p.name ≠ 0) → qs <+: read) ∧
    (decode (encode ps) = .ok ps ↔ ∀ p ∈ ps, p.name ≠ 0) := by
  refine ⟨decode_isOk_iff, fun k h => ?_, fun h => ?_, ?_, decode_encode_eq_iff⟩
  · obtain ⟨hencode, hlength⟩ := encode_pairsOf h
    refine ⟨decode_of_firstZeroName h, hlength, hencode, ?_, fun others => decode_congr h⟩
    rw [byteSize, hlength, pairBytes, terminatorBytes, wordBytes]
    omega
  · obtain ⟨m, hm, hexplains⟩ := decode_of_no_zeroName h
    exact ⟨m, hm, rfl, hexplains⟩
  · exact ⟨_, decode_encode ps, List.takeWhile_prefix _, fun p => name_ne_zero_of_read,
      fun qs => prefix_read⟩

/-- A value that is zero does not end a list, and words behind the zero name are not read; without
that name the last name has no value. Of a list with a zero name the pair before it comes back. -/
theorem zero_value_read_over :
    let words : List Word := [0x2008, 0, 0x2009, 5, 0, 7, 7]
    let list : List Property := [⟨0x2008, 0⟩, ⟨0, 5⟩, ⟨0x2009, 1⟩]
    decode words = .ok [⟨0x2008, 0⟩, ⟨0x2009, 5⟩] ∧ decode (words.take 5) = decode words ∧
      (∃ m : Malformed, decode [0x2008, 0, 0x2009] = .error m ∧
        m.Explains [0x2008, 0, 0x2009]) ∧
      decode (encode list) ≠ .ok list := by
  intro words list
  have hfirst : FirstZeroName words 2 := by
    refine ⟨rfl, fun j hj => ?_⟩
    interval_cases j <;> decide
  have hnone : ∀ k : Nat, [0x2008, 0, (0x2009 : Word)][2 * k]? ≠ some 0 := by
    intro k
    by_cases hk : k < 2
    · interval_cases k <;> decide
    · rw [List.getElem?_eq_none (by simp; omega)]
      exact Option.some_ne_none 0 |>.symm
  obtain ⟨-, hread, -, -, hback⟩ := list_read_to_zero_name words list
  obtain ⟨hdecode, -, -, -, hfollowing⟩ := hread 2 hfirst
  obtain ⟨-, -, hrefused, -, -⟩ := list_read_to_zero_name [0x2008, 0, 0x2009] []
  obtain ⟨m, hm, -, hexplains⟩ := hrefused hnone
  refine ⟨hdecode, hfollowing _ rfl, ⟨m, hm, hexplains⟩, fun hsame => ?_⟩
  exact hback.mp hsame ⟨0, 5⟩ (by decide) rfl

end ComputeContext.Property
