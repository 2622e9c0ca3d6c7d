/-
# Which texts an ASCII word is the lower case of

Lower case knows the letters of the whole Unicode standard, so it takes the
standard's data to say which texts come out as a given word. There are few.
Beyond the first 128 code points one character alone has its lower case within
them, the Kelvin sign, and that is k. Every other one leaves a character beyond
them in the lower case (`Text.exists_beyond_ascii_of_mem`): itself if no run of
the table covers it, else the one that its run moves it to, since the runs keep
clear of them (`Text.lowercaseRuns_beyond_ascii`); the dotted capital I the
combining dot that it gains, the capital sigma either of its small forms. So an
ASCII word is the lower case of exactly the texts that are the word, up to the
case of their ASCII letters, once each Kelvin sign is written as a k
(`Text.lowercase_eq_iff`).

Key definitions: `Text.kelvinSign`, `Text.kelvinAsK`, `Text.Plain`.
Key theorems: `Text.exists_beyond_ascii_of_mem`, `Text.lowercase_eq_iff`,
`Text.plain_of_lowercase_eq`.
-/
import ComputeContext.Text

namespace ComputeContext.Text

/-- The sign of the unit of temperature, which looks like a capital k. -/
def kelvinSign : Char := '\u212A'

/-- A k for the Kelvin sign, and any other character itself. -/
def asK (c : Char) : Char := if c = kelvinSign then 'k' else c

/-- The text with a k in the place of each Kelvin sign. -/
def kelvinAsK (s : String) : String := s.map asK

/-- The character is an ASCII one or the Kelvin sign. -/
def Plain (c : Char) : Prop := c.toNat < 128 ∨ c = kelvinSign

instance (c : Char) : Decidable (Plain c) := inferInstanceAs (Decidable (_ ∨ _))

variable {c : Char} {cs before : List Char} {s w : String}

/-! ### One character -/

theorem asK_of_ne (hc : c ≠ kelvinSign) : asK c = c := if_neg hc

theorem toLower_eq_self (hc : 128 ≤ c.toNat) : c.toLower = c := by
  have hnot : ¬(c.val ≥ 'A'.val ∧ c.val ≤ 'Z'.val) := by
    rintro ⟨-, hle⟩
    have hle : c.toNat ≤ 90 := UInt32.le_iff_toNat_le.mp hle
    omega
  exact dif_neg hnot

/-- A run of the table lies within the ASCII characters, is the Kelvin sign alone, or is moved to
characters beyond the ASCII ones. -/
theorem lowercaseRuns_beyond_ascii : ∀ r ∈ lowercaseRuns,
    r.last < 128 ∨ r.first = kelvinSign.toNat ∧ r.last = kelvinSign.toNat ∨
      128 ≤ r.first + r.shift ∧
        (r.last + r.shift < 0xD800 ∨ 0xE000 ≤ r.first + r.shift ∧ r.last + r.shift < 0x110000) := by
  decide +kernel

theorem shift_beyond_ascii {r : LowercaseRun} (hr : r ∈ lowercaseRuns)
    (hcovers : r.covers c.toNat = true) (hc : ¬Plain c) :
    128 ≤ (Char.ofNat (c.toNat + r.shift).toNat).toNat := by
  obtain ⟨hascii, hkelvin⟩ := not_or.mp hc
  simp only [LowercaseRun.covers, Bool.and_eq_true, decide_eq_true_eq] at hcovers
  obtain ⟨⟨hfirst, hlast⟩, -⟩ := hcovers
  rcases lowercaseRuns_beyond_ascii r hr with hlow | ⟨hfrom, hto⟩ | ⟨hbeyond, hvalid⟩
  · omega
  · have hsame : c.toNat = kelvinSign.toNat := by omega
    exact absurd (Char.toNat_inj.mp hsame) hkelvin
  · -- A number of no character would come out as the zero character, which is an ASCII one.
    have hchar : (c.toNat + r.shift).toNat.isValidChar := by
      unfold Nat.isValidChar
      omega
    rw [Char.ofNat, dif_pos hchar]
    show 128 ≤ (c.toNat + r.shift).toNat
    omega

theorem lowercaseChar_of_plain (hc : Plain c) : lowercaseChar c = [(asK c).toLower] := by
  rcases hc with hascii | rfl
  · have hkelvin : c ≠ kelvinSign := by
      rintro rfl
      exact absurd hascii (by decide)
    rw [asK_of_ne hkelvin, lowercaseChar_ascii c hascii]
  · decide +kernel

theorem exists_beyond_ascii_of_lowercaseChar (hc : ¬Plain c) :
    ∃ d ∈ lowercaseChar c, 128 ≤ d.toNat := by
  unfold lowercaseChar
  by_cases hdotted : c = 'İ'
  · rw [if_pos hdotted]
    exact ⟨'\u0307', by simp, by decide⟩
  · rw [if_neg hdotted]
    cases hrun : lowercaseRuns.find? (·.covers c.toNat) with
    | none =>
      have hascii : ¬c.toNat < 128 := (not_or.mp hc).1
      exact ⟨c, by simp, by omega⟩
    | some r =>
      have hmem : r ∈ lowercaseRuns := List.mem_of_find?_eq_some hrun
      have hcovers := List.find?_some hrun
      exact ⟨_, List.mem_singleton_self _, shift_beyond_ascii hmem hcovers hc⟩

/-! ### A text -/

/-- The final sigma has no say in a text of plain characters. -/
theorem lowercaseAfter_of_plain (hplain : ∀ c ∈ cs, Plain c) :
    lowercaseAfter before cs = cs.map fun c => (asK c).toLower := by
  induction cs generalizing before with
  | nil => rfl
  | cons c rest ih =>
    obtain ⟨hc, hrest⟩ := List.forall_mem_cons.mp hplain
    have hsigma : c ≠ 'Σ' := by
      rintro rfl
      exact absurd hc (by decide)
    rw [lowercaseAfter, if_neg hsigma, lowercaseChar_of_plain hc, ih hrest]
    rfl

/-- A character that is not plain leaves one beyond ASCII in the lower case of its text, wherever it
stands. -/
theorem exists_beyond_ascii_of_mem (hmem : c ∈ cs) (hc : ¬Plain c) :
    ∃ d ∈ lowercaseAfter before cs, 128 ≤ d.toNat := by
  induction cs generalizing before with
  | nil => cases hmem
  | cons first rest ih =>
    rw [lowercaseAfter]
    rcases List.mem_cons.mp hmem with rfl | hrest
    · by_cases hsigma : c = 'Σ'
      · -- Both small sigmas are beyond ASCII, so it does not matter whether a word ends here.
        rw [if_pos hsigma]
        refine ⟨if endsWord before rest then 'ς' else 'σ', by simp, ?_⟩
        cases endsWord before rest <;> decide
      · rw [if_neg hsigma]
        obtain ⟨d, hd, hbeyond⟩ := exists_beyond_ascii_of_lowercaseChar hc
        exact ⟨d, List.mem_append_left _ hd, hbeyond⟩
    · obtain ⟨d, hd, hbeyond⟩ := ih hrest
      exact ⟨d, List.mem_append_right _ hd, hbeyond⟩

theorem toList_toLower_kelvinAsK (s : String) : (kelvinAsK s).toLower.toList =
    s.toList.map fun c => (asK c).toLower := by
  unfold kelvinAsK String.toLower
  rw [String.toList_map, String.toList_map, List.map_map]
  rfl

theorem kelvinAsK_eq_self (hnone : kelvinSign ∉ s.toList) : kelvinAsK s = s := by
  rw [← String.toList_inj, kelvinAsK, String.toList_map]
  refine (List.map_congr_left fun c hmem => ?_).trans (List.map_id _)
  exact asK_of_ne fun hc => hnone (hc ▸ hmem)

theorem lowercase_of_plain (hplain : ∀ c ∈ s.toList, Plain c) :
    lowercase s = (kelvinAsK s).toLower := by
  unfold lowercase
  rw [lowercaseAfter_of_plain hplain, ← toList_toLower_kelvinAsK, String.ofList_toList]

/-- Only texts of plain characters have an ASCII lower case. -/
theorem plain_of_lowercase_eq (hascii : ∀ d ∈ w.toList, d.toNat < 128) (h : lowercase s = w) :
    ∀ c ∈ s.toList, Plain c := by
  intro c hmem
  refine Decidable.byContradiction fun hc => ?_
  obtain ⟨d, hd, hbeyond⟩ : ∃ d ∈ lowercaseAfter [] s.toList, 128 ≤ d.toNat :=
    exists_beyond_ascii_of_mem hmem hc
  have hlow : d.toNat < 128 := by
    apply hascii
    rwa [← h, lowercase, String.toList_ofList]
  omega

/-- Only texts of plain characters are an ASCII word up to the case of ASCII letters, even with a k
for each Kelvin sign. -/
theorem plain_of_toLower_eq (hascii : ∀ d ∈ w.toList, d.toNat < 128)
    (h : (kelvinAsK s).toLower = w) : ∀ c ∈ s.toList, Plain c := by
  intro c hmem
  refine Decidable.byContradiction fun hc => ?_
  obtain ⟨hbeyond, hkelvin⟩ := not_or.mp hc
  have hkept : c ∈ w.toList := by
    rw [← h, toList_toLower_kelvinAsK]
    refine List.mem_map.mpr ⟨c, hmem, ?_⟩
    rw [asK_of_ne hkelvin, toLower_eq_self (by omega)]
  exact hbeyond (hascii c hkept)

/-- An ASCII word is the lower case of the texts that are the word up to the case of ASCII letters,
a Kelvin sign being taken for a k. -/
theorem lowercase_eq_iff (hascii : ∀ d ∈ w.toList, d.toNat < 128) :
    lowercase s = w ↔ (kelvinAsK s).toLower = w := by
  constructor
  · intro h
    rw [← lowercase_of_plain (plain_of_lowercase_eq hascii h), h]
  · intro h
    rw [lowercase_of_plain (plain_of_toLower_eq hascii h), h]

end ComputeContext.Text
