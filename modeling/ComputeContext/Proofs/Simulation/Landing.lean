/-
# Where fresh addresses lie

A fresh address of a simulated device has a place, the base of the device and
a stride for each address it has handed out, and lies at the first multiple of
the alignment from there on (`Simulation.Draw.landing`). That is the only
multiple less than one alignment above the place (`Simulation.Draw.LandsAt`),
so two fresh addresses are the same exactly if a common multiple of both
alignments lies that near to both places (`Simulation.Draw.Collides`).
Alignments up to one stride keep every address in the stride of its place, and
then two addresses can only be the same if a device has handed out so many
that its strides run into those of the next device.

A device that is asked for a region without a hint can pick its next fresh
address unless the word goes round to zero
(`Simulation.DeviceState.CanPick`). Where the address would lie is never zero,
so a device can pick it if that is a word, and for the first devices it is one
for a long time, whatever the alignment
(`Simulation.DeviceState.canPick_of_few`).

Key definitions: `Simulation.Draw`, `Simulation.Draw.landing`,
`Simulation.Draw.Collides`, `Simulation.Draw.Fits`,
`Simulation.DeviceState.CanPick`.
Key theorems: `Simulation.Draw.landsAt_iff`, `Simulation.Draw.collides_iff`,
`Simulation.Draw.not_collides_of_small`, `Simulation.Draw.fits_of_few`,
`Simulation.toNat_freshWord`, `Simulation.DeviceState.canPick_of_few`,
`Simulation.DeviceState.isSome_svmAlloc_none`.
-/
import ComputeContext.Simulation.World
import Mathlib.Algebra.Group.Nat.Defs
import Mathlib.Order.Basic
import Mathlib.Tactic.SplitIfs

namespace ComputeContext.Simulation

/-- A fresh address that a device is to hand out: which of its addresses, counted from one, and at
which alignment. -/
structure Draw where
  device : DeviceId
  number : Nat
  alignment : UInt64
deriving DecidableEq

namespace Draw

/-- Where the address lies before it is rounded up. -/
def place (w : Draw) : Nat := (w.device.index + 1) * 2 ^ 32 + w.number * 2 ^ 16

/-- What the address is to be a multiple of. An alignment of zero does not align. -/
def step (w : Draw) : Nat := max w.alignment.toNat 1

/-- Where the address lies, however large that number is. -/
def landing (w : Draw) : Nat := (w.place + (w.step - 1)) / w.step * w.step

/-- The number is a multiple, and less than one step above the place. -/
def LandsAt (w : Draw) (a : Nat) : Prop := w.step ∣ a ∧ w.place ≤ a ∧ a < w.place + w.step

/-- Both come to lie at the same number. -/
def Collides (w w' : Draw) : Prop := ∃ a, w.LandsAt a ∧ w'.LandsAt a

/-- The address does not go past the end of all words. -/
def Fits (w : Draw) : Prop := w.landing < 2 ^ 64

instance (w : Draw) : Decidable w.Fits := inferInstanceAs (Decidable (_ < _))

end Draw

theorem eq_of_dvd_of_near {n x a b : Nat} (ha : n ∣ a) (hb : n ∣ b) (hxa : x ≤ a) (hax : a < x + n)
    (hxb : x ≤ b) (hbx : b < x + n) : a = b := by
  rcases Nat.le_total a b with h | h
  · have hzero : b - a = 0 := Nat.eq_zero_of_dvd_of_lt (Nat.dvd_sub hb ha) (by omega)
    omega
  · have hzero : a - b = 0 := Nat.eq_zero_of_dvd_of_lt (Nat.dvd_sub ha hb) (by omega)
    omega

namespace Draw

variable {w w' : Draw} {a : Nat}

theorem one_le_step (w : Draw) : 1 ≤ w.step := Nat.le_max_right ..

theorem place_pos (w : Draw) : 0 < w.place := by
  unfold place
  omega

theorem landsAt_landing (w : Draw) : w.LandsAt w.landing := by
  have hpos := w.one_le_step
  have hle : w.landing ≤ w.place + (w.step - 1) := Nat.div_mul_le_self ..
  have hlt : w.place + (w.step - 1) < w.landing + w.step := Nat.lt_div_mul_add hpos
  exact ⟨Nat.dvd_mul_left .., by omega, by omega⟩

theorem landing_pos (w : Draw) : 0 < w.landing :=
  Nat.lt_of_lt_of_le w.place_pos w.landsAt_landing.2.1

/-- Only one number is a multiple that near to the place. -/
theorem landsAt_iff : w.LandsAt a ↔ a = w.landing := by
  constructor
  · intro h
    have hlanding := w.landsAt_landing
    exact eq_of_dvd_of_near h.1 hlanding.1 h.2.1 h.2.2 hlanding.2.1 hlanding.2.2
  · rintro rfl
    exact w.landsAt_landing

theorem collides_iff : w.Collides w' ↔ w.landing = w'.landing := by
  constructor
  · rintro ⟨a, h, h'⟩
    exact (landsAt_iff.mp h).symm.trans (landsAt_iff.mp h')
  · intro h
    exact ⟨w.landing, w.landsAt_landing, landsAt_iff.mpr h⟩

instance (w w' : Draw) : Decidable (w.Collides w') := decidable_of_iff _ collides_iff.symm

theorem dvd_landing (hasked : w.alignment ≠ 0) : w.alignment.toNat ∣ w.landing := by
  have hpos : 1 ≤ w.alignment.toNat := by
    rw [Nat.one_le_iff_ne_zero]
    exact fun hzero => hasked (UInt64.toNat_inj.mp hzero)
  have hstep : w.step = w.alignment.toNat := Nat.max_eq_left hpos
  rw [← hstep]
  exact w.landsAt_landing.1

/-- An alignment of at most a stride leaves an address in the stride of its place. -/
theorem landing_div_stride (hsmall : w.alignment.toNat ≤ 2 ^ 16) :
    w.landing / 2 ^ 16 = (w.device.index + 1) * 2 ^ 16 + w.number := by
  obtain ⟨hdvd, hle, hlt⟩ := w.landsAt_landing
  have hstep : w.step ≤ 2 ^ 16 := Nat.max_le.mpr ⟨hsmall, by decide⟩
  have hplace : w.place = ((w.device.index + 1) * 2 ^ 16 + w.number) * 2 ^ 16 := by
    unfold place
    omega
  omega

/-- As long as the strides of a device do not run into those of the next one, addresses at
alignments up to a stride are as different as the draws. -/
theorem not_collides_of_small (hsmall : w.alignment.toNat ≤ 2 ^ 16)
    (hsmall' : w'.alignment.toNat ≤ 2 ^ 16) (hnumber : 1 ≤ w.number ∧ w.number ≤ 2 ^ 16)
    (hnumber' : 1 ≤ w'.number ∧ w'.number ≤ 2 ^ 16)
    (hne : w.device = w'.device → w.number ≠ w'.number) : ¬w.Collides w' := by
  rw [collides_iff]
  intro hsame
  have hstride : (w.device.index + 1) * 2 ^ 16 + w.number =
      (w'.device.index + 1) * 2 ^ 16 + w'.number := by
    rw [← landing_div_stride hsmall, hsame, landing_div_stride hsmall']
  have hindex : w.device.index = w'.device.index := by omega
  have hdevice : w.device = w'.device := congrArg DeviceId.mk hindex
  exact hne hdevice (by omega)

/-- The addresses of the first 2^30 - 1 devices are words up to the 2^46th, whatever the
alignment. -/
theorem fits_of_few (hdevice : w.device.index + 1 < 2 ^ 30) (hnumber : w.number < 2 ^ 46) :
    w.Fits := by
  have hplace : w.place < 2 ^ 63 := by
    unfold place
    omega
  have hstep : w.step < 2 ^ 64 := Nat.max_lt.mpr ⟨UInt64.toNat_lt _, by decide⟩
  unfold Fits
  rcases Nat.lt_or_ge (2 ^ 63) w.step with hlarge | hsmall
  · -- The place is below the alignment, which is then the first multiple.
    have hself : w.LandsAt w.step := ⟨Nat.dvd_refl _, by omega, Nat.lt_add_of_pos_left w.place_pos⟩
    rw [← landsAt_iff.mp hself]
    exact hstep
  · have hlt := w.landsAt_landing.2.2
    omega

end Draw

/-- The word of an address before it is rounded up, as long as it does not go round itself. -/
theorem toNat_unrounded {index : Nat} {n : UInt64}
    (h : index * 2 ^ 32 + n.toNat * 2 ^ 16 < 2 ^ 64) :
    (UInt64.ofNat index * baseStride + n * addressStride).toNat =
      index * 2 ^ 32 + n.toNat * 2 ^ 16 := by
  have hleft : index * 2 ^ 32 < 2 ^ 64 := Nat.lt_of_le_of_lt (Nat.le_add_right ..) h
  have hright : n.toNat * 2 ^ 16 < 2 ^ 64 := Nat.lt_of_le_of_lt (Nat.le_add_left ..) h
  have hbase : (UInt64.ofNat index * baseStride).toNat = index * 2 ^ 32 := by
    have hword : (UInt64.ofNat index).toNat = index :=
      UInt64.toNat_ofNat_of_lt' (show index < 2 ^ 64 by omega)
    rw [UInt64.toNat_mul, hword]
    exact Nat.mod_eq_of_lt hleft
  have hstrides : (n * addressStride).toNat = n.toNat * 2 ^ 16 := by
    rw [UInt64.toNat_mul]
    exact Nat.mod_eq_of_lt hright
  rw [UInt64.toNat_add, hbase, hstrides]
  exact Nat.mod_eq_of_lt h

theorem dvd_of_kept {w alignment : UInt64} (h : alignment ≤ 1 ∨ w % alignment = 0) :
    max alignment.toNat 1 ∣ w.toNat := by
  rcases Nat.le_total alignment.toNat 1 with hsmall | hlarge
  · rw [Nat.max_eq_right hsmall]
    exact Nat.one_dvd _
  · rw [Nat.max_eq_left hlarge]
    rcases h with hone | hzero
    · have halign : alignment.toNat = 1 := Nat.le_antisymm (UInt64.le_iff_toNat_le.mp hone) hlarge
      rw [halign]
      exact Nat.one_dvd _
    · apply Nat.dvd_of_mod_eq_zero
      rw [← UInt64.toNat_mod, hzero, UInt64.toNat_zero]

/-- A word that is rounded up goes up by what is missing to the next multiple. -/
theorem toNat_gap {w alignment : UInt64} (hpos : 0 < alignment.toNat) :
    (alignment - w % alignment).toNat = alignment.toNat - w.toNat % alignment.toNat := by
  have hrest : w.toNat % alignment.toNat < alignment.toNat := Nat.mod_lt _ hpos
  rw [UInt64.toNat_sub_of_le, UInt64.toNat_mod]
  rw [UInt64.le_iff_toNat_le, UInt64.toNat_mod]
  omega

theorem dvd_add_gap {n : Nat} (hpos : 0 < n) (x : Nat) : n ∣ x + (n - x % n) := by
  have hparts := Nat.div_add_mod x n
  have hrest : x % n < n := Nat.mod_lt _ hpos
  refine ⟨x / n + 1, ?_⟩
  rw [Nat.mul_add, Nat.mul_one]
  omega

theorem toNat_roundUp {w alignment : UInt64} {a : Nat} (hdvd : max alignment.toNat 1 ∣ a)
    (hle : w.toNat ≤ a) (hlt : a < w.toNat + max alignment.toNat 1) (ha : a < 2 ^ 64) :
    (roundUp w alignment).toNat = a := by
  unfold roundUp
  split_ifs with h
  · exact eq_of_dvd_of_near (dvd_of_kept h) hdvd (Nat.le_refl _) (by omega) hle hlt
  · rw [not_or] at h
    obtain ⟨hone, hrest⟩ := h
    have hlarge : 1 < alignment.toNat := by
      rw [UInt64.le_iff_toNat_le] at hone
      exact Nat.lt_of_not_le hone
    have hpos : 0 < alignment.toNat := by omega
    have hnonzero : w.toNat % alignment.toNat ≠ 0 := by
      rw [← UInt64.toNat_mod]
      exact fun hzero => hrest (UInt64.toNat_inj.mp hzero)
    rw [Nat.max_eq_left (by omega)] at hdvd hlt
    have hnext : w.toNat + (alignment.toNat - w.toNat % alignment.toNat) = a :=
      eq_of_dvd_of_near (dvd_add_gap hpos w.toNat) hdvd (by omega) (by omega) hle hlt
    calc (w + (alignment - w % alignment)).toNat
      _ = (w.toNat + (alignment.toNat - w.toNat % alignment.toNat)) % 2 ^ 64 := by
        rw [UInt64.toNat_add, toNat_gap hpos]
      _ = a % 2 ^ 64 := by rw [hnext]
      _ = a := Nat.mod_eq_of_lt ha

/-- The fresh word of a device lies where its draw lands, if that is a word. -/
theorem toNat_freshWord {d : DeviceId} {n alignment : UInt64}
    (hfits : Draw.Fits ⟨d, n.toNat, alignment⟩) :
    (freshWord d n alignment).toNat = Draw.landing ⟨d, n.toNat, alignment⟩ := by
  obtain ⟨hdvd, hle, hlt⟩ := Draw.landsAt_landing ⟨d, n.toNat, alignment⟩
  have hword := toNat_unrounded (Nat.lt_of_le_of_lt hle hfits)
  apply toNat_roundUp hdvd
  · rw [hword]
    exact hle
  · rw [hword]
    exact hlt
  · exact hfits

/-! ### Devices that can pick an address -/

namespace DeviceState

/-- The device has an address to pick: its next fresh word is not zero. -/
def CanPick (d : DeviceId) (alignment : UInt64) (s : DeviceState) : Prop :=
  freshWord d (s.issued + 1) alignment ≠ 0

instance (d : DeviceId) (alignment : UInt64) (s : DeviceState) :
    Decidable (s.CanPick d alignment) := inferInstanceAs (Decidable (_ ≠ _))

theorem canPick_of_fits {d : DeviceId} {alignment : UInt64} {s : DeviceState}
    (hfits : Draw.Fits ⟨d, (s.issued + 1).toNat, alignment⟩) : s.CanPick d alignment := by
  intro hzero
  have hword := toNat_freshWord hfits
  rw [hzero, UInt64.toNat_zero] at hword
  exact Nat.ne_of_lt (Draw.landing_pos _) hword

/-- Each of the first 2^30 - 1 devices can pick an address until it has handed out 2^45, whatever
the alignment. -/
theorem canPick_of_few {d : DeviceId} {s : DeviceState} (alignment : UInt64)
    (hd : d.index + 1 < 2 ^ 30) (hs : s.issued.toNat < 2 ^ 45) : s.CanPick d alignment := by
  have hn : (s.issued + 1).toNat = s.issued.toNat + 1 := by
    rw [UInt64.toNat_add]
    exact Nat.mod_eq_of_lt (show s.issued.toNat + 1 < 2 ^ 64 by omega)
  apply canPick_of_fits
  apply Draw.fits_of_few hd
  show (s.issued + 1).toNat < 2 ^ 46
  omega

/-- Without a hint a device gives a region if it accepts and can pick an address. -/
theorem isSome_svmAlloc_none (d : DeviceId) (alignment : UInt64) (s : DeviceState) :
    (svmAlloc d alignment none s).1.isSome = true ↔
      s.failsSvm = false ∧ s.CanPick d alignment := by
  unfold svmAlloc
  cases hfails : s.failsSvm with
  | true => simp
  | false =>
    show (Address.ofWord? (freshWord d (s.issued + 1) alignment)).isSome = true ↔ _
    unfold CanPick Address.ofWord?
    split_ifs with hword
    · simp [hword]
    · simp [hword]

end DeviceState
end ComputeContext.Simulation
