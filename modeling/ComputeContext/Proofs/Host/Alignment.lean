/-
# How blocks of the heap are aligned

A heap that keeps to the layouts it is given puts each block at a multiple of
the alignment of its layout. The layout of a request is aligned to a word at
least, and only that alignment has to be a power of two. So an alignment from
that of a word on is kept or refused, and a smaller one is kept if it divides
that of a word, as the powers of two do. The smaller ones that are no powers
of two are overlooked: they are served as if a word's alignment had been asked
for, which is no multiple of them.

Key definitions: `Backend.HeapAligns`, `Layout.Overlooked`.
Key theorems: `Layout.isPowerOfTwo_iff_dvd_word`,
`HostPool.allocate_eq_some_iff`, `HostPool.aligned_iff_not_overlooked`.
-/
import ComputeContext.Host.Pool
import ComputeContext.Simulation.World
import Mathlib.Tactic.IntervalCases

namespace ComputeContext

variable {σ : Type} {size alignment : UInt64}

/-- The heap keeps to the layouts it is given: its blocks lie at multiples of their alignments. -/
def Backend.HeapAligns (b : Backend σ) : Prop :=
  ∀ layout s, ∀ p ∈ (b.answerHeapAlloc layout s).1, p.AlignedTo layout.alignment

namespace Layout

/-- The alignment is no power of two, but a word's takes its place and is one. -/
def Overlooked (alignment : UInt64) : Prop :=
  alignment < wordAlignment ∧ isPowerOfTwo alignment = false

instance (alignment : UInt64) : Decidable (Overlooked alignment) :=
  inferInstanceAs (Decidable (_ ∧ _))

/-- Of the alignments below that of a word, the powers of two are those that divide it. -/
theorem isPowerOfTwo_iff_dvd_word (hasked : alignment ≠ 0) (hsmall : alignment < wordAlignment) :
    isPowerOfTwo alignment = true ↔ alignment.toNat ∣ wordAlignment.toNat := by
  have hlt : alignment.toNat < 8 := UInt64.lt_iff_toNat_lt.mp hsmall
  have hpos : 0 < alignment.toNat := by
    rw [Nat.pos_iff_ne_zero]
    exact fun h => hasked (UInt64.toNat_inj.mp h)
  obtain ⟨n, hn, hword⟩ : ∃ n, n = alignment.toNat ∧ alignment = UInt64.ofNat n :=
    ⟨_, rfl, UInt64.ofNat_toNat.symm⟩
  rw [← hn] at hlt hpos
  rw [hword]
  interval_cases n <;> decide

theorem max_of_small (h : alignment < wordAlignment) :
    max alignment wordAlignment = wordAlignment := if_pos (UInt64.le_of_lt h)

theorem max_of_large (h : ¬alignment < wordAlignment) :
    max alignment wordAlignment = alignment := by
  have hle : wordAlignment ≤ alignment := UInt64.not_lt.mp h
  show (if alignment ≤ wordAlignment then wordAlignment else alignment) = alignment
  split
  · exact UInt64.le_antisymm hle ‹_›
  · rfl

theorem ofRequest?_eq_some_iff {layout : Layout} :
    ofRequest? size alignment = some layout ↔
      isPowerOfTwo (max alignment wordAlignment) = true ∧
      size.toNat + ((max alignment wordAlignment).toNat - 1) ≤ largestSize ∧
      layout = ⟨size, max alignment wordAlignment⟩ := by
  unfold ofRequest? of?
  rw [Option.ite_none_right_eq_some, and_assoc, Option.some_inj, eq_comm (b := layout)]

end Layout

namespace HostPool

variable {pool : HostPool} {atomics : Bool} {b : Backend σ} {s : σ} {p : Address}

/-- A pool without a device answers with the block that the heap gives for the layout of the
request, and a request of no bytes not at all. -/
theorem allocate_eq_some_iff (hheap : pool.provider = none) :
    ((pool.allocate b size alignment atomics).run s).value.1 = some p ↔
      size ≠ 0 ∧ ∃ layout, Layout.ofRequest? size alignment = some layout ∧
        (b.answerHeapAlloc layout s).1 = some p := by
  simp only [allocate, hheap, allocateFromHeap]
  by_cases hsize : size = 0
  · simp [hsize]
  rw [if_neg hsize]
  cases hlayout : Layout.ofRequest? size alignment with
  | none => simp
  | some layout =>
    simp only [Backend.heapAlloc, Act.bind_value, Act.call_value, Act.call_state]
    cases hanswer : (b.answerHeapAlloc layout s).1 with
    | none => simp [hanswer]
    | some q => simp [hsize, hanswer]

theorem alignedTo_max (hheap : pool.provider = none) (hkeeps : b.HeapAligns)
    (hp : ((pool.allocate b size alignment atomics).run s).value.1 = some p) :
    Layout.isPowerOfTwo (max alignment Layout.wordAlignment) = true ∧
      p.AlignedTo (max alignment Layout.wordAlignment) := by
  obtain ⟨-, layout, hlayout, hanswer⟩ := (allocate_eq_some_iff hheap).mp hp
  obtain ⟨hpower, -, rfl⟩ := Layout.ofRequest?_eq_some_iff.mp hlayout
  exact ⟨hpower, hkeeps _ s p hanswer⟩

theorem aligned_or_overlooked (hheap : pool.provider = none) (hasked : alignment ≠ 0)
    (hkeeps : b.HeapAligns)
    (hp : ((pool.allocate b size alignment atomics).run s).value.1 = some p) :
    Layout.isPowerOfTwo alignment = true ∧ p.AlignedTo alignment ∨
      Layout.Overlooked alignment ∧ p.AlignedTo Layout.wordAlignment := by
  obtain ⟨hpower, haligned⟩ := alignedTo_max hheap hkeeps hp
  by_cases hsmall : alignment < Layout.wordAlignment
  · rw [Layout.max_of_small hsmall] at haligned
    cases hasks : Layout.isPowerOfTwo alignment with
    | true =>
      have hdvd := (Layout.isPowerOfTwo_iff_dvd_word hasked hsmall).mp hasks
      exact .inl ⟨rfl, hdvd.trans haligned⟩
    | false => exact .inr ⟨⟨hsmall, hasks⟩, haligned⟩
  · rw [Layout.max_of_large hsmall] at hpower haligned
    exact .inl ⟨hpower, haligned⟩

/-- An outside whose heap puts every block as low as its layout allows. -/
def lowHeap : Backend Simulation.State :=
  { Simulation.backend (fun _ => ⟨⟨"", ∅, 0⟩, false, .plain, false⟩) ⟨[]⟩ with
    answerHeapAlloc := fun layout => pure (Address.ofWord? layout.alignment) }

theorem lowHeap_aligns : lowHeap.HeapAligns := by
  intro layout s p hp
  have hword : p.word = layout.alignment := Address.ofWord?_eq_some_iff.mp hp
  show layout.alignment.toNat ∣ p.word.toNat
  rw [hword]

/-- Who is overlooked gets a block at the alignment of a word. -/
theorem allocate_lowHeap (hheap : pool.provider = none) (hover : Layout.Overlooked alignment)
    (hsize : size ≠ 0) (hfits : size.toNat + 7 ≤ Layout.largestSize) (s : Simulation.State) :
    ((pool.allocate lowHeap size alignment atomics).run s).value.1 =
      some ⟨Layout.wordAlignment, by decide⟩ := by
  refine (allocate_eq_some_iff hheap).mpr ⟨hsize, ⟨size, Layout.wordAlignment⟩, ?_, rfl⟩
  rw [Layout.ofRequest?_eq_some_iff, Layout.max_of_small hover.1]
  exact ⟨by decide, hfits, rfl⟩

/-- **Blocks are aligned as asked unless the alignment is overlooked.** A pool without a device is
asked for a block at an alignment other than zero, and the heap keeps to the layouts it is given. A
block that comes of it is aligned as asked for, which then is a power of two; or the alignment is
overlooked and the block is aligned to a word. That each such heap gives blocks aligned as asked for
is true exactly if the alignment is not overlooked, or the size is one that is always refused. -/
theorem aligned_iff_not_overlooked (pool : HostPool) (hheap : pool.provider = none)
    (size : UInt64) {alignment : UInt64} (hasked : alignment ≠ 0) (atomics : Bool) :
    (∀ (σ : Type) (b : Backend σ) (s : σ) (p : Address), b.HeapAligns →
      ((pool.allocate b size alignment atomics).run s).value.1 = some p →
        Layout.isPowerOfTwo alignment = true ∧ p.AlignedTo alignment ∨
          Layout.Overlooked alignment ∧ p.AlignedTo Layout.wordAlignment) ∧
    ((∀ (σ : Type) (b : Backend σ) (s : σ) (p : Address), b.HeapAligns →
      ((pool.allocate b size alignment atomics).run s).value.1 = some p → p.AlignedTo alignment) ↔
        (Layout.Overlooked alignment → size = 0 ∨ Layout.largestSize < size.toNat + 7)) := by
  refine ⟨fun σ b s p => aligned_or_overlooked hheap hasked, ?_, ?_⟩
  · intro haligned hover
    by_contra hserved
    rw [not_or, Nat.not_lt] at hserved
    obtain ⟨hsize, hfits⟩ := hserved
    -- A block at the alignment of a word is no multiple of an alignment that is overlooked.
    have hdvd : alignment.toNat ∣ Layout.wordAlignment.toNat :=
      haligned _ lowHeap (.start (fun _ => default) (fun _ => []) []) _ lowHeap_aligns
        (allocate_lowHeap hheap hover hsize hfits _)
    rw [← Layout.isPowerOfTwo_iff_dvd_word hasked hover.1, hover.2] at hdvd
    exact Bool.false_ne_true hdvd
  · intro hrefused σ b s p hkeeps hp
    rcases aligned_or_overlooked hheap hasked hkeeps hp with ⟨-, haligned⟩ | ⟨hover, -⟩
    · exact haligned
    · exfalso
      obtain ⟨hsize, layout, hlayout, -⟩ := (allocate_eq_some_iff hheap).mp hp
      obtain ⟨-, hfits, -⟩ := Layout.ofRequest?_eq_some_iff.mp hlayout
      rw [Layout.max_of_small hover.1] at hfits
      rcases hrefused hover with hzero | hlarge
      · exact hsize hzero
      · exact absurd hfits (Nat.not_le.mpr hlarge)

/-- A heap that keeps to its layouts serves an alignment of 4096 as asked for; that every such heap
serves an alignment of 6 as asked for is not so, and an alignment of 48 none serves. -/
theorem page_aligned_six_overlooked :
    let s := Simulation.State.start (fun _ => default) (fun _ => []) []
    lowHeap.HeapAligns ∧
      (((ofProvider none).allocate lowHeap 100 4096 false).run s).value.1 =
        some ⟨4096, by decide⟩ ∧
      Address.AlignedTo ⟨4096, by decide⟩ 4096 ∧
      (¬∀ (σ : Type) (b : Backend σ) (s : σ) (p : Address), b.HeapAligns →
        (((ofProvider none).allocate b 64 6 false).run s).value.1 = some p → p.AlignedTo 6) ∧
      ∀ (σ : Type) (b : Backend σ) (s : σ), b.HeapAligns →
        (((ofProvider none).allocate b 64 48 true).run s).value.1 = none := by
  intro s
  have hserved : (((ofProvider none).allocate lowHeap 100 4096 false).run s).value.1 =
      some ⟨4096, by decide⟩ := by rfl
  obtain ⟨hpage, -⟩ := aligned_iff_not_overlooked (ofProvider none) rfl 100
    (show (4096 : UInt64) ≠ 0 by decide) false
  obtain ⟨-, hsix⟩ := aligned_iff_not_overlooked (ofProvider none) rfl 64
    (show (6 : UInt64) ≠ 0 by decide) false
  obtain ⟨hforty, -⟩ := aligned_iff_not_overlooked (ofProvider none) rfl 64
    (show (48 : UInt64) ≠ 0 by decide) true
  refine ⟨lowHeap_aligns, hserved, ?_, fun h => ?_, fun σ b s hkeeps => ?_⟩
  · rcases hpage _ _ s _ lowHeap_aligns hserved with ⟨-, haligned⟩ | ⟨hover, -⟩
    · exact haligned
    · exact absurd hover (by decide)
  · exact absurd (hsix.mp h (by decide)) (by decide)
  · rw [Option.eq_none_iff_forall_ne_some]
    intro p hp
    rcases hforty σ b s p hkeeps hp with ⟨hpower, -⟩ | ⟨hover, -⟩
    · exact absurd hpower (by decide)
    · exact absurd hover (by decide)

/-- A block asked for at an alignment of 3 comes at 8, from a heap that keeps to its layouts. -/
theorem block_at_eight_for_three :
    let s := Simulation.State.start (fun _ => default) (fun _ => []) []
    lowHeap.HeapAligns ∧
      (((ofProvider none).allocate lowHeap 64 3 false).run s).value.1 = some ⟨8, by decide⟩ ∧
      ¬Address.AlignedTo ⟨8, by decide⟩ 3 :=
  ⟨lowHeap_aligns, rfl, by decide⟩

end HostPool
end ComputeContext
