/-
# How far apart fresh addresses are

Clients ask simulated devices for regions without a hint and for host blocks,
in any order. Each call that is served takes the device's next fresh address,
so what a run hands out is what the served calls draw, each device counting
its own (`Simulation.draws`). The addresses are never zero and aligned as asked
for, and they are distinct exactly if no two draws collide. At alignments up to
one stride none do, until a device has handed out 2^16. At larger ones two do
as soon as one multiple is the next for both places: the count goes on by one
stride however far the address was rounded up.

Key definitions: `Simulation.Ask`, `Simulation.performAll`,
`Simulation.draws`, `Simulation.State.Counts`.
Key theorems: `Simulation.perform_served`, `Simulation.handouts_eq`,
`Simulation.addresses_distinct_iff`.
-/
import ComputeContext.Proofs.Simulation.Landing
import Mathlib.Data.List.Nodup
import Mathlib.Logic.Function.Basic
import Mathlib.Tactic.Set

namespace ComputeContext.Simulation

/-! ### Calls and what they draw -/

/-- A call that takes a fresh address. -/
inductive Ask
  /-- For a shared region, without a hint. -/
  | region (device : DeviceId) (request : Svm.Request)
  /-- For a host block. -/
  | block (device : DeviceId) (size alignment : UInt64) (segment : Segment)

namespace Ask

def device : Ask → DeviceId
  | region d _ => d
  | block d _ _ _ => d

def alignment : Ask → UInt64
  | region _ r => r.alignment
  | block _ _ alignment _ => alignment

/-- The device has addresses for such calls. -/
def isServed (models : DeviceId → Model) (fails : DeviceId → Bool) : Ask → Bool
  | region d _ => !fails d
  | block d _ _ _ => (models d).device.hasHostAllocator

/-- Makes the call. -/
def perform {σ : Type} (b : Backend σ) : Ask → Run σ (Option Address)
  | region d r => b.svmAlloc d r none
  | block d size alignment segment => b.hostAlloc d size alignment segment

/-- What the call draws, if that many addresses have been handed out before it. -/
def draw (issued : DeviceId → Nat) (a : Ask) : Draw := ⟨a.device, issued a.device + 1, a.alignment⟩

/-- How many have been handed out after it. -/
def counted (issued : DeviceId → Nat) (a : Ask) : DeviceId → Nat :=
  Function.update issued a.device (issued a.device + 1)

end Ask

/-- Makes calls one after another, and keeps those that were given an address. -/
def performAll {σ : Type} (b : Backend σ) : List Ask → Run σ (List (Ask × Address))
  | [] => pure []
  | a :: asks => do
    let p? ← a.perform b
    let rest ← performAll b asks
    pure (p?.toList.map (a, ·) ++ rest)

/-- What calls draw one after another. -/
def draws (issued : DeviceId → Nat) : List Ask → List Draw
  | [] => []
  | a :: asks => a.draw issued :: draws (a.counted issued) asks

/-- Which devices refuse regions, and how many addresses each has handed out. -/
structure State.Counts (s : State) (fails : DeviceId → Bool) (issued : DeviceId → Nat) : Prop where
  failsSvm : ∀ d, (s.device d).failsSvm = fails d
  issued : ∀ d, (s.device d).issued.toNat = issued d

theorem State.counts_self (s : State) :
    s.Counts (fun d => (s.device d).failsSvm) fun d => (s.device d).issued.toNat :=
  ⟨fun _ => rfl, fun _ => rfl⟩

variable {issued : DeviceId → Nat}

theorem lt_number_of_mem_draws : ∀ {asks : List Ask} {issued : DeviceId → Nat} {w : Draw},
    w ∈ draws issued asks → issued w.device < w.number
  | a :: asks, issued, w, h => by
    rcases List.mem_cons.mp h with rfl | h
    · exact Nat.lt_succ_self _
    · have ih : a.counted issued w.device < w.number := lt_number_of_mem_draws h
      have hle : issued w.device ≤ a.counted issued w.device := by
        unfold Ask.counted
        rw [Function.update_apply]
        split_ifs with hd
        · rw [hd]
          omega
        · exact Nat.le_refl _
      omega

theorem draws_numbered : ∀ (asks : List Ask) (issued : DeviceId → Nat),
    (draws issued asks).Pairwise fun w w' => w.device = w'.device → w.number < w'.number
  | [], _ => List.Pairwise.nil
  | a :: asks, issued => by
    refine List.Pairwise.cons (fun w hw hd => ?_) (draws_numbered asks (a.counted issued))
    have hnext : a.counted issued a.device = issued a.device + 1 := Function.update_self ..
    have hlt : a.counted issued w.device < w.number := lt_number_of_mem_draws hw
    rw [← hd, show (a.draw issued).device = a.device from rfl, hnext] at hlt
    exact hlt

/-- At alignments up to a stride no draws collide, as long as each device hands out no more than
2^16 addresses. -/
theorem not_collides_of_few (asks : List Ask)
    (hsmall : ∀ w ∈ draws issued asks, w.alignment.toNat ≤ 2 ^ 16 ∧ w.number ≤ 2 ^ 16) :
    (draws issued asks).Pairwise fun w w' => ¬w.Collides w' := by
  apply (draws_numbered asks issued).imp_of_mem
  intro w w' hw hw' hnumbered
  have hpos : 1 ≤ w.number := Nat.one_le_of_lt (lt_number_of_mem_draws hw)
  have hpos' : 1 ≤ w'.number := Nat.one_le_of_lt (lt_number_of_mem_draws hw')
  obtain ⟨halign, hnumber⟩ := hsmall w hw
  obtain ⟨halign', hnumber'⟩ := hsmall w' hw'
  exact Draw.not_collides_of_small halign halign' ⟨hpos, hnumber⟩ ⟨hpos', hnumber'⟩
    fun hd => Nat.ne_of_lt (hnumbered hd)

/-! ### One call -/

/-- What the device that is called does. -/
def Ask.answer (models : DeviceId → Model) : Ask → StateM DeviceState (Option Address)
  | region d r => DeviceState.svmAlloc d r.alignment none
  | block d _ alignment _ =>
    DeviceState.hostAlloc d (models d).device.hasHostAllocator alignment

namespace DeviceState

variable {d : DeviceId} {alignment : UInt64} {ds : DeviceState}

/-- The device answers with the address that is drawn, and has handed out one more. -/
structure HandsOut (w : Draw) (ds : DeviceState)
    (act : StateM DeviceState (Option Address)) : Prop where
  address : ∃ p, (act ds).1 = some p ∧ p.word.toNat = w.landing
  issued : (act ds).2.issued.toNat = w.number
  failsSvm : (act ds).2.failsSvm = ds.failsSvm

/-- A device that counts `n` with its next fresh address hands out the `n`-th. -/
theorem fresh_handsOut {n : Nat} (hn : ds.issued.toNat + 1 = n)
    (hfits : Draw.Fits ⟨d, n, alignment⟩) : HandsOut ⟨d, n, alignment⟩ ds (fresh d alignment) := by
  subst hn
  set w : Draw := ⟨d, ds.issued.toNat + 1, alignment⟩
  have hplace : w.place ≤ w.landing := w.landsAt_landing.2.1
  have hnext : (ds.issued + 1).toNat = ds.issued.toNat + 1 := by
    have hbound : (ds.issued.toNat + 1) * 2 ^ 16 < 2 ^ 64 :=
      Nat.lt_of_le_of_lt (Nat.le_trans (Nat.le_add_left ..) hplace) hfits
    rw [UInt64.toNat_add]
    exact Nat.mod_eq_of_lt (show ds.issued.toNat + 1 < 2 ^ 64 by omega)
  have hdraw : w = ⟨d, (ds.issued + 1).toNat, alignment⟩ := by rw [hnext]
  have hword : (freshWord d (ds.issued + 1) alignment).toNat = w.landing := by
    rw [hdraw] at hfits ⊢
    exact toNat_freshWord hfits
  have hpick : ds.CanPick d alignment := canPick_of_fits (hdraw ▸ hfits)
  exact ⟨⟨⟨_, hpick⟩, Address.ofWord?_eq_some_iff.mpr rfl, hword⟩, hnext, rfl⟩

/-- So does one that is asked for a region and does not refuse. -/
theorem svmAlloc_handsOut {n : Nat} (hserves : ds.failsSvm = false) (hn : ds.issued.toNat + 1 = n)
    (hfits : Draw.Fits ⟨d, n, alignment⟩) :
    HandsOut ⟨d, n, alignment⟩ ds (svmAlloc d alignment none) := by
  obtain ⟨address, issued, failsSvm⟩ := fresh_handsOut hn hfits
  have hgives : svmAlloc d alignment none ds =
      ((fresh d alignment ds).1,
        { (fresh d alignment ds).2 with
          live := (fresh d alignment ds).2.live ++ (fresh d alignment ds).1.toList }) := by
    unfold svmAlloc
    rw [hserves]
    rfl
  constructor
  · rw [hgives]
    exact address
  · rw [hgives]
    exact issued
  · rw [hgives]
    exact failsSvm

section Answer

variable {models : DeviceId → Model} {fails : DeviceId → Bool} {a : Ask}

theorem answer_handsOut (hfails : ds.failsSvm = fails a.device)
    (hissued : ds.issued.toNat = issued a.device) (hserved : a.isServed models fails = true)
    (hfits : (a.draw issued).Fits) : HandsOut (a.draw issued) ds (a.answer models) := by
  have hn : ds.issued.toNat + 1 = issued a.device + 1 := congrArg (· + 1) hissued
  cases a with
  | region d r =>
    have hserves : fails d = false := (Bool.not_eq_true' _).mp hserved
    exact svmAlloc_handsOut (hfails.trans hserves) hn hfits
  | block d size alignment segment =>
    have hallocates : (models d).device.hasHostAllocator = true := hserved
    have hanswer : (Ask.block d size alignment segment).answer models = fresh d alignment :=
      if_pos hallocates
    rw [hanswer]
    exact fresh_handsOut hn hfits

theorem answer_refused (hfails : ds.failsSvm = fails a.device)
    (hrefused : a.isServed models fails = false) : a.answer models ds = (none, ds) := by
  cases a with
  | region d r =>
    have hrefuses : fails d = true := (Bool.not_eq_false' _).mp hrefused
    exact if_pos (hfails.trans hrefuses)
  | block d size alignment segment =>
    have hallocates : ¬(models d).device.hasHostAllocator = true := Bool.eq_false_iff.mp hrefused
    have hanswer : (Ask.block d size alignment segment).answer models = pure none :=
      if_neg hallocates
    rw [hanswer]
    rfl

end Answer

end DeviceState

section Backend

variable {models : DeviceId → Model} (linker : Graphics.Linker) {fails : DeviceId → Bool}
  {s : State} {a : Ask}

theorem perform_value (hplain : ∀ d, (models d).kind ≠ .probe) :
    ((a.perform (backend models linker)).run s).value =
      (a.answer models (s.device a.device)).1 := by
  cases a with
  | region d r =>
    show (State.svmAlloc (models d).kind d r.alignment none s).1 = _
    rw [State.svmAlloc, if_neg (hplain d)]
    rfl
  | block d size alignment segment => rfl

theorem perform_device (hplain : ∀ d, (models d).kind ≠ .probe) (d : DeviceId) :
    ((a.perform (backend models linker)).run s).state.device d =
      if d = a.device then (a.answer models (s.device a.device)).2 else s.device d := by
  cases a with
  | region d r =>
    show (State.svmAlloc (models d).kind d r.alignment none s).2.device _ = _
    rw [State.svmAlloc, if_neg (hplain d)]
    rfl
  | block d size alignment segment => rfl

/-- **A call that is served takes what it draws**, and the device counts on. -/
theorem perform_served (hplain : ∀ d, (models d).kind ≠ .probe) (hcounts : s.Counts fails issued)
    (hserved : a.isServed models fails = true) (hfits : (a.draw issued).Fits) :
    let o := (a.perform (backend models linker)).run s
    (∃ p, o.value = some p ∧ p.word.toNat = (a.draw issued).landing) ∧
      o.state.Counts fails (a.counted issued) := by
  intro o
  have hfails := hcounts.failsSvm a.device
  have hgives : DeviceState.HandsOut (a.draw issued) (s.device a.device) (a.answer models) :=
    DeviceState.answer_handsOut hfails (hcounts.issued a.device) hserved hfits
  refine ⟨?_, fun d => ?_, fun d => ?_⟩
  · rw [perform_value linker hplain]
    exact hgives.address
  · rw [perform_device linker hplain]
    split_ifs with hd
    · rw [hgives.failsSvm, hfails, hd]
    · exact hcounts.failsSvm d
  · rw [perform_device linker hplain]
    unfold Ask.counted
    rw [Function.update_apply]
    split_ifs with hd
    · exact hgives.issued
    · exact hcounts.issued d

theorem perform_refused (hplain : ∀ d, (models d).kind ≠ .probe) (hcounts : s.Counts fails issued)
    (hrefused : a.isServed models fails = false) :
    let o := (a.perform (backend models linker)).run s
    o.value = none ∧ o.state.Counts fails issued := by
  intro o
  have hanswer : a.answer models (s.device a.device) = (none, s.device a.device) :=
    DeviceState.answer_refused (hcounts.failsSvm a.device) hrefused
  have hdevices : o.state.device = s.device := by
    funext d
    rw [perform_device linker hplain, hanswer]
    split_ifs with hd
    · rw [hd]
    · rfl
  refine ⟨?_, fun d => ?_, fun d => ?_⟩
  · rw [perform_value linker hplain, hanswer]
  · rw [hdevices]
    exact hcounts.failsSvm d
  · rw [hdevices]
    exact hcounts.issued d

/-! ### Whole runs -/

theorem performAll_cons_value {σ : Type} (b : Backend σ) (a : Ask) (asks : List Ask) (s : σ) :
    let first := (a.perform b).run s
    ((performAll b (a :: asks)).run s).value =
      first.value.toList.map (a, ·) ++ ((performAll b asks).run first.state).value := rfl

/-- A run serves the calls that can be served, in order, and hands out where their draws land. -/
theorem handouts_eq (hplain : ∀ d, (models d).kind ≠ .probe) :
    ∀ (asks : List Ask) {s : State} {issued : DeviceId → Nat}, s.Counts fails issued →
      let served := asks.filter (·.isServed models fails)
      let given := ((performAll (backend models linker) asks).run s).value
      (∀ w ∈ draws issued served, w.Fits) →
        given.map (·.1) = served ∧
        given.map (fun g => (g.1.alignment, g.2.word.toNat)) =
          (draws issued served).map fun w => (w.alignment, w.landing)
  | [], _, _, _ => fun _ => ⟨rfl, rfl⟩
  | a :: asks, s, issued, hcounts => by
    intro served given hfits
    let b := backend models linker
    cases hserved : a.isServed models fails with
    | false =>
      -- A call that is refused draws nothing and leaves the counts to the calls behind it.
      obtain ⟨hnone, hnext⟩ := perform_refused linker hplain hcounts hserved
      have hskip : served = asks.filter (·.isServed models fails) :=
        List.filter_cons_of_neg (Bool.eq_false_iff.mp hserved)
      rw [hskip] at hfits ⊢
      have hgiven : given = ((performAll b asks).run ((a.perform b).run s).state).value := by
        unfold given
        rw [performAll_cons_value, hnone]
        rfl
      rw [hgiven]
      exact handouts_eq hplain asks hnext hfits
    | true =>
      have htake : served = a :: asks.filter (·.isServed models fails) :=
        List.filter_cons_of_pos hserved
      rw [htake] at hfits ⊢
      obtain ⟨hfirst, hrest⟩ := List.forall_mem_cons.mp hfits
      obtain ⟨⟨p, hp, hlands⟩, hnext⟩ :=
        perform_served linker hplain hcounts hserved hfirst
      have hgiven : given =
          (a, p) :: ((performAll b asks).run ((a.perform b).run s).state).value := by
        unfold given
        rw [performAll_cons_value, hp]
        rfl
      obtain ⟨hasked, haddresses⟩ := handouts_eq hplain asks hnext hrest
      rw [hgiven, List.map_cons, List.map_cons, hasked, haddresses, hlands]
      exact ⟨rfl, rfl⟩

/-- **Fresh addresses are distinct exactly if no two draws collide.** Clients ask devices for
regions without a hint and for host blocks, whatever the alignments and however often, and no draw
goes past the end of all words. Then each call that is served is given an address, which is not
zero, and no other call is; each address is a multiple of the alignment, if that is not zero; and
the addresses are distinct exactly if no two of the draws have a multiple in common that is the
next for both. So they are if no alignment is above 2^16 and no device hands out more than 2^16
addresses. -/
theorem addresses_distinct_iff (models : DeviceId → Model) (linker : Graphics.Linker)
    (hplain : ∀ d, (models d).kind ≠ .probe) (s : State) (asks : List Ask) :
    let served := asks.filter (·.isServed models fun d => (s.device d).failsSvm)
    let drawn := draws (fun d => (s.device d).issued.toNat) served
    let given := ((performAll (backend models linker) asks).run s).value
    (∀ w ∈ drawn, w.Fits) →
      given.map (·.1) = served ∧
      (∀ g ∈ given, g.1.alignment ≠ 0 → g.2.AlignedTo g.1.alignment) ∧
      ((given.map (·.2)).Nodup ↔ drawn.Pairwise fun w w' => ¬w.Collides w') ∧
      ((∀ w ∈ drawn, w.alignment.toNat ≤ 2 ^ 16 ∧ w.number ≤ 2 ^ 16) →
        (given.map (·.2)).Nodup) := by
  intro served drawn given hfits
  obtain ⟨hasked, haddresses⟩ := handouts_eq linker hplain asks s.counts_self hfits
  have hwords : (given.map (·.2)).map (·.word.toNat) = drawn.map Draw.landing := by
    have hsecond := congrArg (List.map Prod.snd) haddresses
    rw [List.map_map, List.map_map] at hsecond
    rw [List.map_map]
    exact hsecond
  -- Words say which addresses differ, and the words are the landings of the draws.
  have hinjective : Function.Injective fun p : Address => p.word.toNat := by
    intro p q h
    have hword : q.word = p.word := (UInt64.toNat_inj.mp h).symm
    have hp : some p = some q := by
      rw [← Address.ofWord?_word p]
      exact Address.ofWord?_eq_some_iff.mpr hword
    exact Option.some.inj hp
  have hdistinct : (given.map (·.2)).Nodup ↔ drawn.Pairwise fun w w' => ¬w.Collides w' :=
    calc (given.map (·.2)).Nodup
      _ ↔ ((given.map (·.2)).map (·.word.toNat)).Nodup := (List.nodup_map_iff hinjective).symm
      _ ↔ drawn.Pairwise fun w w' => w.landing ≠ w'.landing := by
        rw [hwords, List.Nodup, List.pairwise_map]
      _ ↔ drawn.Pairwise fun w w' => ¬w.Collides w' := by
        simp only [ne_eq, Draw.collides_iff]
  refine ⟨hasked, fun g hg hne => ?_, hdistinct, fun hsmall => ?_⟩
  · have hmem : (g.1.alignment, g.2.word.toNat) ∈
        drawn.map fun w => (w.alignment, w.landing) := by
      rw [← haddresses]
      exact List.mem_map_of_mem hg
    obtain ⟨w, -, hw⟩ := List.mem_map.mp hmem
    obtain ⟨halignment, hlanding⟩ := Prod.mk.inj hw
    rw [← halignment] at hne
    show g.1.alignment.toNat ∣ g.2.word.toNat
    rw [← halignment, ← hlanding]
    exact Draw.dvd_landing hne
  · exact hdistinct.mpr (not_collides_of_few served hsmall)

/-- Three devices of which the first allocates host blocks and the third refuses regions: of seven
calls, at alignments from none to 2^63, five are served, at distinct addresses. -/
theorem five_of_seven_distinct :
    let models : DeviceId → Model := fun d => ⟨⟨"", ∅, 0⟩, d.index == 0, .plain, false⟩
    let s := State.start (fun d => .start (d.index == 2) false) (fun _ => []) []
    let region (d : Nat) (alignment : UInt64) : Ask := .region ⟨d⟩ ⟨64, alignment, .readWrite⟩
    let block (d : Nat) (alignment : UInt64) : Ask := .block ⟨d⟩ 64 alignment .atomics
    let asks := [region 0 0, block 0 0x100000000, region 2 64, block 1 64, region 1 0x1000,
      region 0 0x20000, region 1 0x8000000000000000]
    let given := ((performAll (backend models ⟨[]⟩) asks).run s).value
    given.map (·.1) = [region 0 0, block 0 0x100000000, region 1 0x1000, region 0 0x20000,
      region 1 0x8000000000000000] ∧
      (∀ g ∈ given, g.1.alignment ≠ 0 → g.2.AlignedTo g.1.alignment) ∧
      (given.map (·.2)).Nodup := by
  intro models s region block asks given
  obtain ⟨hasked, haligned, hdistinct, -⟩ := addresses_distinct_iff models ⟨[]⟩
    (fun _ => (by decide : Kind.plain ≠ .probe)) s asks (by decide)
  exact ⟨hasked, haligned, hdistinct.mpr (by decide)⟩

/-- A device that is asked twice at an alignment of two strides gives one address twice, and two
devices that are asked at one of four bases give the same address. -/
theorem twice_one_address :
    let models : DeviceId → Model := fun _ => ⟨⟨"", ∅, 0⟩, false, .plain, false⟩
    let s := State.start (fun _ => default) (fun _ => []) []
    let region (d : Nat) (alignment : UInt64) : Ask := .region ⟨d⟩ ⟨64, alignment, .readWrite⟩
    let given (asks : List Ask) :=
      ((performAll (backend models ⟨[]⟩) asks).run s).value.map (·.2.word)
    given [region 0 0x20000, region 0 0x20000] = [0x100020000, 0x100020000] ∧
      given [region 0 0x400000000, region 1 0x400000000] = [0x400000000, 0x400000000] := by
  decide

end Backend

end ComputeContext.Simulation
