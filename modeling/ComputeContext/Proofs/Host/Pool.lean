/-
# Blocks are given back once

A pool without a device takes its blocks from the heap and gives back what is
freed, and when it closes what is left. The heap's live blocks are the stock of
a history in which only live blocks are given back, each with its own layout
(`Heap.blocks`). As long as the heap answers no request with the address of a
live block, the blocks that the pool remembers are exactly the live ones, each
at its own address (`HostPool.Holds`), whatever is asked for and freed, by
whatever addresses. An address the pool does not know stands for no live
block, and freeing it calls nothing. So nothing is given back twice, and with
the blocks that are left, in whatever order, all has been given back.

A pool with a device leaves the heap alone. It forwards each call to the device
as it is.

Key definitions: `Heap.blocks`, `Heap.FreshlyServed`, `HostPool.Call`,
`HostPool.performAll`, `HostPool.Holds`, `HostPool.Forwarded`.
Key theorems: `HostPool.perform_steps`, `HostPool.Holds.performAll`,
`Heap.run_blocks_freeing`, `HostPool.blocks_given_back_once`.
-/
import ComputeContext.Act
import ComputeContext.Host.Pool
import ComputeContext.Proofs.Stock
import ComputeContext.Simulation.World
import Mathlib.Data.List.Forall2
import Mathlib.Data.List.Nodup

namespace ComputeContext

variable {σ : Type}

/-- The block that the heap handed out in the call. -/
def Event.obtains? : Event → Option (Address × Layout)
  | .heapAlloc layout (some p) => some (p, layout)
  | _ => none

/-- The block that was given back to the heap in the call. -/
def Event.returns? : Event → Option (Address × Layout)
  | .heapFree layout p => some (p, layout)
  | _ => none

namespace Heap

variable {live left : List (Address × Layout)} {calls events : List Event} {e : Event}

/-- The live blocks after a call. A block can be given back if it is live and has that layout. -/
def liveAfter (live : List (Address × Layout)) : Event → Option (List (Address × Layout))
  | .heapAlloc layout (some p) => some ((p, layout) :: live)
  | .heapFree layout p => if (p, layout) ∈ live then some (live.erase (p, layout)) else none
  | _ => some live

theorem liveAfter_perm {live live' : List (Address × Layout)} {e : Event}
    (h : liveAfter live e = some live') :
    (live ++ e.obtains?.toList).Perm (live' ++ e.returns?.toList) := by
  cases e with
  | heapAlloc layout answer =>
    cases answer with
    | none =>
      cases h
      exact .refl _
    | some p =>
      cases h
      simp [Event.obtains?, Event.returns?]
  | heapFree layout p =>
    obtain ⟨hmem, herased⟩ := Option.ite_none_right_eq_some.mp h
    cases herased
    have hput := (List.perm_cons_erase hmem).trans (List.perm_append_singleton _ _).symm
    simpa [Event.obtains?, Event.returns?] using hput
  | _ =>
    cases h
    exact .refl _

/-- The blocks of the heap that are live. -/
def blocks : Stock Event (List (Address × Layout)) (Address × Layout) where
  after := liveAfter
  items := id
  gain? := Event.obtains?
  loss? := Event.returns?
  balanced := liveAfter_perm

/-- The call does not hand out the address of a live block. -/
def AnswersFresh (live : List (Address × Layout)) (e : Event) : Prop :=
  ∀ block ∈ e.obtains?, block.1 ∉ live.map (·.1)

/-- The heap hands out no address at which a block is live. -/
def FreshlyServed (live : List (Address × Layout)) : List Event → Prop
  | [] => True
  | e :: events => AnswersFresh live e ∧ ∀ live' ∈ liveAfter live e, FreshlyServed live' events

instance (live : List (Address × Layout)) (e : Event) : Decidable (AnswersFresh live e) :=
  inferInstanceAs (Decidable (∀ block ∈ e.obtains?, block.1 ∉ live.map (·.1)))

instance decidableFreshlyServed :
    (events : List Event) → (live : List (Address × Layout)) → Decidable (FreshlyServed live events)
  | [], _ => .isTrue trivial
  | e :: events, live =>
    have (live' : List (Address × Layout)) := decidableFreshlyServed events live'
    inferInstanceAs (Decidable (AnswersFresh live e ∧ ∀ live' ∈ liveAfter live e, _))

/-- What is served freshly after a history is served freshly together with it. -/
theorem freshlyServed_append : FreshlyServed live (calls ++ events) ↔
    FreshlyServed live calls ∧ ∀ live' ∈ blocks.run live calls, FreshlyServed live' events := by
  induction calls generalizing live with
  | nil => simp [FreshlyServed]
  | cons e calls ih =>
    rw [List.cons_append, FreshlyServed, FreshlyServed, Stock.run_cons]
    simp only [ih]
    cases h : liveAfter live e with
    | none => simp [blocks, h]
    | some between => simp [blocks, h, and_assoc]

/-- Giving a block back. -/
def freeing (block : Address × Layout) : Event := .heapFree block.2 block.1

/-- When all live blocks are given back, in any order, nothing is left. -/
theorem run_blocks_freeing (h : left.Perm live) : blocks.run live (left.map freeing) = some [] := by
  induction left generalizing live with
  | nil =>
    rw [← h.nil_eq]
    rfl
  | cons block left ih =>
    obtain ⟨hmem, hrest⟩ := List.cons_perm_iff_perm_erase.mp h
    have hcall : blocks.after live (freeing block) = some (live.erase block) := if_pos hmem
    rw [List.map_cons, Stock.run_cons, hcall, Option.bind_some]
    exact ih hrest

/-- Only live blocks are given back, each with its layout, and by the end each block that was
obtained has been given back once. -/
structure Settled (history : List Event) : Prop where
  followed : blocks.run [] history = some []
  returned : (blocks.lost history).Perm (blocks.gained history)

theorem settled_of_run {history : List Event} (h : blocks.run [] history = some []) :
    Settled history := ⟨h, blocks.lost_perm_gained rfl rfl h⟩

end Heap

namespace HostPool

/-- What a client does with a pool. -/
inductive Call
  | allocate (size alignment : UInt64) (atomics : Bool)
  | free (address : Address)
deriving DecidableEq

/-- The pool after a call. -/
def perform (b : Backend σ) (pool : HostPool) : Call → Run σ HostPool
  | .allocate size alignment atomics => Prod.snd <$> pool.allocate b size alignment atomics
  | .free p => pool.free b p

/-- The pool after calls. -/
def performAll (b : Backend σ) (pool : HostPool) : List Call → Run σ HostPool
  | [] => pure pool
  | call :: calls => do
    let pool ← pool.perform b call
    performAll b pool calls

variable {pool pool' : HostPool} {history calls : List Event} {p : Address} {layout : Layout}
  {d : DeviceId}

/-! ### Blocks of the heap -/

/-- What a call does to a pool without a device: the calls it makes, and the pool after it. -/
inductive Step (pool : HostPool) : List Event → HostPool → Prop
  | idle : Step pool [] pool
  | exhausted (layout : Layout) : Step pool [.heapAlloc layout none] pool
  | obtained (layout : Layout) (p : Address) :
      Step pool [.heapAlloc layout (some p)] (pool.remember p layout)
  | returned {layout : Layout} {p : Address} : pool.layoutOf? p = some layout →
      Step pool [.heapFree layout p] (pool.forget p)

theorem perform_steps (b : Backend σ) (hheap : pool.provider = none) (call : Call) (s : σ) :
    let o := (pool.perform b call).run s
    Step pool o.events o.value := by
  intro o
  cases call with
  | allocate size alignment atomics =>
    simp only [o, perform, allocate, hheap, allocateFromHeap, Act.map_events, Act.map_value]
    split
    · exact .idle
    · rename_i layout _
      simp only [Backend.heapAlloc, Act.bind_events, Act.bind_value, Act.call_events,
        Act.call_value, Act.call_state]
      cases (b.answerHeapAlloc layout s).1 with
      | none => exact .exhausted layout
      | some p => exact .obtained layout p
  | free p =>
    simp only [o, perform, free, hheap]
    cases hlayout : pool.layoutOf? p with
    | none => exact .idle
    | some layout => exact .returned hlayout

theorem mem_blocks_of_layoutOf? (h : pool.layoutOf? p = some layout) :
    (p, layout) ∈ pool.blocks := by
  obtain ⟨front, rest, hblocks, -⟩ := List.lookup_eq_some_iff.mp h
  rw [hblocks]
  exact List.mem_append_right _ List.mem_cons_self

theorem blocks_forget_of_not_mem (h : p ∉ pool.blocks.map (·.1)) :
    (pool.forget p).blocks = pool.blocks := by
  rw [forget, List.filter_eq_self]
  intro block hblock
  rw [decide_eq_true_iff]
  rintro rfl
  exact h (List.mem_map_of_mem hblock)

theorem blocks_forget_of_mem (hdistinct : (pool.blocks.map (·.1)).Nodup)
    (hmem : (p, layout) ∈ pool.blocks) :
    (pool.forget p).blocks = pool.blocks.erase (p, layout) := by
  rw [hdistinct.of_map.erase_eq_filter, forget]
  apply List.filter_congr
  intro block hblock
  have hsame : block.1 = p ↔ block = (p, layout) :=
    ⟨fun h => List.inj_on_of_nodup_map hdistinct hblock hmem h, fun h => h ▸ rfl⟩
  rw [Bool.eq_iff_iff]
  simp [hsame]

/-- The pool remembers the blocks that are live after a history, each at its own address. -/
structure Holds (pool : HostPool) (history : List Event) : Prop where
  heap : pool.provider = none
  live : Heap.blocks.run [] history = some pool.blocks
  distinct : (pool.blocks.map (·.1)).Nodup

theorem Holds.empty : Holds (ofProvider none) [] where
  heap := rfl
  live := rfl
  distinct := List.nodup_nil

theorem Holds.step (h : Holds pool history) (hstep : Step pool calls pool')
    (hfresh : Heap.FreshlyServed [] (history ++ calls)) : Holds pool' (history ++ calls) := by
  have hnow := (Heap.freshlyServed_append.mp hfresh).2 pool.blocks h.live
  have hrun : Heap.blocks.run [] (history ++ calls) = Heap.blocks.run pool.blocks calls := by
    rw [Stock.run_append, h.live, Option.bind_some]
  cases hstep with
  | idle => exact ⟨h.heap, hrun, h.distinct⟩
  | exhausted layout => exact ⟨h.heap, hrun, h.distinct⟩
  | obtained layout p =>
    have hunused : p ∉ pool.blocks.map (·.1) := hnow.1 (p, layout) rfl
    have hblocks : (pool.remember p layout).blocks = (p, layout) :: pool.blocks := by
      rw [remember, blocks_forget_of_not_mem hunused]
    refine ⟨h.heap, ?_, ?_⟩
    · rw [hrun, hblocks]
      rfl
    · rw [hblocks, List.map_cons, List.nodup_cons]
      exact ⟨hunused, h.distinct⟩
  | @returned layout p hlayout =>
    have hmem := mem_blocks_of_layoutOf? hlayout
    have hblocks := blocks_forget_of_mem h.distinct hmem
    refine ⟨h.heap, ?_, ?_⟩
    · have hcall : Heap.blocks.after pool.blocks (.heapFree layout p) =
          some (pool.blocks.erase (p, layout)) := if_pos hmem
      rw [hrun, hblocks, Stock.run_cons, hcall]
      rfl
    · exact h.distinct.sublist (List.filter_sublist.map _)

/-- Any number of calls keeps the blocks accounted for, as long as the heap serves freshly. -/
theorem Holds.performAll (b : Backend σ) :
    ∀ (calls : List Call) {pool : HostPool} {history : List Event} (s : σ), Holds pool history →
      let o := (pool.performAll b calls).run s
      Heap.FreshlyServed [] (history ++ o.events) → Holds o.value (history ++ o.events)
  | [], pool, history, s, h => by
    intro o hfresh
    have ho : o = ⟨pool, s, []⟩ := rfl
    rw [ho, List.append_nil]
    exact h
  | call :: calls, pool, history, s, h => by
    intro o hfresh
    have hevents : history ++ o.events = history ++ ((pool.perform b call).run s).events ++
        ((HostPool.performAll b ((pool.perform b call).run s).value calls).run
          ((pool.perform b call).run s).state).events := by
      rw [List.append_assoc]
      rfl
    rw [hevents] at hfresh ⊢
    have hfirst := h.step (perform_steps b h.heap call s) (Heap.freshlyServed_append.mp hfresh).1
    exact Holds.performAll b calls _ hfirst hfresh

theorem giveBack_events (b : Backend σ) (left : List (Address × Layout)) (s : σ) :
    ((giveBack b left).run s).events = left.map Heap.freeing := by
  induction left generalizing s with
  | nil => rfl
  | cons block left ih =>
    rw [giveBack, Act.bind_events, ih]
    rfl

/-- Giving back what the pool remembers, in any order, settles its history. -/
theorem Holds.settled (h : Holds pool history) (b : Backend σ) {left : List (Address × Layout)}
    (hleft : left.Perm pool.blocks) (s : σ) :
    Heap.Settled (history ++ ((giveBack b left).run s).events) := by
  apply Heap.settled_of_run
  rw [Stock.run_append, h.live, Option.bind_some, giveBack_events]
  exact Heap.run_blocks_freeing hleft

/-! ### Blocks of a device -/

/-- The call as the device gets it. -/
inductive Forwarded (d : DeviceId) : Call → Event → Prop
  | allocate (size alignment : UInt64) (atomics : Bool) (answer : Option Address) :
      Forwarded d (.allocate size alignment atomics)
        (.hostAlloc d size alignment (.ofAtomics atomics) answer)
  | free (p : Address) : Forwarded d (.free p) (.hostFree d p)

theorem perform_forwards (b : Backend σ) (hdevice : pool.provider = some d) (call : Call) (s : σ) :
    let o := (pool.perform b call).run s
    o.value = pool ∧ ∃ e, o.events = [e] ∧ Forwarded d call e := by
  intro o
  cases call with
  | allocate size alignment atomics =>
    simp only [o, perform, allocate, hdevice, Backend.hostAlloc, Act.map_value, Act.map_events]
    exact ⟨rfl, _, rfl, .allocate size alignment atomics _⟩
  | free p =>
    simp only [o, perform, free, hdevice]
    exact ⟨rfl, _, rfl, .free p⟩

theorem performAll_forwards (b : Backend σ) (hdevice : pool.provider = some d) (calls : List Call)
    (s : σ) :
    let o := (pool.performAll b calls).run s
    o.value = pool ∧ List.Forall₂ (Forwarded d) calls o.events := by
  intro o
  induction calls generalizing s with
  | nil => exact ⟨rfl, .nil⟩
  | cons call calls ih =>
    obtain ⟨hvalue, e, hevents, hforwarded⟩ := perform_forwards b hdevice call s
    obtain ⟨hlast, hrest⟩ := ih ((pool.perform b call).run s).state
    simp only [o, performAll, Act.bind_value, Act.bind_events, hvalue, hevents]
    exact ⟨hlast, .cons hforwarded hrest⟩

/-- **Every block is given back once.** A pool without a device serves any requests and frees any
addresses, while the heap hands out no address at which a block is live. Then it remembers the live
blocks, as many as were obtained and not given back. Once it is closed each block that was obtained
has been given back once, with its layout, and nothing else has; so it is with the blocks that are
left given back in any other order. A pool with a device forwards every call to it as it is, holds
no block, and never calls the heap. -/
theorem blocks_given_back_once (b : Backend σ) (provider : Option DeviceId) (calls : List Call)
    (s : σ) :
    let run := ((ofProvider provider).performAll b calls).run s
    let ending := (run.value.close b).run run.state
    (provider = none → Heap.FreshlyServed [] run.events →
      Heap.blocks.run [] run.events = some run.value.blocks ∧
      (Heap.blocks.gained run.events).length =
        (Heap.blocks.lost run.events).length + run.value.liveBlocks ∧
      Heap.Settled (run.events ++ ending.events) ∧
      ∀ left, left.Perm run.value.blocks →
        Heap.Settled (run.events ++ ((giveBack b left).run run.state).events)) ∧
    ∀ d, provider = some d →
      List.Forall₂ (Forwarded d) calls run.events ∧ run.value.liveBlocks = 0 ∧
        ending.events = [] := by
  intro run ending
  refine ⟨?_, ?_⟩
  · rintro rfl hfresh
    have hholds : Holds run.value run.events := Holds.empty.performAll b calls s hfresh
    refine ⟨hholds.live, Heap.blocks.length_gained rfl hholds.live, ?_, ?_⟩
    · exact hholds.settled b (.refl _) run.state
    · exact fun left hleft => hholds.settled b hleft run.state
  · rintro d rfl
    obtain ⟨hvalue, hforwarded⟩ : run.value = ofProvider (some d) ∧
        List.Forall₂ (Forwarded d) calls run.events := performAll_forwards b rfl calls s
    have hempty : run.value.blocks = [] := by rw [hvalue, ofProvider]
    refine ⟨hforwarded, congrArg List.length hempty, ?_⟩
    simp only [ending, close, hempty, giveBack, Act.pure_events]

/-- The heap always answers with the same address, which is fine while no block is live there. It is
used for three blocks, one after another; an address that was never obtained and one whose block was
given back are freed as well, and the last block is left to be given back at the end. A device would
get all of these calls. -/
theorem one_address_for_three_blocks :
    let p : Address := ⟨0x1000, by decide⟩
    let b := { Simulation.backend (fun _ => ⟨⟨"gpu", ∅, 0⟩, false, .plain, false⟩) ⟨[]⟩ with
      answerHeapAlloc := fun _ => pure (some p) }
    let s := Simulation.State.start (fun _ => .start false false) (fun _ => []) []
    let calls : List Call :=
      [.allocate 64 0 false, .free ⟨0x2000, by decide⟩, .free p, .free p, .allocate 0 16 false,
        .allocate 100 4096 true, .free p, .allocate 8 8 false]
    let run := ((ofProvider none).performAll b calls).run s
    let ending := (run.value.close b).run run.state
    run.value.liveBlocks = 1 ∧
      Heap.blocks.gained run.events = [(p, ⟨64, 8⟩), (p, ⟨100, 4096⟩), (p, ⟨8, 8⟩)] ∧
      Heap.Settled (run.events ++ ending.events) ∧
      List.Forall₂ (Forwarded ⟨0⟩) calls
        (((ofProvider (some ⟨0⟩)).performAll b calls).run s).events := by
  intro p b s calls run ending
  obtain ⟨hheap, -⟩ := blocks_given_back_once b none calls s
  obtain ⟨-, hdevice⟩ := blocks_given_back_once b (some ⟨0⟩) calls s
  obtain ⟨-, -, hsettled, -⟩ := hheap rfl (by decide +kernel)
  exact ⟨by decide +kernel, by decide +kernel, hsettled, (hdevice ⟨0⟩ rfl).1⟩

end HostPool
end ComputeContext
