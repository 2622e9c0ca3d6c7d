/-
# What a client does with a context

Between building a context and closing it, a client performs operations on it,
in any order and as often as it likes. What holds of a context and the history
of its calls, and is kept by each operation, is kept by any number of them
(`Context.performAll_keeps`). Every call is about shared memory, host memory,
the attachment of a device, or graphics, and each part of a context makes calls
of one kind only, so what one part does can be read off a history without
looking at the others. Only creation has to do with devices and graphics
(`Context.perform_other`); it is told by its stages, and so is closing. A
client that has a context created gets the one that was built and created, and
one that could not be created is closed at once (`Blueprint.created_or_closed`).

Key definitions: `Concern`, `Event.concern`, `Act.Concerns`, `Operation`,
`Context.perform`, `Context.performAll`.
Key theorems: `Svm.concerns_calls`, `HostPool.concerns_allocate`,
`HostPool.concerns_close`, `Graphics.emits_share`,
`Context.performAll_keeps`, `Context.perform_other`, `Context.create_calls`,
`Context.close_calls`, `Blueprint.created_or_closed`.
-/
import ComputeContext.Context
import ComputeContext.Proofs.Svm.FanOut

namespace ComputeContext

/-! ### What calls are about -/

/-- What a call is about. -/
inductive Concern
  | sharedMemory
  | hostMemory
  /-- A device is bound, unbound or taken leave of. -/
  | attachment
  | graphics
deriving DecidableEq

/-- What the call is about. -/
def Event.concern : Event → Concern
  | .svmAlloc .. | .svmFree .. => .sharedMemory
  | .hostAlloc .. | .hostFree .. | .heapAlloc .. | .heapFree .. => .hostMemory
  | .bind .. | .unbind .. | .destroy .. => .attachment
  | .load .. | .handshake .. | .release .. => .graphics

variable {σ α : Type}

/-- All calls of the computation are about the same. -/
def Act.Concerns (k : Concern) (m : Run σ α) : Prop := Act.Emits (fun e : Event => e.concern = k) m

theorem Act.concerns_compositional (k : Concern) :
    Act.Compositional fun (α : Type) (m : Run σ α) => Act.Concerns k m :=
  Act.emits_compositional fun e : Event => e.concern = k

/-- Allocating and freeing regions is about shared memory. -/
theorem Svm.concerns_calls (b : Backend σ) :
    Svm.HoldsOfCalls (fun _ => Act.Concerns .sharedMemory) b where
  toCompositional := Act.concerns_compositional .sharedMemory
  svmAlloc _ _ _ := Act.emits_call fun _ => rfl
  svmFree _ _ := Act.emits_call fun _ => rfl

namespace HostPool

theorem concerns_allocate (b : Backend σ) (pool : HostPool) (size alignment : UInt64)
    (atomics : Bool) : Act.Concerns .hostMemory (pool.allocate b size alignment atomics) := by
  have hc := Act.concerns_compositional (σ := σ) .hostMemory
  unfold allocate
  split
  · exact hc.bind (Act.emits_call fun _ => rfl) fun _ => hc.pure _
  · unfold allocateFromHeap
    split
    · exact hc.pure _
    · refine hc.bind (Act.emits_call fun _ => rfl) fun answer => ?_
      cases answer <;> exact hc.pure _

theorem concerns_free (b : Backend σ) (pool : HostPool) (p : Address) :
    Act.Concerns .hostMemory (pool.free b p) := by
  have hc := Act.concerns_compositional (σ := σ) .hostMemory
  unfold free
  split
  · exact hc.bind (Act.emits_call fun _ => rfl) fun _ => hc.pure _
  · split
    · exact hc.pure _
    · exact hc.bind (Act.emits_call fun _ => rfl) fun _ => hc.pure _

/-- What holds of giving one block back holds of every call that gives blocks back. -/
theorem emits_giveBack {P : Event → Prop} (b : Backend σ) (h : ∀ layout p, P (.heapFree layout p)) :
    ∀ blocks, Act.Emits P (giveBack b blocks)
  | [] => (Act.emits_compositional P).pure ()
  | (p, layout) :: blocks =>
    (Act.emits_compositional P).bind (Act.emits_call fun _ => h layout p) fun _ =>
      emits_giveBack b h blocks

theorem concerns_close (b : Backend σ) (pool : HostPool) :
    Act.Concerns .hostMemory (pool.close b) := emits_giveBack b (fun _ _ => rfl) pool.blocks

end HostPool

/-- What holds of loading a library, of asking it and of dropping it holds of every call that shares
a graphics context. -/
theorem Graphics.emits_share {P : Event → Prop} (b : Backend σ) (r : Interop.Request)
    (loader : Loader)
    (hload : ∀ s, P (.load loader (Api.ofFlags r.flags)
      (b.answerLoad loader (Api.ofFlags r.flags) s).1))
    (hshake : ∀ library s, P (.handshake library r.handles.gl r.glContext
      (b.answerHandshake library r.handles.gl r.glContext s).1))
    (hrelease : ∀ library, P (.release library)) : Act.Emits P (Graphics.share b r loader) := by
  have hc := Act.emits_compositional (σ := σ) P
  refine hc.bind (Act.emits_call hload) fun answer => ?_
  cases answer with
  | inl cause => exact hc.pure _
  | inr library =>
    refine hc.bind (Act.emits_call (hshake library)) fun current => ?_
    cases current with
    | true => exact hc.pure _
    | false => exact hc.bind (Act.emits_call fun _ => hrelease library) fun _ => hc.pure _

theorem Graphics.concerns_share (b : Backend σ) (r : Interop.Request) (loader : Loader) :
    Act.Concerns .graphics (Graphics.share b r loader) :=
  emits_share b r loader (fun _ => rfl) (fun _ _ => rfl) fun _ => rfl

/-! ### Operations -/

/-- What a client does with a context that is built and not closed yet. -/
inductive Operation
  | create (words? : Option (List Word))
  | svmAlloc (request : Svm.Request) (preferred : Option DeviceId)
  | svmFree (address : Address)
  | hostAlloc (size alignment : UInt64) (atomics : Bool)
  | hostFree (address : Address)
  | addQueue (device : DeviceId) (queue : QueueId) (isDefault : Bool)
  | removeQueue (device : DeviceId) (queue : QueueId)

namespace Context

/-- The context after an operation, whether it succeeds or not. -/
def perform (b : Backend σ) (c : Context) : Operation → Run σ Context
  | .create words? => Prod.snd <$> c.create b words?
  | .svmAlloc r preferred => (fun _ => c) <$> c.svmAlloc b r preferred
  | .svmFree p => (fun _ => c) <$> c.svmFree b p
  | .hostAlloc size alignment atomics => Prod.snd <$> c.hostAlloc b size alignment atomics
  | .hostFree p => c.hostFree b p
  | .addQueue d queue isDefault => pure (c.addQueue d queue isDefault)
  | .removeQueue d queue => pure (c.removeQueue d queue).2

/-- The context after operations. -/
def performAll (b : Backend σ) (c : Context) : List Operation → Run σ Context
  | [] => pure c
  | op :: ops => do
    let c ← c.perform b op
    performAll b c ops

/-- What every operation keeps, with its calls added to the history, any number of them keeps. -/
theorem performAll_keeps {b : Backend σ} {I : Context → List Event → Prop}
    (hstep : ∀ c history op s, I c history →
      I ((perform b c op).run s).value (history ++ ((perform b c op).run s).events)) :
    ∀ (ops : List Operation) (c : Context) (history : List Event) (s : σ), I c history →
      I ((performAll b c ops).run s).value (history ++ ((performAll b c ops).run s).events)
  | [], c, history, s, h => by
    rw [performAll, Act.pure_value, Act.pure_events, List.append_nil]
    exact h
  | op :: ops, c, history, s, h => by
    have hop := hstep c history op s h
    have hops := performAll_keeps hstep ops _ _ ((perform b c op).run s).state hop
    rw [performAll, Act.bind_value, Act.bind_events, ← List.append_assoc]
    exact hops

/-- An operation other than creation is about memory, and changes at most the host blocks and the
queues that the context holds. -/
theorem perform_other (b : Backend σ) (c : Context) {op : Operation}
    (hop : ∀ words?, op ≠ .create words?) :
    (∃ k : Concern, k ≠ .attachment ∧ k ≠ .graphics ∧ Act.Concerns k (c.perform b op)) ∧
      ∀ s, ∃ host queues, ((c.perform b op).run s).value = { c with host, queues } := by
  have hshared := Act.concerns_compositional (σ := σ) .sharedMemory
  have hhost := Act.concerns_compositional (σ := σ) .hostMemory
  have hsvm := Svm.concerns_calls b
  cases op with
  | create words? => exact absurd rfl (hop words?)
  | svmAlloc r preferred =>
    refine ⟨⟨.sharedMemory, by decide, by decide, ?_⟩, fun _ => ⟨c.host, c.queues, rfl⟩⟩
    exact hshared.map _ (hsvm.allocate _ _ r preferred)
  | svmFree p =>
    refine ⟨⟨.sharedMemory, by decide, by decide, ?_⟩, fun _ => ⟨c.host, c.queues, rfl⟩⟩
    exact hshared.map _ (hsvm.free p _)
  | hostAlloc size alignment atomics =>
    refine ⟨⟨.hostMemory, by decide, by decide, ?_⟩, fun _ => ⟨_, c.queues, rfl⟩⟩
    exact hhost.map _ (hhost.bind (HostPool.concerns_allocate b c.host size alignment atomics)
      fun _ => hhost.pure _)
  | hostFree p =>
    refine ⟨⟨.hostMemory, by decide, by decide, ?_⟩, fun _ => ⟨_, c.queues, rfl⟩⟩
    exact hhost.bind (HostPool.concerns_free b c.host p) fun _ => hhost.pure _
  | addQueue d queue isDefault =>
    exact ⟨⟨.hostMemory, by decide, by decide, hhost.pure _⟩, fun _ => ⟨c.host, _, rfl⟩⟩
  | removeQueue d queue =>
    exact ⟨⟨.hostMemory, by decide, by decide, hhost.pure _⟩, fun _ => ⟨c.host, _, rfl⟩⟩

/-! ### The stages of creation -/

/-- Keeping a copy of the list changes nothing else. -/
theorem keepProperties_ok {c c' : Context} {words? : Option (List Word)}
    (h : c.keepProperties words? = .ok c') : ∃ properties, c' = { c with properties } := by
  unfold keepProperties at h
  split at h
  · cases h
    exact ⟨c.properties, rfl⟩
  · split_ifs at h
    · cases h
      exact ⟨c.properties, rfl⟩
    · cases h
      exact ⟨_, rfl⟩

/-- The last stage of creation is about graphics, and changes nothing else. -/
theorem shareGraphics_keeps (b : Backend σ) (c : Context) :
    Act.Concerns .graphics (c.shareGraphics b) ∧
      ∀ s, ∃ graphics, ((c.shareGraphics b).run s).value.2 = { c with graphics } := by
  have hc := Act.concerns_compositional (σ := σ) .graphics
  unfold shareGraphics
  split
  · constructor
    · refine hc.bind (Graphics.concerns_share b _ _) fun answer => ?_
      cases answer <;> exact hc.pure _
    · intro s
      rw [Act.bind_value]
      cases ((Graphics.share b c.agreement.toRequest c.loader).run s).value with
      | error failure => exact ⟨c.graphics, rfl⟩
      | ok library => exact ⟨some library, rfl⟩
  · exact ⟨hc.pure _, fun _ => ⟨c.graphics, rfl⟩⟩

/-- Creation calls nothing when the list is too short, and otherwise binds the devices and goes on
with graphics at most. -/
theorem create_calls (b : Backend σ) (c : Context) (words? : Option (List Word)) (s : σ) :
    let o := (c.create b words?).run s
    let binding := (c.bindings.bindAll b c.roster.devices c.agreement.toRequest).run s
    (o.value.2 = c ∧ o.events = []) ∨
      ∃ properties graphics rest,
        o.value.2 = { c with properties, graphics, bindings := binding.value.2 } ∧
          o.events = binding.events ++ rest ∧ ∀ e ∈ rest, e.concern = .graphics := by
  intro o binding
  cases hkeep : c.keepProperties words? with
  | error short =>
    have ho : o = ⟨(.error short.toError, c), s, []⟩ := by
      simp only [o, create, hkeep]
      rfl
    rw [ho]
    exact .inl ⟨rfl, rfl⟩
  | ok kept =>
    obtain ⟨properties, rfl⟩ := keepProperties_ok hkeep
    refine .inr ⟨properties, ?_⟩
    simp only [o, create, hkeep, bindDevices, Act.bind_value, Act.bind_events, Act.bind_state,
      Act.pure_value, Act.pure_events, Act.pure_state, List.append_nil]
    cases binding.value.1 with
    | error failure =>
      simp only [Except.mapError]
      exact ⟨c.graphics, [], rfl, rfl, by simp⟩
    | ok _ =>
      simp only [Except.mapError]
      obtain ⟨hconcern, hkept⟩ :=
        shareGraphics_keeps b { c with properties, bindings := binding.value.2 }
      obtain ⟨graphics, hvalue⟩ := hkept binding.state
      exact ⟨graphics, _, hvalue, rfl, hconcern binding.state⟩

/-! ### Closing -/

/-- Closing takes leave of the devices, then gives back host memory, then drops the graphics
library. -/
theorem close_calls (b : Backend σ) (c : Context) (s : σ) :
    let leaving := (leave b c.agreement.toRequest c.bindings c.roster.devices).run s
    ∃ giving dropping, ((c.close b).run s).events = leaving.events ++ (giving ++ dropping) ∧
      (∀ e ∈ giving, e.concern = .hostMemory) ∧ ∀ e ∈ dropping, e.concern = .graphics := by
  intro leaving
  have hhost := HostPool.concerns_close b c.host leaving.state
  cases hgraphics : c.graphics with
  | none =>
    refine ⟨_, [], ?_, hhost, by simp⟩
    simp only [close, hgraphics, Act.discard_eq_map, Act.bind_events, Act.map_events]
    rfl
  | some library =>
    refine ⟨_, [.release library], ?_, hhost, by simp [Event.concern]⟩
    simp only [close, hgraphics, Act.discard_eq_map, Act.bind_events, Act.map_events]
    rfl

end Context

namespace Blueprint

variable {p : Blueprint} {words? : Option (List Word)}

theorem create_of_refused (b : Backend σ) {e : Error}
    (h : Property.negotiateWords p.platform words? = .error e) :
    p.create b words? = pure (.error e) := by
  rw [create, h]

/-- After an agreement the client has the context that was created, or it was closed again. -/
theorem created_or_closed (b : Backend σ) {a : Agreement}
    (h : Property.negotiateWords p.platform words? = .ok a) (s : σ) :
    let first := ((p.build b.inventory a).create b words?).run s
    let closing := (first.value.2.close b).run first.state
    (first.value.1 = .ok () ∧
      (p.create b words?).run s = ⟨.ok first.value.2, first.state, first.events⟩) ∨
    ∃ e, first.value.1 = .error e ∧
      (p.create b words?).run s = ⟨.error e, closing.state, first.events ++ closing.events⟩ := by
  intro first closing
  have hfirst : ((p.build b.inventory a).create b words?).run s = first := rfl
  have hclosing : (first.value.2.close b).run first.state = closing := rfl
  clear_value first closing
  rw [create, h]
  simp only [Act.run_bind, hfirst]
  cases hvalue : first.value with
  | mk result c =>
    rw [hvalue] at hclosing
    cases result with
    | ok _ =>
      refine .inl ⟨rfl, ?_⟩
      simp
    | error e =>
      refine .inr ⟨e, rfl, ?_⟩
      simp [hclosing]

end Blueprint
end ComputeContext
