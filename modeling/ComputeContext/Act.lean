/-
# Computations that call the outside

A computation here runs from a state of the outside world, calls it, and ends
with a value, the state it left behind and the events of its calls, oldest
first. Running one computation after another appends their events, so what a
computation did can be read off its outcome.

What is to be said about a long computation often follows from its calls: it
holds of values without calls, and of two computations one after the other if
it holds of each. Such a property is `Compositional`, and a computation has it
as soon as its calls have it. `Act.Emits P` is one: every event is as `P` says,
from whatever state the computation runs and whatever the outside answers.

Key definitions: `Outcome`, `Act`, `Act.call`, `Act.Compositional`,
`Act.Emits`.
Key theorems: `Act.bind_value`, `Act.bind_state`, `Act.bind_events`,
`Act.Compositional.map`, `Act.emits_compositional`.
-/
namespace ComputeContext

/-- How a computation ended. -/
structure Outcome (ε σ α : Type) where
  value : α
  /-- The state of the outside afterwards. -/
  state : σ
  /-- What was called, oldest first. -/
  events : List ε

/-- A computation that calls the outside: `ε` its events, `σ` the outside's state. -/
def Act (ε σ α : Type) : Type := σ → Outcome ε σ α

namespace Act

variable {ε σ α β : Type}

/-- Runs a computation from a state. -/
def run (m : Act ε σ α) (s : σ) : Outcome ε σ α := m s

/-- A value without any call. -/
protected def pure (a : α) : Act ε σ α := fun s => ⟨a, s, []⟩

/-- One computation after another. -/
protected def bind (m : Act ε σ α) (f : α → Act ε σ β) : Act ε σ β := fun s =>
  let first := m s
  let second := f first.value first.state
  ⟨second.value, second.state, first.events ++ second.events⟩

instance : Monad (Act ε σ) where
  pure := Act.pure
  bind := Act.bind

/-- One call: the outside answers and changes, and the call is recorded with its answer. -/
def call (answer : StateM σ α) (event : α → ε) : Act ε σ α := fun s =>
  let (a, s) := answer s
  ⟨a, s, [event a]⟩

@[simp] theorem pure_value (a : α) (s : σ) : ((pure a : Act ε σ α).run s).value = a := rfl
@[simp] theorem pure_state (a : α) (s : σ) : ((pure a : Act ε σ α).run s).state = s := rfl
@[simp] theorem pure_events (a : α) (s : σ) : ((pure a : Act ε σ α).run s).events = [] := rfl

@[simp] theorem bind_value (m : Act ε σ α) (f : α → Act ε σ β) (s : σ) :
    ((m >>= f).run s).value = ((f (m.run s).value).run (m.run s).state).value := rfl

@[simp] theorem bind_state (m : Act ε σ α) (f : α → Act ε σ β) (s : σ) :
    ((m >>= f).run s).state = ((f (m.run s).value).run (m.run s).state).state := rfl

@[simp] theorem bind_events (m : Act ε σ α) (f : α → Act ε σ β) (s : σ) :
    ((m >>= f).run s).events =
      (m.run s).events ++ ((f (m.run s).value).run (m.run s).state).events := rfl

@[simp] theorem map_value (f : α → β) (m : Act ε σ α) (s : σ) :
    ((f <$> m).run s).value = f (m.run s).value := rfl
@[simp] theorem map_state (f : α → β) (m : Act ε σ α) (s : σ) :
    ((f <$> m).run s).state = (m.run s).state := rfl

@[simp] theorem map_events (f : α → β) (m : Act ε σ α) (s : σ) :
    ((f <$> m).run s).events = (m.run s).events := List.append_nil _

@[simp] theorem call_value (answer : StateM σ α) (event : α → ε) (s : σ) :
    ((call answer event).run s).value = (answer s).1 := rfl
@[simp] theorem call_state (answer : StateM σ α) (event : α → ε) (s : σ) :
    ((call answer event).run s).state = (answer s).2 := rfl
@[simp] theorem call_events (answer : StateM σ α) (event : α → ε) (s : σ) :
    ((call answer event).run s).events = [event (answer s).1] := rfl

theorem ext {m n : Act ε σ α} (h : ∀ s, m.run s = n.run s) : m = n := funext h

/-- The order of calls is all that sequencing has to do with: brackets do not matter. -/
theorem bind_assoc {γ : Type} (m : Act ε σ α) (f : α → Act ε σ β) (g : β → Act ε σ γ) :
    m >>= f >>= g = m >>= fun a => f a >>= g :=
  ext fun s => congrArg (Outcome.mk _ _) (List.append_assoc (m s).events _ _)

theorem map_id (m : Act ε σ α) : id <$> m = m :=
  ext fun s => congrArg (Outcome.mk (m s).value (m s).state) (List.append_nil (m s).events)

instance : LawfulMonad (Act ε σ) := LawfulMonad.mk' (Act ε σ) map_id (fun _ _ => rfl) bind_assoc

/-! ### Properties that sequencing keeps -/

theorem discard_eq_map (m : Act ε σ α) : discard m = (fun _ => ()) <$> m := rfl

theorem run_bind (m : Act ε σ α) (f : α → Act ε σ β) (s : σ) :
    (m >>= f).run s =
      let first := m.run s
      let second := (f first.value).run first.state
      ⟨second.value, second.state, first.events ++ second.events⟩ := rfl

/-- Sequencing keeps the property. -/
structure Compositional (Q : ∀ α : Type, Act ε σ α → Prop) : Prop where
  pure : ∀ {α : Type} (a : α), Q α (pure a)
  bind : ∀ {α β : Type} {m : Act ε σ α} {f : α → Act ε σ β},
    Q α m → (∀ a, Q β (f a)) → Q β (m >>= f)

theorem Compositional.map {Q : ∀ α : Type, Act ε σ α → Prop} (hQ : Compositional Q) (f : α → β)
    {m : Act ε σ α} (hm : Q α m) : Q β (f <$> m) := by
  rw [map_eq_pure_bind]
  exact hQ.bind hm fun a => hQ.pure (f a)

/-- Every event of the computation is as `P` says. -/
def Emits (P : ε → Prop) (m : Act ε σ α) : Prop := ∀ s, ∀ e ∈ (m.run s).events, P e

theorem emits_call {P : ε → Prop} {answer : StateM σ α} {event : α → ε}
    (h : ∀ s, P (event (answer s).1)) : Emits P (call answer event) := by
  intro s e he
  rw [call_events, List.mem_singleton] at he
  exact he ▸ h s

theorem emits_compositional (P : ε → Prop) :
    Compositional fun (α : Type) (m : Act ε σ α) => Emits P m where
  pure a s e he := by cases he
  bind hm hf s e he := by
    rw [bind_events] at he
    rcases List.mem_append.mp he with he | he
    · exact hm s e he
    · exact hf _ _ e he

end Act
end ComputeContext
