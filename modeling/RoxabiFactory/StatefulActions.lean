import Mathlib.Logic.Basic

/-!
# Computations with a state and exceptions

A computation changes a state and returns or raises; what it has changed stays
when it raises.  `Ensures` is a postcondition of the values that it returns.
-/

namespace RoxabiFactory

/-- A computation, as its result and its state afterwards. -/
structure Action (σ ε α : Type) where
  runOn : σ → Except ε α × σ

namespace Action

variable {σ ε α β : Type}

instance : Monad (Action σ ε) where
  pure value := ⟨fun state => (.ok value, state)⟩
  bind first next := ⟨fun state =>
    match first.runOn state with
    | (.ok value, later) => (next value).runOn later
    | (.error raised, later) => (.error raised, later)⟩

/-- A computation that only reads the state. -/
def reads (value : σ → α) : Action σ ε α := ⟨fun state => (.ok (value state), state)⟩

def readsOrRaises (value : σ → Except ε α) : Action σ ε α := ⟨fun state => (value state, state)⟩

def raise (raised : ε) : Action σ ε α := ⟨fun state => (.error raised, state)⟩

def ofExcept (value : Except ε α) : Action σ ε α := ⟨fun state => (value, state)⟩

/-- The result of a computation, with the exception if it raises. -/
def attempt (action : Action σ ε α) : Action σ ε (Except ε α) :=
  ⟨fun state => (.ok (action.runOn state).1, (action.runOn state).2)⟩

@[simp]
theorem runOn_pure (value : α) (state : σ) :
    runOn (pure value : Action σ ε α) state = (.ok value, state) := rfl

@[simp]
theorem runOn_reads (value : σ → α) (state : σ) :
    runOn (reads value : Action σ ε α) state = (.ok (value state), state) := rfl

@[simp]
theorem runOn_readsOrRaises (value : σ → Except ε α) (state : σ) :
    runOn (readsOrRaises value) state = (value state, state) := rfl

@[simp]
theorem runOn_raise (raised : ε) (state : σ) :
    runOn (raise raised : Action σ ε α) state = (.error raised, state) := rfl

@[simp]
theorem runOn_ofExcept (value : Except ε α) (state : σ) :
    runOn (ofExcept value) state = (value, state) := rfl

theorem runOn_bind (first : Action σ ε α) (next : α → Action σ ε β) (state : σ) :
    runOn (first >>= next) state =
      match (runOn first state).1 with
      | .ok value => runOn (next value) (runOn first state).2
      | .error raised => (.error raised, (runOn first state).2) := by
  change (match first.runOn state with
    | (.ok value, later) => (next value).runOn later
    | (.error raised, later) => (.error raised, later)) = _
  obtain ⟨result, later⟩ := first.runOn state
  cases result with
  | ok value => rfl
  | error raised => rfl

/-- Whatever the computation returns has the property. -/
def Ensures (action : Action σ ε α) (property : α → Prop) : Prop :=
  ∀ state value, (action.runOn state).1 = .ok value → property value

namespace Ensures

variable {property : β → Prop}

theorem pure {value : β} (holds : property value) :
    Ensures (Pure.pure value : Action σ ε β) property := by
  intro state returned same
  cases same
  exact holds

theorem raise (raised : ε) : Ensures (Action.raise raised : Action σ ε β) property := by
  intro state returned same
  cases same

theorem bind {first : Action σ ε α} {next : α → Action σ ε β}
    {middle : α → Prop} (firstEnsures : Ensures first middle)
    (nextEnsures : ∀ value, middle value → Ensures (next value) property) :
    Ensures (first >>= next) property := by
  intro state returned same
  rw [runOn_bind] at same
  cases result : (runOn first state).1 with
  | ok value =>
    simp only [result] at same
    exact nextEnsures value (firstEnsures state value result) _ _ same
  | error raised =>
    simp only [result] at same
    cases same

theorem andThen {first : Action σ ε α} {next : α → Action σ ε β}
    (nextEnsures : ∀ value, Ensures (next value) property) :
    Ensures (first >>= next) property :=
  bind (fun _ _ _ => trivial) fun value _ => nextEnsures value

end Ensures

/-- A run that returns is described by its first state, its value and its last
state. -/
def Satisfies (action : Action σ ε α) (post : σ → α → σ → Prop) : Prop :=
  ∀ state value, (action.runOn state).1 = .ok value → post state value (action.runOn state).2

namespace Satisfies

theorem bind {first : Action σ ε α} {next : α → Action σ ε β}
    {middle : σ → α → σ → Prop} {post : σ → β → σ → Prop}
    (firstSatisfies : Satisfies first middle)
    (nextSatisfies : ∀ before value, Satisfies (next value)
      fun state result after => middle before value state → post before result after) :
    Satisfies (first >>= next) post := by
  intro state result returned
  rw [runOn_bind] at returned ⊢
  cases outcome : (runOn first state).1 with
  | error raised =>
    rw [outcome] at returned
    cases returned
  | ok value =>
    rw [outcome] at returned
    exact nextSatisfies state value _ _ returned (firstSatisfies state value outcome)

end Satisfies

/-- Every run keeps the invariant, whether it returns or raises. -/
def Keeps (action : Action σ ε α) (invariant : σ → Prop) : Prop :=
  ∀ state, invariant state → invariant (action.runOn state).2

namespace Keeps

variable {invariant : σ → Prop}

theorem pure (value : α) : Keeps (Pure.pure value : Action σ ε α) invariant :=
  fun _ holds => holds

theorem reads (value : σ → α) : Keeps (Action.reads value : Action σ ε α) invariant :=
  fun _ holds => holds

theorem raise (raised : ε) : Keeps (Action.raise raised : Action σ ε α) invariant :=
  fun _ holds => holds

theorem bind {first : Action σ ε α} {next : α → Action σ ε β} (firstKeeps : Keeps first invariant)
    (nextKeeps : ∀ value, Keeps (next value) invariant) :
    Keeps (first >>= next) invariant := by
  intro state holds
  rw [runOn_bind]
  cases (runOn first state).1 with
  | error raised => exact firstKeeps state holds
  | ok value => exact nextKeeps value _ (firstKeeps state holds)

end Keeps

end Action

end RoxabiFactory
