import Mathlib.Data.List.Basic

/-!
# Runs of labelled transition systems

An action fixes every choice that the environment and the scheduler make in
one step, so a step is a partial function.  A run may be restricted by a
condition on each action and on the state in which it is taken; the states of
the restricted runs are closed under the induction rule
`ReachableWithin.invariant`, and concrete runs are executed by `checkedRun`.
-/

namespace RoxabiFactory

/-- A transition system whose actions determine the successor state. -/
structure TransitionSystem (State Action : Type*) where
  initial : State → Prop
  step : State → Action → Option State

namespace TransitionSystem

variable {State Action : Type*}

/-- The states reached by runs in which every action meets `admissible` in
the state where it is taken. -/
inductive ReachableWithin (system : TransitionSystem State Action)
    (admissible : State → Action → Prop) : State → Prop
  | start {state : State} : system.initial state → ReachableWithin system admissible state
  | next {state after : State} {action : Action} : ReachableWithin system admissible state →
        admissible state action → system.step state action = some after →
          ReachableWithin system admissible after

/-- The states reached by arbitrary runs. -/
def Reachable (system : TransitionSystem State Action) : State → Prop :=
  system.ReachableWithin fun _ _ => True

variable {system : TransitionSystem State Action}
variable {admissible : State → Action → Prop}

/-- A predicate that holds initially and is preserved by every admissible
step holds in every state of every admissible run. -/
theorem ReachableWithin.invariant {predicate : State → Prop}
    (start : ∀ state, system.initial state → predicate state)
    (preserved : ∀ state action after, predicate state →
      admissible state action → system.step state action = some after → predicate after)
    {state : State} (reached : system.ReachableWithin admissible state) :
    predicate state := by
  induction reached with
  | start initially => exact start _ initially
  | next _ admitted stepTo ih => exact preserved _ _ _ ih admitted stepTo

theorem ReachableWithin.invariant_of_invariant {base predicate : State → Prop}
    (known : ∀ state, system.ReachableWithin admissible state → base state)
    (start : ∀ state, system.initial state → predicate state)
    (preserved : ∀ state action after, base state → predicate state →
      admissible state action → system.step state action = some after → predicate after)
    {state : State} (reached : system.ReachableWithin admissible state) :
    predicate state := by
  induction reached with
  | start initially => exact start _ initially
  | next before admitted stepTo ih =>
    exact preserved _ _ _ (known _ before) ih admitted stepTo

/-- Weakening the condition on actions keeps every reached state. -/
theorem ReachableWithin.mono {weaker : State → Action → Prop}
    (implies : ∀ state action, admissible state action → weaker state action)
    {state : State} (reached : system.ReachableWithin admissible state) :
    system.ReachableWithin weaker state := by
  induction reached with
  | start initially => exact .start initially
  | next _ admitted stepTo ih =>
    exact .next ih (implies _ _ admitted) stepTo

theorem ReachableWithin.reachable {state : State}
    (reached : system.ReachableWithin admissible state) :
    system.Reachable state :=
  reached.mono fun _ _ _ => trivial

/-- Execute a list of actions. -/
def run (system : TransitionSystem State Action) : State → List Action → Option State
  | state, [] => some state
  | state, action :: actions =>
    (system.step state action).bind fun after => system.run after actions

/-- Execute a list of actions, stopping at the first one that does not meet
the condition. -/
def checkedRun (system : TransitionSystem State Action) (admissible : State → Action → Prop)
    [∀ state action, Decidable (admissible state action)] :
    State → List Action → Option State
  | state, [] => some state
  | state, action :: actions =>
    if admissible state action then
      (system.step state action).bind fun after =>
        system.checkedRun admissible after actions
    else none

theorem run_of_checkedRun [∀ state action, Decidable (admissible state action)]
    {state after : State} {actions : List Action}
    (runs : system.checkedRun admissible state actions = some after) :
    system.run state actions = some after := by
  induction actions generalizing state with
  | nil => exact runs
  | cons action actions ih =>
    unfold checkedRun at runs
    split at runs
    · obtain ⟨middle, stepTo, rest⟩ := Option.bind_eq_some_iff.mp runs
      unfold run
      rw [stepTo]
      exact ih rest
    · cases runs

theorem ReachableWithin.of_checkedRun [∀ state action, Decidable (admissible state action)]
    (state : State) {after : State}
    (reached : system.ReachableWithin admissible state)
    (actions : List Action)
    (runs : system.checkedRun admissible state actions = some after) :
    system.ReachableWithin admissible after := by
  induction actions generalizing state with
  | nil =>
    simp only [checkedRun, Option.some.injEq] at runs
    exact runs ▸ reached
  | cons action actions ih =>
    by_cases admitted : admissible state action
    · simp only [checkedRun, if_pos admitted] at runs
      obtain ⟨middle, stepTo, rest⟩ := Option.bind_eq_some_iff.mp runs
      exact ih middle (.next reached admitted stepTo) rest
    · simp [checkedRun, admitted] at runs

/-- The state at the end of an executable restricted run, together with
whatever was evaluated there. -/
theorem exists_reachableWithin_of_checkedRun [∀ state action, Decidable (admissible state action)]
    {property : State → Prop} [DecidablePred property] (state : State)
    (initially : system.initial state) (actions : List Action)
    (holds : (system.checkedRun admissible state actions).any
      (fun after => decide (property after)) = true) :
    ∃ after, system.ReachableWithin admissible after ∧ property after := by
  obtain ⟨after, runs, evaluated⟩ := (Option.any_eq_true _ _).mp holds
  exact ⟨after, .of_checkedRun state (.start initially) actions runs, of_decide_eq_true evaluated⟩

/-- The end of a run whose actions meet the condition wherever they are
taken. -/
theorem ReachableWithin.of_run {state after : State}
    (reached : system.ReachableWithin admissible state) (actions : List Action)
    (admitted : ∀ action ∈ actions, ∀ state, admissible state action)
    (runs : system.run state actions = some after) :
    system.ReachableWithin admissible after := by
  induction actions generalizing state with
  | nil =>
    simp only [run, Option.some.injEq] at runs
    exact runs ▸ reached
  | cons action actions ih =>
    obtain ⟨middle, stepTo, rest⟩ := Option.bind_eq_some_iff.mp runs
    have first := admitted action List.mem_cons_self state
    apply ih (.next reached first stepTo) _ rest
    exact fun other member => admitted other (List.mem_cons_of_mem _ member)

theorem Reachable.of_run {state after : State}
    (reached : system.Reachable state) (actions : List Action)
    (runs : system.run state actions = some after) :
    system.Reachable after :=
  ReachableWithin.of_run reached actions (fun _ _ _ => trivial) runs

/-- The state at the end of an executable run, together with its
reachability and whatever was evaluated there. -/
theorem exists_reachable_of_run {property : State → Prop} [DecidablePred property] (state : State)
    (initially : system.initial state) (actions : List Action)
    (holds : (system.run state actions).any (fun after => decide (property after)) = true) :
    ∃ after, system.Reachable after ∧ property after := by
  obtain ⟨after, runs, evaluated⟩ := (Option.any_eq_true _ _).mp holds
  exact ⟨after, Reachable.of_run (.start initially) actions runs, of_decide_eq_true evaluated⟩

end TransitionSystem

end RoxabiFactory
