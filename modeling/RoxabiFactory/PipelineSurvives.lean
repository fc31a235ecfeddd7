import RoxabiFactory.PipelineStore

/-!
# What the pipeline store loses

The mark of an event is committed before its runs.  While nothing is lost in
between, the store ends as if every event had been applied once.
-/

namespace RoxabiFactory

namespace PipelineStore

open Projector

variable {lib : Library} {events : TraceId → Event}

/-- While every delivery, failure and stop is harmless, the tables and the
memory are those of the events, applied once and in order, and no event is
recorded without its effect. -/
theorem survives_of_reachable {state : ProjectionState TraceId Projection Write}
    (reached : (projector lib events).system.ReachableWithin
      (projector lib events).Harmless state) :
    (projector lib events).Survives state :=
  (sound_of_reachable reached).survives

section Example

def exampleLibrary : Library where
  str _ := .error .recursionError
  int _ := .error .valueError
  projectsJson := none

theorem first_ne_empty : "first" ≠ "" := by
  decide

theorem second_ne_empty : "second" ≠ "" := by
  decide

def firstId : TraceId := ⟨"first", first_ne_empty⟩

def secondId : TraceId := ⟨"second", second_ne_empty⟩

/-- A pull request is opened, and a check of it succeeds. -/
def exampleEvents (traceId : TraceId) : Event :=
  if traceId = firstId then
    ⟨.github, "pull_request.opened", [(.text "action", .ofString "opened"),
        (.text "pull_request", .obj [(.text "number", .int 42)])]⟩
  else
    ⟨.github, "check_run.completed", [(.text "check_run", .obj
        [(.text "pull_request_numbers", .arr [.int 42]), (.text "status", .ofString "completed"),
          (.text "conclusion", .ofString "success")])]⟩

/-- The first event is delivered again after a restart, the second one after
its acknowledgement is lost. -/
def survivingActions : List (Projector.Action TraceId SaveProgress) :=
  [.start, .deliver firstId 1, .stop, .start, .deliver firstId 2, .commit,
    .commit, .commit, .finish true, .stop, .start, .deliver firstId 3,
    .finish true, .deliver secondId 4, .commit, .commit, .finish false, .stop,
    .start, .deliver secondId 5, .finish true]

/-- Both events are in the end applied once. -/
theorem survives_survivingActions : ∃ state, (projector exampleLibrary exampleEvents).system.run
        (projector exampleLibrary exampleEvents).initialState
        survivingActions = some state ∧
      (projector exampleLibrary exampleEvents).Survives state := by
  have runs : ((projector exampleLibrary exampleEvents).system.checkedRun
      (projector exampleLibrary exampleEvents).Harmless
      (projector exampleLibrary exampleEvents).initialState
      survivingActions).isSome := by
    decide
  obtain ⟨state, checked⟩ := Option.isSome_iff_exists.1 runs
  exact ⟨state, TransitionSystem.run_of_checkedRun checked, survives_of_reachable
      (.of_checkedRun _ (.start rfl) survivingActions checked)⟩

/-- The process stops between the mark of an event and its run. -/
def lostActions : List (Projector.Action TraceId SaveProgress) :=
  [.start, .deliver firstId 1, .commit, .stop, .start, .deliver firstId 2, .finish true]

/-- The tables have the mark, and no run. -/
theorem exists_lost_event :
    ∃ state, (projector exampleLibrary exampleEvents).system.Reachable state ∧
      ¬ (projector exampleLibrary exampleEvents).Survives state := by
  have run : ∃ state, (projector exampleLibrary exampleEvents).system.Reachable state ∧
        (state.recorded = [firstId] ∧ state.process.owed.isEmpty ∧ state.database.committed.state ≠
            (projector exampleLibrary exampleEvents).effects [firstId]) :=
    TransitionSystem.exists_reachable_of_run
      (projector exampleLibrary exampleEvents).initialState rfl lostActions
      (by decide)
  obtain ⟨state, reached, recorded, none, lost⟩ := run
  refine ⟨state, reached, ?_⟩
  intro survives
  apply lost
  have effective := survives.effective
  rw [List.isEmpty_iff.1 none, recorded] at effective
  exact effective

end Example

end PipelineStore

end RoxabiFactory
