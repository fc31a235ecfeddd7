import RoxabiFactory.SqliteConnection
import RoxabiFactory.TransitionSystem
import Mathlib.Data.List.Sort

/-!
# Projections of events that are marked before they are applied

A projector keeps a state in memory and saves every change of it to a database,
each change in a commit of its own.  An event that is delivered again is skipped
by a mark, which is committed before the first change of the event.  The
process may stop between any two commits, and starts from the database again.
-/

namespace RoxabiFactory

/-- What events change. -/
structure Projector (Event State Write Progress : Type*) where
  empty : State
  /-- What an event writes, in order; an event may also raise instead. -/
  handle : Event → State → Option (List Write)
  /-- A write to the state in memory. -/
  apply : State → Write → State
  /-- The same write to the tables. -/
  save : State → Write → State
  save_eq : ∀ state write, save state write = apply state write
  /-- The tables if the statements of a write have been carried out in part. -/
  partway : State → Write → Progress → State
  /-- How many marks the database keeps. -/
  limit : ℕ

namespace Projector

variable {Event State Write Progress : Type*}

/-- The tables: the marks are from the last inserted to the first, with their
times. -/
structure Contents (Event State : Type*) where
  state : State
  processed : List (Event × ℕ)

structure Memory (Event State : Type*) where
  state : State
  processed : List Event

/-- What a handler still has to commit. -/
inductive Commit (Event Write : Type*)
  | mark (event : Event) (now : ℕ)
  | change (write : Write)

def Commit.write? : Commit Event Write → Option Write
  | .mark _ _ => none
  | .change write => some write

inductive Process (Event State Write : Type*)
  | stopped
  | idle (memory : Memory Event State)
  | handling (memory : Memory Event State) (event : Event)
      (todo : List (Commit Event Write)) (raises : Bool)

/-- What the handler of a marked event still has to write. -/
def Process.owed : Process Event State Write → List Write
  | .handling _ _ (.mark _ _ :: _) _ => []
  | .handling _ _ todo _ => todo.filterMap Commit.write?
  | _ => []

/-- No handler runs. -/
def Process.AtRest : Process Event State Write → Prop
  | .handling _ _ _ _ => False
  | _ => True

/-- How much of a mark has been carried out. -/
inductive MarkProgress
  | begun
  | inserted
  | pruned

/-- The lists are from the last to the first. -/
structure ProjectionState (Event State Write : Type*) where
  process : Process Event State Write
  database : SqliteConnection (Contents Event State)
  /-- The different events that have been delivered. -/
  delivered : List Event
  /-- The events whose marks have been committed, once for every mark. -/
  recorded : List Event
  unacknowledged : List Event

inductive Action (Event Progress : Type*)
  | start
  | deliver (event : Event) (now : ℕ)
  | commit
  | failMark (progress : MarkProgress)
  | failWrite (progress : Progress)
  | finish (acknowledged : Bool)
  | stop

section Steps

variable [DecidableEq Event]

namespace Contents

/-- `INSERT OR IGNORE` of a mark. -/
def insertMark (event : Event) (now : ℕ) (contents : Contents Event State) : Contents Event State :=
  if event ∈ contents.processed.map Prod.fst then contents
  else { contents with processed := (event, now) :: contents.processed }

/-- The marks with the last times stay. -/
def prune (limit : ℕ) (contents : Contents Event State) : Contents Event State :=
  { contents with
    processed := (contents.processed.insertionSort fun first second =>
      second.2 ≤ first.2).take limit }

end Contents

variable (projector : Projector Event State Write Progress)

/-- What an event writes; one that raises writes nothing. -/
def writes (event : Event) (state : State) : List Write := (projector.handle event state).getD []

def applyAll (state : State) (writes : List Write) : State := writes.foldl projector.apply state

/-- The state after each of the events has been applied once, without a stop;
the last event is first in the list. -/
def effects : List Event → State
  | [] => projector.empty
  | event :: earlier =>
    projector.applyAll (effects earlier) (projector.writes event (effects earlier))

def initialState : ProjectionState Event State Write where
  process := .stopped
  database := .opened ⟨projector.empty, []⟩
  delivered := []
  recorded := []
  unacknowledged := []

def Commit.run (contents : Contents Event State) : Commit Event Write → Contents Event State
  | .mark event now => (contents.insertMark event now).prune projector.limit
  | .change write =>
    { contents with state := projector.save contents.state write }

/-- The memory is changed before the statements are carried out. -/
def Commit.remember (memory : Memory Event State) : Commit Event Write → Memory Event State
  | .mark _ _ => memory
  | .change write => { memory with state := projector.apply memory.state write }

/-- The statements of a mark that have been carried out. -/
def markPartway (contents : Contents Event State) (event : Event) (now : ℕ) :
    MarkProgress → Contents Event State
  | .begun => contents
  | .inserted => contents.insertMark event now
  | .pruned => (contents.insertMark event now).prune projector.limit

namespace ProjectionState

/-- The projector loads the tables. -/
def starting (state : ProjectionState Event State Write) : ProjectionState Event State Write :=
  let loaded := state.database.committed.prune projector.limit
  { state with process := .idle ⟨loaded.state, loaded.processed.map Prod.fst⟩ }

/-- An event is delivered: a processed one is skipped; for another one the
handler remembers it, and has to commit its mark and what it writes. -/
def delivering (state : ProjectionState Event State Write)
    (memory : Memory Event State) (event : Event) (now : ℕ) :
    ProjectionState Event State Write :=
  { state with
    process :=
      if event ∈ memory.processed then .handling memory event [] false
      else
        .handling { memory with processed := event :: memory.processed } event
          (.mark event now :: (projector.writes event memory.state).map .change)
          (projector.handle event memory.state).isNone
    delivered := state.delivered.insert event
    unacknowledged := state.unacknowledged.insert event }

def committing (state : ProjectionState Event State Write)
    (memory : Memory Event State) (event : Event)
    (commit : Commit Event Write) (todo : List (Commit Event Write))
    (raises : Bool) : ProjectionState Event State Write :=
  { state with
    process := .handling (commit.remember projector memory) event todo raises
    database := (state.database.modify fun contents =>
        commit.run projector contents).commit
    recorded :=
      match commit with
      | .mark event _ => event :: state.recorded
      | .change _ => state.recorded }

/-- A handler raises in its first commit: its transaction stays open. -/
def failing (state : ProjectionState Event State Write) (memory : Memory Event State)
    (change : Contents Event State → Contents Event State) :
    ProjectionState Event State Write :=
  { state with
    process := .idle memory
    database := state.database.modify change }

/-- A handler returns or raises; the message of one that returns is
acknowledged, unless the acknowledgement is lost. -/
def finishing (state : ProjectionState Event State Write)
    (memory : Memory Event State) (event : Event) (acknowledged : Bool) :
    ProjectionState Event State Write :=
  { state with
    process := .idle memory
    unacknowledged :=
      if acknowledged then state.unacknowledged.filter (· ≠ event)
      else state.unacknowledged }

/-- The process stops; an open transaction is lost. -/
def stopping (state : ProjectionState Event State Write) : ProjectionState Event State Write :=
  { state with
    process := .stopped
    database := .opened state.database.committed }

end ProjectionState

def step (state : ProjectionState Event State Write) :
    Action Event Progress → Option (ProjectionState Event State Write)
  | .start =>
    match state.process with
    | .stopped => some (state.starting projector)
    | _ => none
  | .deliver event now =>
    match state.process with
    | .idle memory => some (state.delivering projector memory event now)
    | _ => none
  | .commit =>
    match state.process with
    | .handling memory event (commit :: todo) raises =>
      some (state.committing projector memory event commit todo raises)
    | _ => none
  | .failMark progress =>
    match state.process with
    | .handling memory _ (.mark event now :: _) _ =>
      some (state.failing memory fun contents =>
        projector.markPartway contents event now progress)
    | _ => none
  | .failWrite progress =>
    match state.process with
    | .handling memory _ (.change write :: _) _ =>
      some (state.failing { memory with state := projector.apply memory.state write }
        fun contents =>
          { contents with
            state := projector.partway contents.state write progress })
    | _ => none
  | .finish acknowledged =>
    match state.process with
    | .handling memory event [] raises =>
      some (state.finishing memory event (acknowledged && !raises))
    | _ => none
  | .stop => some state.stopping

def system : TransitionSystem (ProjectionState Event State Write) (Action Event Progress) where
  initial := (· = projector.initialState)
  step := projector.step

/-! ## When nothing is lost -/

/-- The tables and the memory are what the events make, each applied once and in
order. -/
structure Survives (state : ProjectionState Event State Write) : Prop where
  /-- At rest, with every message acknowledged. -/
  ends : state.process.AtRest → state.unacknowledged = [] →
    state.database.committed.state = projector.effects state.delivered ∧
      ∀ memory, state.process = .idle memory → memory.state = projector.effects state.delivered
  /-- The effects of the recorded events are in the tables, but for what the
  handler that runs has still to write. -/
  effective : projector.applyAll state.database.committed.state
    state.process.owed = projector.effects state.recorded
  marked : ∀ mark ∈ state.database.committed.processed, mark.1 ∈ state.recorded
  once : state.recorded.Nodup

/-- A write that fails changes nothing, and nor does what is left out. -/
def HarmlessFailure (state : ProjectionState Event State Write) (progress : Progress) : Prop :=
  match state.process with
  | .handling memory _ (.change write :: todo) _ =>
    projector.partway state.database.current.state write progress = state.database.current.state ∧
      projector.apply memory.state write = memory.state ∧
        projector.applyAll memory.state (todo.filterMap Commit.write?) = memory.state
  | _ => True

/-- An event is delivered for the first time, or without its mark, only while no
other event lacks its mark, and it is delivered again only while its mark is
kept; a handler that stops or raises after the mark owes no change, and no mark
fails. -/
def Harmless (state : ProjectionState Event State Write) : Action Event Progress → Prop
  | .deliver event _ =>
    match state.process with
    | .idle memory =>
      if event ∈ state.recorded then event ∈ memory.processed
      else ∀ other ∈ state.delivered, other = event ∨ other ∈ state.recorded
    | _ => True
  | .failMark _ => False
  | .failWrite progress => projector.HarmlessFailure state progress
  | .stop =>
    projector.applyAll state.database.committed.state state.process.owed =
      state.database.committed.state
  | _ => True

instance [DecidableEq State] (state : ProjectionState Event State Write) (progress : Progress) :
    Decidable (projector.HarmlessFailure state progress) :=
  match same : state.process with
  | .handling memory event (.change write :: todo) raises =>
    decidable_of_iff (projector.partway state.database.current.state write progress =
          state.database.current.state ∧
        projector.apply memory.state write = memory.state ∧
          projector.applyAll memory.state (todo.filterMap Commit.write?) = memory.state)
      (by rw [HarmlessFailure, same])
  | .handling _ _ (.mark _ _ :: _) _ =>
    .isTrue (by rw [HarmlessFailure, same]; trivial)
  | .handling _ _ [] _ => .isTrue (by rw [HarmlessFailure, same]; trivial)
  | .idle _ => .isTrue (by rw [HarmlessFailure, same]; trivial)
  | .stopped => .isTrue (by rw [HarmlessFailure, same]; trivial)

instance [DecidableEq State] (state : ProjectionState Event State Write)
    (action : Action Event Progress) :
    Decidable (projector.Harmless state action) :=
  match action with
  | .start | .commit | .finish _ => inferInstanceAs (Decidable True)
  | .deliver event _ =>
    match same : state.process with
    | .idle memory =>
      decidable_of_iff (if event ∈ state.recorded then event ∈ memory.processed
          else ∀ other ∈ state.delivered, other = event ∨ other ∈ state.recorded)
        (by simp only [Harmless, same])
    | .handling _ _ _ _ => .isTrue (by simp only [Harmless, same])
    | .stopped => .isTrue (by simp only [Harmless, same])
  | .failMark _ => inferInstanceAs (Decidable False)
  | .failWrite progress =>
    inferInstanceAs (Decidable (projector.HarmlessFailure state progress))
  | .stop =>
    inferInstanceAs (Decidable (projector.applyAll
      state.database.committed.state state.process.owed = state.database.committed.state))

end Steps

end Projector

end RoxabiFactory
