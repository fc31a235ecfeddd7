import Mathlib.Data.Fintype.Defs
import Mathlib.Logic.Function.Basic
import RoxabiFactory.AgentRows
import RoxabiFactory.TransitionSystem

/-!
# Edits of agents that overlap

A request reads the cached row of its agent, makes a whole row of it, and then
awaits the statement and the commit before the row goes into the cache.  Other
requests run at each of these awaits.
-/

namespace RoxabiFactory

namespace Agents

/-- What a request asks for. -/
inductive Edit
  | create (request : CreateRequest) (createdAt : String)
  | patch (request : PatchRequest)
  | soul (storeKey : String) (bytes : ℕ)

def Edit.isCreate : Edit → Bool
  | .create _ _ => true
  | .patch _ | .soul _ _ => false

/-- The row that a request makes of the cached one, unless it is rejected. -/
def Edit.prepare (edit : Edit) (now : String) (cached : Option AgentRow) : Option AgentRow :=
  match edit, cached with
  | .create request createdAt, none => (createRow request createdAt).toOption
  | .create _ _, some _ => none
  | .patch _, none => none
  | .patch request, some row => (patchRow request row now).toOption
  | .soul _ _, none => none
  | .soul storeKey bytes, some row =>
    if storeKey = "" then none else some (soulRow storeKey bytes row now)

/-- The value that a request sets, if it sets the field.  A creation sets all
of them. -/
def Edit.sets (edit : Edit) (now : String) {α : Type} (field : Field α) : Option α :=
  match edit with
  | .create request createdAt =>
    (createRow request createdAt).toOption.map fun row =>
      (row.cached now).get field
  | .patch request => request.sets now field
  | .soul storeKey bytes => soulSets storeKey bytes now field

/-- A row that is being stored. -/
structure Write where
  row : AgentRow
  edit : Edit
  now : String

/-- Where a request waits. -/
inductive Stage
  /-- For the blob of a soul document. -/
  | storing (name : String) (bytes : ℕ)
  /-- For the statement of `upsert`. -/
  | submitted (write : Write)
  /-- For the commit. -/
  | executed (write : Write)
  /-- To go on after the commit. -/
  | committed (write : Write)

def Stage.write? : Stage → Option Write
  | .storing _ _ => none
  | .submitted write | .executed write | .committed write => some write

/-- The rows of the table, by their primary key. -/
structure AgentTable where
  row : String → Option AgentRow
  named : ∀ name found, row name = some found → found.name = name

/-- A request that has stored its row. -/
structure Accepted where
  name : String
  edit : Edit
  now : String

structure EditState (Task : Type) where
  cache : String → Option AgentRow
  table : String → Option AgentRow
  tasks : Task → Option Stage
  /-- The last first. -/
  accepted : List Accepted

/-- A step of the event loop or of the connection. -/
inductive EditAction (Task : Type)
  | create (task : Task) (request : CreateRequest) (createdAt now : String)
  | patch (task : Task) (name : String) (request : PatchRequest) (now : String)
  /-- The soul document has passed the checks. -/
  | soulPut (task : Task) (name : String) (bytes : ℕ)
  /-- The blob is stored. -/
  | stored (task : Task) (storeKey now : String)
  /-- The blob cannot be stored. -/
  | failed (task : Task)
  | execute (task : Task)
  | commit (task : Task)
  | finish (task : Task)

namespace EditState

variable {Task : Type} [DecidableEq Task] (state : EditState Task)

def setTask (task : Task) (stage : Option Stage) : EditState Task :=
  { state with tasks := Function.update state.tasks task stage }

/-- The part of a request up to the statement; a rejected one is answered. -/
def submit (task : Task) (name : String) (edit : Edit) (now : String) : EditState Task :=
  state.setTask task (((edit.prepare now (state.cache name)).map fun row =>
      .submitted ⟨row, edit, now⟩))

/-- The statement changes the table. -/
def executeWrite (task : Task) (write : Write) : EditState Task :=
  { state with
    table := Function.update state.table write.row.name
      (some (upsertAgent (state.table write.row.name) (write.row.values write.now)))
    tasks := Function.update state.tasks task (some (.executed write)) }

/-- The row goes into the cache. -/
def finishWrite (task : Task) (write : Write) : EditState Task :=
  { state with
    cache := Function.update state.cache write.row.name (some (write.row.cached write.now))
    tasks := Function.update state.tasks task none
    accepted := ⟨write.row.name, write.edit, write.now⟩ :: state.accepted }

def step : EditAction Task → Option (EditState Task)
  | .create task request createdAt now =>
    match state.tasks task with
    | none =>
      some (state.submit task request.name (.create request createdAt) now)
    | some _ => none
  | .patch task name request now =>
    match state.tasks task with
    | none => some (state.submit task name (.patch request) now)
    | some _ => none
  | .soulPut task name bytes =>
    match state.tasks task with
    | none =>
      some (state.setTask task ((state.cache name).map fun _ => .storing name bytes))
    | some _ => none
  | .stored task storeKey now =>
    match state.tasks task with
    | some (.storing name bytes) =>
      some (state.submit task name (.soul storeKey bytes) now)
    | _ => none
  | .failed task =>
    match state.tasks task with
    | some (.storing _ _) => some (state.setTask task none)
    | _ => none
  | .execute task =>
    match state.tasks task with
    | some (.submitted write) => some (state.executeWrite task write)
    | _ => none
  | .commit task =>
    match state.tasks task with
    | some (.executed write) =>
      some (state.setTask task (some (.committed write)))
    | _ => none
  | .finish task =>
    match state.tasks task with
    | some (.committed write) => some (state.finishWrite task write)
    | _ => none

/-- The row that a task is storing. -/
def writing (task : Task) : Option Write := (state.tasks task).bind Stage.write?

/-- No request stores a row of the agent. -/
def Idle (name : String) : Prop := ∀ task, (state.writing task).all fun write =>
    decide (write.row.name ≠ name)

/-- A request reads the cached row of an agent only when no other one is
storing a row of this agent. -/
def Alone : EditAction Task → Prop
  | .create _ request _ _ => state.Idle request.name
  | .patch _ name _ _ => state.Idle name
  | .stored task _ _ =>
    match state.tasks task with
    | some (.storing name _) => state.Idle name
    | _ => True
  | .soulPut _ _ _ | .failed _ | .execute _ | .commit _ | .finish _ => True

instance [Fintype Task] (name : String) : Decidable (state.Idle name) :=
  inferInstanceAs (Decidable (∀ _, _))

instance [Fintype Task] (action : EditAction Task) : Decidable (state.Alone action) :=
  match action with
  | .create _ request _ _ => inferInstanceAs (Decidable (state.Idle request.name))
  | .patch _ name _ _ => inferInstanceAs (Decidable (state.Idle name))
  | .stored task _ _ =>
    match found : state.tasks task with
    | some (.storing name _) =>
      decidable_of_iff (state.Idle name) (by simp only [Alone, found])
    | some (.submitted _) => .isTrue (by simp only [Alone, found])
    | some (.executed _) => .isTrue (by simp only [Alone, found])
    | some (.committed _) => .isTrue (by simp only [Alone, found])
    | none => .isTrue (by simp only [Alone, found])
  | .soulPut _ _ _ => .isTrue trivial
  | .failed _ => .isTrue trivial
  | .execute _ => .isTrue trivial
  | .commit _ => .isTrue trivial
  | .finish _ => .isTrue trivial

end EditState

/-- The cache has been loaded from the table, and no request is under way. -/
def editSystem (Task : Type) [DecidableEq Task] (start : AgentTable) :
    TransitionSystem (EditState Task) (EditAction Task) where
  initial state := state.table = start.row ∧
    (∀ name, state.cache name = (start.row name).map AgentRow.fromDbRow) ∧
    (∀ task, state.tasks task = none) ∧ state.accepted = []
  step := EditState.step

/-! ## What the requests have set -/

/-- The value of the last accepted request that sets the field. -/
def lastSet {α : Type} (accepted : List Accepted) (name : String) (field : Field α) : Option α :=
  accepted.findSome? fun request =>
    if request.name = name then request.edit.sets request.now field else none

/-- The accepted creations of an agent. -/
def creates (accepted : List Accepted) (name : String) : ℕ := accepted.countP fun request =>
    decide (request.name = name) && request.edit.isCreate

/-- No accepted change is lost. -/
structure EditState.Kept {Task : Type} (start : AgentTable) (state : EditState Task) : Prop where
  cached : ∀ name {α : Type} (field : Field α), (state.cache name).map (·.get field) =
      (lastSet state.accepted name field).or ((start.row name).map (·.fromDbRow.get field))
  stored : ∀ name {α : Type} (field : Field α), (state.table name).map (·.fromDbRow.get field) =
      (lastSet state.accepted name field).or ((start.row name).map (·.fromDbRow.get field))
  created : ∀ name, creates state.accepted name ≤ 1

end Agents

end RoxabiFactory
