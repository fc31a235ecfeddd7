import Mathlib.Data.Fintype.Defs
import Mathlib.Logic.Function.Basic
import RoxabiFactory.SqliteConnection
import RoxabiFactory.TransitionSystem

/-!
# Link challenges on one connection

`create_challenge` purges the expired rows, inserts a row and commits;
`validate_challenge` reads and deletes a row within a transaction that it
begins.  Both await every statement, and the connection is the same.  A code
stands for its hash, by which the table is keyed.
-/

namespace RoxabiFactory

namespace LinkChallenges

/-- A row of `link_challenges`; times are in microseconds. -/
structure Challenge where
  initiatorId : String
  platform : String
  expiresAt : ℤ
  deriving DecidableEq

/-- The rows, by their primary key. -/
abbrev Table : Type := String → Option Challenge

def microsecondsPerDay : ℤ := 24 * 60 * 60 * 1000000

/-- `expires_at < datetime('now')` compares texts.  After equal dates, the one
has a `T` and the other a space, which is less. -/
def isPurged (expiresAt now : ℤ) : Bool :=
  decide (expiresAt / microsecondsPerDay < now / microsecondsPerDay)

/-- The `DELETE` of `create_challenge`. -/
def purge (now : ℤ) (table : Table) : Table :=
  fun codeHash => (table codeHash).filter fun row =>
    !isPurged row.expiresAt now

/-! ## What the calls have done -/

/-- A code that has been inserted: the number of the earlier ones of the same
code, and when it expires. -/
structure Ticket where
  number : ℕ
  expiresAt : ℤ
  deriving DecidableEq

/-- A call of `validate_challenge`.  It has a ticket if it is the first call
for the code since the code was inserted. -/
structure Attempt where
  codeHash : String
  ticket : Option Ticket
  started : ℤ
  deriving DecidableEq

/-- A finished attempt; one that raises is not accepted. -/
structure Validation where
  attempt : Attempt
  accepted : Bool
  deriving DecidableEq

/-- A transaction that a validation has rolled back. -/
structure Rollback where
  codeHash : String
  discarded : Table
  restored : Table

/-- Where a call waits. -/
inductive Stage
  /-- `create_challenge`, after the purge. -/
  | purged
  /-- After its insertion. -/
  | inserted (codeHash : String) (number : ℕ)
  /-- `validate_challenge`, in its transaction. -/
  | begun (attempt : Attempt)
  /-- It has read no row. -/
  | missing (attempt : Attempt)
  /-- It has read the row. -/
  | found (attempt : Attempt) (row : Challenge)
  /-- It has deleted the row. -/
  | removed (attempt : Attempt) (row : Challenge)
  /-- A statement has raised. -/
  | failing (attempt : Attempt)
  /-- After the commit. -/
  | committed (attempt : Attempt) (row : Challenge)

def Stage.attempt? : Stage → Option Attempt
  | .purged | .inserted _ _ => none
  | .begun attempt | .missing attempt | .found attempt _
  | .removed attempt _ | .failing attempt | .committed attempt _ =>
    some attempt

/-- The attempt of a validation that has not ended its transaction. -/
def Stage.transaction? : Stage → Option Attempt
  | .purged | .inserted _ _ | .committed _ _ => none
  | .begun attempt | .missing attempt | .found attempt _
  | .removed attempt _ | .failing attempt => some attempt

structure ChallengeState (Task : Type) where
  db : SqliteConnection Table
  tasks : Task → Option Stage
  clock : ℤ
  /-- The ticket that the next validation of a code takes. -/
  waiting : String → Option Ticket
  /-- How many tickets there have been for a code. -/
  issued : String → ℕ
  /-- The codes that `create_challenge` has returned. -/
  returned : List (String × ℕ)
  log : List Validation
  rollbacks : List Rollback

/-- A call, or the next statement of a call. -/
inductive Event (Task : Type)
  | create (task : Task)
  /-- The code has been drawn. -/
  | insert (task : Task) (codeHash initiatorId platform : String) (ttlMicroseconds : ℤ)
  | validate (task : Task) (codeHash : String)
  | resume (task : Task)

/-- What happens, and when. -/
structure ChallengeAction (Task : Type) where
  now : ℤ
  event : Event Task

namespace ChallengeState

section Stages

variable {Task : Type} (state : ChallengeState Task)

/-- A validation that begins takes the ticket of its code. -/
def take (codeHash : String) : ChallengeState Task :=
  { state with waiting := Function.update state.waiting codeHash none }

/-- The attempt of a validation that has not ended its transaction. -/
def transaction (task : Task) : Option Attempt := (state.tasks task).bind Stage.transaction?

/-- No validation is within its transaction. -/
def Quiet : Prop := ∀ task, (state.transaction task).isNone

end Stages

variable {Task : Type} [DecidableEq Task] (state : ChallengeState Task)

/-- A call goes on to wait, or ends, after a statement. -/
def advance (task : Task) (stage : Option Stage)
    (db : SqliteConnection Table) : ChallengeState Task :=
  { state with
    db := db
    tasks := Function.update state.tasks task stage }

/-- A validation ends. -/
def answer (task : Task) (attempt : Attempt) (accepted : Bool)
    (db : SqliteConnection Table) : ChallengeState Task :=
  { state.advance task none db with
    log := ⟨attempt, accepted⟩ :: state.log }

/-- A validation rolls back what there is of a transaction, and ends. -/
def rollBack (task : Task) (attempt : Attempt)
    (db : SqliteConnection Table) : ChallengeState Task :=
  { state.answer task attempt false db with
    rollbacks := ⟨attempt.codeHash, state.db.current, state.db.committed⟩ :: state.rollbacks }

/-- The `INSERT`; when there is a row with the key it raises, and the
transaction stays open. -/
def insertRow (task : Task) (codeHash : String) (row : Challenge) : ChallengeState Task :=
  match state.db.current codeHash with
  | some _ => state.advance task none (state.db.modify id)
  | none =>
    let number := state.issued codeHash
    { state.advance task (some (.inserted codeHash number)) (state.db.modify fun table =>
          Function.update table codeHash (some row)) with
      waiting := Function.update state.waiting codeHash (some ⟨number, row.expiresAt⟩)
      issued := Function.update state.issued codeHash (number + 1) }

/-- `BEGIN IMMEDIATE`, which is not within the `try` of the validation. -/
def beginValidation (task : Task) (codeHash : String) : ChallengeState Task :=
  let attempt : Attempt := ⟨codeHash, state.waiting codeHash, state.clock⟩
  match state.db.begin? with
  | some db => (state.take codeHash).advance task (some (.begun attempt)) db
  | none => (state.take codeHash).answer task attempt false state.db

/-- The next statement of a call, up to the next `await`. -/
def resume (task : Task) : Stage → Option (ChallengeState Task)
  | .purged => none
  | .inserted codeHash number =>
    some { state.advance task none state.db.commit with
      returned := (codeHash, number) :: state.returned }
  | .begun attempt =>
    match state.db.current attempt.codeHash with
    | none => some (state.advance task (some (.missing attempt)) state.db)
    | some row =>
      some (state.advance task (some (.found attempt row)) state.db)
  | .missing attempt =>
    match state.db.rollback? with
    | some db => some (state.rollBack task attempt db)
    | none => some (state.advance task (some (.failing attempt)) state.db)
  | .found attempt row =>
    some (state.advance task (some (.removed attempt row)) (state.db.modify fun table =>
        Function.update table attempt.codeHash none))
  | .removed attempt row =>
    match state.db.commit? with
    | some db => some (state.advance task (some (.committed attempt row)) db)
    | none => some (state.advance task (some (.failing attempt)) state.db)
  | .failing attempt =>
    match state.db.rollback? with
    | some db => some (state.rollBack task attempt db)
    | none => some (state.answer task attempt false state.db)
  | .committed attempt row =>
    some (state.answer task attempt (decide (state.clock ≤ row.expiresAt)) state.db)

def perform : Event Task → Option (ChallengeState Task)
  | .create task =>
    match state.tasks task with
    | none =>
      some (state.advance task (some .purged) (state.db.modify (purge state.clock)))
    | some _ => none
  | .insert task codeHash initiatorId platform ttlMicroseconds =>
    match state.tasks task with
    | some .purged =>
      some (state.insertRow task codeHash ⟨initiatorId, platform, state.clock + ttlMicroseconds⟩)
    | _ => none
  | .validate task codeHash =>
    match state.tasks task with
    | none => some (state.beginValidation task codeHash)
    | some _ => none
  | .resume task => (state.tasks task).bind (state.resume task)

/-- Time does not go back. -/
def step (action : ChallengeAction Task) : Option (ChallengeState Task) :=
  if state.clock ≤ action.now then
    { state with clock := action.now }.perform action.event
  else none

/-! ## The condition on the steps -/

/-- The commit of `create_challenge` is not within a transaction of a
validation, and the expiry of a code is checked in time, unless the attempt was
late. -/
def MayResume (now : ℤ) : Stage → Prop
  | .inserted _ _ => state.Quiet
  | .committed attempt row =>
    attempt.started ≤ row.expiresAt → now ≤ row.expiresAt
  | .purged | .begun _ | .missing _ | .found _ _ | .removed _ _
  | .failing _ => True

/-- A validation begins when no transaction is open, and `create_challenge`
executes no statement while a validation is within its transaction. -/
def Alone (action : ChallengeAction Task) : Prop :=
  match action.event with
  | .create _ | .insert _ _ _ _ _ => state.Quiet
  | .validate _ _ => state.db.inTransaction = false
  | .resume task =>
    ∀ stage ∈ state.tasks task, state.MayResume action.now stage

instance [Fintype Task] : Decidable state.Quiet :=
  inferInstanceAs (Decidable (∀ task, (state.transaction task).isNone = true))

instance [Fintype Task] (now : ℤ) (stage : Stage) : Decidable (state.MayResume now stage) :=
  match stage with
  | .inserted _ _ => inferInstanceAs (Decidable state.Quiet)
  | .committed attempt row =>
    inferInstanceAs (Decidable (attempt.started ≤ row.expiresAt → now ≤ row.expiresAt))
  | .purged | .begun _ | .missing _ | .found _ _ | .removed _ _
  | .failing _ => .isTrue trivial

instance [Fintype Task] (action : ChallengeAction Task) : Decidable (state.Alone action) :=
  match action with
  | ⟨_, .create _⟩ | ⟨_, .insert _ _ _ _ _⟩ =>
    inferInstanceAs (Decidable state.Quiet)
  | ⟨_, .validate _ _⟩ =>
    inferInstanceAs (Decidable (state.db.inTransaction = false))
  | ⟨now, .resume task⟩ =>
    inferInstanceAs (Decidable (∀ stage ∈ state.tasks task, state.MayResume now stage))

end ChallengeState

/-- No call is under way.  The rows of an earlier process have their first
tickets, and may have been returned. -/
def challengeSystem (Task : Type) [DecidableEq Task] :
    TransitionSystem (ChallengeState Task) (ChallengeAction Task) where
  initial state := state.db.inTransaction = false ∧ (∀ task, state.tasks task = none) ∧
    (∀ codeHash, state.waiting codeHash =
      (state.db.current codeHash).map fun row => ⟨0, row.expiresAt⟩) ∧
    (∀ codeHash, state.issued codeHash = 1) ∧
    state.log = [] ∧ state.rollbacks = []
  step := ChallengeState.step

/-! ## Codes that work exactly once -/

/-- The insertion of a code that an attempt is the first to validate. -/
def Attempt.insertion (attempt : Attempt) : Option (String × ℕ) :=
  attempt.ticket.map fun ticket => (attempt.codeHash, ticket.number)

/-- Two attempts are not the first for the same insertion. -/
def Attempt.Apart (first second : Attempt) : Prop :=
  ∀ insertion ∈ first.insertion, insertion ∉ second.insertion

structure ChallengeState.Honest {Task : Type} (state : ChallengeState Task) : Prop where
  /-- The first validation of a code that has been returned is accepted if it
  starts before the code expires. -/
  first : ∀ validation ∈ state.log, ∀ ticket ∈ validation.attempt.ticket,
    (validation.attempt.codeHash, ticket.number) ∈ state.returned →
      validation.attempt.started ≤ ticket.expiresAt → validation.accepted = true
  /-- A validation is accepted only if it is the first, -/
  once : ∀ validation ∈ state.log, validation.accepted = true → validation.attempt.insertion.isSome
  /-- and no other one is. -/
  apart : state.log.Pairwise fun later earlier =>
    later.accepted = true → earlier.accepted = true → later.attempt.Apart earlier.attempt
  /-- A validation discards no change of the row of another code. -/
  kept : ∀ rollback ∈ state.rollbacks, ∀ codeHash ≠ rollback.codeHash,
    rollback.discarded codeHash = rollback.restored codeHash

end LinkChallenges

end RoxabiFactory
