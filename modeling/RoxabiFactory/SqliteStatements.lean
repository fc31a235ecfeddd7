import Mathlib.Data.Nat.Notation
import RoxabiFactory.SqliteConnection

/-!
# Statements that fail

A call sends its statements one by one.  A statement may be refused, or fail
after it has begun a transaction, or make SQLite roll the transaction back; and
the call may be interrupted before or after the statement was executed.  A
guarded part of a call sends `ROLLBACK` when a statement in it fails, which an
interruption does not do.
-/

namespace RoxabiFactory

namespace SqliteStatements

open SqliteConnection

variable {Database : Type*}

inductive Statement (Database : Type*)
  /-- `BEGIN`. -/
  | begin
  /-- A `SELECT`, or a step that is no statement. -/
  | read
  /-- `INSERT`, `UPDATE` or `DELETE`. -/
  | modify (change : Database → Database)
  /-- `Connection.commit`. -/
  | commit
  /-- `ROLLBACK`. -/
  | rollback

namespace Statement

/-- The connection after the statement, unless it raises. -/
def exec (db : SqliteConnection Database) : Statement Database → Option (SqliteConnection Database)
  | begin => db.begin?
  | read => some db
  | modify change => some (db.modify change)
  | commit => some db.commit
  | rollback => db.rollback?

/-- What the statement does to the data. -/
def effect : Statement Database → Database → Database
  | modify change => change
  | _ => id

/-- The statement neither begins nor ends a transaction by itself. -/
def isData : Statement Database → Bool
  | read | modify _ => true
  | _ => false

/-- The statement does not depend on whether there is a transaction. -/
def isPlain : Statement Database → Bool
  | begin | rollback => false
  | _ => true

theorem isPlain_of_isData {statement : Statement Database}
    (isData : statement.isData = true) : statement.isPlain = true := by
  cases statement with
  | read | modify change => rfl
  | begin | commit | rollback => cases isData

end Statement

/-- How a statement fails. -/
inductive Fault
  /-- An error of the database; nothing is executed. -/
  | refused
  /-- An error of the database, after the transaction that a change begins by
  itself. -/
  | rejected
  /-- An error of the database, at which SQLite rolls the transaction back. -/
  | abandoned
  /-- A cancellation or another exception, before or after the statement is
  executed. -/
  | interrupted (executed : Bool)
  deriving DecidableEq

namespace Fault

/-- `sqlite3.Error`. -/
def isDatabaseError : Fault → Bool
  | interrupted _ => false
  | _ => true

/-- The connection after a statement that failed. -/
def apply (db : SqliteConnection Database) (statement : Statement Database) :
    Fault → SqliteConnection Database
  | refused => db
  | rejected =>
    match statement with
    | .modify _ => db.modify id
    | _ => db
  | abandoned => opened db.committed
  | interrupted executed =>
    if executed then (statement.exec db).getD db else db

end Fault

/-- A statement that fails, by its position in the call. -/
structure Failure where
  position : ℕ
  fault : Fault
  /-- How the `ROLLBACK` fails that the call sends then, if it fails. -/
  rollback : Option Fault := none
  deriving DecidableEq

inductive Ending
  | returned
  | raised (isDatabaseError : Bool)
  deriving DecidableEq

/-- Statements one after the other, with the failure at a position. -/
def run : Option (ℕ × Fault) → List (Statement Database) →
    SqliteConnection Database → SqliteConnection Database × Ending
  | _, [], db => (db, .returned)
  | some (0, fault), statement :: _, db =>
    (fault.apply db statement, .raised fault.isDatabaseError)
  | some (position + 1, fault), statement :: statements, db =>
    match statement.exec db with
    | none => (db, .raised true)
    | some next => run (some (position, fault)) statements next
  | none, statement :: statements, db =>
    match statement.exec db with
    | none => (db, .raised true)
    | some next => run none statements next

/-- A call: the statements before the `try`, and those in it. -/
structure Program (Database : Type*) where
  unguarded : List (Statement Database)
  guarded : List (Statement Database) := []

/-- The `except` clause of the guarded part. -/
def recover (fault : Option Fault) (db : SqliteConnection Database) : SqliteConnection Database :=
  match fault with
  | none => (Statement.rollback.exec db).getD db
  | some fault => fault.apply db .rollback

namespace Program

/-- A call, with the statement that fails in it. -/
def call (program : Program Database) (failure : Option Failure)
    (db : SqliteConnection Database) : SqliteConnection Database × Ending :=
  let plan := failure.map fun failure => (failure.position, failure.fault)
  match run plan program.unguarded db with
  | (middle, .raised isDatabaseError) => (middle, .raised isDatabaseError)
  | (middle, .returned) =>
    let rest := plan.bind fun failure =>
      if failure.1 < program.unguarded.length then none
      else some (failure.1 - program.unguarded.length, failure.2)
    match run rest program.guarded middle with
    | (last, .raised true) =>
      (recover (failure.bind (·.rollback)) last, .raised true)
    | ended => ended

end Program

/-! ## Data statements -/

/-- What the statements do to the data. -/
def effects (statements : List (Statement Database)) (database : Database) :
    Database :=
  statements.foldl (fun database statement => statement.effect database) database

@[simp]
theorem effects_nil (database : Database) :
    effects ([] : List (Statement Database)) database = database :=
  rfl

@[simp]
theorem effects_cons (statement : Statement Database)
    (statements : List (Statement Database)) (database : Database) :
    effects (statement :: statements) database = effects statements (statement.effect database) :=
  rfl

/-- The connection after statements of which none raises. -/
def afterData (db : SqliteConnection Database)
    (statements : List (Statement Database)) : SqliteConnection Database :=
  statements.foldl (fun db statement => (statement.exec db).getD db) db

theorem afterData_take_succ (db : SqliteConnection Database)
    {statements : List (Statement Database)} {position : ℕ}
    (early : position < statements.length) :
    afterData db (statements.take (position + 1)) = (statements[position].exec
        (afterData db (statements.take position))).getD
          (afterData db (statements.take position)) := by
  rw [List.take_succ_eq_append_getElem early, afterData, List.foldl_append]
  rfl

theorem exec_plain {statement : Statement Database}
    (isPlain : statement.isPlain = true) (db : SqliteConnection Database) :
    ∃ next, statement.exec db = some next ∧
      next.current = statement.effect db.current := by
  cases statement with
  | read => exact ⟨db, rfl, rfl⟩
  | modify change => exact ⟨db.modify change, rfl, rfl⟩
  | commit => exact ⟨db.commit, rfl, rfl⟩
  | begin | rollback => cases isPlain

theorem arePlain_of_areData {statements : List (Statement Database)}
    (areData : ∀ statement ∈ statements, statement.isData = true) :
    ∀ statement ∈ statements, statement.isPlain = true :=
  fun statement member =>
    Statement.isPlain_of_isData (areData statement member)

theorem current_afterData {statements : List (Statement Database)}
    (arePlain : ∀ statement ∈ statements, statement.isPlain = true)
    (db : SqliteConnection Database) :
    (afterData db statements).current = effects statements db.current := by
  induction statements generalizing db with
  | nil => rfl
  | cons statement statements ih =>
    obtain ⟨next, executed, current⟩ := exec_plain (arePlain statement List.mem_cons_self) db
    have first : afterData db (statement :: statements) =
        afterData next statements := by
      simp [afterData, executed]
    rw [first, effects_cons, ← current]
    exact ih (fun other member =>
      arePlain other (List.mem_cons_of_mem _ member)) next

theorem exec_data {statement : Statement Database}
    (isData : statement.isData = true) (db : SqliteConnection Database) :
    ∃ next, statement.exec db = some next ∧ next.committed = db.committed ∧
      (db.inTransaction = true → next.inTransaction = true) := by
  cases statement with
  | read => exact ⟨db, rfl, rfl, id⟩
  | modify change => exact ⟨db.modify change, rfl, rfl, fun _ => rfl⟩
  | begin | commit | rollback => cases isData

theorem committed_afterData {statements : List (Statement Database)}
    (areData : ∀ statement ∈ statements, statement.isData = true)
    (db : SqliteConnection Database) :
    (afterData db statements).committed = db.committed ∧ (db.inTransaction = true →
        (afterData db statements).inTransaction = true) := by
  induction statements generalizing db with
  | nil => exact ⟨rfl, id⟩
  | cons statement statements ih =>
    obtain ⟨next, executed, committed, inside⟩ :=
      exec_data (areData statement List.mem_cons_self) db
    obtain ⟨laterCommitted, laterInside⟩ := ih
      (fun other member => areData other (List.mem_cons_of_mem _ member))
      next
    have first : afterData db (statement :: statements) =
        afterData next statements := by
      simp [afterData, executed]
    rw [first]
    exact ⟨laterCommitted.trans committed,
      fun begun => laterInside (inside begun)⟩

theorem run_append {statements : List (Statement Database)}
    (arePlain : ∀ statement ∈ statements, statement.isPlain = true)
    (plan : Option (ℕ × Fault)) (rest : List (Statement Database))
    (db : SqliteConnection Database) :
    run (plan.map fun failure =>
        (failure.1 + statements.length, failure.2)) (statements ++ rest) db =
      run plan rest (afterData db statements) := by
  induction statements generalizing db with
  | nil =>
    have same : (plan.map fun failure => (failure.1 + 0, failure.2)) =
        plan := by
      cases plan <;> rfl
    exact congrArg (run · rest db) same
  | cons statement statements ih =>
    obtain ⟨next, executed, -⟩ := exec_plain (arePlain statement List.mem_cons_self) db
    have later := ih (fun other member => arePlain other (List.mem_cons_of_mem _ member))
      next
    have first : afterData db (statement :: statements) =
        afterData next statements := by
      simp [afterData, executed]
    rw [first, ← later]
    cases plan with
    | none =>
      rw [Option.map_none, List.cons_append, run, executed]
      rfl
    | some failure =>
      rw [Option.map_some, List.length_cons, ← Nat.add_assoc, List.cons_append, run, executed]
      rfl

theorem run_fault {statements : List (Statement Database)}
    (arePlain : ∀ statement ∈ statements, statement.isPlain = true)
    (fault : Fault) (statement : Statement Database)
    (rest : List (Statement Database)) (db : SqliteConnection Database) :
    run (some (statements.length, fault)) (statements ++ statement :: rest) db =
      (fault.apply (afterData db statements) statement,
        .raised fault.isDatabaseError) := by
  have split := run_append arePlain (some (0, fault)) (statement :: rest) db
  rw [Option.map_some, Nat.zero_add] at split
  exact split

theorem run_plain {statements : List (Statement Database)}
    (arePlain : ∀ statement ∈ statements, statement.isPlain = true)
    (rest : List (Statement Database)) (db : SqliteConnection Database) :
    run none (statements ++ rest) db = run none rest (afterData db statements) :=
  run_append arePlain none rest db

theorem run_late {statements : List (Statement Database)}
    (arePlain : ∀ statement ∈ statements, statement.isPlain = true)
    {position : ℕ} (late : statements.length ≤ position) (fault : Fault)
    (db : SqliteConnection Database) :
    run (some (position, fault)) statements db = (afterData db statements, .returned) := by
  have split := run_append arePlain (some (position - statements.length, fault)) [] db
  rw [Option.map_some, Nat.sub_add_cancel late, List.append_nil] at split
  exact split

theorem run_getElem {statements : List (Statement Database)}
    (arePlain : ∀ statement ∈ statements, statement.isPlain = true)
    {position : ℕ} (early : position < statements.length) (fault : Fault)
    (db : SqliteConnection Database) :
    run (some (position, fault)) statements db =
      (fault.apply (afterData db (statements.take position))
        statements[position], .raised fault.isDatabaseError) := by
  have taken : (statements.take position).length = position := by
    rw [List.length_take]
    omega
  have areTaken : ∀ statement ∈ statements.take position, statement.isPlain = true :=
    fun statement member => arePlain statement (List.mem_of_mem_take member)
  have failed := run_fault areTaken fault statements[position] (statements.drop (position + 1)) db
  rw [taken, ← List.drop_eq_getElem_cons early, List.take_append_drop]
    at failed
  exact failed

/-- A call of plain statements without a `try`, when none of them fails. -/
theorem call_plain {statements : List (Statement Database)}
    (arePlain : ∀ statement ∈ statements, statement.isPlain = true)
    (db : SqliteConnection Database) :
    Program.call { unguarded := statements } none db = (afterData db statements, .returned) := by
  have ran := run_plain arePlain [] db
  rw [List.append_nil] at ran
  simp only [Program.call, Option.map_none, ran, run]

/-- A call of plain statements without a `try`, when one of them fails. -/
theorem call_fault {statements : List (Statement Database)}
    (arePlain : ∀ statement ∈ statements, statement.isPlain = true)
    (failure : Failure) (early : failure.position < statements.length)
    (db : SqliteConnection Database) :
    Program.call { unguarded := statements } (some failure) db =
      (failure.fault.apply (afterData db (statements.take failure.position))
        statements[failure.position],
        .raised failure.fault.isDatabaseError) := by
  have ran := run_getElem arePlain early failure.fault db
  simp only [Program.call, Option.map_some, ran]

theorem call_late {statements : List (Statement Database)}
    (arePlain : ∀ statement ∈ statements, statement.isPlain = true)
    (failure : Failure) (late : statements.length ≤ failure.position)
    (db : SqliteConnection Database) :
    Program.call { unguarded := statements } (some failure) db =
      (afterData db statements, .returned) := by
  have ran := run_late arePlain late failure.fault db
  simp only [Program.call, Option.map_some, ran, run]

/-- The connections read the same, and have committed the same. -/
def Agree (db other : SqliteConnection Database) : Prop :=
  db.current = other.current ∧ db.committed = other.committed

theorem Agree.exec {db other : SqliteConnection Database}
    (agree : Agree db other) {statement : Statement Database}
    (isPlain : statement.isPlain = true) :
    ∃ next nextOther, statement.exec db = some next ∧
      statement.exec other = some nextOther ∧ Agree next nextOther := by
  obtain ⟨current, committed⟩ := agree
  cases statement with
  | read => exact ⟨db, other, rfl, rfl, current, committed⟩
  | modify change =>
    exact ⟨_, _, rfl, rfl, congrArg change current, committed⟩
  | commit => exact ⟨_, _, rfl, rfl, current, current⟩
  | begin | rollback => cases isPlain

theorem Agree.afterData {statements : List (Statement Database)}
    (arePlain : ∀ statement ∈ statements, statement.isPlain = true)
    {db other : SqliteConnection Database} (agree : Agree db other) :
    Agree (afterData db statements) (afterData other statements) := by
  induction statements generalizing db other with
  | nil => exact agree
  | cons statement statements ih =>
    obtain ⟨next, nextOther, executed, executedOther, nextAgree⟩ :=
      agree.exec (arePlain statement List.mem_cons_self)
    have later := ih (fun other member => arePlain other (List.mem_cons_of_mem _ member))
      nextAgree
    simpa [SqliteStatements.afterData, executed, executedOther] using later

/-- Calls one after the other, when each of them returns. -/
def serve {Request : Type*} (call : Request → SqliteConnection Database →
      SqliteConnection Database × Ending) :
    List Request → SqliteConnection Database → Option (SqliteConnection Database)
  | [], db => some db
  | request :: requests, db =>
    match call request db with
    | (next, .returned) => serve call requests next
    | (_, .raised _) => none

/-! ## Transactions -/

/-- A transaction with changes of its own. -/
def inside (database current : Database) : SqliteConnection Database :=
  ⟨database, current, true, Bool.noConfusion⟩

theorem inside_ne_opened (database current : Database) :
    inside database current ≠ opened database := by
  intro same
  cases congrArg SqliteConnection.inTransaction same

theorem begin?_opened (database : Database) :
    (opened database).begin? = some (inside database database) :=
  rfl

theorem rollback?_inside (database current : Database) :
    (inside database current).rollback? = some (opened database) :=
  rfl

theorem eq_inside {db : SqliteConnection Database} (begun : db.inTransaction = true) :
    db = inside db.committed db.current := by
  cases db
  cases begun
  rfl

theorem afterData_inside {statements : List (Statement Database)}
    (areData : ∀ statement ∈ statements, statement.isData = true)
    (database current : Database) :
    afterData (inside database current) statements =
      inside database (effects statements current) := by
  obtain ⟨committed, begun⟩ := committed_afterData areData (inside database current)
  rw [eq_inside (begun rfl), committed, current_afterData (arePlain_of_areData areData)]
  rfl

/-- A call that begins its transaction, and sends `ROLLBACK` when a statement
in it fails. -/
def transaction (body : List (Statement Database))
    (last : Statement Database) : Program Database where
  unguarded := [.begin]
  guarded := body ++ [last]

/-- A call whose change begins the transaction, without a rollback. -/
def autocommit (change : Database → Database) : Program Database where
  unguarded := [.modify change, .commit]

def Statement.isRollback : Statement Database → Bool
  | rollback => true
  | _ => false

def Statement.isCommit : Statement Database → Bool
  | commit => true
  | _ => false

/-- A transaction is ended by the call, or has no changes, when the statement
has been executed and the call is interrupted. -/
def Ends (unchanged : Prop) (statement : Statement Database) : Prop :=
  statement.isRollback = true ∨ statement.isCommit = true ∧ unchanged

/-- The `ROLLBACK` is executed, or SQLite has rolled back by itself. -/
def RollsBack (fault : Option Fault) : Prop :=
  ∀ failed ∈ fault, failed = .abandoned ∨ failed = .interrupted true

/-- No trace is left of a statement that fails within the `try`. -/
def Undone (unchanged : Prop) (statement : Statement Database)
    (fault : Fault) (rollback : Option Fault) : Prop :=
  match fault with
  | .abandoned => True
  | .refused | .rejected => RollsBack rollback
  | .interrupted executed => executed = true ∧ Ends unchanged statement

/-- No trace is left of a transaction that fails. -/
def TransactionUndone (body : List (Statement Database))
    (last : Statement Database) (failure : Failure) (database : Database) :
    Prop :=
  match failure.position with
  | 0 => failure.fault ≠ .interrupted true
  | position + 1 =>
    ∀ statement ∈ (body ++ [last])[position]?,
      Undone (effects body database = database) statement failure.fault failure.rollback

/-- No trace is left of an autocommit call that fails. -/
def AutocommitUndone (change : Database → Database) (failure : Failure)
    (database : Database) : Prop :=
  match failure.position with
  | 0 => failure.fault ≠ .rejected ∧ failure.fault ≠ .interrupted true
  | 1 => failure.fault = .abandoned ∨ failure.fault = .interrupted true ∧ change database = database
  | _ => True

theorem opened_eq_opened {database other : Database} :
    opened other = opened database ↔ other = database := by
  constructor
  · exact congrArg SqliteConnection.committed
  · rintro rfl
    rfl

theorem recover_opened (fault : Option Fault) (database : Database) :
    recover fault (opened database) = opened database := by
  cases fault with
  | none => rfl
  | some fault =>
    cases fault with
    | interrupted executed => cases executed <;> rfl
    | _ => rfl

theorem recover_inside (fault : Option Fault) (database current : Database) :
    recover fault (inside database current) = opened database ↔
      RollsBack fault := by
  cases fault with
  | none => exact iff_of_true rfl (fun _ member => nomatch member)
  | some fault =>
    have still := inside_ne_opened database current
    cases fault with
    | refused => simpa [recover, Fault.apply, RollsBack] using still
    | rejected => simpa [recover, Fault.apply, RollsBack] using still
    | abandoned => simp [recover, Fault.apply, RollsBack, inside]
    | interrupted executed =>
      cases executed with
      | false => simpa [recover, Fault.apply, RollsBack] using still
      | true =>
        simp [recover, Fault.apply, RollsBack, Statement.exec, rollback?_inside]

theorem undone_iff {statement : Statement Database} {unchanged : Prop}
    (database current : Database) (fault : Fault) (rollback : Option Fault)
    (same : statement.isCommit = true → (current = database ↔ unchanged)) :
    (if fault.isDatabaseError then
        recover rollback (fault.apply (inside database current) statement)
      else fault.apply (inside database current) statement) = opened database ↔
      Undone unchanged statement fault rollback := by
  have still := inside_ne_opened database current
  cases fault with
  | refused =>
    exact recover_inside rollback database current
  | rejected =>
    cases statement <;> exact recover_inside rollback database current
  | abandoned =>
    exact iff_of_true (recover_opened rollback database) trivial
  | interrupted executed =>
    simp only [Fault.isDatabaseError, Bool.false_eq_true, if_false, Fault.apply, Undone]
    cases executed with
    | false => simpa using still
    | true =>
      simp only [if_true, true_and, Ends]
      cases statement with
      | begin => simpa [Statement.exec, begin?, inside,
          Statement.isRollback, Statement.isCommit] using still
      | read => simpa [Statement.exec, Statement.isRollback, Statement.isCommit] using still
      | modify change =>
        simp only [Statement.exec, Option.getD_some,
          Statement.isRollback, Statement.isCommit, Bool.false_eq_true,
          false_and, or_false, iff_false]
        exact inside_ne_opened database _
      | commit =>
        simp only [Statement.exec, Option.getD_some, commit,
          opened_eq_opened, Statement.isRollback, Statement.isCommit,
          Bool.false_eq_true, false_or, true_and]
        exact same rfl
      | rollback =>
        simp [Statement.exec, rollback?_inside, Statement.isRollback]

/-- The part of a transaction after its `BEGIN`. -/
theorem call_transaction (body : List (Statement Database))
    (last : Statement Database) (position : ℕ) (fault : Fault)
    (rollback : Option Fault) (database : Database) :
    (transaction body last).call (some ⟨position + 1, fault, rollback⟩) (opened database) =
      match run (some (position, fault)) (body ++ [last]) (inside database database) with
      | (last, .raised true) => (recover rollback last, .raised true)
      | ended => ended :=
  rfl

theorem exec_last {last : Statement Database} (ends : last.isRollback = true ∨ last.isCommit = true)
    (database current : Database) :
    ∃ next, last.exec (inside database current) = some next ∧
      next = opened (if last.isCommit then current else database) := by
  cases last with
  | commit => exact ⟨_, rfl, rfl⟩
  | rollback => exact ⟨_, rfl, rfl⟩
  | begin | read | modify change =>
    simp [Statement.isRollback, Statement.isCommit] at ends

theorem run_transaction {body : List (Statement Database)} {last : Statement Database}
    (areData : ∀ statement ∈ body, statement.isData = true)
    (ends : last.isRollback = true ∨ last.isCommit = true)
    (plan : Option (ℕ × Fault))
    (late : ∀ failure ∈ plan, body.length < failure.1) (database : Database) :
    run plan (body ++ [last]) (inside database database) =
      (opened (if last.isCommit then effects body database else database), .returned) := by
  obtain ⟨next, executed, nextEq⟩ := exec_last ends database (effects body database)
  cases plan with
  | none =>
    rw [run_plain (arePlain_of_areData areData), afterData_inside areData, run, executed, nextEq]
    rfl
  | some failure =>
    obtain ⟨position, fault⟩ := failure
    obtain ⟨rest, positionEq⟩ := Nat.exists_eq_add_of_lt (late _ rfl)
    have split := run_append (arePlain_of_areData areData)
      (some (rest + 1, fault)) [last] (inside database database)
    have same : rest + 1 + body.length = position := by
      dsimp only at positionEq
      omega
    rw [Option.map_some, same, afterData_inside areData, run, executed,
      nextEq] at split
    exact split

/-- A transaction that fails leaves no trace exactly when it is undone. -/
theorem transactionUndone_iff {body : List (Statement Database)} {last : Statement Database}
    (areData : ∀ statement ∈ body, statement.isData = true)
    (ends : last.isRollback = true ∨ last.isCommit = true)
    (failure : Failure) (database : Database) :
    (((transaction body last).call (some failure) (opened database)).2 ≠ .returned →
        ((transaction body last).call (some failure) (opened database)).1 = opened database) ↔
      TransactionUndone body last failure database := by
  obtain ⟨position, fault, rollback⟩ := failure
  unfold TransactionUndone
  cases position with
  | zero =>
    dsimp only
    have called : (transaction body last).call (some ⟨0, fault, rollback⟩)
        (opened database) = (fault.apply (opened database) .begin,
          .raised fault.isDatabaseError) := rfl
    rw [called]
    simp only [ne_eq, reduceCtorEq, not_false_eq_true, forall_const]
    have still := inside_ne_opened database database
    cases fault with
    | interrupted executed =>
      cases executed with
      | false => exact iff_of_true rfl (by decide)
      | true => exact iff_of_false still (by decide)
    | _ => exact iff_of_true rfl (by decide)
  | succ position =>
    dsimp only
    rw [call_transaction]
    rcases Nat.lt_trichotomy position body.length with early | whole | late
    · have split : body ++ [last] = body.take position ++
            body[position] :: (body.drop (position + 1) ++ [last]) := by
        rw [← List.cons_append, ← List.drop_eq_getElem_cons early,
          ← List.append_assoc, List.take_append_drop]
      have taken : (body.take position).length = position := by
        rw [List.length_take]
        omega
      have areTaken : ∀ statement ∈ body.take position, statement.isData = true :=
        fun statement member => areData statement (List.mem_of_mem_take member)
      have isData := areData body[position] (List.getElem_mem early)
      have failed := run_fault (arePlain_of_areData areTaken) fault
        body[position] (body.drop (position + 1) ++ [last]) (inside database database)
      rw [taken, ← split, afterData_inside areTaken] at failed
      rw [failed]
      have found : (body ++ [last])[position]? = some body[position] := by
        rw [List.getElem?_append_left early, List.getElem?_eq_getElem early]
      simp only [found, Option.mem_some_iff, forall_eq']
      rw [← undone_iff database (effects (body.take position) database)]
      · cases fault.isDatabaseError <;> simp
      · intro isCommit
        cases same : body[position] <;>
          simp [same, Statement.isData, Statement.isCommit]
            at isData isCommit
    · subst whole
      have failed := run_fault (arePlain_of_areData areData) fault last []
        (inside database database)
      rw [afterData_inside areData] at failed
      rw [failed]
      have found : (body ++ [last])[body.length]? = some last := by
        rw [List.getElem?_append_right (Nat.le_refl _), Nat.sub_self]
        rfl
      simp only [found, Option.mem_some_iff, forall_eq']
      rw [← undone_iff database (effects body database) fault rollback (fun _ => Iff.rfl)]
      cases fault.isDatabaseError <;> simp
    · have beyond : (body ++ [last])[position]? = none := by
        rw [List.getElem?_eq_none_iff, List.length_append, List.length_singleton]
        omega
      rw [run_transaction areData ends]
      · simp [beyond]
      · rintro failure ⟨⟩
        exact late

/-- An autocommit call that fails leaves no trace exactly when it is
undone. -/
theorem autocommitUndone_iff (change : Database → Database)
    (failure : Failure) (database : Database) :
    (((autocommit change).call (some failure) (opened database)).2 ≠ .returned →
        ((autocommit change).call (some failure) (opened database)).1 = opened database) ↔
      AutocommitUndone change failure database := by
  obtain ⟨position, fault, rollback⟩ := failure
  unfold AutocommitUndone
  match position with
  | 0 =>
    have called : (autocommit change).call (some ⟨0, fault, rollback⟩) (opened database) =
        (fault.apply (opened database) (.modify change),
          .raised fault.isDatabaseError) := rfl
    rw [called]
    simp only [ne_eq, reduceCtorEq, not_false_eq_true, forall_const]
    cases fault with
    | rejected =>
      exact iff_of_false (inside_ne_opened database database) (by simp)
    | interrupted executed =>
      cases executed with
      | false => exact iff_of_true rfl (by decide)
      | true =>
        exact iff_of_false (inside_ne_opened database (change database)) (by simp)
    | _ => exact iff_of_true rfl (by decide)
  | 1 =>
    have called : (autocommit change).call (some ⟨1, fault, rollback⟩) (opened database) =
        (fault.apply (inside database (change database)) .commit,
          .raised fault.isDatabaseError) := rfl
    rw [called]
    simp only [ne_eq, reduceCtorEq, not_false_eq_true, forall_const]
    have still := inside_ne_opened database (change database)
    cases fault with
    | abandoned => exact iff_of_true rfl (.inl rfl)
    | interrupted executed =>
      cases executed with
      | false => exact iff_of_false still (by simp)
      | true =>
        simp only [Fault.apply, if_true, Statement.exec,
          Option.getD_some, reduceCtorEq, false_or, true_and]
        exact opened_eq_opened
    | _ => exact iff_of_false still (by simp)
  | position + 2 =>
    refine iff_of_true ?_ trivial
    intro raised
    exact absurd rfl raised

/-- The two ways in which a call is a transaction. -/
inductive Block (Database : Type*)
  | transaction (body : List (Statement Database)) (last : Statement Database)
  | autocommit (change : Database → Database)

namespace Block

def program : Block Database → Program Database
  | transaction body last => SqliteStatements.transaction body last
  | autocommit change => SqliteStatements.autocommit change

/-- A transaction is made of data statements and a statement that ends it. -/
def WellFormed : Block Database → Prop
  | transaction body last =>
    (∀ statement ∈ body, statement.isData = true) ∧ (last.isRollback = true ∨ last.isCommit = true)
  | autocommit _ => True

/-- No trace is left of a failure. -/
def Undone (failure : Failure) (database : Database) : Block Database → Prop
  | transaction body last => TransactionUndone body last failure database
  | autocommit change => AutocommitUndone change failure database

/-- The data after the call. -/
def result (database : Database) : Block Database → Database
  | transaction body last =>
    if last.isCommit then effects body database else database
  | autocommit change => change database

theorem undone_iff {block : Block Database} (wellFormed : block.WellFormed)
    (failure : Failure) (database : Database) :
    ((block.program.call (some failure) (opened database)).2 ≠ .returned →
        (block.program.call (some failure) (opened database)).1 = opened database) ↔
      block.Undone failure database := by
  cases block with
  | transaction body last =>
    exact transactionUndone_iff wellFormed.1 wellFormed.2 failure database
  | autocommit change => exact autocommitUndone_iff change failure database

theorem call_none {block : Block Database} (wellFormed : block.WellFormed) (database : Database) :
    block.program.call none (opened database) = (opened (block.result database), .returned) := by
  cases block with
  | transaction body last =>
    have runs := run_transaction wellFormed.1 wellFormed.2 none (by simp)
      database
    change (match run none (body ++ [last]) (inside database database) with
      | (last, .raised true) => (recover none last, Ending.raised true)
      | ended => ended) = _
    rw [runs]
    rfl
  | autocommit change => rfl

end Block

end SqliteStatements

end RoxabiFactory
