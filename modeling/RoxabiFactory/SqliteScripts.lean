import RoxabiFactory.PythonValues
import RoxabiFactory.SqliteStatements

/-!
# Calls that decide what to send next

A script is a call as a tree: what it sends next depends on what it has read,
and a change may violate a constraint of the tables, which ends the call.  What
is left of a call that raises depends on the statement that fails and on
whether an earlier change has not been committed.
-/

namespace RoxabiFactory

open SqliteStatements

/-- What a statement that fails raises. -/
def SqliteStatements.Fault.error (fault : Fault) : PyError :=
  if fault.isDatabaseError then .other "sqlite3.Error"
  else .other "CancelledError"

/-- What a call sends over its connection. -/
inductive SqliteScript (Database Error Result : Type)
  | finish (result : Except Error Result)
  /-- A `SELECT`. -/
  | read (next : Database → SqliteScript Database Error Result)
  /-- `INSERT`, `UPDATE` or `DELETE`; the error is what the call raises when a
  constraint is violated. -/
  | modify (change : Database → Except Error Database) (next : SqliteScript Database Error Result)
  | commit (next : SqliteScript Database Error Result)

namespace SqliteScript

variable {Database Error Result : Type}

/-- A change that raises changes nothing. -/
def keep (change : Database → Except Error Database) (database : Database) :
    Database :=
  match change database with
  | .ok changed => changed
  | .error _ => database

/-- The fault of the next statement. -/
def fault? : Option (ℕ × Fault) → Option Fault
  | some (0, fault) => some fault
  | _ => none

/-- The failure, by its position among the later statements. -/
def later (plan : Option (ℕ × Fault)) : Option (ℕ × Fault) :=
  plan.map fun failure => (failure.1 - 1, failure.2)

section Run

variable (raise : Fault → Error)

/-- The result of a call and the connection after it; `raise` is what a
statement that fails raises. -/
def run : SqliteScript Database Error Result → Option (ℕ × Fault) → SqliteConnection Database →
      Except Error Result × SqliteConnection Database
  | .finish result, _, db => (result, db)
  | .read next, plan, db =>
    match fault? plan with
    | some fault => (.error (raise fault), fault.apply db .read)
    | none => (next db.current).run (later plan) db
  | .modify change next, plan, db =>
    match fault? plan with
    | some fault =>
      (.error (raise fault), fault.apply db (.modify (keep change)))
    | none =>
      match change db.current with
      | .ok changed => next.run (later plan) (db.modify fun _ => changed)
      | .error raised => (.error raised, db.modify id)
  | .commit next, plan, db =>
    match fault? plan with
    | some fault => (.error (raise fault), fault.apply db .commit)
    | none => next.run (later plan) db.commit

end Run

/-! ## The statements of a call -/

inductive Sent
  | read
  | modify
  /-- A change that violates a constraint. -/
  | conflict
  | commit
  deriving DecidableEq

/-- What a call sends when nothing fails from outside. -/
def sent : SqliteScript Database Error Result → Database → List Sent
  | .finish _, _ => []
  | .read next, database => .read :: (next database).sent database
  | .modify change next, database =>
    match change database with
    | .ok changed => .modify :: next.sent changed
    | .error _ => [.conflict]
  | .commit next, database => .commit :: next.sent database

/-- Whether a transaction is open after a statement. -/
def Sent.opens (pending : Bool) : Sent → Bool
  | read => pending
  | modify | conflict => true
  | commit => false

/-- Whether a transaction is open after the statements. -/
def isPending (pending : Bool) (statements : List Sent) : Bool :=
  statements.foldl Sent.opens pending

/-- No transaction is open after a statement that fails. -/
def closes (pending : Bool) (statement : Sent) : Fault → Bool
  | .abandoned => true
  | .refused | .interrupted false => !pending
  | .rejected => !Sent.opens pending statement && !pending
  | .interrupted true => !Sent.opens pending statement

/-- The condition on a failure: no transaction is open after it, or it comes
after the last statement, and no constraint is violated. -/
def Releases (pending : Bool) (plan : Option (ℕ × Fault)) (statements : List Sent) : Prop :=
  match plan.bind fun failure => statements[failure.1]?.map fun statement =>
    closes (isPending pending (statements.take failure.1)) statement failure.2 with
  | some closed => closed = true
  | none => .conflict ∉ statements

/-- The call itself raises only when no transaction is open. -/
def Tidy : Bool → SqliteScript Database Error Result → Prop
  | pending, .finish (.error _) => pending = false
  | _, .finish (.ok _) => True
  | pending, .read next => ∀ database, Tidy pending (next database)
  | _, .modify _ next => Tidy true next
  | _, .commit next => Tidy false next

section Releases

variable {pending : Bool} {plan : Option (ℕ × Fault)} {statement : Sent} {statements : List Sent}

theorem inTransaction_apply (db : SqliteConnection Database) (fault : Fault)
    {sending : Statement Database}
    (opens : ((sending.exec db).getD db).inTransaction = statement.opens db.inTransaction)
    (rejected : (Fault.rejected.apply db sending).inTransaction =
      (statement.opens db.inTransaction || db.inTransaction)) :
    (fault.apply db sending).inTransaction = false ↔
      closes db.inTransaction statement fault = true := by
  cases fault with
  | refused =>
    rw [closes, Bool.not_eq_true']
    rfl
  | rejected =>
    rw [rejected, closes, Bool.or_eq_false_iff, Bool.and_eq_true,
      Bool.not_eq_true', Bool.not_eq_true']
  | abandoned => exact iff_of_true rfl rfl
  | interrupted executed =>
    cases executed with
    | false =>
      rw [closes, Bool.not_eq_true']
      rfl
    | true =>
      rw [closes, Bool.not_eq_true', ← opens]
      rfl

theorem releases_nil : Releases pending plan [] := by
  cases plan with
  | none => exact List.not_mem_nil
  | some failure => exact List.not_mem_nil

theorem releases_of_fault {fault : Fault} (fails : fault? plan = some fault) :
    Releases pending plan (statement :: statements) ↔ closes pending statement fault = true := by
  match plan, fails with
  | some (0, _), rfl => exact Iff.rfl

theorem releases_cons (succeeds : fault? plan = none) (allowed : statement ≠ .conflict) :
    Releases pending plan (statement :: statements) ↔
      Releases (statement.opens pending) (later plan) statements := by
  have conflicts : .conflict ∉ statement :: statements ↔
      .conflict ∉ statements := by
    rw [List.mem_cons, not_or]
    exact and_iff_right allowed.symm
  match plan, succeeds with
  | none, _ => exact conflicts
  | some (position + 1, fault), _ =>
    simp only [Releases, later, Option.map_some, Option.bind_some,
      Nat.add_sub_cancel, List.getElem?_cons_succ, List.take_succ_cons]
    cases found : statements[position]? with
    | none => exact conflicts
    | some other => exact Iff.rfl

theorem not_releases_conflict (succeeds : fault? plan = none) :
    ¬ Releases pending plan [.conflict] := by
  match plan, succeeds with
  | none, _ =>
    intro absent
    exact absent List.mem_cons_self
  | some (position + 1, fault), _ =>
    intro absent
    exact absent List.mem_cons_self

end Releases

/-- Whatever a call raises, no transaction is open after it. -/
def Closes (ended : Except Error Result × SqliteConnection Database) : Prop :=
  ∀ raised, ended.1 = .error raised → ended.2.inTransaction = false

theorem closes_error {raised : Error} {db : SqliteConnection Database} :
    Closes ((.error raised : Except Error Result), db) ↔ db.inTransaction = false := by
  constructor
  · intro closed
    exact closed raised rfl
  · intro closed _ _
    exact closed

/-- A call that raises leaves no transaction open exactly under the condition
on its failure. -/
theorem run_closes_iff (raise : Fault → Error) {script : SqliteScript Database Error Result}
    {db : SqliteConnection Database} (tidy : script.Tidy db.inTransaction)
    (plan : Option (ℕ × Fault)) :
    Closes (script.run raise plan db) ↔
      Releases db.inTransaction plan (script.sent db.current) := by
  induction script generalizing plan db with
  | finish result =>
    apply iff_of_true _ releases_nil
    intro raised isRaised
    have isError : result = .error raised := isRaised
    subst isError
    exact tidy
  | read next ih =>
    rw [run, sent]
    cases fails : fault? plan with
    | some fault =>
      rw [releases_of_fault fails]
      exact closes_error.trans (inTransaction_apply db fault rfl (Bool.or_self _).symm)
    | none =>
      rw [releases_cons fails (show Sent.read ≠ .conflict from nofun)]
      exact ih db.current (tidy db.current) (later plan)
  | modify change next ih =>
    rw [run, sent]
    cases fails : fault? plan with
    | some fault =>
      have opens : Closes ((.error (raise fault) : Except Error Result),
          fault.apply db (.modify (keep change))) ↔ closes db.inTransaction .modify fault = true :=
        closes_error.trans (inTransaction_apply db fault rfl rfl)
      cases changes : change db.current with
      | ok changed =>
        simp only
        rw [releases_of_fault fails]
        exact opens
      | error raised =>
        simp only
        rw [releases_of_fault fails]
        exact opens
    | none =>
      cases changes : change db.current with
      | ok changed =>
        simp only
        rw [releases_cons fails (show Sent.modify ≠ .conflict from nofun)]
        exact ih tidy (later plan)
      | error raised =>
        apply iff_of_false _ (not_releases_conflict fails)
        intro closed
        cases closed raised rfl
  | commit next ih =>
    rw [run, sent]
    cases fails : fault? plan with
    | some fault =>
      rw [releases_of_fault fails]
      exact closes_error.trans (inTransaction_apply db fault rfl rfl)
    | none =>
      rw [releases_cons fails (show Sent.commit ≠ .conflict from nofun)]
      exact ih tidy (later plan)

end SqliteScript

end RoxabiFactory
