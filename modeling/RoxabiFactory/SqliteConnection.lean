import Mathlib.Logic.Basic

/-!
# One connection that many coroutines share

A connection has at most one transaction, whoever sent its statements.  A
statement that changes data begins a transaction when there is none, as the
legacy transaction control of Python's `sqlite3` does; a transaction that is
begun explicitly cannot be within another one.
-/

namespace RoxabiFactory

/-- What is committed, and what the connection sees. -/
structure SqliteConnection (Database : Type*) where
  committed : Database
  current : Database
  inTransaction : Bool
  /-- Only a transaction has changes that are not committed. -/
  settled : inTransaction = false → current = committed

namespace SqliteConnection

variable {Database : Type*} (db : SqliteConnection Database)

/-- The connection after the database is opened. -/
def opened (database : Database) : SqliteConnection Database :=
  ⟨database, database, false, fun _ => rfl⟩

/-- `INSERT`, `UPDATE` and `DELETE`. -/
def modify (change : Database → Database) : SqliteConnection Database :=
  { db with
    current := change db.current
    inTransaction := true
    settled := Bool.noConfusion }

/-- `BEGIN IMMEDIATE`, which raises within a transaction. -/
def begin? : Option (SqliteConnection Database) :=
  if db.inTransaction then none else some (db.modify id)

/-- `Connection.commit`, which does nothing without a transaction. -/
def commit : SqliteConnection Database := opened db.current

/-- The `COMMIT` statement, which raises without a transaction. -/
def commit? : Option (SqliteConnection Database) :=
  if db.inTransaction then some db.commit else none

/-- The `ROLLBACK` statement, which raises without a transaction. -/
def rollback? : Option (SqliteConnection Database) :=
  if db.inTransaction then some (opened db.committed) else none

variable {db}

theorem commit_eq_self (idle : db.inTransaction = false) : db.commit = db := by
  have same := db.settled idle
  cases db
  cases idle
  cases same
  rfl

theorem begin?_of_idle (idle : db.inTransaction = false) : db.begin? = some (db.modify id) := by
  rw [begin?, idle]
  rfl

theorem commit?_of_open (inside : db.inTransaction = true) : db.commit? = some db.commit := by
  rw [commit?, if_pos inside]

theorem rollback?_of_open (inside : db.inTransaction = true) :
    db.rollback? = some (opened db.committed) := by
  rw [rollback?, if_pos inside]

end SqliteConnection

end RoxabiFactory
