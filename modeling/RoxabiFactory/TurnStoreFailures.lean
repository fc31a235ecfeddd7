import RoxabiFactory.SqliteStatements
import RoxabiFactory.TurnWriter

/-!
# Handlers of the turn store that fail

The handlers of the writer send their statements over one connection.  Logging
a turn and counting a resume begin a transaction and roll it back when the
database raises an error.  The other handlers leave the transaction to the
change that begins it, and commit without a rollback.
-/

namespace RoxabiFactory

namespace TurnWriter

open SqliteConnection SqliteStatements

/-- A handler of the writer, or a method of the store. -/
inductive Handler
  | event (written : TurnWriteEvent) (now : String)
  /-- `TurnStore._increment_resume_count`. -/
  | incrementResumeCount (sessionId : String)

/-- The statements of `_log_turn` between `BEGIN` and the commit. -/
def logTurnStatements (event : TurnWriteEvent) (payload : LogTurnPayload)
    (now : String) : List (Statement Store) :=
  [.modify fun store => store.insertTurn (Store.turnRow event payload now), .modify fun store =>
      store.insertSession event.sessionId event.poolId now,
    .modify fun store => store.updateSession event.sessionId
      fun row => { row with lastActiveAt := now }]

/-- The statements of `_handle_increment_resume_count`, for an event that has
not been processed. -/
def countStatements (eventId sessionId : String) (targetCount : Int) : List (Statement Store) :=
  [.read, .modify fun store => store.updateSession sessionId
      fun row => { row with resumeCount := max row.resumeCount targetCount },
    .modify fun store => { store with
      processed := Function.update store.processed eventId true }]

namespace Handler

/-- The statements of a handler, by what its `SELECT` finds. -/
def block (store : Store) : Handler → Block Store
  | event written now =>
    match written.payload with
    | .logTurn payload =>
      .transaction (logTurnStatements written payload now) .commit
    | .startSession => .autocommit fun store =>
      store.startSession written.sessionId written.poolId now
    | .endSession => .autocommit fun store =>
      store.endSession written.sessionId now
    | .setCliSession cliSessionId => .autocommit fun store =>
      store.setCliSession written.sessionId cliSessionId
    | .incrementResumeCount targetCount =>
      if store.processed written.eventId then .transaction [.read] .rollback
      else .transaction (countStatements written.eventId written.sessionId targetCount) .commit
  | incrementResumeCount sessionId => .autocommit fun store =>
    store.updateSession sessionId
      fun row => { row with resumeCount := row.resumeCount + 1 }

/-- The whole effect of a handler. -/
def apply (store : Store) : Handler → Store
  | event written now => store.handle written now
  | incrementResumeCount sessionId =>
    store.updateSession sessionId
      fun row => { row with resumeCount := row.resumeCount + 1 }

/-- A call of a handler, with the statement that fails in it. -/
def call (handler : Handler) (failure : Option Failure) (db : SqliteConnection Store) :
    SqliteConnection Store × SqliteStatements.Ending :=
  (handler.block db.current).program.call failure db

theorem wellFormed_block (handler : Handler) (store : Store) :
    (handler.block store).WellFormed := by
  cases handler with
  | event written now =>
    obtain ⟨eventId, poolId, sessionId, platform, userId, payload⟩ := written
    cases payload with
    | logTurn payload =>
      exact ⟨by simp [logTurnStatements, Statement.isData], .inr rfl⟩
    | incrementResumeCount targetCount =>
      dsimp only [block]
      by_cases seen : store.processed eventId = true
      · rw [if_pos seen]
        exact ⟨by simp [Statement.isData], .inl rfl⟩
      · rw [if_neg seen]
        exact ⟨by simp [countStatements, Statement.isData], .inr rfl⟩
    | _ => trivial
  | incrementResumeCount sessionId => trivial

theorem result_block (handler : Handler) (store : Store) :
    (handler.block store).result store = handler.apply store := by
  cases handler with
  | event written now =>
    obtain ⟨eventId, poolId, sessionId, platform, userId, payload⟩ := written
    cases payload with
    | incrementResumeCount targetCount =>
      dsimp only [block, apply, Store.handle, Store.incrementResumeCount]
      by_cases seen : store.processed eventId = true
      · rw [if_pos seen, if_pos seen]
        rfl
      · rw [if_neg seen, if_neg seen]
        rfl
    | _ => rfl
  | incrementResumeCount sessionId => rfl

theorem call_none (handler : Handler) (store : Store) : handler.call none (opened store) =
      (opened (handler.apply store), .returned) := by
  rw [← result_block]
  exact Block.call_none (wellFormed_block handler store) store

end Handler

/-! ## After a failure -/

/-- What the connection reads, and what other connections read. -/
def contents (db : SqliteConnection Store) : Store × Store := (db.current, db.committed)

/-- The next handler can begin, and any later handlers leave the contents that
they would have left without the failed call. -/
structure LeavesNoTrace (store : Store) (after : SqliteConnection Store) : Prop where
  begins : after.begin?.isSome = true
  same : ∀ later : List Handler, (serve (Handler.call · none) later after).map contents =
      (serve (Handler.call · none) later (opened store)).map contents

theorem serve_opened (handlers : List Handler) (store : Store) :
    serve (Handler.call · none) handlers (opened store) =
      some (opened (handlers.foldl (fun store handler => handler.apply store) store)) := by
  induction handlers generalizing store with
  | nil => rfl
  | cons handler handlers ih =>
    rw [serve, Handler.call_none]
    exact ih (handler.apply store)

theorem leavesNoTrace_iff {store : Store} {after : SqliteConnection Store} :
    LeavesNoTrace store after ↔ after = opened store := by
  constructor
  · intro clean
    have idle : after.inTransaction = false := by
      cases inside : after.inTransaction with
      | false => rfl
      | true =>
        have begins := clean.begins
        rw [begin?, inside] at begins
        cases begins
    have read := Option.some.inj (clean.same [])
    have committed : after.committed = store := congrArg Prod.snd read
    rw [← committed, ← commit_eq_self idle, commit, after.settled idle]
    rfl
  · rintro rfl
    exact ⟨rfl, fun _ => rfl⟩

/-- A handler that fails leaves no trace exactly when its transaction is
undone. -/
theorem failed_leavesNoTrace_iff (handler : Handler) (failure : Failure) (store : Store) :
    ((handler.call (some failure) (opened store)).2 ≠ .returned →
        LeavesNoTrace store (handler.call (some failure) (opened store)).1) ↔
      (handler.block store).Undone failure store := by
  rw [leavesNoTrace_iff]
  exact Block.undone_iff (Handler.wellFormed_block handler store) failure store

section Example

/-- The CLI session of a session is stored. -/
def setCli : Handler := .event ⟨"e1", "telegram:main:1", "s1", "telegram", "u1",
    .setCliSession "cli-1"⟩ "1"

/-- The `UPDATE` fails after it has begun a transaction: the next turn cannot
begin its own. -/
theorem exists_transaction_left_open :
    let failed := setCli.call (some ⟨0, .rejected, none⟩) (opened { })
    failed.2 = .raised true ∧ ¬ LeavesNoTrace { } failed.1 ∧
      (Handler.call (.event Store.exampleReply "2") none failed.1).2 =
        .raised true := by
  refine ⟨rfl, ?_, rfl⟩
  intro clean
  cases clean.begins

end Example

end TurnWriter

end RoxabiFactory
