import Mathlib.Algebra.Order.Ring.Int
import Mathlib.Logic.Function.Basic

/-!
# The writer of turn events

Events of turns and sessions come from a stream that delivers each of them at
least once, and every kind of event has its own defence against a second
delivery: an index of the turns, an insertion that gives way to the row that is
there, a maximum with a table of the events that have been seen.
-/

namespace RoxabiFactory

namespace TurnWriter

inductive Role
  | user
  | assistant
  deriving DecidableEq

structure LogTurnPayload where
  role : Role
  content : String
  messageId : Option String := none
  replyMessageId : Option String := none
  /-- The text of `json.dumps(metadata or {})`. -/
  metadata : String
  deriving DecidableEq

inductive TurnWritePayload
  | logTurn (payload : LogTurnPayload)
  | startSession
  | endSession
  | setCliSession (cliSessionId : String)
  | incrementResumeCount (targetCount : Int)
  deriving DecidableEq

structure TurnWriteEvent where
  eventId : String
  poolId : String
  sessionId : String
  platform : String
  userId : String
  payload : TurnWritePayload
  deriving DecidableEq

/-- A row of `conversation_turns`; the times are texts of `isoformat`. -/
structure TurnRow where
  poolId : String
  sessionId : String
  role : Role
  platform : String
  userId : String
  content : String
  messageId : Option String
  replyMessageId : Option String
  timestamp : String
  metadata : String
  deriving DecidableEq

/-- A row of `pool_sessions`, without its key. -/
structure SessionRow where
  poolId : String
  startedAt : String
  lastActiveAt : String
  endedAt : Option String := none
  resumeCount : Int := 0
  cliSessionId : Option String := none
  deriving DecidableEq

/-- The tables of the store; `session_id` is the key of `pool_sessions`, and
`event_id` that of `processed_events`. -/
structure Store where
  turns : List TurnRow := []
  sessions : String → Option SessionRow := fun _ => none
  processed : String → Bool := fun _ => false

namespace Store

/-- `INSERT OR IGNORE INTO conversation_turns`; the unique index covers the
rows that have a message id. -/
def insertTurn (store : Store) (row : TurnRow) : Store :=
  if row.messageId.isSome ∧ ∃ other ∈ store.turns,
      other.platform = row.platform ∧ other.messageId = row.messageId then
    store
  else { store with turns := store.turns ++ [row] }

/-- `INSERT OR IGNORE INTO pool_sessions`. -/
def insertSession (store : Store) (sessionId poolId now : String) : Store :=
  if (store.sessions sessionId).isSome then store
  else { store with
    sessions := Function.update store.sessions sessionId
      (some { poolId := poolId, startedAt := now, lastActiveAt := now }) }

/-- `UPDATE pool_sessions ... WHERE session_id = ?`. -/
def updateSession (store : Store) (sessionId : String) (update : SessionRow → SessionRow) : Store :=
  { store with
    sessions := Function.update store.sessions sessionId ((store.sessions sessionId).map update) }

/-- The row that `_log_turn` inserts. -/
def turnRow (event : TurnWriteEvent) (payload : LogTurnPayload) (now : String) : TurnRow where
  poolId := event.poolId
  sessionId := event.sessionId
  role := payload.role
  platform := event.platform
  userId := event.userId
  content := payload.content
  messageId := payload.messageId
  replyMessageId := payload.replyMessageId
  timestamp := now
  metadata := payload.metadata

/-- `_log_turn`. -/
def logTurn (store : Store) (event : TurnWriteEvent) (payload : LogTurnPayload)
    (now : String) : Store :=
  ((store.insertTurn (turnRow event payload now)).insertSession
    event.sessionId event.poolId now).updateSession event.sessionId
      fun row => { row with lastActiveAt := now }

/-- `_start_session`. -/
def startSession (store : Store) (sessionId poolId now : String) : Store :=
  store.insertSession sessionId poolId now

/-- `_end_session`. -/
def endSession (store : Store) (sessionId now : String) : Store :=
  store.updateSession sessionId fun row =>
    if row.endedAt.isNone then { row with endedAt := some now } else row

/-- `_set_cli_session`. -/
def setCliSession (store : Store) (sessionId cliSessionId : String) : Store :=
  store.updateSession sessionId fun row =>
    { row with cliSessionId := some cliSessionId }

/-- The transaction of `_handle_increment_resume_count`. -/
def incrementResumeCount (store : Store) (eventId sessionId : String) (targetCount : Int) : Store :=
  if store.processed eventId then store
  else
    { store.updateSession sessionId fun row =>
        { row with resumeCount := max row.resumeCount targetCount } with
      processed := Function.update store.processed eventId true }

/-- `_handle`, when the statements succeed. -/
def handle (store : Store) (event : TurnWriteEvent) (now : String) : Store :=
  match event.payload with
  | .logTurn payload => store.logTurn event payload now
  | .startSession => store.startSession event.sessionId event.poolId now
  | .endSession => store.endSession event.sessionId now
  | .setCliSession cliSessionId =>
    store.setCliSession event.sessionId cliSessionId
  | .incrementResumeCount targetCount =>
    store.incrementResumeCount event.eventId event.sessionId targetCount

end Store

/-! ## Tables without their times -/

/-- The row without its time. -/
def TurnRow.untimed (row : TurnRow) : TurnRow := { row with timestamp := "" }

/-- The row without its times; whether the session has ended stays. -/
def SessionRow.untimed (row : SessionRow) : SessionRow :=
  { row with
    startedAt := ""
    lastActiveAt := ""
    endedAt := row.endedAt.map fun _ => "" }

def Store.SameUpToTimes (first second : Store) : Prop :=
  first.turns.map TurnRow.untimed = second.turns.map TurnRow.untimed ∧
    ∀ sessionId, (first.sessions sessionId).map SessionRow.untimed =
      (second.sessions sessionId).map SessionRow.untimed

namespace Store

@[simp]
theorem turns_updateSession (store : Store) (sessionId : String)
    (update : SessionRow → SessionRow) :
    (store.updateSession sessionId update).turns = store.turns :=
  rfl

@[simp]
theorem turns_insertSession (store : Store) (sessionId poolId now : String) :
    (store.insertSession sessionId poolId now).turns = store.turns := by
  unfold insertSession
  split <;> rfl

@[simp]
theorem sessions_insertTurn (store : Store) (row : TurnRow) :
    (store.insertTurn row).sessions = store.sessions := by
  unfold insertTurn
  split <;> rfl

theorem sessions_updateSession (store : Store) (sessionId : String)
    (update : SessionRow → SessionRow) (other : String) :
    (store.updateSession sessionId update).sessions other =
      if other = sessionId then (store.sessions sessionId).map update
      else store.sessions other := by
  simp only [updateSession, Function.update_apply]

theorem sessions_insertSession (store : Store) (sessionId poolId now : String) (other : String) :
    (store.insertSession sessionId poolId now).sessions other =
      if other = sessionId then
        (store.sessions sessionId).or
          (some { poolId := poolId, startedAt := now, lastActiveAt := now })
      else store.sessions other := by
  unfold insertSession
  cases row : store.sessions sessionId with
  | none => simp [Function.update_apply]
  | some row =>
    by_cases same : other = sessionId
    · simp [same, row]
    · simp [same]

theorem turns_insertTurn_congr {store other : Store}
    (same : store.turns = other.turns) (row : TurnRow) :
    (store.insertTurn row).turns = (other.insertTurn row).turns := by
  unfold insertTurn
  rw [same]
  split
  · exact same
  · rfl

theorem turns_insertTurn_insertTurn {store : Store} {row : TurnRow}
    (identified : row.messageId.isSome) (now : String) :
    ((store.insertTurn row).insertTurn { row with timestamp := now }).turns =
      (store.insertTurn row).turns := by
  unfold insertTurn
  by_cases known : ∃ other ∈ store.turns, other.platform = row.platform ∧
      other.messageId = row.messageId
  · simp [identified, known]
  · simp [identified, known]

theorem length_turns_insertTurn {store : Store} {row : TurnRow} (anonymous : row.messageId = none) :
    (store.insertTurn row).turns.length = store.turns.length + 1 := by
  simp [insertTurn, anonymous]

theorem sessions_logTurn (store : Store) (event : TurnWriteEvent)
    (payload : LogTurnPayload) (now : String) (other : String) :
    (store.logTurn event payload now).sessions other =
      if other = event.sessionId then
        some { (store.sessions other).getD
          { poolId := event.poolId, startedAt := now, lastActiveAt := now } with
            lastActiveAt := now }
      else store.sessions other := by
  simp only [logTurn, sessions_updateSession, sessions_insertSession, sessions_insertTurn, if_true]
  by_cases same : other = event.sessionId
  · subst same
    cases store.sessions event.sessionId <;> simp
  · simp [same]

theorem untimed_updateSession_updateSession (store : Store)
    {first second : SessionRow → SessionRow} (sessionId other : String)
    (again : ∀ row, (second (first row)).untimed = (first row).untimed) :
    (((store.updateSession sessionId first).updateSession sessionId
        second).sessions other).map SessionRow.untimed =
      ((store.updateSession sessionId first).sessions other).map
        SessionRow.untimed := by
  simp only [sessions_updateSession, if_true]
  split
  · cases store.sessions sessionId with
    | none => rfl
    | some row => exact congrArg some (again row)
  · rfl

theorem sessions_handle_handle (store : Store) (event : TurnWriteEvent)
    (first second sessionId : String) :
    (((store.handle event first).handle event second).sessions sessionId).map SessionRow.untimed =
      ((store.handle event first).sessions sessionId).map
        SessionRow.untimed := by
  unfold handle
  cases event.payload with
  | logTurn payload =>
    simp only [sessions_logTurn]
    split <;> simp [SessionRow.untimed]
  | startSession =>
    simp only [startSession, sessions_insertSession]
    split <;> simp
  | endSession =>
    apply untimed_updateSession_updateSession
    intro row
    cases ended : row.endedAt <;> simp [ended]
  | setCliSession cliSessionId =>
    apply untimed_updateSession_updateSession
    exact fun row => rfl
  | incrementResumeCount targetCount =>
    by_cases seen : store.processed event.eventId
    · simp [incrementResumeCount, seen]
    · simp [incrementResumeCount, seen]

theorem turns_handle_handle (store : Store) (event : TurnWriteEvent) (first second : String) :
    (((store.handle event first).handle event second).turns.map TurnRow.untimed =
      (store.handle event first).turns.map TurnRow.untimed) ↔
    ∀ payload, event.payload = .logTurn payload →
      payload.messageId.isSome := by
  unfold handle
  cases kind : event.payload with
  | logTurn payload =>
    simp only [TurnWritePayload.logTurn.injEq, forall_eq']
    -- the second insertion meets the turns that the first one has left
    have again : ((store.logTurn event payload first).logTurn event payload second).turns =
        ((store.insertTurn (turnRow event payload first)).insertTurn
          (turnRow event payload second)).turns := by
      simp only [logTurn, turns_updateSession, turns_insertSession]
      exact turns_insertTurn_congr (by simp) _
    have once : (store.logTurn event payload first).turns =
        (store.insertTurn (turnRow event payload first)).turns := by
      simp [logTurn]
    rw [again, once]
    constructor
    · intro same
      by_contra anonymous
      have unnamed : payload.messageId = none := by simpa using anonymous
      have longer : (turnRow event payload second).messageId = none := unnamed
      have lengths := congrArg List.length same
      rw [List.length_map, List.length_map, length_turns_insertTurn longer] at lengths
      omega
    · intro identified
      have same : (turnRow event payload first).messageId.isSome := identified
      exact congrArg _ (turns_insertTurn_insertTurn same second)
  | startSession => simp [startSession]
  | endSession => simp [endSession]
  | setCliSession cliSessionId => simp [setCliSession]
  | incrementResumeCount targetCount =>
    by_cases seen : store.processed event.eventId
    · simp [incrementResumeCount, seen]
    · simp [incrementResumeCount, seen]

/-- A second delivery of an event leaves the tables as they are, up to the
times, exactly when the event is not a turn without a message id. -/
theorem handle_handle_iff (store : Store) (event : TurnWriteEvent) (first second : String) :
    ((store.handle event first).handle event second).SameUpToTimes (store.handle event first) ↔
      ∀ payload, event.payload = .logTurn payload →
        payload.messageId.isSome := by
  rw [← turns_handle_handle store event first second]
  exact and_iff_left (sessions_handle_handle store event first second)

section Example

/-- An answer of the assistant, for which the platform has no id. -/
def exampleReply : TurnWriteEvent where
  eventId := "e1"
  poolId := "telegram:lyra:1"
  sessionId := "s1"
  platform := "telegram"
  userId := "u1"
  payload := .logTurn { role := .assistant, content := "hello", metadata := "" }

/-- A turn without a message id is stored again when it is delivered again. -/
theorem reply_stored_twice : ¬ ((({ } : Store).handle exampleReply "1").handle exampleReply
      "2").SameUpToTimes (({ } : Store).handle exampleReply "1") :=
  fun same => absurd same.1 (by decide)

end Example

end Store

end TurnWriter

end RoxabiFactory
