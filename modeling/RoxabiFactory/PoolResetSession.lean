import Mathlib.Data.List.Basic
import RoxabiFactory.TransitionSystem

/-!
# Clearing the session of a pool

`/clear` runs beside the turns of its pool and beside the session resume of
other messages: `reset_session` ends the current session, rotates the session
id and announces the new one, with a suspension at each publication.  A turn
writes the session id of its answer back to the pool, and the resume of the
last active session reads a table to which the turn writer applies the
published events some time later.

Messages, turns and calls of `reset_session` overlap in any way; the session
ids that the backend and the message index answer are left to the environment.
-/

namespace RoxabiFactory

namespace PoolSession

abbrev Session := String

/-- A row of `pool_sessions` that belongs to the pool. -/
structure Row where
  session : Session
  /-- `ended_at IS NOT NULL`. -/
  ended : Bool := false
  deriving DecidableEq

/-- The turn events that change these columns. -/
inductive Event
  | logTurn (session : Session)
  | startSession (session : Session)
  | endSession (session : Session)
  deriving DecidableEq

/-- The writer applies an event; the rows are in the order of
`last_active_at`, the last active one first. -/
def Event.apply (rows : List Row) : Event → List Row
  | logTurn session =>
    match rows.find? fun row => row.session = session with
    | none => { session := session } :: rows
    | some row => row :: rows.filter fun row => row.session ≠ session
  | startSession session =>
    if rows.any fun row => row.session = session then rows
    else { session := session } :: rows
  | endSession session =>
    rows.map fun row =>
      if row.session = session then { row with ended := true } else row

/-- `get_last_session`. -/
def getLastSession (rows : List Row) : Option Session :=
  (rows.find? fun row => !row.ended).map Row.session

inductive TurnPoint
  | working
  /-- In `end_session_async(old)`; `pool.session_id` will become `new`. -/
  | ending (old new : Session)
  | ended (new : Session)
  deriving DecidableEq

/-- A turn; `born` counts the calls of `reset_session` before its message was
submitted. -/
structure Turn where
  born : Nat
  point : TurnPoint := .working
  deriving DecidableEq

inductive LookupPoint
  /-- In `message_index.resolve`. -/
  | resolving
  /-- In `get_last_session`, before and after the table is read. -/
  | lookingUp
  | found (session : Option Session)
  | done
  deriving DecidableEq

/-- `resolve_context` for a message; `cleared` are the sessions that calls of
`reset_session` had ended and returned from when it was submitted. -/
structure Lookup where
  born : Nat
  cleared : List Session
  point : LookupPoint
  deriving DecidableEq

/-- Where `reset_session` is; `old` is the session that it ends. -/
inductive ClearPoint
  | ending (old : Session)
  | ended (old : Session)
  | starting (old new : Session)
  | started (old : Session)
  | returned
  deriving DecidableEq

structure State where
  sessionId : Session
  /-- `_pending_session_id`, with the message that has set it. -/
  pending : Option (Session × Nat) := none
  idle : Bool := true
  turns : List Turn := []
  lookups : List Lookup := []
  clears : List ClearPoint := []
  /-- The calls of `resume_session`. -/
  resumes : List Session := []
  /-- Turn-log events that are being published. -/
  publishing : List Event := []
  /-- Events that are published and not acknowledged by the writer. -/
  stream : List Event := []
  rows : List Row := []
  /-- The last call of `reset_session` that has returned. -/
  lastReturned : Nat := 0
  /-- The sessions that these calls have ended. -/
  cleared : List Session := []

inductive Action
  /-- A message enters `resolve_context`. -/
  | submit (isReply : Bool)
  | resolved (lookup : Nat) (answer : Option Session)
  | queried (lookup : Nat)
  | decided (lookup : Nat)
  | loopStarts
  | loopEnds
  | takePending
  | turnStarts (born : Nat)
  | logTurn (turn : Nat)
  | logPublished (index : Nat) (ok : Bool)
  /-- `_update_session_id`, the end of `process_streaming` or the callback of
  its outbound message finds this session id in the answer. -/
  | writesBack (turn : Nat) (session : Option Session)
  | turnEnds (turn : Nat) (ok : Bool)
  | assigns (turn : Nat)
  | clear
  | clearEnds (clear : Nat) (ok : Bool)
  | rotates (clear : Nat) (session : Session)
  | clearStarts (clear : Nat) (ok : Bool)
  | clearReturns (clear : Nat)
  /-- The writer applies an event, which it may see again. -/
  | applies (index : Nat) (again : Bool)
  /-- The writer gives an event up. -/
  | drops (index : Nat)
  deriving DecidableEq

namespace State

def setTurn (state : State) (index : Nat) (turn : Turn) (point : TurnPoint) :
    State :=
  { state with turns := state.turns.set index { turn with point := point } }

def setLookup (state : State) (index : Nat) (lookup : Lookup) (point : LookupPoint) : State :=
  { state with
    lookups := state.lookups.set index { lookup with point := point } }

def setClear (state : State) (index : Nat) (point : ClearPoint) : State :=
  { state with clears := state.clears.set index point }

/-- An event reaches the stream, unless its publication fails. -/
def publish (state : State) (event : Event) (ok : Bool) : State :=
  { state with stream := state.stream ++ if ok then [event] else [] }

/-- Path 3 begins when the pool is idle. -/
def lookUp (state : State) : LookupPoint :=
  if state.idle then .lookingUp else .done

def resume (state : State) (session : Session) : State :=
  { state with resumes := state.resumes ++ [session] }

end State

def step (state : State) : Action → Option State
  | .submit isReply =>
    some { state with
      lookups := state.lookups ++
        [{ born := state.clears.length
           cleared := state.cleared
           point := if isReply then .resolving else state.lookUp }] }
  | .resolved index answer =>
    (state.lookups[index]?).bind fun lookup =>
      if lookup.point = .resolving then
        match answer with
        | none => some (state.setLookup index lookup state.lookUp)
        | some session =>
          let settled := state.setLookup index lookup .done
          some (if state.idle then settled.resume session
            else { settled with pending := some (session, lookup.born) })
      else none
  | .queried index =>
    (state.lookups[index]?).bind fun lookup =>
      if lookup.point = .lookingUp then
        some (state.setLookup index lookup (.found (getLastSession state.rows)))
      else none
  | .decided index =>
    (state.lookups[index]?).bind fun lookup =>
      match lookup.point with
      | .found none => some (state.setLookup index lookup .done)
      | .found (some session) =>
        let settled := state.setLookup index lookup .done
        some (if session = state.sessionId then settled
          else settled.resume session)
      | _ => none
  | .loopStarts => some { state with idle := false }
  | .loopEnds => some { state with idle := true }
  | .takePending =>
    match state.pending with
    | some (session, _) =>
      if state.idle then none
      else some (({ state with pending := none } : State).resume session)
    | none => none
  | .turnStarts born =>
    if born ≤ state.clears.length then
      some { state with turns := state.turns ++ [{ born := born }] }
    else none
  | .logTurn index =>
    (state.turns[index]?).bind fun _ =>
      some { state with
        publishing := state.publishing ++ [.logTurn state.sessionId] }
  | .logPublished index ok =>
    (state.publishing[index]?).bind fun event =>
      some (({ state with
        publishing := state.publishing.eraseIdx index } : State).publish event ok)
  | .writesBack index session =>
    (state.turns[index]?).bind fun turn =>
      if turn.point = .working then
        match session with
        | none => some state
        | some session =>
          some (if session = state.sessionId then state
            else state.setTurn index turn (.ending state.sessionId session))
      else none
  | .turnEnds index ok =>
    (state.turns[index]?).bind fun turn =>
      match turn.point with
      | .ending old new =>
        some ((state.setTurn index turn (.ended new)).publish (.endSession old) ok)
      | _ => none
  | .assigns index =>
    (state.turns[index]?).bind fun turn =>
      match turn.point with
      | .ended new =>
        some { state.setTurn index turn .working with sessionId := new }
      | _ => none
  | .clear =>
    some { state with
      pending := none
      clears := state.clears ++ [.ending state.sessionId] }
  | .clearEnds index ok =>
    match state.clears[index]? with
    | some (.ending old) =>
      some ((state.setClear index (.ended old)).publish (.endSession old) ok)
    | _ => none
  | .rotates index session =>
    match state.clears[index]? with
    | some (.ended old) =>
      some { state.setClear index (.starting old session) with
        sessionId := session }
    | _ => none
  | .clearStarts index ok =>
    match state.clears[index]? with
    | some (.starting old new) =>
      some ((state.setClear index (.started old)).publish (.startSession new) ok)
    | _ => none
  | .clearReturns index =>
    match state.clears[index]? with
    | some (.started old) =>
      some { state.setClear index .returned with
        lastReturned := max state.lastReturned (index + 1)
        cleared := state.cleared ++ [old] }
    | _ => none
  | .applies index again =>
    (state.stream[index]?).bind fun event =>
      some { state with
        rows := event.apply state.rows
        stream := if again then state.stream
          else state.stream.eraseIdx index }
  | .drops index =>
    (state.stream[index]?).bind fun _ =>
      some { state with stream := state.stream.eraseIdx index }

/-- The runs of a pool that begins with some session and some table. -/
def poolSession : TransitionSystem State Action where
  initial state := ∃ session rows, state = { sessionId := session, rows := rows }
  step := step

/-- When the message was submitted to which a step belongs. -/
def State.born (state : State) : Action → Option Nat
  | .resolved lookup _ | .queried lookup | .decided lookup =>
    (state.lookups[lookup]?).map Lookup.born
  | .writesBack turn _ | .turnEnds turn _ | .assigns turn | .logTurn turn =>
    (state.turns[turn]?).map Turn.born
  | .takePending => state.pending.map Prod.snd
  | _ => none

end PoolSession

end RoxabiFactory
