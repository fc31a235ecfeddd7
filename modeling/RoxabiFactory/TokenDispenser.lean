import Mathlib.Logic.Function.Basic
import Mathlib.Tactic.Linarith
import Mathlib.Tactic.Ring
import RoxabiFactory.TokenCache
import RoxabiFactory.TransitionSystem

/-!
# The token dispenser

Every connection sends one line and gets a token from the cache or from a mint
call.  Mint calls are made under a lock, after the wait of the rate limiter,
which measures from its last mark; the mark is set when the minted token is in
the cache.
-/

namespace RoxabiFactory

namespace TokenDispenser

open TokenCache

def minTokenTtlSeconds : Int := 900

def maxLineBytes : Nat := 32

/-- A response to a client; `credentials` is the answer with the user name and
the token. -/
inductive Response
  | credentials (token : Json)
  | error (message : String)
  deriving DecidableEq

inductive Stage
  | absent
  /-- The request line is awaited. -/
  | reading
  /-- The lock of the dispenser is awaited. -/
  | queued
  /-- The rate limiter sleeps. -/
  | sleeping (wake : ℚ)
  /-- The answer of the API is awaited. -/
  | minting
  /-- A response is written. -/
  | answered
  | closed
  deriving DecidableEq

structure Connection where
  stage : Stage := .absent
  responses : List Response := []
  deriving DecidableEq

/-- What `reader.readline()` makes of the request; it raises when the line is
longer than the limit of the stream, and when the connection is reset. -/
inductive RequestLine
  | timeout
  | raises
  | line (raw : List UInt8)
  deriving DecidableEq

/-- What `http.post` makes of a mint call. -/
inductive ApiAnswer
  | requestError
  | streamError
  | response (status : Int) (body : Document)
  deriving DecidableEq

structure Settings where
  minInterval : ℚ
  /-- `_INSTALL_ID_RE` matches the installation id. -/
  installIdIsNumeric : Bool
  fromisoformat : List Char → Option DateTime

/-- A token that is handed out without minting. -/
structure Handed where
  token : InstallationToken
  handedAt : Int
  deriving DecidableEq

structure State (Client : Type) where
  /-- `time.monotonic()`. -/
  clock : ℚ
  /-- `datetime.now`, in microseconds. -/
  wall : Int
  file : CacheFile
  lastRelease : ℚ
  lock : Option Client := none
  connection : Client → Connection := fun _ => {}
  /-- When the mint calls started, the last one first. -/
  mintStarts : List ℚ := []
  handed : List Handed := []

inductive Step (Client : Type)
  | advance (clock : ℚ) (wall : Int)
  /-- Somebody writes the cache file. -/
  | overwrite (file : CacheFile)
  | connect (client : Client)
  | readLine (client : Client) (line : RequestLine)
  | acquire (client : Client)
  | wake (client : Client)
  /-- The API answers; the cache is written unless that raises. -/
  | reply (client : Client) (answer : ApiAnswer) (writes : Bool)
  | close (client : Client)

/-! ## The code -/

/-- `bytes` of a literal. -/
def bytes (text : String) : List UInt8 := text.toList.map fun character => character.toNat.toUInt8

def isBlank (byte : UInt8) : Bool :=
  decide (byte = 32 ∨ 9 ≤ byte ∧ byte ≤ 13)

/-- `raw.strip()`. -/
def strip (raw : List UInt8) : List UInt8 :=
  ((raw.dropWhile isBlank).reverse.dropWhile isBlank).reverse

/-- The exception that `mint` raises for every failure it expects. -/
def mintError : PyError := .other "MintError"

/-- `mint`, once the API has answered. -/
def mintResult (fromisoformat : List Char → Option DateTime) : ApiAnswer → Py InstallationToken
  | .requestError | .streamError => .error mintError
  | .response status body =>
    if status ≠ 201 then .error mintError
    else
      match body.loads >>= parseToken fromisoformat with
      | .ok it => .ok it
      | .error raised =>
        if isCaught raised then .error mintError else .error raised

/-- The response can be encoded as UTF-8. -/
def isEncodable : Json → Bool
  | .str (.loneSurrogate _) => false
  | _ => true

section Code

variable {Client : Type} [DecidableEq Client]

namespace State

def setStage (state : State Client) (client : Client) (stage : Stage) : State Client :=
  { state with
    connection := Function.update state.connection client
      { state.connection client with stage := stage } }

/-- `writer.write(response)`. -/
def respond (state : State Client) (client : Client) (response : Response) : State Client :=
  { state with
    connection := Function.update state.connection client
      { stage := .answered
        responses := (state.connection client).responses ++ [response] } }

/-- An exception leaves the handler, which closes the connection. -/
def escape (state : State Client) (client : Client) : State Client := state.setStage client .closed

def release (state : State Client) : State Client := { state with lock := none }

/-- `_cache.write(it)` and `_rate_limiter.mark()`. -/
def store (state : State Client) (it : InstallationToken) : State Client :=
  { state with file := .text (.value it.payload), lastRelease := state.clock }

/-- The token has been resolved. -/
def answer (state : State Client) (client : Client) (it : InstallationToken) : State Client :=
  if isEncodable it.token then state.respond client (.credentials it.token)
  else state.escape client

def handOut (state : State Client) (client : Client) (it : InstallationToken) : State Client :=
  { state with handed := ⟨it, state.wall⟩ :: state.handed }.answer client it

end State

/-- `mint` starts. -/
def startMint (settings : Settings) (state : State Client) (client : Client) : State Client :=
  let started := { state with mintStarts := state.clock :: state.mintStarts }
  if settings.installIdIsNumeric then started.setStage client .minting
  else started.release.escape client

/-- `_rate_limiter.wait()`, and what follows it without a sleep. -/
def waitForFloor (settings : Settings) (state : State Client) (client : Client) : State Client :=
  let remaining := settings.minInterval - (state.clock - state.lastRelease)
  if 0 < remaining then
    state.setStage client (.sleeping (state.clock + remaining))
  else startMint settings state client

/-- `_resolve_token` up to the lock. -/
def resolveToken (settings : Settings) (state : State Client) (client : Client) : State Client :=
  match read settings.fromisoformat state.wall state.file with
  | .error _ => state.escape client
  | .ok none => state.setStage client .queued
  | .ok (some cached) =>
    if cached.isNearExpiry state.wall minTokenTtlSeconds then
      state.setStage client .queued
    else state.handOut client cached

/-- `_resolve_token` when it has the lock. -/
def resolveLocked (settings : Settings) (state : State Client) (client : Client) : State Client :=
  match read settings.fromisoformat state.wall state.file with
  | .error _ => state.release.escape client
  | .ok none => waitForFloor settings state client
  | .ok (some refreshed) =>
    if refreshed.isNearExpiry state.wall minTokenTtlSeconds then
      waitForFloor settings state client
    else state.release.handOut client refreshed

/-- `_resolve_token` when the API has answered. -/
def finishMint (settings : Settings) (state : State Client) (client : Client)
    (apiAnswer : ApiAnswer) (writes : Bool) : State Client :=
  match mintResult settings.fromisoformat apiAnswer with
  | .error raised =>
    if raised = mintError then
      state.release.respond client (.error "error=mint failed\n")
    else state.release.escape client
  | .ok it =>
    if writes then (state.store it).release.answer client it
    else state.release.escape client

/-- `_handle` when the line has been read. -/
def handleLine (settings : Settings) (state : State Client) (client : Client) :
    RequestLine → State Client
  | .timeout => state.respond client (.error "error=client timeout\n")
  | .raises => state.escape client
  | .line raw =>
    if maxLineBytes < raw.length then
      state.respond client (.error "error=request too long\n")
    else if strip raw = bytes "get" ∨ strip raw = bytes "peek" then
      resolveToken settings state client
    else state.respond client (.error "error=unsupported request\n")

def step (settings : Settings) (state : State Client) : Step Client → Option (State Client)
  | .advance clock wall =>
    if state.clock ≤ clock then some { state with clock := clock, wall := wall }
    else none
  | .overwrite file => some { state with file := file }
  | .connect client =>
    if (state.connection client).stage = .absent then
      some (state.setStage client .reading)
    else none
  | .readLine client line =>
    if (state.connection client).stage = .reading then
      some (handleLine settings state client line)
    else none
  | .acquire client =>
    if (state.connection client).stage = .queued ∧ state.lock = none then
      some (resolveLocked settings { state with lock := some client } client)
    else none
  | .wake client =>
    match (state.connection client).stage with
    | .sleeping wake =>
      if wake ≤ state.clock then some (startMint settings state client)
      else none
    | _ => none
  | .reply client apiAnswer writes =>
    if (state.connection client).stage = .minting then
      some (finishMint settings state client apiAnswer writes)
    else none
  | .close client =>
    if (state.connection client).stage = .answered then
      some (state.setStage client .closed)
    else none

/-- The dispenser starts with any cache file at any time. -/
def IsInitial (settings : Settings) (state : State Client) : Prop :=
  state.lastRelease = -settings.minInterval ∧ state.lock = none ∧
    (∀ client, state.connection client = {}) ∧ state.mintStarts = [] ∧ state.handed = []

def system (settings : Settings) (Client : Type) [DecidableEq Client] :
    TransitionSystem (State Client) (Step Client) where
  initial := IsInitial settings
  step := step settings

theorem State.connection_setStage_self (state : State Client) (client : Client) (stage : Stage) :
    (state.setStage client stage).connection client =
      { state.connection client with stage := stage } :=
  Function.update_self ..

theorem State.connection_setStage_of_ne (state : State Client)
    {client other : Client} (stage : Stage) (different : other ≠ client) :
    (state.setStage client stage).connection other = state.connection other :=
  Function.update_of_ne different ..

theorem State.connection_respond (state : State Client) (client : Client) (response : Response) :
    (state.respond client response).connection client =
      ⟨.answered, (state.connection client).responses ++ [response]⟩ :=
  Function.update_self ..

/-! ## Turns of one connection -/

/-- The handler of the connection has come to its end. -/
def Stage.HasEnded (stage : Stage) : Prop := stage = .answered ∨ stage = .closed

/-- The connection is between the lock and the end of its mint call. -/
def Stage.HoldsLock (stage : Stage) : Prop := stage = .minting ∨ ∃ wake, stage = .sleeping wake

variable {settings : Settings} {state after : State Client} {client : Client}

/-- What a handler does with its connection until it waits again. -/
inductive Turn (before : Connection) : Connection → Prop
  | goesOn (stage : Stage) : ¬ stage.HasEnded →
      Turn before { before with stage := stage }
  | answers (response : Response) : Turn before ⟨.answered, before.responses ++ [response]⟩

/-- The other connections are as before, and the exception that may leave the
handler has a cause. -/
structure Takes (client : Client) (cause : Prop) (state after : State Client) : Prop where
  others : ∀ other, other ≠ client → after.connection other = state.connection other
  turn : Turn (state.connection client) (after.connection client) ∨ after.connection client =
      { state.connection client with stage := .closed } ∧ cause

section Takes

variable {cause : Prop}

theorem takes_of_update {connection : Connection} (updates : after.connection =
      Function.update state.connection client connection)
    (turn : Turn (state.connection client) connection ∨
      connection = { state.connection client with stage := .closed } ∧ cause) :
    Takes client cause state after := by
  constructor
  · intro other different
    rw [updates, Function.update_of_ne different]
  · rw [updates, Function.update_self]
    exact turn

theorem takes_setStage {stage : Stage} (goesOn : ¬ stage.HasEnded)
    (same : after.connection = state.connection) :
    Takes client cause state (after.setStage client stage) := by
  apply takes_of_update
  · unfold State.setStage
    rw [same]
  · exact .inl (.goesOn stage goesOn)

theorem takes_respond (response : Response) (same : after.connection = state.connection) :
    Takes client cause state (after.respond client response) := by
  apply takes_of_update
  · unfold State.respond
    rw [same]
  · exact .inl (.answers response)

theorem takes_escape (isCause : cause) (same : after.connection = state.connection) :
    Takes client cause state (after.escape client) := by
  apply takes_of_update
  · unfold State.escape State.setStage
    rw [same]
  · exact .inr ⟨rfl, isCause⟩

theorem takes_answer {it : InstallationToken} (isCause : isEncodable it.token = false → cause)
    (same : after.connection = state.connection) :
    Takes client cause state (after.answer client it) := by
  unfold State.answer
  split
  · exact takes_respond _ same
  · rename_i notEncodable
    exact takes_escape (isCause (Bool.not_eq_true _ ▸ notEncodable)) same

omit [DecidableEq Client] in
theorem Takes.mono {weaker : Prop} (takes : Takes client cause state after)
    (implies : cause → weaker) : Takes client weaker state after :=
  ⟨takes.others, takes.turn.imp_right (And.imp_right implies)⟩

end Takes

/-- The file or the body has a token that cannot be read or be written to the
client. -/
def FileIsBad (settings : Settings) (file : CacheFile) : Prop :=
  FileTrips file ∨ ∃ document it, file = .text document ∧
    Grants settings.fromisoformat document it ∧ isEncodable it.token = false

/-- An answer that is no failed mint call but that does not lead to a
response either. -/
def AnswerIsBad (settings : Settings) (apiAnswer : ApiAnswer) (writes : Bool) : Prop :=
  ∃ body, apiAnswer = .response 201 body ∧
    (Trips body ∨ ∃ it, Grants settings.fromisoformat body it ∧
      (writes = false ∨ isEncodable it.token = false))

/-- The line asks for a token. -/
def IsRequest (raw : List UInt8) : Prop :=
  raw.length ≤ maxLineBytes ∧ (strip raw = bytes "get" ∨ strip raw = bytes "peek")

/-- The step meets an exception that nobody catches. -/
def IsBad (settings : Settings) (state : State Client) : Step Client → Prop
  | .readLine _ line => line = .raises ∨
      (∃ raw, line = .line raw ∧ IsRequest raw) ∧ FileIsBad settings state.file
  | .acquire _ =>
    FileIsBad settings state.file ∨ settings.installIdIsNumeric = false
  | .wake _ => settings.installIdIsNumeric = false
  | .reply _ apiAnswer writes => AnswerIsBad settings apiAnswer writes
  | .advance _ _ | .overwrite _ | .connect _ | .close _ => False

theorem Stage.not_hasEnded_queued : ¬ Stage.queued.HasEnded := by
  rintro (same | same) <;> cases same

theorem Stage.not_hasEnded_minting : ¬ Stage.minting.HasEnded := by
  rintro (same | same) <;> cases same

theorem Stage.not_hasEnded_sleeping (wake : ℚ) : ¬ (Stage.sleeping wake).HasEnded := by
  rintro (same | same) <;> cases same

theorem Stage.not_hasEnded_reading : ¬ Stage.reading.HasEnded := by
  rintro (same | same) <;> cases same

theorem takes_handOut {it : InstallationToken} {file : CacheFile}
    (returns : read settings.fromisoformat state.wall file = .ok (some it))
    (same : after.connection = state.connection) :
    Takes client (FileIsBad settings file) state (after.handOut client it) := by
  obtain ⟨document, isText, grants⟩ := grants_of_read returns
  apply takes_answer
  · intro notEncodable
    exact .inr ⟨document, it, isText, grants, notEncodable⟩
  · exact same

theorem takes_resolveToken : Takes client (FileIsBad settings state.file) state
      (resolveToken settings state client) := by
  unfold resolveToken
  cases returned : read settings.fromisoformat state.wall state.file with
  | error raised =>
    exact takes_escape (.inl (read_eq_error_iff.1 ⟨raised, returned⟩)) rfl
  | ok found =>
    cases found with
    | none => exact takes_setStage Stage.not_hasEnded_queued rfl
    | some cached =>
      dsimp only
      split
      · exact takes_setStage Stage.not_hasEnded_queued rfl
      · exact takes_handOut returned rfl

theorem takes_startMint : Takes client (settings.installIdIsNumeric = false) state
      (startMint settings state client) := by
  unfold startMint
  cases isNumeric : settings.installIdIsNumeric with
  | true => exact takes_setStage Stage.not_hasEnded_minting rfl
  | false => exact takes_escape rfl rfl

theorem takes_waitForFloor : Takes client (settings.installIdIsNumeric = false) state
      (waitForFloor settings state client) := by
  unfold waitForFloor
  dsimp only
  split
  · exact takes_setStage (Stage.not_hasEnded_sleeping _) rfl
  · exact takes_startMint

theorem takes_resolveLocked : Takes client (FileIsBad settings state.file ∨
      settings.installIdIsNumeric = false) state
      (resolveLocked settings state client) := by
  unfold resolveLocked
  cases returned : read settings.fromisoformat state.wall state.file with
  | error raised =>
    have trips := read_eq_error_iff.1 ⟨raised, returned⟩
    exact takes_escape (.inl (.inl trips)) rfl
  | ok found =>
    cases found with
    | none => exact takes_waitForFloor.mono .inr
    | some refreshed =>
      dsimp only
      split
      · exact takes_waitForFloor.mono .inr
      · apply Takes.mono _ Or.inl
        exact takes_handOut returned rfl

theorem mintResult_cases (fromisoformat : List Char → Option DateTime) (apiAnswer : ApiAnswer) :
    mintResult fromisoformat apiAnswer = .error mintError ∨ ∃ body, apiAnswer = .response 201 body ∧
        ((∃ it, mintResult fromisoformat apiAnswer = .ok it ∧
          Grants fromisoformat body it) ∨ Trips body) := by
  cases apiAnswer with
  | requestError => exact .inl rfl
  | streamError => exact .inl rfl
  | response status body =>
    unfold mintResult
    by_cases refused : status ≠ 201
    · exact .inl (if_pos refused)
    · dsimp only
      rw [if_neg refused]
      cases loaded : body.loads >>= parseToken fromisoformat with
      | ok it =>
        right
        refine ⟨body, ?_, .inl ⟨it, rfl, loads_parseToken_eq_ok.1 loaded⟩⟩
        rw [not_not.1 refused]
      | error raised =>
        dsimp only
        cases caught : isCaught raised with
        | true => exact .inl rfl
        | false =>
          right
          refine ⟨body, ?_, .inr ((loads_parseToken_raises loaded).1 caught)⟩
          rw [not_not.1 refused]

theorem takes_finishMint {apiAnswer : ApiAnswer} {writes : Bool} :
    Takes client (AnswerIsBad settings apiAnswer writes) state
      (finishMint settings state client apiAnswer writes) := by
  unfold finishMint
  rcases mintResult_cases settings.fromisoformat apiAnswer with
    failed | ⟨body, isAnswer, ⟨it, minted, grants⟩ | trips⟩
  · rw [failed]
    exact takes_respond _ rfl
  · rw [minted]
    cases writes with
    | true =>
      apply takes_answer
      · intro notEncodable
        exact ⟨body, isAnswer, .inr ⟨it, grants, .inr notEncodable⟩⟩
      · rfl
    | false =>
      have isCause : AnswerIsBad settings apiAnswer false :=
        ⟨body, isAnswer, .inr ⟨it, grants, .inl rfl⟩⟩
      exact takes_escape isCause rfl
  · have isCause : AnswerIsBad settings apiAnswer writes := ⟨body, isAnswer, .inl trips⟩
    split
    · split
      · exact takes_respond _ rfl
      · exact takes_escape isCause rfl
    · split
      · exact takes_answer (fun _ => isCause) rfl
      · exact takes_escape isCause rfl

theorem takes_handleLine (line : RequestLine) :
    Takes client (IsBad settings state (.readLine client line)) state
      (handleLine settings state client line) := by
  cases line with
  | timeout => exact takes_respond _ rfl
  | raises => exact takes_escape (.inl rfl) rfl
  | line raw =>
    unfold handleLine
    dsimp only
    split
    · exact takes_respond _ rfl
    · rename_i notLong
      split
      · rename_i asks
        have isRequest : IsRequest raw := ⟨Nat.le_of_not_lt notLong, asks⟩
        exact takes_resolveToken.mono fun isBad =>
          .inr ⟨⟨raw, rfl, isRequest⟩, isBad⟩
      · exact takes_respond _ rfl

theorem step_takes {action : Step Client} (steps : step settings state action = some after) :
    after.connection = state.connection ∨ ∃ client, ¬ (state.connection client).stage.HasEnded ∧
          Takes client (IsBad settings state action) state after ∨
        (state.connection client).stage = .answered ∧ after = state.setStage client .closed := by
  unfold step at steps
  cases action with
  | advance clock wall =>
    dsimp only at steps
    split at steps
    · cases steps
      exact .inl rfl
    · cases steps
  | overwrite file =>
    cases steps
    exact .inl rfl
  | connect client =>
    dsimp only at steps
    split at steps
    · rename_i isAbsent
      cases steps
      refine .inr ⟨client, .inl ⟨?_, ?_⟩⟩
      · rw [isAbsent]
        rintro (same | same) <;> cases same
      · exact takes_setStage Stage.not_hasEnded_reading rfl
    · cases steps
  | readLine client line =>
    dsimp only at steps
    split at steps
    · rename_i isReading
      cases steps
      refine .inr ⟨client, .inl ⟨?_, takes_handleLine line⟩⟩
      rw [isReading]
      exact Stage.not_hasEnded_reading
    · cases steps
  | acquire client =>
    dsimp only at steps
    split at steps
    · rename_i isQueued
      cases steps
      refine .inr ⟨client, .inl ⟨?_, ?_⟩⟩
      · rw [isQueued.1]
        exact Stage.not_hasEnded_queued
      · have takes := @takes_resolveLocked _ _ settings { state with lock := some client } client
        exact ⟨takes.others, takes.turn⟩
    · cases steps
  | wake client =>
    dsimp only at steps
    split at steps
    · rename_i wake isSleeping
      split at steps
      · cases steps
        refine .inr ⟨client, .inl ⟨?_, takes_startMint⟩⟩
        rw [isSleeping]
        exact Stage.not_hasEnded_sleeping wake
      · cases steps
    · cases steps
  | reply client apiAnswer writes =>
    dsimp only at steps
    split at steps
    · rename_i isMinting
      cases steps
      refine .inr ⟨client, .inl ⟨?_, takes_finishMint⟩⟩
      rw [isMinting]
      exact Stage.not_hasEnded_minting
    · cases steps
  | close client =>
    dsimp only at steps
    split at steps
    · rename_i isAnswered
      cases steps
      exact .inr ⟨client, .inr ⟨isAnswered, rfl⟩⟩
    · cases steps

/-! ## One response -/

/-- A connection has a response only when its handler has ended, and has no
two. -/
def Connection.Modest (connection : Connection) : Prop := connection.responses.length ≤ 1 ∧
    (¬ connection.stage.HasEnded → connection.responses = [])

theorem modest_of_turn {before : Connection} {connection : Connection}
    (modest : before.Modest) (runs : ¬ before.stage.HasEnded)
    (turn : Turn before connection) : connection.Modest := by
  cases turn with
  | goesOn stage notEnded => exact ⟨modest.1, fun _ => modest.2 runs⟩
  | answers response =>
    rw [Connection.Modest, modest.2 runs]
    exact ⟨Nat.le_refl 1, fun notEnded => absurd (.inl rfl) notEnded⟩

theorem modest_of_reachable (reached : (system settings Client).Reachable state) (client : Client) :
    (state.connection client).Modest := by
  revert client
  apply reached.invariant
  · rintro initial ⟨-, -, fresh, -⟩ client
    rw [fresh client]
    exact ⟨Nat.zero_le 1, fun _ => rfl⟩
  · intro before action later modest _ steps client
    rcases step_takes steps with same | ⟨actor, ⟨runs, takes⟩ | ⟨ended, rfl⟩⟩
    · rw [same]
      exact modest client
    · by_cases isActor : client = actor
      · rw [isActor]
        rcases takes.turn with turn | ⟨escapes, -⟩
        · exact modest_of_turn (modest actor) runs turn
        · rw [escapes]
          exact ⟨(modest actor).1, fun notEnded => absurd (.inr rfl) notEnded⟩
      · rw [takes.others client isActor]
        exact modest client
    · by_cases isActor : client = actor
      · rw [isActor, State.connection_setStage_self]
        exact ⟨(modest actor).1, fun notEnded => absurd (.inr rfl) notEnded⟩
      · rw [State.connection_setStage_of_ne _ _ isActor]
        exact modest client

theorem responses_ne_nil_of_turn {before connection : Connection}
    (turn : Turn before connection) (ended : connection.stage.HasEnded) :
    connection.responses ≠ [] := by
  cases turn with
  | goesOn stage notEnded => exact absurd ended notEnded
  | answers response =>
    exact List.append_ne_nil_of_right_ne_nil _ (List.cons_ne_nil response [])

theorem responses_ne_nil_of_reachableWithin (reached : (system settings Client).ReachableWithin
      (fun state action => ¬ IsBad settings state action) state)
    (client : Client) (ended : (state.connection client).stage.HasEnded) :
    (state.connection client).responses ≠ [] := by
  revert client
  apply reached.invariant
  · rintro initial ⟨-, -, fresh, -⟩ client ended
    rw [fresh client] at ended
    rcases ended with same | same <;> cases same
  · intro before action later answered notBad steps client
    rcases step_takes steps with same | ⟨actor, ⟨runs, takes⟩ | ⟨ended, rfl⟩⟩
    · rw [same]
      exact answered client
    · by_cases isActor : client = actor
      · rw [isActor]
        rcases takes.turn with turn | ⟨-, bad⟩
        · exact responses_ne_nil_of_turn turn
        · exact absurd bad notBad
      · rw [takes.others client isActor]
        exact answered client
    · by_cases isActor : client = actor
      · rw [isActor, State.connection_setStage_self]
        exact fun _ => answered actor (.inl ended)
      · rw [State.connection_setStage_of_ne _ _ isActor]
        exact answered client

/-! ## Tokens of the cache -/

/-- The token had enough time left when it was handed out. -/
def Handed.IsFresh (handed : Handed) : Prop :=
  minTokenTtlSeconds * 1000000 ≤ handed.token.remaining handed.handedAt

theorem handed_answer (it : InstallationToken) :
    (state.answer client it).handed = state.handed := by
  unfold State.answer
  split <;> rfl

theorem isFresh_handOut {it : InstallationToken} (fresh : ∀ handed ∈ state.handed, handed.IsFresh)
    (notNear : ¬ it.isNearExpiry state.wall minTokenTtlSeconds = true) :
    ∀ handed ∈ (state.handOut client it).handed, handed.IsFresh := by
  unfold State.handOut
  rw [handed_answer]
  intro handed member
  rcases List.mem_cons.1 member with rfl | earlier
  · unfold InstallationToken.isNearExpiry at notNear
    rw [decide_eq_true_eq] at notNear
    exact Int.not_lt.1 notNear
  · exact fresh handed earlier

theorem handed_startMint : (startMint settings state client).handed = state.handed := by
  unfold startMint
  dsimp only
  split <;> rfl

theorem handed_waitForFloor : (waitForFloor settings state client).handed = state.handed := by
  unfold waitForFloor
  dsimp only
  split
  · rfl
  · exact handed_startMint

theorem isFresh_resolveToken (fresh : ∀ handed ∈ state.handed, handed.IsFresh) :
    ∀ handed ∈ (resolveToken settings state client).handed,
      handed.IsFresh := by
  unfold resolveToken
  split
  · exact fresh
  · exact fresh
  · split
    · exact fresh
    · rename_i notNear
      exact isFresh_handOut fresh notNear

theorem isFresh_resolveLocked (fresh : ∀ handed ∈ state.handed, handed.IsFresh) :
    ∀ handed ∈ (resolveLocked settings state client).handed,
      handed.IsFresh := by
  unfold resolveLocked
  split
  · exact fresh
  · rw [handed_waitForFloor]
    exact fresh
  · split
    · rw [handed_waitForFloor]
      exact fresh
    · rename_i notNear
      exact isFresh_handOut fresh notNear

theorem handed_finishMint {apiAnswer : ApiAnswer} {writes : Bool} :
    (finishMint settings state client apiAnswer writes).handed =
      state.handed := by
  unfold finishMint
  split
  · split <;> rfl
  · split
    · rw [handed_answer]
      rfl
    · rfl

theorem isFresh_of_reachable (reached : (system settings Client).Reachable state) :
    ∀ handed ∈ state.handed, handed.IsFresh := by
  apply reached.invariant
  · rintro initial ⟨-, -, -, -, none⟩ handed member
    rw [none] at member
    cases member
  · intro before action later fresh _ steps
    change step settings before action = some later at steps
    unfold step at steps
    cases action with
    | overwrite file =>
      cases steps
      exact fresh
    | readLine client line =>
      dsimp only at steps
      split at steps
      · cases steps
        unfold handleLine
        split
        · exact fresh
        · exact fresh
        · split
          · exact fresh
          · split
            · exact isFresh_resolveToken fresh
            · exact fresh
      · cases steps
    | acquire client =>
      dsimp only at steps
      split at steps
      · cases steps
        apply isFresh_resolveLocked
        exact fresh
      · cases steps
    | wake client =>
      dsimp only at steps
      split at steps
      · split at steps
        · cases steps
          rw [handed_startMint]
          exact fresh
        · cases steps
      · cases steps
    | reply client apiAnswer writes =>
      dsimp only at steps
      split at steps
      · cases steps
        rw [handed_finishMint]
        exact fresh
      · cases steps
    | _ =>
      dsimp only at steps
      split at steps
      · cases steps
        exact fresh
      · cases steps

/-! ## The floor -/

structure Paced (settings : Settings) (state : State Client) : Prop where
  spaced : state.mintStarts.Pairwise fun later earlier =>
    earlier + settings.minInterval ≤ later
  started : ∀ start ∈ state.mintStarts, start ≤ state.clock
  owned : ∀ client, (state.connection client).stage.HoldsLock → state.lock = some client
  marked : (∀ client, (state.connection client).stage ≠ .minting) →
    ∀ start ∈ state.mintStarts, start ≤ state.lastRelease
  sleeping : ∀ client wake, (state.connection client).stage = .sleeping wake →
    state.lastRelease + settings.minInterval ≤ wake

/-- Only the connection of the client changes, and the lock, if it has it. -/
structure Leaves (client : Client) (state after : State Client) : Prop where
  clock : after.clock = state.clock
  starts : after.mintStarts = state.mintStarts
  others : ∀ other, other ≠ client → after.connection other = state.connection other
  lock : after.lock = state.lock ∨ state.lock = some client

/-- Moreover the handler is not, or not any more, under the lock. -/
structure Calms (client : Client) (state after : State Client) : Prop
    extends Leaves client state after where
  mark : after.lastRelease = state.lastRelease
  notHolding : ¬ (after.connection client).stage.HoldsLock

section Floor

omit [DecidableEq Client] in
theorem Leaves.refl : Leaves client state state := ⟨rfl, rfl, fun _ _ => rfl, .inl rfl⟩

omit [DecidableEq Client] in
theorem Leaves.release (isOwner : state.lock = some client) : Leaves client state state.release :=
  ⟨rfl, rfl, fun _ _ => rfl, .inr isOwner⟩

theorem Stage.not_holdsLock_of_hasEnded {stage : Stage}
    (ended : stage.HasEnded) : ¬ stage.HoldsLock := by
  rintro (rfl | ⟨wake, rfl⟩)
  · exact Stage.not_hasEnded_minting ended
  · exact Stage.not_hasEnded_sleeping wake ended

theorem Leaves.setStage {middle : State Client}
    (leaves : Leaves client state middle) (stage : Stage) :
    Leaves client state (middle.setStage client stage) := by
  refine ⟨leaves.clock, leaves.starts, ?_, leaves.lock⟩
  intro other different
  rw [State.connection_setStage_of_ne _ _ different]
  exact leaves.others other different

theorem Leaves.calms_setStage {middle : State Client} (leaves : Leaves client state middle)
    (mark : middle.lastRelease = state.lastRelease) {stage : Stage}
    (notHolding : ¬ stage.HoldsLock) :
    Calms client state (middle.setStage client stage) := by
  refine ⟨leaves.setStage stage, mark, ?_⟩
  rw [State.connection_setStage_self]
  exact notHolding

theorem Leaves.calms_escape {middle : State Client} (leaves : Leaves client state middle)
    (mark : middle.lastRelease = state.lastRelease) :
    Calms client state (middle.escape client) :=
  leaves.calms_setStage mark (Stage.not_holdsLock_of_hasEnded (.inr rfl))

theorem Leaves.calms_respond {middle : State Client} (leaves : Leaves client state middle)
    (mark : middle.lastRelease = state.lastRelease) (response : Response) :
    Calms client state (middle.respond client response) := by
  refine ⟨⟨leaves.clock, leaves.starts, ?_, leaves.lock⟩, mark, ?_⟩
  · intro other different
    rw [← leaves.others other different]
    exact Function.update_of_ne different ..
  · rw [State.connection_respond]
    exact Stage.not_holdsLock_of_hasEnded (.inl rfl)

theorem Leaves.calms_answer {middle : State Client} (leaves : Leaves client state middle)
    (mark : middle.lastRelease = state.lastRelease) (it : InstallationToken) :
    Calms client state (middle.answer client it) := by
  unfold State.answer
  split
  · exact leaves.calms_respond mark _
  · exact leaves.calms_escape mark

theorem Leaves.calms_handOut {middle : State Client} (leaves : Leaves client state middle)
    (mark : middle.lastRelease = state.lastRelease) (it : InstallationToken) :
    Calms client state (middle.handOut client it) := by
  have records : Leaves client state { middle with handed := ⟨it, middle.wall⟩ :: middle.handed } :=
    ⟨leaves.clock, leaves.starts, leaves.others, leaves.lock⟩
  exact records.calms_answer mark it

omit [DecidableEq Client] in
theorem Leaves.owned (leaves : Leaves client state after) (paced : Paced settings state)
    {other : Client} (different : other ≠ client)
    (holds : (after.connection other).stage.HoldsLock) :
    after.lock = some other := by
  rw [leaves.others other different] at holds
  have isOwner := paced.owned other holds
  rcases leaves.lock with same | isClient
  · rw [same, isOwner]
  · rw [isClient] at isOwner
    exact absurd (Option.some.inj isOwner).symm different

theorem paced_of_calms (paced : Paced settings state)
    (notMinting : (state.connection client).stage ≠ .minting)
    (calms : Calms client state after) : Paced settings after := by
  constructor
  · rw [calms.starts]
    exact paced.spaced
  · rw [calms.starts, calms.clock]
    exact paced.started
  · intro other holds
    by_cases isClient : other = client
    · rw [isClient] at holds
      exact absurd holds calms.notHolding
    · exact calms.toLeaves.owned paced isClient holds
  · intro nobody
    rw [calms.starts, calms.mark]
    apply paced.marked
    intro other
    by_cases isClient : other = client
    · rw [isClient]
      exact notMinting
    · rw [← calms.others other isClient]
      exact nobody other
  · intro other wake isSleeping
    rw [calms.mark]
    by_cases isClient : other = client
    · rw [isClient] at isSleeping
      exact absurd (.inr ⟨wake, isSleeping⟩) calms.notHolding
    · rw [calms.others other isClient] at isSleeping
      exact paced.sleeping other wake isSleeping

omit [DecidableEq Client] in
theorem Paced.starts_le (paced : Paced settings state) (isOwner : state.lock = some client)
    (notMinting : (state.connection client).stage ≠ .minting) :
    ∀ start ∈ state.mintStarts, start ≤ state.lastRelease := by
  apply paced.marked
  intro other isMinting
  have otherOwner := paced.owned other (.inl isMinting)
  rw [isOwner] at otherOwner
  rw [← Option.some.inj otherOwner] at isMinting
  exact notMinting isMinting

theorem paced_startMint (paced : Paced settings state)
    (isNumeric : settings.installIdIsNumeric = true)
    (isOwner : state.lock = some client)
    (notMinting : (state.connection client).stage ≠ .minting)
    (elapsed : state.lastRelease + settings.minInterval ≤ state.clock) :
    Paced settings (startMint settings state client) := by
  have before := paced.starts_le isOwner notMinting
  unfold startMint
  dsimp only
  rw [if_pos isNumeric]
  constructor
  · refine List.pairwise_cons.2 ⟨?_, paced.spaced⟩
    intro earlier member
    exact le_trans (add_le_add_left (before earlier member) _) elapsed
  · intro start member
    rcases List.mem_cons.1 member with rfl | earlier
    · exact le_refl _
    · exact paced.started start earlier
  · intro other holds
    by_cases isClient : other = client
    · rw [isClient]
      exact isOwner
    · rw [State.connection_setStage_of_ne _ _ isClient] at holds
      exact paced.owned other holds
  · intro nobody
    have isMinting := nobody client
    rw [State.connection_setStage_self] at isMinting
    exact absurd rfl isMinting
  · intro other wake isSleeping
    by_cases isClient : other = client
    · rw [isClient, State.connection_setStage_self] at isSleeping
      cases isSleeping
    · rw [State.connection_setStage_of_ne _ _ isClient] at isSleeping
      exact paced.sleeping other wake isSleeping

theorem paced_waitForFloor (paced : Paced settings state)
    (isNumeric : settings.installIdIsNumeric = true)
    (isOwner : state.lock = some client)
    (notMinting : (state.connection client).stage ≠ .minting) :
    Paced settings (waitForFloor settings state client) := by
  unfold waitForFloor
  dsimp only
  split
  · constructor
    · exact paced.spaced
    · exact paced.started
    · intro other holds
      by_cases isClient : other = client
      · rw [isClient]
        exact isOwner
      · rw [State.connection_setStage_of_ne _ _ isClient] at holds
        exact paced.owned other holds
    · exact fun _ => paced.starts_le isOwner notMinting
    · intro other wake isSleeping
      by_cases isClient : other = client
      · rw [isClient, State.connection_setStage_self] at isSleeping
        cases isSleeping
        change state.lastRelease + settings.minInterval ≤ _
        exact le_of_eq (by ring)
      · rw [State.connection_setStage_of_ne _ _ isClient] at isSleeping
        exact paced.sleeping other wake isSleeping
  · rename_i notShort
    apply paced_startMint paced isNumeric isOwner notMinting
    linarith [not_lt.1 notShort]

theorem paced_resolveLocked (paced : Paced settings state)
    (isNumeric : settings.installIdIsNumeric = true)
    (isOwner : state.lock = some client)
    (notMinting : (state.connection client).stage ≠ .minting) :
    Paced settings (resolveLocked settings state client) := by
  have released := Leaves.release isOwner
  unfold resolveLocked
  split
  · exact paced_of_calms paced notMinting (released.calms_escape rfl)
  · exact paced_waitForFloor paced isNumeric isOwner notMinting
  · split
    · exact paced_waitForFloor paced isNumeric isOwner notMinting
    · exact paced_of_calms paced notMinting (released.calms_handOut rfl _)

theorem paced_resolveToken (paced : Paced settings state)
    (notMinting : (state.connection client).stage ≠ .minting) :
    Paced settings (resolveToken settings state client) := by
  have queues : Calms client state (state.setStage client .queued) :=
    Leaves.refl.calms_setStage rfl (by rintro (same | ⟨_, same⟩) <;> cases same)
  unfold resolveToken
  apply paced_of_calms paced notMinting
  split
  · exact Leaves.refl.calms_escape rfl
  · exact queues
  · split
    · exact queues
    · exact Leaves.refl.calms_handOut rfl _

theorem paced_handleLine (paced : Paced settings state)
    (notMinting : (state.connection client).stage ≠ .minting)
    (line : RequestLine) :
    Paced settings (handleLine settings state client line) := by
  have responds (message : String) : Paced settings (state.respond client (.error message)) :=
    paced_of_calms paced notMinting (Leaves.refl.calms_respond rfl _)
  unfold handleLine
  split
  · exact responds _
  · exact paced_of_calms paced notMinting (Leaves.refl.calms_escape rfl)
  · split
    · exact responds _
    · split
      · exact paced_resolveToken paced notMinting
      · exact responds _

/-- The mint call returns a token, and the token gets into the cache. -/
def Succeeds (settings : Settings) (apiAnswer : ApiAnswer) (writes : Bool) :
    Prop :=
  (∃ body it, apiAnswer = .response 201 body ∧
    Grants settings.fromisoformat body it) ∧ writes = true

theorem mintResult_of_grants {fromisoformat : List Char → Option DateTime}
    {body : Document} {it : InstallationToken}
    (grants : Grants fromisoformat body it) :
    mintResult fromisoformat (.response 201 body) = .ok it := by
  unfold mintResult
  dsimp only
  rw [if_neg (not_not.2 rfl), loads_parseToken_eq_ok.2 grants]

theorem paced_finishMint (paced : Paced settings state)
    (isMinting : (state.connection client).stage = .minting)
    {apiAnswer : ApiAnswer} {writes : Bool}
    (succeeds : Succeeds settings apiAnswer writes) :
    Paced settings (finishMint settings state client apiAnswer writes) := by
  obtain ⟨⟨body, it, rfl, grants⟩, rfl⟩ := succeeds
  have isOwner := paced.owned client (.inl isMinting)
  unfold finishMint
  rw [mintResult_of_grants grants]
  dsimp only
  rw [if_pos rfl]
  have leaves : Leaves client (state.store it).release (state.store it).release := .refl
  have calms := leaves.calms_answer rfl it
  have nobody (other : Client) : ¬ (((state.store it).release.answer client
      it).connection other).stage.HoldsLock := by
    intro holds
    by_cases isClient : other = client
    · rw [isClient] at holds
      exact calms.notHolding holds
    · rw [calms.others other isClient] at holds
      have otherOwner := paced.owned other holds
      rw [isOwner] at otherOwner
      exact isClient (Option.some.inj otherOwner).symm
  constructor
  · rw [calms.starts]
    exact paced.spaced
  · rw [calms.starts, calms.clock]
    exact paced.started
  · exact fun other holds => absurd holds (nobody other)
  · intro _
    rw [calms.starts, calms.mark]
    exact paced.started
  · exact fun other wake same => absurd (.inr ⟨wake, same⟩) (nobody other)

end Floor

/-- No mint call of the step fails. -/
def Mints (settings : Settings) (_ : State Client) : Step Client → Prop
  | .acquire _ | .wake _ => settings.installIdIsNumeric = true
  | .reply _ apiAnswer writes => Succeeds settings apiAnswer writes
  | .advance _ _ | .overwrite _ | .connect _ | .readLine _ _ | .close _ => True

theorem paced_of_reachableWithin
    (reached : (system settings Client).ReachableWithin (Mints settings)
      state) : Paced settings state := by
  apply reached.invariant
  · rintro initial ⟨-, free, fresh, none, -⟩
    constructor
    · rw [none]
      exact .nil
    · rw [none]
      exact fun _ absent => absurd absent List.not_mem_nil
    · intro client holds
      rw [fresh client] at holds
      rcases holds with same | ⟨_, same⟩ <;> cases same
    · rw [none]
      exact fun _ _ absent => absurd absent List.not_mem_nil
    · intro client wake isSleeping
      rw [fresh client] at isSleeping
      cases isSleeping
  · intro before action later paced mints steps
    change step settings before action = some later at steps
    unfold step at steps
    cases action with
    | advance clock wall =>
      dsimp only at steps
      split at steps
      · rename_i goesOn
        cases steps
        exact { paced with
          started := fun start member =>
            le_trans (paced.started start member) goesOn }
      · cases steps
    | overwrite file =>
      cases steps
      exact { paced with }
    | connect client =>
      dsimp only at steps
      split at steps
      · rename_i isAbsent
        cases steps
        apply paced_of_calms paced
        · rw [isAbsent]
          exact Stage.noConfusion
        · apply Leaves.refl.calms_setStage rfl
          rintro (same | ⟨_, same⟩) <;> cases same
      · cases steps
    | readLine client line =>
      dsimp only at steps
      split at steps
      · rename_i isReading
        cases steps
        apply paced_handleLine paced
        rw [isReading]
        exact Stage.noConfusion
      · cases steps
    | acquire client =>
      dsimp only at steps
      split at steps
      · rename_i isQueued
        cases steps
        have locked : Paced settings { before with lock := some client } := by
          refine { paced with owned := ?_ }
          intro other holds
          have isOwner := paced.owned other holds
          rw [isQueued.2] at isOwner
          cases isOwner
        apply paced_resolveLocked locked mints rfl
        rw [isQueued.1]
        exact Stage.noConfusion
      · cases steps
    | wake client =>
      dsimp only at steps
      split at steps
      · rename_i wake isSleeping
        split at steps
        · rename_i slept
          cases steps
          apply paced_startMint paced mints (paced.owned client (.inr ⟨wake, isSleeping⟩))
          · rw [isSleeping]
            exact Stage.noConfusion
          · exact le_trans (paced.sleeping client wake isSleeping) slept
        · cases steps
      · cases steps
    | reply client apiAnswer writes =>
      dsimp only at steps
      split at steps
      · rename_i isMinting
        cases steps
        exact paced_finishMint paced isMinting mints
      · cases steps
    | close client =>
      dsimp only at steps
      split at steps
      · rename_i isAnswered
        cases steps
        apply paced_of_calms paced
        · rw [isAnswered]
          exact Stage.noConfusion
        · exact Leaves.refl.calms_setStage rfl (Stage.not_holdsLock_of_hasEnded (.inr rfl))
      · cases steps

end Code

/-- Tokens of the cache have enough time left and no connection gets two
responses.  Mint calls keep the interval if none of them fails; every closed
connection has its response if nothing bad is met; and a file without a token
is a cold cache exactly if it does not trip. -/
theorem dispenser_keeps_floor_and_answers (settings : Settings)
    (Client : Type) [DecidableEq Client] :
    (∀ state, (system settings Client).Reachable state → (∀ handed ∈ state.handed, handed.IsFresh) ∧
        ∀ client, (state.connection client).responses.length ≤ 1) ∧
      (∀ state, (system settings Client).ReachableWithin (Mints settings) state →
          state.mintStarts.Pairwise fun later earlier =>
            earlier + settings.minInterval ≤ later) ∧
      (∀ state, (system settings Client).ReachableWithin
          (fun state action => ¬ IsBad settings state action) state →
        ∀ client, (state.connection client).stage = .closed →
          ∃ response, (state.connection client).responses = [response]) ∧
      ∀ file now, ¬ IsWarm settings.fromisoformat file →
        (read settings.fromisoformat now file = .ok none ↔ ¬ FileTrips file) := by
  refine ⟨?_, ?_, ?_, ?_⟩
  · intro state reached
    exact ⟨isFresh_of_reachable reached,
      fun client => (modest_of_reachable reached client).1⟩
  · intro state reached
    exact (paced_of_reachableWithin reached).spaced
  · intro state reached client isClosed
    have atMost := (modest_of_reachable reached.reachable client).1
    have notNil := responses_ne_nil_of_reachableWithin reached client (.inr isClosed)
    exact List.length_eq_one_iff.1 (Nat.le_antisymm atMost (List.length_pos_iff.2 notNil))
  · intro file now cold
    exact read_eq_none_iff cold

section Example

/-- `datetime.fromisoformat` on the texts of `isoformat`. -/
def readIsoformat (characters : List Char) : Option DateTime :=
  (TimeFields.fromisoformat characters).bind fun time =>
    if valid : time.Valid then some ⟨time, valid⟩ else none

def exampleSettings : Settings :=
  { minInterval := 10
    installIdIsNumeric := true
    fromisoformat := readIsoformat }

def exampleStart (file : CacheFile) : State Bool :=
  { clock := 0
    wall := 1000000000000000000
    file := file
    lastRelease := -10 }

theorem isInitial_exampleStart (file : CacheFile) : IsInitial exampleSettings (exampleStart file) :=
  ⟨rfl, rfl, fun _ => rfl, rfl, rfl⟩

def numberFile : CacheFile :=
  .text (.value (.obj [(.text "token", .int 1), (.text "expires_at", .int 2)]))

def request (client : Bool) : List (Step Bool) :=
  [.connect client, .readLine client (.line (bytes "get")), .acquire client]

/-- A failed mint call is followed by the next one at once; and a cache file
whose token expires at a number closes the connection without a response. -/
theorem exists_mints_at_once_and_silence :
    (∃ state : State Bool, (system exampleSettings Bool).Reachable state ∧
      ¬ state.mintStarts.Pairwise fun later earlier =>
        earlier + exampleSettings.minInterval ≤ later) ∧
    (∃ state : State Bool, (system exampleSettings Bool).Reachable state ∧
      (state.connection true).stage = .closed ∧ (state.connection true).responses = []) ∧
    ∃ file, read readIsoformat 0 file ≠ .ok none ∧
      ¬ ∃ it, read readIsoformat 0 file = .ok (some it) := by
  refine ⟨?_, ?_, ?_⟩
  · exact TransitionSystem.exists_reachable_of_run
      (exampleStart .unreadable) (isInitial_exampleStart _)
      (request true ++ [.reply true (.response 500 .malformed) true] ++
        request false) (by decide +kernel)
  · exact TransitionSystem.exists_reachable_of_run
      (exampleStart numberFile) (isInitial_exampleStart _)
      [.connect true, .readLine true (.line (bytes "get"))] (by decide)
  · refine ⟨numberFile, ?_, ?_⟩
    · intro same
      cases same
    · rintro ⟨it, same⟩
      cases same

def tokenBody : Document := .value (.obj [(.text "token", .ofString "t"),
    (.text "expires_at", .ofString "2026-01-01T00:00:00Z")])

theorem succeeds_tokenBody :
    Succeeds exampleSettings (.response 201 tokenBody) true := by
  have returns : (tokenBody.loads >>= parseToken readIsoformat).isOk = true := by
    decide
  cases loaded : tokenBody.loads >>= parseToken readIsoformat with
  | error raised =>
    rw [loaded] at returns
    cases returns
  | ok it => exact ⟨⟨tokenBody, it, rfl, loads_parseToken_eq_ok.1 loaded⟩, rfl⟩

theorem mints_request (client : Bool) :
    ∀ action ∈ request client, ∀ state, Mints exampleSettings state action := by
  intro action member state
  rcases List.mem_cons.1 member with rfl | member
  · trivial
  · rcases List.mem_cons.1 member with rfl | member
    · trivial
    · rw [List.mem_singleton.1 member]
      rfl

def exampleActions : List (Step Bool) :=
  request true ++ ([.reply true (.response 201 tokenBody) true] ++
    (request false ++ [.advance 10 1000000000000000000, .wake false]))

theorem mints_exampleActions :
    ∀ action ∈ exampleActions, ∀ state, Mints exampleSettings state action := by
  intro action member state
  rcases List.mem_append.1 member with first | member
  · exact mints_request true action first state
  · rcases List.mem_append.1 member with reply | member
    · rw [List.mem_singleton.1 reply]
      exact succeeds_tokenBody
    · rcases List.mem_append.1 member with second | member
      · exact mints_request false action second state
      · rcases List.mem_cons.1 member with rfl | wakes
        · trivial
        · rw [List.mem_singleton.1 wakes]
          rfl

theorem exists_two_paced_mints : ∃ state : State Bool, state.mintStarts = [10, 0] ∧
      state.mintStarts.Pairwise fun later earlier =>
        earlier + exampleSettings.minInterval ≤ later := by
  have ends : ((system exampleSettings Bool).run (exampleStart .unreadable)
      exampleActions).any (fun after => decide (after.mintStarts = [10, 0])) =
        true := by
    decide +kernel
  obtain ⟨state, runs, starts⟩ := (Option.any_eq_true _ _).1 ends
  have reached : (system exampleSettings Bool).ReachableWithin (Mints exampleSettings) state :=
    .of_run (.start (isInitial_exampleStart _)) exampleActions mints_exampleActions runs
  exact ⟨state, of_decide_eq_true starts,
    (dispenser_keeps_floor_and_answers exampleSettings Bool).2.1 state reached⟩

end Example

end TokenDispenser

end RoxabiFactory
