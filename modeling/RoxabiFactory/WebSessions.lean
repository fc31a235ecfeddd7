import Mathlib.Data.Fintype.Basic
import Mathlib.Logic.Function.Basic
import RoxabiFactory.TransitionSystem
import RoxabiFactory.WebFormatter

/-!
# Browser sessions

A chat post sets the format of its session, starts a turn and returns a token.
The events of the turn go into the queue of the session, which is made on
demand, and the stream that is opened with the token takes them out again.  The
end of any stream of a session takes the session out of the hub and revokes all
tokens of the session.
-/

namespace RoxabiFactory

namespace Web

/-- `WebSession`; each event is marked with the turn that has published it. -/
structure Session (Turn : Type) where
  queue : List (Turn × WebEvent) := []
  streamFormat : StreamFormat := .legacy

/-- `asyncio.Queue(maxsize=512)`. -/
def maxsize : ℕ := 512

/-- `publish` into a session of the hub, which is not closed: a full queue
drops the event, or its oldest event when the new one closes the stream. -/
def Session.publish {Turn : Type} (turn : Turn) (session : Session Turn)
    (event : WebEvent) : Session Turn :=
  if session.queue.length < maxsize then
    { session with queue := session.queue ++ [(turn, event)] }
  else if isStreamTerminal event session.streamFormat then
    { session with queue := session.queue.tail ++ [(turn, event)] }
  else session

/-- `_web_backpressure`. -/
def refusal (format : StreamFormat) (text : String) : WebEvent :=
  match format with
  | .agui => runError text
  | .legacy => error text

/-- An accepted chat post.  `published` is what its turn has published, and
`closed` tells that a stream of the post has been cleaned up. -/
structure Post where
  session : String
  format : StreamFormat
  formatter : Formatter := {}
  minted : Bool := false
  finished : Bool := false
  published : List WebEvent := []
  closed : Bool := false

inductive Phase
  /-- The response has been made, and its generator has not started. -/
  | opened
  | running
  /-- The generator is at its `finally`. -/
  | finishing
  | ended
  /-- The client went before the generator started. -/
  | dropped
  deriving DecidableEq

/-- A stream that a token has opened.  `closings` tells which session object
the generator holds: the number of session objects of its id that had been
closed before. -/
structure Stream (Turn : Type) where
  turn : Turn
  session : String
  format : StreamFormat
  closings : ℕ
  phase : Phase := .opened
  received : List (Turn × WebEvent) := []
  /-- The client has disconnected from the running stream. -/
  left : Bool := false

/-- The stream may still take events out of its session, or end it. -/
def Stream.Live {Turn : Type} (stream : Stream Turn) : Prop :=
  stream.phase ≠ .ended ∧ stream.phase ≠ .dropped

instance {Turn : Type} (stream : Stream Turn) : Decidable stream.Live := inferInstanceAs
    (Decidable (stream.phase ≠ .ended ∧ stream.phase ≠ .dropped))

structure State (Turn Client : Type) where
  sessions : String → Option (Session Turn) := fun _ => none
  closings : String → ℕ := fun _ => 0
  posts : Turn → Option Post := fun _ => none
  /-- The token of the post is registered. -/
  tokens : Turn → Bool := fun _ => false
  streams : Client → Option (Stream Turn) := fun _ => none

inductive Action (Turn Client : Type)
  | post (turn : Turn) (session : String) (format : StreamFormat)
  /-- The post returns its token. -/
  | mint (turn : Turn)
  /-- The inbound pipeline refuses the message of a post. -/
  | refuse (turn : Turn) (text : String)
  /-- The formatter of a turn is called. -/
  | call (turn : Turn) (call : Call)
  | openStream (client : Client) (session : String) (turn : Turn) (format : StreamFormat)
  | start (client : Client)
  | read (client : Client)
  /-- The wait for an event times out. -/
  | ping (client : Client)
  | disconnect (client : Client)
  /-- The `finally` of a generator. -/
  | cleanup (client : Client)

variable {Turn Client : Type} [DecidableEq Turn] [DecidableEq Client]

namespace State

variable (state : State Turn Client)

/-- `get_or_create`. -/
def session (id : String) : Session Turn := (state.sessions id).getD {}

def setSession (id : String) (session : Session Turn) : State Turn Client :=
  { state with sessions := Function.update state.sessions id (some session) }

def setPost (turn : Turn) (post : Post) : State Turn Client :=
  { state with posts := Function.update state.posts turn (some post) }

def setStream (client : Client) (stream : Stream Turn) : State Turn Client :=
  { state with streams := Function.update state.streams client (some stream) }

/-- The events of a turn go into its session. -/
def publish (turn : Turn) (post : Post) (events : List WebEvent) : State Turn Client :=
  let session := state.session post.session
  (state.setSession post.session (events.foldl (Session.publish turn) session)).setPost turn
    { post with
      finished := closes session.streamFormat events
      published := post.published ++ events }

/-- `close` and `revoke`. -/
def close (id : String) : State Turn Client :=
  { state with
    sessions := Function.update state.sessions id none
    closings := Function.update state.closings id
      (state.closings id + if (state.sessions id).isSome then 1 else 0)
    tokens := fun turn => state.tokens turn &&
      !(state.posts turn).any fun post => post.session = id }

/-- The generator takes the next event, when its session is not closed. -/
def read (client : Client) (stream : Stream Turn) : Option (State Turn Client) :=
  if stream.closings = state.closings stream.session then
    match state.sessions stream.session with
    | none => none
    | some session =>
      match session.queue with
      | [] => none
      | item :: rest =>
        some ((state.setSession stream.session { session with queue := rest }).setStream client
            { stream with
              received := stream.received ++ [item]
              phase := if isStreamTerminal item.2 stream.format
                then .finishing else .running })
  else none

/-- `stream`: the token is verified, then the session is looked up, then the
format is compared. -/
def openStream (client : Client) (id : String) (turn : Turn)
    (format : StreamFormat) : State Turn Client :=
  if state.tokens turn && (state.posts turn).any (·.session = id) then
    let looked := state.setSession id (state.session id)
    if (state.session id).streamFormat = format then
      looked.setStream client
        { turn := turn, session := id, format := format
          closings := state.closings id }
    else looked
  else state

/-- The end of the generator. -/
def cleanup (client : Client) (stream : Stream Turn) : State Turn Client :=
  let ended := (state.close stream.session).setStream client { stream with phase := .ended }
  match state.posts stream.turn with
  | some post => ended.setPost stream.turn { post with closed := true }
  | none => ended

def step (state : State Turn Client) : Action Turn Client → Option (State Turn Client)
  | .post turn session format =>
    match state.posts turn with
    | none => some ((state.setSession session
        { state.session session with streamFormat := format }).setPost turn
          { session := session, format := format })
    | some _ => none
  | .mint turn =>
    match state.posts turn with
    | some post =>
      if post.minted then none
      else some { state.setPost turn { post with minted := true } with
        tokens := Function.update state.tokens turn true }
    | none => none
  | .refuse turn text =>
    match state.posts turn with
    | some post =>
      if post.minted || post.finished then none
      else some (state.publish turn post [refusal post.format text])
    | none => none
  | .call turn call =>
    match state.posts turn with
    | some post =>
      if post.finished then none
      else
        let called := post.formatter.call post.session
          (state.session post.session).streamFormat call
        some (state.publish turn { post with formatter := called.1 }
          called.2)
    | none => none
  | .openStream client session turn format =>
    match state.streams client with
    | none => some (state.openStream client session turn format)
    | some _ => none
  | .start client =>
    match state.streams client with
    | some stream =>
      if stream.phase = .opened then
        some (state.setStream client { stream with phase := .running })
      else none
    | none => none
  | .read client =>
    match state.streams client with
    | some stream =>
      if stream.phase = .running then state.read client stream else none
    | none => none
  | .ping client =>
    match state.streams client with
    | some stream =>
      if stream.phase = .running ∧ stream.closings ≠ state.closings stream.session then
        some (state.setStream client { stream with phase := .finishing })
      else some state
    | none => none
  | .disconnect client =>
    match state.streams client with
    | some stream =>
      match stream.phase with
      | .opened =>
        some (state.setStream client { stream with phase := .dropped })
      | .running => some (state.setStream client { stream with phase := .finishing, left := true })
      | _ => some state
    | none => none
  | .cleanup client =>
    match state.streams client with
    | some stream =>
      if stream.phase = .finishing then some (state.cleanup client stream)
      else none
    | none => none

end State

def system (Turn Client : Type) [DecidableEq Turn] [DecidableEq Client] :
    TransitionSystem (State Turn Client) (Action Turn Client) where
  initial state := state = {}
  step := State.step

/-! ## What a browser may rely on -/

/-- The event is the last one of the turn in what the stream has received. -/
def Stream.EndsIn (stream : Stream Turn) (event : WebEvent) : Prop :=
  stream.received.getLast? = some (stream.turn, event) ∧ isStreamTerminal event stream.format = true

namespace State

variable (state : State Turn Client)

/-- The event of a turn waits in its session, or a stream of the turn has
received it. -/
def Kept (turn : Turn) (post : Post) (event : WebEvent) : Prop :=
  (turn, event) ∈ (state.session post.session).queue ∨
    ∃ client stream, state.streams client = some stream ∧
      stream.turn = turn ∧ (turn, event) ∈ stream.received

/-- Each post gets its own answer. -/
structure Answered : Prop where
  /-- The token opens the stream of the session until a stream of the post has
  ended. -/
  opens : ∀ turn post, state.posts turn = some post → post.minted = true →
    post.closed = false → state.tokens turn = true ∧
      (state.session post.session).streamFormat = post.format
  /-- A stream yields events of its own turn only. -/
  own : ∀ client stream, state.streams client = some stream →
    ∀ item ∈ stream.received, item.1 = stream.turn
  /-- It yields them in the order of the turn. -/
  order : ∀ client stream post, state.streams client = some stream →
    state.posts stream.turn = some post →
    (stream.received.map Prod.snd).Sublist post.published
  /-- A stream that ends by itself ends with the last event of its turn. -/
  ends : ∀ client stream, state.streams client = some stream →
    stream.phase = .finishing ∨ stream.phase = .ended →
    stream.left = false → ∃ event, stream.EndsIn event
  /-- The last event of a turn is not lost, unless its stream has been
  left. -/
  kept : ∀ turn post, state.posts turn = some post → post.finished = true →
    (∃ event ∈ post.published, isStreamTerminal event post.format = true ∧
      state.Kept turn post event) ∨
    ∃ client stream, state.streams client = some stream ∧ stream.turn = turn ∧ stream.left = true

/-- A post comes when the earlier turns of its session have published their
last events, no stream of the session is open and nothing waits in the
session; a stream is opened when no other one of the session is open. -/
def Orderly : Action Turn Client → Prop
  | .post _ session _ =>
    (∀ turn, ∀ post ∈ state.posts turn, post.session = session → post.finished = true) ∧
    (∀ client, ∀ stream ∈ state.streams client, stream.session = session → ¬ stream.Live) ∧
    (state.session session).queue = []
  | .openStream _ session _ _ => ∀ client, ∀ stream ∈ state.streams client,
      stream.session = session → ¬ stream.Live
  | _ => True

instance [Fintype Turn] [Fintype Client] : ∀ action, Decidable (state.Orderly action)
  | .post _ session _ => inferInstanceAs (Decidable
      ((∀ turn, ∀ post ∈ state.posts turn, post.session = session → post.finished = true) ∧
      (∀ client, ∀ stream ∈ state.streams client, stream.session = session → ¬ stream.Live) ∧
      (state.session session).queue = []))
  | .openStream _ session _ _ => inferInstanceAs (Decidable
      (∀ client, ∀ stream ∈ state.streams client, stream.session = session → ¬ stream.Live))
  | .mint _ | .refuse _ _ | .call _ _ | .start _ | .read _ | .ping _
  | .disconnect _ | .cleanup _ => inferInstanceAs (Decidable True)

end State

end Web

end RoxabiFactory
