import RoxabiFactory.HubPipeline

/-!
# The response of a pipeline result

The hub sends the audio of a command's response and hands the response to the
outbound router, which sends the text and then the audio of the response by
itself.
-/

namespace RoxabiFactory

namespace ResponseDispatch

variable {Audio Routing : Type}

structure Response (Audio Routing : Type) where
  content : String
  routing : Option Routing := none
  intermediate : Bool := false
  audio : Option Audio := none
  speak : Bool := false

structure OutboundMessage (Routing : Type) where
  text : String
  routing : Option Routing
  intermediate : Bool

structure InboundMessage (Routing : Type) where
  routing : Option Routing := none
  /-- `modality == "voice"`. -/
  isVoice : Bool := false

structure PipelineResult (Audio Routing : Type) where
  action : HubPipeline.Action
  response : Option (Response Audio Routing) := none
  hasPool : Bool := false
  msg : Option (InboundMessage Routing) := none

/-- What the hub does for a result. -/
inductive Effect (Audio Routing : Type)
  | text (outbound : OutboundMessage Routing)
  | audio (audio : Audio)
  /-- A task is started that synthesizes the text. -/
  | speech (text : String)
  | submitted (msg : InboundMessage Routing)

/-- Where `_route_outbound` finds the platform of the message. -/
inductive Route
  | dispatcher
  | adapter
  | missing
  deriving DecidableEq

structure Environment where
  route : Route
  /-- What the adapter raises when it is called after so many effects. -/
  adapterRaises : Nat → Option PyException := fun _ => none
  /-- There are a TTS and an audio pipeline. -/
  hasTts : Bool := false
  poolIsFull : Bool := false

/-- The effects so far, and the exception that has been raised. -/
abbrev Progress (Audio Routing : Type) := List (Effect Audio Routing) × Option PyException

/-! ## The code -/

/-- `_route_outbound`. -/
def routeOutbound (env : Environment) (effects : List (Effect Audio Routing))
    (effect : Effect Audio Routing) : Progress Audio Routing :=
  match env.route with
  | .dispatcher => (effects ++ [effect], none)
  | .adapter => (effects ++ [effect], env.adapterRaises effects.length)
  | .missing => (effects, some .keyError)

def dispatchAudio (env : Environment) (effects : List (Effect Audio Routing))
    (audio : Audio) : Progress Audio Routing :=
  routeOutbound env effects (.audio audio)

/-- Go on if nothing has been raised. -/
def andThen (progress : Progress Audio Routing)
    (next : List (Effect Audio Routing) → Progress Audio Routing) :
    Progress Audio Routing :=
  match progress.2 with
  | some _ => progress
  | none => next progress.1

/-- `response.to_outbound()`, with the routing of the message. -/
def toOutbound (msg : InboundMessage Routing)
    (response : Response Audio Routing) : OutboundMessage Routing where
  text := response.content
  routing := response.routing.orElse fun _ => msg.routing
  intermediate := response.intermediate

def shouldSpeak (env : Environment) (msg : InboundMessage Routing)
    (response : Response Audio Routing) : Bool :=
  env.hasTts && (msg.isVoice || response.speak)

/-- `dispatch_tts_for_response`. -/
def dispatchTts (outbound : OutboundMessage Routing)
    (effects : List (Effect Audio Routing)) : Progress Audio Routing :=
  let text := PythonStr.strip outbound.text
  if text = "" then (effects, none) else (effects ++ [.speech text], none)

/-- `OutboundRouter.dispatch_response`. -/
def dispatchResponse (env : Environment) (msg : InboundMessage Routing)
    (effects : List (Effect Audio Routing))
    (response : Response Audio Routing) : Progress Audio Routing :=
  let outbound := toOutbound msg response
  andThen (routeOutbound env effects (.text outbound)) fun effects =>
    andThen (match response.audio with
      | some audio => dispatchAudio env effects audio
      | none => (effects, none)) fun effects =>
        if shouldSpeak env msg response then dispatchTts outbound effects
        else (effects, none)

/-- `except (OSError, RuntimeError, TypeError, ValueError)`. -/
def isCaught : PyException → Bool
  | .typeError _ | .valueError _ => true
  | exc => exc.isOSError || exc.isRuntimeError

def logged (progress : Progress Audio Routing) : Progress Audio Routing :=
  (progress.1, progress.2.filter fun exc => !isCaught exc)

def dispatchCommand (env : Environment) (msg : InboundMessage Routing)
    (response : Response Audio Routing) : Progress Audio Routing :=
  andThen (match response.audio with
    | some audio => logged (dispatchAudio env [] audio)
    | none => ([], none)) fun effects =>
      if response.content ≠ "" then
        logged (dispatchResponse env msg effects response)
      else (effects, none)

/-- `_dispatch_pipeline_result`. -/
def dispatchPipelineResult (env : Environment) (msg : InboundMessage Routing)
    (result : PipelineResult Audio Routing) : Progress Audio Routing :=
  match result.action with
  | .commandHandled =>
    match result.response with
    | some response => dispatchCommand env msg response
    | none => ([], none)
  | .submitToPool =>
    if result.hasPool ∧ ¬ env.poolIsFull then
      ([.submitted (result.msg.getD msg)], none)
    else ([], none)
  | .drop => ([], none)

/-! ## What is sent -/

def textOf : Effect Audio Routing → Option String
  | .text outbound => some outbound.text
  | _ => none

def audioOf : Effect Audio Routing → Option Audio
  | .audio audio => some audio
  | _ => none

def texts (effects : List (Effect Audio Routing)) : List String := effects.filterMap textOf

def audios (effects : List (Effect Audio Routing)) : List Audio := effects.filterMap audioOf

def Response.contents (response : Response Audio Routing) : List String :=
  if response.content = "" then [] else [response.content]

/-- The content and the audio of the response, and nothing else, are sent, once
each. -/
def SentOnce (result : PipelineResult Audio Routing)
    (effects : List (Effect Audio Routing)) : Prop :=
  texts effects = result.response.toList.flatMap Response.contents ∧
    audios effects = result.response.toList.flatMap fun response =>
      response.audio.toList

/-- There is nothing to send. -/
def Response.IsEmpty (response : Response Audio Routing) : Prop :=
  response.content = "" ∧ response.audio = none

/-- The adapter takes the audio, or fails with an exception that is logged,
and then fails on the text, so that the router does not send the audio again. -/
def TextFails (env : Environment) : Prop :=
  env.route = .adapter ∧ (∀ exc ∈ env.adapterRaises 0, isCaught exc = true) ∧
    ∃ exc, env.adapterRaises 1 = some exc

/-- The response is empty; or it is the response of a command on a known
platform, without content or without audio, unless the text fails. -/
def Once (env : Environment) (result : PipelineResult Audio Routing) : Prop :=
  ∀ response, result.response = some response → response.IsEmpty ∨ result.action = .commandHandled ∧
      env.route ≠ .missing ∧ (response.content = "" ∨ response.audio = none ∨ TextFails env)

section Sent

variable {env : Environment} {effects : List (Effect Audio Routing)}
  {response : Response Audio Routing} {msg : InboundMessage Routing}

/-- What the platform of the message raises. -/
def raisedAt (env : Environment) (count : Nat) : Option PyException :=
  if env.route = .adapter then env.adapterRaises count else none

theorem routeOutbound_of_known (known : env.route ≠ .missing) (effect : Effect Audio Routing) :
    routeOutbound env effects effect = (effects ++ [effect], raisedAt env effects.length) := by
  unfold routeOutbound raisedAt
  cases route : env.route with
  | dispatcher => rfl
  | adapter => rfl
  | missing => exact absurd route known

theorem routeOutbound_of_missing (missing : env.route = .missing) (effect : Effect Audio Routing) :
    routeOutbound env effects effect = (effects, some .keyError) := by
  unfold routeOutbound
  rw [missing]

theorem andThen_none {next : List (Effect Audio Routing) →
    Progress Audio Routing} : andThen (effects, none) next = next effects :=
  rfl

theorem andThen_some {exc : PyException}
    {next : List (Effect Audio Routing) → Progress Audio Routing} :
    andThen (effects, some exc) next = (effects, some exc) :=
  rfl

@[simp]
theorem texts_text (outbound : OutboundMessage Routing) :
    texts (effects ++ [.text outbound]) = texts effects ++ [outbound.text] :=
  List.filterMap_append

@[simp]
theorem texts_audio (audio : Audio) : texts (effects ++ [.audio audio]) = texts effects :=
  List.filterMap_append.trans (List.append_nil _)

@[simp]
theorem texts_speech (text : String) : texts (effects ++ [.speech text]) = texts effects :=
  List.filterMap_append.trans (List.append_nil _)

@[simp]
theorem audios_text (outbound : OutboundMessage Routing) :
    audios (effects ++ [.text outbound]) = audios effects :=
  List.filterMap_append.trans (List.append_nil _)

@[simp]
theorem audios_audio (audio : Audio) :
    audios (effects ++ [.audio audio]) = audios effects ++ [audio] :=
  List.filterMap_append

@[simp]
theorem audios_speech (text : String) : audios (effects ++ [.speech text]) = audios effects :=
  List.filterMap_append.trans (List.append_nil _)

theorem sent_dispatchTts (outbound : OutboundMessage Routing) :
    texts (dispatchTts outbound effects).1 = texts effects ∧
      audios (dispatchTts outbound effects).1 = audios effects := by
  unfold dispatchTts
  dsimp only
  split
  · exact ⟨rfl, rfl⟩
  · exact ⟨texts_speech _, audios_speech _⟩

/-- The end of `dispatch_response` sends nothing of the response. -/
theorem sent_speak : ∀ effects : List (Effect Audio Routing),
    texts (if shouldSpeak env msg response then
        dispatchTts (toOutbound msg response) effects
      else (effects, none)).1 = texts effects ∧
    audios (if shouldSpeak env msg response then
        dispatchTts (toOutbound msg response) effects
      else (effects, none)).1 = audios effects := by
  intro effects
  split
  · exact sent_dispatchTts _
  · exact ⟨rfl, rfl⟩

theorem sent_dispatchResponse (known : env.route ≠ .missing) :
    texts (dispatchResponse env msg effects response).1 = texts effects ++ [response.content] ∧
      audios (dispatchResponse env msg effects response).1 = audios effects ++
        if raisedAt env effects.length = none then response.audio.toList
        else [] := by
  unfold dispatchResponse
  dsimp only
  rw [routeOutbound_of_known known]
  cases raised : raisedAt env effects.length with
  | some exc =>
    rw [andThen_some, if_neg (Option.some_ne_none exc), List.append_nil]
    exact ⟨texts_text _, audios_text _⟩
  | none =>
    rw [andThen_none, if_pos rfl]
    cases hasAudio : response.audio with
    | none =>
      dsimp only
      rw [andThen_none, (sent_speak _).1, (sent_speak _).2, texts_text,
        audios_text, Option.toList_none, List.append_nil]
      exact ⟨rfl, rfl⟩
    | some audio =>
      unfold dispatchAudio
      dsimp only
      rw [routeOutbound_of_known known]
      generalize raisedAt env _ = failed
      cases failed with
      | some exc =>
        rw [andThen_some, texts_audio, texts_text, audios_audio, audios_text]
        exact ⟨rfl, rfl⟩
      | none =>
        rw [andThen_none, (sent_speak _).1, (sent_speak _).2,
          texts_audio, texts_text, audios_audio, audios_text]
        exact ⟨rfl, rfl⟩

theorem sent_logged (progress : Progress Audio Routing) : (logged progress).1 = progress.1 :=
  rfl

/-- The text fails if and only if the audio does not stop the hub and the text
does stop the router. -/
theorem textFails_iff (env : Environment) : TextFails env ↔
    (raisedAt env 0).filter (fun exc => !isCaught exc) = none ∧
      raisedAt env 1 ≠ none := by
  unfold TextFails raisedAt
  by_cases isAdapter : env.route = .adapter
  · rw [if_pos isAdapter, if_pos isAdapter, Option.filter_eq_none_iff, Option.ne_none_iff_exists']
    constructor
    · rintro ⟨-, logs, fails⟩
      refine ⟨?_, fails⟩
      intro exc raised
      rw [logs exc raised]
      exact Bool.false_ne_true
    · rintro ⟨logs, fails⟩
      refine ⟨isAdapter, ?_, fails⟩
      intro exc raised
      have caught := logs exc raised
      rw [Bool.not_eq_true', Bool.not_eq_false] at caught
      exact caught
  · rw [if_neg isAdapter, if_neg isAdapter]
    refine iff_of_false (fun fails => isAdapter fails.1) ?_
    exact fun fails => fails.2 rfl

theorem sent_dispatchCommand (known : env.route ≠ .missing) :
    (texts (dispatchCommand env msg response).1 = response.contents ∧
      audios (dispatchCommand env msg response).1 = response.audio.toList) ↔
        response.content = "" ∨ response.audio = none ∨ TextFails env := by
  unfold dispatchCommand Response.contents
  cases hasAudio : response.audio with
  | none =>
    dsimp only
    rw [andThen_none]
    refine iff_of_true ?_ (.inr (.inl rfl))
    by_cases empty : response.content = ""
    · rw [if_neg (not_not.2 empty), if_pos empty]
      exact ⟨rfl, rfl⟩
    · rw [if_pos empty, if_neg empty, sent_logged,
        (sent_dispatchResponse known).1, (sent_dispatchResponse known).2,
        hasAudio, Option.toList_none, ite_self]
      exact ⟨rfl, rfl⟩
  | some audio =>
    have first : logged (dispatchAudio env ([] : List (Effect Audio Routing)) audio) =
          ([.audio audio], (raisedAt env 0).filter fun exc => !isCaught exc) := by
      unfold dispatchAudio logged
      rw [routeOutbound_of_known known]
      rfl
    dsimp only
    rw [first, textFails_iff]
    cases (raisedAt env 0).filter fun exc => !isCaught exc with
    | some exc =>
      rw [andThen_some]
      by_cases empty : response.content = ""
      · rw [if_pos empty]
        exact iff_of_true ⟨rfl, rfl⟩ (.inl empty)
      · rw [if_neg empty]
        apply iff_of_false
        · rintro ⟨noText, -⟩
          cases noText
        · rintro (isEmpty | noAudio | ⟨stops, -⟩)
          · exact empty isEmpty
          · cases noAudio
          · cases stops
    | none =>
      rw [andThen_none]
      by_cases empty : response.content = ""
      · rw [if_neg (not_not.2 empty), if_pos empty]
        exact iff_of_true ⟨rfl, rfl⟩ (.inl empty)
      · have one : ([Effect.audio audio] : List (Effect Audio Routing)).length = 1 := rfl
        rw [if_pos empty, if_neg empty, sent_logged,
          (sent_dispatchResponse known).1, (sent_dispatchResponse known).2,
          hasAudio, one, or_iff_right empty,
          or_iff_right (Option.some_ne_none audio)]
        cases raisedAt env 1 with
        | none =>
          refine iff_of_false ?_ (fun fails => fails.2 rfl)
          rintro ⟨-, twice⟩
          cases twice
        | some exc =>
          rw [if_neg (Option.some_ne_none exc)]
          exact iff_of_true ⟨rfl, rfl⟩ ⟨rfl, Option.some_ne_none exc⟩

theorem sent_of_missing (missing : env.route = .missing) :
    (dispatchCommand env msg response).1 = [] := by
  unfold dispatchCommand dispatchAudio dispatchResponse
  cases response.audio with
  | some audio =>
    dsimp only
    rw [routeOutbound_of_missing missing]
    rfl
  | none =>
    dsimp only
    rw [andThen_none, routeOutbound_of_missing missing]
    split
    · rfl
    · rfl

theorem response_isEmpty_iff : response.IsEmpty ↔
    [] = response.contents ∧ [] = response.audio.toList := by
  unfold Response.IsEmpty Response.contents
  refine and_congr ?_ ?_
  · split
    · rename_i empty
      exact iff_of_true empty rfl
    · rename_i notEmpty
      exact iff_of_false notEmpty (List.cons_ne_nil _ _).symm
  · cases response.audio with
    | none => exact iff_of_true rfl rfl
    | some audio =>
      exact iff_of_false (Option.some_ne_none audio) (List.cons_ne_nil _ _).symm

end Sent

/-- The hub sends the content and the audio of a response once each if and only
if the response is empty, or is the response of a command on a known platform
that has no content or no audio, unless the text fails. -/
theorem sentOnce_dispatchPipelineResult_iff (env : Environment)
    (msg : InboundMessage Routing) (result : PipelineResult Audio Routing) :
    SentOnce result (dispatchPipelineResult env msg result).1 ↔
      Once env result := by
  obtain ⟨action, response, hasPool, changed⟩ := result
  unfold SentOnce Once dispatchPipelineResult
  dsimp only
  cases response with
  | none =>
    refine iff_of_true ?_ (fun response same => by cases same)
    cases action with
    | drop => exact ⟨rfl, rfl⟩
    | commandHandled => exact ⟨rfl, rfl⟩
    | submitToPool =>
      dsimp only
      split
      · exact ⟨rfl, rfl⟩
      · exact ⟨rfl, rfl⟩
  | some response =>
    rw [Option.toList_some, List.flatMap_singleton, List.flatMap_singleton]
    have onlyOne (property : Response Audio Routing → Prop) :
        (∀ other, some response = some other → property other) ↔
          property response := by
      constructor
      · exact fun all => all response rfl
      · rintro holds _ ⟨⟩
        exact holds
    rw [onlyOne]
    -- Nothing is sent, and the action or the platform tells it.
    have nothing {effects : List (Effect Audio Routing)}
        (noText : texts effects = []) (noAudio : audios effects = [])
        (reason : ¬ (action = .commandHandled ∧ env.route ≠ .missing)) :
        (texts effects = response.contents ∧ audios effects = response.audio.toList) ↔
            response.IsEmpty ∨ action = .commandHandled ∧
              env.route ≠ .missing ∧ (response.content = "" ∨
                response.audio = none ∨ TextFails env) := by
      rw [noText, noAudio, ← response_isEmpty_iff]
      refine (or_iff_left ?_).symm
      rintro ⟨handled, known, -⟩
      exact reason ⟨handled, known⟩
    cases action with
    | drop => exact nothing rfl rfl fun handled => by cases handled.1
    | submitToPool =>
      have notHandled : ¬ (HubPipeline.Action.submitToPool = .commandHandled ∧
          env.route ≠ .missing) := fun handled => by cases handled.1
      dsimp only
      split
      · exact nothing rfl rfl notHandled
      · exact nothing rfl rfl notHandled
    | commandHandled =>
      dsimp only
      by_cases missing : env.route = .missing
      · rw [sent_of_missing missing]
        exact nothing rfl rfl fun handled => handled.2 missing
      · rw [sent_dispatchCommand missing]
        constructor
        · intro once
          exact .inr ⟨rfl, missing, once⟩
        · rintro (empty | ⟨-, -, once⟩)
          · exact .inl empty.1
          · exact once

section Example

/-- The platform has a dispatcher, and the response has a text and an audio. -/
theorem exists_audio_twice : ∃ (env : Environment) (msg : InboundMessage Unit)
      (result : PipelineResult Unit Unit),
      ¬ SentOnce result (dispatchPipelineResult env msg result).1 := by
  refine ⟨{ route := .dispatcher }, {}, {
    action := .commandHandled
    response := some { content := "Hello", audio := some () } }, ?_⟩
  rintro ⟨-, twice⟩
  cases twice

end Example

end ResponseDispatch

end RoxabiFactory
