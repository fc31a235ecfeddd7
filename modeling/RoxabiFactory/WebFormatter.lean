import Mathlib.Data.List.Basic

/-!
# Events for browsers

A browser gets the answer of a turn as AG-UI events or as the older deltas.
`WebFormatter` asks for the format of the session at each call and publishes a
few events; one that closes the stream is always the last of its call.
-/

namespace RoxabiFactory

namespace Web

inductive StreamFormat
  | legacy
  | agui
  deriving DecidableEq

/-- An event as a JSON object: its `type` and the other members. -/
structure WebEvent where
  type : String
  members : List (String × String) := []
  deriving DecidableEq

def aguiTerminalTypes : List String := ["RUN_FINISHED", "RUN_ERROR"]

def legacyTerminalTypes : List String := ["done", "error"]

def isStreamTerminal (event : WebEvent) : StreamFormat → Bool
  | .agui => decide (event.type ∈ aguiTerminalTypes)
  | .legacy => decide (event.type ∈ legacyTerminalTypes)

def runStarted (threadId runId : String) : WebEvent where
  type := "RUN_STARTED"
  members := [("threadId", threadId), ("runId", runId)]

def runFinished (threadId runId : String) : WebEvent where
  type := "RUN_FINISHED"
  members := [("threadId", threadId), ("runId", runId)]

def runError (message : String) : WebEvent where
  type := "RUN_ERROR"
  members := [("message", message)]

def textStart (messageId : String) : WebEvent where
  type := "TEXT_MESSAGE_START"
  members := [("messageId", messageId), ("role", "assistant")]

def textContent (messageId delta : String) : WebEvent where
  type := "TEXT_MESSAGE_CONTENT"
  members := [("messageId", messageId), ("delta", delta)]

def textEnd (messageId : String) : WebEvent where
  type := "TEXT_MESSAGE_END"
  members := [("messageId", messageId)]

def reasoningStart (messageId : String) : List WebEvent :=
  [{ type := "REASONING_START", members := [("messageId", messageId)] },
    { type := "REASONING_MESSAGE_START",
      members := [("messageId", messageId), ("role", "reasoning")] }]

def reasoningContent (messageId delta : String) : WebEvent where
  type := "REASONING_MESSAGE_CONTENT"
  members := [("messageId", messageId), ("delta", delta)]

def reasoningEnd (messageId : String) : List WebEvent :=
  [{ type := "REASONING_MESSAGE_END", members := [("messageId", messageId)] },
    { type := "REASONING_END", members := [("messageId", messageId)] }]

def delta (text : String) : WebEvent where
  type := "delta"
  members := [("text", text)]

def done : WebEvent where
  type := "done"

def error (message : String) : WebEvent where
  type := "error"
  members := [("message", message)]

/-- The fields of a `WebFormatter`; an empty id stands for none. -/
structure Formatter where
  buffer : String := ""
  runId : String := ""
  messageId : String := ""

/-- A method call, with the ids that it would make. -/
inductive Call
  /-- A new formatter takes over. -/
  | create
  | sendPlaceholder (runId messageId : String)
  | editPlaceholderText (text : String) (finalize : Bool) (messageId : String)
  | sendMessage (text runId messageId : String)
  | sendFallback (text runId messageId : String)
  | editReasoningStart (messageId : String)
  | editReasoningDelta (messageId delta : String)
  | editReasoningEnd (messageId : String)

namespace Formatter

variable (formatter : Formatter) (sessionId : String)

/-- The end of the message and of the run, as far as they have begun. -/
def aguiEnd : List WebEvent :=
  (if formatter.messageId = "" then [] else [textEnd formatter.messageId]) ++
    if formatter.runId = "" then []
    else [runFinished sessionId formatter.runId]

/-- `edit_placeholder_text` before it finalizes: a text that does not go on
from the last one begins a message of its own. -/
def aguiEdit (text messageId : String) : Formatter × List WebEvent :=
  if formatter.buffer.toList.isPrefixOf text.toList then
    let increment := String.ofList (text.toList.drop formatter.buffer.length)
    ({ formatter with buffer := text },
      if increment = "" ∨ formatter.messageId = "" then []
      else [textContent formatter.messageId increment])
  else
    ({ formatter with buffer := text, messageId := messageId },
      (if formatter.messageId = "" then []
        else [textEnd formatter.messageId]) ++
      textStart messageId ::
        if text = "" then [] else [textContent messageId text])

/-- `_send_agui_text` before it finalizes. -/
def aguiSend (text runId messageId : String) : Formatter × List WebEvent :=
  let opened : Formatter := if formatter.runId = "" then
      { buffer := "", runId := runId, messageId := messageId }
    else formatter
  let opening := if formatter.runId = "" then
      [runStarted sessionId runId, textStart messageId]
    else []
  if text = "" then (opened, opening)
  else ({ opened with buffer := text },
    opening ++ [textContent opened.messageId text])

/-- `_send_agui_text` finalizes with both events. -/
def aguiFallback (text runId messageId : String) : List WebEvent :=
  let sent := formatter.aguiSend sessionId text runId messageId
  sent.2 ++ [textEnd sent.1.messageId, runFinished sessionId sent.1.runId]

def callAgui : Call → Formatter × List WebEvent
  | .create => ({}, [])
  | .sendPlaceholder runId messageId =>
    ({ buffer := "", runId := runId, messageId := messageId },
      [runStarted sessionId runId, textStart messageId])
  | .editPlaceholderText text finalize messageId =>
    let edited := formatter.aguiEdit text messageId
    if finalize then ({}, edited.2 ++ edited.1.aguiEnd sessionId)
    else edited
  | .sendMessage text runId messageId =>
    formatter.aguiSend sessionId text runId messageId
  | .sendFallback text runId messageId =>
    ({}, formatter.aguiFallback sessionId text runId messageId)
  | .editReasoningStart messageId => (formatter, reasoningStart messageId)
  | .editReasoningDelta messageId delta =>
    (formatter, if delta = "" then [] else [reasoningContent messageId delta])
  | .editReasoningEnd messageId => (formatter, reasoningEnd messageId)

def callLegacy : Call → Formatter × List WebEvent
  | .create => ({}, [])
  | .sendPlaceholder _ _ => (formatter, [delta ""])
  | .editPlaceholderText text finalize _ =>
    ({ formatter with buffer := text },
      delta text :: if finalize then [done] else [])
  | .sendMessage text _ _ => (formatter, [delta text])
  | .sendFallback text _ _ => (formatter, [delta text, done])
  | .editReasoningStart _ => (formatter, [])
  | .editReasoningDelta _ _ => (formatter, [])
  | .editReasoningEnd _ => (formatter, [])

/-- A call when the session has a format: the formatter afterwards, and the
events it publishes. -/
def call : StreamFormat → Call → Formatter × List WebEvent
  | .agui => formatter.callAgui sessionId
  | .legacy => formatter.callLegacy

end Formatter

/-! ## The last event -/

/-- No event closes the stream. -/
def Open (format : StreamFormat) (events : List WebEvent) : Prop :=
  ∀ event ∈ events, isStreamTerminal event format = false

/-- The last event closes the stream when the turn is finished, and no other
one does. -/
def Ends (format : StreamFormat) (events : List WebEvent) : Bool → Prop
  | false => Open format events
  | true => ∃ body last, events = body ++ [last] ∧ Open format body ∧
      isStreamTerminal last format = true

/-- One of the events closes the stream. -/
def closes (format : StreamFormat) (events : List WebEvent) : Bool :=
  events.any (isStreamTerminal · format)

section Ends

variable {format : StreamFormat} {events body later : List WebEvent}
variable {last : WebEvent} {finished : Bool}

theorem Open.append (first : Open format events) (second : Open format later) :
    Open format (events ++ later) := by
  intro event member
  rcases List.mem_append.1 member with known | new
  · exact first event known
  · exact second event new

theorem Open.sublist (opens : Open format events)
    (sublist : later.Sublist events) : Open format later := by
  intro event member
  exact opens event (sublist.subset member)

theorem open_nil : Open format [] := by
  intro event member
  cases member

theorem Open.not_closes (opens : Open format events) : closes format events = false := by
  unfold closes
  rw [List.any_eq_false]
  intro event member
  rw [opens event member]
  exact Bool.false_ne_true

theorem Open.ends (opens : Open format events) :
    Ends format events (closes format events) := by
  rw [opens.not_closes]
  exact opens

theorem Open.ends_concat (opens : Open format body)
    (terminal : isStreamTerminal last format = true) :
    Ends format (body ++ [last]) (closes format (body ++ [last])) := by
  have closing : closes format (body ++ [last]) = true := by
    unfold closes
    rw [List.any_eq_true]
    exact ⟨last, List.mem_append_right _ List.mem_cons_self, terminal⟩
  rw [closing]
  exact ⟨body, last, rfl, opens, terminal⟩

end Ends

namespace Formatter

variable (formatter : Formatter) (sessionId : String)

theorem open_aguiEdit (text messageId : String) :
    Open .agui (formatter.aguiEdit text messageId).2 := by
  unfold aguiEdit
  intro event member
  split at member
  · simp only at member
    split at member
    · cases member
    · rw [List.mem_singleton.1 member]
      rfl
  · rcases List.mem_append.1 member with ending | starting
    · split at ending
      · cases ending
      · rw [List.mem_singleton.1 ending]
        rfl
    · rcases List.mem_cons.1 starting with rfl | content
      · rfl
      · split at content
        · cases content
        · rw [List.mem_singleton.1 content]
          rfl

theorem open_aguiSend (text runId messageId : String) :
    Open .agui (formatter.aguiSend sessionId text runId messageId).2 := by
  have opening : Open .agui (if formatter.runId = "" then
      [runStarted sessionId runId, textStart messageId] else []) := by
    intro event member
    split at member
    · rcases List.mem_pair.1 member with rfl | rfl <;> rfl
    · cases member
  unfold aguiSend
  simp only
  split
  · exact opening
  · apply opening.append
    intro event member
    rw [List.mem_singleton.1 member]
    rfl

theorem ends_aguiEnd {body : List WebEvent} (opens : Open .agui body) :
    Ends .agui (body ++ formatter.aguiEnd sessionId)
      (closes .agui (body ++ formatter.aguiEnd sessionId)) := by
  have message : Open .agui (if formatter.messageId = "" then []
      else [textEnd formatter.messageId]) := by
    intro event member
    split at member
    · cases member
    · rw [List.mem_singleton.1 member]
      rfl
  unfold aguiEnd
  rw [← List.append_assoc]
  by_cases absent : formatter.runId = ""
  · rw [if_pos absent, List.append_nil]
    exact (opens.append message).ends
  · rw [if_neg absent]
    apply (opens.append message).ends_concat
    rfl

theorem ends_call (format : StreamFormat) (call : Call) :
    Ends format (formatter.call sessionId format call).2
      (closes format (formatter.call sessionId format call).2) := by
  have single (format : StreamFormat) (event : WebEvent)
      (quiet : isStreamTerminal event format = false) :
      Open format [event] := by
    intro other member
    rw [List.mem_singleton.1 member]
    exact quiet
  cases format with
  | agui =>
    cases call with
    | create => exact open_nil.ends
    | sendPlaceholder runId messageId =>
      exact ((single .agui (runStarted sessionId runId) rfl).append
        (single .agui (textStart messageId) rfl)).ends
    | editPlaceholderText text finalize messageId =>
      have edited := formatter.open_aguiEdit text messageId
      cases finalize with
      | true => exact ends_aguiEnd _ sessionId edited
      | false => exact edited.ends
    | sendMessage text runId messageId =>
      exact (formatter.open_aguiSend sessionId text runId messageId).ends
    | sendFallback text runId messageId =>
      let sent := formatter.aguiSend sessionId text runId messageId
      have events : (formatter.call sessionId .agui (.sendFallback text runId messageId)).2 =
          (sent.2 ++ [textEnd sent.1.messageId]) ++ [runFinished sessionId sent.1.runId] := by
        rw [List.append_assoc]
        rfl
      rw [events]
      apply Open.ends_concat
      · apply (formatter.open_aguiSend sessionId text runId messageId).append
        exact single .agui (textEnd sent.1.messageId) rfl
      · rfl
    | editReasoningStart messageId =>
      apply Open.ends
      intro event member
      rcases List.mem_pair.1 member with rfl | rfl <;> rfl
    | editReasoningDelta messageId text =>
      apply Open.ends
      change Open .agui (if text = "" then []
        else [reasoningContent messageId text])
      split
      · intro event member
        cases member
      · exact single .agui (reasoningContent messageId text) rfl
    | editReasoningEnd messageId =>
      apply Open.ends
      intro event member
      rcases List.mem_pair.1 member with rfl | rfl <;> rfl
  | legacy =>
    have closing (text : String) : Ends .legacy ([delta text] ++ [done])
        (closes .legacy ([delta text] ++ [done])) := by
      apply (single .legacy (delta text) rfl).ends_concat
      rfl
    cases call with
    | sendPlaceholder _ _ => exact (single .legacy (delta "") rfl).ends
    | editPlaceholderText text finalize _ =>
      cases finalize with
      | true => exact closing text
      | false => exact (single .legacy (delta text) rfl).ends
    | sendMessage text _ _ => exact (single .legacy (delta text) rfl).ends
    | sendFallback text _ _ => exact closing text
    | create => exact open_nil.ends
    | editReasoningStart _ => exact open_nil.ends
    | editReasoningDelta _ _ => exact open_nil.ends
    | editReasoningEnd _ => exact open_nil.ends

end Formatter

end Web

end RoxabiFactory
