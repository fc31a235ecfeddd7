import RoxabiFactory.DiscordTables

/-!
# The combined message of a Discord turn

`DiscordFormatter` shows the tool recap, the reasoning and the answer of a
streaming turn in one message, which is composed anew at every edit: as plain
content while there is no recap, and as an embed afterwards.  The final answer
is split before; its first chunk goes into the message and the others follow
in messages of their own.  All edits and sends succeed here.
-/

namespace RoxabiFactory

open DiscordTables Text

/-- `DISCORD_MAX_LENGTH`. -/
def discordMaxLength : ℕ := 2000

/-! ## Reasoning -/

/-- `REASONING_MAX_LEN`. -/
def reasoningMaxLen : ℕ := 120

/-- `REASONING_TRUNC_LEN`. -/
def reasoningTruncLen : ℕ := 117

/-- `_truncate_reasoning`. -/
def truncateReasoning (text : Text) (maxLen : Option ℕ) : Text :=
  match maxLen with
  | none => text
  | some maxLen =>
    if text.length ≤ maxLen then text
    else text.take (maxLen - (reasoningMaxLen - reasoningTruncLen)) ++ [8230]

inductive ReasoningEvent
  | start
  | delta (text : Text)
  | finish

structure ReasoningAccumulator where
  maxLen : Option ℕ := some reasoningMaxLen
  accum : Text := []
  lastEdit : Option ℚ := none

/-- `STREAMING_EDIT_INTERVAL`, in seconds. -/
def streamingEditInterval : ℚ := 1

/-- `ReasoningAccumulator.process`: the text of an edit, if there is to be
one. -/
def ReasoningAccumulator.process (accumulator : ReasoningAccumulator)
    (now : ℚ) : ReasoningEvent → ReasoningAccumulator × Option Text
  | .start => ({ accumulator with accum := [], lastEdit := none }, none)
  | .delta text =>
    let accum := accumulator.accum ++ text
    if accumulator.lastEdit.all fun last =>
        decide (streamingEditInterval ≤ now - last) then
      ({ accumulator with accum := accum, lastEdit := some now },
        some (truncateReasoning accum accumulator.maxLen))
    else ({ accumulator with accum := accum }, none)
  | .finish =>
    if accumulator.accum = [] then (accumulator, none)
    else (accumulator, some (truncateReasoning accumulator.accum accumulator.maxLen))

/-! ## The message -/

inductive EmbedColor
  | green
  | blue

structure Embed where
  title : Text
  description : Text
  color : EmbedColor

structure DiscordMessage where
  content : Text
  embed : Option Embed

/-- The text in which the answer is shown. -/
def DiscordMessage.body (message : DiscordMessage) : Text :=
  match message.embed with
  | none => message.content
  | some embed => embed.description

structure DiscordFormatter where
  placeholderText : Text
  answerText : Text := []
  recapLines : List Text := []
  recapDone : Bool := false
  reasoning : ReasoningAccumulator := {}
  reasoningDisplay : Option Text := none

namespace DiscordFormatter

/-- `dim_italic`. -/
def dimItalic (text : Text) : Text := [42] ++ text ++ [42]

/-- A paragraph break. -/
def separator : Text := [10, 10]

/-- The parts that are not empty, one paragraph each. -/
def compose (lead answer : List Text) (fallback : Text) (limit : ℕ) : Text :=
  let parts := lead ++ answer
  (if parts = [] then fallback else separator.intercalate parts).take limit

def answerParts (formatter : DiscordFormatter) : List Text :=
  if formatter.answerText ≠ [] ∧ formatter.answerText ≠ formatter.placeholderText then
    [formatter.answerText]
  else []

/-- The reasoning in plain content. -/
def reasoningParts (formatter : DiscordFormatter) : List Text :=
  [formatter.reasoningDisplay.getD []].filter (· ≠ [])

/-- `_compose_no_recap_display`. -/
def composeNoRecapDisplay (formatter : DiscordFormatter) : Text :=
  compose formatter.reasoningParts formatter.answerParts formatter.placeholderText discordMaxLength

def embedDescMax : ℕ := 4096

/-- The recap and the reasoning as far as the budget goes. -/
def shrink (budget : ℤ) (recapBody reasoning : Text) : List Text :=
  if recapBody ≠ [] ∧ reasoning ≠ [] then
    let budget := budget - separator.length
    let reasoningBudget := min reasoning.length (budget / 4).toNat
    let recapBudget := (budget - reasoningBudget).toNat
    [recapBody.take recapBudget, reasoning.take reasoningBudget]
  else [recapBody.take budget.toNat, reasoning.take budget.toNat]

/-- What is above the answer in the description. -/
def recapParts (formatter : DiscordFormatter) : List Text :=
  let recapBody := joinLines formatter.recapLines.tail
  let reasoning := formatter.reasoningDisplay.getD []
  -- the answer and the break before it are taken from the budget first
  let reserved := formatter.answerParts.map fun answer =>
    answer.length +
      if recapBody ≠ [] ∨ reasoning ≠ [] then separator.length else 0
  (shrink (embedDescMax - reserved.sum) recapBody reasoning).filter (· ≠ [])

/-- `_compose_recap_embed`; an empty description is a zero-width space. -/
def composeRecapEmbed (formatter : DiscordFormatter) : Embed where
  title := (formatter.recapLines.headD []).take 256
  description := compose formatter.recapParts formatter.answerParts [8203] embedDescMax
  color := if formatter.recapDone then .green else .blue

/-- The message that `_render_combined` sends. -/
def renderCombined (formatter : DiscordFormatter) : DiscordMessage :=
  if formatter.recapLines = [] then ⟨formatter.composeNoRecapDisplay, none⟩
  else ⟨[], some formatter.composeRecapEmbed⟩

/-- `chunk`. -/
def chunk (tabulate : Tabulate) (text : Text) : Py (List Text) :=
  renderText tabulate text discordMaxLength

end DiscordFormatter

/-! ## A turn -/

structure DiscordTurn where
  formatter : DiscordFormatter
  /-- What the edits have made of the combined message, the latest last. -/
  edits : List DiscordMessage := []
  followUps : List Text := []

namespace DiscordTurn

/-- `_render_combined`. -/
def renderCombined (turn : DiscordTurn) : DiscordTurn :=
  { turn with edits := turn.edits ++ [turn.formatter.renderCombined] }

/-- `send_placeholder`, whose text the platform has accepted. -/
def sendPlaceholder (placeholderText : Text) : DiscordTurn where
  formatter := { placeholderText := placeholderText, answerText := placeholderText }

/-- `edit_placeholder_text`. -/
def editPlaceholderText (turn : DiscordTurn) (text : Text) : DiscordTurn := renderCombined
    { turn with formatter := { turn.formatter with answerText := text } }

/-- `edit_reasoning`. -/
def editReasoning (turn : DiscordTurn) (hasTrace : Bool) (now : ℚ)
    (event : ReasoningEvent) : DiscordTurn :=
  if hasTrace then
    let processed := turn.formatter.reasoning.process now event
    let formatter := { turn.formatter with reasoning := processed.1 }
    match processed.2 with
    | none => { turn with formatter := formatter }
    | some text => renderCombined { turn with
        formatter := { formatter with
          reasoningDisplay := some (DiscordFormatter.dimItalic text) } }
  else turn

/-- `edit_tool_recap`. -/
def editToolRecap (turn : DiscordTurn) (lines : List Text) (done : Bool) :
    DiscordTurn :=
  if lines = [] then turn
  else renderCombined { turn with
    formatter := { turn.formatter with recapLines := lines, recapDone := done } }

/-- `send_message`. -/
def sendMessage (tabulate : Tabulate) (turn : DiscordTurn) (text : Text) :
    Py DiscordTurn := do
  let chunks ← renderText tabulate text discordMaxLength
  .ok { turn with followUps := turn.followUps ++ chunks }

/-- `_deliver_text_chunks`. -/
def deliverTextChunks (tabulate : Tabulate) (turn : DiscordTurn)
    (first : Text) (extraChunks : List Text) : Py DiscordTurn :=
  extraChunks.foldlM (sendMessage tabulate) (turn.editPlaceholderText first)

end DiscordTurn

end RoxabiFactory
