import RoxabiFactory.Blocks
import RoxabiFactory.StreamProcessor
import Mathlib.Data.Set.Function
import Mathlib.Order.Interval.Set.Defs

/-!
# Well-bracketed runs of the stream processor

Text events, reasoning events and tool events are the marks of three streams
of blocks.  The open block of the processor is the open block of the text
marks, and the same holds of the reasoning marks.  Every handler keeps that,
every ending closes what is open, and every delta carries the text of one
input event.
-/

namespace RoxabiFactory

open Blocks

def RenderEvent.textMark : RenderEvent Json → Mark Json
  | .textStart messageId .. => .opens messageId
  | .textDelta messageId .. => .inside messageId
  | .textEnd messageId .. => .closes messageId
  | _ => .other

def RenderEvent.reasoningMark : RenderEvent Json → Mark Json
  | .reasoningStart messageId .. => .opens messageId
  | .reasoningDelta messageId .. => .inside messageId
  | .reasoningEnd messageId .. => .closes messageId
  | _ => .other

/-- The event stands neither at the start nor at the end of a run. -/
def RenderEvent.isBody {Text : Type} : RenderEvent Text → Bool
  | .runStarted .. | .runFinished .. | .runError .. => false
  | _ => true

def RenderEvent.delta : RenderEvent Json → Option Json
  | .textDelta _ delta _ => some delta
  | _ => none

def textDeltas (events : List (RenderEvent Json)) : List Json := events.filterMap RenderEvent.delta

/-- The text of a `TextLlmEvent`. -/
def LlmEvent.chunk : LlmEvent → Option Json
  | .text chunk => some chunk
  | _ => none

def inputTexts (events : List LlmEvent) : List Json := events.filterMap LlmEvent.chunk

def concatenation (texts : List Json) : PyStr := (texts.filterMap fun text => match text with
    | .str text => some text
    | _ => none).foldl PyStr.append (.text "")

def LlmEvent.WellTyped : LlmEvent → Prop
  | .text chunk | .thinking chunk => chunk.IsStr
  | .toolUse toolName toolId input =>
    toolName.IsStr ∧ toolId.IsStr ∧ ∃ members, input = .obj members
  | .toolUseDelta toolId partialJson => toolId.IsStr ∧ partialJson.IsStr
  | .toolUseEnd toolId | .toolResult toolId _ _ => toolId.IsStr
  | .result isError durationMs _ sessionId _ =>
    (∃ value, isError = .bool value) ∧ (∃ value, durationMs = .int value) ∧
      ∀ session ∈ sessionId, session.IsStr

def ResultLast (events : List LlmEvent) : Prop := ∀ event ∈ events.dropLast, event.isResult = false

def Ending.exception : Ending → Option PyError
  | .stopped => none
  | .raised error => some error

/-- A run between its first event and its last one. -/
structure WellBracketed (runId : String) (input : List LlmEvent × Ending)
    (output : Emitted) (body : List (RenderEvent Json))
    (terminal : RenderEvent Json) : Prop where
  events : output.events = .runStarted (.ofString runId) :: (body ++ [terminal])
  isTerminal : terminal.isTerminal = true
  isBody : ∀ event ∈ body, event.isBody = true
  raised : output.raised = input.2.exception
  textBlocks : ∀ event ∈ body, ∀ key, event.textMark.key = some key →
    Block key (body.map RenderEvent.textMark)
  oneText : AtMostOneOpen (body.map RenderEvent.textMark)
  reasoningBlocks : ∀ event ∈ body, ∀ key, event.reasoningMark.key = some key →
      Block key (body.map RenderEvent.reasoningMark)
  oneReasoning : AtMostOneOpen (body.map RenderEvent.reasoningMark)
  deltas : concatenation (textDeltas body) = concatenation (inputTexts input.1)

namespace StreamProcessor

variable {tools : PythonText} {hex : Nat → String}

/-- The open blocks of one kind are what the marks of that kind leave open,
and every block has an id that has been minted. -/
def Lane (mark : RenderEvent Json → Mark Json) (blockId : String → String)
    (hex : Nat → String) (events : List (RenderEvent Json))
    (openBlocks : List String) (minted : Nat) : Prop :=
  ∃ live : Option String, openBlocks = live.toList ∧
    Writes (events.map mark) (live.map Json.ofString) fun key =>
      ∃ index < minted, key = .ofString (blockId (hex index))

theorem ofString_injective : Function.Injective Json.ofString := by
  rintro left right ⟨⟩
  rfl

namespace Lane

variable {mark : RenderEvent Json → Mark Json} {blockId : String → String}
variable {events more : List (RenderEvent Json)} {event : RenderEvent Json}
variable {openBlocks rest : List String} {block : String} {minted : Nat}

theorem nil : Lane mark blockId hex [] [] minted := ⟨none, rfl, .nil⟩

theorem mono (lane : Lane mark blockId hex events openBlocks minted)
    {later : Nat} (grows : minted ≤ later) :
    Lane mark blockId hex events openBlocks later := by
  obtain ⟨live, isOpen, writes⟩ := lane
  refine ⟨live, isOpen, writes.mono ?_⟩
  rintro key ⟨index, early, rfl⟩
  exact ⟨index, early.trans_le grows, rfl⟩

theorem other (lane : Lane mark blockId hex events openBlocks minted)
    (others : ∀ event ∈ more, mark event = .other) :
    Lane mark blockId hex (events ++ more) openBlocks minted := by
  induction more generalizing events with
  | nil => simpa using lane
  | cons event more ih =>
    obtain ⟨live, isOpen, writes⟩ := lane
    have stepped : Lane mark blockId hex (events ++ [event]) openBlocks minted := ⟨live, isOpen, by
        simpa [others event (by simp)] using writes.other⟩
    simpa using ih stepped fun later member =>
      others later (by simp [member])

theorem delta (lane : Lane mark blockId hex events (block :: rest) minted)
    (event : RenderEvent Json) (inside : mark event = .inside (.ofString block)) :
    Lane mark blockId hex (events ++ [event]) (block :: rest) minted := by
  obtain ⟨live, isOpen, writes⟩ := lane
  cases live with
  | none => cases isOpen
  | some live =>
    obtain ⟨rfl, rfl⟩ := List.cons.inj isOpen
    exact ⟨some block, rfl, by simpa [inside] using writes.inside⟩

theorem close (lane : Lane mark blockId hex events (block :: rest) minted)
    (event : RenderEvent Json) (closes : mark event = .closes (.ofString block)) :
    Lane mark blockId hex (events ++ [event]) [] minted := by
  obtain ⟨live, isOpen, writes⟩ := lane
  cases live with
  | none => cases isOpen
  | some live =>
    obtain ⟨rfl, rfl⟩ := List.cons.inj isOpen
    exact ⟨none, rfl, by simpa [closes] using writes.closes⟩

/-- A block that is opened under the next id, with its first delta. -/
theorem start (lane : Lane mark blockId hex events [] minted)
    (injective : Function.Injective blockId)
    (fresh : ∀ index < minted, hex index ≠ hex minted)
    (first second : RenderEvent Json)
    (opens : mark first = .opens (.ofString (blockId (hex minted))))
    (inside : mark second = .inside (.ofString (blockId (hex minted)))) :
    Lane mark blockId hex (events ++ [first, second]) [blockId (hex minted)] (minted + 1) := by
  obtain ⟨live, isOpen, writes⟩ := lane
  cases live with
  | some live => cases isOpen
  | none =>
    have opened := (writes.opens (by
      rintro ⟨index, early, same⟩
      exact fresh index early (injective (ofString_injective same)).symm)).inside
    refine ⟨some _, rfl, ?_⟩
    have known : ∀ key : Json, (key = .ofString (blockId (hex minted)) ∨
          ∃ index < minted, key = .ofString (blockId (hex index))) →
        ∃ index < minted + 1, key = .ofString (blockId (hex index)) := by
      rintro key (rfl | ⟨index, early, rfl⟩)
      · exact ⟨minted, Nat.lt_succ_self minted, rfl⟩
      · exact ⟨index, early.trans (Nat.lt_succ_self minted), rfl⟩
    simpa [opens, inside] using opened.mono known

theorem rest_eq_nil (lane : Lane mark blockId hex events (block :: rest) minted) : rest = [] := by
  obtain ⟨live, isOpen, -⟩ := lane
  cases live with
  | none => cases isOpen
  | some live => exact (List.cons.inj isOpen).2

theorem block_of_mem (lane : Lane mark blockId hex events [] minted) {key : Json}
    (member : event ∈ events) (belongs : (mark event).key = some key) :
    Block key (events.map mark) := by
  obtain ⟨live, isOpen, writes⟩ := lane
  cases live with
  | some live => cases isOpen
  | none => exact writes.block_of_mem (List.mem_map_of_mem member) belongs

theorem one (lane : Lane mark blockId hex events openBlocks minted) :
    AtMostOneOpen (events.map mark) :=
  lane.choose_spec.2.one

end Lane

theorem textBlockId_injective : Function.Injective textBlockId :=
  fun _ _ same => (String.append_right_inj _).mp same

theorem reasoningBlockId_injective : Function.Injective reasoningBlockId :=
  fun _ _ same => (String.append_right_inj _).mp same

/-- What is true between two events of the input: `consumed` are the events
so far, and `received` tells whether the result has been noted. -/
structure Bracketed (hex : Nat → String) (consumed : List LlmEvent)
    (received : Bool) (events : List (RenderEvent Json))
    (processor : StreamProcessor) : Prop where
  text : Lane RenderEvent.textMark textBlockId hex events processor.openText processor.minted
  reasoning : Lane RenderEvent.reasoningMark reasoningBlockId hex events
    processor.openReasoning processor.minted
  isBody : ∀ event ∈ events, event.isBody = true
  deltas : textDeltas events = inputTexts consumed
  minted : processor.minted ≤ consumed.length
  openTools : ∀ tool ∈ processor.openTools, tool.2.IsStr
  toolNames : ∀ tool ∈ processor.toolNames, tool.2.IsStr
  received : processor.resultReceived = received

/-- The generator raises nothing, and leads from the events before it to the
postcondition. -/
def Meets (before : List (RenderEvent Json)) (emitted : Emitted)
    (post : List (RenderEvent Json) → StreamProcessor → Prop) : Prop :=
  emitted.raised = none ∧ post (before ++ emitted.events) emitted.processor

namespace Meets

variable {before : List (RenderEvent Json)} {emitted : Emitted}
variable {middle post : List (RenderEvent Json) → StreamProcessor → Prop}

theorem mono (meets : Meets before emitted middle) (implies : ∀ events processor,
      middle events processor → post events processor) :
    Meets before emitted post :=
  ⟨meets.1, implies _ _ meets.2⟩

theorem andThen {next : StreamProcessor → Emitted} (meets : Meets before emitted middle)
    (nextMeets : ∀ events processor, middle events processor → Meets events (next processor) post) :
    Meets before (emitted.andThen next) post := by
  have rest := nextMeets _ _ meets.2
  unfold Emitted.andThen
  rw [meets.1]
  exact ⟨rest.1, by simpa using rest.2⟩

end Meets

section Handlers

variable {consumed : List LlmEvent} {received : Bool}
variable {before : List (RenderEvent Json)} {processor : StreamProcessor}

theorem Bracketed.extend (bracketed : Bracketed hex consumed received before processor)
    (events : List LlmEvent)
    {more : List (RenderEvent Json)} {after : StreamProcessor}
    (text : Lane RenderEvent.textMark textBlockId hex (before ++ more) after.openText after.minted)
    (reasoning : Lane RenderEvent.reasoningMark reasoningBlockId hex
      (before ++ more) after.openReasoning after.minted)
    (isBody : ∀ event ∈ more, event.isBody = true)
    (deltas : textDeltas more = inputTexts events)
    (minted : after.minted ≤ (consumed ++ events).length)
    (openTools : ∀ tool ∈ after.openTools, tool.2.IsStr)
    (toolNames : ∀ tool ∈ after.toolNames, tool.2.IsStr)
    (same : after.resultReceived = processor.resultReceived) :
    Bracketed hex (consumed ++ events) received (before ++ more) after where
  text := text
  reasoning := reasoning
  isBody := fun event member => (List.mem_append.mp member).elim
    (bracketed.isBody event) (isBody event)
  deltas := by
    have earlier := bracketed.deltas
    unfold textDeltas inputTexts at earlier deltas ⊢
    rw [List.filterMap_append, List.filterMap_append, earlier, deltas]
  minted := minted
  openTools := openTools
  toolNames := toolNames
  received := same.trans bracketed.received

theorem Bracketed.emit (bracketed : Bracketed hex consumed received before processor)
    {more : List (RenderEvent Json)} {after : StreamProcessor}
    (text : Lane RenderEvent.textMark textBlockId hex (before ++ more) after.openText after.minted)
    (reasoning : Lane RenderEvent.reasoningMark reasoningBlockId hex
      (before ++ more) after.openReasoning after.minted)
    (isBody : ∀ event ∈ more, event.isBody = true)
    (deltas : textDeltas more = [])
    (minted : after.minted ≤ processor.minted)
    (openTools : ∀ tool ∈ after.openTools, tool.2.IsStr)
    (toolNames : ∀ tool ∈ after.toolNames, tool.2.IsStr)
    (same : after.resultReceived = processor.resultReceived) :
    Bracketed hex consumed received (before ++ more) after := by
  have few : after.minted ≤ (consumed ++ []).length := by
    simpa using minted.trans bracketed.minted
  simpa using bracketed.extend [] text reasoning isBody deltas few openTools toolNames same

theorem closeReasoningIfOpen_meets (bracketed : Bracketed hex consumed received before processor) :
    Meets before processor.closeReasoningIfOpen fun events after =>
      Bracketed hex consumed received events after ∧ after.openReasoning = [] := by
  unfold closeReasoningIfOpen
  split
  · rename_i closed
    exact ⟨rfl, by simpa using bracketed, closed⟩
  · rename_i block rest isOpen
    have lane := bracketed.reasoning
    rw [isOpen] at lane
    obtain rfl := lane.rest_eq_nil
    have text : ∀ event ∈ [RenderEvent.reasoningEnd (.ofString block)],
        event.textMark = .other := by simp [RenderEvent.textMark]
    have shut := lane.close (.reasoningEnd (.ofString block)) rfl
    refine ⟨rfl, ?_, by simp [isOpen]⟩
    exact bracketed.emit (bracketed.text.other text)
      (by simpa [isOpen] using shut) (by simp [RenderEvent.isBody]) rfl
      le_rfl bracketed.openTools bracketed.toolNames rfl

theorem closeTextIfOpen_meets (bracketed : Bracketed hex consumed received before processor) :
    Meets before processor.closeTextIfOpen fun events after =>
      Bracketed hex consumed received events after ∧ after.openText = [] ∧
        after.openReasoning = processor.openReasoning := by
  unfold closeTextIfOpen
  split
  · rename_i closed
    exact ⟨rfl, by simpa using bracketed, closed, rfl⟩
  · rename_i block rest isOpen
    have lane := bracketed.text
    rw [isOpen] at lane
    obtain rfl := lane.rest_eq_nil
    have reasoning : ∀ event ∈ [RenderEvent.textEnd (.ofString block)],
        event.reasoningMark = .other := by simp [RenderEvent.reasoningMark]
    have shut := lane.close (.textEnd (.ofString block)) rfl
    refine ⟨rfl, ?_, by simp [isOpen], rfl⟩
    exact bracketed.emit (by simpa [isOpen] using shut)
      (bracketed.reasoning.other reasoning) (by simp [RenderEvent.isBody]) rfl
      le_rfl bracketed.openTools bracketed.toolNames rfl

variable {text : Json}

/-- The next event mints a new id. -/
def Fresh (hex : Nat → String) (consumed : List LlmEvent) : Prop :=
  ∀ minted ≤ consumed.length, ∀ index < minted, hex index ≠ hex minted

theorem fresh_of_injOn {total : Nat} (distinct : Set.InjOn hex (Set.Iio total))
    (more : consumed.length < total) : Fresh hex consumed := by
  intro minted few index early same
  have last : minted < total := few.trans_lt more
  exact early.ne (distinct (early.trans last) last same)

theorem writeText_meets (bracketed : Bracketed hex consumed received before processor)
    (fresh : Fresh hex consumed) :
    Meets before (processor.writeText hex text)
      (Bracketed hex (consumed ++ [.text text]) received) := by
  have lane := bracketed.text
  unfold writeText
  split
  · rename_i block rest isOpen
    rw [isOpen] at lane
    have reasoning : ∀ event ∈ [RenderEvent.textDelta (.ofString block) text],
        event.reasoningMark = .other := by simp [RenderEvent.reasoningMark]
    have written := lane.delta (.textDelta (.ofString block) text) rfl
    exact ⟨rfl, bracketed.extend [.text text] (by simpa [isOpen] using written)
      (bracketed.reasoning.other reasoning) (by simp [RenderEvent.isBody])
      rfl (by simpa using bracketed.minted.trans (by simp))
      bracketed.openTools bracketed.toolNames rfl⟩
  · rename_i closed
    rw [closed] at lane
    have reasoning : ∀ block, ∀ event ∈ [RenderEvent.textStart block,
        .textDelta block text], event.reasoningMark = .other := by
      simp [RenderEvent.reasoningMark]
    have opened := lane.start textBlockId_injective
      (fresh _ bracketed.minted) (.textStart _) (.textDelta _ text) rfl rfl
    exact ⟨rfl, bracketed.extend [.text text] opened
      ((bracketed.reasoning.other (reasoning _)).mono (Nat.le_succ _))
      (by simp [RenderEvent.isBody]) rfl
      (by simpa using bracketed.minted) bracketed.openTools
      bracketed.toolNames rfl⟩

theorem handleText_meets (bracketed : Bracketed hex consumed received before processor)
    (fresh : Fresh hex consumed) (isStr : text.IsStr) :
    Meets before (processor.handleText hex text)
      (Bracketed hex (consumed ++ [.text text]) received) := by
  obtain ⟨characters, rfl⟩ := isStr
  exact (closeReasoningIfOpen_meets bracketed).andThen
    fun _ _ ⟨bracketed, _⟩ => writeText_meets bracketed fresh

theorem handleThinking_meets (bracketed : Bracketed hex consumed received before processor)
    (fresh : Fresh hex consumed) :
    Meets before (processor.handleThinking hex text)
      (Bracketed hex (consumed ++ [.thinking text]) received) := by
  have lane := bracketed.reasoning
  have more : processor.minted ≤ (consumed ++ [LlmEvent.thinking text]).length := by
    simpa using bracketed.minted.trans (by simp)
  unfold handleThinking
  split
  · exact ⟨rfl, bracketed.extend [.thinking text] (by simpa using bracketed.text)
      (by simpa using lane) (List.forall_mem_nil _) rfl more
      bracketed.openTools bracketed.toolNames rfl⟩
  · split
    · rename_i block rest isOpen
      rw [isOpen] at lane
      have quiet : ∀ event ∈ [RenderEvent.reasoningDelta (.ofString block) text],
            event.textMark = .other := by simp [RenderEvent.textMark]
      have written := lane.delta (.reasoningDelta (.ofString block) text) rfl
      exact ⟨rfl, bracketed.extend [.thinking text] (bracketed.text.other quiet)
        (by simpa [isOpen] using written) (by simp [RenderEvent.isBody])
        rfl more bracketed.openTools bracketed.toolNames rfl⟩
    · rename_i closed
      rw [closed] at lane
      have quiet : ∀ block, ∀ event ∈ [RenderEvent.reasoningStart block,
          .reasoningDelta block text], event.textMark = .other := by
        simp [RenderEvent.textMark]
      have opened := lane.start reasoningBlockId_injective
        (fresh _ bracketed.minted) (.reasoningStart _)
        (.reasoningDelta _ text) rfl rfl
      exact ⟨rfl, bracketed.extend [.thinking text]
        ((bracketed.text.other (quiet _)).mono (Nat.le_succ _)) opened
        (by simp [RenderEvent.isBody]) rfl
        (by simpa using bracketed.minted) bracketed.openTools
        bracketed.toolNames rfl⟩

theorem Bracketed.quiet (bracketed : Bracketed hex consumed received before processor)
    (input : LlmEvent) (event : RenderEvent Json)
    (chunk : input.chunk = none) (delta : event.delta = none)
    (text : event.textMark = .other)
    (reasoning : event.reasoningMark = .other)
    (isBody : event.isBody = true) {openTools toolNames : List (HashKey × Json)}
    (ids : ∀ tool ∈ openTools, tool.2.IsStr)
    (names : ∀ tool ∈ toolNames, tool.2.IsStr) :
    Bracketed hex (consumed ++ [input]) received (before ++ [event])
      { processor with openTools := openTools, toolNames := toolNames } :=
  bracketed.extend [input] (bracketed.text.other (by simpa using text))
    (bracketed.reasoning.other (by simpa using reasoning))
    (by simpa using isBody)
    (by simp [textDeltas, inputTexts, chunk, delta])
    (by simpa using bracketed.minted.trans (Nat.le_succ _)) ids names rfl

theorem closeReasoningAndText_meets (bracketed : Bracketed hex consumed received before processor) :
    Meets before (processor.closeReasoningIfOpen.andThen closeTextIfOpen)
      fun events after => Bracketed hex consumed received events after ∧
        after.openText = [] ∧ after.openReasoning = [] := by
  refine (closeReasoningIfOpen_meets bracketed).andThen ?_
  rintro events after ⟨bracketed, closed⟩
  refine (closeTextIfOpen_meets bracketed).mono ?_
  rintro events last ⟨bracketed, shut, same⟩
  exact ⟨bracketed, shut, same.trans closed⟩

variable {toolName toolId input partialJson : Json}

theorem handleToolUse_meets (bracketed : Bracketed hex consumed received before processor)
    (nameIsStr : toolName.IsStr) (idIsStr : toolId.IsStr) :
    Meets before (processor.handleToolUse toolName toolId input)
      (Bracketed hex (consumed ++ [.toolUse toolName toolId input]) received) := by
  refine (closeReasoningAndText_meets bracketed).andThen ?_
  rintro events after ⟨bracketed, -⟩
  obtain ⟨name, rfl⟩ := nameIsStr
  obtain ⟨id, rfl⟩ := idIsStr
  have names : ∀ tool ∈ (after.nameTool (.str id) (.str name)).toolNames, tool.2.IsStr := by
    rintro tool (_ | ⟨_, member⟩)
    · exact ⟨name, rfl⟩
    · exact bracketed.toolNames tool (List.mem_filter.mp member).1
  obtain ⟨openTools, opens, fromId⟩ := after.openTool_eq (.str id) (.str id)
  have ids : ∀ tool ∈ openTools, tool.2.IsStr := by
    intro tool member
    rcases fromId tool member with old | rfl
    · exact bracketed.openTools tool old
    · exact ⟨id, rfl⟩
  simp only [Json.hashKey, opens]
  exact ⟨rfl, bracketed.quiet (.toolUse _ _ _) (.toolCallStart _ _ _) rfl rfl
    rfl rfl rfl ids names⟩

theorem handleToolUseDelta_meets (bracketed : Bracketed hex consumed received before processor) :
    Meets before (processor.handleToolUseDelta toolId partialJson)
      (Bracketed hex (consumed ++ [.toolUseDelta toolId partialJson]) received) :=
  (closeReasoningIfOpen_meets bracketed).andThen fun _ _ ⟨bracketed, _⟩ =>
    ⟨rfl, bracketed.quiet _ (.toolCallArgs _ _) rfl rfl rfl rfl rfl
      bracketed.openTools bracketed.toolNames⟩

theorem handleToolUseEnd_meets (bracketed : Bracketed hex consumed received before processor)
    (idIsStr : toolId.IsStr) :
    Meets before (processor.handleToolUseEnd toolId)
      (Bracketed hex (consumed ++ [.toolUseEnd toolId]) received) := by
  obtain ⟨id, rfl⟩ := idIsStr
  refine (closeReasoningIfOpen_meets bracketed).andThen ?_
  rintro events after ⟨bracketed, -⟩
  have ids : ∀ tool ∈ (after.closeTool (.str id)).openTools, tool.2.IsStr :=
    fun tool member => bracketed.openTools tool (List.mem_filter.mp member).1
  simp only [Json.hashKey]
  exact ⟨rfl, bracketed.quiet _ (.toolCallEnd _) rfl rfl rfl rfl rfl ids bracketed.toolNames⟩

theorem sanitizeToolResultContent_ok {name : Json} {content : PyStr}
    (known : name = .null ∨ name.IsStr) :
    ∃ sanitized, sanitizeToolResultContent tools content name =
      .ok sanitized := by
  rcases known with rfl | ⟨name, rfl⟩
  · exact ⟨_, rfl⟩
  · simp only [sanitizeToolResultContent]
    split
    · exact ⟨_, rfl⟩
    · split <;> exact ⟨_, rfl⟩

theorem toolResultContent_ok {content : PyStr} (names : ∀ tool ∈ processor.toolNames, tool.2.IsStr)
    (idIsStr : toolId.IsStr) :
    ∃ sanitized, processor.toolResultContent tools toolId content =
      .ok sanitized := by
  obtain ⟨id, rfl⟩ := idIsStr
  refine sanitizeToolResultContent_ok ?_
  cases found : processor.toolNames.lookup (.str id) with
  | none => exact .inl rfl
  | some name =>
    obtain ⟨early, late, split, -⟩ := List.lookup_eq_some_iff.mp found
    exact .inr (names (.str id, name) (by simp [split]))

theorem handleToolResult_meets {content : PyStr} {isError : Bool}
    (bracketed : Bracketed hex consumed received before processor)
    (idIsStr : toolId.IsStr) :
    Meets before (processor.handleToolResult tools toolId content isError)
      (Bracketed hex (consumed ++ [.toolResult toolId content isError]) received) := by
  refine (closeReasoningIfOpen_meets bracketed).andThen ?_
  rintro events after ⟨bracketed, -⟩
  obtain ⟨sanitized, isOk⟩ := toolResultContent_ok bracketed.toolNames idIsStr
  rw [isOk]
  exact ⟨rfl, bracketed.quiet _ (.toolCallResult _ _ _) rfl rfl rfl rfl rfl
    bracketed.openTools bracketed.toolNames⟩

theorem synthOrphanToolEnds_meets (bracketed : Bracketed hex consumed received before processor) :
    Meets before processor.synthOrphanToolEnds fun events after =>
      Bracketed hex consumed received events after ∧ after.openText = processor.openText ∧
        after.openReasoning = processor.openReasoning := by
  obtain ⟨toolIds, sorted, -⟩ := sortedOpenTools_ok bracketed.openTools
  unfold synthOrphanToolEnds
  rw [sorted]
  refine ⟨rfl, ?_, rfl, rfl⟩
  refine bracketed.emit (bracketed.text.other ?_)
    (bracketed.reasoning.other ?_) ?_ ?_ le_rfl (List.forall_mem_nil _)
    bracketed.toolNames rfl
  · simp [RenderEvent.textMark]
  · simp [RenderEvent.reasoningMark]
  · simp [RenderEvent.isBody]
  · simp [textDeltas, RenderEvent.delta]

theorem closeOpenBlocks_meets (bracketed : Bracketed hex consumed received before processor) :
    Meets before processor.closeOpenBlocks fun events after =>
      Bracketed hex consumed received events after ∧
        after.openText = [] ∧ after.openReasoning = [] := by
  refine (closeReasoningAndText_meets bracketed).andThen ?_
  rintro events after ⟨bracketed, noText, noReasoning⟩
  refine (synthOrphanToolEnds_meets bracketed).mono ?_
  rintro events last ⟨bracketed, sameText, sameReasoning⟩
  exact ⟨bracketed, sameText.trans noText, sameReasoning.trans noReasoning⟩

theorem handleResult_meets (bracketed : Bracketed hex consumed received before processor)
    {event : LlmEvent} (chunk : event.chunk = none) :
    Meets before processor.handleResult fun events after =>
      Bracketed hex (consumed ++ [event]) received events after ∧
        after.openText = [] ∧ after.openReasoning = [] := by
  refine (closeOpenBlocks_meets bracketed).mono ?_
  rintro events after ⟨bracketed, closed⟩
  refine ⟨?_, closed⟩
  rw [← List.append_nil events]
  exact bracketed.extend [event] (by simpa using bracketed.text)
    (by simpa using bracketed.reasoning) (List.forall_mem_nil _)
    (by simp [textDeltas, inputTexts, chunk])
    (by simpa using bracketed.minted.trans (Nat.le_succ _))
    bracketed.openTools bracketed.toolNames rfl

theorem dispatchEvent_meets (bracketed : Bracketed hex consumed received before processor)
    (fresh : Fresh hex consumed) {event : LlmEvent}
    (wellTyped : event.WellTyped) (progress : event.isResult = false) :
    Meets before ((processor.noteResult event).dispatchEvent tools hex event)
      (Bracketed hex (consumed ++ [event]) received) := by
  cases event with
  | text text => exact handleText_meets bracketed fresh wellTyped
  | thinking text => exact handleThinking_meets bracketed fresh
  | toolUse toolName toolId input =>
    exact handleToolUse_meets bracketed wellTyped.1 wellTyped.2.1
  | toolUseDelta toolId partialJson =>
    exact handleToolUseDelta_meets bracketed
  | toolUseEnd toolId => exact handleToolUseEnd_meets bracketed wellTyped
  | toolResult toolId content isError =>
    exact handleToolResult_meets bracketed wellTyped
  | result => cases progress

/-- The state in which a run can end: after a result nothing is open. -/
def Settled (hex : Nat → String) (consumed : List LlmEvent)
    (events : List (RenderEvent Json)) (processor : StreamProcessor) : Prop :=
  ∃ received, Bracketed hex consumed received events processor ∧ (received = true →
      processor.openText = [] ∧ processor.openReasoning = [])

theorem dispatchResult_meets (bracketed : Bracketed hex consumed received before processor)
    {event : LlmEvent} (isResult : event.isResult = true) :
    Meets before ((processor.noteResult event).dispatchEvent tools hex event)
      (Settled hex (consumed ++ [event])) := by
  cases event with
  | result isError durationMs errorText sessionId workerError =>
    have noted : Bracketed hex consumed true before (processor.noteResult
        (.result isError durationMs errorText sessionId workerError)) :=
      { bracketed with received := rfl }
    exact (handleResult_meets noted rfl).mono
      fun _ _ ⟨bracketed, closed⟩ => ⟨true, bracketed, fun _ => closed⟩
  | _ => cases isResult

theorem dispatchEvents_meets {events : List LlmEvent}
    (bracketed : Bracketed hex consumed false before processor)
    (distinct : Set.InjOn hex (Set.Iio (consumed ++ events).length))
    (wellTyped : ∀ event ∈ events, event.WellTyped)
    (resultLast : ResultLast events) :
    Meets before (dispatchEvents tools hex events processor)
      (Settled hex (consumed ++ events)) := by
  induction events generalizing consumed before processor with
  | nil => exact ⟨rfl, false, by simpa [dispatchEvents] using bracketed, nofun⟩
  | cons event events ih =>
    rw [List.append_cons] at distinct ⊢
    have fresh : Fresh hex consumed := fresh_of_injOn distinct (by simp)
    cases events with
    | nil =>
      rw [List.append_nil]
      have stops : ∀ events after, Settled hex (consumed ++ [event])
          events after → Meets events (dispatchEvents tools hex [] after)
            (Settled hex (consumed ++ [event])) :=
        fun _ _ settled => ⟨rfl, by simpa [dispatchEvents] using settled⟩
      refine Meets.andThen ?_ stops
      cases isResult : event.isResult with
      | true => exact dispatchResult_meets bracketed isResult
      | false =>
        exact (dispatchEvent_meets bracketed fresh (wellTyped event (by simp)) isResult).mono
          fun _ _ bracketed => ⟨false, bracketed, nofun⟩
    | cons next events =>
      have progress := resultLast event (by simp)
      refine (dispatchEvent_meets bracketed fresh (wellTyped event (by simp)) progress).andThen ?_
      intro _ _ bracketed
      exact ih bracketed distinct (fun later member => wellTyped later (by simp [member]))
        fun later member => resultLast later (by simp [member])

theorem finish_isTerminal (processor : StreamProcessor) (resolveUserError) (runId : String) :
    (processor.finish resolveUserError runId).isTerminal = true := by
  unfold finish
  split <;> rfl

/-- The state in which the last event of a run is emitted. -/
def Closed (hex : Nat → String) (consumed : List LlmEvent)
    (events : List (RenderEvent Json)) (processor : StreamProcessor) : Prop :=
  ∃ received, Bracketed hex consumed received events processor ∧
    processor.openText = [] ∧ processor.openReasoning = []

theorem endOfInput_meets (settled : Settled hex consumed before processor) :
    Meets before (endOfInput .stopped processor) (Closed hex consumed) := by
  obtain ⟨received, bracketed, closed⟩ := settled
  simp only [endOfInput, bracketed.received]
  cases received with
  | true =>
    exact ⟨rfl, true, by simpa using bracketed, closed rfl⟩
  | false =>
    exact (closeOpenBlocks_meets bracketed).mono
      fun _ _ closed => ⟨false, closed⟩

theorem closeExceptionPath_meets (settled : Settled hex consumed before processor) :
    Meets before processor.closeExceptionPath (Closed hex consumed) := by
  obtain ⟨received, bracketed, -⟩ := settled
  exact (closeOpenBlocks_meets bracketed).mono
    fun _ _ closed => ⟨received, closed⟩

variable {runId : String} {input : List LlmEvent × Ending} {output : Emitted}
variable {terminal : RenderEvent Json}

theorem Closed.wellBracketed (closed : Closed hex input.1 before processor)
    (isTerminal : terminal.isTerminal = true)
    (events : output.events = .runStarted (.ofString runId) :: (before ++ [terminal]))
    (raised : output.raised = input.2.exception) :
    WellBracketed runId input output before terminal := by
  obtain ⟨received, bracketed, noText, noReasoning⟩ := closed
  have text := bracketed.text
  have reasoning := bracketed.reasoning
  rw [noText] at text
  rw [noReasoning] at reasoning
  exact {
    events := events
    isTerminal := isTerminal
    isBody := bracketed.isBody
    raised := raised
    textBlocks := fun _ member _ belongs => text.block_of_mem member belongs
    oneText := text.one
    reasoningBlocks := fun _ member _ belongs =>
      reasoning.block_of_mem member belongs
    oneReasoning := reasoning.one
    deltas := congrArg concatenation bracketed.deltas }

end Handlers

section Runs

variable (resolveUserError : Option WorkerError → Option String → String)
variable (runId : String) {events : List LlmEvent} {started : StreamProcessor}

theorem conclude_stopped (settled : Meets [] (dispatchEvents tools hex events started)
      (Settled hex events)) :
    ∃ body terminal after, Closed hex events body after ∧ terminal.isTerminal = true ∧
      conclude resolveUserError runId (started.processEvents tools hex (events, .stopped)) =
        { events := body ++ [terminal], processor := after } := by
  have ended : Meets [] (started.processEvents tools hex (events, .stopped)) (Closed hex events) :=
    settled.andThen fun _ _ settled => endOfInput_meets settled
  refine ⟨(started.processEvents tools hex (events, .stopped)).events, finish resolveUserError runId
      (started.processEvents tools hex (events, .stopped)).processor,
    _, ended.2, finish_isTerminal _ resolveUserError runId, ?_⟩
  unfold conclude
  rw [ended.1]

/-- The input raises one of `_STREAM_INFRA_ERRORS`. -/
theorem conclude_raised {raised : PyError} (infra : raised.isStreamInfraError = true)
    (settled : Meets [] (dispatchEvents tools hex events started) (Settled hex events)) :
    ∃ body terminal after, Closed hex events body after ∧ terminal.isTerminal = true ∧
      conclude resolveUserError runId (started.processEvents tools hex (events, .raised raised)) =
        { events := body ++ [terminal]
          raised := some raised
          processor := after } := by
  have shut := closeExceptionPath_meets settled.2
  refine ⟨_, .runError (.ofString runId) (.ofString raised.name)
    (some (.ofString "stream.error")), _, shut.2, rfl, ?_⟩
  simp [conclude, processEvents, Emitted.andThen, endOfInput, settled.1, fail, infra, shut.1]

variable {input : List LlmEvent × Ending} {showIntermediate : Bool}

/-- Every run is well bracketed: it opens with `RunStarted`, closes every
block it opens and ends in one terminal event, whichever way its input
ends. -/
theorem process_wellBracketed (wellTyped : ∀ event ∈ input.1, event.WellTyped)
    (resultLast : ResultLast input.1)
    (infra : ∀ raised, input.2 = .raised raised → raised.isStreamInfraError = true)
    (distinct : Set.InjOn hex (Set.Iio input.1.length)) :
    ∃ body terminal, WellBracketed runId input (process tools hex resolveUserError runId
        { showIntermediate := showIntermediate } input) body terminal := by
  obtain ⟨events, ending⟩ := input
  have start : Bracketed hex [] false []
      { showIntermediate := showIntermediate, consumed := true } :=
    { text := .nil
      reasoning := .nil
      isBody := List.forall_mem_nil _
      deltas := rfl
      minted := le_rfl
      openTools := List.forall_mem_nil _
      toolNames := List.forall_mem_nil _
      received := rfl }
  have settled : Meets [] (dispatchEvents tools hex events
      { showIntermediate := showIntermediate, consumed := true })
      (Settled hex events) :=
    dispatchEvents_meets start distinct wellTyped resultLast
  cases ending with
  | stopped =>
    obtain ⟨body, terminal, after, closed, isTerminal, concluded⟩ :=
      conclude_stopped resolveUserError runId settled
    exact ⟨body, terminal, closed.wellBracketed isTerminal
      (by simp [process, concluded]) (by simp [process, concluded]; rfl)⟩
  | raised raised =>
    obtain ⟨body, terminal, after, closed, isTerminal, concluded⟩ :=
      conclude_raised resolveUserError runId (infra raised rfl) settled
    exact ⟨body, terminal, closed.wellBracketed isTerminal
      (by simp [process, concluded]) (by simp [process, concluded]; rfl)⟩

/-- A turn with reasoning, text around a tool call, and a time-out before the
result. -/
def interleaved : List LlmEvent × Ending :=
  ([.thinking (.ofString "plan"), .text (.ofString "looking"),
    .toolUse (.ofString "grep") (.ofString "call") (.obj []),
    .text (.ofString "found"), .toolUseEnd (.ofString "call")],
    .raised .timeoutError)

theorem process_wellBracketed_interleaved : ∃ body terminal, WellBracketed "run" interleaved
      (process .ascii (fun index => String.ofList (List.replicate index 'a'))
        (fun _ _ => "error") "run" {} interleaved) body terminal := by
  refine process_wellBracketed _ _ ?_ ?_ ?_ ?_
  · simp [interleaved, LlmEvent.WellTyped, Json.IsStr, Json.ofString]
  · simp [ResultLast, interleaved, LlmEvent.isResult]
  · rintro raised ⟨⟩
    rfl
  · intro left _ right _ same
    simpa using congrArg String.length same

end Runs

end StreamProcessor

end RoxabiFactory
