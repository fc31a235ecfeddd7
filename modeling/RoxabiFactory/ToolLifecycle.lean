import RoxabiFactory.CliToolEvents
import RoxabiFactory.StreamBrackets
import Mathlib.Data.List.Nodup

/-!
# The life of a tool call from the CLI to the render events

The parser's events of a tool id are in order, the processor writes each of
them as one render event of the same id, and closing a run ends the tool calls
that are still open.  Closing sorts and slices the open ids, which raises when
one of them is not a string, so a run with such an id open ends without the
missing ends and without a terminal event, and so does a run that ends with an
exception that `_STREAM_INFRA_ERRORS` leaves out.
-/

namespace RoxabiFactory

open Blocks

def RenderEvent.toolMark : RenderEvent Json → Mark Json
  | .toolCallStart toolCallId .. => .opens toolCallId
  | .toolCallArgs toolCallId .. => .inside toolCallId
  | .toolCallEnd toolCallId .. => .closes toolCallId
  | _ => .other

/-- An event of the tool stands in the output. -/
def Mentions (output : List (RenderEvent Json)) (toolId : PyStr) : Prop :=
  ∃ event ∈ output, event.toolMark.key = some (.str toolId)

/-- One start, one end after it and every delta between the two, all before
the event that ends the run. -/
def Lifecycle (output : List (RenderEvent Json)) (toolId : PyStr) : Prop :=
  ∃ body terminal, output = body ++ [terminal] ∧ terminal.isTerminal = true ∧
    (∀ event ∈ body, event.isTerminal = false) ∧
    Block (.str toolId) (body.map RenderEvent.toolMark)

namespace StreamProcessor

variable {toolId : PyStr} {received : Bool} {phase after : Phase}
variable {before : List (RenderEvent Json)} {processor : StreamProcessor}

/-- The processor knows a tool id as the output so far shows it. -/
structure Mirrors (toolId : PyStr) (received : Bool)
    (events : List (RenderEvent Json)) (processor : StreamProcessor)
    (phase : Phase) : Prop where
  reached : phaseOf (.str toolId) (events.map RenderEvent.toolMark) = some phase
  isOpen : HashKey.str toolId ∈ processor.openTools.map Prod.fst ↔ phase = .open
  named : HashKey.str toolId ∈ processor.toolNames.map Prod.fst ↔ phase ≠ .unused
  keys : (processor.openTools.map Prod.fst).Nodup
  ids : ∀ tool ∈ processor.openTools, tool.2.hashKey = .ok tool.1
  progress : ∀ event ∈ events, event.isTerminal = false
  received : processor.resultReceived = received

/-- The event is neither a tool event nor the end of a run. -/
def Aside (event : RenderEvent Json) : Prop := event.toolMark = .other ∧ event.isTerminal = false

namespace Mirrors

theorem aside (mirrors : Mirrors toolId received before processor phase)
    {more : List (RenderEvent Json)} (asides : ∀ event ∈ more, Aside event)
    (next : StreamProcessor) (openTools : next.openTools = processor.openTools)
    (toolNames : next.toolNames = processor.toolNames)
    (same : next.resultReceived = processor.resultReceived) :
    Mirrors toolId received (before ++ more) next phase where
  reached := by
    induction more using List.reverseRecOn with
    | nil => simpa using mirrors.reached
    | append_singleton more event ih =>
      rw [← List.append_assoc, List.map_append, List.map_singleton,
        phaseOf_append_one (ih fun earlier member =>
          asides earlier (by simp [member])),
        (asides event (by simp)).1]
      exact Phase.next_of_ne (by rintro ⟨⟩)
  isOpen := openTools ▸ mirrors.isOpen
  named := toolNames ▸ mirrors.named
  keys := openTools ▸ mirrors.keys
  ids := openTools ▸ mirrors.ids
  progress := fun event member => (List.mem_append.mp member).elim
    (mirrors.progress event) fun new => (asides event new).2
  received := same.trans mirrors.received

theorem emit (mirrors : Mirrors toolId received before processor phase)
    (event : RenderEvent Json) (progress : event.isTerminal = false)
    (steps : phase.next (.str toolId) event.toolMark = some after)
    {next : StreamProcessor}
    (isOpen : HashKey.str toolId ∈ next.openTools.map Prod.fst ↔ after = .open)
    (named : HashKey.str toolId ∈ next.toolNames.map Prod.fst ↔ after ≠ .unused)
    (keys : (next.openTools.map Prod.fst).Nodup)
    (ids : ∀ tool ∈ next.openTools, tool.2.hashKey = .ok tool.1)
    (same : next.resultReceived = processor.resultReceived) :
    Mirrors toolId received (before ++ [event]) next after where
  reached := by
    rw [List.map_append, List.map_singleton, phaseOf_append_one mirrors.reached]
    exact steps
  isOpen := isOpen
  named := named
  keys := keys
  ids := ids
  progress := fun other member => (List.mem_append.mp member).elim
    (mirrors.progress other) fun new => List.mem_singleton.mp new ▸ progress
  received := same.trans mirrors.received

end Mirrors

theorem closeReasoningIfOpen_mirrors (mirrors : Mirrors toolId received before processor phase) :
    Meets before processor.closeReasoningIfOpen fun events next =>
      Mirrors toolId received events next phase ∧
        next.openTools = processor.openTools := by
  unfold closeReasoningIfOpen
  split
  · exact ⟨rfl, by simpa using mirrors, rfl⟩
  · exact ⟨rfl, mirrors.aside (by simp [Aside, RenderEvent.toolMark,
      RenderEvent.isTerminal]) _ rfl rfl rfl, rfl⟩

theorem closeTextIfOpen_mirrors (mirrors : Mirrors toolId received before processor phase) :
    Meets before processor.closeTextIfOpen fun events next =>
      Mirrors toolId received events next phase ∧
        next.openTools = processor.openTools := by
  unfold closeTextIfOpen
  split
  · exact ⟨rfl, by simpa using mirrors, rfl⟩
  · exact ⟨rfl, mirrors.aside (by simp [Aside, RenderEvent.toolMark,
      RenderEvent.isTerminal]) _ rfl rfl rfl, rfl⟩

theorem closeReasoningAndText_mirrors (mirrors : Mirrors toolId received before processor phase) :
    Meets before (processor.closeReasoningIfOpen.andThen closeTextIfOpen)
      fun events next => Mirrors toolId received events next phase ∧
        next.openTools = processor.openTools := by
  refine (closeReasoningIfOpen_mirrors mirrors).andThen ?_
  rintro events middle ⟨mirrors, same⟩
  refine (closeTextIfOpen_mirrors mirrors).mono ?_
  rintro events last ⟨mirrors, sameTools⟩
  exact ⟨mirrors, sameTools.trans same⟩

/-- What a handler of an event with this mark leaves behind: the phase moves
on unless the handler raises. -/
def Follows (toolId : PyStr) (received : Bool)
    (before : List (RenderEvent Json)) (phase after : Phase)
    (emitted : Emitted) : Prop :=
  (emitted.raised = none ∧ Mirrors toolId received
      (before ++ emitted.events) emitted.processor after) ∨
    (emitted.raised ≠ none ∧ Mirrors toolId received
      (before ++ emitted.events) emitted.processor phase)

theorem Meets.follows {first : Emitted} {middle : List (RenderEvent Json) → StreamProcessor → Prop}
    {next : StreamProcessor → Emitted} (meets : Meets before first middle)
    (nextFollows : ∀ events processor, middle events processor →
      Follows toolId received events phase after (next processor)) :
    Follows toolId received before phase after (first.andThen next) := by
  have rest := nextFollows _ _ meets.2
  unfold Emitted.andThen
  rw [meets.1]
  simpa [Follows] using rest

section Handlers

open CliStreamingParser (hashKey_eq_str)

variable {toolName value input partialJson : Json} {key : HashKey}

theorem key_eq_iff (hashed : value.hashKey = .ok key) :
    key = .str toolId ↔ value = .str toolId := by
  constructor
  · rintro rfl
    exact hashKey_eq_str hashed
  · rintro rfl
    exact (Except.ok.inj hashed).symm

theorem mem_keys_openTool {processor : StreamProcessor} {other : HashKey} :
    other ∈ (processor.openTool key value).openTools.map Prod.fst ↔
      other ∈ processor.openTools.map Prod.fst ∨ other = key := by
  unfold openTool
  split
  · rename_i present
    exact ⟨.inl, Or.rec id fun same => same ▸ present⟩
  · simp

theorem mem_names_nameTool {processor : StreamProcessor} {other : HashKey} :
    other ∈ (processor.nameTool key toolName).toolNames.map Prod.fst ↔
      other ∈ processor.toolNames.map Prod.fst ∨ other = key := by
  by_cases same : other = key
  · simp [nameTool, same]
  · simp [nameTool, same]

theorem keys_openTool {processor : StreamProcessor}
    (keys : (processor.openTools.map Prod.fst).Nodup) :
    ((processor.openTool key value).openTools.map Prod.fst).Nodup := by
  unfold openTool
  split
  · exact keys
  · rename_i absent
    rw [List.map_append, List.nodup_append]
    refine ⟨keys, by simp, ?_⟩
    intro old oldMember new newMember same
    obtain rfl : new = key := by simpa using newMember
    exact absent (same ▸ oldMember)

theorem Mirrors.start (mirrors : Mirrors toolId received before processor phase)
    (hashed : value.hashKey = .ok key) {input : Option Json}
    (steps : phase.next (.str toolId) (.opens value) = some after) :
    Mirrors toolId received (before ++ [.toolCallStart value toolName input])
      ((processor.openTool key value).nameTool key toolName) after := by
  have own : key = .str toolId ↔ value = .str toolId := key_eq_iff hashed
  obtain ⟨openTools, opens, fromId⟩ := processor.openTool_eq key value
  have ids : ∀ tool ∈ (processor.openTool key value).openTools, tool.2.hashKey = .ok tool.1 := by
    rw [opens]
    intro tool member
    rcases fromId tool member with old | rfl
    · exact mirrors.ids tool old
    · exact hashed
  have kept : (processor.openTool key value).resultReceived =
      processor.resultReceived := by rw [opens]
  have sameNames : (processor.openTool key value).toolNames =
      processor.toolNames := by rw [opens]
  have opened : HashKey.str toolId ∈ (processor.openTool key value).openTools.map Prod.fst ↔
        after = .open := by
    rw [mem_keys_openTool, mirrors.isOpen]
    by_cases same : value = .str toolId
    · subst same
      obtain ⟨rfl, rfl⟩ := Phase.of_next_opens steps
      simp [own.mpr rfl]
    · obtain rfl := Phase.of_next_ne rfl same steps
      simp [eq_comm, own, same]
  have named : HashKey.str toolId ∈
      ((processor.openTool key value).nameTool key toolName).toolNames.map
        Prod.fst ↔ after ≠ .unused := by
    rw [mem_names_nameTool, sameNames, mirrors.named]
    by_cases same : value = .str toolId
    · subst same
      obtain ⟨rfl, rfl⟩ := Phase.of_next_opens steps
      simp [own.mpr rfl]
    · obtain rfl := Phase.of_next_ne rfl same steps
      simp [eq_comm, own, same]
  exact mirrors.emit (.toolCallStart value toolName input) rfl steps opened
    named (keys_openTool mirrors.keys) ids kept

theorem handleToolUse_follows (mirrors : Mirrors toolId received before processor phase)
    (steps : phase.next (.str toolId) (.opens value) = some after) :
    Follows toolId received before phase after (processor.handleToolUse toolName value input) := by
  refine (closeReasoningAndText_mirrors mirrors).follows ?_
  rintro events middle ⟨mirrors, -⟩
  cases hashed : value.hashKey with
  | error raised => exact .inr ⟨nofun, by simpa using mirrors⟩
  | ok key => exact .inl ⟨rfl, mirrors.start hashed steps⟩

theorem handleToolUseDelta_follows (mirrors : Mirrors toolId received before processor phase)
    (steps : phase.next (.str toolId) (.inside value) = some after) :
    Follows toolId received before phase after
      (processor.handleToolUseDelta value partialJson) := by
  refine (closeReasoningIfOpen_mirrors mirrors).follows ?_
  rintro events middle ⟨mirrors, -⟩
  have same : after = phase := by
    by_cases own : value = .str toolId
    · subst own
      obtain ⟨rfl, rfl⟩ := Phase.of_next_inside steps
      rfl
    · exact Phase.of_next_ne rfl own steps
  subst same
  exact .inl ⟨rfl, mirrors.emit (.toolCallArgs value partialJson) rfl steps
    mirrors.isOpen mirrors.named mirrors.keys mirrors.ids rfl⟩

theorem Mirrors.finish (mirrors : Mirrors toolId received before processor phase)
    (hashed : value.hashKey = .ok key)
    (steps : phase.next (.str toolId) (.closes value) = some after) :
    Mirrors toolId received (before ++ [.toolCallEnd value]) (processor.closeTool key) after := by
  have own : key = .str toolId ↔ value = .str toolId := key_eq_iff hashed
  have fewer : ((processor.closeTool key).openTools).Sublist
      processor.openTools := List.filter_sublist
  have opened : HashKey.str toolId ∈ (processor.closeTool key).openTools.map Prod.fst ↔
        after = .open := by
    have kept : HashKey.str toolId ∈ (processor.closeTool key).openTools.map Prod.fst ↔
          HashKey.str toolId ∈ processor.openTools.map Prod.fst ∧
            key ≠ .str toolId := by
      simp only [closeTool, List.mem_map, List.mem_filter]
      constructor
      · rintro ⟨tool, ⟨member, other⟩, same⟩
        exact ⟨⟨tool, member, same⟩,
          fun equal => of_decide_eq_true other (same.trans equal.symm)⟩
      · rintro ⟨⟨tool, member, same⟩, other⟩
        exact ⟨tool, ⟨member, decide_eq_true
          fun equal => other (equal.symm.trans same)⟩, same⟩
    rw [kept, mirrors.isOpen]
    by_cases same : value = .str toolId
    · subst same
      obtain ⟨rfl, rfl⟩ := Phase.of_next_closes steps
      simp [own.mpr rfl]
    · obtain rfl := Phase.of_next_ne rfl same steps
      simp [own, same]
  have named : HashKey.str toolId ∈ processor.toolNames.map Prod.fst ↔
      after ≠ .unused := by
    rw [mirrors.named]
    by_cases same : value = .str toolId
    · subst same
      obtain ⟨rfl, rfl⟩ := Phase.of_next_closes steps
      simp
    · obtain rfl := Phase.of_next_ne rfl same steps
      rfl
  exact mirrors.emit (.toolCallEnd value) rfl steps opened named
    (mirrors.keys.sublist (fewer.map _))
    (fun tool member => mirrors.ids tool (fewer.subset member)) rfl

theorem handleToolUseEnd_follows (mirrors : Mirrors toolId received before processor phase)
    (steps : phase.next (.str toolId) (.closes value) = some after) :
    Follows toolId received before phase after (processor.handleToolUseEnd value) := by
  refine (closeReasoningIfOpen_mirrors mirrors).follows ?_
  rintro events middle ⟨mirrors, -⟩
  split
  · exact .inr ⟨nofun, by simpa using mirrors⟩
  · rename_i none raised hashed
    have different : value ≠ .str toolId := by
      rintro rfl
      cases hashed
    obtain rfl := Phase.of_next_ne rfl different steps
    exact .inl ⟨rfl, mirrors.emit (.toolCallEnd value) rfl steps
      mirrors.isOpen mirrors.named mirrors.keys mirrors.ids rfl⟩
  · rename_i key hashed
    exact .inl ⟨rfl, mirrors.finish hashed steps⟩

variable {tools : PythonText} {hex : Nat → String} {text : Json}

theorem handleToolResult_mirrors {content : PyStr} {isError : Bool}
    (mirrors : Mirrors toolId received before processor phase) :
    Follows toolId received before phase phase
      (processor.handleToolResult tools value content isError) := by
  refine (closeReasoningIfOpen_mirrors mirrors).follows ?_
  rintro events middle ⟨mirrors, -⟩
  split
  · exact .inr ⟨nofun, by simpa using mirrors⟩
  · exact .inl ⟨rfl, mirrors.aside (by simp [Aside, RenderEvent.toolMark,
      RenderEvent.isTerminal]) _ rfl rfl rfl⟩

theorem writeText_mirrors (mirrors : Mirrors toolId received before processor phase) :
    Follows toolId received before phase phase (processor.writeText hex text) := by
  unfold writeText
  split <;>
    exact .inl ⟨rfl, mirrors.aside (by simp [Aside, RenderEvent.toolMark,
      RenderEvent.isTerminal]) _ rfl rfl rfl⟩

theorem handleText_mirrors (mirrors : Mirrors toolId received before processor phase) :
    Follows toolId received before phase phase (processor.handleText hex text) := by
  refine (closeReasoningIfOpen_mirrors mirrors).follows ?_
  rintro events middle ⟨mirrors, -⟩
  split
  · exact writeText_mirrors mirrors
  · exact .inr ⟨nofun, by simpa using mirrors⟩

theorem handleThinking_mirrors (mirrors : Mirrors toolId received before processor phase) :
    Follows toolId received before phase phase (processor.handleThinking hex text) := by
  unfold handleThinking
  split
  · exact .inl ⟨rfl, by simpa using mirrors⟩
  · split <;>
      exact .inl ⟨rfl, mirrors.aside (by simp [Aside, RenderEvent.toolMark,
        RenderEvent.isTerminal]) _ rfl rfl rfl⟩

theorem dispatchEvent_follows {event : LlmEvent} (progress : event.isResult = false)
    (mirrors : Mirrors toolId received before processor phase)
    (steps : phase.next (.str toolId) event.toolMark = some after) :
    Follows toolId received before phase after
      ((processor.noteResult event).dispatchEvent tools hex event) := by
  have same : event.toolMark = .other → after = phase := by
    intro other
    rw [other, Phase.next_of_ne (by simp [Mark.key])] at steps
    exact (Option.some.inj steps).symm
  cases event with
  | text text =>
    obtain rfl := same rfl
    exact handleText_mirrors mirrors
  | thinking text =>
    obtain rfl := same rfl
    exact handleThinking_mirrors mirrors
  | toolUse toolName value input => exact handleToolUse_follows mirrors steps
  | toolUseDelta value partialJson =>
    exact handleToolUseDelta_follows mirrors steps
  | toolUseEnd value => exact handleToolUseEnd_follows mirrors steps
  | toolResult value content isError =>
    obtain rfl := same rfl
    exact handleToolResult_mirrors mirrors
  | result => cases progress

/-- The loop up to the result or the first exception, by induction on the
events. -/
theorem dispatchEvents_mirrors {events : List LlmEvent}
    (progress : ∀ event ∈ events, event.isResult = false)
    (mirrors : Mirrors toolId received before processor phase)
    (steps : (events.map LlmEvent.toolMark).foldlM (Phase.next (.str toolId)) phase = some after) :
    ∃ reached, Mirrors toolId received
      (before ++ (dispatchEvents tools hex events processor).events)
      (dispatchEvents tools hex events processor).processor reached := by
  induction events generalizing before processor phase with
  | nil => exact ⟨phase, by simpa [dispatchEvents] using mirrors⟩
  | cons event events ih =>
    rw [List.map_cons, List.foldlM_cons] at steps
    obtain ⟨middle, first, rest⟩ := Option.bind_eq_some_iff.mp steps
    unfold dispatchEvents Emitted.andThen
    have dispatched : Follows toolId received before phase middle
        ((processor.noteResult event).dispatchEvent tools hex event) :=
      dispatchEvent_follows (progress event (by simp)) mirrors first
    rcases dispatched with ⟨quiet, follows⟩ | ⟨raises, follows⟩
    · rw [quiet]
      obtain ⟨reached, mirrors⟩ := ih
        (fun later member => progress later (by simp [member])) follows rest
      exact ⟨reached, by simpa using mirrors⟩
    · obtain ⟨raised, isRaised⟩ := Option.ne_none_iff_exists'.mp raises
      rw [isRaised]
      exact ⟨phase, follows⟩

end Handlers

section Closing

/-- Ends of strings, in any order and without duplicates, close the tool when
it is among them. -/
theorem foldlM_ends {toolIds : List PyStr} (distinct : toolIds.Nodup)
    (isOpen : toolId ∈ toolIds → phase = .open) :
    (toolIds.map fun ended => Mark.closes (Json.str ended)).foldlM
        (Phase.next (.str toolId)) phase =
      some (if toolId ∈ toolIds then .closed else phase) := by
  induction toolIds generalizing phase with
  | nil => simp
  | cons ended toolIds ih =>
    obtain ⟨absent, distinct⟩ := List.nodup_cons.mp distinct
    rw [List.map_cons, List.foldlM_cons]
    by_cases own : ended = toolId
    · subst own
      obtain rfl := isOpen (by simp)
      have shut := @ih .closed distinct fun member => absurd member absent
      rw [if_neg absent] at shut
      simpa [Phase.next, Mark.key] using shut
    · rw [Phase.next_of_ne (by simpa [Mark.key] using own)]
      have rest := ih distinct fun member => isOpen (by simp [member])
      simpa [Ne.symm own] using rest

namespace Mirrors

theorem nodup_ids (mirrors : Mirrors toolId received before processor phase) :
    (processor.openTools.map Prod.snd).Nodup := by
  have keys := mirrors.keys
  rw [List.Nodup, List.pairwise_map] at keys ⊢
  refine keys.imp_of_mem ?_
  intro tool other member otherMember different same
  have first := mirrors.ids tool member
  have second := mirrors.ids other otherMember
  rw [same, second] at first
  exact different (Except.ok.inj first).symm

theorem mem_ids (mirrors : Mirrors toolId received before processor phase) :
    .str toolId ∈ processor.openTools.map Prod.snd ↔ phase = .open := by
  rw [← mirrors.isOpen]
  constructor
  · intro member
    obtain ⟨⟨key, value⟩, isTool, same⟩ := List.mem_map.mp member
    obtain rfl : value = .str toolId := same
    obtain rfl : HashKey.str toolId = key := Except.ok.inj (mirrors.ids _ isTool)
    exact List.mem_map_of_mem isTool
  · intro member
    obtain ⟨⟨key, value⟩, isTool, same⟩ := List.mem_map.mp member
    obtain rfl : key = .str toolId := same
    have own := CliStreamingParser.hashKey_eq_str (mirrors.ids _ isTool)
    exact List.mem_map.mpr ⟨_, isTool, own⟩

end Mirrors

theorem synthOrphanToolEnds_closes (mirrors : Mirrors toolId received before processor phase)
    (strings : ∀ tool ∈ processor.openTools, tool.2.IsStr) :
    Meets before processor.synthOrphanToolEnds fun events next =>
      ∃ after, after ≠ .open ∧
        Mirrors toolId received events next after := by
  obtain ⟨toolIds, sorted, perm⟩ := sortedOpenTools_ok strings
  have distinct : toolIds.Nodup := List.Nodup.of_map _ (perm.nodup_iff.mpr mirrors.nodup_ids)
  have mem : toolId ∈ toolIds ↔ phase = .open := by
    rw [← mirrors.mem_ids, ← perm.mem_iff]
    simp
  have ends := foldlM_ends distinct mem.mp
  unfold synthOrphanToolEnds
  rw [sorted]
  have shut : (if toolId ∈ toolIds then Phase.closed else phase) ≠ .open := by
    split
    · exact nofun
    · exact fun isOpen => absurd (mem.mpr isOpen) ‹_›
  have touched : (if toolId ∈ toolIds then Phase.closed else phase) ≠
      .unused ↔ phase ≠ .unused := by
    split
    · rw [mem.mp ‹_›]
      simp
    · rfl
  refine ⟨rfl, _, shut, ?_⟩
  exact {
    reached := by
      rw [List.map_append, phaseOf_append, mirrors.reached, Option.bind_some, ← ends, List.map_map]
      rfl
    isOpen := by simpa using shut
    named := mirrors.named.trans touched.symm
    keys := .nil
    ids := List.forall_mem_nil _
    progress := by
      intro event member
      rcases List.mem_append.mp member with old | new
      · exact mirrors.progress event old
      · obtain ⟨ended, -, rfl⟩ := List.mem_map.mp new
        rfl
    received := mirrors.received }

theorem closeOpenBlocks_stuck (mirrors : Mirrors toolId received before processor phase)
    (mixed : ∃ tool ∈ processor.openTools, ¬ tool.2.IsStr) :
    processor.closeOpenBlocks.raised = some .typeError ∧ Mirrors toolId received
        (before ++ processor.closeOpenBlocks.events)
        processor.closeOpenBlocks.processor phase ∧
      processor.closeOpenBlocks.processor.openTools =
        processor.openTools := by
  obtain ⟨quiet, closed, same⟩ := closeReasoningAndText_mirrors mirrors
  have stuck := sortedOpenTools_error (same ▸ mixed)
  unfold closeOpenBlocks
  rw [Emitted.andThen, quiet]
  simp only [synthOrphanToolEnds, stuck, List.append_nil]
  exact ⟨trivial, closed, same⟩

theorem closeOpenBlocks_closes (mirrors : Mirrors toolId received before processor phase)
    (strings : ∀ tool ∈ processor.openTools, tool.2.IsStr) :
    Meets before processor.closeOpenBlocks fun events next =>
      ∃ after, after ≠ .open ∧
        Mirrors toolId received events next after := by
  refine (closeReasoningAndText_mirrors mirrors).andThen ?_
  rintro events middle ⟨mirrors, same⟩
  exact synthOrphanToolEnds_closes mirrors (same ▸ strings)

end Closing

section Runs

variable (tools : PythonText) (hex : Nat → String)
variable (resolveUserError : Option WorkerError → Option String → String)
variable (runId : String) (showIntermediate : Bool)

/-- A result, if there is one, is the last event and stops the input. -/
def ResultStops (input : List LlmEvent × Ending) : Prop :=
  ∃ progress, (∀ event ∈ progress, event.isResult = false) ∧
    (input.1 = progress ∨ ∃ result : LlmEvent, result.isResult = true ∧
      input = (progress ++ [result], .stopped))

theorem streamReads_resultStops (maxIdleRetries : Nat) (reads : List StdoutRead) :
    ∀ (parser : CliStreamingParser) (idleRetries : Nat), parser.done = false →
      ResultStops (StreamingIterator.streamReads tools parser
        maxIdleRetries idleRetries reads) := by
  have silent : ∀ ending, ResultStops ([], ending) :=
    fun ending => ⟨[], List.forall_mem_nil _, .inl rfl⟩
  induction reads with
  | nil => exact fun _ _ _ => silent _
  | cons read reads ih =>
    intro parser idleRetries running
    cases read with
    | died detail | eof detail | raises raised => exact silent _
    | timedOut =>
      unfold StreamingIterator.streamReads
      split
      · exact silent _
      · exact ih parser _ running
    | line line =>
      unfold StreamingIterator.streamReads
      cases parsed : parser.parseLine tools line with
      | error raised => exact silent _
      | ok result =>
        obtain ⟨next, events⟩ := result
        dsimp only
        rcases CliStreamingParser.parseLine_ensures tools running line
          _ parsed with ⟨⟨still, quiet⟩, -⟩ | ⟨⟨gone, event, single, isResult⟩, -⟩
        · have waiting : next.done = false := still.trans running
          obtain ⟨progress, none, stops⟩ := ih next 0 waiting
          rw [waiting, if_neg Bool.false_ne_true]
          refine ⟨events ++ progress, ?_, ?_⟩
          · intro event member
            exact (List.mem_append.mp member).elim (quiet event) (none event)
          · rcases stops with same | ⟨result, isResult, same⟩
            · exact .inl (by rw [same])
            · exact .inr ⟨result, isResult, by simp [same]⟩
        · obtain rfl : events = [event] := single
          rw [if_pos gone]
          exact ⟨[], List.forall_mem_nil _, .inr ⟨event, isResult, rfl⟩⟩

/-- The composition of the CLI streaming parser with the processor. -/
def renderReads (maxIdleRetries : Nat) (reads : List StdoutRead) : Emitted :=
  process tools hex resolveUserError runId { showIntermediate := showIntermediate }
    (StreamingIterator.stream tools { maxIdleRetries := maxIdleRetries, reads := reads })

/-- The processor before the run is closed: at the first exception of a
handler, at the result or at the end of the input. -/
def beforeClosing (input : List LlmEvent × Ending) : Emitted := dispatchEvents tools hex
    (input.1.takeWhile fun event => !event.isResult)
    { showIntermediate := showIntermediate, consumed := true }

/-- The run can be closed: its exception, if there is one, is one of
`_STREAM_INFRA_ERRORS`, and the ids of all open tool calls are strings. -/
def Closable (reached : Emitted) (ending : Ending) : Prop :=
  (∀ raised ∈ reached.raised.or ending.exception, raised.isStreamInfraError = true) ∧
    ∀ tool ∈ reached.processor.openTools, tool.2.IsStr

/-- A tool call with a non-empty id has been announced. -/
def Announced (reached : Emitted) : Prop := ∃ toolId, toolId ≠ PyStr.text "" ∧
    HashKey.str toolId ∈ reached.processor.toolNames.map Prod.fst

variable {tools hex resolveUserError runId showIntermediate}
variable {input : List LlmEvent × Ending} {reached processed : Emitted}

/-- How the events of the input end: the handlers or the input have raised, or
the blocks are closed. -/
inductive Shape (reached : Emitted) (ending : Ending) : Emitted → Prop
  | raised {raised : PyError} (raises : reached.raised.or ending.exception = some raised) :
      Shape reached ending { reached with raised := some raised }
  | closed (quiet : reached.raised.or ending.exception = none) (noted : StreamProcessor)
      (openTools : noted.openTools = reached.processor.openTools)
      (toolNames : noted.toolNames = reached.processor.toolNames) :
      Shape reached ending { noted.closeOpenBlocks with
        events := reached.events ++ noted.closeOpenBlocks.events }

theorem takeWhile_progress {progress more : List LlmEvent}
    (none : ∀ event ∈ progress, event.isResult = false)
    (stops : more.head?.all LlmEvent.isResult = true) :
    (progress ++ more).takeWhile (fun event => !event.isResult) =
      progress := by
  rw [List.takeWhile_append_of_pos fun event member => by
    simp [none event member]]
  cases more with
  | nil => simp
  | cons event more => simp [List.takeWhile, show event.isResult = true by
      simpa using stops]

theorem closeOpenBlocks_resultReceived (processor : StreamProcessor) :
    processor.closeOpenBlocks.processor.resultReceived =
      processor.resultReceived := by
  have kept : Meets [] (processor.closeReasoningIfOpen.andThen closeTextIfOpen)
      fun _ next => next.resultReceived = processor.resultReceived := by
    have first : Meets [] processor.closeReasoningIfOpen
        fun _ next => next.resultReceived = processor.resultReceived := by
      unfold closeReasoningIfOpen
      split <;> exact ⟨rfl, rfl⟩
    refine first.andThen ?_
    intro _ middle same
    unfold closeTextIfOpen
    split <;> exact ⟨rfl, same⟩
  unfold closeOpenBlocks
  rw [Emitted.andThen_of_none kept.1]
  refine Eq.trans ?_ kept.2
  unfold synthOrphanToolEnds
  split <;> rfl

theorem andThen_endOfInput {emitted : Emitted}
    (received : emitted.processor.resultReceived = true) :
    emitted.andThen (endOfInput .stopped) = emitted := by
  have same : endOfInput .stopped emitted.processor =
      { processor := emitted.processor } := if_pos received
  have stops := Emitted.andThen_stop emitted
  unfold Emitted.andThen at stops ⊢
  rwa [same]

theorem shape_of_raised {raised : PyError} (ending : Ending)
    (raises : reached.raised = some raised) :
    Shape reached ending reached := by
  have shape : Shape reached ending { reached with raised := some raised } :=
    .raised (by rw [raises]; rfl)
  rwa [← raises] at shape

theorem shape_of_endOfInput (ending : Ending) (waiting : reached.processor.resultReceived = false) :
    Shape reached ending (reached.andThen (endOfInput ending)) := by
  cases quiet : reached.raised with
  | some raised =>
    rw [Emitted.andThen_of_some quiet]
    exact shape_of_raised ending quiet
  | none =>
    rw [Emitted.andThen_of_none quiet]
    cases ending with
    | raised raised =>
      have shape : Shape reached (.raised raised) { reached with raised := some raised } :=
        .raised (by rw [quiet]; rfl)
      simpa [endOfInput] using shape
    | stopped =>
      simp only [endOfInput, waiting, Bool.false_eq_true, if_false]
      exact .closed (by rw [quiet]; rfl) reached.processor rfl rfl

theorem shape_of_result {result : LlmEvent} (isResult : result.isResult = true) :
    Shape reached .stopped ((reached.andThen (dispatchEvents tools hex [result])).andThen
        (endOfInput .stopped)) := by
  cases quiet : reached.raised with
  | some raised =>
    rw [Emitted.andThen_of_some quiet, Emitted.andThen_of_some quiet]
    exact shape_of_raised .stopped quiet
  | none =>
    cases result with
    | result isError durationMs errorText sessionId workerError =>
      have noted := closeOpenBlocks_resultReceived (reached.processor.noteResult
          (.result isError durationMs errorText sessionId workerError))
      have handled : dispatchEvents tools hex [.result isError durationMs
          errorText sessionId workerError] reached.processor =
            (reached.processor.noteResult (.result isError durationMs
              errorText sessionId workerError)).closeOpenBlocks :=
        Emitted.andThen_stop _
      rw [Emitted.andThen_assoc, Emitted.andThen_of_none quiet, handled, andThen_endOfInput noted]
      exact .closed (by rw [quiet]; rfl) _ rfl rfl
    | _ => cases isResult

theorem processEvents_shape (stops : ResultStops input)
    (waiting : (beforeClosing tools hex showIntermediate input).processor.resultReceived = false) :
    Shape (beforeClosing tools hex showIntermediate input) input.2 (processEvents tools hex
        { showIntermediate := showIntermediate, consumed := true } input) := by
  obtain ⟨events, ending⟩ := input
  obtain ⟨progress, none, same | ⟨result, isResult, same⟩⟩ := stops
  · obtain rfl : events = progress := same
    have stopped : ([] : List LlmEvent).head?.all LlmEvent.isResult = true :=
      rfl
    have all := takeWhile_progress none stopped
    rw [List.append_nil] at all
    unfold beforeClosing at waiting ⊢
    rw [all] at waiting ⊢
    exact shape_of_endOfInput ending waiting
  · obtain ⟨rfl, rfl⟩ := Prod.mk.inj same
    unfold beforeClosing processEvents
    rw [takeWhile_progress none (by simpa using isResult),
      dispatchEvents_append]
    exact shape_of_result isResult

variable {ending : Ending}

theorem Mirrors.noted (mirrors : Mirrors toolId received before processor phase)
    (noted : StreamProcessor) (openTools : noted.openTools =
      processor.openTools) (toolNames : noted.toolNames =
      processor.toolNames) :
    Mirrors toolId noted.resultReceived before noted phase where
  reached := mirrors.reached
  isOpen := openTools ▸ mirrors.isOpen
  named := toolNames ▸ mirrors.named
  keys := openTools ▸ mirrors.keys
  ids := openTools ▸ mirrors.ids
  progress := mirrors.progress
  received := rfl

/-- A run that can be closed ends in a terminal event, with no tool call
open. -/
theorem conclude_completes (resolveUserError : Option WorkerError → Option String → String)
    (runId : String) (shape : Shape reached ending processed)
    (mirrors : Mirrors toolId received (before ++ reached.events) reached.processor phase)
    (closable : Closable reached ending) :
    ∃ body terminal received next after,
      before ++ (conclude resolveUserError runId processed).events = body ++ [terminal] ∧
      terminal.isTerminal = true ∧ after ≠ .open ∧
      Mirrors toolId received body next after := by
  cases shape with
  | @raised raised raises =>
    obtain ⟨quiet, after, shut, closed⟩ := closeOpenBlocks_closes mirrors closable.2
    refine ⟨_, .runError (.ofString runId) (.ofString raised.name)
      (some (.ofString "stream.error")), _, _, _, ?_, rfl, shut, closed⟩
    simp [conclude, fail, closable.1 raised raises, closeExceptionPath,
      Emitted.andThen_of_none quiet]
  | closed none noted openTools toolNames =>
    obtain ⟨quiet, after, shut, closed⟩ := closeOpenBlocks_closes
      (mirrors.noted noted openTools toolNames) (openTools ▸ closable.2)
    refine ⟨_, finish resolveUserError runId noted.closeOpenBlocks.processor, _, _, _, ?_,
      finish_isTerminal _ resolveUserError runId, shut, closed⟩
    simp [conclude, quiet]

/-- A run that cannot be closed closes no tool call and has no terminal
event. -/
theorem conclude_stuck (resolveUserError : Option WorkerError → Option String → String)
    (runId : String) (shape : Shape reached ending processed)
    (mirrors : Mirrors toolId received (before ++ reached.events) reached.processor phase)
    (stuck : ¬ Closable reached ending) :
    ∃ received next, Mirrors toolId received
      (before ++ (conclude resolveUserError runId processed).events)
      next phase := by
  rw [Closable, not_and_or] at stuck
  cases shape with
  | @raised raised raises =>
    cases infra : raised.isStreamInfraError with
    | false =>
      refine ⟨received, reached.processor, ?_⟩
      simpa [conclude, fail, infra] using mirrors
    | true =>
      have mixed : ∃ tool ∈ reached.processor.openTools, ¬ tool.2.IsStr := by
        rcases stuck with escapes | mixed
        · refine absurd ?_ escapes
          intro other isOther
          rw [raises] at isOther
          exact Option.some.inj isOther ▸ infra
        · simpa using mixed
      obtain ⟨raisesAgain, kept, -⟩ := closeOpenBlocks_stuck mirrors mixed
      refine ⟨received, reached.processor.closeOpenBlocks.processor, ?_⟩
      simpa [conclude, fail, infra, closeExceptionPath,
        Emitted.andThen_of_some raisesAgain] using kept
  | closed none noted openTools toolNames =>
    have mixed : ∃ tool ∈ noted.openTools, ¬ tool.2.IsStr := by
      rw [none] at stuck
      simpa [openTools] using stuck
    obtain ⟨raises, kept, same⟩ := closeOpenBlocks_stuck
      (mirrors.noted noted openTools toolNames) mixed
    obtain ⟨raisesAgain, kept, -⟩ := closeOpenBlocks_stuck kept (same ▸ mixed)
    have infra : PyError.typeError.isStreamInfraError = true := rfl
    refine ⟨noted.resultReceived, noted.closeOpenBlocks.processor.closeOpenBlocks.processor, ?_⟩
    simpa [conclude, raises, fail, infra, closeExceptionPath,
      Emitted.andThen_of_some raisesAgain] using kept

theorem beforeClosing_mirrors (nonEmpty : toolId ≠ .text "")
    {maxIdleRetries : Nat} {reads : List StdoutRead}
    (distinct : (reads.filterMap StdoutRead.startedTool).Nodup)
    (runId : String) (showIntermediate : Bool) (hex : Nat → String) :
    let input := StreamingIterator.stream tools { maxIdleRetries := maxIdleRetries, reads := reads }
    let reached := beforeClosing tools hex showIntermediate input
    ∃ phase, Mirrors toolId false ([.runStarted (.ofString runId)] ++ reached.events)
      reached.processor phase := by
  intro input reached
  obtain ⟨last, streamed⟩ : ∃ last, phaseOf (.str toolId)
      (input.1.map LlmEvent.toolMark) = some last :=
    StreamingIterator.phaseOf_stream tools nonEmpty distinct
  have split : input.1.takeWhile (fun event => !event.isResult) ++
      input.1.dropWhile (fun event => !event.isResult) = input.1 :=
    List.takeWhile_append_dropWhile
  rw [← split, List.map_append] at streamed
  obtain ⟨after, steps⟩ := StreamingIterator.exists_of_foldlM_append streamed
  have start : Mirrors toolId false [.runStarted (.ofString runId)]
      { showIntermediate := showIntermediate, consumed := true } .unused :=
    { reached := by
        simp [phaseOf, RenderEvent.toolMark, Phase.next, Mark.key]
      isOpen := by simp
      named := by simp
      keys := .nil
      ids := List.forall_mem_nil _
      progress := by simp [RenderEvent.isTerminal]
      received := rfl }
  exact dispatchEvents_mirrors (fun event member => by
    simpa using List.all_eq_true.mp List.all_takeWhile event member)
    start steps

/-- The output mentions a tool when its phase is not `unused`. -/
theorem Mirrors.mentions_iff {events : List (RenderEvent Json)}
    (mirrors : Mirrors toolId received events processor phase) :
    Mentions events toolId ↔ phase ≠ .unused := by
  have shows := shows_of_phaseOf _ _ mirrors.reached
  constructor
  · rintro ⟨event, member, belongs⟩ rfl
    exact shows _ (List.mem_map_of_mem member) belongs
  · intro used
    obtain ⟨mark, member, belongs⟩ :=
      exists_mem_of_phaseOf mirrors.reached used
    obtain ⟨event, isEvent, rfl⟩ := List.mem_map.mp member
    exact ⟨event, isEvent, belongs⟩

/-- With nothing open, the tools that are mentioned have had their life. -/
theorem Mirrors.lifecycle {body : List (RenderEvent Json)} {terminal : RenderEvent Json}
    (mirrors : Mirrors toolId received body processor phase)
    (shut : phase ≠ .open) (isTerminal : terminal.isTerminal = true)
    (mentions : Mentions (body ++ [terminal]) toolId) :
    Lifecycle (body ++ [terminal]) toolId := by
  have silent : terminal.toolMark = .other := by
    cases terminal <;> first | rfl | cases isTerminal
  obtain ⟨event, member, belongs⟩ := mentions
  have inBody : event ∈ body := by
    rcases List.mem_append.mp member with early | last
    · exact early
    · rw [List.mem_singleton.mp last, silent] at belongs
      cases belongs
  have used : phase ≠ .unused := mirrors.mentions_iff.mp ⟨event, inBody, belongs⟩
  have shows := shows_of_phaseOf _ _ mirrors.reached
  cases phase with
  | unused => exact absurd rfl used
  | «open» => exact absurd rfl shut
  | closed => exact ⟨body, terminal, rfl, isTerminal, mirrors.progress, shows⟩

/-- A partial event that starts the block of a tool call. -/
def toolStart (toolId : String) : StdoutRead :=
  .line (.json (.obj [(.text "type", .ofString "stream_event"),
    (.text "event", .obj [(.text "type", .ofString "content_block_start"), (.text "index", .int 0),
      (.text "content_block", .obj [(.text "type", .ofString "tool_use"),
        (.text "id", .ofString toolId),
        (.text "name", .ofString "Bash")])])]))

def toolSnapshot (toolId : Json) : StdoutRead :=
  .line (.json (.obj [(.text "type", .ofString "assistant"),
    (.text "message", .obj [(.text "content", .arr [.obj [(.text "type", .ofString "tool_use"),
        (.text "id", toolId), (.text "name", .ofString "Grep")]])])]))

def resultLine : StdoutRead := .line (.json (.obj [(.text "type", .ofString "result")]))

end Runs

end StreamProcessor

end RoxabiFactory
