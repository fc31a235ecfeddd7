import RoxabiFactory.Blocks
import RoxabiFactory.CliStreaming

/-!
# Tool events of the streaming parser

The parser keys its open tool blocks by the index of the content block, and
announces a tool id once, whether a partial event or a snapshot brings it
first.  When no tool id starts two content blocks, the events of an id are in
order: one `ToolUseLlmEvent`, then deltas, then at most one
`ToolUseEndLlmEvent`.
-/

namespace RoxabiFactory

open Blocks

def LlmEvent.toolMark : LlmEvent → Mark Json
  | .toolUse _ toolId _ => .opens toolId
  | .toolUseDelta toolId _ => .inside toolId
  | .toolUseEnd toolId => .closes toolId
  | _ => .other

/-- The tool id of the block that a `content_block_start` event starts; only
strings that are not empty count. -/
def startedBlock (event : Json) : Py (Option PyStr) := do
  let block ← event.get "content_block" (.obj [])
  let blockType ← block.get "type" .null
  if blockType.isText "tool_use" then
    match ← block.get "id" (.ofString "") with
    | .str toolId => return some toolId
    | _ => return none
  else return none

def startedTool (data : Json) : Py (Option PyStr) := do
  let msgType ← data.get "type" (.ofString "")
  let event ← data.get "event" data
  let eventType ← event.get "type" (.ofString "")
  if msgType.isText "stream_event" ∧ eventType.isText "content_block_start" then
    startedBlock event
  else return none

def StdoutRead.startedTool : StdoutRead → Option PyStr
  | .line (.json data) =>
    match RoxabiFactory.startedTool data with
    | .ok (some toolId) =>
      if toolId = .text "" then none else some toolId
    | _ => none
  | _ => none

namespace Py.Ensures

theorem self {α : Type} {computation : Py α} :
    Ensures computation fun value => computation = .ok value :=
  fun _ returns => returns

end Py.Ensures

namespace CliStreamingParser

variable {toolId : PyStr} {started : Prop} {phase : Phase}
variable {parser : CliStreamingParser}

/-- The parser knows a tool id as its events so far show it. -/
structure Tracks (toolId : PyStr) (started : Prop)
    (parser : CliStreamingParser) (phase : Phase) : Prop where
  seen : HashKey.str toolId ∈ parser.seenTools ↔ phase ≠ .unused
  live : ∀ index, (index, .str toolId) ∈ parser.openTools → phase = .open
  single : parser.openTools.countP (·.2 = .str toolId) ≤ 1
  opened : ∀ index, (index, .str toolId) ∈ parser.openTools → started
  closed : phase = .closed → started

/-- The events of a line take the tool id to a phase that the parser knows. -/
def Advances (toolId : PyStr) (started : Prop) (phase : Phase) (parsed : Parsed) : Prop :=
  ∃ after, (parsed.2.map LlmEvent.toolMark).foldlM (Phase.next (.str toolId)) phase = some after ∧
    Tracks toolId started parsed.1 after

/-- The event belongs to another tool or to none. -/
def Foreign (toolId : PyStr) (event : LlmEvent) : Prop := event.toolMark.key ≠ some (.str toolId)

namespace Tracks

theorem mono (tracks : Tracks toolId started parser phase) {later : Prop}
    (implies : started → later) : Tracks toolId later parser phase :=
  { tracks with
    opened := fun index member => implies (tracks.opened index member)
    closed := fun closed => implies (tracks.closed closed) }

theorem keep (tracks : Tracks toolId started parser phase) {next : CliStreamingParser}
    (seen : HashKey.str toolId ∈ next.seenTools ↔ HashKey.str toolId ∈ parser.seenTools)
    (fewer : (next.openTools.filter (·.2 = .str toolId)).Sublist
      (parser.openTools.filter (·.2 = .str toolId))) :
    Tracks toolId started next phase where
  seen := seen.trans tracks.seen
  live := fun index member => tracks.live index (List.mem_filter.mp (fewer.subset
      (List.mem_filter.mpr ⟨member, by simp⟩))).1
  single := by
    have few := tracks.single
    rw [List.countP_eq_length_filter] at few ⊢
    exact fewer.length_le.trans few
  opened := fun index member => tracks.opened index (List.mem_filter.mp (fewer.subset
      (List.mem_filter.mpr ⟨member, by simp⟩))).1
  closed := tracks.closed

theorem congr (tracks : Tracks toolId started parser phase)
    (next : CliStreamingParser) (seen : next.seenTools = parser.seenTools)
    (openTools : next.openTools = parser.openTools) :
    Tracks toolId started next phase :=
  tracks.keep (by rw [seen]) (openTools ▸ .refl _)

theorem foreign (tracks : Tracks toolId started parser phase) {events : List LlmEvent}
    (others : ∀ event ∈ events, Foreign toolId event) :
    Advances toolId started phase (parser, events) := by
  refine ⟨phase, ?_, tracks⟩
  induction events with
  | nil => rfl
  | cons event events ih =>
    rw [List.map_cons, List.foldlM_cons, Phase.next_of_ne (others event (by simp))]
    exact ih fun later member => others later (by simp [member])

theorem quiet (tracks : Tracks toolId started parser phase) :
    Advances toolId started phase (parser, []) :=
  tracks.foreign (List.forall_mem_nil _)

end Tracks

theorem hashKey_eq_str {value : Json} (hashed : value.hashKey =
    .ok (.str toolId)) : value = .str toolId := by
  cases value <;> cases hashed
  rfl

/-- `mark_seen` of another id. -/
theorem markSeen_tracks_of_ne (tracks : Tracks toolId started parser phase) {other : Json}
    (different : other ≠ .str toolId) :
    (parser.markSeen other).Ensures fun marked =>
      Tracks toolId started marked.2 phase := by
  have known : Py.Ensures other.hashKey fun key =>
      key ≠ HashKey.str toolId := by
    rintro _ hashed rfl
    exact different (hashKey_eq_str hashed)
  refine known.bind fun key other => ?_
  split
  · exact .pure tracks
  · exact .pure (tracks.keep (by simp [Ne.symm other]) (.refl _))

theorem foreign_of_ne {name value input : Json} (different : value ≠ .str toolId) :
    Foreign toolId (.toolUse name value input) := by
  simpa [Foreign, LlmEvent.toolMark, Mark.key] using different

theorem markSeen_str (parser : CliStreamingParser) (toolId : PyStr) :
    parser.markSeen (.str toolId) =
      if HashKey.str toolId ∈ parser.seenTools then .ok (false, parser)
      else .ok (true, { parser with
        seenTools := parser.seenTools ++ [.str toolId] }) :=
  rfl

theorem tracks_open (seen : HashKey.str toolId ∈ parser.seenTools)
    (single : parser.openTools.countP (·.2 = .str toolId) ≤ 1)
    (opened : ∀ index, (index, .str toolId) ∈ parser.openTools → started) :
    Tracks toolId started parser .open :=
  ⟨by simp [seen], fun _ _ => rfl, single, opened, nofun⟩

theorem advances_announced {name input : Json} (tracks : Tracks toolId started parser .open) :
    Advances toolId started .unused (parser, [.toolUse name (.str toolId) input]) :=
  ⟨.open, by simp [LlmEvent.toolMark, Phase.next, Mark.key], tracks⟩

/-- `mark_seen`, followed by the announcement of an id that is fresh. -/
theorem markSeen_advances (tracks : Tracks toolId started parser phase) (value : Json) :
    (parser.markSeen value).Ensures fun marked =>
      (marked.1 = false → Advances toolId started phase (marked.2, [])) ∧
      (marked.1 = true → ∀ name input, Advances toolId started phase
          (marked.2, [.toolUse name value input])) := by
  by_cases own : value = .str toolId
  · subst own
    rw [markSeen_str]
    split
    · exact .pure ⟨fun _ => tracks.quiet, nofun⟩
    · rename_i unseen
      obtain rfl : phase = .unused := by
        by_contra announced
        exact unseen (tracks.seen.mpr announced)
      exact .pure ⟨nofun, fun _ name input => advances_announced
        (tracks_open (by simp) tracks.single tracks.opened)⟩
  · refine (markSeen_tracks_of_ne tracks own).mono fun marked tracks => ?_
    refine ⟨fun _ => tracks.quiet, fun _ name input => tracks.foreign ?_⟩
    simpa using foreign_of_ne own

theorem truthy_str (nonEmpty : toolId ≠ .text "") : (Json.str toolId).truthy = true := by
  cases toolId with
  | text characters =>
    exact decide_eq_true fun empty => nonEmpty (congrArg PyStr.text empty)
  | loneSurrogate => rfl

theorem handleAssistantBlock_advances (nonEmpty : toolId ≠ .text "")
    (tracks : Tracks toolId started parser phase) (block : Json) :
    (parser.handleAssistantBlock block).Ensures (Advances toolId started phase) := by
  refine .andThen fun blockType => ?_
  split
  · exact .pure tracks.quiet
  · refine .andThen fun value => ?_
    have marks : (parser.markFresh value).Ensures fun marked =>
        (marked.1 = false → Advances toolId started phase (marked.2, [])) ∧
        (marked.1 = true → ∀ name input, Advances toolId started phase
            (marked.2, [.toolUse name value input])) := by
      unfold markFresh
      split
      · exact markSeen_advances tracks value
      · rename_i falsy
        have different : value ≠ .str toolId := by
          rintro rfl
          exact falsy (truthy_str nonEmpty)
        exact .pure ⟨nofun, fun _ name input =>
          tracks.foreign (by simpa using foreign_of_ne different)⟩
    refine marks.bind ?_
    rintro ⟨fresh, marked⟩ ⟨stale, announces⟩
    dsimp only
    cases fresh with
    | false => exact .pure (stale rfl)
    | true =>
      exact .andThen fun name => .andThen fun input =>
        .pure (announces rfl name input)

theorem handleBlocks_advances {handle : CliStreamingParser → Json → Py Parsed}
    (advances : ∀ parser phase, Tracks toolId started parser phase →
      ∀ block, (handle parser block).Ensures (Advances toolId started phase))
    (tracks : Tracks toolId started parser phase) (blocks : List Json) :
    (handleBlocks handle parser blocks).Ensures (Advances toolId started phase) := by
  induction blocks generalizing parser phase with
  | nil => exact .pure tracks.quiet
  | cons block blocks ih =>
    refine (advances parser phase tracks block).bind ?_
    rintro first ⟨middle, reaches, tracks⟩
    refine (ih tracks).bind ?_
    rintro rest ⟨after, continues, tracks⟩
    refine .pure ⟨after, ?_, tracks⟩
    rw [List.map_append, List.foldlM_append, reaches]
    exact continues

theorem openTool_tracks_of_ne (tracks : Tracks toolId started parser phase) (index : Json)
    {value : Json} (different : value ≠ .str toolId) :
    Tracks toolId started (parser.openTool index value) phase := by
  unfold openTool
  split
  · split
    · refine tracks.keep Iff.rfl ?_
      rw [List.filter_cons_of_neg (by simpa using different)]
      exact List.filter_sublist.filter _
    · exact tracks
  · exact tracks

theorem openTool_seenTools (index value : Json) :
    (parser.openTool index value).seenTools = parser.seenTools := by
  unfold openTool
  split
  · split <;> rfl
  · rfl

theorem openTool_single (none : ∀ index,
      (index, .str toolId) ∉ parser.openTools) (index value : Json) :
    (parser.openTool index value).openTools.countP (·.2 = .str toolId) ≤ 1 := by
  have absent : ∀ blocks : List (Int × Json),
      blocks.Sublist parser.openTools → blocks.countP (·.2 = .str toolId) = 0 := by
    intro blocks fewer
    rw [List.countP_eq_zero]
    rintro ⟨index, value⟩ member same
    exact none index (of_decide_eq_true same ▸ fewer.subset member)
  unfold openTool
  split
  · split
    · rw [List.countP_cons, absent _ List.filter_sublist]
      split <;> omega
    · exact (absent _ (.refl _)).trans_le (Nat.zero_le 1)
  · exact (absent _ (.refl _)).trans_le (Nat.zero_le 1)

theorem startOwn_advances (tracks : Tracks toolId started parser phase) (fresh : ¬ started)
    {later : Prop} (holds : later) (index : Json) :
    ((parser.openTool index (.str toolId)).markSeen (.str toolId)).Ensures
      fun marked =>
        (marked.1 = false → Advances toolId later phase (marked.2, [])) ∧
        (marked.1 = true → ∀ name input, Advances toolId later phase
            (marked.2, [.toolUse name (.str toolId) input])) := by
  have single := openTool_single (fun index member => fresh (tracks.opened index member)) index
    (.str toolId)
  rw [markSeen_str, openTool_seenTools]
  split
  · rename_i seen
    obtain rfl : phase = .open := by
      cases phase with
      | unused => exact absurd rfl (tracks.seen.mp seen)
      | «open» => rfl
      | closed => exact absurd (tracks.closed rfl) fresh
    have tracked : Tracks toolId later (parser.openTool index (.str toolId)) .open :=
      tracks_open (by rwa [openTool_seenTools]) single fun _ _ => holds
    exact .pure ⟨fun _ => tracked.quiet, nofun⟩
  · rename_i unseen
    obtain rfl : phase = .unused := by
      by_contra announced
      exact unseen (tracks.seen.mpr announced)
    exact .pure ⟨nofun, fun _ name input => advances_announced
      (tracks_open (by simp) single fun _ _ => holds)⟩

theorem handleContentBlockStart_advances (nonEmpty : toolId ≠ .text "")
    (tracks : Tracks toolId started parser phase) {event : Json}
    (fresh : startedBlock event = .ok (some toolId) → ¬ started) :
    (parser.handleContentBlockStart event).Ensures (Advances toolId
        (started ∨ startedBlock event = .ok (some toolId)) phase) := by
  have kept : Tracks toolId (started ∨ startedBlock event = .ok (some toolId)) parser phase :=
    tracks.mono .inl
  refine .bind .self fun block blockIs => .bind .self fun blockType typeIs => ?_
  split
  · refine .andThen fun index => ?_
    split
    · exact .pure (Tracks.quiet (kept.keep Iff.rfl (.refl _)))
    · exact .pure kept.quiet
  · split
    · rename_i isTool
      refine .bind .self fun value idIs => .andThen fun index => ?_
      by_cases own : value = .str toolId
      · subst own
        have start : startedBlock event = .ok (some toolId) := by
          simp only [startedBlock, blockIs, typeIs, idIs, isTool, bind, Except.bind, if_true]
          rfl
        rw [truthy_str nonEmpty]
        have holds : started ∨ startedBlock event = .ok (some toolId) := .inr start
        refine (startOwn_advances tracks (fresh start) holds index).bind ?_
        rintro ⟨new, marked⟩ ⟨stale, announces⟩
        cases new with
        | false => exact .pure (stale rfl)
        | true => exact .andThen fun name => .pure (announces rfl name _)
      · have opened := openTool_tracks_of_ne kept index own
        split
        · exact .pure opened.quiet
        · refine (markSeen_advances opened value).bind ?_
          rintro ⟨new, marked⟩ ⟨stale, announces⟩
          cases new with
          | false => exact .pure (stale rfl)
          | true => exact .andThen fun name => .pure (announces rfl name _)
    · exact .pure kept.quiet

theorem handleContentBlockDelta_advances
    (tracks : Tracks toolId started parser phase) (event : Json) :
    (parser.handleContentBlockDelta event).Ensures (Advances toolId started phase) := by
  refine .andThen fun delta => .andThen fun deltaType => ?_
  split
  · refine .andThen fun index => .andThen fun thinking => ?_
    split
    · exact .pure (tracks.foreign (by simp [Foreign, LlmEvent.toolMark,
        Mark.key]))
    · exact .pure tracks.quiet
  · split
    · refine .andThen fun text => ?_
      split
      · have others : ∀ event ∈ [LlmEvent.text text],
            Foreign toolId event := by
          simp [Foreign, LlmEvent.toolMark, Mark.key]
        have kept := tracks.congr { parser with hadTextDelta := true } rfl rfl
        exact .pure (kept.foreign others)
      · exact .pure tracks.quiet
    · split
      · refine .andThen fun index => .andThen fun partialJson => ?_
        split
        · rename_i value found
          split
          · by_cases own : value = .str toolId
            · subst own
              obtain ⟨index, -, found⟩ := Option.bind_eq_some_iff.mp found
              obtain ⟨early, late, split, -⟩ := List.lookup_eq_some_iff.mp found
              obtain rfl := tracks.live index (by simp [split])
              exact .pure ⟨.open, by
                simp [LlmEvent.toolMark, Phase.next, Mark.key], tracks⟩
            · exact .pure (tracks.foreign (by
                simpa [Foreign, LlmEvent.toolMark, Mark.key] using own))
          · exact .pure tracks.quiet
        · exact .pure tracks.quiet
      · exact .pure tracks.quiet

theorem closeOwn_advances (tracks : Tracks toolId started parser phase)
    {index : Int} (found : parser.openTools.lookup index = some (.str toolId))
    (next : CliStreamingParser) (seen : next.seenTools = parser.seenTools)
    (openTools : next.openTools = parser.openTools.filter fun block => block.1 ≠ index) :
    Advances toolId started phase (next, [.toolUseEnd (.str toolId)]) := by
  obtain ⟨early, late, split, -⟩ := List.lookup_eq_some_iff.mp found
  have member : (index, .str toolId) ∈ parser.openTools := by simp [split]
  obtain rfl := tracks.live index member
  have single := tracks.single
  rw [split, List.countP_append, List.countP_cons_of_pos (by simp)] at single
  have alone : (early ++ late).countP (·.2 = .str toolId) = 0 := by
    rw [List.countP_append]
    omega
  have gone : ∀ other, (other, .str toolId) ∉ next.openTools := by
    intro other kept
    rw [openTools, split, List.mem_filter] at kept
    have elsewhere : (other, .str toolId) ∈ early ++ late := by
      have apart := of_decide_eq_true kept.2
      simpa [apart] using kept.1
    exact List.countP_eq_zero.mp alone _ elsewhere (by simp)
  refine ⟨.closed, by simp [LlmEvent.toolMark, Phase.next, Mark.key], ?_⟩
  exact {
    seen := by simp [seen, tracks.seen]
    live := fun other kept => absurd kept (gone other)
    single := by
      rw [List.countP_eq_zero.mpr]
      · exact Nat.zero_le 1
      · rintro ⟨other, value⟩ kept same
        exact gone other (of_decide_eq_true same ▸ kept)
    opened := fun other kept => absurd kept (gone other)
    closed := fun _ => tracks.opened index member }

theorem handleContentBlockStop_advances
    (tracks : Tracks toolId started parser phase) (event : Json) :
    (parser.handleContentBlockStop event).Ensures (Advances toolId started phase) := by
  refine .andThen fun index => ?_
  split
  · exact .pure tracks.quiet
  · rename_i index _
    have stops : ∀ next : CliStreamingParser,
        next.seenTools = parser.seenTools →
        next.openTools = parser.openTools.filter (fun block => block.1 ≠ index) →
        Advances toolId started phase (next,
          (parser.openTools.lookup index).toList.map .toolUseEnd) := by
      intro next seen openTools
      have kept : Tracks toolId started next phase := tracks.keep (by rw [seen])
          (openTools ▸ List.filter_sublist.filter _)
      cases found : parser.openTools.lookup index with
      | none => exact kept.quiet
      | some value =>
        by_cases own : value = .str toolId
        · subst own
          exact closeOwn_advances tracks found next seen openTools
        · refine kept.foreign ?_
          simpa [Foreign, LlmEvent.toolMark, Mark.key] using own
    exact .pure (stops _ rfl rfl)

theorem handleStreamEvent_advances (nonEmpty : toolId ≠ .text "")
    (tracks : Tracks toolId started parser phase) {data msgType : Json}
    (typeIs : data.get "type" (.ofString "") = .ok msgType)
    (isStream : msgType.isText "stream_event" = true)
    (fresh : startedTool data = .ok (some toolId) → ¬ started) :
    (parser.handleStreamEvent data).Ensures (Advances toolId
        (started ∨ startedTool data = .ok (some toolId)) phase) := by
  have kept : Tracks toolId (started ∨ startedTool data =
      .ok (some toolId)) parser phase := tracks.mono .inl
  refine .bind .self fun event eventIs => .bind .self fun kind kindIs => ?_
  split
  · rename_i isStart
    have same : startedTool data = startedBlock event := by
      simp [startedTool, typeIs, eventIs, kindIs, isStream, isStart, bind, Except.bind]
    rw [same] at fresh ⊢
    exact handleContentBlockStart_advances nonEmpty tracks fresh
  · split
    · exact handleContentBlockDelta_advances kept event
    · split
      · exact handleContentBlockStop_advances kept event
      · exact .pure kept.quiet

variable (tools : PythonText)

theorem handleToolResultBlock_advances
    (tracks : Tracks toolId started parser phase) (block : Json) :
    (parser.handleToolResultBlock tools block).Ensures (Advances toolId started phase) := by
  refine .andThen fun blockType => ?_
  split
  · exact .pure tracks.quiet
  · exact .andThen fun _ => .andThen fun _ => .andThen fun _ =>
      .andThen fun _ => .pure (tracks.foreign (by
        simp [Foreign, LlmEvent.toolMark, Mark.key]))

theorem handleResult_advances (tracks : Tracks toolId started parser phase) (data : Json) :
    (parser.handleResult tools data).Ensures (Advances toolId started phase) := by
  have ends : ∀ (next : CliStreamingParser) (event : LlmEvent),
      next.seenTools = parser.seenTools →
      next.openTools = parser.openTools → event.toolMark = .other →
      Advances toolId started phase (next, [event]) := by
    intro next event seen openTools other
    exact (tracks.congr next seen openTools).foreign (by
      simp [Foreign, other, Mark.key])
  refine .andThen fun _ => .andThen fun _ => .andThen fun _ =>
    .andThen fun _ => ?_
  dsimp only
  split
  · exact .andThen fun _ => .andThen fun _ => .pure (ends _ _ rfl rfl rfl)
  · exact .pure (ends _ _ rfl rfl rfl)

theorem handleSystemInit_tools (data : Json) : (parser.handleSystemInit data).Ensures fun next =>
      next.seenTools = parser.seenTools ∧
        next.openTools = parser.openTools :=
  .andThen fun _ => .pure ⟨rfl, rfl⟩

theorem handleMessage_advances (nonEmpty : toolId ≠ .text "")
    (tracks : Tracks toolId started parser phase) {data : Json}
    (fresh : startedTool data = .ok (some toolId) → ¬ started) :
    (parser.handleMessage tools data).Ensures (Advances toolId
        (started ∨ startedTool data = .ok (some toolId)) phase) := by
  have kept : Tracks toolId (started ∨ startedTool data =
      .ok (some toolId)) parser phase := tracks.mono .inl
  refine .bind .self fun msgType typeIs => .andThen fun _ => ?_
  split
  · exact .andThen fun blocks => handleBlocks_advances
      (fun _ _ => handleAssistantBlock_advances nonEmpty) kept blocks
  · split
    · exact handleStreamEvent_advances nonEmpty tracks typeIs ‹_› fresh
    · split
      · exact .andThen fun blocks => handleBlocks_advances
          (fun _ _ => handleToolResultBlock_advances tools) kept blocks
      · split
        · exact handleResult_advances tools kept data
        · split
          · refine .andThen fun subtype => ?_
            split
            · refine (handleSystemInit_tools data).bind ?_
              rintro next ⟨seen, openTools⟩
              exact .pure (kept.congr next seen openTools).quiet
            · exact .pure kept.quiet
          · exact .pure kept.quiet

theorem startedTool_json (nonEmpty : toolId ≠ .text "") {data : Json} :
    (StdoutRead.line (.json data)).startedTool = some toolId ↔
      startedTool data = .ok (some toolId) := by
  simp only [StdoutRead.startedTool]
  split
  · rename_i other startedIs
    rw [startedIs]
    split
    · rename_i empty
      subst empty
      simp [nonEmpty.symm]
    · simp
  · rename_i others
    exact ⟨nofun, fun startedIs => absurd startedIs (others toolId)⟩

theorem parseLine_advances (nonEmpty : toolId ≠ .text "")
    (tracks : Tracks toolId started parser phase) {line : StdoutLine}
    (fresh : (StdoutRead.line line).startedTool = some toolId → ¬ started) :
    (parser.parseLine tools line).Ensures (Advances toolId (started ∨
        (StdoutRead.line line).startedTool = some toolId) phase) := by
  have kept : Tracks toolId (started ∨
      (StdoutRead.line line).startedTool = some toolId) parser phase :=
    tracks.mono .inl
  unfold parseLine
  split
  · exact .pure kept.quiet
  · cases line with
    | undecodable | loadsRaises raised => exact .raise _
    | blank => exact .pure kept.quiet
    | notJson startsWithBrace =>
      cases startsWithBrace with
      | false => exact .pure kept.quiet
      | true =>
        have done := kept.congr { parser with done := true } rfl rfl
        exact .pure (done.foreign (by
          simp [Foreign, LlmEvent.toolMark, Mark.key]))
    | json data =>
      rw [startedTool_json nonEmpty] at fresh ⊢
      exact handleMessage_advances tools nonEmpty tracks fresh

end CliStreamingParser

namespace StreamingIterator

open CliStreamingParser

variable {toolId : PyStr} {started : Prop} {phase : Phase}
variable (tools : PythonText)

theorem not_started_of_cons {read : StdoutRead} {reads : List StdoutRead} (fresh : started →
      toolId ∉ (read :: reads).filterMap StdoutRead.startedTool)
    (starts : read.startedTool = some toolId) : ¬ started :=
  fun before => fresh before (List.mem_filterMap.mpr ⟨read, by simp, starts⟩)

theorem not_mem_of_cons {read : StdoutRead} {reads : List StdoutRead} (fresh : started →
      toolId ∉ (read :: reads).filterMap StdoutRead.startedTool)
    (distinct : ((read :: reads).filterMap StdoutRead.startedTool).Nodup) :
    started ∨ read.startedTool = some toolId →
      toolId ∉ reads.filterMap StdoutRead.startedTool := by
  have fewer : (reads.filterMap StdoutRead.startedTool).Sublist
      ((read :: reads).filterMap StdoutRead.startedTool) :=
    (List.sublist_cons_self read reads).filterMap _
  rintro (before | starts) again
  · exact fresh before (fewer.subset again)
  · rw [List.filterMap_cons_some starts] at distinct
    exact (List.nodup_cons.mp distinct).1 again

theorem exists_of_foldlM_append {marks more : List (Mark Json)} {after : Phase}
    (reaches : (marks ++ more).foldlM (Phase.next (.str toolId)) phase = some after) :
    ∃ middle, marks.foldlM (Phase.next (.str toolId)) phase =
      some middle := by
  rw [List.foldlM_append] at reaches
  obtain ⟨middle, reached, -⟩ := Option.bind_eq_some_iff.mp reaches
  exact ⟨middle, reached⟩

/-- The events that a consumer gets keep every tool id in order, by induction
on the reads. -/
theorem streamReads_advances (nonEmpty : toolId ≠ .text "")
    (maxIdleRetries : Nat) {reads : List StdoutRead} :
    ∀ {parser : CliStreamingParser} {started phase} (idleRetries : Nat),
      Tracks toolId started parser phase →
      (started → toolId ∉ reads.filterMap StdoutRead.startedTool) →
      (reads.filterMap StdoutRead.startedTool).Nodup →
      ∃ after, ((streamReads tools parser maxIdleRetries idleRetries
        reads).1.map LlmEvent.toolMark).foldlM (Phase.next (.str toolId)) phase = some after := by
  induction reads with
  | nil => exact fun _ _ _ _ => ⟨_, rfl⟩
  | cons read reads ih =>
    intro parser started phase idleRetries tracks fresh distinct
    cases read with
    | died detail | eof detail | raises raised => exact ⟨_, rfl⟩
    | timedOut =>
      unfold streamReads
      split
      · exact ⟨_, rfl⟩
      · exact ih _ tracks fresh distinct
    | line line =>
      have fewer := distinct.sublist ((List.sublist_cons_self (.line line) reads).filterMap _)
      unfold streamReads
      cases parsed : parser.parseLine tools line with
      | error raised => exact ⟨_, rfl⟩
      | ok result =>
        obtain ⟨next, events⟩ := result
        obtain ⟨middle, reaches, tracks⟩ := parseLine_advances tools
          nonEmpty tracks (not_started_of_cons fresh) _ parsed
        dsimp only
        split
        · rw [← List.take_append_drop 1 events, List.map_append]
            at reaches
          exact exists_of_foldlM_append reaches
        · obtain ⟨after, continues⟩ := ih 0 tracks (not_mem_of_cons fresh distinct) fewer
          refine ⟨after, ?_⟩
          rw [List.map_append, List.foldlM_append, reaches]
          exact continues

theorem phaseOf_stream (nonEmpty : toolId ≠ .text "")
    {maxIdleRetries : Nat} {reads : List StdoutRead}
    (distinct : (reads.filterMap StdoutRead.startedTool).Nodup) :
    ∃ phase, phaseOf (.str toolId)
      ((stream tools { maxIdleRetries := maxIdleRetries, reads := reads }).1.map
        LlmEvent.toolMark) = some phase := by
  have start : Tracks toolId False {} .unused :=
    ⟨by simp, fun _ => nofun, by simp, fun _ => nofun, nofun⟩
  have streamed := streamReads_advances tools nonEmpty maxIdleRetries 0 start nofun distinct
  simpa [stream, phaseOf] using streamed

end StreamingIterator

end RoxabiFactory
