import RoxabiFactory.Blocks
import RoxabiFactory.CappedText
import RoxabiFactory.OutboundEmitter

/-!
# The final text of an outbound turn

The text that a turn delivers is the text that the placeholder has shown, and
the placeholder takes no delta any more once it shows 8,000 characters.  So
the final text is whole exactly when every delta that is not empty comes
before that limit and nothing raises on the way; the fallback, which collects
the deltas itself, has no limit.
-/

namespace RoxabiFactory

open Blocks

def Arrival.textMark (arrival : Arrival) : Mark String :=
  match arrival.event with
  | .textStart messageId .. => .opens messageId
  | .textDelta messageId .. => .inside messageId
  | .textEnd messageId .. => .closes messageId
  | _ => .other

/-- The number of characters after which the placeholder takes no delta. -/
def textLimit : Nat := maxIntermediateChars - streamingMark.length

theorem streamingMark_length : streamingMark.length = 2 :=
  rfl

namespace IntermediateTextState

/-- The state of a placeholder that has taken this text. -/
def showing (kept : String) : IntermediateTextState :=
  ⟨if kept = "" then "" else streamingMark ++ kept⟩

@[simp]
theorem text_showing_eq_empty {kept : String} : (showing kept).text = "" ↔ kept = "" := by
  by_cases empty : kept = "" <;> simp [showing, empty, streamingMark]

@[simp]
theorem captured_showing (kept : String) : (showing kept).captured = kept := by
  by_cases empty : kept = ""
  · subst empty
    rfl
  · simp [captured, showing, empty, streamingMark, String.toList_append]

theorem length_text_showing {kept : String} (written : kept ≠ "") :
    (showing kept).text.length = streamingMark.length + kept.length := by
  simp [showing, written]

theorem append_showing (kept chunk : String) : (showing kept).append chunk =
      showing (CappedText.push textLimit kept chunk) := by
  have limit : maxIntermediateChars = streamingMark.length + textLimit := rfl
  by_cases written : chunk = ""
  · simp [append, written]
  by_cases empty : kept = ""
  · subst empty
    simp [append, showing, CappedText.push, written, textLimit,
      maxIntermediateChars, streamingMark_length]
  by_cases full : textLimit ≤ kept.length
  · have reached : maxIntermediateChars ≤ (showing kept).text.length := by
      rw [length_text_showing empty]
      omega
    simp [append, written, reached, CappedText.push, full]
  · have below : ¬ maxIntermediateChars ≤ streamingMark.length + kept.length := by
      omega
    simp [append, written, below, empty, CappedText.push, full, showing, String.append_assoc]

theorem foldl_append_showing (chunks : List String) (kept : String) :
    chunks.foldl append (showing kept) =
      showing (chunks.foldl (CappedText.push textLimit) kept) := by
  induction chunks generalizing kept with
  | nil => rfl
  | cons chunk chunks ih =>
    rw [List.foldl_cons, append_showing, ih]
    rfl

end IntermediateTextState

namespace OutboundEmitter

theorem deltas_append (arrivals more : List Arrival) :
    deltas (arrivals ++ more) = deltas arrivals ++ deltas more :=
  List.filterMap_append

section Handlers

variable {tools : PythonText} {loads : JsonLoads}
variable {emitter : OutboundEmitter} {arrival : Arrival}

attribute [local simp] handle

@[simp]
theorem call_st (made : PlatformCall) : (emitter.call made).st = emitter.st :=
  rfl

@[simp]
theorem ensureTraceObj_st : (emitter.ensureTraceObj arrival).st = emitter.st := by
  unfold ensureTraceObj
  split <;> rfl

@[simp]
theorem maybeEmitIntermediateRecap_st (now : Int) :
    (emitter.maybeEmitIntermediateRecap now).1.st = emitter.st := by
  unfold maybeEmitIntermediateRecap
  split
  · split <;> rfl
  · rfl

theorem onToolcallV2_st : (emitter.onToolcallV2 tools loads arrival).1.st =
      { emitter.st with hadToolEvents := true } := by
  unfold onToolcallV2
  dsimp only
  split
  · rfl
  · split
    · split <;> simp
    · rfl
    · simp

theorem onReasoning_st : (emitter.onReasoning arrival).1.st = emitter.st := by
  unfold onReasoning
  split <;> simp

theorem editIntermediate_istate (now : Int) :
    (emitter.editIntermediate now).st.istate = emitter.st.istate := by
  unfold editIntermediate
  split <;> rfl

theorem editIntermediate_finalText (now : Int) :
    (emitter.editIntermediate now).st.finalText = emitter.st.finalText := by
  unfold editIntermediate
  split <;> rfl

theorem handle_istate : (emitter.handle tools loads arrival).1.st.istate =
      (deltas [arrival]).foldl .append emitter.st.istate := by
  obtain ⟨event, now, traceSent, reasoningRaises⟩ := arrival
  cases event with
  | textDelta messageId delta version =>
    exact editIntermediate_istate now
  | textEnd messageId version =>
    simp only [handle, onTextV2]
    split <;> rfl
  | toolCallStart | toolCallArgs | toolCallEnd | toolCallResult =>
    simp [onToolcallV2_st, deltas]
  | reasoningStart | reasoningDelta | reasoningEnd =>
    simp [onReasoning_st, deltas]
  | _ => rfl

theorem handle_finalText (unclosed : ∀ messageId, arrival.textMark ≠ .closes messageId) :
    (emitter.handle tools loads arrival).1.st.finalText =
      emitter.st.finalText := by
  obtain ⟨event, now, traceSent, reasoningRaises⟩ := arrival
  cases event with
  | textDelta messageId delta version =>
    exact editIntermediate_finalText now
  | textEnd messageId version =>
    exact absurd rfl (unclosed messageId)
  | toolCallStart | toolCallArgs | toolCallEnd | toolCallResult =>
    simp [onToolcallV2_st]
  | reasoningStart | reasoningDelta | reasoningEnd =>
    simp [onReasoning_st]
  | _ => rfl

theorem handle_textEnd (tools : PythonText) (loads : JsonLoads)
    {kept messageId : String} (holds : emitter.st.istate = .showing kept)
    (closes : arrival.textMark = .closes messageId) :
    (emitter.handle tools loads arrival).2 = none ∧
      (emitter.handle tools loads arrival).1.st.finalText =
        if kept = "" then emitter.st.finalText else some kept := by
  obtain ⟨event, now, traceSent, reasoningRaises⟩ := arrival
  cases event with
  | textEnd shut version =>
    refine ⟨rfl, ?_⟩
    by_cases written : kept = "" <;>
      simp [onTextV2, holds, written, StreamState.setFinalText]
  | _ => cases closes

end Handlers

section Runs

variable {tools : PythonText} {loads : JsonLoads}
variable {emitter : OutboundEmitter} {arrivals more : List Arrival}

attribute [local simp] handleAll

theorem handleAll_append : handleAll tools loads (arrivals ++ more) emitter =
      match handleAll tools loads arrivals emitter with
      | (handled, none) => handleAll tools loads more handled
      | (handled, some raised) => (handled, some raised) := by
  induction arrivals generalizing emitter with
  | nil => rfl
  | cons arrival arrivals ih =>
    simp only [List.cons_append, handleAll]
    split
    · exact ih
    · rfl

theorem handleAll_istate (quiet : (handleAll tools loads arrivals emitter).2 = none) :
    (handleAll tools loads arrivals emitter).1.st.istate =
      (deltas arrivals).foldl .append emitter.st.istate := by
  induction arrivals generalizing emitter with
  | nil => rfl
  | cons arrival arrivals ih =>
    have step : (emitter.handle tools loads arrival).1.st.istate =
        (deltas [arrival]).foldl .append emitter.st.istate := handle_istate
    simp only [handleAll] at quiet ⊢
    split at quiet
    case h_1 handled same =>
      rw [same] at step
      rw [ih quiet, step, ← List.foldl_append, ← deltas_append]
      rfl
    case h_2 => cases quiet

theorem handleAll_finalText (unclosed : ∀ arrival ∈ arrivals, ∀ messageId,
      arrival.textMark ≠ .closes messageId) :
    (handleAll tools loads arrivals emitter).1.st.finalText =
      emitter.st.finalText := by
  induction arrivals generalizing emitter with
  | nil => rfl
  | cons arrival arrivals ih =>
    have step : (emitter.handle tools loads arrival).1.st.finalText =
        emitter.st.finalText := handle_finalText (unclosed arrival (by simp))
    simp only [handleAll]
    split
    case h_1 handled same =>
      rw [same] at step
      rw [ih fun later member => unclosed later (by simp [member]), step]
    case h_2 handled raised same =>
      rwa [same] at step

/-- Neither the accumulated text nor the final text is longer. -/
def Bounded (emitter : OutboundEmitter) (length : Nat) : Prop :=
  (∃ kept, emitter.st.istate = .showing kept ∧ kept.length ≤ length) ∧
    ∀ text, emitter.st.finalText = some text → text.length ≤ length

theorem Bounded.mono {length longer : Nat} (bounded : emitter.Bounded length)
    (longEnough : length ≤ longer) : emitter.Bounded longer := by
  obtain ⟨⟨kept, holds, short⟩, final⟩ := bounded
  exact ⟨⟨kept, holds, Nat.le_trans short longEnough⟩, fun text captured =>
    Nat.le_trans (final text captured) longEnough⟩

theorem Bounded.handle {length : Nat} (bounded : emitter.Bounded length)
    (tools : PythonText) (loads : JsonLoads) (arrival : Arrival) :
    (emitter.handle tools loads arrival).1.Bounded
      (length + (String.join (deltas [arrival])).length) := by
  obtain ⟨⟨kept, holds, short⟩, final⟩ := bounded
  refine ⟨⟨_, handle_istate.trans (by
    rw [holds, IntermediateTextState.foldl_append_showing]), ?_⟩, ?_⟩
  · have grows := CappedText.length_foldl_push_le textLimit (deltas [arrival]) kept
    omega
  · intro text captured
    by_cases closes : ∃ messageId, arrival.textMark = .closes messageId
    · obtain ⟨messageId, closes⟩ := closes
      rw [(handle_textEnd tools loads holds closes).2] at captured
      split at captured
      · have old := final text captured
        omega
      · cases captured
        omega
    · rw [handle_finalText fun messageId closed => closes ⟨_, closed⟩]
        at captured
      have old := final text captured
      omega

theorem Bounded.handleAll {length : Nat} (bounded : emitter.Bounded length)
    (tools : PythonText) (loads : JsonLoads) (arrivals : List Arrival) :
    (handleAll tools loads arrivals emitter).1.Bounded
      (length + (String.join (deltas arrivals)).length) := by
  induction arrivals generalizing emitter length with
  | nil => simpa [OutboundEmitter.handleAll, deltas] using bounded
  | cons arrival arrivals ih =>
    have step := bounded.handle tools loads arrival
    have total : deltas (arrival :: arrivals) =
        deltas [arrival] ++ deltas arrivals := deltas_append [arrival] arrivals
    rw [total, String.join_append, String.length_append, ← Nat.add_assoc]
    simp only [OutboundEmitter.handleAll]
    split
    case h_1 handled same =>
      rw [same] at step
      exact ih step
    case h_2 handled raised same =>
      rw [same] at step
      exact Bounded.mono step (Nat.le_add_right _ _)

end Runs

section Delivery

variable {emitter : OutboundEmitter} {formatter : OutboundFormatter}

theorem finishRecap_st : emitter.finishRecap.1.st = emitter.st := by
  unfold finishRecap
  split
  · dsimp only
    split <;> rfl
  · rfl

theorem buildDisplayText_of_finalText {state : StreamState} {text : String}
    (getMsg : String → String → String) (captured : state.finalText = some text)
    (written : text ≠ "") : ∃ isError notice,
      state.buildDisplayText getMsg = some (.final isError text notice) := by
  unfold StreamState.buildDisplayText
  rw [captured]
  cases state.streamError with
  | none => exact ⟨_, _, rfl⟩
  | some raised =>
    refine ⟨state.isErrorTurn || state.isErrorPending,
      some (getMsg "stream_interrupted" " [response interrupted]"), ?_⟩
    simp [written]

theorem finalText_of_buildDisplayText {state : StreamState} {text : String}
    {getMsg : String → String → String} {isError : Bool}
    {notice : Option String}
    (shown : state.buildDisplayText getMsg =
      some (.final isError text notice)) : state.finalText = some text := by
  unfold StreamState.buildDisplayText at shown
  split at shown
  · split at shown
    · cases shown
    · obtain ⟨message, -, same⟩ := Option.map_eq_some_iff.mp shown
      cases same
  case h_2 captured same =>
    dsimp only at shown
    split at shown
    · cases shown
      exact same
    · split at shown <;> cases shown
      exact same

theorem render_final_ne {isError : Bool} {text : String}
    {notice : Option String} (written : text ≠ "") :
    (DisplayText.final isError text notice).render ≠ "" := by
  simp [DisplayText.render, written]

theorem deliverFinal_modelText_iff {text : String} (written : text ≠ "") :
    (emitter.deliverFinal formatter).delivered.bind Delivery.modelText = some text ↔
      emitter.finishRecap.2 = none ∧ emitter.st.finalText = some text := by
  unfold deliverFinal
  have sameState : emitter.finishRecap.1.st = emitter.st := finishRecap_st
  split
  case h_1 finished raised same =>
    simp [same]
  case h_2 finished same =>
    rw [same] at sameState
    dsimp only at sameState
    dsimp only
    constructor
    · intro delivered
      refine ⟨by rw [same], ?_⟩
      split at delivered
      case h_1 display first rest shown chunks =>
        cases display with
        | message => cases delivered
        | final isError shownText notice =>
          cases delivered
          rw [← sameState]
          exact finalText_of_buildDisplayText shown
      case h_2 => cases delivered
    · rintro ⟨-, captured⟩
      rw [← sameState] at captured
      obtain ⟨isError, notice, shown⟩ :=
        buildDisplayText_of_finalText formatter.getMsg captured written
      have rendered : (DisplayText.final isError text notice).render ≠ "" := render_final_ne written
      obtain ⟨first, rest, chunks⟩ := List.exists_cons_of_ne_nil (formatter.chunk_ne_nil _ rendered)
      simp [shown, rendered, chunks, Delivery.modelText]

end Delivery

end OutboundEmitter

/-- A stream with a text block that is closed and is the last one. -/
structure ClosedStream where
  earlier : List Arrival
  start : Arrival
  block : List Arrival
  stop : Arrival
  rest : List Arrival
  messageId : String
  opens : start.textMark = .opens messageId
  closes : stop.textMark = .closes messageId
  within : ∀ arrival ∈ block, arrival.textMark = .inside messageId ∨ arrival.textMark = .other
  after : ∀ arrival ∈ rest, arrival.textMark = .other

/-- Every text block is closed before the next one starts; `live` is the block
that is open when the stream begins. -/
inductive TextBlocks : Option String → List Arrival → Prop
  | nil : TextBlocks none []
  | other {live : Option String} {arrival : Arrival}
      {arrivals : List Arrival} (mark : arrival.textMark = .other)
      (rest : TextBlocks live arrivals) : TextBlocks live (arrival :: arrivals)
  | opens {messageId : String} {arrival : Arrival} {arrivals : List Arrival}
      (mark : arrival.textMark = .opens messageId)
      (rest : TextBlocks (some messageId) arrivals) :
      TextBlocks none (arrival :: arrivals)
  | inside {messageId : String} {arrival : Arrival} {arrivals : List Arrival}
      (mark : arrival.textMark = .inside messageId)
      (rest : TextBlocks (some messageId) arrivals) :
      TextBlocks (some messageId) (arrival :: arrivals)
  | closes {messageId : String} {arrival : Arrival} {arrivals : List Arrival}
      (mark : arrival.textMark = .closes messageId)
      (rest : TextBlocks none arrivals) :
      TextBlocks (some messageId) (arrival :: arrivals)

namespace ClosedStream

/-- The stream up to the end of the last text block. -/
def opened (stream : ClosedStream) : List Arrival := stream.earlier ++ stream.start :: stream.block

def arrivals (stream : ClosedStream) : List Arrival := stream.opened ++ stream.stop :: stream.rest

/-- The text of the blocks before the last one. -/
def textBefore (stream : ClosedStream) : String :=
  String.join (OutboundEmitter.deltas stream.earlier)

def blockText (stream : ClosedStream) : String := String.join (OutboundEmitter.deltas stream.block)

/-- The delivered text is the text of the earlier blocks, which the emitter
keeps, and the whole text of the last block. -/
def DeliveredWhole (stream : ClosedStream) (outcome : OutboundEmitter.Outcome) : Prop :=
  stream.blockText = "" ∨ outcome.delivered.bind OutboundEmitter.Delivery.modelText =
      some (stream.textBefore ++ stream.blockText)

end ClosedStream

namespace ClosedStream

open OutboundEmitter

variable {tools : PythonText} {loads : JsonLoads}
variable {emitter : OutboundEmitter} {stream : ClosedStream}

theorem deltas_eq_nil_of_other {arrivals : List Arrival}
    (silent : ∀ arrival ∈ arrivals, arrival.textMark = .other) :
    deltas arrivals = [] := by
  rw [deltas, List.filterMap_eq_nil_iff]
  rintro ⟨event, now, traceSent, reasoningRaises⟩ member
  have mark := silent _ member
  cases event <;> first | rfl | cases mark

theorem deltas_of_mark {arrival : Arrival}
    (bare : ∀ messageId, arrival.textMark ≠ .inside messageId) :
    deltas [arrival] = [] := by
  obtain ⟨event, now, traceSent, reasoningRaises⟩ := arrival
  cases event <;> first | rfl | exact absurd rfl (bare _)

theorem deltas_opened :
    deltas stream.opened = deltas stream.earlier ++ deltas stream.block := by
  have start : deltas [stream.start] = [] :=
    deltas_of_mark (by simp [stream.opens])
  rw [opened, deltas_append, ← List.singleton_append, deltas_append, start]
  rfl

theorem deltas_arrivals :
    deltas stream.arrivals = deltas stream.opened := by
  have stop : deltas [stream.stop] = [] :=
    deltas_of_mark (by simp [stream.closes])
  rw [arrivals, deltas_append, ← List.singleton_append, deltas_append, stop,
    deltas_eq_nil_of_other stream.after]
  simp

theorem join_deltas_opened : String.join (deltas stream.opened) =
      stream.textBefore ++ stream.blockText := by
  rw [deltas_opened, String.join_append]
  rfl

/-- A loop that stops before the end of the last block has captured no more
than the text of the earlier blocks. -/
theorem finalText_of_interrupted (tools : PythonText) (loads : JsonLoads)
    (fresh : emitter.Bounded 0)
    (written : stream.blockText ≠ "") :
    (handleAll tools loads stream.opened emitter).1.st.finalText ≠
      some (stream.textBefore ++ stream.blockText) := by
  have earlier := fresh.handleAll tools loads stream.earlier
  have unchanged : ∀ handled : OutboundEmitter,
      (handleAll tools loads (stream.start :: stream.block) handled).1.st.finalText
        = handled.st.finalText := by
    intro handled
    refine handleAll_finalText (List.forall_mem_cons.mpr ⟨?_, ?_⟩)
    · simp [stream.opens]
    · intro arrival member messageId closes
      rcases stream.within arrival member with mark | mark <;>
        cases mark.symm.trans closes
  have same : (handleAll tools loads stream.opened emitter).1.st.finalText =
      (handleAll tools loads stream.earlier emitter).1.st.finalText := by
    rw [opened, handleAll_append]
    split
    case h_1 handled same => rw [unchanged, same]
    case h_2 handled raised same => rw [same]
  rw [same]
  intro captured
  have short := earlier.2 _ captured
  have positive : stream.blockText.length ≠ 0 := by
    simpa [String.length_eq_zero_iff] using written
  simp only [String.length_append, textBefore] at short
  omega

/-- The final text is whole exactly when the loop reaches the end of the last
block and every delta fits. -/
theorem finalText_eq_iff (tools : PythonText) (loads : JsonLoads)
    (fresh : emitter.Bounded 0) (written : stream.blockText ≠ "") :
    (handleAll tools loads stream.arrivals emitter).1.st.finalText =
        some (stream.textBefore ++ stream.blockText) ↔
      (handleAll tools loads stream.opened emitter).2 = none ∧
        CappedText.Fits textLimit (deltas stream.opened) := by
  have interrupted := finalText_of_interrupted tools loads fresh written
  rw [arrivals, handleAll_append]
  split
  case h_2 handled raised same =>
    rw [same] at interrupted
    simp [same, interrupted]
  case h_1 handled same =>
    obtain ⟨kept, holds, short⟩ := fresh.1
    obtain rfl : kept = "" := by
      simpa [String.length_eq_zero_iff] using short
    have accumulated : (handleAll tools loads stream.opened emitter).1.st.istate
        = (deltas stream.opened).foldl .append emitter.st.istate :=
      handleAll_istate (by rw [same])
    rw [same, holds, IntermediateTextState.foldl_append_showing] at accumulated
    have some_kept : (deltas stream.opened).foldl (CappedText.push textLimit) "" ≠ "" := by
      refine CappedText.foldl_push_ne_empty (by decide) ?_
      simp [join_deltas_opened, written]
    have captured := handle_textEnd tools loads accumulated stream.closes
    rw [if_neg some_kept] at captured
    have after : (handleAll tools loads (stream.stop :: stream.rest) handled).1.st.finalText =
          some ((deltas stream.opened).foldl (CappedText.push textLimit) "") := by
      rw [OutboundEmitter.handleAll]
      split
      case h_1 stopped stepped =>
        rw [handleAll_finalText, ← captured.2, stepped]
        intro arrival member messageId closes
        cases (stream.after arrival member).symm.trans closes
      case h_2 stopped raised stepped =>
        rw [stepped] at captured
        cases captured.1
    rw [after, same, ← join_deltas_opened, ← CappedText.foldl_push_eq_join_iff]
    simp

section Turns

variable (tools : PythonText) (loads : JsonLoads)
variable (formatter : OutboundFormatter) (interval : Int)
variable (config : ToolDisplayConfig)

/-- The emitter when the event loop starts. -/
def begun : OutboundEmitter :=
  call { editInterval := interval, toolRecap := { config := config } } .sendPlaceholder

theorem begun_bounded : (begun interval config).Bounded 0 := ⟨⟨"", rfl, Nat.le_refl 0⟩, nofun⟩

theorem arrivals_eq_cons (stream : ClosedStream) :
    ∃ first others, stream.arrivals = first :: others :=
  List.exists_cons_of_ne_nil (by simp [arrivals])

theorem deliveredWhole_fallback (stream : ClosedStream) :
    stream.DeliveredWhole (run tools loads formatter
      { editInterval := interval } config false stream.arrivals .stopped) := by
  by_cases written : stream.blockText = ""
  · exact .inl written
  · right
    have unfolded : (run tools loads formatter { editInterval := interval }
        config false stream.arrivals .stopped).delivered =
          (drainFallback formatter (begun interval config) stream.arrivals .stopped).delivered := by
      obtain ⟨first, others, same⟩ := arrivals_eq_cons stream
      rw [same]
      rfl
    rw [unfolded, drainFallback, deltas_arrivals, join_deltas_opened]
    simp [written, Delivery.modelText]

theorem delivered_eq_iff {stream : ClosedStream} (written : stream.blockText ≠ "") :
    (run tools loads formatter { editInterval := interval } config true
        stream.arrivals .stopped).delivered.bind Delivery.modelText =
        some (stream.textBefore ++ stream.blockText) ↔
      (handleAll tools loads stream.opened (begun interval config)).2 = none ∧
        CappedText.Fits textLimit (deltas stream.opened) ∧
        ((begun interval config).runEventLoop tools loads stream.arrivals
          .stopped).finishRecap.2 = none := by
  have someText : stream.textBefore ++ stream.blockText ≠ "" := by
    simp [written]
  have unfolded : (run tools loads formatter { editInterval := interval }
      config true stream.arrivals .stopped).delivered =
        (((begun interval config).runEventLoop tools loads stream.arrivals
          .stopped).deliverFinal formatter).delivered := by
    obtain ⟨first, others, same⟩ := arrivals_eq_cons stream
    rw [same]
    rfl
  rw [unfolded, deliverFinal_modelText_iff someText, and_comm]
  have captured := finalText_eq_iff tools loads (begun_bounded interval config) written
  rw [← and_assoc, ← captured]
  rfl

end Turns

def plainFormatter : OutboundFormatter where
  placeholderText := "…"
  chunk text := [text]
  getMsg _ fallback := fallback
  chunk_ne_nil := by simp

def twoDeltas (first second : String) : ClosedStream where
  earlier := [⟨.runStarted "run" 1, 0, true, none⟩]
  start := ⟨.textStart "block" .assistant 1, 0, true, none⟩
  block := [⟨.textDelta "block" first 1, 1, true, none⟩,
    ⟨.textDelta "block" second 1, 2, true, none⟩]
  stop := ⟨.textEnd "block" 1, 3, true, none⟩
  rest := [⟨.runFinished "run" .success 1, 3, true, none⟩]
  messageId := "block"
  opens := rfl
  closes := rfl
  within := by simp [Arrival.textMark]
  after := by simp [Arrival.textMark]

theorem not_fits_twoDeltas {first second : String}
    (full : textLimit ≤ first.length) (written : second ≠ "") :
    ¬ CappedText.Fits textLimit (deltas (twoDeltas first second).opened) := by
  intro fits
  have texts : deltas (twoDeltas first second).opened = [first] ++ second :: [] := rfl
  have early := fits [first] second [] texts written
  simp only [String.join_cons, String.join_nil, String.append_empty] at early
  omega

end ClosedStream

end RoxabiFactory
