import RoxabiFactory.CliStreamingParser

/-!
# The lines that do not crash the streaming parser

`parse_line` looks into a loaded value with `.get`, iterates its contents and
hashes its tool ids without a test of their types.  For each handler the shape
of the values on which it returns is given here, and the shapes together
decide on which lines `parse_line` keeps its contract.
-/

namespace RoxabiFactory

namespace Py

variable {α β : Type}

/-- The computation does not raise. -/
def Returns (computation : Py α) : Prop := ∃ value, computation = .ok value

theorem returns_ok (value : α) : Returns (.ok value : Py α) := ⟨value, rfl⟩

@[simp]
theorem returns_pure (value : α) : Returns (pure value : Py α) ↔ True :=
  iff_true_intro (returns_ok value)

@[simp]
theorem returns_error (raised : PyError) : Returns (.error raised : Py α) ↔ False := by
  simp [Returns]

attribute [simp] ok_bind

@[simp]
theorem pure_bind (value : α) (next : α → Py β) : ((pure value : Py α) >>= next) = next value :=
  rfl

@[simp]
theorem error_bind (raised : PyError) (next : α → Py β) :
    ((.error raised : Py α) >>= next) = .error raised :=
  rfl

theorem returns_bind_of_forall {first : Py α} {next : α → Py β}
    (nextReturns : ∀ value, Returns (next value)) :
    Returns (first >>= next) ↔ Returns first := by
  cases first with
  | error raised => simp
  | ok value => simp [nextReturns value, returns_ok]

end Py

namespace Json

/-- `isinstance(value, dict)`. -/
def IsObj : Json → Prop
  | .obj _ => True
  | _ => False

/-- What `value.get(key, default)` finds in an object. -/
def field (value : Json) (key : String) (default : Json) : Json :=
  match value with
  | .obj members => (members.lookup (.text key)).getD default
  | _ => default

theorem get_of_isObj {value : Json} (isObj : value.IsObj) (key : String) (default : Json) :
    value.get key default = .ok (value.field key default) := by
  cases value with
  | obj members => rfl
  | _ => exact isObj.elim

theorem get_of_not_isObj {value : Json} (notObj : ¬ value.IsObj) (key : String) (default : Json) :
    value.get key default = .error .attributeError := by
  cases value with
  | obj members => exact absurd trivial notObj
  | _ => rfl

/-- A value that sets and dictionaries accept as a key. -/
def IsHashable : Json → Prop
  | .arr _ | .obj _ => False
  | _ => True

theorem returns_hashKey (value : Json) :
    Py.Returns value.hashKey ↔ value.IsHashable := by
  cases value <;> simp [Py.Returns, hashKey, IsHashable]

theorem exists_hashKey_of_isHashable {value : Json}
    (hashable : value.IsHashable) : ∃ key, value.hashKey = .ok key :=
  (returns_hashKey value).mpr hashable

/-- Everything that `for block in value` visits passes the test, which no
string passes. -/
def Blocks (test : Json → Prop) : Json → Prop
  | .arr items => ∀ item ∈ items, test item
  | .obj members => members = []
  | .str (.text characters) => characters = ""
  | .str (.loneSurrogate codePoints) => codePoints = []
  | _ => False

theorem blocks_iff {test : Json → Prop} (notString : ∀ text, ¬ test (.str text)) (value : Json) :
    (∃ blocks, value.iterate = .ok blocks ∧ ∀ block ∈ blocks, test block) ↔
      value.Blocks test := by
  cases value with
  | arr items => simp [iterate, Blocks]
  | obj members =>
    cases members with
    | nil => simp [iterate, Blocks]
    | cons member members => simp [iterate, Blocks, notString]
  | str text =>
    cases text with
    | loneSurrogate codePoints =>
      cases codePoints with
      | nil => simp [iterate, Blocks]
      | cons codePoint codePoints => simp [iterate, Blocks, notString]
    | text characters =>
      rw [Blocks, ← String.toList_eq_nil_iff]
      cases listEq : characters.toList with
      | nil => simp [iterate, listEq]
      | cons character rest =>
        simp [iterate, listEq, ofString, notString]
  | _ => simp [iterate, Blocks]

/-- `value[:n]` does not raise. -/
def IsSlice : Json → Prop
  | .arr _ | .str _ => True
  | _ => False

theorem returns_checkSlice (value : Json) :
    Py.Returns value.checkSlice ↔ value.IsSlice := by
  cases value <;> simp [Py.Returns, checkSlice, IsSlice]

end Json

namespace CliErrorClassify

variable (tools : PythonText)

/-- The text of an error and its subtype can be classified. -/
def Classifiable (subtype : Json) (text : PyStr) : Prop :=
  (tools.lower text).contains "timeout" = true ∨ (tools.lower text).contains "timed out" = true ∨
    (∃ name, subtype = .str name) ∨
    subtype.IsHashable ∧ subtype.truthy = false ∧ inferSubtypeFromFlatError tools text ≠ ""

theorem isOneOf_of_isHashable {subtype : Json} (hashable : subtype.IsHashable)
    (names : List String) : ∃ known, isOneOf subtype names = .ok known := by
  obtain ⟨key, keyEq⟩ := Json.exists_hashKey_of_isHashable hashable
  exact ⟨_, by rw [isOneOf, keyEq]; rfl⟩

theorem isOneOf_of_not_isHashable {subtype : Json}
    (unhashable : ¬ subtype.IsHashable) (names : List String) :
    isOneOf subtype names = .error .typeError := by
  cases subtype <;> first | rfl | exact absurd trivial unhashable

theorem isOneOf_of_not_str {subtype : Json} (hashable : subtype.IsHashable)
    (notString : ∀ name, subtype ≠ .str name) (names : List String) :
    isOneOf subtype names = .ok false := by
  cases subtype with
  | str name => exact absurd rfl (notString name)
  | arr items => exact hashable.elim
  | obj members => exact hashable.elim
  | _ => simp [isOneOf, Json.hashKey]

theorem mentionsRateLimit_of_not_str {subtype : Json} (hashable : subtype.IsHashable)
    (notString : ∀ name, subtype ≠ .str name) :
    mentionsRateLimit subtype = .error .typeError := by
  cases subtype with
  | str name => exact absurd rfl (notString name)
  | arr items => exact hashable.elim
  | obj members => exact hashable.elim
  | _ => rfl

theorem returns_isOneOf_bind {α : Type} {name : PyStr} {names : List String} {next : Bool → Py α}
    (nextReturns : ∀ known, Py.Returns (next known)) :
    Py.Returns (isOneOf (.str name) names >>= next) := by
  have hashable : (Json.str name).IsHashable := trivial
  obtain ⟨known, knownEq⟩ := isOneOf_of_isHashable hashable names
  rw [knownEq]
  exact nextReturns known

theorem returns_classifyCode_str (name : PyStr) :
    Py.Returns (classifyCode (.str name)) := by
  apply returns_isOneOf_bind
  intro isAuth
  cases isAuth
  · apply returns_isOneOf_bind
    intro isLost
    cases isLost
    · apply returns_isOneOf_bind
      intro isLimit
      cases isLimit
      · simp only [Bool.false_eq_true, if_false, mentionsRateLimit, Py.ok_bind]
        split <;> exact Py.returns_ok _
      · exact Py.returns_ok _
    · exact Py.returns_ok _
  · exact Py.returns_ok _

theorem returns_classifyCliError (subtype : Json) (text : PyStr) :
    Py.Returns (classifyCliError tools subtype text) ↔ Py.Returns (classifyCode subtype) :=
  Py.returns_bind_of_forall fun _ => Py.returns_ok _

theorem returns_subtypeIsSpecific_str (name : PyStr) :
    Py.Returns (subtypeIsSpecific (.str name)) := by
  apply returns_isOneOf_bind
  intro isAuth
  cases isAuth
  · apply returns_isOneOf_bind
    intro isLost
    cases isLost
    · apply returns_isOneOf_bind
      intro isLimit
      cases isLimit
      · simp only [Bool.false_eq_true, if_false, mentionsRateLimit]
        split <;> exact Py.returns_ok _
      · exact Py.returns_ok _
    · exact Py.returns_ok _
  · exact Py.returns_ok _

theorem subtypeIsSpecific_of_not_str {subtype : Json} (hashable : subtype.IsHashable)
    (notString : ∀ name, subtype ≠ .str name) :
    subtypeIsSpecific subtype =
      if subtype.truthy then .error .typeError else .ok false := by
  unfold subtypeIsSpecific
  simp only [isOneOf_of_not_str hashable notString, mentionsRateLimit_of_not_str hashable notString]
  rfl

theorem classifyCode_of_not_str {subtype : Json} (hashable : subtype.IsHashable)
    (notString : ∀ name, subtype ≠ .str name) :
    classifyCode subtype = .error .typeError := by
  unfold classifyCode
  simp only [isOneOf_of_not_str hashable notString, mentionsRateLimit_of_not_str hashable notString]
  rfl

theorem returns_resolveCliWorkerError (subtype : Json) (text : PyStr) :
    Py.Returns (resolveCliWorkerError tools subtype (.str text)) ↔
      Classifiable tools subtype text := by
  unfold resolveCliWorkerError Classifiable
  dsimp only
  by_cases timeout : ((tools.lower text).contains "timeout" ||
      (tools.lower text).contains "timed out") = true
  · rw [if_pos timeout]
    rw [Bool.or_eq_true] at timeout
    rw [← or_assoc]
    exact ⟨fun _ => .inl timeout, fun _ => Py.returns_ok _⟩
  · rw [if_neg timeout]
    rw [Bool.or_eq_true, not_or] at timeout
    rw [or_iff_right timeout.1, or_iff_right timeout.2]
    by_cases isString : ∃ name, subtype = .str name
    · obtain ⟨name, rfl⟩ := isString
      obtain ⟨specific, specificEq⟩ := returns_subtypeIsSpecific_str name
      rw [specificEq, Py.ok_bind]
      refine iff_of_true ?_ (.inl ⟨name, rfl⟩)
      split
      · exact (returns_classifyCliError tools _ _).mpr (returns_classifyCode_str name)
      · exact (returns_classifyCliError tools _ _).mpr (returns_classifyCode_str _)
    · have notString : ∀ name, subtype ≠ .str name :=
        fun name same => isString ⟨name, same⟩
      by_cases hashable : subtype.IsHashable
      · rw [subtypeIsSpecific_of_not_str hashable notString]
        cases subtype.truthy with
        | true => simp [isString]
        | false =>
          simp only [Bool.false_eq_true, if_false, Py.ok_bind,
            Bool.false_or, decide_eq_true_eq, isString, hashable,
            true_and, false_or]
          split
          · rename_i unknown
            simp [unknown, returns_classifyCliError, classifyCode_of_not_str hashable notString]
          · rename_i inferred
            exact iff_of_true ((returns_classifyCliError tools _ _).mpr
              (returns_classifyCode_str _)) inferred
      · have raises : subtypeIsSpecific subtype = .error .typeError := by
          unfold subtypeIsSpecific
          rw [isOneOf_of_not_isHashable hashable]
          rfl
        simp [raises, isString, hashable]

end CliErrorClassify

namespace CliStreamingParser

variable {parser : CliStreamingParser}

/-! ## Assistant and user messages -/

/-- A block with a tool id that can be announced. -/
def AssistantBlock (block : Json) : Prop :=
  block.IsObj ∧ ((block.field "type" .null).isText "tool_use" = true →
    (block.field "id" (.ofString "")).truthy = true →
    (block.field "id" (.ofString "")).IsHashable)

theorem returns_markSeen (toolId : Json) :
    Py.Returns (parser.markSeen toolId) ↔ toolId.IsHashable := by
  rw [← Json.returns_hashKey]
  apply Py.returns_bind_of_forall
  intro key
  split <;> exact Py.returns_ok _

theorem returns_handleAssistantBlock (block : Json) :
    Py.Returns (parser.handleAssistantBlock block) ↔ AssistantBlock block := by
  unfold handleAssistantBlock AssistantBlock
  by_cases isObj : block.IsObj
  · simp only [Json.get_of_isObj isObj, Py.ok_bind, isObj, true_and]
    by_cases toolUse : (block.field "type" .null).isText "tool_use" = true
    · simp only [toolUse, Bool.not_true, Bool.false_eq_true, if_false, forall_const]
      rw [Py.returns_bind_of_forall]
      · unfold markFresh
        by_cases named : (block.field "id" (.ofString "")).truthy = true
        · simp only [named, if_true, returns_markSeen, forall_const]
        · simp [named, Py.returns_ok]
      · rintro ⟨fresh, marked⟩
        cases fresh <;> exact Py.returns_ok _
    · simp [toolUse]
  · simp [Json.get_of_not_isObj isObj, isObj]

theorem returns_toolResultPart (tools : PythonText) (item : Json) :
    Py.Returns (toolResultPart tools item) := by
  cases item with
  | obj members =>
    simp only [toolResultPart, Json.get_obj, Py.ok_bind]
    split <;> exact Py.returns_ok _
  | _ => exact Py.returns_ok _

theorem returns_mapM {α β : Type} {convert : α → Py β}
    (converts : ∀ item, Py.Returns (convert item)) (items : List α) :
    Py.Returns (items.mapM convert) := by
  induction items with
  | nil => exact Py.returns_ok _
  | cons item items ih =>
    obtain ⟨first, firstEq⟩ := converts item
    obtain ⟨rest, restEq⟩ := ih
    rw [List.mapM_cons, firstEq, Py.ok_bind, restEq]
    exact Py.returns_ok _

theorem returns_toolResultContent (tools : PythonText) (content : Json) :
    Py.Returns (toolResultContent tools content) := by
  cases content with
  | arr items =>
    exact (Py.returns_bind_of_forall fun _ => Py.returns_ok _).mpr
      (returns_mapM (returns_toolResultPart tools) items)
  | _ => exact Py.returns_ok _

theorem returns_handleToolResultBlock (tools : PythonText) (block : Json) :
    Py.Returns (parser.handleToolResultBlock tools block) ↔ block.IsObj := by
  unfold handleToolResultBlock
  by_cases isObj : block.IsObj
  · simp only [Json.get_of_isObj isObj, Py.ok_bind, isObj, iff_true]
    split
    · exact Py.returns_ok _
    · exact (Py.returns_bind_of_forall fun _ => Py.returns_ok _).mpr
        (returns_toolResultContent tools _)
  · simp [Json.get_of_not_isObj isObj, isObj]

theorem returns_handleBlocks {handle : CliStreamingParser → Json → Py Parsed} {test : Json → Prop}
    (handles : ∀ parser block, Py.Returns (handle parser block) ↔ test block)
    (blocks : List Json) :
    Py.Returns (handleBlocks handle parser blocks) ↔ ∀ block ∈ blocks, test block := by
  induction blocks generalizing parser with
  | nil => simp [handleBlocks, Py.returns_ok]
  | cons block blocks ih =>
    rw [handleBlocks, List.forall_mem_cons, ← handles parser block]
    cases handled : handle parser block with
    | error raised => simp
    | ok first =>
      rw [Py.ok_bind]
      simp only [Py.returns_ok, true_and, ← @ih first.1]
      exact Py.returns_bind_of_forall fun _ => Py.returns_ok _

/-- The message of a line, with contents whose blocks pass the test. -/
def BlockMessage (test : Json → Prop) (data : Json) : Prop :=
  (data.field "message" (.obj [])).IsObj ∧
    ((data.field "message" (.obj [])).field "content" (.arr [])).Blocks test

theorem returns_handleMessageBlocks
    {handle : CliStreamingParser → Json → Py Parsed} {test : Json → Prop}
    (handles : ∀ parser block, Py.Returns (handle parser block) ↔ test block)
    (notString : ∀ text, ¬ test (.str text)) {data : Json}
    (isObj : data.IsObj) :
    Py.Returns (contentBlocks data >>= handleBlocks handle parser) ↔
      BlockMessage test data := by
  unfold contentBlocks BlockMessage
  rw [Json.get_of_isObj isObj, Py.ok_bind]
  by_cases messageObj : (data.field "message" (.obj [])).IsObj
  · rw [Json.get_of_isObj messageObj, Py.ok_bind,
      ← Json.blocks_iff notString, and_iff_right messageObj]
    cases ((data.field "message" (.obj [])).field "content" (.arr [])).iterate with
    | error raised => simp
    | ok blocks =>
      rw [Py.ok_bind, returns_handleBlocks handles]
      simp
  · rw [Json.get_of_not_isObj messageObj]
    simp [messageObj]

theorem returns_handleAssistant {data : Json} (isObj : data.IsObj) :
    Py.Returns (parser.handleAssistant data) ↔ BlockMessage AssistantBlock data :=
  returns_handleMessageBlocks (fun _ => returns_handleAssistantBlock) (fun _ block => block.1) isObj

theorem returns_handleUserToolResult (tools : PythonText) {data : Json} (isObj : data.IsObj) :
    Py.Returns (parser.handleUserToolResult tools data) ↔ BlockMessage Json.IsObj data :=
  returns_handleMessageBlocks (fun _ => returns_handleToolResultBlock tools)
    (fun _ block => block) isObj

/-! ## Stream events -/

/-- The started block, with a tool id that can be announced. -/
def StartEvent (event : Json) : Prop := AssistantBlock (event.field "content_block" (.obj []))

theorem returns_handleContentBlockStart {event : Json} (isObj : event.IsObj) :
    Py.Returns (parser.handleContentBlockStart event) ↔ StartEvent event := by
  unfold handleContentBlockStart StartEvent AssistantBlock
  rw [Json.get_of_isObj isObj, Py.ok_bind]
  generalize event.field "content_block" (.obj []) = block
  by_cases blockObj : block.IsObj
  · simp only [Json.get_of_isObj blockObj, Json.get_of_isObj isObj, Py.ok_bind, blockObj, true_and]
    by_cases thinking : (block.field "type" .null).isText "thinking" = true
    · have toolUse : (block.field "type" .null).isText "tool_use" = false :=
        Json.isText_of_isText thinking "tool_use"
      simp only [thinking, toolUse, if_true, Bool.false_eq_true, false_imp_iff, iff_true]
      split <;> exact Py.returns_ok _
    · rw [if_neg thinking]
      by_cases toolUse : (block.field "type" .null).isText "tool_use" = true
      · rw [if_pos toolUse]
        simp only [toolUse, forall_const]
        by_cases named : (block.field "id" (.ofString "")).truthy = true
        · simp only [named, Bool.not_true, Bool.false_eq_true, if_false, forall_const]
          rw [Py.returns_bind_of_forall, returns_markSeen]
          rintro ⟨fresh, marked⟩
          cases fresh <;> exact Py.returns_ok _
        · simp [named]
      · simp [toolUse]
  · rw [Json.get_of_not_isObj blockObj]
    simp [blockObj]

theorem returns_handleContentBlockDelta {event : Json} (isObj : event.IsObj) :
    Py.Returns (parser.handleContentBlockDelta event) ↔ (event.field "delta" (.obj [])).IsObj := by
  unfold handleContentBlockDelta
  rw [Json.get_of_isObj isObj, Py.ok_bind]
  generalize event.field "delta" (.obj []) = delta
  by_cases deltaObj : delta.IsObj
  · simp only [Json.get_of_isObj deltaObj, Json.get_of_isObj isObj, Py.ok_bind, deltaObj, iff_true]
    split
    · split <;> exact Py.returns_ok _
    · split
      · split <;> exact Py.returns_ok _
      · split
        · split
          · split <;> exact Py.returns_ok _
          · exact Py.returns_ok _
        · exact Py.returns_ok _
  · rw [Json.get_of_not_isObj deltaObj]
    simp [deltaObj]

theorem returns_handleContentBlockStop {event : Json} (isObj : event.IsObj) :
    Py.Returns (parser.handleContentBlockStop event) := by
  unfold handleContentBlockStop
  rw [Json.get_of_isObj isObj, Py.ok_bind]
  split <;> exact Py.returns_ok _

/-- An event of the stream, with the parts that its type calls for. -/
def StreamEvent (event : Json) : Prop := event.IsObj ∧
    ((event.field "type" (.ofString "")).isText "content_block_start" = true → StartEvent event) ∧
    ((event.field "type" (.ofString "")).isText "content_block_delta" =
      true → (event.field "delta" (.obj [])).IsObj)

theorem returns_handleStreamEvent {data : Json} (isObj : data.IsObj) :
    Py.Returns (parser.handleStreamEvent data) ↔
      StreamEvent (data.field "event" data) := by
  unfold handleStreamEvent StreamEvent
  rw [Json.get_of_isObj isObj, Py.ok_bind]
  generalize data.field "event" data = event
  by_cases eventObj : event.IsObj
  · rw [Json.get_of_isObj eventObj, Py.ok_bind, and_iff_right eventObj]
    generalize event.field "type" (.ofString "") = eventType
    by_cases start : eventType.isText "content_block_start" = true
    · have delta : eventType.isText "content_block_delta" = false :=
        Json.isText_of_isText start "content_block_delta"
      rw [if_pos start, returns_handleContentBlockStart eventObj]
      simp [start, delta]
    · rw [if_neg start]
      by_cases delta : eventType.isText "content_block_delta" = true
      · rw [if_pos delta, returns_handleContentBlockDelta eventObj]
        simp [start, delta]
      · rw [if_neg delta]
        refine iff_of_true ?_ ⟨fun is => absurd is start,
          fun is => absurd is delta⟩
        split
        · exact returns_handleContentBlockStop eventObj
        · exact Py.returns_ok _
  · rw [Json.get_of_not_isObj eventObj]
    simp [eventObj]

/-! ## Results -/

def reportedError (data subtype : Json) : Option Json :=
  let errors := data.field "errors" (.arr [])
  if errors.truthy then errors.first.toOption
  else some (((data.field "result" .null).orElse subtype).orElse
    (.ofString "Unknown streaming error"))

/-- The error of a result can be read, logged and classified. -/
def ErrorResult (tools : PythonText) (data : Json) : Prop :=
  let subtype := data.field "subtype" (.ofString "")
  ((data.field "result" .null).orElse (.ofString "")).IsSlice ∧
    ∃ error ∈ reportedError data subtype, ∃ text, error.orElse (.ofString "") = .str text ∧
        CliErrorClassify.Classifiable tools subtype text

theorem resultError_eq {data : Json} (isObj : data.IsObj) (subtype : Json) (error : Json) :
    resultError data subtype = .ok error ↔
      ((data.field "result" .null).orElse (.ofString "")).IsSlice ∧
        reportedError data subtype = some error := by
  unfold resultError reportedError
  simp only [Json.get_of_isObj isObj, Py.ok_bind]
  rw [← Json.returns_checkSlice]
  generalize ((data.field "result" .null).orElse (.ofString "")).checkSlice = logged
  cases logged with
  | error raised =>
    simp only [Py.error_bind, Py.returns_error, false_and, iff_false]
    split
    · cases (data.field "errors" (.arr [])).first <;> simp
    · simp
  | ok value =>
    simp only [Py.ok_bind, Py.returns_ok, true_and]
    split
    · cases (data.field "errors" (.arr [])).first with
      | error raised => simp [Except.toOption]
      | ok first => simp [Except.toOption, pure, Except.pure]
    · simp [pure, Except.pure]

theorem returns_handleResult (tools : PythonText) {data : Json} (isObj : data.IsObj) :
    Py.Returns (parser.handleResult tools data) ↔
      ((parser.effectiveError (data.field "is_error" (.bool false))
        (data.field "subtype" (.ofString ""))).truthy = true →
          ErrorResult tools data) := by
  unfold handleResult ErrorResult
  simp only [Json.get_of_isObj isObj, Py.ok_bind]
  generalize data.field "subtype" (.ofString "") = subtype
  by_cases failed : (parser.effectiveError
      (data.field "is_error" (.bool false)) subtype).truthy = true
  · simp only [failed, if_true, forall_const]
    cases read : resultError data subtype with
    | error raised =>
      simp only [Py.error_bind, Py.returns_error, false_iff]
      rintro ⟨sliced, error, reported, -⟩
      rw [(resultError_eq isObj subtype error).mpr ⟨sliced, reported⟩]
        at read
      cases read
    | ok error =>
      obtain ⟨sliced, reported⟩ := (resultError_eq isObj subtype error).mp read
      rw [Py.ok_bind, Py.returns_bind_of_forall]
      · simp only [sliced, reported, Option.mem_some_iff, true_and,
          exists_eq_left']
        cases error.orElse (.ofString "") with
        | str text =>
          rw [CliErrorClassify.returns_resolveCliWorkerError]
          simp
        | _ => simp [CliErrorClassify.resolveCliWorkerError]
      · exact fun _ => Py.returns_ok _
  · simp [failed]

/-! ## Lines -/

/-- A loaded value on which its handler returns. -/
def Message (tools : PythonText) (parser : CliStreamingParser) (data : Json) : Prop :=
  let msgType := data.field "type" (.ofString "")
  data.IsObj ∧ msgType.IsHashable ∧
    (msgType.isText "assistant" = true → BlockMessage AssistantBlock data) ∧
    (msgType.isText "stream_event" = true → StreamEvent (data.field "event" data)) ∧
    (msgType.isText "user" = true → BlockMessage Json.IsObj data) ∧
    (msgType.isText "result" = true → (parser.effectiveError (data.field "is_error" (.bool false))
        (data.field "subtype" (.ofString ""))).truthy = true → ErrorResult tools data)

theorem returns_handleSystem {data : Json} (isObj : data.IsObj) : Py.Returns (do
      let subtype ← data.get "subtype" .null
      if subtype.isText "init" then
        return ((← handleSystemInit parser data, []) : Parsed)
      else return (parser, [])) := by
  rw [Json.get_of_isObj isObj, Py.ok_bind]
  split
  · rw [handleSystemInit, Json.get_of_isObj isObj]
    exact Py.returns_ok _
  · exact Py.returns_ok _

theorem returns_handleMessage (tools : PythonText) (data : Json) :
    Py.Returns (parser.handleMessage tools data) ↔
      Message tools parser data := by
  unfold handleMessage Message
  by_cases isObj : data.IsObj
  · rw [Json.get_of_isObj isObj, Py.ok_bind]
    generalize data.field "type" (.ofString "") = msgType
    by_cases hashable : msgType.IsHashable
    · obtain ⟨key, keyEq⟩ := Json.exists_hashKey_of_isHashable hashable
      simp only [keyEq, Py.ok_bind, isObj, hashable, true_and]
      -- The type is one literal at most.
      by_cases assistant : msgType.isText "assistant" = true
      · simp [assistant, Json.isText_of_isText assistant,
          returns_handleAssistant isObj]
      · by_cases streamEvent : msgType.isText "stream_event" = true
        · simp [streamEvent, Json.isText_of_isText streamEvent,
            returns_handleStreamEvent isObj]
        · by_cases user : msgType.isText "user" = true
          · simp [user, Json.isText_of_isText user,
              returns_handleUserToolResult tools isObj]
          · by_cases result : msgType.isText "result" = true
            · simp [result, Json.isText_of_isText result,
                returns_handleResult tools isObj]
            · simp only [assistant, streamEvent, user, result,
                false_imp_iff, and_true, iff_true, if_false,
                Bool.false_eq_true]
              split
              · exact returns_handleSystem isObj
              · exact Py.returns_ok _
    · cases hashed : msgType.hashKey with
      | ok key =>
        exact absurd ((Json.returns_hashKey msgType).mp ⟨key, hashed⟩) hashable
      | error raised => simp [hashable]
  · rw [Json.get_of_not_isObj isObj]
    simp [isObj]

/-- A `str` that `parse_line` is given, and what `json.loads` makes of it. -/
inductive TextLine
  | blank
  | notJson (startsWithBrace : Bool)
  | json (value : Json)
  /-- The nesting is too deep or an integer too long. -/
  | beyondLimits (startsWithBrace : Bool) (raised : PyError)

namespace TextLine

def stdout : TextLine → StdoutLine
  | blank => .blank
  | notJson startsWithBrace => .notJson startsWithBrace
  | json value => .json value
  | beyondLimits _ raised => .loadsRaises raised

def startsObject : TextLine → Bool
  | blank => false
  | notJson startsWithBrace => startsWithBrace
  | json (.obj _) => true
  | json _ => false
  | beyondLimits startsWithBrace _ => startsWithBrace

/-- The line starts an object but does not parse. -/
def isBrokenObject : TextLine → Bool
  | notJson startsWithBrace => startsWithBrace
  | beyondLimits startsWithBrace _ => startsWithBrace
  | _ => false

/-- The line holds nothing that a handler chokes on. -/
def Digestible (tools : PythonText) (parser : CliStreamingParser) : TextLine → Prop
  | blank => True
  | notJson _ => True
  | json value => Message tools parser value
  | beyondLimits .. => False

end TextLine

def ReportsError : LlmEvent → Prop
  | .result isError _ _ _ workerError =>
    isError.truthy = true ∧ workerError.isSome = true
  | _ => False

/-- What `parse_line` promises of a line. -/
structure Handles (tools : PythonText) (parser : CliStreamingParser) (line : TextLine) : Prop where
  returns : Py.Returns (parser.parseLine tools line.stdout)
  skips : line.startsObject = false → parser.parseLine tools line.stdout = .ok (parser, [])
  reports : parser.done = false → line.isBrokenObject = true →
    ∃ next event, parser.parseLine tools line.stdout = .ok (next, [event]) ∧
      ReportsError event ∧ next.done = true ∧
      ∀ later : TextLine, next.parseLine tools later.stdout = .ok (next, [])

theorem parseLine_of_done (tools : PythonText) (done : parser.done = true)
    (line : StdoutLine) : parser.parseLine tools line = .ok (parser, []) := by
  unfold parseLine
  rw [if_pos done]

theorem returns_parseLine (tools : PythonText) (running : parser.done = false) (line : TextLine) :
    Py.Returns (parser.parseLine tools line.stdout) ↔
      line.Digestible tools parser := by
  unfold parseLine
  rw [running, if_neg Bool.false_ne_true]
  cases line with
  | blank => exact iff_of_true (Py.returns_ok _) trivial
  | notJson startsWithBrace => exact iff_of_true (Py.returns_ok _) trivial
  | json value => exact returns_handleMessage tools value
  | beyondLimits startsWithBrace raised => exact Py.returns_error raised

/-- `parse_line` keeps its promise of a line exactly when the parser is done
or the line is digestible. -/
theorem handles_iff (tools : PythonText) (parser : CliStreamingParser) (line : TextLine) :
    parser.Handles tools line ↔ parser.done = true ∨ line.Digestible tools parser := by
  constructor
  · intro handles
    cases done : parser.done with
    | true => exact .inl rfl
    | false =>
      exact .inr ((returns_parseLine tools done line).mp handles.returns)
  · intro condition
    cases done : parser.done with
    | true =>
      have ignored := parseLine_of_done tools done line.stdout
      exact
        { returns := ⟨_, ignored⟩
          skips := fun _ => ignored
          reports := fun running => absurd (done.symm.trans running) (by decide) }
    | false =>
      rw [done, or_iff_right Bool.false_ne_true] at condition
      have returns := (returns_parseLine tools done line).mpr condition
      refine ⟨returns, ?_, ?_⟩
      · intro other
        unfold parseLine
        rw [done, if_neg Bool.false_ne_true]
        cases line with
        | blank => rfl
        | notJson startsWithBrace =>
          cases other
          rfl
        | json value =>
          cases value with
          | obj members => cases other
          | _ => exact condition.1.elim
        | beyondLimits startsWithBrace raised => exact condition.elim
      · intro _ broken
        unfold parseLine
        rw [done, if_neg Bool.false_ne_true]
        cases line with
        | notJson startsWithBrace =>
          cases broken
          exact ⟨_, _, rfl, ⟨rfl, rfl⟩, rfl,
            fun later => parseLine_of_done tools rfl later.stdout⟩
        | beyondLimits startsWithBrace raised => exact condition.elim
        | blank => cases broken
        | json value => cases broken

section Example

def plainUserMessage : Json := .obj [(.text "type", .ofString "user"),
    (.text "message", .obj [(.text "content", .ofString "hello")])]

/-- The string is iterated, and its characters have no `get`. -/
theorem parseLine_plainUserMessage :
    parseLine .ascii { } (.json plainUserMessage) = .error .attributeError :=
  rfl

/-- `null` is no object and has no `get` either. -/
theorem exists_unhandled_lines : ¬ Handles .ascii { } (.json .null) ∧
      ¬ Handles .ascii { } (.json plainUserMessage) := by
  constructor
  · intro handles
    obtain ⟨parsed, parsedEq⟩ := handles.returns
    cases parsedEq
  · intro handles
    obtain ⟨parsed, parsedEq⟩ := handles.returns
    cases parseLine_plainUserMessage.symm.trans parsedEq

end Example

end CliStreamingParser

end RoxabiFactory
