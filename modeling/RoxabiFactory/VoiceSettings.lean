import RoxabiFactory.AgentLoads

/-!
# Storing voice settings

The voice settings of an agent are stored as JSON, and the loader rebuilds them
field by field.  It forgets some of the fields, and it converts some without
looking for a null first.
-/

namespace RoxabiFactory

namespace Agents

/-! ## The JSON of the settings -/

def FloatValue.toJson : FloatValue → Json
  | finite value => .float value
  | nonFinite name => .nonFinite name

/-- The fields of a pydantic model, with the JSON of those that are not
`None`. -/
abbrev FieldValues := List (String × Option Json)

def AgentTTSConfig.fieldValues (tts : AgentTTSConfig) : FieldValues :=
  [("engine", tts.engine.map .ofString), ("sample_id", tts.sampleId.map .ofString),
    ("voice", tts.voice.map .ofString),
    ("language", tts.language.map .ofString),
    ("accent", tts.accent.map .ofString),
    ("personality", tts.personality.map .ofString),
    ("speed", tts.speed.map .ofString),
    ("emotion", tts.emotion.map .ofString),
    ("segment_gap", tts.segmentGap.map .int),
    ("crossfade", tts.crossfade.map .int),
    ("chunked", tts.chunked.map .bool),
    ("chunk_size", tts.chunkSize.map .int),
    ("exaggeration", tts.exaggeration.map FloatValue.toJson),
    ("cfg_weight", tts.cfgWeight.map FloatValue.toJson),
    ("languages", tts.languages.map fun languages =>
      .arr (languages.map .ofString)),
    ("default_language", tts.defaultLanguage.map .ofString)]

def AgentSTTConfig.fieldValues (stt : AgentSTTConfig) : FieldValues :=
  [("language_detection_threshold", stt.languageDetectionThreshold.map FloatValue.toJson),
    ("language_detection_segments", stt.languageDetectionSegments.map .int),
    ("language_fallback", stt.languageFallback.map .ofString)]

/-- A value is there, or it is left out or written as null. -/
def HasValue (members : List (PyStr × Json)) (key : String) : Option Json → Prop
  | some value => members.lookup (.text key) = some value
  | none => members.lookup (.text key) = none ∨ members.lookup (.text key) = some .null

/-- The object is the JSON of the fields. -/
def Describes (members : List (PyStr × Json)) (fields : FieldValues) : Prop :=
  ∀ field ∈ fields, HasValue members field.1 field.2

/-- The column is the JSON of the settings. -/
structure StoresVoice (voiceJson : Option JsonText) (tts : AgentTTSConfig)
    (stt : AgentSTTConfig) (ttsMembers : List (PyStr × Json)) : Prop where
  tts : Describes ttsMembers tts.fieldValues
  column : ∃ members sttMembers, voiceJson = some (.document (.obj members)) ∧
    members.lookup (.text "tts") = some (.obj ttsMembers) ∧
    members.lookup (.text "stt") = some (.obj sttMembers) ∧
    Describes sttMembers stt.fieldValues

/-! ## What the loader gives back -/

def AgentRow.language (row : AgentRow) : String :=
  validateI18nLanguage (textOr row.fallbackLanguage "en")

/-- The row loads with these settings, but for a language that is filled in. -/
def GivesBack (tools : LoaderTools) (cache : SoulDocumentCache)
    (overrides : List (PyStr × Json)) (row : AgentRow) (tts : AgentTTSConfig)
    (stt : AgentSTTConfig) : Prop :=
  ∃ agent, agentRowToConfig tools cache overrides row = .ok agent ∧
    agent.voice = some ⟨tts, { stt with
      languageFallback := some (stt.languageFallback.getD row.language) }⟩

/-- The fields that the loader forgets have no value, and those that it
converts without looking are not written as null. -/
structure Lossless (tts : AgentTTSConfig) (members : List (PyStr × Json)) : Prop where
  sampleId : tts.sampleId = none
  languages : tts.languages = none
  defaultLanguage : tts.defaultLanguage = none
  notNull : ∀ key ∈ ["segment_gap", "crossfade", "chunked", "chunk_size",
    "exaggeration", "cfg_weight"], members.lookup (.text key) ≠ some .null

section Fields

variable {tools : LoaderTools} {members : List (PyStr × Json)} {key : String}

theorem givenField_eq {α : Type} {accept : Json → Option α} {toJson : α → Json}
    {value : Option α} (accepts : ∀ value, accept (toJson value) = some value)
    (notNull : ∀ value, toJson value ≠ .null)
    (has : HasValue members key (value.map toJson)) :
    givenField accept members key = .ok value := by
  unfold givenField
  cases value with
  | none =>
    rcases has with absent | isNull
    · rw [absent]
      rfl
    · rw [isNull]
      rfl
  | some value =>
    have present : members.lookup (.text key) = some (toJson value) := has
    rw [present, Option.getD_some, optionalField]
    · rw [accepts]
    · exact notNull value

theorem convertPresent_eq_ok_iff {α : Type} {convert : Json → Py α}
    {toJson : α → Json} {value : Option α}
    (converts : ∀ value, convert (toJson value) = .ok value)
    (notNull : ∀ value, toJson value ≠ .null)
    (has : HasValue members key (value.map toJson)) :
    convertPresent convert members key = .ok value ↔
      members.lookup (.text key) ≠ some .null := by
  unfold convertPresent
  cases value with
  | none =>
    rcases has with absent | isNull
    · rw [absent]
      simp only [ne_eq, reduceCtorEq, not_false_eq_true]
    · rw [isNull]
      simp only [ne_eq, not_true_eq_false, iff_false]
      intro converted
      obtain ⟨other, -, same⟩ := Py.bind_eq_ok.mp converted
      cases same
  | some value =>
    have present : members.lookup (.text key) = some (toJson value) := has
    rw [present]
    simp only [converts, ne_eq, Option.some.injEq, notNull, not_false_eq_true, iff_true]
    rfl

end Fields

/-! ## Both parts of the settings -/

section Parts

variable {tools : LoaderTools} {members : List (PyStr × Json)} {key : String}

theorem pyFloat_toJson (value : FloatValue) : pyFloat tools value.toJson = .ok value := by
  cases value <;> rfl

theorem toJson_ne_null (value : FloatValue) : value.toJson ≠ .null := by
  cases value <;> simp [FloatValue.toJson]

theorem givenField_text {text : Option String} (has : HasValue members key (text.map .ofString)) :
    givenField Json.asText members key = .ok text := by
  apply givenField_eq _ _ has
  · exact fun _ => rfl
  · simp [Json.ofString]

theorem convertPresent_int {value : Option ℤ} (has : HasValue members key (value.map .int)) :
    convertPresent (pyInt tools) members key = .ok value ↔
      members.lookup (.text key) ≠ some .null := by
  apply convertPresent_eq_ok_iff _ _ has
  · exact fun _ => rfl
  · simp

theorem convertPresent_float {value : Option FloatValue}
    (has : HasValue members key (value.map FloatValue.toJson)) :
    convertPresent (pyFloat tools) members key = .ok value ↔
      members.lookup (.text key) ≠ some .null :=
  convertPresent_eq_ok_iff pyFloat_toJson toJson_ne_null has

theorem convertPresent_bool {value : Option Bool} (has : HasValue members key (value.map .bool)) :
    convertPresent (fun value => .ok value.truthy) members key = .ok value ↔
      members.lookup (.text key) ≠ some .null := by
  apply convertPresent_eq_ok_iff _ _ has
  · exact fun _ => rfl
  · simp

theorem buildSttFromDict_eq {stt : AgentSTTConfig} (describes : Describes members stt.fieldValues) :
    buildSttFromDict tools (.obj members) = .ok stt := by
  have accepts (value : FloatValue) : tools.laxFloat value.toJson = some value := by
    cases value with
    | finite value => exact tools.laxFloat_float value
    | nonFinite name => exact tools.laxFloat_nonFinite name
  have intNotNull (value : ℤ) : Json.int value ≠ .null := by simp
  simp only [Describes, AgentSTTConfig.fieldValues, List.forall_mem_cons,
    List.not_mem_nil, false_implies, implies_true, and_true] at describes
  obtain ⟨threshold, segments, fallback⟩ := describes
  simp only [buildSttFromDict, givenField_eq accepts toJson_ne_null threshold,
    givenField_eq tools.laxInt_int intNotNull segments,
    givenField_text fallback, Py.ok_bind]
  rfl

theorem buildTtsFromDict_eq_ok_iff {tts : AgentTTSConfig}
    (describes : Describes members tts.fieldValues) :
    buildTtsFromDict tools (.obj members) = .ok tts ↔
      Lossless tts members := by
  simp only [Describes, AgentTTSConfig.fieldValues, List.forall_mem_cons,
    List.not_mem_nil, false_implies, implies_true, and_true] at describes
  obtain ⟨engine, -, voice, language, accent, personality, speed, emotion,
    segmentGap, crossfade, chunked, chunkSize, exaggeration, cfgWeight, -, -⟩ :=
    describes
  constructor
  · intro built
    obtain ⟨gap, isGap, built⟩ := Py.bind_eq_ok.mp built
    obtain ⟨fade, isFade, built⟩ := Py.bind_eq_ok.mp built
    obtain ⟨chunk, isChunk, built⟩ := Py.bind_eq_ok.mp built
    obtain ⟨size, isSize, built⟩ := Py.bind_eq_ok.mp built
    obtain ⟨more, isMore, built⟩ := Py.bind_eq_ok.mp built
    obtain ⟨weight, isWeight, built⟩ := Py.bind_eq_ok.mp built
    simp only [givenField_text engine, givenField_text voice,
      givenField_text language, givenField_text accent,
      givenField_text personality, givenField_text speed,
      givenField_text emotion, Py.ok_bind] at built
    have same := Except.ok.inj built
    have sameGap := congrArg AgentTTSConfig.segmentGap same
    have sameFade := congrArg AgentTTSConfig.crossfade same
    have sameChunk := congrArg AgentTTSConfig.chunked same
    have sameSize := congrArg AgentTTSConfig.chunkSize same
    have sameMore := congrArg AgentTTSConfig.exaggeration same
    have sameWeight := congrArg AgentTTSConfig.cfgWeight same
    simp only at sameGap sameFade sameChunk sameSize sameMore sameWeight
    refine ⟨(congrArg AgentTTSConfig.sampleId same).symm,
      (congrArg AgentTTSConfig.languages same).symm,
      (congrArg AgentTTSConfig.defaultLanguage same).symm, ?_⟩
    simp only [List.forall_mem_cons, List.not_mem_nil, false_implies, implies_true, and_true]
    exact ⟨(convertPresent_int segmentGap).mp (sameGap ▸ isGap),
      (convertPresent_int crossfade).mp (sameFade ▸ isFade),
      (convertPresent_bool chunked).mp (sameChunk ▸ isChunk),
      (convertPresent_int chunkSize).mp (sameSize ▸ isSize),
      (convertPresent_float exaggeration).mp (sameMore ▸ isMore),
      (convertPresent_float cfgWeight).mp (sameWeight ▸ isWeight)⟩
  · rintro ⟨sampleId, languages, defaultLanguage, notNull⟩
    simp only [List.forall_mem_cons, List.not_mem_nil, false_implies,
      implies_true, and_true] at notNull
    obtain ⟨gap, fade, chunk, size, more, weight⟩ := notNull
    simp only [buildTtsFromDict, (convertPresent_int segmentGap).mpr gap,
      (convertPresent_int crossfade).mpr fade,
      (convertPresent_bool chunked).mpr chunk,
      (convertPresent_int chunkSize).mpr size,
      (convertPresent_float exaggeration).mpr more,
      (convertPresent_float cfgWeight).mpr weight,
      givenField_text engine, givenField_text voice, givenField_text language,
      givenField_text accent, givenField_text personality,
      givenField_text speed, givenField_text emotion, Py.ok_bind]
    obtain ⟨⟩ := tts
    simp only at sampleId languages defaultLanguage
    subst sampleId languages defaultLanguage
    rfl

theorem buildPart_obj {α : Type} {build : Json → Py α} {default : α}
    (empty : build (.obj []) = .ok default) (members : List (PyStr × Json)) :
    buildPart build default (.obj members) = build (.obj members) := by
  cases members with
  | nil => exact empty.symm
  | cons member members =>
    have isFull : (Json.obj (member :: members)).truthy = true := rfl
    rw [buildPart, if_pos isFull, checkSet_obj, Py.ok_bind]

theorem voiceOf_eq_ok_iff {voiceJson : Option JsonText} {tts : AgentTTSConfig}
    {stt : AgentSTTConfig} (stores : StoresVoice voiceJson tts stt members)
    {voice : Option AgentVoiceConfig} :
    voiceOf tools voiceJson = .ok voice ↔
      ∃ built, buildTtsFromDict tools (.obj members) = .ok built ∧ voice = some ⟨built, stt⟩ := by
  obtain ⟨-, voiceMembers, sttMembers, rfl, isTts, isStt, describes⟩ := stores
  have notEmpty : JsonText.document (.obj voiceMembers) ≠ .malformed "" := nofun
  have emptyTts : buildTtsFromDict tools (.obj []) = .ok {} := rfl
  have emptyStt : buildSttFromDict tools (.obj []) = .ok {} := rfl
  have ttsPart : buildPart (buildTtsFromDict tools) {} (.obj members) =
      buildTtsFromDict tools (.obj members) := buildPart_obj emptyTts members
  have sttPart : buildPart (buildSttFromDict tools) {} (.obj sttMembers) = .ok stt :=
    (buildPart_obj emptyStt sttMembers).trans (buildSttFromDict_eq describes)
  simp only [voiceOf, if_neg notEmpty, JsonText.loads, Py.ok_bind, buildVoice,
    Json.get_obj, isTts, isStt, Option.getD_some, ttsPart, sttPart]
  rw [Py.bind_eq_ok]
  constructor
  · rintro ⟨value, built, same⟩
    obtain ⟨tts, isBuilt, made⟩ := Py.bind_eq_ok.mp built
    cases made
    exact ⟨tts, isBuilt, (Except.ok.inj same).symm⟩
  · rintro ⟨tts, isBuilt, rfl⟩
    exact ⟨_, Py.bind_eq_ok.mpr ⟨tts, isBuilt, rfl⟩, rfl⟩

end Parts

/-! ## The row -/

section Row

variable {tools : LoaderTools} {cache : SoulDocumentCache}
  {overrides : List (PyStr × Json)} {row : AgentRow} {tts : AgentTTSConfig}
  {stt : AgentSTTConfig} {members : List (PyStr × Json)}

theorem validateI18nLanguage_ne_empty (raw : String) : validateI18nLanguage raw ≠ "" := by
  unfold validateI18nLanguage
  split
  · rename_i long
    rintro rfl
    exact absurd long.1 (by decide)
  · decide

theorem bridgeLanguage_eq (voice : AgentVoiceConfig) {language : String} (filled : language ≠ "") :
    bridgeLanguage language voice = ⟨voice.tts, { voice.stt with
      languageFallback := some (voice.stt.languageFallback.getD language) }⟩ := by
  obtain ⟨tts, threshold, segments, fallback⟩ := voice
  cases fallback with
  | none => exact if_pos ⟨rfl, filled⟩
  | some fallback => exact if_neg fun isNone => nomatch isNone.1

/-- The settings come back when nothing in them is lost, and the row loads
without them. -/
theorem givesBack_iff (stores : StoresVoice row.voiceJson tts stt members) :
    GivesBack tools cache overrides row tts stt ↔ (∃ agent, agentRowToConfig tools cache overrides
        { row with voiceJson := none } = .ok agent) ∧
      Lossless tts members := by
  have bridged (voice : AgentVoiceConfig) :
      bridgeLanguage row.language voice = ⟨voice.tts, { voice.stt with
        languageFallback := some (voice.stt.languageFallback.getD row.language) }⟩ :=
    bridgeLanguage_eq voice (validateI18nLanguage_ne_empty _)
  have same : SameColumns row { row with voiceJson := none } := by
    constructor <;> rfl
  have back : SameColumns { row with voiceJson := none } row := by
    constructor <;> rfl
  rw [← @buildTtsFromDict_eq_ok_iff tools _ _ stores.tts]
  constructor
  · rintro ⟨agent, loads, isVoice⟩
    obtain ⟨columns, prompt, voice, columnsLoad, valid, isPrompt, made, rfl⟩ :=
      agentRowToConfig_eq_ok.mp loads
    obtain ⟨built, isBuilt, rfl⟩ := (voiceOf_eq_ok_iff stores).mp made
    have sameVoice := (congrArg some (bridged ⟨built, stt⟩)).symm.trans isVoice
    have sameTts : built = tts :=
      congrArg AgentVoiceConfig.tts (Option.some.inj sameVoice)
    refine ⟨⟨_, agentRowToConfig_eq_ok.mpr ⟨columns, prompt, none,
      columnsLoad.congr same, valid, isPrompt, rfl, rfl⟩⟩, ?_⟩
    rw [← sameTts]
    exact isBuilt
  · rintro ⟨⟨agent, loads⟩, isBuilt⟩
    obtain ⟨columns, prompt, voice, columnsLoad, valid, isPrompt, -, -⟩ :=
      agentRowToConfig_eq_ok.mp loads
    refine ⟨_, agentRowToConfig_eq_ok.mpr ⟨columns, prompt, _,
      columnsLoad.congr back, valid, isPrompt,
      (voiceOf_eq_ok_iff stores).mpr ⟨tts, isBuilt, rfl⟩, rfl⟩, ?_⟩
    exact congrArg some (bridged ⟨tts, stt⟩)

section Example

def voiceRow (ttsMembers : List (PyStr × Json)) : AgentRow where
  name := "aria"
  backend := "claude-cli"
  model := "sonnet"
  voiceJson := some (.document (.obj [(.text "tts", .obj ttsMembers), (.text "stt", .obj [])]))
  createdAt := ""
  updatedAt := ""

/-- An engine, and nothing else. -/
theorem givesBack_engine : GivesBack .plain (fun _ => none) []
      (voiceRow [(.text "engine", .ofString "piper")])
      { engine := some "piper" } {} := by
  have stores : StoresVoice (voiceRow [(.text "engine", .ofString "piper")]).voiceJson
      { engine := some "piper" } {} [(.text "engine", .ofString "piper")] := by
    refine ⟨?_, _, [], rfl, rfl, rfl, ?_⟩
    · simp only [Describes, AgentTTSConfig.fieldValues, List.forall_mem_cons,
        List.not_mem_nil, false_implies, implies_true, and_true]
      exact ⟨rfl, Or.inl rfl, Or.inl rfl, Or.inl rfl, Or.inl rfl, Or.inl rfl,
        Or.inl rfl, Or.inl rfl, Or.inl rfl, Or.inl rfl, Or.inl rfl, Or.inl rfl,
        Or.inl rfl, Or.inl rfl, Or.inl rfl, Or.inl rfl⟩
    · simp only [Describes, AgentSTTConfig.fieldValues, List.forall_mem_cons,
        List.not_mem_nil, false_implies, implies_true, and_true]
      exact ⟨Or.inl rfl, Or.inl rfl, Or.inl rfl⟩
  have lossless : Lossless { engine := some "piper" } [(.text "engine", .ofString "piper")] := by
    refine ⟨rfl, rfl, rfl, ?_⟩
    decide
  exact (givesBack_iff stores).mpr ⟨⟨_, rfl⟩, lossless⟩

/-- The id of a sample is lost. -/
theorem exists_not_givesBack :
    ∃ tts members, StoresVoice (voiceRow members).voiceJson tts {} members ∧
      ¬ GivesBack .plain (fun _ => none) [] (voiceRow members) tts {} := by
  refine ⟨{ sampleId := some "s1" }, [(.text "sample_id", .ofString "s1")],
    ⟨?_, _, [], rfl, rfl, rfl, ?_⟩, ?_⟩
  · simp only [Describes, AgentTTSConfig.fieldValues, List.forall_mem_cons,
      List.not_mem_nil, false_implies, implies_true, and_true]
    exact ⟨Or.inl rfl, rfl, Or.inl rfl, Or.inl rfl, Or.inl rfl, Or.inl rfl,
      Or.inl rfl, Or.inl rfl, Or.inl rfl, Or.inl rfl, Or.inl rfl, Or.inl rfl,
      Or.inl rfl, Or.inl rfl, Or.inl rfl, Or.inl rfl⟩
  · simp only [Describes, AgentSTTConfig.fieldValues, List.forall_mem_cons,
      List.not_mem_nil, false_implies, implies_true, and_true]
    exact ⟨Or.inl rfl, Or.inl rfl, Or.inl rfl⟩
  · rintro ⟨agent, loads, isVoice⟩
    have loaded : (agentRowToConfig .plain (fun _ => none) []
        (voiceRow [(.text "sample_id", .ofString "s1")])).toOption.bind
          (·.voice) = some ⟨{}, { languageFallback := some "en" }⟩ := by
      decide
    rw [loads] at loaded
    have sameVoice := isVoice.symm.trans loaded
    cases congrArg (fun voice : Option AgentVoiceConfig =>
      voice.bind fun voice => voice.tts.sampleId) sameVoice

end Example

end Row

end Agents

end RoxabiFactory
