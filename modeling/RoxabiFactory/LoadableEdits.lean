import RoxabiFactory.AgentEdits
import RoxabiFactory.AgentLoads

/-!
# Whether an edited agent loads

The dashboard accepts any text for a model and any object for voice settings.
The row that an accepted request leaves is loaded with the rules of the loader,
which are other ones.
-/

namespace RoxabiFactory

namespace Agents

/-! ## Voice settings that load -/

/-- A value that is there is converted without an exception. -/
def Converts {α : Type} (convert : Json → Py α)
    (members : List (PyStr × Json)) (key : String) : Prop :=
  ∀ value, members.lookup (.text key) = some value → ∃ converted, convert value = .ok converted

/-- A value that is there is null, or of the type of its field. -/
def Accepts {α : Type} (accept : Json → Option α)
    (members : List (PyStr × Json)) (key : String) : Prop :=
  ∀ value, members.lookup (.text key) = some value → value = .null ∨ (accept value).isSome = true

structure LoadableTts (tools : LoaderTools) (members : List (PyStr × Json)) : Prop where
  ints : ∀ key ∈ ["segment_gap", "crossfade", "chunk_size"], Converts (pyInt tools) members key
  floats : ∀ key ∈ ["exaggeration", "cfg_weight"], Converts (pyFloat tools) members key
  texts : ∀ key ∈ ["engine", "voice", "language", "accent", "personality",
    "speed", "emotion"], Accepts Json.asText members key

structure LoadableStt (tools : LoaderTools) (members : List (PyStr × Json)) : Prop where
  threshold : Accepts tools.laxFloat members "language_detection_threshold"
  segments : Accepts tools.laxInt members "language_detection_segments"
  fallback : Accepts Json.asText members "language_fallback"

def LoadablePart (loadable : List (PyStr × Json) → Prop)
    (members : List (PyStr × Json)) (key : String) : Prop :=
  ∀ value, members.lookup (.text key) = some value → value.truthy = true →
    ∃ partMembers, value = .obj partMembers ∧ loadable partMembers

def LoadableVoice (tools : LoaderTools) (members : List (PyStr × Json)) :
    Prop :=
  LoadablePart (LoadableTts tools) members "tts" ∧ LoadablePart (LoadableStt tools) members "stt"

/-- The model that a patch sets is valid, and so are its voice settings. -/
structure PatchRequest.Loadable (tools : LoaderTools) (request : PatchRequest) : Prop where
  model : ∀ model, request.model.bind nonEmpty = some model →
    matchesAll isModelChar model = true
  voice : ∀ members, request.voiceJson = some members → LoadableVoice tools members

def Loads (tools : LoaderTools) (cache : SoulDocumentCache) (row : AgentRow) :
    Prop :=
  ∃ agent, agentRowToConfig tools cache [] row = .ok agent

section Voice

variable {tools : LoaderTools} {members : List (PyStr × Json)} {key : String}

theorem exists_convertPresent_iff {α : Type} {convert : Json → Py α} :
    (∃ value, convertPresent convert members key = .ok value) ↔
      Converts convert members key := by
  unfold convertPresent Converts
  cases members.lookup (.text key) with
  | none => simp
  | some value =>
    constructor
    · rintro ⟨_, converted⟩ other same
      obtain ⟨result, isResult, -⟩ := Py.bind_eq_ok.mp converted
      rw [← Option.some.inj same]
      exact ⟨result, isResult⟩
    · intro converts
      obtain ⟨result, isResult⟩ := converts value rfl
      refine ⟨some result, ?_⟩
      change some <$> convert value = _
      rw [isResult]
      rfl

theorem exists_givenField_iff {α : Type} {accept : Json → Option α} :
    (∃ value, givenField accept members key = .ok value) ↔
      Accepts accept members key := by
  unfold givenField Accepts
  cases members.lookup (.text key) with
  | none => exact ⟨fun _ => nofun, fun _ => ⟨none, rfl⟩⟩
  | some value =>
    rw [Option.getD_some]
    by_cases isNull : value = .null
    · subst isNull
      exact ⟨fun _ _ same => .inl (Option.some.inj same).symm,
        fun _ => ⟨none, rfl⟩⟩
    · rw [optionalField]
      · cases accepted : accept value with
        | none =>
          constructor
          · rintro ⟨_, given⟩
            cases given
          · intro accepts
            rcases accepts value rfl with isNull' | isSome
            · exact absurd isNull' isNull
            · rw [accepted] at isSome
              cases isSome
        | some result =>
          refine ⟨fun _ other same => .inr ?_, fun _ => ⟨some result, rfl⟩⟩
          rw [← Option.some.inj same, accepted]
          rfl
      · exact isNull

theorem exists_buildTts_iff : (∃ tts, buildTtsFromDict tools (.obj members) = .ok tts) ↔
      LoadableTts tools members := by
  constructor
  · rintro ⟨tts, built⟩
    obtain ⟨_, gap, built⟩ := Py.bind_eq_ok.mp built
    obtain ⟨_, fade, built⟩ := Py.bind_eq_ok.mp built
    obtain ⟨_, -, built⟩ := Py.bind_eq_ok.mp built
    obtain ⟨_, size, built⟩ := Py.bind_eq_ok.mp built
    obtain ⟨_, more, built⟩ := Py.bind_eq_ok.mp built
    obtain ⟨_, weight, built⟩ := Py.bind_eq_ok.mp built
    obtain ⟨_, engine, built⟩ := Py.bind_eq_ok.mp built
    obtain ⟨_, voice, built⟩ := Py.bind_eq_ok.mp built
    obtain ⟨_, language, built⟩ := Py.bind_eq_ok.mp built
    obtain ⟨_, accent, built⟩ := Py.bind_eq_ok.mp built
    obtain ⟨_, personality, built⟩ := Py.bind_eq_ok.mp built
    obtain ⟨_, speed, built⟩ := Py.bind_eq_ok.mp built
    obtain ⟨_, emotion, -⟩ := Py.bind_eq_ok.mp built
    constructor
    · simp only [List.forall_mem_cons, List.not_mem_nil, false_implies,
        implies_true, and_true, ← exists_convertPresent_iff]
      exact ⟨⟨_, gap⟩, ⟨_, fade⟩, ⟨_, size⟩⟩
    · simp only [List.forall_mem_cons, List.not_mem_nil, false_implies,
        implies_true, and_true, ← exists_convertPresent_iff]
      exact ⟨⟨_, more⟩, ⟨_, weight⟩⟩
    · simp only [List.forall_mem_cons, List.not_mem_nil, false_implies,
        implies_true, and_true, ← exists_givenField_iff]
      exact ⟨⟨_, engine⟩, ⟨_, voice⟩, ⟨_, language⟩, ⟨_, accent⟩,
        ⟨_, personality⟩, ⟨_, speed⟩, ⟨_, emotion⟩⟩
  · rintro ⟨ints, floats, texts⟩
    simp only [List.forall_mem_cons, List.not_mem_nil, false_implies,
      implies_true, and_true, ← exists_convertPresent_iff,
      ← exists_givenField_iff] at ints floats texts
    obtain ⟨⟨_, gap⟩, ⟨_, fade⟩, ⟨_, size⟩⟩ := ints
    obtain ⟨⟨_, more⟩, ⟨_, weight⟩⟩ := floats
    obtain ⟨⟨_, engine⟩, ⟨_, voice⟩, ⟨_, language⟩, ⟨_, accent⟩,
      ⟨_, personality⟩, ⟨_, speed⟩, ⟨_, emotion⟩⟩ := texts
    have chunked : ∃ value, convertPresent (fun value => .ok value.truthy)
        members "chunked" = .ok value :=
      exists_convertPresent_iff.mpr fun value _ => ⟨value.truthy, rfl⟩
    obtain ⟨_, chunked⟩ := chunked
    simp only [buildTtsFromDict, gap, fade, chunked, size, more, weight, engine,
      voice, language, accent, personality, speed, emotion, Py.ok_bind]
    exact ⟨_, rfl⟩

theorem exists_buildStt_iff : (∃ stt, buildSttFromDict tools (.obj members) = .ok stt) ↔
      LoadableStt tools members := by
  constructor
  · rintro ⟨stt, built⟩
    obtain ⟨_, threshold, built⟩ := Py.bind_eq_ok.mp built
    obtain ⟨_, segments, built⟩ := Py.bind_eq_ok.mp built
    obtain ⟨_, fallback, -⟩ := Py.bind_eq_ok.mp built
    exact ⟨exists_givenField_iff.mp ⟨_, threshold⟩,
      exists_givenField_iff.mp ⟨_, segments⟩,
      exists_givenField_iff.mp ⟨_, fallback⟩⟩
  · rintro ⟨threshold, segments, fallback⟩
    obtain ⟨_, threshold⟩ := exists_givenField_iff.mpr threshold
    obtain ⟨_, segments⟩ := exists_givenField_iff.mpr segments
    obtain ⟨_, fallback⟩ := exists_givenField_iff.mpr fallback
    simp only [buildSttFromDict, threshold, segments, fallback, Py.ok_bind]
    exact ⟨_, rfl⟩

theorem exists_buildPart_iff {α : Type} {build : Json → Py α} {default : α}
    {loadable : List (PyStr × Json) → Prop} {value : Json}
    (objects : ∀ members, (∃ result, build (.obj members) = .ok result) ↔ loadable members)
    (others : ∀ value result, build value = .ok result → ∃ members, value = .obj members) :
    (∃ result, buildPart build default value = .ok result) ↔ (value.truthy = true →
        ∃ members, value = .obj members ∧ loadable members) := by
  unfold buildPart
  by_cases full : value.truthy = true
  · rw [if_pos full]
    simp only [full, true_implies]
    constructor
    · rintro ⟨result, built⟩
      obtain ⟨_, -, isResult⟩ := Py.bind_eq_ok.mp built
      obtain ⟨members, rfl⟩ := others value result isResult
      exact ⟨members, rfl, (objects members).mp ⟨result, isResult⟩⟩
    · rintro ⟨members, rfl, loads⟩
      obtain ⟨result, isResult⟩ := (objects members).mpr loads
      exact ⟨result, by rw [checkSet_obj, Py.ok_bind, isResult]⟩
  · rw [if_neg full]
    exact ⟨fun _ isFull => absurd isFull full, fun _ => ⟨default, rfl⟩⟩

theorem loadablePart_iff {loadable : List (PyStr × Json) → Prop} :
    LoadablePart loadable members key ↔
      (((members.lookup (.text key)).getD (.obj [])).truthy = true →
        ∃ partMembers, (members.lookup (.text key)).getD (.obj []) =
          .obj partMembers ∧ loadable partMembers) := by
  unfold LoadablePart
  cases members.lookup (.text key) with
  | none => exact ⟨fun _ => nofun, fun _ _ => nofun⟩
  | some value => simp

theorem exists_voiceOf_iff :
    (∃ voice, voiceOf tools (some (.document (.obj members))) = .ok voice) ↔
      LoadableVoice tools members := by
  have notEmpty : JsonText.document (.obj members) ≠ .malformed "" := nofun
  have ttsObjects (value : Json) (tts : AgentTTSConfig)
      (built : buildTtsFromDict tools value = .ok tts) :
      ∃ members, value = .obj members := by
    cases value with
    | obj members => exact ⟨members, rfl⟩
    | _ => cases built
  have sttObjects (value : Json) (stt : AgentSTTConfig)
      (built : buildSttFromDict tools value = .ok stt) :
      ∃ members, value = .obj members := by
    cases value with
    | obj members => exact ⟨members, rfl⟩
    | _ => cases built
  rw [LoadableVoice, loadablePart_iff, loadablePart_iff,
    ← exists_buildPart_iff (fun _ => exists_buildTts_iff) ttsObjects,
    ← exists_buildPart_iff (fun _ => exists_buildStt_iff) sttObjects]
  constructor
  · rintro ⟨voice, made⟩
    rw [voiceOf, if_neg notEmpty] at made
    obtain ⟨data, isData, made⟩ := Py.bind_eq_ok.mp made
    cases isData
    obtain ⟨built, isBuilt, -⟩ := Py.bind_eq_ok.mp made
    obtain ⟨_, isTts, isBuilt⟩ := Py.bind_eq_ok.mp isBuilt
    obtain ⟨_, isStt, isBuilt⟩ := Py.bind_eq_ok.mp isBuilt
    cases isTts
    cases isStt
    obtain ⟨tts, ttsBuilt, isBuilt⟩ := Py.bind_eq_ok.mp isBuilt
    obtain ⟨stt, sttBuilt, -⟩ := Py.bind_eq_ok.mp isBuilt
    exact ⟨⟨tts, ttsBuilt⟩, ⟨stt, sttBuilt⟩⟩
  · rintro ⟨⟨tts, ttsBuilt⟩, ⟨stt, sttBuilt⟩⟩
    simp only [voiceOf, if_neg notEmpty, JsonText.loads, Py.ok_bind, buildVoice,
      Json.get_obj, ttsBuilt, sttBuilt]
    exact ⟨_, rfl⟩

end Voice

/-! ## Edited rows -/

section Edits

variable {tools : LoaderTools} {cache : SoulDocumentCache}

theorem mem_validBackends (kind : HarnessKind) :
    kind.value ∈ validBackends := by
  cases kind <;> decide

theorem loads_createRow_iff {request : CreateRequest} {createdAt now : String}
    {row : AgentRow} (created : createRow request createdAt = .ok row) :
    Loads tools cache (row.cached now) ↔
      matchesAll isModelChar request.model = true := by
  obtain ⟨soulMeta, -, made⟩ := Py.bind_eq_ok.mp created
  cases made
  constructor
  · rintro ⟨agent, loads⟩
    obtain ⟨_, _, _, -, valid, -⟩ := agentRowToConfig_eq_ok.mp loads
    exact valid.2
  · intro isModel
    exact ⟨_, agentRowToConfig_eq_ok.mpr
      ⟨_, [], none, loadsColumns_default tools (by constructor <;> rfl),
        ⟨mem_validBackends request.backend, isModel⟩, rfl, rfl, rfl⟩⟩

theorem loads_patchRow_iff {request : PatchRequest} {row updated : AgentRow}
    {patchedAt now : String} (loads : Loads tools cache row)
    (patched : patchRow request row patchedAt = .ok updated) :
    Loads tools cache (updated.cached now) ↔ request.Loadable tools := by
  obtain ⟨agent, loads⟩ := loads
  obtain ⟨columns, prompt, voice, columnsLoad, valid, isPrompt, isVoice, -⟩ :=
    agentRowToConfig_eq_ok.mp loads
  obtain ⟨_, _, headed, -, -, -, rfl⟩ := patchRow_eq_ok patched
  have sameModel (model : Option String) :
      matchesAll isModelChar (model.getD row.model) = true ↔
        ∀ given, model = some given → matchesAll isModelChar given = true := by
    cases model with
    | none => exact ⟨fun _ => nofun, fun _ => valid.2⟩
    | some given => simp
  have sameVoice : (∃ voice, voiceOf tools
      ((request.voiceJson.map (.document <| .obj ·)).or row.voiceJson) = .ok voice) ↔
      ∀ members, request.voiceJson = some members →
        LoadableVoice tools members := by
    cases request.voiceJson with
    | none => exact ⟨fun _ => nofun, fun _ => ⟨voice, isVoice⟩⟩
    | some members =>
      rw [Option.map_some, Option.some_or, exists_voiceOf_iff]
      simp
  constructor
  · rintro ⟨agent, loads⟩
    obtain ⟨_, _, newVoice, -, newValid, -, newIsVoice, -⟩ := agentRowToConfig_eq_ok.mp loads
    exact ⟨(sameModel _).mp newValid.2, sameVoice.mp ⟨newVoice, newIsVoice⟩⟩
  · rintro ⟨isModel, isLoadable⟩
    obtain ⟨newVoice, newIsVoice⟩ := sameVoice.mpr isLoadable
    refine ⟨_, agentRowToConfig_eq_ok.mpr ⟨columns, prompt, newVoice,
      columnsLoad.congr (by constructor <;> rfl), ⟨?_, (sameModel _).mpr isModel⟩,
      isPrompt, newIsVoice, rfl⟩⟩
    cases given : request.backend with
    | none =>
      simp only [AgentRow.cached]
      exact valid.1
    | some kind =>
      simp only [AgentRow.cached]
      exact mem_validBackends kind

/-- The row that an accepted request leaves loads when what it sets is valid
for the loader. -/
theorem accepted_loads_iff (tools : LoaderTools) (cache : SoulDocumentCache) :
    (∀ request createdAt now row, (Edit.create request createdAt).prepare now none = some row →
        (Loads tools cache (row.cached now) ↔
          matchesAll isModelChar request.model = true)) ∧
    ∀ request now stored row, Loads tools cache stored →
      (Edit.patch request).prepare now (some stored) = some row →
        (Loads tools cache (row.cached now) ↔ request.Loadable tools) := by
  have ofOption {made : Py AgentRow} {row : AgentRow}
      (prepared : made.toOption = some row) : made = .ok row := by
    cases made with
    | error raised => cases prepared
    | ok value => exact congrArg Except.ok (Option.some.inj prepared)
  constructor
  · intro request createdAt now row prepared
    exact loads_createRow_iff (ofOption prepared)
  · intro request now stored row loads prepared
    exact loads_patchRow_iff loads (ofOption prepared)

section Example

def ariaRow : AgentRow where
  name := "aria"
  backend := "claude-cli"
  model := "sonnet"
  createdAt := ""
  updatedAt := ""

theorem accepted_loads_patch :
    ∃ row, (Edit.patch { model := some "opus-4.6" }).prepare "" (some ariaRow) =
      some row ∧ Loads .plain (fun _ => none) (row.cached "") := by
  have loads : Loads .plain (fun _ => none) ariaRow := ⟨_, rfl⟩
  refine ⟨_, rfl, ((accepted_loads_iff .plain fun _ => none).2
    { model := some "opus-4.6" } "" ariaRow _ loads rfl).mpr ⟨?_, nofun⟩⟩
  rintro _ ⟨⟩
  decide

/-- A model with a blank is accepted. -/
theorem exists_accepted_not_loads : ∃ row, (Edit.patch { model := some "claude opus" }).prepare ""
      (some ariaRow) = some row ∧ Loads .plain (fun _ => none) ariaRow ∧
      ¬ Loads .plain (fun _ => none) (row.cached "") := by
  refine ⟨_, rfl, ⟨_, rfl⟩, ?_⟩
  rintro ⟨agent, loads⟩
  obtain ⟨_, _, _, -, valid, -⟩ := agentRowToConfig_eq_ok.mp loads
  have invalid : matchesAll isModelChar "claude opus" = false := by
    decide
  cases invalid.symm.trans valid.2

end Example

end Edits

end Agents

end RoxabiFactory
