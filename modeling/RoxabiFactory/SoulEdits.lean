import RoxabiFactory.AgentLoads
import RoxabiFactory.SoulRoundTrip

/-!
# Soul documents that are put

A soul document is stored as a blob, goes into the cache, and then its key goes
into the row of the agent.  The cache has one entry for each agent, which counts
for one key only, so the old entry is gone before the row has the new key.
-/

namespace RoxabiFactory

namespace Agents

/-- The rows of the agent store, the cache of documents, and the blobs by their
keys. -/
structure SoulState where
  rows : String → Option AgentRow
  cache : SoulDocumentCache
  blobs : String → Option Text
  named : ∀ name row, rows name = some row → row.name = name

/-- What `put` of the blob store and `upsert` of the agent store end with. -/
structure SoulOutcomes where
  blob : Py String
  upsert : Py Unit
  now : String

/-- `SoulDocumentCache.put`. -/
def SoulDocumentCache.put (cache : SoulDocumentCache) (agentName : String)
    (entry : SoulCacheEntry) : SoulDocumentCache :=
  Function.update cache agentName (some entry)

/-- `SoulDocumentCache.invalidate`. -/
def SoulDocumentCache.invalidate (cache : SoulDocumentCache)
    (agentName : String) : SoulDocumentCache :=
  Function.update cache agentName none

section Put

variable (words : Soul.WordClass)

/-- `warm_soul_cache`. -/
def warmSoulCache (cache : SoulDocumentCache) (agentName blobRef : String)
    (markdown : Text) : Py SoulDocumentCache := do
  let composed ← Soul.composeSoulDocumentFromMarkdown words markdown
  return cache.put agentName ⟨some blobRef, markdown, composed⟩

def checkDocument (markdown : Text) : Py ℕ := do
  let size ← Soul.encodedSize markdown
  Soul.validateSoulDocumentBytes size
  let _ ← Soul.composeSoulDocumentFromMarkdown words markdown
  return size

/-- The reference of a row, if it is not empty. -/
def AgentRow.soulRef (row : AgentRow) : Option String := row.soulDocumentBlobRef.bind nonEmpty

/-- The cache without an entry for another key. -/
def dropStale (cache : SoulDocumentCache) (agentName storeKey : String)
    (row : AgentRow) : SoulDocumentCache :=
  if row.soulRef.any (· ≠ storeKey) then cache.invalidate agentName else cache

namespace SoulState

variable (state : SoulState)

def storeBlob (storeKey : String) (markdown : Text) : SoulState :=
  { state with blobs := Function.update state.blobs storeKey (some markdown) }

def storeRow (row : AgentRow) : SoulState :=
  { state with
    rows := Function.update state.rows row.name (some row)
    named := by
      intro name found isFound
      by_cases same : name = row.name
      · subst same
        rw [Function.update_self] at isFound
        cases isFound
        rfl
      · rw [Function.update_of_ne same] at isFound
        exact state.named name found isFound }

/-- `put_soul_document`. -/
def putSoulDocument (agentName : String) (markdown : Text)
    (outcomes : SoulOutcomes) : Py AgentRow × SoulState :=
  match checkDocument words markdown with
  | .error raised => (.error raised, state)
  | .ok size =>
    match outcomes.blob with
    | .error raised => (.error raised, state)
    | .ok storeKey =>
      let stored := state.storeBlob storeKey markdown
      if storeKey = "" then (.error .valueError, stored)
      else
        match stored.rows agentName with
        | none => (.error .keyError, stored)
        | some row =>
          let cleared := dropStale stored.cache agentName storeKey row
          match warmSoulCache words cleared agentName storeKey markdown with
          | .error raised =>
            (.error raised, { stored with cache := cleared })
          | .ok warmed =>
            let updated := soulRow storeKey size row outcomes.now
            match outcomes.upsert with
            | .error raised =>
              (.error raised, { stored with cache := warmed })
            | .ok () =>
              let after := { stored with
                cache := warmed }.storeRow (updated.cached outcomes.now)
              (.ok ((after.rows agentName).getD updated), after)

end SoulState

end Put

/-! ## Prompts of stored agents -/

namespace SoulState

/-- The agent loads with this prompt. -/
def GivesPrompt (tools : LoaderTools) (state : SoulState) (agentName : String)
    (prompt : Text) : Prop :=
  ∃ row agent, state.rows agentName = some row ∧
    agentRowToConfig tools state.cache [] row = .ok agent ∧
    agent.systemPrompt = prompt

/-- The document of the agent, if there is one, is in the cache. -/
def IsCached (state : SoulState) (agentName : String) : Prop :=
  ∀ row ref, state.rows agentName = some row → row.soulRef = some ref →
    (state.cache.get agentName (some ref)).isSome = true

/-- A put that raises keeps the prompt; one that returns changes it, and the
row refers to the document. -/
structure TakesEffect (tools : LoaderTools) (words : Soul.WordClass)
    (before : SoulState) (agentName : String) (markdown : Text)
    (after : Py AgentRow × SoulState) : Prop where
  raises : ∀ raised, after.1 = .error raised → ∀ prompt, before.GivesPrompt tools agentName prompt →
      after.2.GivesPrompt tools agentName prompt
  returns : ∀ row, after.1 = .ok row → ∃ composed ref,
      Soul.composeSoulDocumentFromMarkdown words markdown = .ok composed ∧
      after.2.GivesPrompt tools agentName composed ∧
      after.2.rows agentName = some row ∧
      row.soulDocumentBlobRef = some ref ∧
      after.2.blobs ref = some markdown

/-- If the agent store refuses the row of a valid document that is stored, then
the agent has no document yet, or the stored document gives the cached prompt
and has the same key, or the persona gives it. -/
def MayRefuse (tools : LoaderTools) (words : Soul.WordClass)
    (state : SoulState) (agentName : String) (markdown : Text)
    (outcomes : SoulOutcomes) : Prop :=
  ∀ size storeKey raised row ref entry,
    checkDocument words markdown = .ok size → outcomes.blob = .ok storeKey →
    storeKey ≠ "" → outcomes.upsert = .error raised →
    state.rows agentName = some row → row.soulRef = some ref →
    state.cache.get agentName (some ref) = some entry →
      if storeKey = ref then
        Soul.composeSoulDocumentFromMarkdown words markdown = .ok entry.composedPrompt
      else personaPrompt tools row.personaJson = .ok entry.composedPrompt

section Put

variable {tools : LoaderTools} {words : Soul.WordClass} {state : SoulState}
  {agentName : String} {markdown : Text} {outcomes : SoulOutcomes}

/-- The cache with the new document only. -/
def warmed (state : SoulState) (agentName storeKey : String)
    (markdown composed : Text) : SoulDocumentCache :=
  state.cache.put agentName ⟨some storeKey, markdown, composed⟩

theorem put_dropStale (cache : SoulDocumentCache) (storeKey : String)
    (row : AgentRow) (entry : SoulCacheEntry) :
    (dropStale cache agentName storeKey row).put agentName entry =
      cache.put agentName entry := by
  unfold dropStale
  split
  · exact Function.update_idem _ _ _
  · rfl

theorem compose_of_checkDocument {size : ℕ} (valid : checkDocument words markdown = .ok size) :
    ∃ composed, Soul.composeSoulDocumentFromMarkdown words markdown =
      .ok composed := by
  obtain ⟨_, -, valid⟩ := Py.bind_eq_ok.mp valid
  obtain ⟨_, -, valid⟩ := Py.bind_eq_ok.mp valid
  obtain ⟨composed, isComposed, -⟩ := Py.bind_eq_ok.mp valid
  exact ⟨composed, isComposed⟩

/-- A put fails before it changes the cache, or the document is stored and in
the cache when the agent store gets the row. -/
theorem putSoulDocument_cases {row : AgentRow} (isRow : state.rows agentName = some row) :
    (∃ raised blobs, state.putSoulDocument words agentName markdown outcomes =
        (.error raised, { state with blobs := blobs }) ∧
      ∀ size storeKey, checkDocument words markdown = .ok size →
        outcomes.blob = .ok storeKey → storeKey = "") ∨
    ∃ size storeKey composed, checkDocument words markdown = .ok size ∧
      outcomes.blob = .ok storeKey ∧ storeKey ≠ "" ∧
      Soul.composeSoulDocumentFromMarkdown words markdown = .ok composed ∧
      state.putSoulDocument words agentName markdown outcomes =
        match outcomes.upsert with
        | .error raised => (.error raised,
            { state.storeBlob storeKey markdown with
              cache := state.warmed agentName storeKey markdown composed })
        | .ok () =>
          let updated := soulRow storeKey size row outcomes.now
          let after := { state.storeBlob storeKey markdown with
            cache := state.warmed agentName storeKey markdown
              composed }.storeRow (updated.cached outcomes.now)
          (.ok ((after.rows agentName).getD updated), after) := by
  unfold putSoulDocument
  cases valid : checkDocument words markdown with
  | error raised => exact .inl ⟨raised, state.blobs, rfl, nofun⟩
  | ok size =>
    cases isStored : outcomes.blob with
    | error raised =>
      exact .inl ⟨raised, state.blobs, rfl, fun _ _ _ => nofun⟩
    | ok storeKey =>
      by_cases empty : storeKey = ""
      · left
        refine ⟨.valueError, (state.storeBlob storeKey markdown).blobs, ?_, ?_⟩
        · simp only [if_pos empty]
          rfl
        · intro _ other _ same
          rw [← Except.ok.inj same]
          exact empty
      · right
        obtain ⟨composed, isComposed⟩ := compose_of_checkDocument valid
        have isWarm : warmSoulCache words (dropStale state.cache agentName storeKey row) agentName
              storeKey markdown =
            .ok (state.warmed agentName storeKey markdown composed) := by
          rw [warmSoulCache, isComposed, Py.ok_bind, put_dropStale]
          rfl
        refine ⟨size, storeKey, composed, rfl, rfl, empty, isComposed, ?_⟩
        simp only [if_neg empty]
        change (match state.rows agentName with
          | none => _
          | some row => _) = _
        rw [isRow]
        simp only [storeBlob, isWarm]

theorem resolve_warmed (tools : LoaderTools) (state : SoulState)
    {storeKey : String} {composed : Text} {row : AgentRow}
    (named : row.name = agentName) :
    resolveSystemPrompt tools (state.warmed agentName storeKey markdown composed) row =
      match row.soulRef with
      | none => personaPrompt tools row.personaJson
      | some ref =>
        if storeKey = ref then .ok composed
        else personaPrompt tools row.personaJson := by
  unfold resolveSystemPrompt
  change (match row.soulRef with
    | none => _
    | some ref => _) = _
  cases row.soulRef with
  | none => rfl
  | some ref =>
    simp only [SoulDocumentCache.get, warmed, SoulDocumentCache.put, named,
      Function.update_self, Option.filter_some, Option.some.injEq,
      decide_eq_true_eq]
    by_cases same : storeKey = ref
    · simp only [if_pos same]
    · simp only [if_neg same]

theorem resolve_cached {cache : SoulDocumentCache} {row : AgentRow}
    {ref : String} {entry : SoulCacheEntry} (isRef : row.soulRef = some ref)
    (isCached : cache.get row.name (some ref) = some entry) :
    resolveSystemPrompt tools cache row = .ok entry.composedPrompt := by
  unfold resolveSystemPrompt
  change (match row.soulRef with
    | none => _
    | some ref => _) = _
  simp only [isRef, isCached]

theorem resolve_of_none {cache : SoulDocumentCache} {row : AgentRow} (isRef : row.soulRef = none) :
    resolveSystemPrompt tools cache row =
      personaPrompt tools row.personaJson := by
  unfold resolveSystemPrompt
  change (match row.soulRef with
    | none => _
    | some ref => _) = _
  rw [isRef]

theorem givesPrompt_iff {prompt : Text} : state.GivesPrompt tools agentName prompt ↔
      ∃ row columns voice, state.rows agentName = some row ∧
        LoadsColumns tools [] row columns ∧ ValidModel row.backend row.model ∧
        voiceOf tools row.voiceJson = .ok voice ∧
        resolveSystemPrompt tools state.cache row = .ok prompt := by
  constructor
  · rintro ⟨row, agent, isRow, loads, rfl⟩
    obtain ⟨columns, prompt, voice, columnsLoad, valid, resolved, isVoice,
      rfl⟩ := agentRowToConfig_eq_ok.mp loads
    exact ⟨row, columns, voice, isRow, columnsLoad, valid, isVoice, resolved⟩
  · rintro ⟨row, columns, voice, isRow, columnsLoad, valid, isVoice, resolved⟩
    exact ⟨row, _, isRow, agentRowToConfig_eq_ok.mpr
      ⟨columns, prompt, voice, columnsLoad, valid, resolved, isVoice, rfl⟩, rfl⟩

/-- A put of a document for an agent whose prompt is loaded. -/
theorem takesEffect_iff (loads : ∃ prompt, state.GivesPrompt tools agentName prompt)
    (isCached : state.IsCached agentName) :
    TakesEffect tools words state agentName markdown
        (state.putSoulDocument words agentName markdown outcomes) ↔
      MayRefuse tools words state agentName markdown outcomes := by
  obtain ⟨prompt, gives⟩ := loads
  obtain ⟨row, columns, voice, isRow, columnsLoad, validModel, isVoice,
    resolved⟩ := givesPrompt_iff.mp gives
  have named := state.named agentName row isRow
  rcases putSoulDocument_cases isRow with ⟨raised, blobs, isPut, early⟩ |
    ⟨size, storeKey, composed, valid, isStored, nonempty, isComposed, isPut⟩
  · -- nothing that a prompt depends on has changed
    rw [isPut]
    constructor
    · intro _ size storeKey _ _ _ _ valid isStored nonempty
      exact absurd (early size storeKey valid isStored) nonempty
    · intro _
      refine ⟨fun _ _ prompt gives => gives, fun returned isReturned => ?_⟩
      cases isReturned
  · rw [isPut]
    cases answered : outcomes.upsert with
    | error raised =>
      have after {prompt : Text} : GivesPrompt tools
          { state.storeBlob storeKey markdown with
            cache := state.warmed agentName storeKey markdown composed }
          agentName prompt ↔
        resolveSystemPrompt tools (state.warmed agentName storeKey markdown composed) row =
            .ok prompt := by
        rw [givesPrompt_iff]
        constructor
        · rintro ⟨other, _, _, isOther, -, -, -, resolved⟩
          cases isRow.symm.trans isOther
          exact resolved
        · intro resolved
          exact ⟨row, columns, voice, isRow, columnsLoad, validModel, isVoice, resolved⟩
      constructor
      · intro keeps size' storeKey' raised' row' ref entry _ stored' _ _ row'Is isRef isEntry
        cases isStored.symm.trans stored'
        cases isRow.symm.trans row'Is
        rw [← named] at isEntry
        cases resolved.symm.trans (resolve_cached isRef isEntry)
        have kept := after.mp (keeps.raises raised rfl _ gives)
        rw [resolve_warmed tools state named, isRef] at kept
        simp only at kept
        split at kept
        · rename_i same
          rw [if_pos same, isComposed]
          exact kept
        · rename_i different
          rw [if_neg different]
          exact kept
      · intro mayRefuse
        refine ⟨fun _ _ other givesOther => ?_, fun returned isReturned => by
          cases isReturned⟩
        have sameRow := givesPrompt_iff.mp givesOther
        obtain ⟨_, _, _, isOther, -, -, -, resolvedOther⟩ := sameRow
        cases isRow.symm.trans isOther
        cases resolved.symm.trans resolvedOther
        rw [after, resolve_warmed tools state named]
        cases isRef : row.soulRef with
        | none =>
          rw [resolve_of_none isRef] at resolved
          exact resolved
        | some ref =>
          obtain ⟨entry, isEntry⟩ := Option.isSome_iff_exists.mp (isCached row ref isRow isRef)
          have refused := mayRefuse size storeKey raised row ref entry valid
            isStored nonempty answered isRow isRef isEntry
          rw [← named] at isEntry
          cases resolved.symm.trans (resolve_cached isRef isEntry)
          simp only
          split
          · rename_i same
            rw [if_pos same, isComposed] at refused
            exact refused
          · rename_i different
            rw [if_neg different] at refused
            exact refused
    | ok done =>
      constructor
      · intro _ _ _ raised _ _ _ _ _ _ refused
        rw [answered] at refused
        cases refused
      · intro _
        have isAfter (state : SoulState) : (state.storeRow
            ((soulRow storeKey size row outcomes.now).cached outcomes.now)).rows agentName =
            some ((soulRow storeKey size row outcomes.now).cached outcomes.now) := by
          rw [← named]
          exact Function.update_self _ _ _
        have isRef : ((soulRow storeKey size row outcomes.now).cached
            outcomes.now).soulRef = some storeKey := if_neg nonempty
        constructor
        · intro raised isRaised
          cases isRaised
        intro returned isReturned
        simp only [isAfter, Option.getD_some, Except.ok.injEq] at isReturned
        subst isReturned
        refine ⟨composed, storeKey, isComposed, ?_, isAfter _, rfl, Function.update_self _ _ _⟩
        refine givesPrompt_iff.mpr ⟨_, columns, voice, isAfter _,
          columnsLoad.congr (by constructor <;> rfl), validModel, isVoice, ?_⟩
        have namedAfter : ((soulRow storeKey size row outcomes.now).cached
            outcomes.now).name = agentName := named
        refine (resolve_warmed tools state namedAfter).trans ?_
        rw [isRef]
        exact if_pos rfl

section Example

def soulAgent : AgentRow where
  name := "aria"
  backend := "claude-cli"
  model := "sonnet"
  createdAt := ""
  updatedAt := ""
  soulDocumentBlobRef := some "key-1"

def cachedState : SoulState where
  rows name := if name = "aria" then some soulAgent else none
  cache name := if name = "aria" then some ⟨some "key-1", [], [104, 105]⟩
    else none
  blobs _ := none
  named := by
    intro name row isRow
    split at isRow
    · rename_i same
      cases isRow
      exact same.symm
    · cases isRow

theorem isCached_cachedState : cachedState.IsCached "aria" := by
  intro row ref isRow isRef
  cases isRow
  cases isRef
  decide

theorem givesPrompt_cachedState :
    cachedState.GivesPrompt .plain "aria" [104, 105] := by
  have valid : ValidModel soulAgent.backend soulAgent.model := ⟨by decide, by decide⟩
  have resolved : resolveSystemPrompt .plain cachedState.cache soulAgent =
      .ok [104, 105] := by
    decide
  exact givesPrompt_iff.mpr ⟨soulAgent, _, none, rfl,
    loadsColumns_default .plain (by constructor <;> rfl), valid, rfl, resolved⟩

/-- Both stores accept. -/
def accepting : SoulOutcomes where
  blob := .ok "key-2"
  upsert := .ok ()
  now := ""

theorem takesEffect_empty : TakesEffect .plain Soul.asciiWords cachedState "aria" []
      (cachedState.putSoulDocument Soul.asciiWords "aria" [] accepting) := by
  have mayRefuse : MayRefuse .plain Soul.asciiWords cachedState "aria" []
      accepting := by
    intro _ _ raised _ _ _ _ _ _ refused
    cases refused
  exact (takesEffect_iff ⟨[104, 105], givesPrompt_cachedState⟩ isCached_cachedState).mpr mayRefuse

theorem checkDocument_nil : checkDocument words [] = .ok 0 := by
  have parsed : Soul.parseSoulMarkdown words [] = .ok fun _ => none := if_pos rfl
  obtain ⟨composed, isComposed⟩ : ∃ composed,
      Soul.composeSoulDocument (fun _ => none) = .ok composed :=
    @Soul.exists_composeSoulDocument _ 0 (by decide) (Nat.zero_le _)
  refine Py.bind_eq_ok.mpr ⟨0, rfl, Py.bind_eq_ok.mpr ⟨(), rfl, ?_⟩⟩
  rw [Soul.composeSoulDocumentFromMarkdown, parsed, Py.ok_bind, isComposed]
  rfl

/-- The document is stored, and the agent store refuses the row. -/
def refusing : SoulOutcomes where
  blob := .ok "key-2"
  upsert := .error (.other "OperationalError")
  now := ""

/-- The agent store refuses the row, and the prompt is gone. -/
theorem exists_not_takesEffect : cachedState.GivesPrompt .plain "aria" [104, 105] ∧
      cachedState.IsCached "aria" ∧
      ¬ TakesEffect .plain Soul.asciiWords cachedState "aria" []
        (cachedState.putSoulDocument Soul.asciiWords "aria" [] refusing) := by
  refine ⟨givesPrompt_cachedState, isCached_cachedState, fun keeps => ?_⟩
  rcases @putSoulDocument_cases Soul.asciiWords cachedState "aria" [] refusing soulAgent rfl with
    ⟨_, _, -, early⟩ | ⟨_, storeKey, composed, -, isStored, -, -, isPut⟩
  · have empty := early 0 "key-2" checkDocument_nil rfl
    revert empty
    decide
  · cases isStored
    rw [isPut] at keeps
    obtain ⟨row, _, _, isRow, -, -, -, resolved⟩ := givesPrompt_iff.mp
      (keeps.raises _ rfl _ givesPrompt_cachedState)
    cases isRow
    have named : soulAgent.name = "aria" := rfl
    have changed := @resolve_warmed "aria" [] .plain cachedState "key-2" composed soulAgent named
    cases changed.symm.trans resolved

end Example

end Put

end SoulState

end Agents

end RoxabiFactory
