import RoxabiFactory.AgentStores

/-!
# The file of the JSON agent store

`JsonAgentStore` writes its dictionaries to a file after every call that does
not raise, and reads them back when it connects again.  A bot is written as its
platform, a colon and its identifier, and is read back by the first colon, so
the file gives the dictionaries back exactly if no platform has a colon.
-/

namespace RoxabiFactory

namespace OrderedDict

variable {Key Value : Type*} [DecidableEq Key] {items : List (Key × Value)}

/-- A built-in dictionary to which the items are assigned one after another. -/
def ofItems (items : List (Key × Value)) : OrderedDict Key Value :=
  items.foldl (fun dict item => dict.assign item.1 item.2) ∅

theorem ofItems_concat (item : Key × Value) :
    ofItems (items ++ [item]) = (ofItems items).assign item.1 item.2 := by
  simp [ofItems]

theorem mem_ofItems {key : Key} : key ∈ ofItems items ↔ ∃ item ∈ items, item.1 = key := by
  induction items using List.reverseRecOn with
  | nil => simp [ofItems]
  | append_singleton items item ih =>
    rw [ofItems_concat, mem_assign, ih]
    simp [or_and_right, exists_or, or_comm, eq_comm]

/-- Assigning items with different keys keeps them all, in their order. -/
theorem items_ofItems (nodup : (items.map Prod.fst).Nodup) : (ofItems items).items = items := by
  induction items using List.reverseRecOn with
  | nil => rfl
  | append_singleton items item ih =>
    rw [List.map_append, List.nodup_append] at nodup
    have absent : item.1 ∉ ofItems items := by
      rw [mem_ofItems]
      rintro ⟨other, member, same⟩
      exact nodup.2.2 _ (List.mem_map_of_mem member) item.1 (by simp) same
    rw [ofItems_concat, assign, if_neg absent, OrderedDict.items,
      AList.entries_insert_of_notMem absent]
    simpa [OrderedDict.items] using ih nodup.1

omit [DecidableEq Key] in
theorem items_injective {dict other : OrderedDict Key Value} (same : dict.items = other.items) :
    dict = other := by
  refine AList.ext (List.map_injective_iff.mpr ?_ (List.reverse_injective same))
  rintro ⟨key, value⟩ ⟨otherKey, otherValue⟩ ⟨⟩
  rfl

theorem ofItems_items (dict : OrderedDict Key Value) : ofItems dict.items = dict := by
  exact items_injective (items_ofItems dict.nodup_keys_items)

end OrderedDict

namespace AgentStores

open Agents

/-- What `_persist` writes, as JSON. -/
structure AgentFile where
  agents : List AgentRow
  botMap : OrderedDict String String
  botSettings : OrderedDict String Json

namespace JsonAgentStore

/-- The key of a bot in the file. -/
def botKey (bot : Bot) : String := bot.1 ++ ":" ++ bot.2

/-- `platform, bot_id = key_str.split(":", 1)`. -/
def splitKey (key : String) : Py Bot :=
  match key.toList.dropWhile (· ≠ ':') with
  | [] => .error .valueError
  | _ :: botId => .ok (.ofList (key.toList.takeWhile (· ≠ ':')), .ofList botId)

/-- `_persist`. -/
def persist (caches : Caches) : AgentFile where
  agents := caches.agents.items.map Prod.snd
  botMap := .ofItems (caches.botMap.items.map (.map botKey id))
  botSettings := .ofItems (caches.botSettings.items.map (.map botKey id))

def readBots {Value : Type} (dict : OrderedDict String Value) : Py (OrderedDict Bot Value) := do
  return .ofItems (← dict.items.mapM fun item => do return (← splitKey item.1, item.2))

/-- `connect`, with the file if it exists.  A key without a colon raises. -/
def connect : Option AgentFile → Py Caches
  | none => .ok ⟨∅, ∅, ∅⟩
  | some file => do
    let agents := OrderedDict.ofItems (file.agents.map fun row => (row.name, row))
    return ⟨agents, ← readBots file.botMap, ← readBots file.botSettings⟩

/-- The dictionaries and the file. -/
structure Saved where
  caches : Caches := ⟨∅, ∅, ∅⟩
  file : Option AgentFile := none

/-- A call, which persists the dictionaries unless it raises. -/
def Saved.next (saved : Saved) (call : Call) : Saved :=
  match perform saved.caches call with
  | .ok caches => ⟨caches, some (persist caches)⟩
  | .error _ => saved

/-! ## Keys -/

section Keys

variable {bot : Bot}

theorem splitKey_botKey (plain : ':' ∉ bot.1.toList) : splitKey (botKey bot) = .ok bot := by
  have before : ∀ character ∈ bot.1.toList, decide (character ≠ ':') = true := by
    intro character member
    exact decide_eq_true fun same => plain (same ▸ member)
  have key : (botKey bot).toList = bot.1.toList ++ ':' :: bot.2.toList := by simp [botKey]
  rw [splitKey, key, List.dropWhile_append_of_pos before, List.takeWhile_append_of_pos before]
  simp

theorem plain_of_splitKey {key : String} (split : splitKey key = .ok bot) :
    ':' ∉ bot.1.toList := by
  unfold splitKey at split
  split at split
  · cases split
  · cases split
    intro member
    rw [String.toList_ofList] at member
    exact absurd rfl (of_decide_eq_true (List.all_eq_true.mp List.all_takeWhile ':' member))

variable {Value : Type}

theorem readBots_persisted (dict : OrderedDict Bot Value)
    (plain : ∀ bot ∈ dict, ':' ∉ bot.1.toList) :
    readBots (.ofItems (dict.items.map (.map botKey id))) = .ok dict := by
  have split : ∀ item ∈ dict.items, splitKey (botKey item.1) = .ok item.1 := by
    intro item member
    exact splitKey_botKey (plain _ (AList.lookup_isSome.mp
      (by rw [OrderedDict.mem_items.mp member]; rfl)))
  have nodup : ((dict.items.map (Prod.map botKey id)).map Prod.fst).Nodup := by
    have keys : (dict.items.map (Prod.map botKey id)).map Prod.fst =
        (dict.items.map Prod.fst).map botKey := by simp
    rw [keys]
    refine List.Nodup.map_on ?_ dict.nodup_keys_items
    intro bot member other otherMember same
    obtain ⟨item, itemMember, rfl⟩ := List.mem_map.mp member
    obtain ⟨otherItem, otherItemMember, rfl⟩ := List.mem_map.mp otherMember
    have both := split item itemMember
    rw [same, split otherItem otherItemMember] at both
    exact (Except.ok.inj both).symm
  have reads : (dict.items.map (Prod.map botKey id)).mapM (fun item =>
      (do return (← splitKey item.1, item.2) : Py (Bot × Value))) = .ok dict.items := by
    clear nodup
    generalize dict.items = items at split
    induction items with
    | nil => rfl
    | cons item items ih =>
      rw [List.forall_mem_cons] at split
      rw [List.map_cons, List.mapM_cons, ih split.2]
      simp only [Prod.map_fst, split.1]
      rfl
  rw [readBots, OrderedDict.items_ofItems nodup, reads]
  exact congrArg Except.ok (OrderedDict.ofItems_items dict)

theorem plain_of_readBots {dict : OrderedDict String Value} {bots : OrderedDict Bot Value}
    (reads : readBots dict = .ok bots) (bot : Bot) (member : bot ∈ bots) :
    ':' ∉ bot.1.toList := by
  obtain ⟨items, readItems, made⟩ := Py.bind_eq_ok.mp reads
  obtain rfl := Except.ok.inj made
  obtain ⟨item, itemMember, rfl⟩ := OrderedDict.mem_ofItems.mp member
  clear reads made member
  generalize dict.items = keys at readItems
  induction keys generalizing items with
  | nil =>
    cases readItems
    cases itemMember
  | cons key keys ih =>
    rw [List.mapM_cons] at readItems
    obtain ⟨first, readFirst, later⟩ := Py.bind_eq_ok.mp readItems
    obtain ⟨rest, readRest, ⟨⟩⟩ := Py.bind_eq_ok.mp later
    obtain ⟨split, isSplit, ⟨⟩⟩ := Py.bind_eq_ok.mp readFirst
    rcases List.mem_cons.mp itemMember with rfl | inRest
    · exact plain_of_splitKey isSplit
    · exact ih rest inRest readRest

end Keys

/-! ## Runs -/

/-- Every row stands under its name. -/
def Named (caches : Caches) : Prop :=
  ∀ name row, caches.agents.lookup name = some row → row.name = name

theorem named_perform {caches after : Caches} (named : Named caches) {call : Call}
    (performed : perform caches call = .ok after) : Named after := by
  intro name row found
  cases call with
  | upsert given =>
    cases performed
    by_cases same : name = given.name
    · subst same
      rw [Caches.assignRow, OrderedDict.lookup_assign] at found
      exact congrArg AgentRow.name (Option.some.inj found).symm
    · exact named name row ((OrderedDict.lookup_assign_ne same).symm.trans found)
  | delete removed =>
    simp only [perform, delete] at performed
    split at performed
    · cases performed
    · cases performed
      exact named name row (OrderedDict.lookup_eq_of_lookup_erase found)
  | setBotAgent bot agentName settings =>
    cases performed
    cases settings <;> exact named name row found
  | setBotSettings bot settings =>
    simp only [perform, setBotSettings] at performed
    split at performed
    · cases performed
      exact named name row found
    · cases performed
  | removeBotAgent bot =>
    cases performed
    exact named name row found

theorem rows_persisted {caches : Caches} (named : Named caches) :
    OrderedDict.ofItems ((persist caches).agents.map fun row => (row.name, row)) =
      caches.agents := by
  have items : (persist caches).agents.map (fun row => (row.name, row)) = caches.agents.items := by
    refine (List.map_map).trans ((List.map_congr_left fun item member => ?_).trans (List.map_id _))
    exact Prod.ext (named item.1 item.2 (OrderedDict.mem_items.mp member)) rfl
  rw [items, OrderedDict.ofItems_items]

/-- The file gives the dictionaries back exactly if no platform has a colon. -/
theorem connect_persist_iff {caches : Caches} (named : Named caches) :
    connect (some (persist caches)) = .ok caches ↔
      ∀ bot, bot ∈ caches.botMap ∨ bot ∈ caches.botSettings → ':' ∉ bot.1.toList := by
  constructor
  · intro connected
    obtain ⟨botMap, readMap, later⟩ := Py.bind_eq_ok.mp connected
    obtain ⟨botSettings, readSettings, made⟩ := Py.bind_eq_ok.mp later
    have sameMap : botMap = caches.botMap := congrArg Caches.botMap (Except.ok.inj made)
    have sameSettings : botSettings = caches.botSettings :=
      congrArg Caches.botSettings (Except.ok.inj made)
    subst sameMap sameSettings
    exact fun bot member => member.elim (plain_of_readBots readMap bot)
      (plain_of_readBots readSettings bot)
  · intro plain
    simp only [connect, rows_persisted named]
    simp only [persist, readBots_persisted _ fun bot member => plain bot (.inl member),
      readBots_persisted _ fun bot member => plain bot (.inr member)]
    rfl

/-- The file is that of the dictionaries, or nothing has been written. -/
structure Saved.Consistent (saved : Saved) : Prop where
  named : Named saved.caches
  written : saved.caches = ⟨∅, ∅, ∅⟩ ∧ saved.file = none ∨ saved.file = some (persist saved.caches)

theorem Saved.Consistent.run {saved : Saved} (consistent : saved.Consistent) (calls : List Call) :
    (calls.foldl next saved).Consistent := by
  induction calls generalizing saved with
  | nil => exact consistent
  | cons call calls ih =>
    refine ih ?_
    unfold Saved.next
    split
    · rename_i performed
      exact ⟨named_perform consistent.named performed, .inr rfl⟩
    · exact consistent

/-- After every sequence of calls, a store that is closed and connected again
has the same dictionaries exactly if no bot in them is of a platform with a
colon. -/
theorem reconnected_iff (calls : List Call) :
    connect (calls.foldl Saved.next {}).file = .ok (calls.foldl Saved.next {}).caches ↔
      ∀ bot, bot ∈ (calls.foldl Saved.next {}).caches.botMap ∨
        bot ∈ (calls.foldl Saved.next {}).caches.botSettings → ':' ∉ bot.1.toList := by
  have fresh : ({} : Saved).Consistent := by
    refine ⟨fun name row found => ?_, .inl ⟨rfl, rfl⟩⟩
    cases found
  have consistent := fresh.run calls
  rcases consistent.written with ⟨empty, noFile⟩ | written
  · rw [noFile, empty]
    refine iff_of_true rfl fun bot member => ?_
    simp [AList.notMem_empty] at member
  · rw [written]
    exact connect_persist_iff consistent.named

end JsonAgentStore

/-- Whatever is called, both stores give the same answers but for the times of
the rows, and the next call has the same outcome in both. -/
theorem sameOutcome_of_run (database : Database) (calls : List (Call × String)) (call : Call)
    (now : String) :
    let json := JsonAgentStore.run database.warmCaches calls
    let store := (AgentStore.connect database).run calls
    json.undated.AnswersAs store.caches.undated ∧
      SameOutcome (JsonAgentStore.perform json call) (store.perform call now) := by
  have mirrors := (Mirrors.connect database).run calls
  exact ⟨mirrors.answersAs, mirrors.perform call now⟩

/-- Whatever is called, a store that is connected again knows the same agent of
every bot. -/
theorem getBotAgent_of_run (database : Database) (calls : List (Call × String)) :
    let store := (AgentStore.connect database).run calls
    (AgentStore.connect store.database).caches.getBotAgent = store.caches.getBotAgent :=
  ((Mirrors.connect database).run calls).mapped.symm

end AgentStores

end RoxabiFactory
