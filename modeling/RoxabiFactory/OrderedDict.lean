import Mathlib.Data.List.AList

/-!
# Ordered dictionaries

An ordered dictionary is an association list without duplicate keys whose
youngest entry stands first.  Inserting makes a key the youngest one, so
`move_to_end` is an insertion of the value that is already there, and
`popitem(last=False)` removes the last entry of the list.  A built-in
dictionary also keeps its items in order, but a key that is assigned again
stays where it was.
-/

namespace RoxabiFactory

abbrev OrderedDict (Key Value : Type*) := AList fun _ : Key => Value

namespace OrderedDict

variable {Key Value : Type*}

/-- The items from the oldest to the youngest. -/
def items (dict : OrderedDict Key Value) : List (Key × Value) :=
  (dict.entries.map fun entry => (entry.1, entry.2)).reverse

/-- `len`. -/
def size (dict : OrderedDict Key Value) : Nat := dict.keys.length

theorem length_items (dict : OrderedDict Key Value) : dict.items.length = dict.size := by
  simp [items, size, AList.keys, List.keys]

theorem nodup_keys_items (dict : OrderedDict Key Value) : (dict.items.map Prod.fst).Nodup := by
  unfold items
  rw [List.map_reverse, List.nodup_reverse, List.map_map]
  exact dict.nodupKeys

/-- The dictionary with the same keys in the same order, and every value
converted. -/
def mapValues {Other : Type*} (convert : Value → Other)
    (dict : OrderedDict Key Value) : OrderedDict Key Other where
  entries := dict.entries.map (.map id fun _ => convert)
  nodupKeys := dict.nodupKeys.map₂ fun _ => convert

variable [DecidableEq Key] {dict : OrderedDict Key Value}
variable {key other : Key} {value : Value}

def moveToEnd (dict : OrderedDict Key Value) (key : Key) : OrderedDict Key Value :=
  match dict.lookup key with
  | some value => dict.insert key value
  | none => dict

/-- `dict[key] = value` of a built-in dictionary: a key that is there keeps
its place. -/
def assign (dict : OrderedDict Key Value) (key : Key) (value : Value) : OrderedDict Key Value :=
  if key ∈ dict then dict.replace key value else dict.insert key value

/-- `popitem(last=False)`. -/
def popOldest (dict : OrderedDict Key Value) : Option ((Key × Value) × OrderedDict Key Value) :=
  dict.items.head?.map fun oldest => (oldest, dict.erase oldest.1)

omit [DecidableEq Key] in
theorem nodupKeys_filter (dict : OrderedDict Key Value) (keeps : Value → Bool) :
    (dict.entries.filter fun entry => keeps entry.2).NodupKeys :=
  dict.nodupKeys.sublist List.filter_sublist

/-- The dictionary of the items whose values are kept. -/
def keep (dict : OrderedDict Key Value) (keeps : Value → Bool) : OrderedDict Key Value where
  entries := dict.entries.filter fun entry => keeps entry.2
  nodupKeys := nodupKeys_filter dict keeps

theorem mem_items : (key, value) ∈ dict.items ↔ dict.lookup key = some value := by
  rw [← Option.mem_def, AList.mem_lookup_iff]
  simp [items]

@[simp]
theorem lookup_keep (keeps : Value → Bool) :
    (dict.keep keeps).lookup key = (dict.lookup key).filter keeps := by
  have kept (value : Value) : value ∈ (dict.keep keeps).lookup key ↔
      value ∈ dict.lookup key ∧ keeps value = true := by
    rw [AList.mem_lookup_iff, AList.mem_lookup_iff]
    exact List.mem_filter
  ext value
  rw [← Option.mem_def, kept, ← Option.mem_def, Option.mem_filter_iff]

omit [DecidableEq Key] in
theorem size_keep_le (keeps : Value → Bool) : (dict.keep keeps).size ≤ dict.size := by
  simp only [size, AList.keys, List.keys, List.length_map]
  exact List.length_filter_le _ _

@[simp]
theorem lookup_moveToEnd : (dict.moveToEnd key).lookup other =
    dict.lookup other := by
  unfold moveToEnd
  split
  · rename_i value found
    by_cases same : other = key
    · rw [same, AList.lookup_insert, found]
    · rw [AList.lookup_insert_ne same]
  · rfl

theorem kreplace_cons_self (stored : Value) (entries : List (Σ _ : Key, Value)) :
    List.kreplace key value (⟨key, stored⟩ :: entries) = ⟨key, value⟩ :: entries :=
  List.lookmap_cons_some _ _ (by simp)

theorem kreplace_cons_ne {first : Key} (different : key ≠ first)
    (stored : Value) (entries : List (Σ _ : Key, Value)) :
    List.kreplace key value (⟨first, stored⟩ :: entries) =
      ⟨first, stored⟩ :: List.kreplace key value entries :=
  List.lookmap_cons_none _ _ (by simp [different])

theorem dlookup_kreplace_self {entries : List (Σ _ : Key, Value)} (present : key ∈ entries.keys) :
    (List.kreplace key value entries).dlookup key = some value := by
  induction entries with
  | nil => cases present
  | cons entry entries ih =>
    obtain ⟨first, stored⟩ := entry
    by_cases same : key = first
    · subst same
      rw [kreplace_cons_self, List.dlookup_cons_eq]
    · rw [kreplace_cons_ne same, List.dlookup_cons_ne _ _ same]
      exact ih (by simpa [same] using present)

theorem dlookup_cons_other {first : Key} (different : other ≠ first)
    (stored : Value) (entries : List (Σ _ : Key, Value)) :
    List.dlookup other (⟨first, stored⟩ :: entries) = List.dlookup other entries :=
  List.dlookup_cons_ne _ (⟨first, stored⟩ : Σ _ : Key, Value) different

theorem dlookup_kreplace_ne {entries : List (Σ _ : Key, Value)} (different : other ≠ key) :
    (List.kreplace key value entries).dlookup other =
      entries.dlookup other := by
  induction entries with
  | nil => rfl
  | cons entry entries ih =>
    obtain ⟨first, stored⟩ := entry
    by_cases same : key = first
    · subst same
      rw [kreplace_cons_self, dlookup_cons_other different, dlookup_cons_other different]
    · rw [kreplace_cons_ne same]
      by_cases found : other = first
      · subst found
        rw [List.dlookup_cons_eq, List.dlookup_cons_eq]
      · rw [dlookup_cons_other found, dlookup_cons_other found, ih]

@[simp]
theorem lookup_assign : (dict.assign key value).lookup key = some value := by
  unfold assign
  split
  · rename_i present
    exact dlookup_kreplace_self present
  · exact AList.lookup_insert dict

theorem lookup_assign_ne (different : other ≠ key) :
    (dict.assign key value).lookup other = dict.lookup other := by
  unfold assign
  split
  · exact dlookup_kreplace_ne different
  · exact AList.lookup_insert_ne different

theorem mem_assign : other ∈ dict.assign key value ↔ other = key ∨ other ∈ dict := by
  unfold assign
  split
  · rename_i present
    rw [AList.mem_replace]
    exact ⟨.inr, fun member => member.elim (fun same => same ▸ present) id⟩
  · exact AList.mem_insert dict

theorem keys_assign_of_mem (present : key ∈ dict) : (dict.assign key value).keys = dict.keys := by
  rw [assign, if_pos present, AList.keys_replace]

theorem size_assign_of_mem (present : key ∈ dict) : (dict.assign key value).size = dict.size := by
  rw [size, keys_assign_of_mem present, size]

theorem keys_insert_of_notMem (absent : key ∉ dict) :
    (dict.insert key value).keys = key :: dict.keys := by
  rw [AList.keys_insert, List.erase_of_not_mem (AList.mem_keys.not.mp absent)]

theorem size_assign_of_notMem (absent : key ∉ dict) :
    (dict.assign key value).size = dict.size + 1 := by
  rw [assign, if_neg absent, size, keys_insert_of_notMem absent, List.length_cons, size]

theorem size_assign_le : (dict.assign key value).size ≤ dict.size + 1 := by
  by_cases present : key ∈ dict
  · rw [size_assign_of_mem present]
    exact Nat.le_succ _
  · rw [size_assign_of_notMem present]

theorem size_erase_le : OrderedDict.size (dict.erase key) ≤ dict.size := by
  rw [size, AList.keys_erase]
  exact List.length_erase_le

theorem erase_of_notMem (absent : key ∉ dict) : dict.erase key = dict :=
  AList.ext (List.kerase_of_notMem_keys absent)

theorem lookup_eq_of_lookup_erase (found : (dict.erase key).lookup other = some value) :
    dict.lookup other = some value := by
  by_cases same : other = key
  · rw [same, AList.lookup_erase] at found
    cases found
  · rwa [AList.lookup_erase_ne same] at found

theorem items_of_popOldest {oldest : Key × Value} {rest : OrderedDict Key Value}
    (popped : dict.popOldest = some (oldest, rest)) :
    dict.items = oldest :: rest.items := by
  obtain ⟨first, head, made⟩ := Option.map_eq_some_iff.mp popped
  obtain ⟨rfl, rfl⟩ := Prod.mk.inj made
  obtain ⟨key, value⟩ := first
  obtain ⟨younger, split⟩ : ∃ younger : List (Σ _ : Key, Value),
      dict.entries = younger ++ [⟨key, value⟩] := by
    rw [items, List.head?_reverse, List.getLast?_map, Option.map_eq_some_iff] at head
    obtain ⟨entry, last, same⟩ := head
    obtain ⟨younger, split⟩ := List.getLast?_eq_some_iff.mp last
    obtain ⟨rfl, rfl⟩ := Prod.mk.inj same
    exact ⟨younger, split⟩
  have unique : key ∉ younger.keys := by
    have nodup := dict.nodupKeys
    rw [split, List.NodupKeys, List.keys_append] at nodup
    exact fun member => (List.nodup_append.mp nodup).2.2 key member key (by simp) rfl
  have erased : (dict.erase key).entries = younger := by
    change List.kerase key dict.entries = younger
    rw [split, List.kerase_append_right unique]
    simp
  simp [items, erased, split]

theorem size_popOldest {oldest : Key × Value} {rest : OrderedDict Key Value}
    (popped : dict.popOldest = some (oldest, rest)) :
    rest.size + 1 = dict.size := by
  rw [← length_items, ← length_items, items_of_popOldest popped, List.length_cons]

theorem size_of_popOldest_eq_none (exhausted : dict.popOldest = none) : dict.size = 0 := by
  rw [popOldest, Option.map_eq_none_iff, List.head?_eq_none_iff] at exhausted
  rw [← length_items, exhausted, List.length_nil]

theorem lookup_of_popOldest {rest : OrderedDict Key Value}
    (popped : dict.popOldest = some ((key, value), rest)) :
    dict.lookup key = some value ∧ rest = dict.erase key := by
  obtain ⟨oldest, first, found⟩ := Option.map_eq_some_iff.mp popped
  obtain ⟨rfl, rfl⟩ := Prod.mk.inj found
  exact ⟨mem_items.mp (List.mem_of_head? first), rfl⟩

section MapValues

variable {Other : Type*} (convert : Value → Other)

omit [DecidableEq Key] in
theorem keys_mapValues : (dict.mapValues convert).keys = dict.keys :=
  List.map₂_keys (fun _ => convert) dict.entries

omit [DecidableEq Key] in
theorem mem_mapValues : key ∈ dict.mapValues convert ↔ key ∈ dict := by
  rw [AList.mem_keys, keys_mapValues, ← AList.mem_keys]

theorem lookup_mapValues : (dict.mapValues convert).lookup key = (dict.lookup key).map convert := by
  change List.dlookup key (dict.entries.map _) = _
  change _ = (List.dlookup key dict.entries).map convert
  induction dict.entries with
  | nil => rfl
  | cons entry entries ih =>
    obtain ⟨first, stored⟩ := entry
    rw [List.map_cons]
    by_cases same : key = first
    · subst same
      rw [List.dlookup_cons_eq]
      exact List.dlookup_cons_eq _ _ _
    · rw [dlookup_cons_other same]
      exact (dlookup_cons_other same _ _).trans ih

theorem kerase_cons_self (stored : Value) (entries : List (Σ _ : Key, Value)) :
    List.kerase key (⟨key, stored⟩ :: entries) = entries :=
  List.kerase_cons_eq rfl

theorem kerase_cons_other {first : Key} (different : key ≠ first)
    (stored : Value) (entries : List (Σ _ : Key, Value)) :
    List.kerase key (⟨first, stored⟩ :: entries) = ⟨first, stored⟩ :: List.kerase key entries :=
  List.kerase_cons_ne different

theorem mapValues_erase : mapValues convert (dict.erase key) =
      (dict.mapValues convert).erase key := by
  refine AList.ext ?_
  change (List.kerase key dict.entries).map _ = List.kerase key (dict.entries.map _)
  induction dict.entries with
  | nil => rfl
  | cons entry entries ih =>
    obtain ⟨first, stored⟩ := entry
    by_cases same : key = first
    · subst same
      rw [kerase_cons_self, List.map_cons]
      exact (kerase_cons_self _ _).symm
    · rw [kerase_cons_other same, List.map_cons, List.map_cons, ih]
      exact (kerase_cons_other same _ _).symm

theorem mapValues_insert : mapValues convert (dict.insert key value) =
      (dict.mapValues convert).insert key (convert value) := by
  refine AList.ext ?_
  change ⟨key, convert value⟩ :: (mapValues convert (dict.erase key)).entries =
    ⟨key, convert value⟩ :: ((dict.mapValues convert).erase key).entries
  rw [mapValues_erase]

theorem mapValues_replace : mapValues convert (dict.replace key value) =
      (dict.mapValues convert).replace key (convert value) := by
  refine AList.ext ?_
  change (List.kreplace key value dict.entries).map _ =
    List.kreplace (β := fun _ => Other) key (convert value) (dict.entries.map _)
  induction dict.entries with
  | nil => rfl
  | cons entry entries ih =>
    obtain ⟨first, stored⟩ := entry
    by_cases same : key = first
    · subst same
      rw [kreplace_cons_self, List.map_cons]
      exact (kreplace_cons_self _ _).symm
    · rw [kreplace_cons_ne same, List.map_cons, List.map_cons, ih]
      exact (kreplace_cons_ne same _ _).symm

theorem mapValues_assign : (dict.assign key value).mapValues convert =
      (dict.mapValues convert).assign key (convert value) := by
  unfold assign
  by_cases present : key ∈ dict
  · rw [if_pos present, if_pos ((mem_mapValues convert).mpr present)]
    exact mapValues_replace convert
  · rw [if_neg present, if_neg fun member =>
      present ((mem_mapValues convert).mp member)]
    exact mapValues_insert convert

end MapValues

end OrderedDict

end RoxabiFactory
