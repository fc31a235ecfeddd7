import RoxabiFactory.AuthStoreSlots

/-!
# Grants that stand

The operations of all keys run side by side, and a commit is one of the whole
connection.  In the runs that keep the order of the operations on each key,
`check` answers with the grant of an upsert that has returned until the grant
expires, a caller revokes the key or another upsert replaces the row.
-/

namespace RoxabiFactory

namespace AuthStore

variable {Key Task : Type}

/-- The key and the effect of an operation whose statement has run. -/
def started : Option (Operation Key × Stage) → Option (Key × Option Grant)
  | none => none
  | some (_, .called) => none
  | some (operation, _) => some (operation.key, operation.effect)

/-- The writer of the stored grant has not yet got to its commit. -/
def Uncommitted (tasks : Task → Option (Operation Key × Stage)) (stored : Stored Task) : Prop :=
  ∃ task operation, stored.writer = some task ∧ tasks task = some (operation, .executed)

/-- The slots are sound, know which operations are between their statement and
their return, and have their stored grants committed. -/
structure Sound (state : State Key Task) : Prop where
  slots : ∀ key, (state.slots key).Sound state.now
  listed : ∀ key task effect, (task, effect) ∈ (state.slots key).pending ↔
    started (state.tasks task) = some (key, effect)
  committed : ∀ key stored, (state.slots key).stored = some stored →
    stored.grant.expired state.now = false →
    ¬ Uncommitted state.tasks stored →
    (state.slots key).committed = some stored.grant

theorem Sound.start {state : State Key Task} (connected : Connected state) :
    Sound state := by
  constructor
  · intro key
    obtain ⟨row, slot⟩ := connected.slots key
    rw [slot]
    exact .start row
  · intro key task effect
    obtain ⟨row, slot⟩ := connected.slots key
    rw [slot, connected.idle task]
    constructor
    · intro member
      cases member
    · intro busy
      cases busy
  · intro key stored present
    obtain ⟨row, slot⟩ := connected.slots key
    rw [slot] at present
    cases present

theorem Sound.not_mem_pending {state : State Key Task} (sound : Sound state)
    {task : Task} (early : started (state.tasks task) = none) (key : Key) :
    task ∉ (state.slots key).pending.map Prod.fst := by
  intro member
  obtain ⟨⟨known, effect⟩, listed, rfl⟩ := List.mem_map.1 member
  have busy := (sound.listed key known effect).1 listed
  rw [early] at busy
  cases busy

theorem Sound.tick {state : State Key Task} (sound : Sound state) {time : ℤ}
    (le : state.now ≤ time) : Sound { state with now := time } := by
  constructor
  · intro key
    exact (sound.slots key).tick le
  · exact sound.listed
  · intro key stored present runs
    apply sound.committed key stored present
    apply Bool.eq_false_of_not_eq_true
    intro ended
    rw [Grant.expired_of_le le ended] at runs
    cases runs

section Steps

variable [DecidableEq Task] {state : State Key Task} {task : Task}
variable {phase : Option (Operation Key × Stage)}

/-- What is uncommitted before a task goes on, when the task does not pass its
statement. -/
theorem Uncommitted.update {tasks : Task → Option (Operation Key × Stage)} {stored : Stored Task}
    (not_executed : ∀ operation, tasks task ≠ some (operation, .executed))
    (uncommitted : Uncommitted tasks stored) :
    Uncommitted (Function.update tasks task phase) stored := by
  obtain ⟨writer, operation, own, executed⟩ := uncommitted
  refine ⟨writer, operation, own, ?_⟩
  have other : writer ≠ task := by
    intro same
    rw [same] at executed
    exact not_executed operation executed
  rw [Function.update_of_ne other]
  exact executed

/-- The list of cache steps stays when the task stays on one side of its
statement. -/
theorem Sound.listed_update (sound : Sound state)
    (same : started phase = started (state.tasks task)) (key : Key)
    (other : Task) (effect : Option Grant) :
    (other, effect) ∈ (state.slots key).pending ↔
      started (Function.update state.tasks task phase other) =
        some (key, effect) := by
  rw [sound.listed key other effect]
  by_cases own : other = task
  · subst own
    rw [Function.update_self, same]
  · rw [Function.update_of_ne own]

/-- A task changes without passing its statement, and the slot of a key without
its list of cache steps. -/
theorem Sound.setTask [DecidableEq Key] (sound : Sound state)
    (same : started phase = started (state.tasks task))
    (not_executed : ∀ operation, state.tasks task ≠ some (operation, .executed)) :
    Sound (state.setTask task phase) := by
  constructor
  · exact sound.slots
  · exact sound.listed_update same
  · intro key stored present runs committed
    apply sound.committed key stored present runs
    intro uncommitted
    exact committed (uncommitted.update not_executed)

omit [DecidableEq Task] in
/-- The slot of a key changes apart from its list of cache steps, and stores
nothing new. -/
theorem Sound.setSlot [DecidableEq Key] {key : Key} {slot : Slot Task}
    (sound : Sound state) (slotSound : slot.Sound state.now)
    (pending : slot.pending = (state.slots key).pending)
    (stored : ∀ stored, slot.stored = some stored → (state.slots key).stored = some stored ∧
        slot.committed = (state.slots key).committed) :
    Sound (state.setSlot key slot) := by
  have at_key := state.slots_setSlot_self key slot
  have elsewhere {other : Key} (ne : other ≠ key) := state.slots_setSlot_of_ne ne slot
  constructor
  · intro other
    by_cases same : other = key
    · rw [same, at_key]
      exact slotSound
    · rw [elsewhere same]
      exact sound.slots other
  · intro other task effect
    by_cases same : other = key
    · rw [same, at_key, pending]
      exact sound.listed key task effect
    · rw [elsewhere same]
      exact sound.listed other task effect
  · intro other entry present runs committed
    by_cases same : other = key
    · rw [same, at_key] at present ⊢
      obtain ⟨old, kept⟩ := stored entry present
      rw [kept]
      exact sound.committed key entry old runs committed
    · rw [elsewhere same] at present ⊢
      exact sound.committed other entry present runs committed

/-- A task goes on, and changes the slot of its key: the list of cache steps
has the task when it is between its statement and its return. -/
theorem Sound.change [DecidableEq Key] {key : Key} {slot : Slot Task}
    (sound : Sound state) (slotSound : slot.Sound state.now)
    (others : ∀ owner effect, owner ≠ task → ((owner, effect) ∈ slot.pending ↔
        (owner, effect) ∈ (state.slots key).pending))
    (own : ∀ effect, (task, effect) ∈ slot.pending ↔ started phase = some (key, effect))
    (elsewhere : ∀ other effect, other ≠ key → (started (state.tasks task) = some (other, effect) ↔
        started phase = some (other, effect)))
    (not_executed : ∀ operation, state.tasks task ≠ some (operation, .executed))
    (stored : ∀ stored, slot.stored = some stored → stored.grant.expired state.now = false →
      ¬ Uncommitted (Function.update state.tasks task phase) stored →
      slot.committed = some stored.grant) :
    Sound ((state.setSlot key slot).setTask task phase) := by
  have at_key := state.slots_setSlot_self key slot
  have away {other : Key} (ne : other ≠ key) := state.slots_setSlot_of_ne ne slot
  constructor
  · intro other
    change ((state.setSlot key slot).slots other).Sound state.now
    by_cases same : other = key
    · rw [same, at_key]
      exact slotSound
    · rw [away same]
      exact sound.slots other
  · intro other owner effect
    change (owner, effect) ∈ ((state.setSlot key slot).slots other).pending ↔
      started (Function.update state.tasks task phase owner) = _
    by_cases same : other = key
    · rw [same, at_key]
      by_cases ownTask : owner = task
      · rw [ownTask, Function.update_self]
        exact own effect
      · rw [Function.update_of_ne ownTask, others owner effect ownTask]
        exact sound.listed key owner effect
    · rw [away same, sound.listed other owner effect]
      by_cases ownTask : owner = task
      · rw [ownTask, Function.update_self]
        exact elsewhere other effect same
      · rw [Function.update_of_ne ownTask]
  · intro other entry present runs committed
    change ((state.setSlot key slot).slots other).stored = _ at present
    change ((state.setSlot key slot).slots other).committed = _
    by_cases same : other = key
    · rw [same, at_key] at present ⊢
      exact stored entry present runs committed
    · rw [away same] at present ⊢
      apply sound.committed other entry present runs
      intro uncommitted
      exact committed (uncommitted.update not_executed)

theorem Sound.execute [DecidableEq Key] {operation : Operation Key}
    {slot : Slot Task} (sound : Sound state)
    (called : state.tasks task = some (operation, .called))
    (slotSound : slot.Sound state.now)
    (pending : slot.pending = (state.slots operation.key).pending ++ [(task, operation.effect)])
    (stored : ∀ stored, slot.stored = some stored → stored.writer = some task ∨
        (state.slots operation.key).stored = some stored ∧
          slot.committed = (state.slots operation.key).committed) :
    Sound ((state.setSlot operation.key slot).setTask task (some (operation, .executed))) := by
  have early : started (state.tasks task) = none := by
    rw [called]
    rfl
  have not_executed : ∀ operation,
      state.tasks task ≠ some (operation, .executed) := by
    intro other executed
    rw [called] at executed
    cases executed
  apply sound.change slotSound
  · intro owner effect other
    rw [pending, List.mem_append, List.mem_singleton]
    constructor
    · rintro (known | new)
      · exact known
      · exact absurd (congrArg Prod.fst new) other
    · exact .inl
  · intro effect
    rw [pending, List.mem_append, List.mem_singleton]
    constructor
    · rintro (known | new)
      · exact absurd (List.mem_map_of_mem known) (sound.not_mem_pending early operation.key)
      · cases new
        rfl
    · intro same
      cases same
      exact .inr rfl
  · intro other effect ne
    rw [early]
    constructor
    · intro busy
      cases busy
    · intro busy
      cases busy
      exact absurd rfl ne
  · exact not_executed
  · intro entry present runs committed
    rcases stored entry present with own | ⟨old, kept⟩
    · apply absurd _ committed
      exact ⟨task, operation, own, Function.update_self _ _ _⟩
    · rw [kept]
      apply sound.committed operation.key entry old runs
      intro uncommitted
      exact committed (uncommitted.update not_executed)

theorem Sound.commit {operation : Operation Key} (sound : Sound state)
    (executed : state.tasks task = some (operation, .executed)) :
    Sound
      { state with
        slots := fun key => (state.slots key).commit
        tasks := Function.update state.tasks task (some (operation, .committed)) } := by
  have same : started (some (operation, Stage.committed)) =
      started (state.tasks task) := by
    rw [executed]
    rfl
  constructor
  · intro key
    exact (sound.slots key).commit
  · exact sound.listed_update same
  · intro key stored present runs _
    exact (sound.slots key).row stored present runs

theorem Sound.finish [DecidableEq Key] {operation : Operation Key} (sound : Sound state)
    (committed : state.tasks task = some (operation, .committed))
    (turn : (state.slots operation.key).InTurn task operation.effect) :
    Sound ((state.setSlot operation.key
      ((state.slots operation.key).finish task operation.effect)).setTask task none) := by
  have member : (task, operation.effect) ∈ (state.slots operation.key).pending := by
    rw [sound.listed, committed]
    rfl
  have not_executed : ∀ operation,
      state.tasks task ≠ some (operation, .executed) := by
    intro other executed
    rw [committed] at executed
    cases executed
  have kept (owner : Task) (effect : Option Grant) :
      (owner, effect) ∈ (state.slots operation.key).pending.filter (isOther task) ↔
        (owner, effect) ∈ (state.slots operation.key).pending ∧
          owner ≠ task := by
    rw [List.mem_filter]
    simp [isOther]
  apply sound.change ((sound.slots operation.key).finish member turn)
  · intro owner effect other
    exact (kept owner effect).trans (and_iff_left other)
  · intro effect
    constructor
    · intro listed
      exact absurd rfl ((kept task effect).1 listed).2
    · intro busy
      cases busy
  · intro other effect ne
    rw [committed]
    constructor
    · intro same
      cases same
      exact absurd rfl ne
    · intro busy
      cases busy
  · exact not_executed
  · intro entry present runs settled
    obtain ⟨old, old_present, rfl⟩ := Option.map_eq_some_iff.1 present
    change (state.slots operation.key).committed = _
    by_cases own : old.writer = some task
    · rw [if_pos own] at runs ⊢
      apply sound.committed operation.key old old_present runs
      rintro ⟨writer, other, writes, executed⟩
      rw [own] at writes
      cases writes
      exact not_executed other executed
    · rw [if_neg own] at runs settled ⊢
      apply sound.committed operation.key old old_present runs
      intro uncommitted
      exact settled (uncommitted.update not_executed)

theorem Sound.call [DecidableEq Key] {operation : Operation Key}
    (sound : Sound state) (idle : state.tasks task = none) :
    Sound (state.setTask task (some (operation, .called))) := by
  apply sound.setTask
  · rw [idle]
    rfl
  · intro other executed
    rw [idle] at executed
    cases executed

theorem Sound.resume [DecidableEq Key] {operation : Operation Key}
    {stage : Stage} (sound : Sound state)
    (busy : state.tasks task = some (operation, stage))
    (orderly : state.Orderly task (some (operation, stage))) :
    Sound (state.resume task operation stage) := by
  cases stage with
  | called =>
    have new := sound.not_mem_pending (by rw [busy]; rfl) operation.key
    cases operation with
    | upsert key grant =>
      apply sound.execute busy ((sound.slots key).insert new)
      · unfold Slot.insert
        split <;> rfl
      · intro stored present
        unfold Slot.insert at present ⊢
        split at present
        · rename_i kept
          rw [if_pos kept]
          exact .inr ⟨present, rfl⟩
        · cases present
          exact .inl rfl
    | revoke key =>
      apply sound.execute busy ((sound.slots key).delete new orderly)
      · rfl
      · intro stored present
        exact .inr ⟨present, rfl⟩
  | executed => exact sound.commit busy
  | committed =>
    cases operation with
    | upsert key grant => exact sound.finish busy orderly
    | revoke key => exact sound.finish busy orderly

theorem Sound.step [DecidableEq Key] {action : Action Key Task}
    {after : State Key Task} (sound : Sound state)
    (admitted : Admits state action) (stepTo : state.step action = some after) :
    Sound after := by
  cases action with
  | check key task =>
    simp only [State.step] at stepTo
    split at stepTo
    · rename_i grant cached idle
      split at stepTo
      · rename_i ended
        cases stepTo
        have popped : Sound (state.setSlot key (state.slots key).pop) :=
          sound.setSlot ((sound.slots key).pop cached ended) rfl
            fun stored present => ⟨present, rfl⟩
        exact popped.call idle
      · cases stepTo
        exact sound
    · split at stepTo
      · cases stepTo
      · cases stepTo
        exact sound
    · cases stepTo
      exact sound
  | upsert task key grant =>
    simp only [State.step] at stepTo
    split at stepTo
    · rename_i idle
      cases stepTo
      exact sound.call idle
    · cases stepTo
  | revoke task key =>
    simp only [State.step] at stepTo
    split at stepTo
    · rename_i idle
      cases stepTo
      have withdrawn : Sound (state.setSlot key (state.slots key).withdraw) :=
        sound.setSlot (sound.slots key).withdraw rfl
          fun stored present => by cases present
      exact withdrawn.call idle
    · cases stepTo
  | run task =>
    simp only [State.step] at stepTo
    split at stepTo
    · cases stepTo
    · rename_i operation stage busy
      cases stepTo
      have orderly : state.Orderly task (state.tasks task) := admitted
      rw [busy] at orderly
      exact sound.resume busy orderly
  | tick time =>
    simp only [State.step] at stepTo
    split at stepTo
    · rename_i le
      cases stepTo
      exact sound.tick le
    · cases stepTo

omit [DecidableEq Task] in
theorem Sound.fresh (sound : Sound state) : state.Fresh := by
  constructor
  · intro default key grant present runs
    have stands := (sound.slots key).stands ⟨grant, none⟩ present runs
    unfold State.checkLevel
    rw [stands.1]
    exact if_neg (by rw [runs]; exact Bool.false_ne_true)
  · intro key grant present runs
    constructor
    · exact (sound.slots key).row ⟨grant, none⟩ present runs
    · apply sound.committed key ⟨grant, none⟩ present runs
      rintro ⟨task, operation, writer, executed⟩
      cases writer
  · intro key quiet
    have empty : (state.slots key).pending = [] := by
      apply List.eq_nil_iff_forall_not_mem.2
      rintro ⟨task, effect⟩ member
      have busy := (sound.listed key task effect).1 member
      cases phase : state.tasks task with
      | none =>
        rw [phase] at busy
        cases busy
      | some running =>
        obtain ⟨operation, stage⟩ := running
        rw [phase] at busy
        cases stage with
        | called => cases busy
        | executed =>
          cases busy
          cases quiet task operation .executed phase rfl
        | committed =>
          cases busy
          cases quiet task operation .committed phase rfl
    have coherent := (sound.slots key).coherent
    rw [empty] at coherent
    exact coherent

end Steps

/-- In every run in which revocations delete no row that was stored after they
were meant, and the operations of each key take their cache steps in order, the
grants of the upserts that have returned stand, and cache and table agree. -/
theorem fresh_of_reachable (Key Task : Type) [DecidableEq Key]
    [DecidableEq Task] {state : State Key Task}
    (reached : (system Key Task).ReachableWithin Admits state) :
    state.Fresh := by
  apply Sound.fresh
  apply reached.invariant
  · intro state connected
    exact Sound.start connected
  · intro state action after sound admitted stepTo
    exact sound.step admitted stepTo

section Example

/-- A store with one grant, which ends at time 10. -/
def seeded : State String (Fin 2) where
  slots key := if key = "tg:user:1" then
      { row := some ⟨.trusted, some 10⟩
        committed := some ⟨.trusted, some 10⟩
        cached := some ⟨.trusted, some 10⟩ }
    else {}

theorem connected_seeded : Connected seeded := by
  constructor
  · intro task
    rfl
  · intro key
    unfold seeded
    by_cases same : key = "tg:user:1"
    · exact ⟨some ⟨.trusted, some 10⟩, by simp [same]; rfl⟩
    · exact ⟨none, by simp [same]⟩

def ban : Grant := ⟨.blocked, some 100⟩

/-- The user is banned when the grant has ended and been found by a check. -/
def banLate (checker writer : Fin 2) : List (Action String (Fin 2)) :=
  [.tick 20, .check "tg:user:1" checker, .upsert writer "tg:user:1" ban,
    .run writer, .run writer, .run writer]

/-- The eviction comes before the ban is stored. -/
def banInTurn (checker writer : Fin 2) : List (Action String (Fin 2)) :=
  [.tick 20, .check "tg:user:1" checker, .run checker, .run checker,
    .run checker, .upsert writer "tg:user:1" ban, .run writer, .run writer,
    .run writer]

/-- The ban stands. -/
theorem fresh_of_eviction : ∃ state : State String (Fin 2),
      (system String (Fin 2)).ReachableWithin Admits state ∧
        state.checkLevel .pub "tg:user:1" = .blocked := by
  have run : ∃ state : State String (Fin 2), (system String (Fin 2)).ReachableWithin Admits state ∧
        ((state.slots "tg:user:1").stored = some ⟨ban, none⟩ ∧ ban.expired state.now = false) :=
    TransitionSystem.exists_reachableWithin_of_checkedRun seeded
      connected_seeded (banInTurn 0 1) (by decide)
  obtain ⟨state, reached, stored, runs⟩ := run
  exact ⟨state, reached, (fresh_of_reachable String (Fin 2) reached).level .pub _ ban stored runs⟩

/-- The eviction of the old grant deletes the ban that was stored since. -/
theorem exists_lost_ban : ∃ state : State String (Fin 2),
      (system String (Fin 2)).Reachable state ∧ ¬ state.Fresh := by
  have run : ∃ state : State String (Fin 2), (system String (Fin 2)).Reachable state ∧
        ((state.slots "tg:user:1").stored = some ⟨ban, none⟩ ∧ ban.expired state.now = false ∧
          (state.slots "tg:user:1").row = none) :=
    TransitionSystem.exists_reachable_of_run seeded connected_seeded
      (banLate 0 1 ++ [.run 0, .run 0, .run 0]) (by decide)
  obtain ⟨state, reached, stored, runs, row⟩ := run
  refine ⟨state, reached, ?_⟩
  intro fresh
  have present := (fresh.row "tg:user:1" ban stored runs).1
  rw [row] at present
  cases present

end Example

end AuthStore

end RoxabiFactory
