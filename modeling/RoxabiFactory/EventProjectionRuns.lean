import RoxabiFactory.EventProjection

/-!
# The projection survives stops and deliveries that lose nothing

At rest the tables, the memory and the effects of the recorded events agree; an
event that has been delivered and is not recorded has not been acknowledged.
Only the last delivered event may lack its mark.
-/

namespace RoxabiFactory

namespace Projector

variable {Event State Write Progress : Type*}
variable {projector : Projector Event State Write Progress}

/-! ## The tables -/

section Tables

variable {contents : Contents Event State} {event : Event} {now : ℕ}
variable {mark : Event × ℕ}

theorem mem_of_mem_prune {limit : ℕ} (member : mark ∈ (contents.prune limit).processed) :
    mark ∈ contents.processed :=
  (List.mem_insertionSort _).1 (List.mem_of_mem_take member)

theorem owed_changes (memory : Memory Event State) (list : List Write) (raises : Bool) :
    Process.owed (.handling memory event (list.map .change) raises) = list := by
  cases list with
  | nil => rfl
  | cons write list =>
    rw [List.map_cons, Process.owed, ← List.map_cons, List.filterMap_map]
    · exact List.filterMap_some
    · intro other time rest impossible
      cases impossible

variable [DecidableEq Event]

theorem state_insertMark : (contents.insertMark event now).state = contents.state := by
  unfold Contents.insertMark
  split <;> rfl

theorem mem_of_mem_insertMark (member : mark ∈ (contents.insertMark event now).processed) :
    mark.1 = event ∨ mark ∈ contents.processed := by
  unfold Contents.insertMark at member
  split at member
  · exact .inr member
  · rcases List.mem_cons.1 member with same | earlier
    · exact .inl (congrArg Prod.fst same)
    · exact .inr earlier

end Tables

/-! ## The invariant -/

section Invariant

/-- Which process goes with the tables and the recorded events. -/
inductive Phase (projector : Projector Event State Write Progress)
    (stored : State) (recorded delivered : List Event) :
    Process Event State Write → Prop
  | stopped (effective : stored = projector.effects recorded) :
      Phase projector stored recorded delivered .stopped
  | idle {memory : Memory Event State} (effective : stored = projector.effects recorded)
      (same : memory.state = stored)
      (remembered : ∀ event ∈ memory.processed, event ∈ recorded) :
      Phase projector stored recorded delivered (.idle memory)
  | unmarked {memory : Memory Event State} {event : Event} {now : ℕ}
      {raises : Bool} (effective : stored = projector.effects recorded)
      (same : memory.state = stored)
      (remembered : ∀ other ∈ memory.processed, other = event ∨ other ∈ recorded)
      (known : event ∈ delivered) (fresh : event ∉ recorded) :
      Phase projector stored recorded delivered (.handling memory event
          (.mark event now :: (projector.writes event stored).map .change)
          raises)
  | marked {memory : Memory Event State} {event : Event} {owed : List Write} {raises : Bool}
      (effective : projector.applyAll stored owed = projector.effects recorded)
      (same : memory.state = stored)
      (remembered : ∀ other ∈ memory.processed, other ∈ recorded)
      (known : event ∈ recorded) :
      Phase projector stored recorded delivered (.handling memory event (owed.map .change) raises)

/-- Every delivered event is recorded, except perhaps the last one. -/
def Waiting (state : ProjectionState Event State Write) : Prop := state.delivered = state.recorded ∨
    ∃ event, state.delivered = event :: state.recorded ∧
      event ∉ state.recorded ∧ event ∈ state.unacknowledged

structure Sound (projector : Projector Event State Write Progress)
    (state : ProjectionState Event State Write) : Prop where
  clean : state.database.current = state.database.committed
  once : state.recorded.Nodup
  marked : ∀ mark ∈ state.database.committed.processed, mark.1 ∈ state.recorded
  waiting : Waiting state
  phase : Phase projector state.database.committed.state state.recorded
    state.delivered state.process

theorem sound_initial (projector : Projector Event State Write Progress) :
    Sound projector (initialState projector) where
  clean := rfl
  once := List.nodup_nil
  marked := by
    intro mark member
    cases member
  waiting := .inl rfl
  phase := .stopped rfl

variable {state : ProjectionState Event State Write}

theorem Waiting.mem_delivered (waiting : Waiting state) {event : Event}
    (known : event ∈ state.recorded) : event ∈ state.delivered := by
  rcases waiting with all | ⟨last, delivered, _⟩
  · rwa [all]
  · rw [delivered]
    exact List.mem_cons_of_mem last known

theorem Waiting.delivered_eq (waiting : Waiting state) {event : Event}
    (known : event ∈ state.delivered) (fresh : event ∉ state.recorded) :
    state.delivered = event :: state.recorded := by
  rcases waiting with all | ⟨last, delivered, _⟩
  · rw [all] at known
    exact absurd known fresh
  · rw [delivered, List.mem_cons] at known
    rcases known with same | earlier
    · rw [delivered, same]
    · exact absurd earlier fresh

theorem Waiting.delivered_eq_recorded (waiting : Waiting state)
    (none : state.unacknowledged = []) : state.delivered = state.recorded := by
  rcases waiting with all | ⟨last, _, _, waits⟩
  · exact all
  · rw [none] at waits
    cases waits

theorem Sound.survives (sound : Sound projector state) : Survives projector state where
  ends := by
    intro rest none
    rw [sound.waiting.delivered_eq_recorded none]
    have phase := sound.phase
    generalize state.process = process at phase rest ⊢
    cases phase with
    | stopped effective =>
      apply And.intro effective
      intro memory impossible
      cases impossible
    | idle effective same remembered =>
      apply And.intro effective
      intro memory isMemory
      cases isMemory
      exact same.trans effective
    | unmarked | marked => exact rest.elim
  effective := by
    have phase := sound.phase
    generalize state.process = process at phase ⊢
    cases phase with
    | stopped effective | idle effective | unmarked effective =>
      exact effective
    | marked effective same remembered known =>
      rw [owed_changes]
      exact effective
  marked := sound.marked
  once := sound.once

/-! ## The steps -/

/-- A step that keeps the lists and the tables, up to what is not committed. -/
theorem Sound.transfer (sound : Sound projector state) (after : ProjectionState Event State Write)
    (clean : after.database.current = after.database.committed)
    (committed : after.database.committed = state.database.committed)
    (recorded : after.recorded = state.recorded)
    (waiting : Waiting after)
    (phase : Phase projector state.database.committed.state state.recorded
      after.delivered after.process) : Sound projector after where
  clean := clean
  once := recorded ▸ sound.once
  marked := by
    rw [committed, recorded]
    exact sound.marked
  waiting := waiting
  phase := by
    rw [committed, recorded]
    exact phase

theorem Sound.starting (sound : Sound projector state) (stopped : state.process = .stopped) :
    Sound projector (state.starting projector) := by
  apply sound.transfer (state.starting projector) sound.clean rfl rfl sound.waiting
  have phase := sound.phase
  rw [stopped] at phase
  cases phase with
  | stopped effective =>
    apply Phase.idle effective rfl
    intro event member
    obtain ⟨mark, isMark, same⟩ := List.mem_map.1 member
    rw [← same]
    exact sound.marked mark (mem_of_mem_prune isMark)

theorem Sound.stopping (sound : Sound projector state)
    (harmless : projector.applyAll state.database.committed.state
      state.process.owed = state.database.committed.state) :
    Sound projector state.stopping :=
  sound.transfer state.stopping rfl rfl rfl sound.waiting
    (.stopped (harmless.symm.trans sound.survives.effective))

/-- A handler that raises without a change of the tables and the memory. -/
theorem Sound.idling (sound : Sound projector state) {memory : Memory Event State}
    {change : Contents Event State → Contents Event State}
    (clean : change state.database.current = state.database.committed)
    (effective : state.database.committed.state = projector.effects state.recorded)
    (same : memory.state = state.database.committed.state)
    (remembered : ∀ event ∈ memory.processed, event ∈ state.recorded) :
    Sound projector (state.failing memory change) :=
  sound.transfer (state.failing memory change) clean rfl rfl sound.waiting
    (.idle effective same remembered)

theorem Sound.failing (sound : Sound projector state)
    {memory : Memory Event State} {event : Event} {write : Write}
    {todo : List (Commit Event Write)} {raises : Bool} {progress : Progress}
    (handles : state.process = .handling memory event (.change write :: todo) raises)
    (harmless : projector.HarmlessFailure state progress) :
    Sound projector (state.failing { memory with state := projector.apply memory.state write }
      fun contents =>
        { contents with
          state := projector.partway contents.state write progress }) := by
  rw [HarmlessFailure, handles] at harmless
  obtain ⟨partway, unchanged, rest⟩ := harmless
  have effective := sound.survives.effective
  rw [handles] at effective
  have phase := sound.phase
  rw [handles] at phase
  generalize todoEq : Commit.change write :: todo = commits at phase
  cases phase with
  | unmarked => cases todoEq
  | marked owed same remembered known =>
    apply sound.idling
    · rw [partway]
      exact sound.clean
    · calc state.database.committed.state = projector.applyAll memory.state
              (todo.filterMap Commit.write?) := (rest.trans same).symm
        _ = projector.applyAll (projector.apply memory.state write)
              (todo.filterMap Commit.write?) := by rw [unchanged]
        _ = projector.effects state.recorded := by
              rw [same]
              exact effective
    · exact unchanged.trans same
    · exact remembered

section Deliveries

variable [DecidableEq Event]

theorem Sound.delivering (sound : Sound projector state)
    {memory : Memory Event State} {event : Event} {now : ℕ}
    (idle : state.process = .idle memory)
    (harmless : if event ∈ state.recorded then event ∈ memory.processed
      else ∀ other ∈ state.delivered, other = event ∨ other ∈ state.recorded) :
    Sound projector (state.delivering projector memory event now) := by
  have phase := sound.phase
  rw [idle] at phase
  have known : event ∈ (state.delivering projector memory event now).delivered :=
    List.mem_insert_self
  cases phase with
  | idle effective same remembered =>
    by_cases recorded : event ∈ state.recorded
    · rw [if_pos recorded] at harmless
      have delivered : (state.delivering projector memory event now).delivered =
          state.delivered :=
        List.insert_of_mem (sound.waiting.mem_delivered recorded)
      apply sound.transfer (state.delivering projector memory event now) sound.clean rfl rfl
      · rcases sound.waiting with all | ⟨last, isLast, fresh, waits⟩
        · exact .inl (delivered.trans all)
        · exact .inr ⟨last, delivered.trans isLast, fresh, List.mem_insert_of_mem waits⟩
      · change Phase projector _ _ _ (if _ then _ else _)
        rw [if_pos harmless]
        have nothing : projector.applyAll state.database.committed.state [] =
            projector.effects state.recorded := effective
        exact .marked nothing same remembered recorded
    · rw [if_neg recorded] at harmless
      have unseen : event ∉ memory.processed := fun member =>
        recorded (remembered event member)
      have delivered : (state.delivering projector memory event now).delivered =
          event :: state.recorded := by
        change state.delivered.insert event = _
        rcases sound.waiting with all | ⟨last, isLast, fresh, _⟩
        · rw [all, List.insert_of_not_mem recorded]
        · have same : last = event := by
            rcases harmless last (by rw [isLast]; exact List.mem_cons_self)
              with same | earlier
            · exact same
            · exact absurd earlier fresh
          rw [isLast, same]
          exact List.insert_of_mem List.mem_cons_self
      apply sound.transfer (state.delivering projector memory event now) sound.clean rfl rfl
      · exact .inr ⟨event, delivered, recorded, List.mem_insert_self⟩
      · change Phase projector _ _ _ (if _ then _ else _)
        rw [if_neg unseen]
        obtain ⟨loaded, processed⟩ := memory
        cases same
        apply Phase.unmarked effective rfl _ known recorded
        intro other member
        rcases List.mem_cons.1 member with own | earlier
        · exact .inl own
        · exact .inr (remembered other earlier)

theorem Sound.committing (sound : Sound projector state)
    {memory : Memory Event State} {event : Event}
    {commit : Commit Event Write} {todo : List (Commit Event Write)}
    {raises : Bool}
    (handles : state.process = .handling memory event (commit :: todo) raises) :
    Sound projector (state.committing projector memory event commit todo raises) := by
  have phase := sound.phase
  rw [handles] at phase
  generalize todoEq : commit :: todo = commits at phase
  cases phase with
  | @unmarked _ _ now _ effective same remembered known fresh =>
    obtain ⟨rfl, rfl⟩ := List.cons.inj todoEq
    have stored : ((state.database.current.insertMark event now).prune
        projector.limit).state = state.database.committed.state := by
      rw [← sound.clean]
      exact state_insertMark
    have delivered := sound.waiting.delivered_eq known fresh
    constructor
    · rfl
    · exact List.nodup_cons.2 ⟨fresh, sound.once⟩
    · intro mark member
      have inserted := mem_of_mem_prune (member :
        mark ∈ ((state.database.current.insertMark event now).prune projector.limit).processed)
      rcases mem_of_mem_insertMark inserted with own | earlier
      · exact List.mem_cons.2 (.inl own)
      · rw [sound.clean] at earlier
        exact List.mem_cons_of_mem event (sound.marked mark earlier)
    · exact .inl delivered
    · change Phase projector ((state.database.current.insertMark event
        now).prune projector.limit).state (event :: state.recorded) _ _
      rw [stored]
      apply Phase.marked _ same _ List.mem_cons_self
      · rw [effective]
        rfl
      · intro other member
        exact List.mem_cons.2 (remembered other member)
  | @marked _ _ owed _ effective same remembered known =>
    cases owed with
    | nil => cases todoEq
    | cons write owed =>
      obtain ⟨rfl, rfl⟩ := List.cons.inj todoEq
      have stored : projector.save state.database.current.state write =
          projector.apply state.database.committed.state write := by
        rw [projector.save_eq, sound.clean]
      constructor
      · rfl
      · exact sound.once
      · intro mark member
        apply sound.marked mark
        rw [← sound.clean]
        exact member
      · exact sound.waiting
      · change Phase projector (projector.save state.database.current.state
          write) state.recorded _ _
        rw [stored]
        have rest : projector.applyAll (projector.apply state.database.committed.state write) owed =
              projector.effects state.recorded := effective
        have applied : ((Commit.change write : Commit Event Write).remember
            projector memory).state = projector.apply state.database.committed.state write :=
          congrArg (projector.apply · write) same
        have processed : ∀ other ∈ ((Commit.change write :
            Commit Event Write).remember projector memory).processed,
              other ∈ state.recorded := remembered
        exact .marked rest applied processed known

theorem Sound.finishing (sound : Sound projector state)
    {memory : Memory Event State} {event : Event} {raises : Bool}
    (handles : state.process = .handling memory event [] raises)
    (acknowledged : Bool) :
    Sound projector (state.finishing memory event acknowledged) := by
  have phase := sound.phase
  rw [handles] at phase
  generalize todoEq : ([] : List (Commit Event Write)) = commits at phase
  cases phase with
  | unmarked => cases todoEq
  | @marked _ _ owed _ effective same remembered known =>
    have none : owed = [] := List.map_eq_nil_iff.1 todoEq.symm
    subst none
    apply sound.transfer (state.finishing memory event acknowledged) sound.clean rfl rfl
    · rcases sound.waiting with all | ⟨last, isLast, fresh, waits⟩
      · exact .inl all
      · apply Or.inr
        apply Exists.intro last
        apply And.intro isLast
        apply And.intro fresh
        change last ∈ if _ then _ else _
        split
        · apply List.mem_filter.2
          apply And.intro waits
          apply decide_eq_true
          intro own
          exact fresh (own ▸ known)
        · exact waits
    · exact .idle effective same remembered

end Deliveries

/-! ## The runs -/

section Runs

variable [DecidableEq Event]

theorem Sound.step {action : Action Event Progress} {after : ProjectionState Event State Write}
    (sound : Sound projector state)
    (harmless : projector.Harmless state action)
    (stepTo : projector.step state action = some after) :
    Sound projector after := by
  cases action with
  | start =>
    simp only [Projector.step] at stepTo
    split at stepTo
    · rename_i stopped
      cases stepTo
      exact sound.starting stopped
    · cases stepTo
  | deliver event now =>
    simp only [Projector.step] at stepTo
    split at stepTo
    · rename_i memory idle
      cases stepTo
      rw [Harmless, idle] at harmless
      exact sound.delivering idle harmless
    · cases stepTo
  | commit =>
    simp only [Projector.step] at stepTo
    split at stepTo
    · rename_i handles
      cases stepTo
      exact sound.committing handles
    · cases stepTo
  | failMark progress => exact harmless.elim
  | failWrite progress =>
    simp only [Projector.step] at stepTo
    split at stepTo
    · rename_i handles
      cases stepTo
      exact sound.failing handles harmless
    · cases stepTo
  | finish acknowledged =>
    simp only [Projector.step] at stepTo
    split at stepTo
    · rename_i handles
      cases stepTo
      exact sound.finishing handles _
    · cases stepTo
  | stop =>
    cases stepTo
    exact sound.stopping harmless

theorem sound_of_reachable
    (reached : (system projector).ReachableWithin (Harmless projector) state) :
    Sound projector state := by
  apply reached.invariant
  · intro start initially
    cases initially
    exact sound_initial projector
  · intro before action after sound harmless stepTo
    exact sound.step harmless stepTo

end Runs

end Invariant

end Projector

end RoxabiFactory
