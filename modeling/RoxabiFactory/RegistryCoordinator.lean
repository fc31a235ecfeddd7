import Mathlib.Logic.Function.Basic
import RoxabiFactory.TransitionSystem

/-!
# The coordinator of the active jobs

The coordinator keeps its open jobs in two maps, by job and by worker location,
and a heartbeat of a location refreshes the job that is mapped there.  The jobs
that are open are listed beside the maps, the one that was opened last first.
-/

namespace RoxabiFactory

namespace RegistryCoordinator

structure ActiveJobEntry where
  jobId : String
  workerLoc : Option String := none
  deriving DecidableEq, Repr

/-- A location that counts as true. -/
def ActiveJobEntry.loc (entry : ActiveJobEntry) : Option String := entry.workerLoc.filter (· ≠ "")

/-- A map by location with another value at a location, if it is one. -/
def setAt (byLoc : String → Option String) (loc jobId : Option String) : String → Option String :=
  fun place => if loc = some place then jobId else byLoc place

structure Coordinator where
  /-- `_jobs`. -/
  jobs : String → Option ActiveJobEntry := fun _ => none
  /-- `_by_loc`. -/
  byLoc : String → Option String := fun _ => none

namespace Coordinator

variable (coordinator : Coordinator)

/-- `open`, when the port has opened the job. -/
def opened (entry : ActiveJobEntry) : Coordinator where
  jobs := Function.update coordinator.jobs entry.jobId (some entry)
  byLoc := setAt coordinator.byLoc entry.loc (some entry.jobId)

/-- `close`, whatever the port does. -/
def close (jobId : String) : Coordinator where
  jobs := Function.update coordinator.jobs jobId none
  byLoc := setAt coordinator.byLoc ((coordinator.jobs jobId).bind ActiveJobEntry.loc) none

/-- The job that `on_heartbeat` refreshes. -/
def onHeartbeat (workerLoc : String) : Option String := coordinator.byLoc workerLoc

end Coordinator

inductive Call
  /-- The port may refuse the job. -/
  | opening (entry : ActiveJobEntry) (accepted : Bool)
  | close (jobId : String)
  | heartbeat (workerLoc : String)

structure State where
  coordinator : Coordinator := { }
  /-- The open jobs, the one that was opened last first. -/
  openJobs : List ActiveJobEntry := []

/-- The jobs that stay open when one is opened or closed. -/
def State.others (state : State) (jobId : String) : List ActiveJobEntry :=
  state.openJobs.filter (·.jobId ≠ jobId)

def step (state : State) : Call → State
  | .opening entry accepted =>
    if accepted then
      { coordinator := state.coordinator.opened entry
        openJobs := entry :: state.others entry.jobId }
    else state
  | .close jobId =>
    { coordinator := state.coordinator.close jobId
      openJobs := state.others jobId }
  | .heartbeat _ => state

def registry : TransitionSystem State Call where
  initial state := state = { }
  step state call := some (step state call)

/-- The job that was opened last at a location. -/
def State.latest (state : State) (loc : String) : Option ActiveJobEntry :=
  state.openJobs.find? fun entry => decide (entry.loc = some loc)

/-- Every open job is tracked, and a heartbeat reaches the job that was opened
last at its location. -/
structure Reaches (state : State) : Prop where
  jobs_eq : ∀ jobId, state.coordinator.jobs jobId =
    state.openJobs.find? fun entry => decide (entry.jobId = jobId)
  onHeartbeat_eq : ∀ loc entry, state.latest loc = some entry →
    state.coordinator.onHeartbeat loc = some entry.jobId

/-- The location of the job has no other open job. -/
def Alone (state : State) (entry : ActiveJobEntry) : Prop :=
  ∀ other ∈ state.others entry.jobId, other.loc = entry.loc → other.loc = none

/-- A job that is closed is alone at its location, and so is one that is opened
again elsewhere, unless another job was opened there later. -/
def KeepsApart (state : State) : Call → Prop
  | .opening entry accepted => accepted = true →
    ∀ old ∈ state.openJobs, old.jobId = entry.jobId → old.loc ≠ entry.loc →
      old.loc.bind state.latest = some old → Alone state old
  | .close jobId =>
    ∀ entry ∈ state.openJobs, entry.jobId = jobId → Alone state entry
  | .heartbeat _ => True

instance (state : State) (entry : ActiveJobEntry) : Decidable (Alone state entry) :=
  List.decidableBAll _ _

instance : ∀ (state : State) (call : Call), Decidable (KeepsApart state call)
  | state, .opening entry accepted =>
    inferInstanceAs (Decidable (accepted = true → ∀ old ∈ state.openJobs,
      old.jobId = entry.jobId → old.loc ≠ entry.loc →
        old.loc.bind state.latest = some old → Alone state old))
  | state, .close jobId =>
    inferInstanceAs (Decidable (∀ entry ∈ state.openJobs, entry.jobId = jobId → Alone state entry))
  | _, .heartbeat _ => .isTrue trivial

section Step

variable {state : State} {entry : ActiveJobEntry} {loc : String}

theorem find?_filter_of_find? {Entry : Type*} {entries : List Entry}
    {entry : Entry} {wanted keeps : Entry → Bool}
    (found : entries.find? wanted = some entry) (kept : keeps entry = true) :
    (entries.filter keeps).find? wanted = some entry := by
  obtain ⟨isWanted, before, after, rfl, misses⟩ := List.find?_eq_some_iff_append.mp found
  rw [List.filter_append, List.filter_cons_of_pos kept,
    List.find?_append, List.find?_cons_of_pos isWanted]
  rw [List.find?_eq_none.mpr ?_, Option.none_or]
  intro other member
  have := misses other (List.mem_filter.mp member).1
  simpa using this

/-- The last one of the others at a location was the last one there, unless
the job itself is and it is not alone. -/
theorem latest_of_find?_others {jobId : String} (found : (state.others jobId).find? (fun entry =>
      decide (entry.loc = some loc)) = some entry) :
    state.latest loc = some entry ∨ ∃ old ∈ state.openJobs, old.jobId = jobId ∧ old.loc = some loc ∧
        state.latest loc = some old ∧ ¬ Alone state old := by
  have entryAt : entry.loc = some loc := by
    simpa using List.find?_some found
  have isOther := List.mem_of_find?_eq_some found
  cases last : state.latest loc with
  | none =>
    have missing := List.find?_eq_none.mp last entry (List.mem_filter.mp isOther).1
    exact absurd entryAt (by simpa using missing)
  | some old =>
    have oldAt : old.loc = some loc := by simpa using List.find?_some last
    by_cases same : old.jobId = jobId
    · refine .inr ⟨old, List.mem_of_find?_eq_some last, same, oldAt, rfl, ?_⟩
      intro alone
      subst same
      have lost := alone entry isOther (entryAt.trans oldAt.symm)
      rw [entryAt] at lost
      cases lost
    · have kept : (state.others jobId).find? (fun entry =>
          decide (entry.loc = some loc)) = some old :=
        find?_filter_of_find? last (by simpa using same)
      exact .inl (kept.symm.trans found)

theorem find?_others (state : State) (jobId other : String) :
    (state.others jobId).find? (fun entry => decide (entry.jobId = other)) =
      if other = jobId then none
      else state.openJobs.find? fun entry => decide (entry.jobId = other) := by
  unfold State.others
  rw [List.find?_filter]
  split
  · next same =>
    subst same
    rw [List.find?_eq_none]
    simp
  · next differs =>
    congr
    funext entry
    by_cases same : entry.jobId = other
    · simp [same, differs]
    · simp [same]

theorem Reaches.close (reaches : Reaches state) {jobId : String}
    (apart : KeepsApart state (.close jobId)) :
    Reaches (step state (.close jobId)) := by
  constructor
  · intro other
    dsimp only [RegistryCoordinator.step, Coordinator.close]
    rw [find?_others, Function.update_apply, reaches.jobs_eq]
  · intro loc entry found
    obtain kept | ⟨old, member, same, -, -, notAlone⟩ := latest_of_find?_others found
    · unfold RegistryCoordinator.step Coordinator.close Coordinator.onHeartbeat
      dsimp only
      rw [setAt, if_neg, ← reaches.onHeartbeat_eq loc entry kept]
      · rfl
      · intro closed
        obtain ⟨closing, tracked, closingAt⟩ := Option.bind_eq_some_iff.mp closed
        rw [reaches.jobs_eq] at tracked
        have sameJob : closing.jobId = jobId := by
          simpa using List.find?_some tracked
        have entryAt : entry.loc = some loc := by
          simpa using List.find?_some found
        have lost := apart closing (List.mem_of_find?_eq_some tracked) sameJob
          entry (sameJob ▸ List.mem_of_find?_eq_some found)
          (entryAt.trans closingAt.symm)
        rw [entryAt] at lost
        cases lost
    · exact absurd (apart old member same) notAlone

theorem Reaches.opened (reaches : Reaches state) (apart : KeepsApart state (.opening entry true)) :
    Reaches (step state (.opening entry true)) := by
  constructor
  · intro other
    rw [RegistryCoordinator.step, if_pos rfl]
    dsimp only [Coordinator.opened]
    rw [List.find?_cons, find?_others, Function.update_apply, reaches.jobs_eq]
    by_cases same : other = entry.jobId
    · simp [same]
    · simp [same, Ne.symm same]
  · intro loc later found
    rw [RegistryCoordinator.step, if_pos rfl] at found ⊢
    dsimp only [State.latest, Coordinator.opened, Coordinator.onHeartbeat] at found ⊢
    rw [List.find?_cons] at found
    by_cases here : entry.loc = some loc
    · simp only [here, decide_true, Option.some.injEq] at found
      rw [setAt, if_pos here, found]
    · simp only [here, decide_false] at found
      rw [setAt, if_neg here]
      obtain kept | ⟨old, member, same, oldAt, last, notAlone⟩ := latest_of_find?_others found
      · exact reaches.onHeartbeat_eq loc later kept
      · refine absurd (apart rfl old member same ?_ ?_) notAlone
        · rw [oldAt]
          exact Ne.symm here
        · rw [oldAt]
          exact last

theorem Reaches.step (reaches : Reaches state) {call : Call} (apart : KeepsApart state call) :
    Reaches (RegistryCoordinator.step state call) := by
  match call with
  | .opening entry true => exact reaches.opened apart
  | .opening entry false => exact reaches
  | .close jobId => exact reaches.close apart
  | .heartbeat _ => exact reaches

/-- While jobs at one location are kept apart, heartbeats reach the job that was
opened last. -/
theorem reaches_of_keepsApart
    (reached : registry.ReachableWithin KeepsApart state) : Reaches state := by
  refine reached.invariant ?_ ?_
  · rintro state rfl
    refine ⟨fun _ => rfl, fun loc entry found => ?_⟩
    cases found
  · rintro state call after reaches apart stepTo
    rw [← Option.some.inj stepTo]
    exact reaches.step apart

end Step

section Example

/-- A job at the first worker. -/
def jobAt (jobId : String) : ActiveJobEntry where
  jobId := jobId
  workerLoc := some "worker"

/-- The first job is closed before the second one is opened there. -/
theorem reaches_second : ∃ state, registry.ReachableWithin KeepsApart state ∧
      state.latest "worker" = some (jobAt "second") ∧ Reaches state := by
  have ran : ∃ state, registry.ReachableWithin KeepsApart state ∧
      state.latest "worker" = some (jobAt "second") :=
    TransitionSystem.exists_reachableWithin_of_checkedRun { } rfl
      [.opening (jobAt "first") true, .heartbeat "worker", .close "first",
        .opening (jobAt "second") true] (by decide)
  obtain ⟨state, reached, last⟩ := ran
  exact ⟨state, reached, last, reaches_of_keepsApart reached⟩

/-- The second job is opened before the first one is closed. -/
theorem exists_heartbeat_lost : ∃ state, registry.Reachable state ∧ ¬ Reaches state := by
  have reached := TransitionSystem.Reachable.of_run
    (@TransitionSystem.ReachableWithin.start _ _ registry _ { } rfl)
    [.opening (jobAt "first") true, .opening (jobAt "second") true, .close "first"] rfl
  refine ⟨_, reached, fun reaches => ?_⟩
  have lost := reaches.onHeartbeat_eq "worker" (jobAt "second") (by decide)
  exact absurd lost (by decide)

end Example

end RegistryCoordinator

end RoxabiFactory
