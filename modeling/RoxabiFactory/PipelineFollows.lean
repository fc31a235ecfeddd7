import RoxabiFactory.PullRequestEvents
import RoxabiFactory.TransitionSystem

/-!
# A pipeline row and its pull request

The row of a pull request is changed by the events of GitHub and by the
reports of the fleet.  A run keeps, beside the store, what every step did to
the row of one pull request.
-/

namespace RoxabiFactory

namespace PipelineStore

open Ingress

/-! ## The store with the times of its rows -/

/-- `last_event_at` and `updated_at` are always set together. -/
structure TimedStore where
  projection : Projection
  lastEventAt : RunKey → Option ℕ

namespace TimedStore

variable (store : TimedStore)

/-- A change of a row ends in `_touch`. -/
def write (now : ℕ) (store : TimedStore) : Write → TimedStore
  | .run key row =>
    { projection := store.projection.apply (.run key row)
      lastEventAt := fun other =>
        if other = key then some now else store.lastEventAt other }
  | change => { store with projection := store.projection.apply change }

/-- An event of GitHub is summarised and applied. -/
def applyEvent (lib : Library) (now : ℕ) (eventName : String) (payload : Members) : TimedStore :=
  match githubEventKind eventName payload, summarizeGithubPayload payload with
  | .text kind, .ok summary =>
    ((applyGithubEvent lib store.projection kind summary).toOption.getD []).foldl (write now) store
  | _, _ => store

end TimedStore

/-! ## The deployment stage -/

/-- One of the reports on the containers. -/
structure FleetRow where
  name : String
  revision : Option PyStr
  status : String
  age : Option ℚ

def m1DeployQuorum : List String :=
  ["factory-hub", "factory-telegram", "factory-discord", "factory-dashboard", "factory-clipool"]

/-- Every container of the quorum runs the revision; of two reports with one
name the last one counts. -/
def atQuorum (fleet : List FleetRow) (target : PyStr) : Bool := m1DeployQuorum.all fun name =>
    (fleet.reverse.find? fun report => decide (report.name = name)).any
      fun report =>
        decide (report.status = "ok") &&
          decide (report.revision = some target) &&
          report.age.all fun age => decide (age < 90)

/-- The commit of a merged and published run. -/
def publishedSha (row : PipelineRunRow) : Option PyStr :=
  if row.isOpen ∨ row.mergeStatus ≠ .success ∨ row.publishStatus ≠ .success then
    none
  else row.publishSha.filter (· ≠ .text "")

def m1Outcome (fleet : List FleetRow) (target : PyStr) : PipelineStageStatus :=
  if atQuorum fleet target then .success else .pending

def recomputeRow (fleet : List FleetRow) (row : PipelineRunRow) :
    PipelineRunRow :=
  match publishedSha row with
  | none => row
  | some target => { row with m1DeployStatus := m1Outcome fleet target }

theorem nodupKeys_map (change : PipelineRunRow → PipelineRunRow) (runs : Runs) :
    (runs.entries.map fun entry =>
      (⟨entry.1, change entry.2⟩ : Σ _ : RunKey, PipelineRunRow)).NodupKeys := by
  have sameKeys : (runs.entries.map fun entry =>
      (⟨entry.1, change entry.2⟩ : Σ _ : RunKey, PipelineRunRow)).keys =
      runs.entries.keys := Multiset.map_map _ _ _
  rw [← Multiset.nodup_keys, sameKeys, Multiset.nodup_keys]
  exact runs.nodupKeys

def mapRows (change : PipelineRunRow → PipelineRunRow) (runs : Runs) : Runs where
  entries := runs.entries.map fun entry => ⟨entry.1, change entry.2⟩
  nodupKeys := nodupKeys_map change runs

theorem lookup_mapRows (change : PipelineRunRow → PipelineRunRow) (runs : Runs) (key : RunKey) :
    (mapRows change runs).lookup key = (runs.lookup key).map change := by
  apply Option.ext
  intro row
  rw [← Option.mem_def, ← Option.mem_def, Finmap.mem_lookup_iff, Option.mem_map]
  unfold mapRows
  rw [Multiset.mem_map]
  constructor
  · rintro ⟨⟨other, stored⟩, present, same⟩
    cases same
    exact ⟨stored, Finmap.mem_lookup_iff.2 present, rfl⟩
  · rintro ⟨stored, present, rfl⟩
    exact ⟨⟨key, stored⟩, Finmap.mem_lookup_iff.1 present, rfl⟩

/-- `recompute_m1_from_fleet`. -/
def TimedStore.recomputeM1FromFleet (store : TimedStore) (now : ℕ)
    (fleet : List FleetRow) : TimedStore where
  projection := { store.projection with
    runs := mapRows (recomputeRow fleet) store.projection.runs }
  lastEventAt key :=
    if ((store.projection.runs.lookup key).bind publishedSha).isSome then some now
    else store.lastEventAt key

/-! ## Runs -/

inductive PipelineAction
  | pullRequest (event : PullRequestEvent) (now : ℕ)
  | checkRun (payload : Members) (now : ℕ)
  | workflowRun (payload : Members) (now : ℕ)
  | recompute (fleet : List FleetRow) (now : ℕ)

namespace TimedStore

def perform (lib : Library) (store : TimedStore) : PipelineAction → TimedStore
  | .pullRequest event now =>
    store.applyEvent lib now "pull_request" event.payload
  | .checkRun payload now => store.applyEvent lib now "check_run" payload
  | .workflowRun payload now => store.applyEvent lib now "workflow_run" payload
  | .recompute fleet now => store.recomputeM1FromFleet now fleet

/-- The row of a pull request. -/
def row (store : TimedStore) (key : RunKey) : Option PipelineRunRow :=
  store.projection.runs.lookup key

end TimedStore

/-- What an action did to the row of one pull request. -/
structure RowChange where
  action : PipelineAction
  before : Option PipelineRunRow
  timeBefore : Option ℕ
  after : Option PipelineRunRow
  timeAfter : Option ℕ

/-- The changes are from the last to the first. -/
structure PipelineRun where
  store : TimedStore
  changes : List RowChange

section System

variable (lib : Library) (key : RunKey)

def followSystem : TransitionSystem PipelineRun PipelineAction where
  initial run := run.store.row key = none ∧ run.store.lastEventAt key = none ∧ run.changes = []
  step run action :=
    let after := run.store.perform lib action
    some
      { store := after
        changes :=
          { action := action
            before := run.store.row key
            timeBefore := run.store.lastEventAt key
            after := after.row key
            timeAfter := after.lastEventAt key } :: run.changes }

end System

/-- The event of a change, if it is about the pull request. -/
def RowChange.event? (key : RunKey) (change : RowChange) : Option PullRequestEvent :=
  match change.action with
  | .pullRequest event _ => if event.key = key then some event else none
  | _ => none

namespace PipelineRun

variable (key : RunKey) (run : PipelineRun)

/-- The latest event leaves the label `reviewed` on the pull request. -/
def labelled : Bool := (run.changes.findSome? (RowChange.event? key)).any
    PullRequestEvent.leavesReviewed

/-- What the latest of the actions `opened`, `reopened` and `closed` says. -/
def toldOpen : Option Bool := run.changes.findSome? fun change =>
    (change.event? key).bind PullRequestEvent.opens

end PipelineRun

/-- A closed run is still closed, with its publish and deploy stages. -/
def StaysClosed (before after : Option PipelineRunRow) : Prop :=
  ∀ row ∈ before, row.isOpen = false → ∃ later ∈ after, later.isOpen = false ∧
      later.publishStatus = row.publishStatus ∧
      later.m1DeployStatus = row.m1DeployStatus ∧
      later.cfDeployStatus = row.cfDeployStatus

/-- An event that neither opens nor closes the pull request leaves a closed
row closed, and a deployment stage that is recomputed without a change leaves
the row and its time. -/
def RowChange.Kept (key : RunKey) (change : RowChange) : Prop :=
  match change.action with
  | .pullRequest event _ => event.key = key → event.opens = none →
      StaysClosed change.before change.after
  | .checkRun _ _ => StaysClosed change.before change.after
  | .workflowRun _ _ => True
  | .recompute _ _ =>
    change.after.map PipelineRunRow.m1DeployStatus =
      change.before.map PipelineRunRow.m1DeployStatus →
    change.after = change.before ∧ change.timeAfter = change.timeBefore

/-- The row follows its pull request. -/
structure Follows (key : RunKey) (run : PipelineRun) : Prop where
  reviewed : ∀ row ∈ run.store.row key, row.reviewed = run.labelled key
  isOpen : ∀ told ∈ run.toldOpen key, ∃ row ∈ run.store.row key, row.isOpen = told
  kept : ∀ change ∈ run.changes, change.Kept key

/-- An event never takes the label off a reviewed row, only `opened`,
`reopened` and `closed` come for a closed row, and a deployment stage is
recomputed only where its outcome changes or the clock has not moved. -/
def Fits (key : RunKey) (run : PipelineRun) : PipelineAction → Prop
  | .pullRequest event _ => event.key = key → ∀ row ∈ run.store.row key,
        (row.reviewed = true → event.leavesReviewed = true) ∧
          (event.opens = none → row.isOpen = true)
  | .recompute fleet now =>
    ∀ row ∈ run.store.row key, ∀ target ∈ publishedSha row,
      m1Outcome fleet target = row.m1DeployStatus → run.store.lastEventAt key = some now
  | _ => True

/-! ## What an action does to a row -/

/-- The label and the openness of a row stay as they are; a new row has no
label. -/
structure Undisturbed (before after : Option PipelineRunRow) : Prop where
  reviewed : after.any PipelineRunRow.reviewed = before.any PipelineRunRow.reviewed
  isOpen : ∀ row ∈ before, ∃ later ∈ after, later.isOpen = row.isOpen

theorem Undisturbed.refl (row : Option PipelineRunRow) : Undisturbed row row :=
  ⟨rfl, fun stored present => ⟨stored, present, rfl⟩⟩

/-- A check may make a row, and changes nothing else of it that is kept
here. -/
structure OnlyChecks (before after : Option PipelineRunRow) : Prop where
  reviewed : after.any PipelineRunRow.reviewed = before.any PipelineRunRow.reviewed
  stages : ∀ row ∈ before, ∃ later ∈ after, later.isOpen = row.isOpen ∧
    later.publishStatus = row.publishStatus ∧
    later.m1DeployStatus = row.m1DeployStatus ∧
    later.cfDeployStatus = row.cfDeployStatus

namespace OnlyChecks

theorem refl (row : Option PipelineRunRow) : OnlyChecks row row :=
  ⟨rfl, fun stored present => ⟨stored, present, rfl, rfl, rfl, rfl⟩⟩

theorem trans {before middle after : Option PipelineRunRow}
    (first : OnlyChecks before middle) (second : OnlyChecks middle after) :
    OnlyChecks before after := by
  refine ⟨second.reviewed.trans first.reviewed, ?_⟩
  intro row present
  obtain ⟨middleRow, isMiddle, sameOpen, samePublish, sameM1, sameCf⟩ :=
    first.stages row present
  obtain ⟨later, isLater, open', publish', m1', cf'⟩ := second.stages middleRow isMiddle
  exact ⟨later, isLater, open'.trans sameOpen, publish'.trans samePublish,
    m1'.trans sameM1, cf'.trans sameCf⟩

theorem undisturbed {before after : Option PipelineRunRow}
    (only : OnlyChecks before after) : Undisturbed before after := by
  refine ⟨only.reviewed, ?_⟩
  intro row present
  obtain ⟨later, isLater, same, -⟩ := only.stages row present
  exact ⟨later, isLater, same⟩

theorem staysClosed {before after : Option PipelineRunRow}
    (only : OnlyChecks before after) : StaysClosed before after := by
  intro row present closed
  obtain ⟨later, isLater, same, stages⟩ := only.stages row present
  exact ⟨later, isLater, same.trans closed, stages⟩

end OnlyChecks

namespace TimedStore

variable (store : TimedStore) (now : ℕ) (key : RunKey)

theorem row_write_run (other : RunKey) (row : PipelineRunRow) :
    (store.write now (.run other row)).row key =
      if key = other then some row else store.row key := by
  unfold TimedStore.row write Projection.apply Projection.withRun
  dsimp only
  by_cases same : key = other
  · rw [if_pos same, same, Finmap.lookup_insert]
  · rw [if_neg same, Finmap.lookup_insert_of_ne _ same]

theorem row_write_of_ne {other : RunKey} (different : key ≠ other) (row : PipelineRunRow) :
    (store.write now (.run other row)).row key = store.row key :=
  (store.row_write_run now key other row).trans (if_neg different)

theorem row_write_self (row : PipelineRunRow) :
    (store.write now (.run key row)).row key = some row :=
  (store.row_write_run now key key row).trans (if_pos rfl)

end TimedStore

section Actions

variable (lib : Library) (store : TimedStore) (now : ℕ) (key : RunKey)

theorem exists_row_applyEvent (event : PullRequestEvent) :
    ∃ after, (store.applyEvent lib now "pull_request" event.payload).row event.key = some after ∧
      after.reviewed = (event.leavesReviewed || (store.row event.key).any PipelineRunRow.reviewed) ∧
      after.isOpen = !decide (event.action = "closed") := by
  obtain ⟨summary, summarises, summarised⟩ := event.exists_summary
  obtain ⟨upserted, after, applied, reviewed, isOpen⟩ :=
    exists_applyGithubEvent_pullRequest lib store.projection summarised
  refine ⟨after, ?_, reviewed, isOpen⟩
  unfold TimedStore.applyEvent
  rw [githubEventKind_pullRequest, summarises]
  dsimp only
  rw [applied]
  exact TimedStore.row_write_self _ now event.key after

theorem applyEvent_of_ne (event : PullRequestEvent) (other : event.key ≠ key) :
    (store.applyEvent lib now "pull_request" event.payload).row key =
      store.row key := by
  obtain ⟨summary, summarises, summarised⟩ := event.exists_summary
  obtain ⟨upserted, after, applied, -, -⟩ :=
    exists_applyGithubEvent_pullRequest lib store.projection summarised
  unfold TimedStore.applyEvent
  rw [githubEventKind_pullRequest, summarises]
  dsimp only
  rw [applied]
  dsimp only [Except.toOption, Option.getD_some, List.foldl_cons, List.foldl_nil]
  rw [TimedStore.row_write_of_ne _ now key other.symm,
    TimedStore.row_write_of_ne _ now key other.symm]

theorem exists_append_of_githubEventKind {eventName kind : String} {payload : Members}
    (plain : PyStr.replaceChars ['-'] '_' (.text (PythonStr.strip eventName)) = .text eventName)
    (isKind : githubEventKind eventName payload = .text kind) :
    ∃ ending, kind = eventName ++ ending := by
  have noAction : PyStr.text eventName = .text kind → ∃ ending, kind = eventName ++ ending := by
    intro same
    exact ⟨"", by rw [String.append_empty, PyStr.text.inj same]⟩
  unfold githubEventKind at isKind
  rw [plain] at isKind
  dsimp only at isKind
  split at isKind
  · rename_i action _
    split at isKind
    · exact noAction isKind
    · cases action with
      | text characters =>
        refine ⟨"." ++ characters, ?_⟩
        rw [← String.append_assoc]
        exact (PyStr.text.inj isKind).symm
      | loneSurrogate codePoints => cases isKind
  · exact noAction isKind

theorem onlyChecks_checkRunWrites (repo name : PyStr)
    (check : PipelineCheckRow) (prNumbers : List ℤ) :
    OnlyChecks (store.row key) (((checkRunWrites store.projection repo name check prNumbers).foldl
        (TimedStore.write now) store).row key) := by
  induction prNumbers generalizing store with
  | nil => exact .refl _
  | cons prNumber prNumbers ih =>
    unfold checkRunWrites
    dsimp only
    rw [List.foldl_append, List.foldl_cons]
    set other : RunKey := (repo, prNumber)
    set stored := store.projection.runs.lookup other with isStored
    set row := stored.getD (upsertPr none prNumber ⟨.text "", none, none, none, true⟩) with isRow
    set after : PipelineRunRow :=
      { row with
        checks := row.checks.insert name check
        ciStatus := worstCi (row.checks.insert name check) } with isAfter
    set first := List.foldl (TimedStore.write now) store
      (if stored.isSome = true then [] else [.run other row]) with isFirst
    have written : (first.write now (.run other after)).projection =
        store.projection.withRun other after := by
      rw [isFirst]
      split
      · rfl
      · change (store.projection.withRun other row).withRun other after = _
        unfold Projection.withRun
        rw [Finmap.insert_insert]
    have rowAfter : (first.write now (.run other after)).row key =
        if key = other then some after else store.row key := by
      unfold TimedStore.row
      rw [written]
      exact (store.row_write_run now key other after)
    rw [← written]
    apply OnlyChecks.trans _ (ih _)
    rw [rowAfter]
    by_cases same : key = other
    · rw [if_pos same, same]
      change OnlyChecks stored (some after)
      cases hasRow : stored with
      | none =>
        rw [hasRow] at isRow
        refine ⟨?_, fun _ none => by cases none⟩
        rw [Option.any_some, isAfter, isRow]
        rfl
      | some found =>
        rw [hasRow] at isRow
        have sameRow : row = found := isRow
        rw [isAfter, sameRow]
        exact ⟨rfl, fun other present =>
          ⟨_, rfl, by cases present; exact ⟨rfl, rfl, rfl, rfl⟩⟩⟩
    · rw [if_neg same]
      exact .refl _

theorem applyEvent_cases (eventName : String) (payload : Members) :
    store.applyEvent lib now eventName payload = store ∨ ∃ kind summary writes,
        githubEventKind eventName payload = .text kind ∧
          applyGithubEvent lib store.projection kind summary = .ok writes ∧
          store.applyEvent lib now eventName payload =
            writes.foldl (TimedStore.write now) store := by
  unfold TimedStore.applyEvent
  split
  · rename_i kind summary isKind summarised
    cases applied : applyGithubEvent lib store.projection kind summary with
    | error raised => exact .inl rfl
    | ok writes => exact .inr ⟨kind, summary, writes, isKind, applied, rfl⟩
  · exact .inl rfl

theorem onlyChecks_applyCheckRun (repo : PyStr) (summary : Members) {writes : List Write}
    (applied : applyCheckRun lib store.projection repo summary = .ok writes) :
    OnlyChecks (store.row key) ((writes.foldl (TimedStore.write now) store).row key) := by
  unfold applyCheckRun at applied
  split at applied
  · cases applied
    exact .refl _
  · obtain ⟨prNumbers, -, applied⟩ := Py.bind_eq_ok.1 applied
    split at applied
    · cases applied
      exact .refl _
    · obtain ⟨name, -, applied⟩ := Py.bind_eq_ok.1 applied
      obtain ⟨status, -, applied⟩ := Py.bind_eq_ok.1 applied
      cases applied
      exact onlyChecks_checkRunWrites store now key repo name _ prNumbers

theorem onlyChecks_applyEvent (payload : Members) : OnlyChecks (store.row key)
      ((store.applyEvent lib now "check_run" payload).row key) := by
  rcases applyEvent_cases lib store now "check_run" payload with
    same | ⟨kind, summary, writes, isKind, applied, written⟩
  · rw [same]
    exact .refl _
  · obtain ⟨ending, rfl⟩ := exists_append_of_githubEventKind (by decide +kernel) isKind
    rw [written]
    unfold applyGithubEvent at applied
    obtain ⟨repo, -, applied⟩ := Py.bind_eq_ok.1 applied
    obtain ⟨action, -, applied⟩ := Py.bind_eq_ok.1 applied
    have notPullRequest : PythonStr.startsWith ("check_run" ++ ending) "pull_request." = false := by
      unfold PythonStr.startsWith
      rw [String.toList_append]
      rfl
    have notWorkflow : PythonStr.startsWith ("check_run" ++ ending) "workflow_run." = false := by
      unfold PythonStr.startsWith
      rw [String.toList_append]
      rfl
    rw [notPullRequest, notWorkflow] at applied
    simp only [Bool.false_eq_true, if_false] at applied
    split at applied
    · exact onlyChecks_applyCheckRun lib store now key repo summary applied
    · cases applied
      exact .refl _

theorem lookup_of_activePendingRow
    {stage : PipelineRunRow → PipelineStageStatus} {runs : Runs} {repo : PyStr}
    {found : RunKey × PipelineRunRow}
    (active : activePendingRow stage runs repo = some found) :
    runs.lookup found.1 = some found.2 := by
  unfold activePendingRow at active
  dsimp only at active
  split at active
  · obtain ⟨row, present, rfl⟩ := Option.map_eq_some_iff.1 active
    exact present
  · cases active

theorem undisturbed_write {other : RunKey} {row after : PipelineRunRow}
    (present : store.row other = some row)
    (reviewed : after.reviewed = row.reviewed)
    (isOpen : after.isOpen = row.isOpen) :
    Undisturbed (store.row key) ((store.write now (.run other after)).row key) := by
  rw [TimedStore.row_write_run]
  by_cases same : key = other
  · rw [if_pos same, same, present]
    refine ⟨reviewed, ?_⟩
    rintro stored ⟨⟩
    exact ⟨after, rfl, isOpen⟩
  · rw [if_neg same]
    exact .refl _

theorem undisturbed_applyWorkflowRun (repo : PyStr) (summary : Members) {writes : List Write}
    (applied :
      applyWorkflowRun lib store.projection repo summary = .ok writes) :
    Undisturbed (store.row key) ((writes.foldl (TimedStore.write now) store).row key) := by
  unfold applyWorkflowRun at applied
  split at applied
  · cases applied
    exact .refl _
  · obtain ⟨name, -, applied⟩ := Py.bind_eq_ok.1 applied
    split at applied
    · cases applied
      exact .refl _
    · obtain ⟨conclusion, -, applied⟩ := Py.bind_eq_ok.1 applied
      split at applied
      · cases applied
        exact .refl _
      · dsimp only at applied
        set headSha := strOrNone _
        set published : List Write :=
          if decide (conclusion = .text "success") = true then
            (headSha.map Write.lastPublishSha).toList
          else [] with isPublished
        have sameRows : (published.foldl (TimedStore.write now)
            store).projection.runs = store.projection.runs := by
          rw [isPublished]
          split
          · cases headSha <;> rfl
          · rfl
        have sameRow : ∀ other, (published.foldl (TimedStore.write now)
            store).row other = store.row other := by
          intro other
          unfold TimedStore.row
          rw [sameRows]
        split at applied
        · rw [← Except.ok.inj applied, sameRow]
          exact .refl _
        · rename_i other row active
          rw [← Except.ok.inj applied, List.foldl_append, List.foldl_cons, List.foldl_nil,
            ← sameRow key]
          have present : (published.foldl (TimedStore.write now) store).row other = some row := by
            rw [sameRow]
            exact lookup_of_activePendingRow active
          exact undisturbed_write _ now key present rfl rfl

theorem undisturbed_applyEvent (payload : Members) : Undisturbed (store.row key)
      ((store.applyEvent lib now "workflow_run" payload).row key) := by
  rcases applyEvent_cases lib store now "workflow_run" payload with
    same | ⟨kind, summary, writes, isKind, applied, written⟩
  · rw [same]
    exact .refl _
  · obtain ⟨ending, rfl⟩ := exists_append_of_githubEventKind (by decide +kernel) isKind
    rw [written]
    unfold applyGithubEvent at applied
    obtain ⟨repo, -, applied⟩ := Py.bind_eq_ok.1 applied
    obtain ⟨action, -, applied⟩ := Py.bind_eq_ok.1 applied
    have notPullRequest : PythonStr.startsWith ("workflow_run" ++ ending)
        "pull_request." = false := by
      unfold PythonStr.startsWith
      rw [String.toList_append]
      rfl
    have notCheck : PythonStr.startsWith ("workflow_run" ++ ending) "check_run." = false := by
      unfold PythonStr.startsWith
      rw [String.toList_append]
      rfl
    rw [notPullRequest, notCheck] at applied
    simp only [Bool.false_eq_true, if_false] at applied
    split at applied
    · exact undisturbed_applyWorkflowRun lib store now key repo summary applied
    · cases applied
      exact .refl _

theorem row_recompute (fleet : List FleetRow) : (store.recomputeM1FromFleet now fleet).row key =
      (store.row key).map (recomputeRow fleet) :=
  lookup_mapRows (recomputeRow fleet) store.projection.runs key

theorem recomputeRow_eq (fleet : List FleetRow) (row : PipelineRunRow) :
    ∃ stage, recomputeRow fleet row = { row with m1DeployStatus := stage } := by
  unfold recomputeRow
  split
  · exact ⟨row.m1DeployStatus, rfl⟩
  · exact ⟨_, rfl⟩

theorem undisturbed_recompute (fleet : List FleetRow) : Undisturbed (store.row key)
      ((store.recomputeM1FromFleet now fleet).row key) := by
  rw [row_recompute]
  cases store.row key with
  | none => exact .refl none
  | some row =>
    obtain ⟨stage, recomputed⟩ := recomputeRow_eq fleet row
    rw [Option.map_some, recomputed]
    refine ⟨rfl, ?_⟩
    rintro stored ⟨⟩
    exact ⟨_, rfl, rfl⟩

end Actions

/-! ## The row follows -/

/-- A row that is not there has no label. -/
structure Sound (key : RunKey) (run : PipelineRun) : Prop where
  reviewed : (run.store.row key).any PipelineRunRow.reviewed = run.labelled key
  isOpen : ∀ told ∈ run.toldOpen key, ∃ row ∈ run.store.row key, row.isOpen = told
  kept : ∀ change ∈ run.changes, change.Kept key

namespace Sound

variable {lib : Library} {key : RunKey} {run after : PipelineRun}

theorem follows (sound : Sound key run) : Follows key run := by
  refine ⟨?_, sound.isOpen, sound.kept⟩
  intro row present
  rw [← sound.reviewed, present, Option.any_some]

theorem undisturbed (sound : Sound key run) {change : RowChange}
    {store : TimedStore} (noEvent : change.event? key = none)
    (keeps : Undisturbed (run.store.row key) (store.row key))
    (kept : change.Kept key) :
    Sound key ⟨store, change :: run.changes⟩ := by
  constructor
  · rw [keeps.reviewed, sound.reviewed]
    unfold PipelineRun.labelled
    rw [List.findSome?_cons, noEvent]
  · intro told tells
    unfold PipelineRun.toldOpen at tells
    rw [List.findSome?_cons, noEvent] at tells
    obtain ⟨row, present, same⟩ := sound.isOpen told tells
    obtain ⟨later, isLater, sameOpen⟩ := keeps.isOpen row present
    exact ⟨later, isLater, sameOpen.trans same⟩
  · intro other member
    rcases List.mem_cons.1 member with rfl | before
    · exact kept
    · exact sound.kept other before

theorem opens_eq {event : PullRequestEvent} {told : Bool} (tells : event.opens = some told) :
    (!decide (event.action = "closed")) = told := by
  unfold PullRequestEvent.opens at tells
  split at tells
  · rename_i opened
    cases tells
    have notClosed : event.action ≠ "closed" := by
      rcases opened with opened | reopened
      · rw [opened]
        decide
      · rw [reopened]
        decide
    rw [decide_eq_false notClosed]
    rfl
  · split at tells
    · rename_i closed
      cases tells
      rw [decide_eq_true closed]
      rfl
    · cases tells

theorem not_closed_of_opens {event : PullRequestEvent}
    (tells : event.opens = none) : event.action ≠ "closed" := by
  intro closed
  unfold PullRequestEvent.opens at tells
  rw [closed] at tells
  revert tells
  decide

theorem event?_eq {change : RowChange} {event : PullRequestEvent} {now : ℕ}
    (isEvent : change.action = .pullRequest event now) :
    change.event? event.key = some event := by
  unfold RowChange.event?
  rw [isEvent]
  exact if_pos rfl

theorem pullRequest (sound : Sound key run) {event : PullRequestEvent}
    {now : ℕ} (fits : Fits key run (.pullRequest event now))
    (step : (followSystem lib key).step run (.pullRequest event now) = some after) :
    Sound key after := by
  cases step
  by_cases same : event.key = key
  · subst same
    have fitsRow := fits rfl
    obtain ⟨row, present, reviewed, isOpen⟩ :=
      exists_row_applyEvent lib run.store now event
    have presentAfter : (run.store.perform lib
        (.pullRequest event now)).row event.key = some row := present
    constructor
    · unfold PipelineRun.labelled
      rw [presentAfter, Option.any_some, reviewed, List.findSome?_cons, event?_eq rfl]
      dsimp only [Option.any_some]
      cases before : run.store.row event.key with
      | none => rw [Option.any_none, Bool.or_false]
      | some stored =>
        rw [Option.any_some, Bool.or_eq_left_iff_imp]
        exact (fitsRow stored before).1
    · intro told tells
      unfold PipelineRun.toldOpen at tells
      rw [List.findSome?_cons, event?_eq rfl] at tells
      dsimp only [Option.bind_some] at tells
      refine ⟨row, presentAfter, ?_⟩
      rw [isOpen]
      cases opens : event.opens with
      | some value =>
        rw [opens] at tells
        cases tells
        exact opens_eq opens
      | none =>
        -- The row has been open, and stays open.
        rw [opens] at tells
        obtain ⟨stored, before, told'⟩ := sound.isOpen told tells
        rw [← told', (fitsRow stored before).2 opens,
          decide_eq_false (not_closed_of_opens opens)]
        rfl
    · intro change member
      rcases List.mem_cons.1 member with rfl | before
      · intro _ opens stored before closed
        rw [(fitsRow stored before).2 opens] at closed
        cases closed
      · exact sound.kept change before
  · apply sound.undisturbed
    · exact if_neg same
    · change Undisturbed _ ((run.store.applyEvent lib now "pull_request" event.payload).row key)
      rw [applyEvent_of_ne lib run.store now key event same]
      exact .refl _
    · intro isKey
      exact absurd isKey same

theorem recompute (sound : Sound key run) {fleet : List FleetRow}
    {now : ℕ} (fits : Fits key run (.recompute fleet now))
    (step : (followSystem lib key).step run (.recompute fleet now) = some after) :
    Sound key after := by
  cases step
  apply sound.undisturbed
  · rfl
  · exact undisturbed_recompute run.store now key fleet
  · intro sameStage
    change (run.store.recomputeM1FromFleet now fleet).row key = run.store.row key ∧
      (run.store.recomputeM1FromFleet now fleet).lastEventAt key = run.store.lastEventAt key
    change ((run.store.recomputeM1FromFleet now fleet).row key).map
      PipelineRunRow.m1DeployStatus = (run.store.row key).map
        PipelineRunRow.m1DeployStatus at sameStage
    have time : (run.store.recomputeM1FromFleet now fleet).lastEventAt key =
        if ((run.store.row key).bind publishedSha).isSome then some now
        else run.store.lastEventAt key := rfl
    rw [row_recompute] at sameStage ⊢
    rw [time]
    cases present : run.store.row key with
    | none => exact ⟨rfl, rfl⟩
    | some row =>
      rw [present, Option.map_some, Option.map_some, Option.map_some,
        Option.some.injEq] at sameStage
      rw [Option.map_some, Option.bind_some, Option.some.injEq]
      unfold recomputeRow at sameStage ⊢
      cases published : publishedSha row with
      | none => exact ⟨rfl, rfl⟩
      | some target =>
        rw [published] at sameStage
        dsimp only at sameStage ⊢
        constructor
        · rw [sameStage]
        · rw [fits row present target published sameStage]
          rfl

theorem step (sound : Sound key run) {action : PipelineAction} (fits : Fits key run action)
    (step : (followSystem lib key).step run action = some after) :
    Sound key after := by
  cases action with
  | pullRequest event now => exact sound.pullRequest fits step
  | checkRun payload now =>
    have only := onlyChecks_applyEvent lib run.store now key payload
    cases step
    exact sound.undisturbed rfl only.undisturbed only.staysClosed
  | workflowRun payload now =>
    have keeps := undisturbed_applyEvent lib run.store now key payload
    cases step
    exact sound.undisturbed rfl keeps trivial
  | recompute fleet now => exact sound.recompute fits step

end Sound

/-- In a run whose steps all fit, the row follows its pull request. -/
theorem follows_of_reachableWithin (lib : Library) (key : RunKey) (run : PipelineRun)
    (reached : (followSystem lib key).ReachableWithin (Fits key) run) :
    Follows key run := by
  apply Sound.follows
  apply reached.invariant
  · rintro start ⟨noRow, -, noChanges⟩
    constructor
    · rw [noRow]
      unfold PipelineRun.labelled
      rw [noChanges]
      rfl
    · intro told tells
      unfold PipelineRun.toldOpen at tells
      rw [noChanges] at tells
      cases tells
    · intro change member
      rw [noChanges] at member
      cases member
  · intro before action after sound fits step
    exact sound.step fits step

section Example

def followLibrary : Library where
  str _ := .error .recursionError
  int _ := .error .valueError
  projectsJson := none

def exampleKey : RunKey := (defaultRepo, 42)

def exampleNode (labels : List String) : Members :=
  [(.text "number", .int 42), (.text "merged", .bool true),
    (.text "labels", .arr (labels.map fun name =>
      .obj [(.text "name", .ofString name)]))]

def examplePayload (action : String) (labels : List String) : Members :=
  [(.text "action", .ofString action),
    (.text "repository", .obj [(.text "full_name", .str defaultRepo)]),
    (.text "pull_request", .obj (exampleNode labels)),
    (.text "label", .obj [(.text "name", .ofString "reviewed")])]

theorem defaultRepo_ne_empty : defaultRepo ≠ .text "" := by
  decide

/-- An event of the pull request 42. -/
def exampleEvent (action : String) (named : action ≠ "")
    (labels : List String) : PullRequestEvent where
  payload := examplePayload action labels
  action := action
  repo := defaultRepo
  prNumber := 42
  repository := [(.text "full_name", .str defaultRepo)]
  pullRequest := exampleNode labels
  action_ne_empty := named
  repo_ne_empty := defaultRepo_ne_empty
  get_action := rfl
  asDict_repository := rfl
  get_fullName := rfl
  asDict_pullRequest := rfl
  get_number := rfl
  get_title := .inl rfl

theorem opened_ne_empty : "opened" ≠ "" := by
  decide

theorem unlabeled_ne_empty : "unlabeled" ≠ "" := by
  decide

theorem closed_ne_empty : "closed" ≠ "" := by
  decide

theorem edited_ne_empty : "edited" ≠ "" := by
  decide

def publishPayload : Members := [(.text "action", .ofString "completed"),
    (.text "repository", .obj [(.text "full_name", .str defaultRepo)]),
    (.text "workflow_run", .obj [(.text "name", .ofString "publish"),
        (.text "conclusion", .ofString "success"),
        (.text "head_sha", .ofString "c0ffee")])]

/-- Nothing has happened yet. -/
def emptyRun : PipelineRun := ⟨⟨⟨∅, none⟩, fun _ => none⟩, []⟩

/-- The label is removed before the pull request is merged and published; the
deployment stage is recomputed, and the description is edited. -/
def forgettingActions : List PipelineAction :=
  [.pullRequest (exampleEvent "opened" opened_ne_empty ["reviewed"]) 1,
    .pullRequest (exampleEvent "unlabeled" unlabeled_ne_empty []) 2,
    .pullRequest (exampleEvent "closed" closed_ne_empty []) 3,
    .workflowRun publishPayload 4, .recompute [] 5,
    .pullRequest (exampleEvent "edited" edited_ne_empty []) 6]

/-- The change is a recomputation without a change of the stage that set the
time. -/
def onlyTouches (change : RowChange) : Bool :=
  match change.action with
  | .recompute _ _ =>
    decide (change.after.map PipelineRunRow.m1DeployStatus =
      change.before.map PipelineRunRow.m1DeployStatus) &&
      decide (change.timeAfter ≠ change.timeBefore)
  | _ => false

/-- The label, the openness and the time of the row are wrong in the end. -/
theorem exists_row_not_following : ∃ run, (followSystem followLibrary exampleKey).Reachable run ∧
      (¬ ∀ row ∈ run.store.row exampleKey, row.reviewed = run.labelled exampleKey) ∧
      (¬ ∀ told ∈ run.toldOpen exampleKey, ∃ row ∈ run.store.row exampleKey, row.isOpen = told) ∧
      ¬ ∀ change ∈ run.changes, change.Kept exampleKey := by
  have run : ∃ run, (followSystem followLibrary exampleKey).Reachable run ∧
      ((run.store.row exampleKey).any (·.reviewed) = true ∧
        (run.store.row exampleKey).any (·.isOpen) = true ∧
        run.labelled exampleKey = false ∧
        run.toldOpen exampleKey = some false ∧
        run.changes.any onlyTouches = true) :=
    TransitionSystem.exists_reachable_of_run emptyRun ⟨rfl, rfl, rfl⟩
      forgettingActions (by decide +kernel)
  obtain ⟨run, reached, reviewed, isOpen, unlabelled, told, touches⟩ := run
  obtain ⟨row, present, isReviewed⟩ := (Option.any_eq_true _ _).1 reviewed
  rw [present, Option.any_some] at isOpen
  refine ⟨run, reached, ?_, ?_, ?_⟩
  · intro follows
    rw [follows row present, unlabelled] at isReviewed
    cases isReviewed
  · intro follows
    obtain ⟨same, isRow, closed⟩ := follows false told
    rw [present] at isRow
    cases isRow
    rw [closed] at isOpen
    cases isOpen
  · intro kept
    obtain ⟨change, member, touched⟩ := List.any_eq_true.1 touches
    have keeps := kept change member
    unfold RowChange.Kept at keeps
    unfold onlyTouches at touched
    split at touched
    · rename_i isRecompute
      rw [isRecompute] at keeps
      rw [Bool.and_eq_true, decide_eq_true_eq, decide_eq_true_eq] at touched
      exact touched.2 (keeps touched.1).2
    · cases touched

instance (key : RunKey) : ∀ run action, Decidable (Fits key run action)
  | run, .pullRequest event _ =>
    inferInstanceAs (Decidable (event.key = key → ∀ row ∈ run.store.row key,
        (row.reviewed = true → event.leavesReviewed = true) ∧
          (event.opens = none → row.isOpen = true)))
  | run, .recompute fleet now =>
    inferInstanceAs (Decidable (∀ row ∈ run.store.row key, ∀ target ∈ publishedSha row,
        m1Outcome fleet target = row.m1DeployStatus → run.store.lastEventAt key = some now))
  | _, .checkRun _ _ => isTrue trivial
  | _, .workflowRun _ _ => isTrue trivial

/-- Every container of the quorum runs the published commit. -/
def deployedFleet : List FleetRow :=
  m1DeployQuorum.map fun name => ⟨name, some (.text "c0ffee"), "ok", some 12⟩

/-- The pull request is merged with its label, published and deployed. -/
def deployingActions : List PipelineAction :=
  [.pullRequest (exampleEvent "opened" opened_ne_empty []) 1,
    .pullRequest (exampleEvent "edited" edited_ne_empty ["reviewed"]) 2,
    .pullRequest (exampleEvent "closed" closed_ne_empty ["reviewed"]) 3,
    .workflowRun publishPayload 4, .recompute deployedFleet 5]

/-- A deployed row follows its pull request. -/
theorem exists_deployed_following : ∃ run, ((run.store.row exampleKey).map (·.m1DeployStatus) =
        some .success ∧
      run.toldOpen exampleKey = some false ∧
      run.labelled exampleKey = true) ∧ Follows exampleKey run := by
  have run : ∃ run, (followSystem followLibrary exampleKey).ReachableWithin (Fits exampleKey) run ∧
      ((run.store.row exampleKey).map (·.m1DeployStatus) = some .success ∧
        run.toldOpen exampleKey = some false ∧
        run.labelled exampleKey = true) :=
    TransitionSystem.exists_reachableWithin_of_checkedRun emptyRun
      ⟨rfl, rfl, rfl⟩ deployingActions (by decide +kernel)
  obtain ⟨run, reached, holds⟩ := run
  exact ⟨run, holds, follows_of_reachableWithin followLibrary exampleKey run reached⟩

end Example

end PipelineStore

end RoxabiFactory
