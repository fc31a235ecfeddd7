import RoxabiFactory.EventProjectionRuns
import RoxabiFactory.IngressEvents
import Mathlib.Data.Finmap
import Mathlib.Data.Finset.Max

/-!
# The pipeline store

The store projects events of GitHub, Cloudflare and hosts to the runs of pull
requests, in memory and in a database.  The times of the rows are left out, and
`int` and `str` of JSON values are parameters.
-/

namespace RoxabiFactory

namespace PipelineStore

open Ingress (Members asDict asList get)

inductive PipelineStageStatus
  | pending
  | running
  | success
  | failure
  | skipped
  | unknown
  | notApplicable
  deriving DecidableEq

/-- The name of a check is its key. -/
structure PipelineCheckRow where
  status : PyStr
  conclusion : Option PyStr
  deriving DecidableEq

abbrev Checks := Finmap fun _ : PyStr => PipelineCheckRow

/-- The repository and the number of a pull request. -/
abbrev RunKey := PyStr × ℤ

structure PipelineRunRow where
  title : PyStr
  headSha : Option PyStr
  headRef : Option PyStr
  htmlUrl : Option PyStr
  reviewed : Bool
  isOpen : Bool
  ciStatus : PipelineStageStatus
  mergeStatus : PipelineStageStatus
  publishStatus : PipelineStageStatus
  m1DeployStatus : PipelineStageStatus
  cfDeployStatus : PipelineStageStatus
  publishSha : Option PyStr
  checks : Checks
  deriving DecidableEq

abbrev Runs := Finmap fun _ : RunKey => PipelineRunRow

/-- What the store has of the runs. -/
structure Projection where
  runs : Runs
  lastPublishSha : Option PyStr
  deriving DecidableEq

def defaultRepo : PyStr := .text "Roxabi/roxabi-factory"

inductive Service
  | github
  | cloudflare
  | host

structure Event where
  service : Service
  kind : String
  payload : Members

/-- What the store uses of the standard library and of its environment. -/
structure Library where
  /-- `str(value)` of a value that is no string. -/
  str : Json → Py PyStr
  /-- `int(text)`. -/
  int : PyStr → Py ℤ
  /-- The JSON of `PIPELINE_CF_PAGES_PROJECTS_JSON`, if it is set. -/
  projectsJson : Option (Py Json)

/-! ## The helpers of `models.py` -/

/-- `str_or_none`. -/
def strOrNone : Json → Option PyStr
  | .str text => if text = .text "" then none else some text
  | _ => none

/-- `c.conclusion or c.status`. -/
def PipelineCheckRow.outcome (check : PipelineCheckRow) : PyStr :=
  (check.conclusion.filter (· ≠ .text "")).getD check.status

def isOneOf (names : List String) (text : PyStr) : Bool :=
  decide (text ∈ names.map PyStr.text)

def worstCi (checks : Checks) : PipelineStageStatus :=
  if checks = ∅ then .unknown
  else if checks.any fun _ check =>
      isOneOf ["failure", "cancelled"] check.outcome then .failure
  else if checks.any fun _ check =>
      isOneOf ["queued", "in_progress", "pending"] check.status then .running
  else if (checks.all fun _ check =>
      isOneOf ["success", "skipped", "neutral"] check.outcome) ||
      checks.all fun _ check =>
        isOneOf ["completed", "success"] check.status then .success
  else .unknown

/-- `pr_has_reviewed_label`. -/
def prHasReviewedLabel (labels : Json) : Bool := ((asList labels).getD []).any fun item =>
    item.isText "reviewed" || ((asDict item).any fun label =>
      (get label "name").isText "reviewed")

section Handlers

variable (lib : Library)

/-- `str(value)`. -/
def strOf : Json → Py PyStr
  | .str text => .ok text
  | value => lib.str value

/-- `int(value)`. -/
def intOf : Json → Py ℤ
  | .bool value => .ok (if value then 1 else 0)
  | .int value => .ok value
  | .float value =>
    .ok (if 0 ≤ value then value.floor else value.ceil)
  | .nonFinite name =>
    .error (if name = "NaN" then .valueError else .other "OverflowError")
  | .str text => lib.int text
  | _ => .error .typeError

/-! ## The writes -/

/-- What one commit of the store saves; the time of a convergence is left
out. -/
inductive Write
  | run (key : RunKey) (row : PipelineRunRow)
  | lastPublishSha (sha : PyStr)
  | lastConverge

namespace Projection

/-- `store._runs[key] = row`. -/
def withRun (projection : Projection) (key : RunKey) (row : PipelineRunRow) :
    Projection :=
  { projection with runs := projection.runs.insert key row }

def apply (projection : Projection) : Write → Projection
  | .run key row => projection.withRun key row
  | .lastPublishSha sha => { projection with lastPublishSha := some sha }
  | .lastConverge => projection

/-- The columns of a run are inserted, or updated; its checks are in a table of
their own. -/
def upsertColumns (projection : Projection) (key : RunKey) (row : PipelineRunRow) : Projection :=
  projection.withRun key
    { row with
      checks := ((projection.runs.lookup key).map fun stored =>
        stored.checks).getD ∅ }

def changeChecks (projection : Projection) (key : RunKey) (change : Checks → Checks) : Projection :=
  match projection.runs.lookup key with
  | none => projection
  | some row => projection.withRun key { row with checks := change row.checks }

def deleteChecks (projection : Projection) (key : RunKey) : Projection :=
  projection.changeChecks key fun _ => ∅

def insertChecks (projection : Projection) (key : RunKey) (checks : Checks) :
    Projection :=
  projection.changeChecks key (· ∪ checks)

/-- `PipelineDb.upsert_run`. -/
def upsertRun (projection : Projection) (key : RunKey) (row : PipelineRunRow) : Projection :=
  ((projection.upsertColumns key row).deleteChecks key).insertChecks key row.checks

def save (projection : Projection) : Write → Projection
  | .run key row => projection.upsertRun key row
  | .lastPublishSha sha => { projection with lastPublishSha := some sha }
  | .lastConverge => projection

end Projection

/-- How many statements of a commit have been carried out. -/
inductive SaveProgress
  | begun
  | upserted
  | deleted
  /-- Some checks have been inserted. -/
  | inserted (left : Checks)

def Projection.partway (projection : Projection) : Write → SaveProgress → Projection
  | _, .begun => projection
  | .run key row, .upserted => projection.upsertColumns key row
  | .run key row, .deleted =>
    (projection.upsertColumns key row).deleteChecks key
  | .run key row, .inserted left =>
    ((projection.upsertColumns key row).deleteChecks key).insertChecks key (row.checks \ left)
  | write, _ => projection.apply write

/-! ## `store.py`, `github_apply.py` and `correlation.py` -/

/-- The fields that `_upsert_pr` is called with. -/
structure PrFields where
  title : PyStr
  headSha : Option PyStr
  headRef : Option PyStr
  htmlUrl : Option PyStr
  isOpen : Bool

/-- `_upsert_pr`. -/
def upsertPr (stored : Option PipelineRunRow) (prNumber : ℤ) (fields : PrFields) : PipelineRunRow :=
  match stored with
  | none =>
    { title :=
        if fields.title = .text "" then
          .text ("PR #".append prNumber.repr)
        else fields.title
      headSha := fields.headSha
      headRef := fields.headRef
      htmlUrl := fields.htmlUrl
      reviewed := false
      isOpen := fields.isOpen
      ciStatus := .unknown
      mergeStatus := if fields.isOpen then .pending else .notApplicable
      publishStatus := if fields.isOpen then .notApplicable else .pending
      m1DeployStatus := if fields.isOpen then .notApplicable else .pending
      cfDeployStatus := if fields.isOpen then .notApplicable else .pending
      publishSha := none
      checks := ∅ }
  | some row =>
    let updated :=
      { row with
        title := if fields.title = .text "" then row.title else fields.title
        headSha := fields.headSha.orElse fun _ => row.headSha
        headRef := fields.headRef.orElse fun _ => row.headRef
        htmlUrl := fields.htmlUrl.orElse fun _ => row.htmlUrl
        isOpen := fields.isOpen }
    if fields.isOpen then
      { updated with
        mergeStatus := .pending
        publishStatus := .notApplicable
        m1DeployStatus := .notApplicable
        cfDeployStatus := .notApplicable }
    else updated

/-- The stages of a pull request that has been closed. -/
def closeRow (row : PipelineRunRow) (merged : Bool) : PipelineRunRow :=
  let later : PipelineStageStatus := if merged then .pending else .notApplicable
  { row with
    mergeStatus := if merged then .success else .skipped
    publishStatus := later
    m1DeployStatus := later
    cfDeployStatus := later }

/-- The event adds or removes the label `reviewed`. -/
def labelChange (payload : Members) (kind : String) : Option Bool :=
  (asDict (get payload "label")).bind fun label =>
    if (get label "name").isText "reviewed" then
      if kind = "pull_request.labeled" then some true
      else if kind = "pull_request.unlabeled" then some false
      else none
    else none

def applyPullRequest (projection : Projection) (repo action : PyStr)
    (payload : Members) (kind : String) : Py (List Write) :=
  match asDict (get payload "pull_request") with
  | none => return []
  | some pr =>
    if get pr "number" = .null then return []
    else do
      let prNumber ← intOf lib (get pr "number")
      let reviewed := (labelChange payload kind).getD (prHasReviewedLabel (get pr "labels"))
      let title ← strOf lib ((get pr "title").orElse (.ofString ""))
      let closed := decide (action = .text "closed")
      let key := (repo, prNumber)
      let upserted := upsertPr (projection.runs.lookup key) prNumber
        ⟨title, strOrNone (get pr "head_sha"), strOrNone (get pr "head_ref"),
          strOrNone (get pr "html_url"), !closed⟩
      let row := { upserted with reviewed := reviewed || upserted.reviewed }
      let after :=
        if closed then closeRow row (get pr "merged").truthy
        else if action = .text "synchronize" ∧ row.headSha.isSome then
          { row with ciStatus := .running }
        else row
      return [.run key upserted, .run key after]

/-- The rows of a check, one after the other. -/
def checkRunWrites (projection : Projection) (repo name : PyStr)
    (check : PipelineCheckRow) : List ℤ → List Write
  | [] => []
  | prNumber :: prNumbers =>
    let key := (repo, prNumber)
    let stored := projection.runs.lookup key
    let row := stored.getD (upsertPr none prNumber ⟨.text "", none, none, none, true⟩)
    let checks := row.checks.insert name check
    let after := { row with checks := checks, ciStatus := worstCi checks }
    (if stored.isSome then [] else [.run key row]) ++
      .run key after :: checkRunWrites (projection.withRun key after) repo name check prNumbers

def applyCheckRun (projection : Projection) (repo : PyStr) (payload : Members) : Py (List Write) :=
  match asDict (get payload "check_run") with
  | none => return []
  | some cr => do
    let prNumbers ← (((asList (get cr "pull_request_numbers")).getD []).filter
      (· ≠ .null)).mapM (intOf lib)
    if prNumbers = [] then return []
    let name ← strOf lib ((get cr "name").orElse (.ofString "check"))
    let status ← strOf lib ((get cr "status").orElse (.ofString "unknown"))
    return checkRunWrites projection repo name ⟨status, strOrNone (get cr "conclusion")⟩ prNumbers

/-- The merged run with the greatest number whose stage is pending. -/
def activePendingRow (stage : PipelineRunRow → PipelineStageStatus)
    (runs : Runs) (repo : PyStr) : Option (RunKey × PipelineRunRow) :=
  let candidates := runs.keys.filter fun key =>
    key.1 = repo ∧ (runs.lookup key).any fun row =>
      !row.isOpen && decide (row.mergeStatus = .success) &&
        decide (stage row = .pending)
  let numbers := candidates.image Prod.snd
  if some : numbers.Nonempty then
    let key := (repo, numbers.max' some)
    (runs.lookup key).map fun row => (key, row)
  else none

def activePublishPendingRow := activePendingRow PipelineRunRow.publishStatus

def activeCfPendingRow := activePendingRow PipelineRunRow.cfDeployStatus

def applyWorkflowRun (projection : Projection) (repo : PyStr)
    (payload : Members) : Py (List Write) :=
  match asDict (get payload "workflow_run") with
  | none => return []
  | some wr => do
    let name ← strOf lib ((get wr "name").orElse (.ofString ""))
    if name ≠ .text "publish" then return []
    let conclusion ← strOf lib ((get wr "conclusion").orElse (.ofString ""))
    if !isOneOf ["success", "failure", "cancelled"] conclusion then return []
    let headSha := strOrNone (get wr "head_sha")
    let succeeded := decide (conclusion = .text "success")
    let published : List Write :=
      if succeeded then (headSha.map Write.lastPublishSha).toList else []
    match activePublishPendingRow projection.runs repo with
    | none => return published
    | some (key, row) =>
      return published ++ [.run key
        { row with
          publishStatus := if succeeded then .success else .failure
          publishSha := headSha.orElse fun _ => row.publishSha }]

def applyGithubEvent (projection : Projection) (kind : String)
    (payload : Members) : Py (List Write) := do
  let repo ← strOf lib ((get payload "repository").orElse (.str defaultRepo))
  let action ← strOf lib ((get payload "action").orElse (.ofString ""))
  if PythonStr.startsWith kind "pull_request." then
    applyPullRequest lib projection repo action payload kind
  else if PythonStr.startsWith kind "check_run." then
    applyCheckRun lib projection repo payload
  else if PythonStr.startsWith kind "workflow_run." then
    applyWorkflowRun lib projection repo payload
  else return []

/-! ## `cf_registry.py` -/

def defaultProjects : Members := ["roxabi-factory", "roxabi-factory-dashboard"].map fun name =>
    (.text name, .obj [(.text "repo", .str defaultRepo), (.text "branch", .ofString "staging")])

/-- `_load_projects`. -/
def loadProjects : Py (List (PyStr × Members)) := do
  let projects ← match lib.projectsJson with
    | none => pure defaultProjects
    | some loads => do
      let data ← loads
      pure ((asDict data).getD defaultProjects)
  return projects.filterMap fun project =>
    (asDict project.2).map fun entry => (project.1, entry)

/-- `resolve_pages_project`: the repository and the branch of an entry. -/
def resolvePagesProject (pages : Members) : Py (Option (PyStr × PyStr)) :=
  match (get pages "project_name").orElse (get pages "project_id") with
  | .str project =>
    if project.strip = .text "" then return none
    else do
      let projects ← loadProjects lib
      return (projects.lookup project.strip).bind fun entry =>
        (strOrNone (get entry "repo")).map fun repo =>
          (repo, (strOrNone (get entry "branch")).getD (.text "staging"))
  | _ => return none

/-- `pages_branch_matches`. -/
def pagesBranchMatches (pages : Members) (expectedBranch : PyStr) : Bool :=
  match (get pages "branch").orElse (get pages "environment") with
  | .str branch =>
    decide (branch.strip = .text "" ∨ branch.strip = expectedBranch)
  | _ => true

def applyCloudflareEvent (projection : Projection) (kind : String)
    (payload : Members) : Py (List Write) :=
  let status : PipelineStageStatus :=
    if (PyStr.text kind).contains "failure" then .failure
    else if (PyStr.text kind).contains "success" then .success
    else .unknown
  if !PythonStr.startsWith kind "pages.deployment." then return []
  else
    match asDict (get payload "pages") with
    | none => return []
    | some pages => do
      match ← resolvePagesProject lib pages with
      | none => return []
      | some (repo, expectedBranch) =>
        if !pagesBranchMatches pages expectedBranch then return []
        else
          return ((activeCfPendingRow projection.runs repo).map fun found =>
            Write.run found.1 { found.2 with cfDeployStatus := status }).toList

def applyHostEvent (kind : String) : List Write :=
  if (PyStr.text kind).endsWith "converge.completed" then [.lastConverge]
  else []

/-- `apply_lyra_event`, after the mark. -/
def applyLyraEvent (event : Event) (projection : Projection) : Py (List Write) :=
  match event.service with
  | .github => applyGithubEvent lib projection event.kind event.payload
  | .cloudflare => applyCloudflareEvent lib projection event.kind event.payload
  | .host => return applyHostEvent event.kind

end Handlers

/-! ## The projector -/

namespace Projection

variable (projection : Projection) (key : RunKey) (row : PipelineRunRow)

theorem changeChecks_withRun (change : Checks → Checks) :
    (projection.withRun key row).changeChecks key change =
      projection.withRun key { row with checks := change row.checks } := by
  unfold changeChecks withRun
  rw [Finmap.lookup_insert]
  dsimp only
  rw [Finmap.insert_insert]

theorem upsertRun_eq : projection.upsertRun key row =
    projection.withRun key row := by
  unfold upsertRun upsertColumns deleteChecks insertChecks
  rw [changeChecks_withRun, changeChecks_withRun]
  dsimp only
  rw [Finmap.empty_union]

theorem save_eq (projection : Projection) (write : Write) :
    projection.save write = projection.apply write := by
  cases write with
  | run key row => exact projection.upsertRun_eq key row
  | lastPublishSha sha => rfl
  | lastConverge => rfl

end Projection

abbrev TraceId := { traceId : String // traceId ≠ "" }

/-- The store, for events that their trace ids tell apart. -/
def projector (lib : Library) (events : TraceId → Event) :
    Projector TraceId Projection Write SaveProgress where
  empty := ⟨∅, none⟩
  handle traceId projection := (applyLyraEvent lib (events traceId) projection).toOption
  apply := Projection.apply
  save := Projection.save
  save_eq := Projection.save_eq
  partway := Projection.partway
  limit := 10000

end PipelineStore

end RoxabiFactory
