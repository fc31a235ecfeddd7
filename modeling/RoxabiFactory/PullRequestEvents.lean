import RoxabiFactory.PipelineStore

/-!
# Events of a pull request

What the summary of an event has of the pull request, and what the store makes
of the summary.
-/

namespace RoxabiFactory

namespace Ingress

/-! ## Members of payloads -/

theorem text_beq {key name : String} (different : key ≠ name) :
    (PyStr.text key == PyStr.text name) = false := by
  rw [beq_eq_false_iff_ne]
  intro same
  exact different (PyStr.text.inj same)

theorem get_cons (name key : String) (value : Json) (members : Members) :
    get ((.text name, value) :: members) key =
      if key = name then value else get members key := by
  unfold get
  rw [List.lookup_cons]
  by_cases same : key = name
  · rw [if_pos same, same, beq_self_eq_true]
    rfl
  · rw [if_neg same, text_beq same]

theorem lookup_map_setItem (key : String) (value : Json) (out : Members) (other : PyStr) :
    (out.map fun member =>
        if member.1 = .text key then (member.1, value) else member).lookup
        other =
      if other = .text key then (out.lookup other).map fun _ => value
      else out.lookup other := by
  induction out with
  | nil =>
    rw [List.map_nil, List.lookup_nil, Option.map_none, ite_self]
  | cons member out ih =>
    have sameName : (if member.1 = .text key then (member.1, value)
        else member).1 = member.1 := by
      split <;> rfl
    rw [List.map_cons, List.lookup_cons, List.lookup_cons, sameName]
    by_cases found : other = member.1
    · rw [found, beq_self_eq_true]
      by_cases same : member.1 = .text key
      · rw [if_pos same, if_pos same]
        rfl
      · rw [if_neg same, if_neg same]
    · rw [beq_eq_false_iff_ne.2 found]
      exact ih

theorem get_setItem (out : Members) (key other : String) (value : Json) :
    get (setItem out key value) other =
      if other = key then value else get out other := by
  unfold setItem get
  split
  · rename_i found
    obtain ⟨member, present, named⟩ := List.any_eq_true.1 found
    rw [decide_eq_true_eq] at named
    rw [lookup_map_setItem]
    by_cases same : other = key
    · have isThere : (out.lookup (.text key)).isSome := by
        rw [List.lookup_isSome_iff]
        exact ⟨member, present, by rw [named, beq_self_eq_true]⟩
      obtain ⟨stored, stores⟩ := Option.isSome_iff_exists.1 isThere
      rw [if_pos same, same, if_pos rfl, stores]
      rfl
    · rw [if_neg same, if_neg fun equal => same (PyStr.text.inj equal)]
  · rename_i missing
    rw [List.lookup_append]
    by_cases same : other = key
    · have absent : out.lookup (.text key) = none := by
        rw [List.lookup_eq_none_iff]
        intro member present
        rw [Bool.not_eq_true, List.any_eq_false] at missing
        have differs := missing member present
        rw [decide_eq_true_eq] at differs
        simpa using Ne.symm differs
      rw [if_pos same, same, absent, List.lookup_cons, beq_self_eq_true]
      rfl
    · rw [if_neg same, List.lookup_cons, text_beq same, List.lookup_nil, Option.or_none]

theorem get_pick (keys : List String) (value : String → Option Json)
    (key : String) (out : Members) :
    get (pick out keys value) key =
      if key ∈ keys then (value key).getD (get out key) else get out key := by
  induction keys generalizing out with
  | nil => exact (if_neg List.not_mem_nil).symm
  | cons first keys ih =>
    have picked : pick out (first :: keys) value =
        pick (((value first).map (setItem out first)).getD out) keys
          value := rfl
    have firstSet : get (((value first).map (setItem out first)).getD out) key =
          if key = first then (value key).getD (get out key)
          else get out key := by
      by_cases same : key = first
      · rw [if_pos same, same]
        cases value first with
        | none => rfl
        | some found =>
          exact (get_setItem out first first found).trans (if_pos rfl)
      · rw [if_neg same]
        cases value first with
        | none => rfl
        | some found =>
          exact (get_setItem out first key found).trans (if_neg same)
    rw [picked, ih, firstSet]
    by_cases same : key = first
    · rw [if_pos same, same, if_pos List.mem_cons_self]
      cases value first with
      | none => exact ite_self _
      | some found => exact ite_self _
    · have member : key ∈ first :: keys ↔ key ∈ keys := by
        rw [List.mem_cons, or_iff_right same]
      rw [if_neg same]
      simp only [member]

/-! ## The summary -/

structure PullRequestEvent where
  payload : Members
  action : String
  repo : PyStr
  prNumber : ℤ
  repository : Members
  pullRequest : Members
  action_ne_empty : action ≠ ""
  repo_ne_empty : repo ≠ .text ""
  get_action : get payload "action" = .str (.text action)
  asDict_repository : asDict (get payload "repository") = some repository
  get_fullName : get repository "full_name" = .str repo
  asDict_pullRequest : asDict (get payload "pull_request") = some pullRequest
  get_number : get pullRequest "number" = .int prNumber
  get_title : get pullRequest "title" = .null ∨ ∃ title, get pullRequest "title" = .str title

namespace PullRequestEvent

variable (event : PullRequestEvent)

def key : PipelineStore.RunKey := (event.repo, event.prNumber)

/-- The label that is added or removed. -/
def labelName : Option PyStr := payloadLabelName (get event.payload "label")

/-- The pull request has the label `reviewed` after the event. -/
def leavesReviewed : Bool :=
  if event.labelName = some (.text "reviewed") ∧ event.action = "labeled" then
    true
  else if event.labelName = some (.text "reviewed") ∧ event.action = "unlabeled" then false
  else (prLabelNames (get event.pullRequest "labels") .null).any fun name =>
    decide (name = .text "reviewed")

/-- The event says whether the pull request is open. -/
def opens : Option Bool :=
  if event.action = "opened" ∨ event.action = "reopened" then some true
  else if event.action = "closed" then some false
  else none

def aboutLabel : Bool :=
  decide (event.action = "labeled") || decide (event.action = "unlabeled")

/-- The label that the summary keeps. -/
def eventLabel : Json :=
  if event.aboutLabel then get event.payload "label" else .null

end PullRequestEvent

theorem isOneOf_text (text : String) (names : List String) :
    CliErrorClassify.isOneOf (.str (.text text)) names =
      .ok (names.any fun name => decide (text = name)) := by
  unfold CliErrorClassify.isOneOf Json.hashKey
  rw [Py.ok_bind]
  simp only [HashKey.str.injEq, PyStr.text.injEq]
  rfl

theorem asDict_orNone {members : Members} {key : String} (present : get members key ≠ .null) :
    asDict (orNone members) = some members := by
  have notEmpty : members ≠ [] := by
    rintro rfl
    exact present rfl
  unfold orNone
  rw [if_neg notEmpty]
  rfl

/-- The values that are copied are those that are not `null`. -/
theorem get_pick_notNull (keys : List String) (node : Members) {key : String}
    (member : key ∈ keys) :
    get (pick [] keys fun key =>
      if get node key = .null then none else some (get node key)) key =
      get node key := by
  rw [get_pick, if_pos member]
  by_cases isNull : get node key = .null
  · rw [if_pos isNull, isNull]
    rfl
  · rw [if_neg isNull]
    rfl

theorem exists_pullRequestSummary {value : Json} {node : Members}
    (isDict : asDict value = some node) (eventLabel : Json)
    (numbered : get node "number" ≠ .null) :
    ∃ summary, asDict (pullRequestSummary value eventLabel) = some summary ∧
      (∀ key ∈ ["number", "title", "merged", "html_url"], get summary key = get node key) ∧
      get summary "labels" = (let labels := prLabelNames (get node "labels") eventLabel
        if labels = [] then .null else .arr (labels.map .str)) := by
  unfold pullRequestSummary
  rw [isDict]
  dsimp only
  generalize (asDict (get node "head")).getD [] = head
  set labels := prLabelNames (get node "labels") eventLabel
  set copied := pick [] ["number", "title", "state", "merged", "html_url"]
    fun key => if get node key = .null then none else some (get node key)
    with copies
  set withSha := pick copied ["head_sha"] fun _ =>
    if (get head "sha").truthy then some (get head "sha") else none
    with adds
  set withRef := pick withSha ["head_ref"] fun _ =>
    if (get head "ref").truthy then some (get head "ref") else none
    with addsRef
  have kept : ∀ key ∈ ["number", "title", "merged", "html_url"],
      get (pick withRef ["labels"] fun _ =>
        if labels = [] then none else some (.arr (labels.map .str))) key =
        get node key := by
    intro key member
    have other : key ∉ ["labels"] ∧ key ∉ ["head_ref"] ∧ key ∉ ["head_sha"] ∧
        key ∈ ["number", "title", "state", "merged", "html_url"] := by
      simp only [List.mem_cons, List.not_mem_nil, or_false] at member
      rcases member with rfl | rfl | rfl | rfl <;> decide
    obtain ⟨notLabels, notRef, notSha, copiedKey⟩ := other
    rw [get_pick, if_neg notLabels, addsRef, get_pick, if_neg notRef, adds,
      get_pick, if_neg notSha, copies]
    exact get_pick_notNull _ node copiedKey
  have labelled : get withRef "labels" = .null := by
    rw [addsRef, get_pick, if_neg (by decide), adds, get_pick,
      if_neg (by decide), copies, get_pick, if_neg (by decide)]
    rfl
  refine ⟨_, @asDict_orNone _ "number" ?_, kept, ?_⟩
  · rw [kept "number" (by decide)]
    exact numbered
  · rw [get_pick, if_pos List.mem_cons_self, labelled]
    split
    · rfl
    · rfl

namespace PullRequestEvent

variable (event : PullRequestEvent)

/-- What the store reads of the summary of an event. -/
structure Summarised (summary : Members) : Prop where
  action : get summary "action" = .str (.text event.action)
  repository : get summary "repository" = .str event.repo
  label : asDict (get summary "label") =
    if event.aboutLabel then asDict (get event.payload "label") else none
  pullRequest : ∃ pr, asDict (get summary "pull_request") = some pr ∧
    (∀ key ∈ ["number", "title", "merged", "html_url"], get pr key = get event.pullRequest key) ∧
    get pr "labels" = (let labels := prLabelNames (get event.pullRequest "labels") event.eventLabel
      if labels = [] then .null else .arr (labels.map .str))

theorem asDict_obj_map (value : Json) :
    asDict (((asDict value).map .obj).getD .null) = asDict value := by
  cases value <;> rfl

theorem exists_summary : ∃ summary, summarizeGithubPayload event.payload = .ok summary ∧
      event.Summarised summary := by
  obtain ⟨pr, prSummary, copied, labelled⟩ :=
    exists_pullRequestSummary event.asDict_pullRequest event.eventLabel
      (by rw [event.get_number]; exact Json.noConfusion)
  have about : CliErrorClassify.isOneOf (get event.payload "action")
      ["labeled", "unlabeled"] = .ok event.aboutLabel := by
    rw [event.get_action, isOneOf_text]
    unfold aboutLabel
    rw [List.any_cons, List.any_cons, List.any_nil, Bool.or_false]
  refine ⟨_, by
    unfold summarizeGithubPayload
    dsimp only
    rw [about, Py.ok_bind]
    rfl, ?_⟩
  constructor
  · rw [get_pick, if_neg (by decide), get_cons, if_pos rfl, event.get_action]
  · rw [get_pick, if_neg (by decide), get_cons, if_neg (by decide), get_cons,
      if_pos rfl, event.asDict_repository]
    exact event.get_fullName
  · rw [get_pick, if_pos List.mem_cons_self]
    split
    · exact asDict_obj_map _
    · rfl
  · refine ⟨pr, ?_, copied, labelled⟩
    rw [get_pick, if_neg (by decide)]
    exact prSummary

theorem aboutLabel_eq_true : event.aboutLabel = true ↔
    event.action = "labeled" ∨ event.action = "unlabeled" := by
  unfold aboutLabel
  rw [Bool.or_eq_true, decide_eq_true_eq, decide_eq_true_eq]

/-- The label of an event makes a difference only if it is `reviewed`. -/
theorem any_prLabelNames (notReviewed : ¬ (event.labelName = some (.text "reviewed") ∧
      event.aboutLabel)) (labels : Json) :
    ((prLabelNames labels event.eventLabel).any fun name =>
      decide (name = .text "reviewed")) =
      (prLabelNames labels .null).any fun name =>
        decide (name = .text "reviewed") := by
  have named : payloadLabelName event.eventLabel ≠ some (.text "reviewed") := by
    intro named
    apply notReviewed
    unfold eventLabel at named
    split at named
    · exact ⟨named, ‹_›⟩
    · cases named
  have noName : payloadLabelName .null = none := rfl
  unfold prLabelNames
  rw [noName]
  dsimp only
  split
  · rfl
  · rename_i name isName
    have different : name ≠ .text "reviewed" := by
      rintro rfl
      exact named isName
    split
    · rfl
    · rw [List.any_append, List.any_cons, List.any_nil,
        decide_eq_false different, Bool.or_false, Bool.or_false]

end PullRequestEvent

end Ingress

namespace PipelineStore

open Ingress

theorem githubEventKind_pullRequest (event : PullRequestEvent) :
    githubEventKind "pull_request" event.payload =
      .text ("pull_request." ++ event.action) := by
  have name : PyStr.replaceChars ['-'] '_'
      (.text (PythonStr.strip "pull_request")) = .text "pull_request" := by
    decide
  unfold githubEventKind
  rw [event.get_action, name]
  dsimp only
  rw [if_neg fun empty => event.action_ne_empty (PyStr.text.inj empty)]
  rfl

theorem isText_str (name : PyStr) (characters : String) :
    Json.isText (.str name) characters = decide (name = .text characters) := by
  cases name with
  | text others =>
    change decide (others = characters) = _
    rw [decide_eq_decide, PyStr.text.injEq]
  | loneSurrogate codePoints => rfl

theorem isText_eq_true {value : Json} {characters : String} :
    value.isText characters = true ↔ value = .str (.text characters) := by
  cases value with
  | str name => rw [isText_str, decide_eq_true_eq, Json.str.injEq]
  | _ => exact iff_of_false Bool.false_ne_true Json.noConfusion

theorem prHasReviewedLabel_map (labels : List PyStr) : prHasReviewedLabel
        (if labels = [] then .null else .arr (labels.map .str)) =
      labels.any fun name => decide (name = .text "reviewed") := by
  have items : ∀ labels : List PyStr, prHasReviewedLabel (.arr (labels.map .str)) =
        labels.any fun name => decide (name = .text "reviewed") := by
    intro labels
    unfold prHasReviewedLabel
    dsimp only [asList, Option.getD_some]
    rw [List.any_map]
    congr 1
    ext name
    exact (Bool.or_false _).trans (isText_str name "reviewed")
  split
  · rename_i empty
    rw [empty]
    rfl
  · exact items labels

variable {event : PullRequestEvent} {summary : Members}

theorem labelName_of_asDict {label : Members}
    (isLabel : asDict (get event.payload "label") = some label) :
    event.labelName = some (.text "reviewed") ↔ (get label "name").isText "reviewed" = true := by
  unfold PullRequestEvent.labelName payloadLabelName
  rw [isLabel, isText_eq_true]
  dsimp only [Option.bind_some]
  cases get label "name" with
  | str name => simp only [asStr, Option.some.injEq, Json.str.injEq]
  | _ => exact iff_of_false (fun none => by cases none) Json.noConfusion

theorem labelChange_eq (summarised : event.Summarised summary) :
    labelChange summary ("pull_request." ++ event.action) =
      if event.labelName = some (.text "reviewed") ∧ event.aboutLabel then
        some (decide (event.action = "labeled"))
      else none := by
  have isKind : ∀ action : String, "pull_request." ++ event.action = "pull_request." ++ action ↔
        event.action = action :=
    fun action => String.append_right_inj _
  have labeled : "pull_request." ++ event.action = "pull_request.labeled" ↔
      event.action = "labeled" := isKind "labeled"
  have unlabeled : "pull_request." ++ event.action =
      "pull_request.unlabeled" ↔ event.action = "unlabeled" :=
    isKind "unlabeled"
  unfold labelChange
  rw [summarised.label]
  by_cases about : event.aboutLabel = true
  · simp only [about, if_true, and_true]
    cases isLabel : asDict (get event.payload "label") with
    | none =>
      have unnamed : event.labelName = none := by
        unfold PullRequestEvent.labelName payloadLabelName
        rw [isLabel]
        rfl
      rw [unnamed]
      rfl
    | some label =>
      simp only [Option.bind_some, ← labelName_of_asDict isLabel, labeled, unlabeled]
      rcases event.aboutLabel_eq_true.1 about with added | removed
      · simp only [added, if_true, decide_true]
      · simp only [removed, String.reduceEq, if_false, if_true, decide_false]
  · simp only [about, Bool.false_eq_true, if_false, and_false, Option.bind_none]

/-- The store computes whether the label `reviewed` is there. -/
theorem reviewed_eq (summarised : event.Summarised summary) {pr : Members}
    (labelled : get pr "labels" =
      (let labels := prLabelNames (get event.pullRequest "labels") event.eventLabel
      if labels = [] then .null else .arr (labels.map .str))) :
    (labelChange summary ("pull_request." ++ event.action)).getD
        (prHasReviewedLabel (get pr "labels")) =
      event.leavesReviewed := by
  rw [labelChange_eq summarised, labelled, prHasReviewedLabel_map]
  unfold PullRequestEvent.leavesReviewed
  by_cases change : event.labelName = some (.text "reviewed") ∧ event.aboutLabel = true
  · obtain ⟨named, about⟩ := change
    rw [if_pos ⟨named, about⟩, Option.getD_some]
    rcases event.aboutLabel_eq_true.1 about with added | removed
    · rw [if_pos ⟨named, added⟩, decide_eq_true added]
    · rw [if_neg (by simp [removed]), if_pos ⟨named, removed⟩]
      simp [removed]
  · rw [if_neg change, Option.getD_none, event.any_prLabelNames change]
    have other : ∀ action, action = "labeled" ∨ action = "unlabeled" →
        ¬ (event.labelName = some (.text "reviewed") ∧ event.action = action) := by
      rintro action isAbout ⟨named, rfl⟩
      exact change ⟨named, event.aboutLabel_eq_true.2 isAbout⟩
    rw [if_neg (other _ (.inl rfl)), if_neg (other _ (.inr rfl))]

theorem upsertPr_reviewed (stored : Option PipelineRunRow) (prNumber : ℤ) (fields : PrFields) :
    (upsertPr stored prNumber fields).reviewed =
      stored.any PipelineRunRow.reviewed := by
  cases stored with
  | none => rfl
  | some row =>
    unfold upsertPr
    dsimp only
    split <;> rfl

theorem upsertPr_isOpen (stored : Option PipelineRunRow) (prNumber : ℤ) (fields : PrFields) :
    (upsertPr stored prNumber fields).isOpen = fields.isOpen := by
  cases stored with
  | none => rfl
  | some row =>
    unfold upsertPr
    dsimp only
    split <;> rfl

theorem startsWith_append (beginning ending : String) :
    PythonStr.startsWith (beginning ++ ending) beginning = true := by
  unfold PythonStr.startsWith
  rw [String.toList_append, List.isPrefixOf_iff_prefix]
  exact List.prefix_append _ _

/-- What an event of a pull request writes: the label is never cleared, and
every action but `closed` opens the run. -/
theorem exists_applyGithubEvent_pullRequest (lib : Library)
    (projection : Projection) (summarised : event.Summarised summary) :
    ∃ upserted after,
      applyGithubEvent lib projection ("pull_request." ++ event.action) summary =
        .ok [.run event.key upserted, .run event.key after] ∧
      after.reviewed = (event.leavesReviewed ||
        (projection.runs.lookup event.key).any PipelineRunRow.reviewed) ∧
      after.isOpen = !decide (event.action = "closed") := by
  have repo : strOf lib ((get summary "repository").orElse
      (.str defaultRepo)) = .ok event.repo := by
    rw [summarised.repository]
    have given : (Json.str event.repo).truthy = true := by
      cases isRepo : event.repo with
      | text characters =>
        apply decide_eq_true
        rintro rfl
        exact event.repo_ne_empty isRepo
      | loneSurrogate codePoints => rfl
    unfold Json.orElse
    rw [if_pos given]
    rfl
  have action : strOf lib ((get summary "action").orElse (.ofString "")) =
      .ok (.text event.action) := by
    rw [summarised.action]
    have given : (Json.str (.text event.action)).truthy = true :=
      decide_eq_true event.action_ne_empty
    unfold Json.orElse
    rw [if_pos given]
    rfl
  obtain ⟨pr, isPr, copied, labelled⟩ := summarised.pullRequest
  have number : get pr "number" = .int event.prNumber :=
    (copied "number" (by decide)).trans event.get_number
  obtain ⟨title, hasTitle⟩ : ∃ title,
      strOf lib ((get pr "title").orElse (.ofString "")) = .ok title := by
    rw [copied "title" (by decide)]
    rcases event.get_title with none | ⟨title, some⟩
    · rw [none]
      exact ⟨_, rfl⟩
    · rw [some]
      unfold Json.orElse
      split
      · exact ⟨_, rfl⟩
      · exact ⟨_, rfl⟩
  unfold applyGithubEvent
  rw [repo, Py.ok_bind, action, Py.ok_bind, if_pos (startsWith_append _ _)]
  unfold applyPullRequest
  rw [isPr]
  dsimp only
  rw [number, if_neg Json.noConfusion, show intOf lib (.int event.prNumber) =
    .ok event.prNumber from rfl, Py.ok_bind, hasTitle, Py.ok_bind,
    reviewed_eq summarised labelled]
  have isClosed : decide (PyStr.text event.action = .text "closed") =
      decide (event.action = "closed") := by
    rw [decide_eq_decide, PyStr.text.injEq]
  rw [isClosed]
  refine ⟨_, _, rfl, ?_, ?_⟩
  · split
    · exact congrArg (event.leavesReviewed || ·) (upsertPr_reviewed _ _ _)
    · split
      · exact congrArg (event.leavesReviewed || ·) (upsertPr_reviewed _ _ _)
      · exact congrArg (event.leavesReviewed || ·) (upsertPr_reviewed _ _ _)
  · split
    · exact upsertPr_isOpen _ _ _
    · split
      · exact upsertPr_isOpen _ _ _
      · exact upsertPr_isOpen _ _ _

end PipelineStore

end RoxabiFactory
