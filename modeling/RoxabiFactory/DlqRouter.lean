import Mathlib.Data.Fintype.Basic
import RoxabiFactory.PythonValues
import RoxabiFactory.TransitionSystem

/-!
# The router of dead letters

A job that has been delivered too often stays in the stream until the router
has made a copy of it on the dead-letter lane and has deleted it.  The copy is
published without an acknowledgement, so it may be lost on its way, and the
deletion does not wait for it.
-/

namespace RoxabiFactory

namespace DlqRouter

/-- A message; the text of a header is `str` of its value. -/
structure Message where
  subject : String
  data : List UInt8
  headers : List (String × Json) := []
  deriving DecidableEq

/-- `_DLQ_PREFIX`. -/
def dlqPrefix : String := "factory.jobs.dlq"

/-- The subject is on the dead-letter lane. -/
def onLane (subject : String) : Bool := (dlqPrefix ++ ".").toList.isPrefixOf subject.toList

/-- `_extract_domain`. -/
def extractDomain (subject : String) : String :=
  match (subject.toList.splitOn '.').map String.ofList with
  | "factory" :: "jobs" :: domain :: _ =>
    if domain = "dlq" then "unknown" else domain
  | _ => "unknown"

/-- The number of a message in a request of `get_msg` or `delete_msg`. -/
def sequenceNumber : Json → Option Nat
  | .int value => if 0 < value then some value.toNat else none
  | _ => none

/-- The message that the router publishes. -/
def deadLetter (streamSeq deliveries : Json) (raw : Message) : Message where
  subject := dlqPrefix ++ "." ++ extractDomain raw.subject
  data := raw.data
  headers := [("Roxabi-Dlq-Orig-Subject", .ofString raw.subject),
    ("Roxabi-Dlq-Deliveries", deliveries),
    ("Roxabi-Dlq-Stream-Seq", streamSeq)]

/-- Where the handling of an advisory is: the request to the server that comes
next. -/
inductive Phase
  | idle
  | getMsg (streamSeq deliveries : Json)
  | publish (streamSeq deliveries : Json) (raw : Message)
  | deleteMsg (streamSeq : Json) (copy : Message)

/-- The beginning of `_handle`; `none` stands for data that is not JSON. -/
def Phase.handle : Option Json → Phase
  | some (.obj members) =>
    match (members.lookup (.text "stream_seq")).getD .null with
    | .null => .idle
    | streamSeq =>
      .getMsg streamSeq ((members.lookup (.text "deliveries")).getD (.int 0))
  | _ => .idle

structure State (Task : Type) where
  /-- The messages of `FACTORY_JOBS` with their numbers. -/
  stream : List (Nat × Message) := []
  nextSeq : Nat := 1
  /-- The messages that have been published and not yet been stored. -/
  transit : List Message := []
  phases : Task → Phase := fun _ => .idle
  /-- The jobs that have been delivered too often. -/
  exhausted : List (Nat × Message) := []

inductive Action (Task : Type)
  /-- A producer's job is stored. -/
  | submit (message : Message)
  /-- A worker acknowledges a job. -/
  | complete (seq : Nat)
  | exhaust (seq : Nat) (message : Message)
  | advise (task : Task) (data : Option Json)
  /-- The server answers the next request of a task. -/
  | call (task : Task)
  /-- The next request raises, or the router stops; the server may have done
  what was requested. -/
  | fail (task : Task) (done : Bool)
  /-- A published message is stored. -/
  | capture (index : Nat)
  /-- A published message is lost. -/
  | lose (index : Nat)

variable {Task : Type} [DecidableEq Task]

namespace State

/-- The message with a number. -/
def get (state : State Task) (streamSeq : Json) : Option Message :=
  (sequenceNumber streamSeq).bind fun seq => state.stream.lookup seq

def store (state : State Task) (message : Message) : State Task :=
  { state with
    stream := state.stream ++ [(state.nextSeq, message)]
    nextSeq := state.nextSeq + 1 }

def delete (state : State Task) (seq : Nat) : State Task :=
  { state with stream := state.stream.filter fun entry => entry.1 ≠ seq }

/-- What the server does for a request. -/
def perform (state : State Task) : Phase → State Task
  | .publish streamSeq deliveries raw =>
    { state with
      transit := state.transit ++ [deadLetter streamSeq deliveries raw] }
  | .deleteMsg streamSeq _ =>
    match sequenceNumber streamSeq with
    | some seq => state.delete seq
    | none => state
  | _ => state

/-- How `_handle` goes on. -/
def next (state : State Task) : Phase → Phase
  | .getMsg streamSeq deliveries =>
    match state.get streamSeq with
    | some raw =>
      if onLane raw.subject then .idle
      else .publish streamSeq deliveries raw
    | none => .idle
  | .publish streamSeq deliveries raw =>
    .deleteMsg streamSeq (deadLetter streamSeq deliveries raw)
  | _ => .idle

def resume (state : State Task) (task : Task) (phase : Phase) : State Task :=
  { state with phases := Function.update state.phases task phase }

def step (state : State Task) : Action Task → Option (State Task)
  | .submit message => some (state.store message)
  | .complete seq =>
    if (∀ job ∈ state.exhausted, job.1 ≠ seq) ∧ ∀ entry ∈ state.stream, entry.1 = seq →
          onLane entry.2.subject = false then
      some (state.delete seq)
    else none
  | .exhaust seq message =>
    if (seq, message) ∈ state.stream then
      some { state with exhausted := (seq, message) :: state.exhausted }
    else none
  | .advise task data =>
    match state.phases task with
    | .idle => some (state.resume task (.handle data))
    | _ => none
  | .call task =>
    match state.phases task with
    | .idle => none
    | phase => some ((state.perform phase).resume task (state.next phase))
  | .fail task done =>
    match state.phases task with
    | .idle => none
    | phase => some ((if done then state.perform phase else state).resume task .idle)
  | .capture index =>
    match state.transit[index]? with
    | some message =>
      some { state.store message with
        transit := state.transit.eraseIdx index }
    | none => none
  | .lose index =>
    some { state with transit := state.transit.eraseIdx index }

end State

def system (Task : Type) [DecidableEq Task] : TransitionSystem (State Task) (Action Task) where
  initial state := state = { }
  step := State.step

/-- The message is a dead letter for the job. -/
def IsCopy (copy : Message) (job : Nat × Message) : Prop :=
  ∃ streamSeq deliveries, sequenceNumber streamSeq = some job.1 ∧
    copy = deadLetter streamSeq deliveries job.2

namespace State

/-- The job is in the stream, or a dead letter for it is. -/
def Keeps (state : State Task) (job : Nat × Message) : Prop :=
  job ∈ state.stream ∨ ∃ entry ∈ state.stream, IsCopy entry.2 job

/-- When the server deletes a job, it has stored the copy that was published
before. -/
def Captured (state : State Task) : Phase → Prop
  | .deleteMsg _ copy => ∃ entry ∈ state.stream, entry.2 = copy
  | _ => True

def Kept (state : State Task) : Action Task → Prop
  | .call task => state.Captured (state.phases task)
  | .fail task done => done = true → state.Captured (state.phases task)
  | _ => True

end State

theorem onLane_deadLetter (streamSeq deliveries : Json) (raw : Message) :
    onLane (deadLetter streamSeq deliveries raw).subject = true := by
  simp [onLane, deadLetter, String.toList_append, List.isPrefixOf_iff_prefix]

theorem IsCopy.onLane {copy : Message} {job : Nat × Message}
    (isCopy : IsCopy copy job) : onLane copy.subject = true := by
  obtain ⟨streamSeq, deliveries, -, rfl⟩ := isCopy
  exact onLane_deadLetter streamSeq deliveries job.2

section Sound

omit [DecidableEq Task]

namespace State

/-- The number has been given to the job, and to nothing else. -/
def Numbers (state : State Task) (job : Nat × Message) : Prop := job.1 < state.nextSeq ∧
    ∀ entry ∈ state.stream, entry.1 = job.1 → entry = job

/-- What a task has in hand is a job that is not a dead letter itself. -/
def Routes (state : State Task) : Phase → Prop
  | .publish streamSeq _ raw => ∃ seq, sequenceNumber streamSeq = some seq ∧
      onLane raw.subject = false ∧ state.Numbers (seq, raw)
  | .deleteMsg streamSeq copy => ∃ job : Nat × Message,
      sequenceNumber streamSeq = some job.1 ∧ onLane job.2.subject = false ∧
        state.Numbers job ∧ IsCopy copy job
  | _ => True

structure Sound (state : State Task) : Prop where
  fresh : ∀ entry ∈ state.stream, entry.1 < state.nextSeq
  unique : ∀ one ∈ state.stream, ∀ other ∈ state.stream, one.1 = other.1 → one = other
  routes : ∀ task, state.Routes (state.phases task)
  exhausted : ∀ job ∈ state.exhausted, state.Numbers job ∧ state.Keeps job

variable {state : State Task}

theorem mem_store {message : Message} {entry : Nat × Message} :
    entry ∈ (state.store message).stream ↔
      entry ∈ state.stream ∨ entry = (state.nextSeq, message) := by
  simp [store]

theorem mem_delete {seq : Nat} {entry : Nat × Message} : entry ∈ (state.delete seq).stream ↔
      entry ∈ state.stream ∧ entry.1 ≠ seq := by
  simp [delete]

theorem Numbers.store {job : Nat × Message} (numbers : state.Numbers job)
    (message : Message) : (state.store message).Numbers job := by
  refine ⟨Nat.lt_succ_of_lt numbers.1, ?_⟩
  intro entry member same
  rcases mem_store.mp member with known | rfl
  · exact numbers.2 entry known same
  · exact absurd same (Nat.ne_of_gt numbers.1)

theorem Numbers.delete {job : Nat × Message} (numbers : state.Numbers job)
    (seq : Nat) : (state.delete seq).Numbers job :=
  ⟨numbers.1, fun entry member => numbers.2 entry (mem_delete.mp member).1⟩

theorem Keeps.store {job : Nat × Message} (keeps : state.Keeps job)
    (message : Message) : (state.store message).Keeps job := by
  rcases keeps with there | ⟨entry, member, isCopy⟩
  · exact .inl (mem_store.mpr (.inl there))
  · exact .inr ⟨entry, mem_store.mpr (.inl member), isCopy⟩

/-- The deletion of a message that is not a dead letter leaves those for other
jobs, and the jobs with other numbers. -/
theorem Keeps.delete {job : Nat × Message} {seq : Nat} (keeps : state.Keeps job)
    (offLane : ∀ entry ∈ state.stream, entry.1 = seq → onLane entry.2.subject = false)
    (stays : job ∈ state.stream → job.1 = seq → (state.delete seq).Keeps job) :
    (state.delete seq).Keeps job := by
  rcases keeps with there | ⟨entry, member, isCopy⟩
  · by_cases same : job.1 = seq
    · exact stays there same
    · exact .inl (mem_delete.mpr ⟨there, same⟩)
  · refine .inr ⟨entry, mem_delete.mpr ⟨member, ?_⟩, isCopy⟩
    intro same
    have lane := isCopy.onLane
    rw [offLane entry member same] at lane
    cases lane

theorem Routes.store {phase : Phase} (routes : state.Routes phase)
    (message : Message) : (state.store message).Routes phase := by
  cases phase with
  | publish streamSeq deliveries raw =>
    obtain ⟨seq, named, offLane, numbers⟩ := routes
    exact ⟨seq, named, offLane, numbers.store message⟩
  | deleteMsg streamSeq copy =>
    obtain ⟨job, named, offLane, numbers, isCopy⟩ := routes
    exact ⟨job, named, offLane, numbers.store message, isCopy⟩
  | _ => trivial

theorem Routes.delete {phase : Phase} (routes : state.Routes phase)
    (seq : Nat) : (state.delete seq).Routes phase := by
  cases phase with
  | publish streamSeq deliveries raw =>
    obtain ⟨number, named, offLane, numbers⟩ := routes
    exact ⟨number, named, offLane, numbers.delete seq⟩
  | deleteMsg streamSeq copy =>
    obtain ⟨job, named, offLane, numbers, isCopy⟩ := routes
    exact ⟨job, named, offLane, numbers.delete seq, isCopy⟩
  | _ => trivial

theorem Sound.store (sound : state.Sound) (message : Message) : (state.store message).Sound := by
  refine ⟨?_, ?_, fun task => (sound.routes task).store message, ?_⟩
  · intro entry member
    rcases mem_store.mp member with known | rfl
    · exact Nat.lt_succ_of_lt (sound.fresh entry known)
    · exact Nat.lt_succ_self _
  · intro one oneMember other otherMember same
    rcases mem_store.mp oneMember with oneKnown | rfl
    · rcases mem_store.mp otherMember with otherKnown | rfl
      · exact sound.unique one oneKnown other otherKnown same
      · exact absurd same (Nat.ne_of_lt (sound.fresh one oneKnown))
    · rcases mem_store.mp otherMember with otherKnown | rfl
      · exact absurd same.symm (Nat.ne_of_lt (sound.fresh other otherKnown))
      · rfl
  · intro job member
    obtain ⟨numbers, keeps⟩ := sound.exhausted job member
    exact ⟨numbers.store message, keeps.store message⟩

theorem Sound.delete (sound : state.Sound) {seq : Nat}
    (keeps : ∀ job ∈ state.exhausted, (state.delete seq).Keeps job) :
    (state.delete seq).Sound := by
  refine ⟨?_, ?_, fun task => (sound.routes task).delete seq, ?_⟩
  · intro entry member
    exact sound.fresh entry (mem_delete.mp member).1
  · intro one oneMember other otherMember
    exact sound.unique one (mem_delete.mp oneMember).1 other (mem_delete.mp otherMember).1
  · intro job member
    exact ⟨(sound.exhausted job member).1.delete seq, keeps job member⟩

/-- A worker completes a job that has not been delivered too often. -/
theorem Sound.complete (sound : state.Sound) {seq : Nat}
    (others : ∀ job ∈ state.exhausted, job.1 ≠ seq)
    (offLane : ∀ entry ∈ state.stream, entry.1 = seq →
      onLane entry.2.subject = false) : (state.delete seq).Sound := by
  apply sound.delete
  intro job member
  apply (sound.exhausted job member).2.delete offLane
  exact fun _ same => absurd same (others job member)

theorem Sound.route (sound : state.Sound) {job : Nat × Message}
    {copy : Message} (offLane : onLane job.2.subject = false)
    (numbers : state.Numbers job) (isCopy : IsCopy copy job)
    (captured : ∃ entry ∈ state.stream, entry.2 = copy) :
    (state.delete job.1).Sound := by
  have only : ∀ entry ∈ state.stream, entry.1 = job.1 → onLane entry.2.subject = false := by
    intro entry member same
    rw [numbers.2 entry member same]
    exact offLane
  apply sound.delete
  intro other member
  apply (sound.exhausted other member).2.delete only
  intro there same
  obtain rfl := numbers.2 other there same
  obtain ⟨entry, entryMember, rfl⟩ := captured
  refine .inr ⟨entry, mem_delete.mpr ⟨entryMember, ?_⟩, isCopy⟩
  intro sameNumber
  have lane := isCopy.onLane
  rw [only entry entryMember sameNumber] at lane
  cases lane

theorem Sound.setTransit (sound : state.Sound) (transit : List Message) :
    State.Sound { state with transit := transit } :=
  ⟨sound.fresh, sound.unique, sound.routes, sound.exhausted⟩

theorem Sound.perform (sound : state.Sound) {phase : Phase}
    (routes : state.Routes phase) (captured : state.Captured phase) :
    (state.perform phase).Sound := by
  cases phase with
  | publish streamSeq deliveries raw => exact sound.setTransit _
  | deleteMsg streamSeq copy =>
    obtain ⟨job, named, offLane, numbers, isCopy⟩ := routes
    simp only [State.perform, named]
    exact sound.route offLane numbers isCopy captured
  | _ => exact sound

/-- The message that `get_msg` returns has its number for itself. -/
theorem Sound.numbers_of_get (sound : state.Sound) {streamSeq : Json}
    {raw : Message} (found : state.get streamSeq = some raw) :
    ∃ seq, sequenceNumber streamSeq = some seq ∧ state.Numbers (seq, raw) := by
  obtain ⟨seq, named, stored⟩ := Option.bind_eq_some_iff.mp found
  obtain ⟨before, after, split, -⟩ := List.lookup_eq_some_iff.mp stored
  have member : (seq, raw) ∈ state.stream := by
    rw [split]
    exact List.mem_append_right _ List.mem_cons_self
  exact ⟨seq, named, sound.fresh _ member,
    fun entry entryMember same => sound.unique entry entryMember _ member same⟩

theorem Sound.routes_next (sound : state.Sound) {phase : Phase} (routes : state.Routes phase) :
    (state.perform phase).Routes (state.next phase) := by
  cases phase with
  | getMsg streamSeq deliveries =>
    simp only [State.next]
    cases found : state.get streamSeq with
    | none => trivial
    | some raw =>
      by_cases lane : onLane raw.subject
      · simp only [lane, if_true]
        trivial
      · simp only [lane, Bool.false_eq_true, if_false]
        obtain ⟨seq, named, numbers⟩ := sound.numbers_of_get found
        exact ⟨seq, named, by simpa using lane, numbers⟩
  | publish streamSeq deliveries raw =>
    obtain ⟨seq, named, offLane, numbers⟩ := routes
    exact ⟨(seq, raw), named, offLane, numbers, streamSeq, deliveries, named,
      rfl⟩
  | _ => trivial

end State

end Sound

namespace State

variable {state after : State Task}

theorem Sound.resume (sound : state.Sound) {phase : Phase}
    (routes : state.Routes phase) (task : Task) :
    (state.resume task phase).Sound := by
  refine ⟨sound.fresh, sound.unique, ?_, sound.exhausted⟩
  intro other
  simp only [State.resume]
  by_cases same : other = task
  · rw [same, Function.update_self]
    exact routes
  · rw [Function.update_of_ne same]
    exact sound.routes other

omit [DecidableEq Task] in
theorem routes_handle (data : Option Json) :
    state.Routes (.handle data) := by
  unfold Phase.handle
  split
  · split <;> trivial
  · trivial

theorem Sound.step {action : Action Task} (sound : state.Sound)
    (kept : state.Kept action) (stepTo : state.step action = some after) :
    after.Sound := by
  cases action with
  | submit message =>
    obtain rfl := Option.some.inj stepTo
    exact sound.store message
  | complete seq =>
    simp only [State.step] at stepTo
    split at stepTo
    case isTrue free =>
      obtain rfl := Option.some.inj stepTo
      exact sound.complete free.1 free.2
    case isFalse => cases stepTo
  | exhaust seq message =>
    simp only [State.step] at stepTo
    split at stepTo
    case isTrue member =>
      obtain rfl := Option.some.inj stepTo
      refine ⟨sound.fresh, sound.unique, sound.routes, ?_⟩
      intro job jobMember
      rcases List.mem_cons.mp jobMember with rfl | earlier
      · exact ⟨⟨sound.fresh _ member, fun entry entryMember same =>
          sound.unique entry entryMember _ member same⟩, .inl member⟩
      · exact sound.exhausted job earlier
    case isFalse => cases stepTo
  | advise task data =>
    simp only [State.step] at stepTo
    split at stepTo
    · obtain rfl := Option.some.inj stepTo
      exact sound.resume (routes_handle data) task
    · cases stepTo
  | call task =>
    simp only [State.step] at stepTo
    split at stepTo
    · cases stepTo
    · obtain rfl := Option.some.inj stepTo
      have routes := sound.routes task
      exact (sound.perform routes kept).resume (sound.routes_next routes) task
  | fail task done =>
    simp only [State.step] at stepTo
    split at stepTo
    · cases stepTo
    · obtain rfl := Option.some.inj stepTo
      have idle : ∀ other : State Task, other.Routes .idle := fun _ => trivial
      split
      case isTrue performed =>
        exact (sound.perform (sound.routes task) (kept performed)).resume (idle _) task
      case isFalse => exact sound.resume (idle _) task
  | capture index =>
    simp only [State.step] at stepTo
    split at stepTo
    · obtain rfl := Option.some.inj stepTo
      exact (sound.store _).setTransit _
    · cases stepTo
  | lose index =>
    obtain rfl := Option.some.inj stepTo
    exact sound.setTransit _

end State

/-- As long as the copy has been stored when the server deletes a job, a job
that has been delivered too often is in the stream, itself or as a dead letter
with its data, its subject and its number. -/
theorem keeps_of_reachable (Task : Type) [DecidableEq Task] {state : State Task}
    (reached : (system Task).ReachableWithin State.Kept state) :
    ∀ job ∈ state.exhausted, state.Keeps job := by
  have sound : state.Sound := by
    apply reached.invariant
    · rintro initial rfl
      exact ⟨by simp, by simp, fun _ => trivial, by simp⟩
    · exact fun before action after sound kept stepTo => sound.step kept stepTo
  exact fun job member => (sound.exhausted job member).2

instance (state : State Task) (phase : Phase) : Decidable (state.Captured phase) :=
  match phase with
  | .deleteMsg _ copy =>
    inferInstanceAs (Decidable (∃ entry ∈ state.stream, entry.2 = copy))
  | .idle | .getMsg _ _ | .publish _ _ _ => isTrue trivial

instance (state : State Task) (action : Action Task) : Decidable (state.Kept action) :=
  match action with
  | .call task =>
    inferInstanceAs (Decidable (state.Captured (state.phases task)))
  | .fail task done => inferInstanceAs
      (Decidable (done = true → state.Captured (state.phases task)))
  | .submit _ | .complete _ | .exhaust _ _ | .advise _ _ | .capture _
  | .lose _ => isTrue trivial

section Example

def exampleJob : Message where
  subject := "factory.jobs.vault.index"
  data := [1, 2, 3]

/-- A job is delivered too often, and the router publishes a dead letter. -/
def publishCopy : List (Action Unit) := [.submit exampleJob, .exhaust 1 exampleJob,
    .advise () (some (.obj [(.text "stream_seq", .int 1), (.text "deliveries", .int 5)])),
    .call (), .call ()]

/-- The dead letter is stored before the job is deleted. -/
theorem keeps_of_capture : ∃ state : State Unit, (system Unit).ReachableWithin State.Kept state ∧
      (1, exampleJob) ∉ state.stream ∧ state.Keeps (1, exampleJob) := by
  have run : ∃ state : State Unit, (system Unit).ReachableWithin State.Kept state ∧
        state.exhausted = [(1, exampleJob)] ∧ (1, exampleJob) ∉ state.stream :=
    TransitionSystem.exists_reachableWithin_of_checkedRun { } rfl
      (publishCopy ++ [.capture 0, .call ()]) (by decide)
  obtain ⟨state, reached, exhausted, deleted⟩ := run
  refine ⟨state, reached, deleted, keeps_of_reachable Unit reached _ ?_⟩
  rw [exhausted]
  exact List.mem_cons_self

/-- The dead letter is lost without an error, and the job is deleted. -/
theorem exists_lost_job : ∃ state : State Unit, (system Unit).Reachable state ∧
      (1, exampleJob) ∈ state.exhausted ∧ state.stream = [] :=
  TransitionSystem.exists_reachable_of_run { } rfl
    (publishCopy ++ [.lose 0, .call ()]) (by decide)

end Example

end DlqRouter

end RoxabiFactory
