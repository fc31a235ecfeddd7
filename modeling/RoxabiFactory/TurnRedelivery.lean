import RoxabiFactory.TransitionSystem
import RoxabiFactory.TurnWriter

/-!
# Redelivery of turn events

The consumer sees the messages of the stream in order when it sees them for the
first time, but a message that it does not acknowledge comes again later, after
others.  The row of a session tells which events have been handled since it was
created, and in which order the last of them; it does not tell in which order
they were published.
-/

namespace RoxabiFactory

namespace TurnWriter

/-- A message of the stream `FACTORY_TURNS`. -/
structure Message where
  event : TurnWriteEvent
  /-- How often it has been delivered. -/
  deliveries : Nat := 0
  acked : Bool := false
  deriving DecidableEq

/-- `MAX_DELIVER`. -/
def maxDeliver : Nat := 5

structure State where
  /-- The messages in the order in which they were published. -/
  messages : List Message := []
  store : Store := { }
  /-- The events that have been handled, with the time, the last one first. -/
  handled : List (TurnWriteEvent × String) := []

inductive Action
  | publish (event : TurnWriteEvent)
  /-- A message is delivered.  The handler may fail before or after its
  transaction is committed, and the acknowledgement may be lost. -/
  | deliver (index : Nat) (now : String) (committed acked : Bool)

/-- The messages before it have been delivered, and it is still to be
handled. -/
def Deliverable (messages : List Message) (index : Nat) (message : Message) :
    Prop :=
  message.acked = false ∧ message.deliveries < maxDeliver ∧
    ∀ earlier ∈ messages.take index, 0 < earlier.deliveries

instance (messages : List Message) (index : Nat) (message : Message) :
    Decidable (Deliverable messages index message) :=
  inferInstanceAs (Decidable (_ ∧ _ ∧ ∀ earlier ∈ messages.take index, _))

namespace State

/-- The transaction of an event is committed. -/
def commit (state : State) (event : TurnWriteEvent) (now : String) : State :=
  { state with
    store := state.store.handle event now
    handled := (event, now) :: state.handled }

/-- An event id is drawn anew for every event, and an event is acknowledged
only after it has been committed. -/
def step (state : State) : Action → Option State
  | .publish event =>
    if ∀ message ∈ state.messages, message.event.eventId ≠ event.eventId then
      some { state with messages := state.messages ++ [{ event := event }] }
    else none
  | .deliver index now committed acked =>
    match state.messages[index]? with
    | none => none
    | some message =>
      if Deliverable state.messages index message ∧ (acked = true → committed = true) then
        let delivered : Message :=
          { message with
            deliveries := message.deliveries + 1
            acked := acked }
        let next : State := { state with messages := state.messages.set index delivered }
        some (if committed then next.commit message.event now else next)
      else none

end State

def redelivery : TransitionSystem State Action where
  initial state := state = { }
  step := State.step

/-! ## What an event does to a session -/

namespace TurnWriteEvent

/-- The event creates the row of the session when there is none. -/
def opens (event : TurnWriteEvent) (sessionId : String) : Bool :=
  decide (event.sessionId = sessionId) &&
    match event.payload with
    | .startSession | .logTurn _ => true
    | _ => false

/-- The event marks the session as ended. -/
def ends (event : TurnWriteEvent) (sessionId : String) : Bool :=
  decide (event.sessionId = sessionId) &&
    match event.payload with
    | .endSession => true
    | _ => false

def cliSession (event : TurnWriteEvent) (sessionId : String) : Option String :=
  if event.sessionId = sessionId then
    match event.payload with
    | .setCliSession cliSessionId => some cliSessionId
    | _ => none
  else none

def target (event : TurnWriteEvent) (sessionId : String) : Option Int :=
  if event.sessionId = sessionId then
    match event.payload with
    | .incrementResumeCount targetCount => some targetCount
    | _ => none
  else none

end TurnWriteEvent

/-- The greatest of zero and some targets. -/
def highWaterMark (targets : List Int) : Int := targets.foldr max 0

/-- The store after some events, the last one first. -/
def storeAfter (handled : List (TurnWriteEvent × String)) : Store :=
  handled.foldr (fun entry store => store.handle entry.1 entry.2) { }

/-! ## The row after a sequence of events -/

/-- The targets of the increments in `after` that are not in `before`. -/
def newTargets (sessionId : String) (before after : List (TurnWriteEvent × String)) : List Int :=
  (after.filter fun entry => entry.1 ∉ before.map Prod.fst).filterMap
    fun entry => entry.1.target sessionId

@[simp]
theorem highWaterMark_cons (target : Int) (targets : List Int) :
    highWaterMark (target :: targets) = max target (highWaterMark targets) :=
  rfl

theorem le_highWaterMark {target : Int} {targets : List Int}
    (member : target ∈ targets) : target ≤ highWaterMark targets := by
  induction targets with
  | nil => cases member
  | cons other targets ih =>
    rw [highWaterMark_cons]
    rcases List.mem_cons.mp member with rfl | later
    · exact le_max_left _ _
    · exact (ih later).trans (le_max_right _ _)

theorem highWaterMark_mono {first second : List Int} (includes : first ⊆ second) :
    highWaterMark first ≤ highWaterMark second := by
  induction first with
  | nil =>
    clear includes
    induction second with
    | nil => exact le_refl _
    | cons target targets ih => exact ih.trans (le_max_right _ _)
  | cons target targets ih =>
    obtain ⟨member, rest⟩ := List.cons_subset.mp includes
    exact max_le (le_highWaterMark member) (ih rest)

theorem highWaterMark_congr {first second : List Int}
    (same : ∀ target, target ∈ first ↔ target ∈ second) :
    highWaterMark first = highWaterMark second :=
  le_antisymm (highWaterMark_mono fun target => (same target).mp)
    (highWaterMark_mono fun target => (same target).mpr)

namespace Store

theorem sessions_handle_of_ne (store : Store) {event : TurnWriteEvent}
    {sessionId : String} (other : event.sessionId ≠ sessionId) (now : String) :
    (store.handle event now).sessions sessionId = store.sessions sessionId := by
  have different : sessionId ≠ event.sessionId := other.symm
  unfold handle
  cases event.payload with
  | logTurn payload => simp [sessions_logTurn, different]
  | startSession => simp [startSession, sessions_insertSession, different]
  | endSession => simp [endSession, sessions_updateSession, different]
  | setCliSession cliSessionId =>
    simp [setCliSession, sessions_updateSession, different]
  | incrementResumeCount targetCount =>
    by_cases seen : store.processed event.eventId
    · simp [incrementResumeCount, seen]
    · simp [incrementResumeCount, seen, sessions_updateSession, different]

theorem sessions_handle_of_none {store : Store} {event : TurnWriteEvent}
    {sessionId : String} (absent : store.sessions sessionId = none)
    (closed : event.opens sessionId = false) (now : String) :
    (store.handle event now).sessions sessionId = none := by
  by_cases same : event.sessionId = sessionId
  · subst same
    unfold handle
    simp only [TurnWriteEvent.opens, decide_true, Bool.true_and] at closed
    cases kind : event.payload with
    | logTurn payload => simp [kind] at closed
    | startSession => simp [kind] at closed
    | endSession => simp [endSession, sessions_updateSession, absent]
    | setCliSession cliSessionId =>
      simp [setCliSession, sessions_updateSession, absent]
    | incrementResumeCount targetCount =>
      by_cases seen : store.processed event.eventId
      · simp [incrementResumeCount, seen, absent]
      · simp [incrementResumeCount, seen, sessions_updateSession, absent]
  · rw [sessions_handle_of_ne store same, absent]

theorem sessions_handle_of_opens {store : Store} {event : TurnWriteEvent}
    {sessionId : String} (absent : store.sessions sessionId = none)
    (opens : event.opens sessionId = true) (now : String) :
    (store.handle event now).sessions sessionId =
      some { poolId := event.poolId, startedAt := now, lastActiveAt := now } := by
  simp only [TurnWriteEvent.opens, Bool.and_eq_true, decide_eq_true_eq] at opens
  obtain ⟨rfl, kind⟩ := opens
  unfold handle
  cases payload : event.payload with
  | logTurn payload => simp [sessions_logTurn, absent]
  | startSession => simp [startSession, sessions_insertSession, absent]
  | _ => simp [payload] at kind

theorem sessions_handle_of_some {store : Store} {sessionId : String}
    {row : SessionRow} (present : store.sessions sessionId = some row)
    (event : TurnWriteEvent) (now : String) :
    ∃ after, (store.handle event now).sessions sessionId = some after ∧ after.poolId = row.poolId ∧
      after.cliSessionId = (event.cliSession sessionId).or row.cliSessionId ∧
      after.endedAt.isSome = (event.ends sessionId || row.endedAt.isSome) ∧
      after.resumeCount =
        if store.processed event.eventId then row.resumeCount
        else (event.target sessionId).toList.foldr max row.resumeCount := by
  by_cases same : event.sessionId = sessionId
  · subst same
    unfold handle
    cases kind : event.payload with
    | logTurn payload =>
      have stored : (store.logTurn event payload now).sessions
          event.sessionId = some { row with lastActiveAt := now } := by
        simp [sessions_logTurn, present]
      refine ⟨_, stored, rfl, ?_, ?_, ?_⟩
      all_goals simp [TurnWriteEvent.cliSession, TurnWriteEvent.ends, TurnWriteEvent.target, kind]
    | startSession =>
      have stored : (store.startSession event.sessionId event.poolId
          now).sessions event.sessionId = some row := by
        simp [startSession, sessions_insertSession, present]
      refine ⟨row, stored, rfl, ?_, ?_, ?_⟩
      all_goals simp [TurnWriteEvent.cliSession, TurnWriteEvent.ends, TurnWriteEvent.target, kind]
    | endSession =>
      have stored : (store.endSession event.sessionId now).sessions
          event.sessionId = some (if row.endedAt.isNone then
            { row with endedAt := some now } else row) := by
        simp [endSession, sessions_updateSession, present]
      refine ⟨_, stored, ?_, ?_, ?_, ?_⟩
      all_goals
        cases ended : row.endedAt <;>
          simp [TurnWriteEvent.cliSession, TurnWriteEvent.ends, TurnWriteEvent.target, kind, ended]
    | setCliSession cliSessionId =>
      have stored : (store.setCliSession event.sessionId cliSessionId).sessions event.sessionId =
            some { row with cliSessionId := some cliSessionId } := by
        simp [setCliSession, sessions_updateSession, present]
      refine ⟨_, stored, rfl, ?_, ?_, ?_⟩
      all_goals simp [TurnWriteEvent.cliSession, TurnWriteEvent.ends, TurnWriteEvent.target, kind]
    | incrementResumeCount targetCount =>
      by_cases seen : store.processed event.eventId
      · have stored : (store.incrementResumeCount event.eventId
            event.sessionId targetCount).sessions event.sessionId =
              some row := by
          simp [incrementResumeCount, seen, present]
        refine ⟨row, stored, rfl, ?_, ?_, ?_⟩
        all_goals simp [TurnWriteEvent.cliSession, TurnWriteEvent.ends, kind, seen]
      · have stored : (store.incrementResumeCount event.eventId
            event.sessionId targetCount).sessions event.sessionId =
              some { row with
                resumeCount := max row.resumeCount targetCount } := by
          simp [incrementResumeCount, seen, sessions_updateSession, present]
        refine ⟨_, stored, rfl, ?_, ?_, ?_⟩
        all_goals simp [TurnWriteEvent.cliSession, TurnWriteEvent.ends,
          TurnWriteEvent.target, kind, seen, max_comm]
  · refine ⟨row, (sessions_handle_of_ne store same now).trans present, rfl, ?_, ?_, ?_⟩
    all_goals simp [TurnWriteEvent.cliSession, TurnWriteEvent.ends, TurnWriteEvent.target, same]

/-- The increments are the events whose ids `processed_events` gets. -/
theorem processed_handle_iff (store : Store) (event : TurnWriteEvent) (now eventId : String) :
    (store.handle event now).processed eventId = true ↔ store.processed eventId = true ∨
        event.eventId = eventId ∧ (event.target event.sessionId).isSome := by
  unfold handle
  cases kind : event.payload with
  | logTurn payload =>
    have same : (store.logTurn event payload now).processed =
        store.processed := by
      unfold logTurn updateSession insertSession insertTurn
      split <;> split <;> rfl
    simp [same, TurnWriteEvent.target, kind]
  | startSession =>
    have same : (store.startSession event.sessionId event.poolId
        now).processed = store.processed := by
      unfold startSession insertSession
      split <;> rfl
    simp [same, TurnWriteEvent.target, kind]
  | endSession =>
    simp [endSession, updateSession, TurnWriteEvent.target, kind]
  | setCliSession cliSessionId =>
    simp [setCliSession, updateSession, TurnWriteEvent.target, kind]
  | incrementResumeCount targetCount =>
    by_cases seen : store.processed event.eventId
    · have known : event.eventId = eventId → store.processed eventId = true := by
        rintro rfl
        exact seen
      simpa [incrementResumeCount, seen, TurnWriteEvent.target, kind] using known
    · by_cases same : eventId = event.eventId
      · simp [incrementResumeCount, seen, TurnWriteEvent.target, kind, same]
      · simp [incrementResumeCount, updateSession, seen,
          TurnWriteEvent.target, kind, same, Ne.symm same]

end Store

theorem processed_storeAfter_iff {handled : List (TurnWriteEvent × String)} {eventId : String} :
    (storeAfter handled).processed eventId = true ↔ ∃ entry ∈ handled, entry.1.eventId = eventId ∧
        (entry.1.target entry.1.sessionId).isSome := by
  induction handled with
  | nil => simp [storeAfter]
  | cons entry handled ih =>
    rw [storeAfter, List.foldr_cons, Store.processed_handle_iff]
    simp only [List.mem_cons, exists_eq_or_imp]
    rw [or_comm]
    exact or_congr Iff.rfl ih

theorem sessionId_of_target {event : TurnWriteEvent} {sessionId : String}
    {target : Int} (targets : event.target sessionId = some target) :
    event.sessionId = sessionId := by
  by_contra other
  simp [TurnWriteEvent.target, other] at targets

theorem target_of_opens {event : TurnWriteEvent} {sessionId : String}
    {target : Int} (opens : event.opens sessionId = true) :
    event.target sessionId ≠ some target := by
  simp only [TurnWriteEvent.opens, Bool.and_eq_true, decide_eq_true_eq] at opens
  obtain ⟨rfl, kind⟩ := opens
  cases payload : event.payload <;>
    simp_all [TurnWriteEvent.target]

theorem sessionId_of_ends {event : TurnWriteEvent} {sessionId : String}
    (ends : event.ends sessionId = true) : event.sessionId = sessionId := by
  simp only [TurnWriteEvent.ends, Bool.and_eq_true, decide_eq_true_eq] at ends
  exact ends.1

theorem ends_of_opens {event : TurnWriteEvent} {sessionId : String}
    (opens : event.opens sessionId = true) : event.ends sessionId = false := by
  simp only [TurnWriteEvent.opens, Bool.and_eq_true, decide_eq_true_eq] at opens
  obtain ⟨rfl, kind⟩ := opens
  cases payload : event.payload <;>
    simp_all [TurnWriteEvent.ends]

theorem sessions_storeAfter_of_closed {sessionId : String}
    {handled : List (TurnWriteEvent × String)}
    (closed : ∀ entry ∈ handled, entry.1.opens sessionId = false) :
    (storeAfter handled).sessions sessionId = none := by
  induction handled with
  | nil => rfl
  | cons entry handled ih =>
    apply Store.sessions_handle_of_none
    · exact ih fun other member => closed other (List.mem_cons_of_mem _ member)
    · exact closed entry List.mem_cons_self

/-- What the row of a session tells about the events in `after`, which have
been handled since it was created. -/
structure Describes (sessionId : String)
    (before after : List (TurnWriteEvent × String)) (row : SessionRow) :
    Prop where
  cliSessionId : row.cliSessionId = after.findSome? fun entry => entry.1.cliSession sessionId
  resumeCount : row.resumeCount = highWaterMark (newTargets sessionId before after)
  ended : row.endedAt.isSome = after.any fun entry => entry.1.ends sessionId

/-- An increment counts when it is handled for the first time, and makes no
difference when it is handled again. -/
theorem highWaterMark_newTargets_cons {sessionId : String}
    {before after : List (TurnWriteEvent × String)}
    {first entry : TurnWriteEvent × String}
    (opens : first.1.opens sessionId = true)
    (distinct : ∀ one ∈ entry :: (after ++ first :: before),
      ∀ other ∈ entry :: (after ++ first :: before),
        one.1.eventId = other.1.eventId → one.1 = other.1) :
    highWaterMark (newTargets sessionId before (entry :: after)) =
      if (storeAfter (after ++ first :: before)).processed entry.1.eventId then
        highWaterMark (newTargets sessionId before after)
      else (entry.1.target sessionId).toList.foldr max
        (highWaterMark (newTargets sessionId before after)) := by
  cases targets : entry.1.target sessionId with
  | none =>
    have same : newTargets sessionId before (entry :: after) =
        newTargets sessionId before after := by
      unfold newTargets
      rw [List.filter_cons]
      split
      · exact List.filterMap_cons_none targets
      · rfl
    rw [same, Option.toList_none, List.foldr_nil, ite_self]
  | some target =>
    have own := sessionId_of_target targets
    have increments : (entry.1.target entry.1.sessionId).isSome := by
      rw [own, targets]
      rfl
    by_cases known : entry.1 ∈ before.map Prod.fst
    · -- the increment has been lost before the row was there
      have same : newTargets sessionId before (entry :: after) =
          newTargets sessionId before after := by
        simp only [newTargets, List.filter_cons, known, not_true_eq_false,
          decide_false, Bool.false_eq_true, if_false]
      have seen : (storeAfter (after ++ first :: before)).processed entry.1.eventId = true := by
        obtain ⟨other, member, sameEvent⟩ := List.mem_map.mp known
        apply processed_storeAfter_iff.mpr
        refine ⟨other, ?_, congrArg _ sameEvent, ?_⟩
        · exact List.mem_append_right _ (List.mem_cons_of_mem _ member)
        · rw [sameEvent]
          exact increments
      rw [same, if_pos seen]
    · have new : newTargets sessionId before (entry :: after) =
          target :: newTargets sessionId before after := by
        simp only [newTargets, List.filter_cons, known, not_false_eq_true,
          decide_true, if_true]
        exact List.filterMap_cons_some targets
      rw [new, highWaterMark_cons, Option.toList_some, List.foldr_cons, List.foldr_nil]
      split
      case isTrue seen =>
        obtain ⟨other, member, sameId, -⟩ := processed_storeAfter_iff.mp seen
        have sameEvent : other.1 = entry.1 := distinct other
          (List.mem_cons_of_mem _ member) entry List.mem_cons_self sameId
        apply max_eq_right
        apply le_highWaterMark
        have inAfter : other ∈ after := by
          rcases List.mem_append.mp member with later | earlier
          · exact later
          · rcases List.mem_cons.mp earlier with rfl | lost
            · rw [sameEvent] at opens
              exact absurd targets (target_of_opens opens)
            · exact absurd (List.mem_map.mpr ⟨other, lost, sameEvent⟩) known
        apply List.mem_filterMap.mpr
        refine ⟨other, List.mem_filter.mpr ⟨inAfter, ?_⟩, ?_⟩
        · rw [sameEvent]
          exact decide_eq_true known
        · rw [sameEvent]
          exact targets
      case isFalse => rfl

theorem describes_storeAfter {sessionId : String} {before after : List (TurnWriteEvent × String)}
    {first : TurnWriteEvent × String}
    (closed : ∀ entry ∈ before, entry.1.opens sessionId = false)
    (opens : first.1.opens sessionId = true)
    (distinct : ∀ one ∈ after ++ first :: before, ∀ other ∈ after ++ first :: before,
        one.1.eventId = other.1.eventId → one.1 = other.1) :
    ∃ row, (storeAfter (after ++ first :: before)).sessions sessionId = some row ∧
      row.poolId = first.1.poolId ∧ Describes sessionId before after row := by
  induction after with
  | nil =>
    refine ⟨_, Store.sessions_handle_of_opens
      (sessions_storeAfter_of_closed closed) opens first.2, rfl, rfl, rfl, rfl⟩
  | cons entry after ih =>
    obtain ⟨row, present, pool, describes⟩ := ih fun one member other
      otherMember => distinct one (List.mem_cons_of_mem _ member) other
        (List.mem_cons_of_mem _ otherMember)
    obtain ⟨next, stored, samePool, cli, ended, count⟩ :=
      Store.sessions_handle_of_some present entry.1 entry.2
    refine ⟨next, stored, samePool.trans pool, ?_, ?_, ?_⟩
    · rw [cli, describes.cliSessionId, List.findSome?_cons]
      cases entry.1.cliSession sessionId <;> rfl
    · rw [count, describes.resumeCount, highWaterMark_newTargets_cons opens distinct]
    · rw [ended, describes.ended, List.any_cons]

/-- When the row was there before any other event of the session, and the events
that were handled are those of the messages, the greatest target and the end are
those of the messages. -/
theorem Describes.of_complete {sessionId : String} {before after : List (TurnWriteEvent × String)}
    {first : TurnWriteEvent × String} {row : SessionRow}
    {messages : List Message} (describes : Describes sessionId before after row)
    (opens : first.1.opens sessionId = true)
    (untouched : ∀ entry ∈ before, entry.1.sessionId ≠ sessionId)
    (published : ∀ entry ∈ after, ∃ message ∈ messages, message.event = entry.1)
    (complete : ∀ message ∈ messages, ∃ entry ∈ after ++ first :: before, entry.1 = message.event) :
    row.resumeCount = highWaterMark (messages.filterMap
        fun message => message.event.target sessionId) ∧
      row.endedAt.isSome = messages.any
        fun message => message.event.ends sessionId := by
  have inAfter : ∀ entry ∈ after ++ first :: before,
      entry.1.sessionId = sessionId → entry ≠ first → entry ∈ after := by
    intro entry member own other
    rcases List.mem_append.mp member with later | earlier
    · exact later
    · rcases List.mem_cons.mp earlier with same | lost
      · exact absurd same other
      · exact absurd own (untouched entry lost)
  constructor
  · rw [describes.resumeCount]
    apply highWaterMark_congr
    intro target
    constructor
    · intro member
      obtain ⟨entry, kept, targets⟩ := List.mem_filterMap.mp member
      obtain ⟨message, known, same⟩ := published entry (List.mem_filter.mp kept).1
      apply List.mem_filterMap.mpr
      exact ⟨message, known, same ▸ targets⟩
    · intro member
      obtain ⟨message, known, targets⟩ := List.mem_filterMap.mp member
      obtain ⟨entry, handled, same⟩ := complete message known
      rw [← same] at targets
      have own := sessionId_of_target targets
      have later : entry ∈ after := by
        apply inAfter entry handled own
        rintro rfl
        exact target_of_opens opens targets
      apply List.mem_filterMap.mpr
      refine ⟨entry, List.mem_filter.mpr ⟨later, ?_⟩, targets⟩
      apply decide_eq_true
      intro lost
      obtain ⟨other, otherLost, sameEvent⟩ := List.mem_map.mp lost
      exact untouched other otherLost (sameEvent ▸ own)
  · rw [describes.ended, Bool.eq_iff_iff, List.any_eq_true, List.any_eq_true]
    constructor
    · rintro ⟨entry, member, ends⟩
      obtain ⟨message, known, same⟩ := published entry member
      exact ⟨message, known, same ▸ ends⟩
    · rintro ⟨message, known, ends⟩
      obtain ⟨entry, handled, same⟩ := complete message known
      rw [← same] at ends
      refine ⟨entry, inAfter entry handled (sessionId_of_ends ends) ?_, ends⟩
      rintro rfl
      rw [ends_of_opens opens] at ends
      cases ends

/-! ## Runs of the consumer -/

structure State.Sound (state : State) : Prop where
  store : state.store = storeAfter state.handled
  published : ∀ entry ∈ state.handled, ∃ message ∈ state.messages, message.event = entry.1
  distinct : ∀ one ∈ state.messages, ∀ other ∈ state.messages,
    one.event.eventId = other.event.eventId → one.event = other.event

theorem State.Sound.publish {state : State} (sound : state.Sound) {event : TurnWriteEvent}
    (fresh : ∀ message ∈ state.messages, message.event.eventId ≠ event.eventId) :
    State.Sound { state with messages := state.messages ++ [{ event := event }] } := by
  refine ⟨sound.store, ?_, ?_⟩
  · intro entry member
    obtain ⟨message, known, same⟩ := sound.published entry member
    exact ⟨message, List.mem_append_left _ known, same⟩
  · intro one oneMember other otherMember sameId
    rcases List.mem_append.mp oneMember with oneKnown | oneNew
    · rcases List.mem_append.mp otherMember with otherKnown | otherNew
      · exact sound.distinct one oneKnown other otherKnown sameId
      · obtain rfl := List.mem_singleton.mp otherNew
        exact absurd sameId (fresh one oneKnown)
    · obtain rfl := List.mem_singleton.mp oneNew
      rcases List.mem_append.mp otherMember with otherKnown | otherNew
      · exact absurd sameId.symm (fresh other otherKnown)
      · obtain rfl := List.mem_singleton.mp otherNew
        rfl

theorem State.Sound.setMessage {state : State} (sound : state.Sound)
    {index : Nat} {message delivered : Message}
    (found : state.messages[index]? = some message)
    (same : delivered.event = message.event) :
    State.Sound { state with messages := state.messages.set index delivered } := by
  have events : ∀ other ∈ state.messages.set index delivered,
      ∃ known ∈ state.messages, known.event = other.event := by
    intro other member
    rcases List.mem_or_eq_of_mem_set member with known | rfl
    · exact ⟨other, known, rfl⟩
    · exact ⟨message, List.mem_of_getElem? found, same.symm⟩
  have covers : ∀ known ∈ state.messages, ∃ other ∈ state.messages.set index delivered,
        other.event = known.event := by
    intro known member
    obtain ⟨place, inside, rfl⟩ := List.getElem_of_mem member
    have inside' : place < (state.messages.set index delivered).length := by
      simpa using inside
    refine ⟨(state.messages.set index delivered)[place], List.getElem_mem inside', ?_⟩
    rw [List.getElem_set]
    split
    case isTrue here =>
      subst here
      rw [List.getElem?_eq_getElem inside, Option.some.injEq] at found
      rw [same, ← found]
    case isFalse => rfl
  refine ⟨sound.store, ?_, ?_⟩
  · intro entry member
    obtain ⟨known, knownMember, sameEvent⟩ := sound.published entry member
    obtain ⟨other, otherMember, otherEvent⟩ := covers known knownMember
    exact ⟨other, otherMember, otherEvent.trans sameEvent⟩
  · intro one oneMember other otherMember sameId
    obtain ⟨oneKnown, oneIn, oneEvent⟩ := events one oneMember
    obtain ⟨otherKnown, otherIn, otherEvent⟩ := events other otherMember
    rw [← oneEvent, ← otherEvent] at sameId ⊢
    exact sound.distinct oneKnown oneIn otherKnown otherIn sameId

theorem State.Sound.commit {state : State} (sound : state.Sound)
    {message : Message} (member : message ∈ state.messages) (now : String) :
    (state.commit message.event now).Sound := by
  refine ⟨?_, ?_, sound.distinct⟩
  · rw [State.commit, storeAfter, List.foldr_cons, sound.store]
    rfl
  · intro entry handled
    rcases List.mem_cons.mp handled with rfl | earlier
    · exact ⟨message, member, rfl⟩
    · exact sound.published entry earlier

theorem sound_of_redelivery {state : State}
    (reached : redelivery.Reachable state) : state.Sound := by
  apply reached.invariant
  · rintro initial rfl
    exact ⟨rfl, by simp, by simp⟩
  · intro before action after sound _ stepTo
    cases action with
    | publish event =>
      simp only [redelivery, State.step] at stepTo
      split at stepTo
      case isTrue fresh =>
        obtain rfl := Option.some.inj stepTo
        exact sound.publish fresh
      case isFalse => cases stepTo
    | deliver index now committed acked =>
      simp only [redelivery, State.step] at stepTo
      cases found : before.messages[index]? with
      | none => simp [found] at stepTo
      | some message =>
        simp only [found] at stepTo
        split at stepTo
        case isTrue =>
          obtain rfl := Option.some.inj stepTo
          let delivered : Message := { message with
            deliveries := message.deliveries + 1
            acked := acked }
          have counted : State.Sound { before with
              messages := before.messages.set index delivered } :=
            sound.setMessage found rfl
          cases committed with
          | false => exact counted
          | true =>
            have inside : index < before.messages.length := (List.getElem?_eq_some_iff.mp found).1
            have member := List.mem_set inside delivered
            exact counted.commit member now
        case isFalse => cases stepTo

/-- The row of a session, in every state that publications, deliveries and
redeliveries lead to.  It is there when an event that creates it has been
handled, and then it has the CLI session of the event handled last, the
greatest target that was handled for the first time, and whether an end was
handled.  When no event of the session was handled earlier, and every event has
been handled, the greatest target and the end do not depend on the order. -/
theorem row_of_reachable {state : State}
    (reached : redelivery.Reachable state) (sessionId : String) :
    ((∀ entry ∈ state.handled, entry.1.opens sessionId = false) →
      state.store.sessions sessionId = none) ∧
    ∀ after first before, state.handled = after ++ first :: before →
      first.1.opens sessionId = true →
      (∀ entry ∈ before, entry.1.opens sessionId = false) →
      ∃ row, state.store.sessions sessionId = some row ∧
        row.poolId = first.1.poolId ∧ Describes sessionId before after row ∧
        ((∀ entry ∈ before, entry.1.sessionId ≠ sessionId) → (∀ message ∈ state.messages,
            ∃ entry ∈ state.handled, entry.1 = message.event) →
          row.resumeCount = highWaterMark (state.messages.filterMap
              fun message => message.event.target sessionId) ∧
            row.endedAt.isSome = state.messages.any
              fun message => message.event.ends sessionId) := by
  have sound := sound_of_redelivery reached
  constructor
  · intro closed
    rw [sound.store]
    exact sessions_storeAfter_of_closed closed
  · intro after first before handled opens closed
    have distinct : ∀ one ∈ state.handled, ∀ other ∈ state.handled,
        one.1.eventId = other.1.eventId → one.1 = other.1 := by
      intro one oneMember other otherMember sameId
      obtain ⟨oneMessage, oneIn, oneEvent⟩ := sound.published one oneMember
      obtain ⟨otherMessage, otherIn, otherEvent⟩ := sound.published other otherMember
      rw [← oneEvent, ← otherEvent] at sameId ⊢
      exact sound.distinct oneMessage oneIn otherMessage otherIn sameId
    rw [handled] at distinct
    obtain ⟨row, present, pool, describes⟩ := describes_storeAfter closed opens distinct
    refine ⟨row, ?_, pool, describes, ?_⟩
    · rw [sound.store, handled]
      exact present
    · intro untouched complete
      apply describes.of_complete opens untouched
      · intro entry member
        apply sound.published
        rw [handled]
        exact List.mem_append_left _ member
      · rw [handled] at complete
        exact complete

section Example

def sessionEvent (eventId : String) (payload : TurnWritePayload) : TurnWriteEvent where
  eventId := eventId
  poolId := "telegram:lyra:1"
  sessionId := "s1"
  platform := "telegram"
  userId := "u1"
  payload := payload

/-- A start and two other events are published and the start is handled. -/
def publishAfterStart (second third : TurnWritePayload) : List Action :=
  [.publish (sessionEvent "e1" .startSession),
    .publish (sessionEvent "e2" second), .publish (sessionEvent "e3" third),
    .deliver 0 "1" true true]

/-- The second event fails once, so the third one is handled first. -/
def swapLast : List Action := [.deliver 1 "2" false false, .deliver 2 "3" true true,
    .deliver 1 "4" true true]

/-- An increment that is handled twice, with a lost acknowledgement, and one
with a smaller target. -/
theorem row_of_redelivered_increment : ∃ state row, redelivery.Reachable state ∧
      state.store.sessions "s1" = some row ∧ row.resumeCount = 2 ∧ row.endedAt.isSome = false := by
  let second := sessionEvent "e2" (.incrementResumeCount 2)
  let third := sessionEvent "e3" (.incrementResumeCount 1)
  have run : ∃ state, redelivery.Reachable state ∧
      state.handled = [(second, "4"), (third, "3"), (second, "2")] ++
        [(sessionEvent "e1" .startSession, "1")] ∧
      state.messages.map Message.event = [sessionEvent "e1" .startSession, second, third] :=
    TransitionSystem.exists_reachable_of_run { } rfl
      (publishAfterStart (.incrementResumeCount 2) (.incrementResumeCount 1) ++
        [.deliver 1 "2" true false, .deliver 2 "3" true true, .deliver 1 "4" true true])
      (by decide)
  obtain ⟨state, reached, handled, published⟩ := run
  obtain ⟨row, present, -, describes, -⟩ :=
    (row_of_reachable reached "s1").2 _ _ _ handled (by decide) (by simp)
  refine ⟨state, row, reached, present, ?_, ?_⟩
  · rw [describes.resumeCount]
    decide
  · rw [describes.ended]
    decide

/-- The CLI session that was published first stays when its event is handled
last; two increments with one target count once; and a session that is started
again stays ended. -/
theorem exists_row_not_as_published : (∃ state, redelivery.Reachable state ∧
      (∀ message ∈ state.messages, message.acked = true) ∧
      state.messages.map (fun message => message.event.payload) =
        [.startSession, .setCliSession "a", .setCliSession "b"] ∧
      (state.store.sessions "s1").map SessionRow.cliSessionId = some (some "a")) ∧
    (∃ state, redelivery.Reachable state ∧ (∀ message ∈ state.messages, message.acked = true) ∧
      state.messages.map (fun message => message.event.payload) =
        [.startSession, .incrementResumeCount 1, .incrementResumeCount 1] ∧
      (state.store.sessions "s1").map SessionRow.resumeCount = some 1) ∧
    ∃ state, redelivery.Reachable state ∧ (∀ message ∈ state.messages, message.acked = true) ∧
      state.messages.map (fun message => message.event.payload) =
        [.startSession, .endSession, .startSession] ∧
      ((state.store.sessions "s1").any fun row => row.endedAt.isSome) =
        true := by
  refine ⟨?_, ?_, ?_⟩
  · exact TransitionSystem.exists_reachable_of_run { } rfl
      (publishAfterStart (.setCliSession "a") (.setCliSession "b") ++ swapLast)
      (by decide)
  · exact TransitionSystem.exists_reachable_of_run { } rfl
      (publishAfterStart (.incrementResumeCount 1) (.incrementResumeCount 1) ++
        swapLast)
      (by decide)
  · exact TransitionSystem.exists_reachable_of_run { } rfl
      (publishAfterStart .endSession .startSession ++
        [.deliver 1 "2" true true, .deliver 2 "3" true true])
      (by decide)

end Example

end TurnWriter

end RoxabiFactory
