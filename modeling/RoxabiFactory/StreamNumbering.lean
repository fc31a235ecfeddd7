import RoxabiFactory.NatsStreaming

/-!
# The numbers of the chunks of a stream

The publish loop of `send_streaming` reads the counter, awaits `publish` and
then advances the counter; the keep-alive loop advances it before its own
`publish`.  Here the two loops interleave at every `await`: a chunk reaches
the wire at some moment of its `publish`, or not at all when that fails.
-/

namespace RoxabiFactory

namespace StreamNumbering

open DataclassCodec RenderEventCodec

/-- What a chunk holds besides the id of the stream. -/
structure Chunk where
  seq : ℕ
  eventType : String
  payload : Json
  done : Bool

def Chunk.toJson (streamId : String) (chunk : Chunk) : Json :=
  NatsStreaming.chunk streamId chunk.seq chunk.eventType chunk.payload chunk.done

/-- Where the publish loop is. -/
inductive Main
  /-- In `async for`, at the next event. -/
  | waiting
  /-- In the `publish` of an event, or of the closing chunk.  The chunk may
  have reached the wire, and the keep-alive loop may have taken a number since
  this `publish` began. -/
  | publishing (chunk : Chunk) (closing sent raced : Bool)
  /-- In the `except` clause, after a `publish` whose chunk may have reached
  the wire. -/
  | draining (sent : Bool)
  | closed

/-- Where the keep-alive loop is. -/
inductive Keepalive
  | sleeping (wakeAt : ℕ)
  | publishing (chunk : Chunk) (sent : Bool)
  | stopped

/-- `KEEPALIVE_INTERVAL_S`, in milliseconds. -/
def keepaliveInterval : ℕ := 30000

structure Sending where
  /-- The events that the iterator has still got. -/
  events : List (RenderEvent String)
  now : ℕ := 0
  seqBox : ℕ := 0
  lastPublishBox : ℕ := 0
  main : Main := .waiting
  keepalive : Keepalive := .sleeping keepaliveInterval
  /-- The chunks that have reached the wire. -/
  wire : List Chunk := []
  /-- The `publish` of a keep-alive failed before its chunk reached the
  wire. -/
  lost : Bool := false

inductive Action
  | tick (elapsed : ℕ)
  /-- The `publish` of the next event begins, or else of the closing chunk. -/
  | publish
  /-- The chunk of the publish loop reaches the wire. -/
  | deliver
  /-- The `publish` of the publish loop returns. -/
  | published
  /-- The iterator, `encode` or the `publish` raises. -/
  | fail
  /-- The iterator is exhausted after a failure. -/
  | drained
  /-- `send_streaming` is cancelled. -/
  | cancel
  /-- The keep-alive loop wakes up. -/
  | wake
  | deliverKeepalive
  | keepalivePublished
  /-- The `publish` of the keep-alive raises, an error of NATS or another
  exception. -/
  | keepaliveFails (isNatsError : Bool)

namespace Main

/-- The chunk of the current `publish`, or of the one that failed, has reached
the wire, and the counter has not been advanced for it. -/
def isAhead : Main → Bool
  | publishing _ _ sent _ => sent
  | draining sent => sent
  | _ => false

/-- The keep-alive loop has taken a number since the `publish` began. -/
def isRaced : Main → Bool
  | publishing _ _ _ raced => raced
  | _ => false

/-- The keep-alive loop takes a number. -/
def race : Main → Main
  | publishing chunk closing sent _ => publishing chunk closing sent true
  | main => main

end Main

/-- The chunk of a keep-alive that has a number and is not on the wire. -/
def Keepalive.pending : Keepalive → Option Chunk
  | publishing chunk false => some chunk
  | _ => none

variable (validate : ModelValidate)

namespace Sending

/-- The next chunk of the publish loop, and whether it is the closing one. -/
def nextChunk (sending : Sending) : Option (Chunk × Bool) :=
  match sending.events with
  | [] => some (⟨sending.seqBox, "stream_end", .obj [], true⟩, true)
  | event :: _ =>
    match encode validate event.toPyObject with
    | .ok (eventType, payload, isDone) =>
      some (⟨sending.seqBox, eventType, payload, isDone⟩, false)
    | .error _ => none

/-- The `finally` clause. -/
def close (sending : Sending) : Sending := { sending with main := .closed, keepalive := .stopped }

/-- The keep-alive loop has woken up. -/
def wake (sending : Sending) : Sending :=
  if sending.lastPublishBox + keepaliveInterval ≤ sending.now then
    { sending with
      keepalive := .publishing ⟨sending.seqBox, "stream_keepalive", .obj [], false⟩ false
      seqBox := sending.seqBox + 1
      main := sending.main.race }
  else
    { sending with keepalive := .sleeping (sending.now + keepaliveInterval) }

def step (sending : Sending) : Action → Option Sending
  | .tick elapsed => some { sending with now := sending.now + elapsed }
  | .publish =>
    match sending.main, nextChunk validate sending with
    | .waiting, some (chunk, closing) => some { sending with
        events := sending.events.tail
        main := .publishing chunk closing false false }
    | _, _ => none
  | .deliver =>
    match sending.main with
    | .publishing chunk closing false raced => some { sending with
        main := .publishing chunk closing true raced
        wire := sending.wire ++ [chunk] }
    | _ => none
  | .published =>
    match sending.main with
    | .publishing _ true true _ => some sending.close
    | .publishing _ false true _ => some { sending with
        main := .waiting
        lastPublishBox := sending.now
        seqBox := sending.seqBox + 1 }
    | _ => none
  | .fail =>
    match sending.main with
    | .waiting => some { sending with main := .draining false }
    | .publishing _ _ sent _ => some { sending with main := .draining sent }
    | _ => none
  | .drained =>
    match sending.main with
    | .draining _ => some sending.close
    | _ => none
  | .cancel =>
    match sending.main with
    | .closed => none
    | _ => some sending.close
  | .wake =>
    match sending.keepalive with
    | .sleeping wakeAt =>
      if wakeAt ≤ sending.now then some sending.wake else none
    | _ => none
  | .deliverKeepalive =>
    match sending.keepalive with
    | .publishing chunk false => some { sending with
        keepalive := .publishing chunk true
        wire := sending.wire ++ [chunk] }
    | _ => none
  | .keepalivePublished =>
    match sending.keepalive with
    | .publishing _ true => some { sending with
        keepalive := .sleeping (sending.now + keepaliveInterval) }
    | _ => none
  | .keepaliveFails isNatsError =>
    match sending.keepalive with
    | .publishing _ sent => some { sending with
        keepalive :=
          if isNatsError then .sleeping (sending.now + keepaliveInterval)
          else .stopped
        lost := sending.lost || !sent }
    | _ => none

/-- The numbers on the wire are 0, 1, 2, and so on. -/
def Contiguous (sending : Sending) : Prop :=
  sending.wire.map Chunk.seq = List.range sending.wire.length

/-- The step does not let the two loops take one number for two chunks, or
overtake each other, or go on after a number has been lost. -/
def Admits (sending : Sending) : Action → Prop
  | .wake => sending.main.isAhead = false ∨ sending.now < sending.lastPublishBox + keepaliveInterval
  | .deliver => sending.lost = false ∧ sending.keepalive.pending.isNone = true ∧
      sending.main.isRaced = false
  | .deliverKeepalive => sending.lost = false
  | _ => True

instance (sending : Sending) : Decidable sending.Contiguous := inferInstanceAs (Decidable (_ = _))

instance (sending : Sending) (action : Action) : Decidable (sending.Admits action) :=
  match action with
  | .wake => inferInstanceAs (Decidable (_ ∨ _))
  | .deliver => inferInstanceAs (Decidable (_ ∧ _))
  | .deliverKeepalive => inferInstanceAs (Decidable (_ = _))
  | .tick _ | .publish | .published | .fail | .drained | .cancel
  | .keepalivePublished | .keepaliveFails _ => isTrue trivial

end Sending

/-- `send_streaming` of these events. -/
def sendStreaming (events : List (RenderEvent String)) : TransitionSystem Sending Action where
  initial sending := sending = { events := events }
  step := Sending.step validate

variable {validate}

namespace Sending

/-! ## What the counter says -/

/-- While no number is lost and the stream is open, the counter is the number
of chunks on the wire, up to the chunks that the two loops have in hand. -/
structure Aligned (sending : Sending) : Prop where
  pending : ∀ chunk ∈ sending.keepalive.pending, chunk.seq = sending.wire.length
  behind : sending.main.isAhead = false → sending.seqBox = sending.wire.length +
      sending.keepalive.pending.toList.length
  ahead : sending.main.isAhead = true → sending.keepalive.pending = none ∧
      sending.seqBox + 1 = sending.wire.length
  next : ∀ chunk closing, sending.main = .publishing chunk closing false false →
    chunk.seq = sending.seqBox

/-- The invariant of the admissible runs. -/
structure Numbered (sending : Sending) : Prop where
  contiguous : sending.Contiguous
  stopped : sending.main = .closed → sending.keepalive = .stopped
  aligned : sending.lost = false → sending.main ≠ .closed → sending.Aligned

variable {sending after : Sending}

theorem numbered_start (events : List (RenderEvent String)) :
    Numbered { events := events } where
  contiguous := rfl
  stopped closed := by cases closed
  aligned _ _ :=
    { pending := by simp [Keepalive.pending]
      behind := fun _ => rfl
      ahead := by simp [Main.isAhead]
      next := by simp }

theorem Contiguous.append (contiguous : sending.Contiguous) {chunk : Chunk}
    (fits : chunk.seq = sending.wire.length) :
    (sending.wire ++ [chunk]).map Chunk.seq =
      List.range (sending.wire ++ [chunk]).length := by
  rw [List.map_append, contiguous, List.length_append, List.length_singleton,
    List.range_succ, List.map_singleton, fits]

theorem Numbered.close (numbered : sending.Numbered) : sending.close.Numbered where
  contiguous := numbered.contiguous
  stopped _ := rfl
  aligned _ is := absurd rfl is

/-- A step of the publish loop that puts nothing on the wire and keeps the
counter. -/
theorem Numbered.setMain (numbered : sending.Numbered) (main : Main)
    (opened : sending.main ≠ .closed) (still : main ≠ .closed)
    (same : main.isAhead = sending.main.isAhead)
    (next : ∀ chunk closing, main = .publishing chunk closing false false →
      chunk.seq = sending.seqBox) (events : List (RenderEvent String)) :
    Numbered { sending with events := events, main := main } where
  contiguous := numbered.contiguous
  stopped closed := absurd closed still
  aligned kept _ :=
    let aligned := numbered.aligned kept opened
    { pending := aligned.pending
      behind := fun behind => aligned.behind (same.symm.trans behind)
      ahead := fun ahead => aligned.ahead (same.symm.trans ahead)
      next := next }

/-- A step of the keep-alive loop that puts nothing on the wire and keeps the
counter. -/
theorem Numbered.setKeepalive (numbered : sending.Numbered) (keepalive : Keepalive) (lost : Bool)
    (running : sending.keepalive ≠ .stopped)
    (same : lost = false → sending.lost = false ∧ keepalive.pending = sending.keepalive.pending) :
    Numbered { sending with keepalive := keepalive, lost := lost } where
  contiguous := numbered.contiguous
  stopped closed := absurd (numbered.stopped closed) running
  aligned kept opened := by
    obtain ⟨before, pending⟩ := same kept
    have aligned := numbered.aligned before opened
    exact
      { pending := by rw [pending]; exact aligned.pending
        behind := by rw [pending]; exact aligned.behind
        ahead := by rw [pending]; exact aligned.ahead
        next := aligned.next }

theorem Numbered.publish (numbered : sending.Numbered)
    (stepTo : sending.step validate .publish = some after) :
    after.Numbered := by
  unfold step at stepTo
  cases main : sending.main with
  | waiting =>
    cases found : sending.nextChunk validate with
    | none => simp [main, found] at stepTo
    | some pair =>
      simp only [main, found, Option.some.injEq] at stepTo
      subst stepTo
      apply numbered.setMain
      · simp [main]
      · simp
      · simp [main, Main.isAhead]
      · rintro chunk closing same
        cases same
        unfold nextChunk at found
        split at found
        · cases found
          rfl
        · split at found
          · cases found
            rfl
          · cases found
  | _ => simp [main] at stepTo

theorem Numbered.deliver (numbered : sending.Numbered) (admits : sending.Admits .deliver)
    (stepTo : sending.step validate .deliver = some after) :
    after.Numbered := by
  obtain ⟨kept, none, unraced⟩ := admits
  rw [Option.isNone_iff_eq_none] at none
  unfold step at stepTo
  cases main : sending.main with
  | publishing chunk closing sent raced =>
    cases sent with
    | true => simp [main] at stepTo
    | false =>
      rw [main, Main.isRaced] at unraced
      subst unraced
      simp only [main, Option.some.injEq] at stepTo
      subst stepTo
      have aligned := numbered.aligned kept (by simp [main])
      have counted := aligned.behind (by simp [main, Main.isAhead])
      have numberEq := aligned.next chunk closing main
      simp only [none, Option.toList_none, List.length_nil] at counted
      have fits : chunk.seq = sending.wire.length := by omega
      constructor
      · exact numbered.contiguous.append fits
      · simp
      · intro _ _
        constructor
        · simp [none]
        · simp [Main.isAhead]
        · intro _
          refine ⟨none, ?_⟩
          dsimp only
          rw [List.length_append, List.length_singleton, counted]
        · rintro other last ⟨⟩
  | _ => simp [main] at stepTo

theorem Numbered.published (numbered : sending.Numbered)
    (stepTo : sending.step validate .published = some after) :
    after.Numbered := by
  unfold step at stepTo
  cases main : sending.main with
  | publishing chunk closing sent raced =>
    cases sent with
    | false => simp [main] at stepTo
    | true =>
      cases closing with
      | true =>
        simp only [main, Option.some.injEq] at stepTo
        exact stepTo ▸ numbered.close
      | false =>
        simp only [main, Option.some.injEq] at stepTo
        subst stepTo
        refine ⟨numbered.contiguous, by simp, fun kept _ => ?_⟩
        have aligned := numbered.aligned kept (by simp [main])
        obtain ⟨none, counted⟩ := aligned.ahead (by simp [main, Main.isAhead])
        constructor
        · exact aligned.pending
        · intro _
          simp only [none, Option.toList_none, List.length_nil]
          omega
        · simp [Main.isAhead]
        · simp
  | _ => simp [main] at stepTo

theorem Numbered.fail (numbered : sending.Numbered)
    (stepTo : sending.step validate .fail = some after) :
    after.Numbered := by
  unfold step at stepTo
  cases main : sending.main with
  | waiting =>
    simp only [main, Option.some.injEq] at stepTo
    subst stepTo
    apply numbered.setMain
    · simp [main]
    · simp
    · simp [main, Main.isAhead]
    · simp
  | publishing chunk closing sent raced =>
    simp only [main, Option.some.injEq] at stepTo
    subst stepTo
    apply numbered.setMain
    · simp [main]
    · simp
    · simp [main, Main.isAhead]
    · simp
  | _ => simp [main] at stepTo

theorem isAhead_race (main : Main) : main.race.isAhead = main.isAhead := by
  cases main <;> rfl

theorem Numbered.wake (numbered : sending.Numbered) (admits : sending.Admits .wake) {wakeAt : ℕ}
    (asleep : sending.keepalive = .sleeping wakeAt) :
    sending.wake.Numbered := by
  have idle : sending.keepalive.pending = none := by
    rw [asleep]
    rfl
  have running : sending.keepalive ≠ .stopped := by simp [asleep]
  have before : sending.main ≠ .closed :=
    fun closed => running (numbered.stopped closed)
  unfold Sending.wake
  by_cases fires : sending.lastPublishBox + keepaliveInterval ≤ sending.now
  · rw [if_pos fires]
    have behind : sending.main.isAhead = false := by
      rcases admits with behind | early
      · exact behind
      · omega
    refine ⟨numbered.contiguous, fun closed => ?_, fun kept _ => ?_⟩
    · cases main : sending.main with
      | closed => exact absurd main before
      | _ => simp [main, Main.race] at closed
    have aligned := numbered.aligned kept before
    have counted := aligned.behind behind
    simp only [idle, Option.toList_none, List.length_nil] at counted
    constructor
    · rintro chunk ⟨⟩
      exact counted
    · intro _
      simp only [Keepalive.pending, Option.toList_some, List.length_singleton]
      omega
    · intro ahead
      rw [isAhead_race, behind] at ahead
      cases ahead
    · intro chunk closing same
      cases main : sending.main <;> simp [main, Main.race] at same
  · rw [if_neg fires]
    apply numbered.setKeepalive _ _ running
    intro kept
    exact ⟨kept, idle.symm⟩

theorem Numbered.deliverKeepalive (numbered : sending.Numbered)
    (admits : sending.Admits .deliverKeepalive)
    (stepTo : sending.step validate .deliverKeepalive = some after) :
    after.Numbered := by
  unfold step at stepTo
  cases keepalive : sending.keepalive with
  | publishing chunk sent =>
    cases sent with
    | true => simp [keepalive] at stepTo
    | false =>
      simp only [keepalive, Option.some.injEq] at stepTo
      subst stepTo
      have taken : sending.keepalive.pending = some chunk := by
        rw [keepalive, Keepalive.pending]
      have running : sending.keepalive ≠ .stopped := by simp [keepalive]
      have opened : sending.main ≠ .closed :=
        fun closed => running (numbered.stopped closed)
      have aligned := numbered.aligned admits opened
      have fits := aligned.pending chunk taken
      refine ⟨numbered.contiguous.append fits,
        fun closed => absurd closed opened, fun _ _ => ?_⟩
      constructor
      · simp [Keepalive.pending]
      · intro behind
        have counted := aligned.behind behind
        simp only [taken, Option.toList_some, List.length_singleton]
          at counted
        simp [Keepalive.pending, counted]
      · intro ahead
        have none := (aligned.ahead ahead).1
        rw [taken] at none
        cases none
      · exact aligned.next
  | _ => simp [keepalive] at stepTo

theorem Numbered.keepalivePublished (numbered : sending.Numbered)
    (stepTo : sending.step validate .keepalivePublished = some after) :
    after.Numbered := by
  unfold step at stepTo
  cases keepalive : sending.keepalive with
  | publishing chunk sent =>
    cases sent with
    | false => simp [keepalive] at stepTo
    | true =>
      simp only [keepalive, Option.some.injEq] at stepTo
      subst stepTo
      apply numbered.setKeepalive
      · simp [keepalive]
      · intro kept
        exact ⟨kept, by simp [keepalive, Keepalive.pending]⟩
  | _ => simp [keepalive] at stepTo

theorem Numbered.keepaliveFails (numbered : sending.Numbered) {isNatsError : Bool}
    (stepTo : sending.step validate (.keepaliveFails isNatsError) =
      some after) : after.Numbered := by
  unfold step at stepTo
  cases keepalive : sending.keepalive with
  | publishing chunk sent =>
    simp only [keepalive, Option.some.injEq] at stepTo
    subst stepTo
    apply numbered.setKeepalive
    · simp [keepalive]
    · intro kept
      rw [Bool.or_eq_false_iff, Bool.not_eq_false'] at kept
      obtain ⟨before, rfl⟩ := kept
      refine ⟨before, ?_⟩
      rw [keepalive]
      cases isNatsError <;> rfl
  | _ => simp [keepalive] at stepTo

theorem Numbered.step (numbered : sending.Numbered) {action : Action}
    (admits : sending.Admits action)
    (stepTo : sending.step validate action = some after) :
    after.Numbered := by
  cases action with
  | tick elapsed =>
    cases stepTo
    exact ⟨numbered.contiguous, numbered.stopped, fun kept opened =>
      let aligned := numbered.aligned kept opened
      ⟨aligned.pending, aligned.behind, aligned.ahead, aligned.next⟩⟩
  | publish => exact numbered.publish stepTo
  | deliver => exact numbered.deliver admits stepTo
  | published => exact numbered.published stepTo
  | fail => exact numbered.fail stepTo
  | drained =>
    unfold Sending.step at stepTo
    cases main : sending.main with
    | draining sent =>
      simp only [main, Option.some.injEq] at stepTo
      exact stepTo ▸ numbered.close
    | _ => simp [main] at stepTo
  | cancel =>
    unfold Sending.step at stepTo
    cases main : sending.main with
    | closed => simp [main] at stepTo
    | _ =>
      simp only [main, Option.some.injEq] at stepTo
      exact stepTo ▸ numbered.close
  | wake =>
    unfold Sending.step at stepTo
    cases keepalive : sending.keepalive with
    | sleeping wakeAt =>
      simp only [keepalive, Option.ite_none_right_eq_some, Option.some.injEq] at stepTo
      obtain ⟨-, rfl⟩ := stepTo
      exact numbered.wake admits keepalive
    | _ => simp [keepalive] at stepTo
  | deliverKeepalive => exact numbered.deliverKeepalive admits stepTo
  | keepalivePublished => exact numbered.keepalivePublished stepTo
  | keepaliveFails isNatsError => exact numbered.keepaliveFails stepTo

end Sending

/-- In a run whose steps are all admitted the numbers on the wire are
contiguous. -/
theorem contiguous_of_reachable (validate : ModelValidate)
    (events : List (RenderEvent String)) (sending : Sending)
    (reached : (sendStreaming validate events).ReachableWithin Sending.Admits
      sending) : sending.Contiguous := by
  have numbered : sending.Numbered := by
    refine reached.invariant ?_ ?_
    · rintro _ rfl
      exact Sending.numbered_start events
    · exact fun _ _ _ numbered admits stepTo => numbered.step admits stepTo
  exact numbered.contiguous

section Example

/-- A text without a model that is validated. -/
def exampleEvents : List (RenderEvent String) := [.textDelta "b" "hi"]

def rejects : ModelValidate :=
  fun _ _ => .error .validationError

/-- A keep-alive between two chunks. -/
theorem contiguous_of_keepalive : ∃ sending, (sendStreaming rejects exampleEvents).ReachableWithin
        Sending.Admits sending ∧
      sending.wire.length = 3 ∧ sending.Contiguous := by
  have found : ∃ sending, (sendStreaming rejects exampleEvents).ReachableWithin
        Sending.Admits sending ∧ sending.wire.length = 3 :=
    TransitionSystem.exists_reachableWithin_of_checkedRun { events := exampleEvents } rfl
      [.tick 30000, .wake, .deliverKeepalive, .keepalivePublished, .publish,
        .deliver, .published, .publish, .deliver, .published]
      (by decide)
  obtain ⟨sending, reached, length⟩ := found
  exact ⟨sending, reached, length, contiguous_of_reachable rejects exampleEvents sending reached⟩

/-- The keep-alive loop wakes up while `publish` still flushes the first
chunk: the number 0 is used twice and the number 1 is skipped. -/
theorem exists_number_used_twice :
    ∃ sending, (sendStreaming rejects exampleEvents).Reachable sending ∧
      sending.wire.map Chunk.seq = [0, 0, 2] ∧ ¬ sending.Contiguous :=
  TransitionSystem.exists_reachable_of_run { events := exampleEvents } rfl
    [.tick 30000, .publish, .deliver, .wake, .deliverKeepalive,
      .keepalivePublished, .published, .publish, .deliver]
    (by decide)

end Example

end StreamNumbering

end RoxabiFactory
