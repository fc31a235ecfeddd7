import RoxabiFactory.CliStreamingParser
import RoxabiFactory.PythonExceptions

/-!
# Retried streams

`RetryDecorator.stream` forwards the events of an attempt until the attempt
fails before an event that is not terminal; then it abandons the attempt and
starts another one.  A result that is no error is forwarded without being
remembered.
-/

namespace RoxabiFactory

namespace RetryStream

/-- How the inner stream ends; `waits` as long as it has not ended. -/
inductive Ending
  | exhausted
  | raises (exc : PyException)
  | waits
  deriving DecidableEq

/-- What the wrapped provider does in one attempt. -/
structure Attempt where
  events : List LlmEvent
  ending : Ending

/-- How an attempt leaves the generator. -/
inductive Outcome
  | retries
  | returned
  | raised (exc : PyException)
  | waits
  deriving DecidableEq

/-- `isinstance(event, ResultLlmEvent) and event.is_error`. -/
def isErrorResult : LlmEvent → Bool
  | .result isError _ _ _ _ => isError.truthy
  | _ => false

/-- `except (TimeoutError, asyncio.TimeoutError, OSError, RuntimeError)`. -/
def isRetried (exc : PyException) : Bool := exc.isOSError || exc.isRuntimeError

/-- The clauses after the loop; `seen` is `first_non_terminal_seen`, and
`last` tells that no retry is left. -/
def finish (last seen : Bool) : Ending → Outcome
  | .exhausted => .returned
  | .waits => .waits
  | .raises exc =>
    if isRetried exc && !(seen || last) then .retries else .raised exc

/-- The loop over the events of an attempt. -/
def forward (last : Bool) (ending : Ending) : Bool → List LlmEvent → List LlmEvent × Outcome
  | seen, [] => ([], finish last seen ending)
  | seen, event :: events =>
    if isErrorResult event && !seen then
      if last then ([event], .returned) else ([], .retries)
    else
      let later := forward last ending (seen || !event.isResult) events
      (event :: later.1, later.2)

/-- An attempt that has been started, with the events that it has
forwarded. -/
structure Entry where
  attempt : Attempt
  forwarded : List LlmEvent
  outcome : Outcome

def entry (last : Bool) (attempt : Attempt) : Entry :=
  let result := forward last attempt.ending false attempt.events
  ⟨attempt, result.1, result.2⟩

/-- The attempts that are started, as far as the provider has got; the
generator may be closed while it sleeps before the next one. -/
def stream : Nat → List Attempt → List Entry
  | _, [] => []
  | 0, attempt :: _ => [entry true attempt]
  | retries + 1, attempt :: attempts =>
    let first := entry false attempt
    if first.outcome = .retries then first :: stream retries attempts
    else [first]

/-- The events that the generator yields. -/
def yielded (trace : List Entry) : List LlmEvent := trace.flatMap Entry.forwarded

/-! ## Clean streams -/

def ResultsLast (events : List LlmEvent) : Prop :=
  ∀ before event after, events = before ++ event :: after → event.isResult = true → after = []

/-- The yielded events are a run of one attempt. -/
structure Clean (maxRetries : Nat) (trace : List Entry) : Prop where
  /-- Nothing of an abandoned attempt has been yielded. -/
  abandoned : ∀ entry ∈ trace, entry.outcome = .retries → entry.forwarded = []
  /-- No attempt is started after an event has been forwarded. -/
  single : ∀ before entry after, trace = before ++ entry :: after →
    after ≠ [] → entry.forwarded = []
  /-- An attempt is forwarded from its first event on, without gaps, and to
  its end or to a result. -/
  complete : ∀ entry ∈ trace, entry.forwarded <+: entry.attempt.events ∧
    (entry.outcome ≠ .retries → entry.forwarded = entry.attempt.events ∨
      ∃ before event, entry.forwarded = before ++ [event] ∧ event.isResult = true)
  terminal : ResultsLast (yielded trace)
  bounded : trace.length ≤ maxRetries + 1

/-! ## When a stream is clean -/

/-- The first event is an error. -/
def StartsWithError (events : List LlmEvent) : Prop :=
  ∃ event later, events = event :: later ∧ isErrorResult event = true

namespace Attempt

/-- The stream of the attempt breaks with an exception that is retried. -/
def Breaks (attempt : Attempt) : Prop := ∃ exc, attempt.ending = .raises exc ∧ isRetried exc = true

/-- The attempt fails before its first event. -/
def Fails (attempt : Attempt) : Prop :=
  StartsWithError attempt.events ∨ attempt.events = [] ∧ attempt.Breaks

/-- The attempt breaks after a result that is its only event. -/
def BreaksAfterResult (attempt : Attempt) : Prop :=
  (∃ event, attempt.events = [event] ∧ event.isResult = true) ∧ attempt.Breaks

/-- The attempt starts with an error; or nothing comes after a result, neither
an event nor, as long as there are retries, an exception that is retried. -/
def Orderly (last : Bool) (attempt : Attempt) : Prop :=
  StartsWithError attempt.events ∨ ResultsLast attempt.events ∧
    ¬ (last = false ∧ attempt.BreaksAfterResult)

end Attempt

/-- The attempts that are started are orderly. -/
def AllOrderly : Nat → List Attempt → Prop
  | _, [] => True
  | 0, attempt :: _ => attempt.Orderly true
  | retries + 1, attempt :: attempts =>
    attempt.Orderly false ∧ (attempt.Fails → AllOrderly retries attempts)

/-! ## One attempt -/

theorem resultsLast_nil : ResultsLast [] := by
  intro before event after same
  cases before <;> cases same

theorem resultsLast_singleton (event : LlmEvent) : ResultsLast [event] := by
  intro before other after same _
  cases before with
  | nil => exact (List.cons.inj same).2.symm
  | cons first before =>
    have empty := (List.cons.inj same).2
    cases before <;> cases empty

theorem ResultsLast.eq_nil {event : LlmEvent} {events : List LlmEvent}
    (last : ResultsLast (event :: events)) (isResult : event.isResult = true) :
    events = [] :=
  last [] event events rfl isResult

theorem isResult_of_isErrorResult {event : LlmEvent}
    (isError : isErrorResult event = true) : event.isResult = true := by
  cases event with
  | result isError durationMs errorText sessionId workerError => rfl
  | _ => cases isError

section Attempt

variable {last seen : Bool} {ending : Ending} {event : LlmEvent}
  {events : List LlmEvent} {attempt : Attempt}

theorem forward_seen : forward last ending true events = (events, finish last true ending) := by
  induction events with
  | nil => rfl
  | cons event events ih =>
    unfold forward
    rw [Bool.not_true, Bool.and_false, if_neg Bool.false_ne_true, Bool.true_or, ih]

theorem forward_error (isError : isErrorResult event = true) :
    forward last ending false (event :: events) =
      if last then ([event], .returned) else ([], .retries) := by
  unfold forward
  rw [isError, Bool.not_false, Bool.and_true, if_pos rfl]

theorem forward_cons (notError : isErrorResult event = false) :
    forward last ending false (event :: events) =
      (event :: (forward last ending (!event.isResult) events).1,
        (forward last ending (!event.isResult) events).2) := by
  rw [forward, notError, Bool.false_and, if_neg Bool.false_ne_true, Bool.false_or]

theorem finish_eq_retries_iff : finish last seen ending = .retries ↔ (seen = false ∧ last = false) ∧
      ∃ exc, ending = .raises exc ∧ isRetried exc = true := by
  cases ending with
  | exhausted => simp [finish]
  | waits => simp [finish]
  | raises exc =>
    unfold finish
    cases isRetried exc <;> cases seen <;> cases last <;> simp_all

theorem forward_complete (last seen : Bool) (ending : Ending) (events : List LlmEvent) :
    (forward last ending seen events).1 <+: events ∧
      ((forward last ending seen events).2 ≠ .retries →
        (forward last ending seen events).1 = events ∨
          ∃ before event, (forward last ending seen events).1 =
            before ++ [event] ∧ event.isResult = true) := by
  induction events generalizing seen with
  | nil => exact ⟨List.nil_prefix, fun _ => .inl rfl⟩
  | cons event events ih =>
    unfold forward
    split
    · rename_i isError
      rw [Bool.and_eq_true] at isError
      split
      · refine ⟨⟨events, rfl⟩, fun _ => .inr ⟨[], event, rfl, ?_⟩⟩
        exact isResult_of_isErrorResult isError.1
      · exact ⟨List.nil_prefix, fun notRetried => absurd rfl notRetried⟩
    · obtain ⟨isPrefix, ends⟩ := ih (seen || !event.isResult)
      refine ⟨(List.prefix_cons_inj event).2 isPrefix, ?_⟩
      intro notRetried
      rcases ends notRetried with whole | ⟨before, result, same, isResult⟩
      · exact .inl (congrArg (event :: ·) whole)
      · refine .inr ⟨event :: before, result, ?_, isResult⟩
        exact congrArg (event :: ·) same

/-- The part of the property that one attempt decides. -/
def Entry.IsClean (entry : Entry) : Prop := ResultsLast entry.forwarded ∧
    (entry.outcome = .retries → entry.forwarded = [])

theorem entry_error (isError : isErrorResult event = true) :
    (entry last ⟨event :: events, ending⟩).IsClean ∧
      ((entry last ⟨event :: events, ending⟩).outcome = .retries ↔ last = false) := by
  unfold entry Entry.IsClean
  dsimp only
  rw [forward_error isError]
  cases last with
  | true => exact ⟨⟨resultsLast_singleton event, fun same => by cases same⟩,
      iff_of_false (fun same => by cases same) (fun same => by cases same)⟩
  | false => exact ⟨⟨resultsLast_nil, fun _ => rfl⟩, iff_of_true rfl rfl⟩

theorem entry_live (notResult : event.isResult = false) :
    (entry last ⟨event :: events, ending⟩).forwarded = event :: events ∧
      (entry last ⟨event :: events, ending⟩).outcome ≠ .retries := by
  have notError : isErrorResult event = false := by
    cases event with
    | result isError durationMs errorText sessionId workerError =>
      cases notResult
    | _ => rfl
  unfold entry
  dsimp only
  rw [forward_cons notError, notResult, Bool.not_false, forward_seen]
  refine ⟨rfl, fun retries => ?_⟩
  have notLive := (finish_eq_retries_iff.1 retries).1.1
  cases notLive

theorem not_isClean_result {next : LlmEvent} (isResult : event.isResult = true)
    (notError : isErrorResult event = false) :
    ¬ (entry last ⟨event :: next :: events, ending⟩).IsClean := by
  unfold entry Entry.IsClean
  dsimp only
  rw [forward_cons notError, isResult, Bool.not_true]
  rintro ⟨resultsLast, abandoned⟩
  have nothing := resultsLast.eq_nil isResult
  cases isError : isErrorResult next with
  | false =>
    rw [forward_cons isError] at nothing
    cases nothing
  | true =>
    rw [forward_error isError] at nothing abandoned
    cases last with
    | true => cases nothing
    | false => cases abandoned rfl

theorem not_startsWithError (notError : isErrorResult event = false) :
    ¬ StartsWithError (event :: events) := by
  rintro ⟨first, later, same, isError⟩
  rw [← (List.cons.inj same).1, notError] at isError
  cases isError

theorem isClean_entry_iff (last : Bool) (attempt : Attempt) :
    (entry last attempt).IsClean ↔ attempt.Orderly last := by
  obtain ⟨events, ending⟩ := attempt
  unfold Attempt.Orderly Attempt.BreaksAfterResult Attempt.Breaks
  dsimp only
  cases events with
  | nil =>
    apply iff_of_true
    · exact ⟨resultsLast_nil, fun _ => rfl⟩
    · refine .inr ⟨resultsLast_nil, ?_⟩
      rintro ⟨-, ⟨event, same, -⟩, -⟩
      cases same
  | cons event events =>
    cases isError : isErrorResult event with
    | true =>
      exact iff_of_true (entry_error isError).1 (.inl ⟨event, events, rfl, isError⟩)
    | false =>
      rw [or_iff_right (not_startsWithError isError)]
      cases isResult : event.isResult with
      | false =>
        obtain ⟨forwarded, notRetried⟩ := @entry_live last ending event events isResult
        rw [Entry.IsClean, forwarded]
        constructor
        · rintro ⟨resultsLast, -⟩
          refine ⟨resultsLast, ?_⟩
          rintro ⟨-, ⟨other, same, isOther⟩, -⟩
          rw [← (List.cons.inj same).1, isResult] at isOther
          cases isOther
        · rintro ⟨resultsLast, -⟩
          exact ⟨resultsLast, fun retries => absurd retries notRetried⟩
      | true =>
        cases events with
        | cons next events =>
          refine iff_of_false (not_isClean_result isResult isError) ?_
          rintro ⟨resultsLast, -⟩
          cases resultsLast.eq_nil isResult
        | nil =>
          have outcome : (entry last ⟨[event], ending⟩).outcome =
              finish last false ending := by
            unfold entry
            dsimp only
            rw [forward_cons isError, isResult]
            rfl
          have forwarded : (entry last ⟨[event], ending⟩).forwarded = [event] := by
            unfold entry
            dsimp only
            rw [forward_cons isError]
            rfl
          rw [Entry.IsClean, outcome, forwarded, finish_eq_retries_iff]
          constructor
          · rintro ⟨resultsLast, abandoned⟩
            refine ⟨resultsLast, ?_⟩
            rintro ⟨notLast, -, breaks⟩
            cases abandoned ⟨⟨rfl, notLast⟩, breaks⟩
          · rintro ⟨resultsLast, keeps⟩
            refine ⟨resultsLast, ?_⟩
            rintro ⟨⟨-, notLast⟩, breaks⟩
            exact absurd ⟨notLast, ⟨event, rfl, isResult⟩, breaks⟩ keeps

/-- An orderly attempt is abandoned if and only if it fails before its first
event. -/
theorem outcome_entry_iff (orderly : attempt.Orderly false) :
    (entry false attempt).outcome = .retries ↔ attempt.Fails := by
  obtain ⟨events, ending⟩ := attempt
  have isClean := (isClean_entry_iff false _).2 orderly
  unfold Attempt.Fails Attempt.Breaks
  dsimp only
  cases events with
  | nil =>
    have outcome : (entry false ⟨[], ending⟩).outcome =
        finish false false ending := rfl
    rw [outcome, finish_eq_retries_iff]
    constructor
    · rintro ⟨-, breaks⟩
      exact .inr ⟨rfl, breaks⟩
    · rintro (⟨event, later, same, -⟩ | ⟨-, breaks⟩)
      · cases same
      · exact ⟨⟨rfl, rfl⟩, breaks⟩
  | cons event events =>
    cases isError : isErrorResult event with
    | true =>
      exact iff_of_true ((entry_error isError).2.2 rfl) (.inl ⟨event, events, rfl, isError⟩)
    | false =>
      apply iff_of_false
      · intro retries
        have nothing := isClean.2 retries
        unfold entry at nothing
        dsimp only at nothing
        rw [forward_cons isError] at nothing
        cases nothing
      · rintro (starts | ⟨empty, -⟩)
        · exact not_startsWithError isError starts
        · cases empty

end Attempt

/-! ## All attempts -/

theorem stream_cases (retries : Nat) (attempts : List Attempt) :
    stream retries attempts = [] ∨ ∃ before last, stream retries attempts = before ++ [last] ∧
        ∀ entry ∈ before, entry.outcome = .retries := by
  induction attempts generalizing retries with
  | nil =>
    unfold stream
    exact .inl rfl
  | cons attempt attempts ih =>
    right
    have none : ∀ entry ∈ ([] : List Entry), entry.outcome = .retries :=
      fun _ absent => absurd absent List.not_mem_nil
    cases retries with
    | zero => exact ⟨[], entry true attempt, rfl, none⟩
    | succ retries =>
      unfold stream
      dsimp only
      split
      · rename_i abandoned
        rcases ih retries with empty | ⟨before, last, same, all⟩
        · rw [empty]
          exact ⟨[], entry false attempt, rfl, none⟩
        · refine ⟨entry false attempt :: before, last, ?_, ?_⟩
          · rw [same]
            rfl
          · exact List.forall_mem_cons.2 ⟨abandoned, all⟩
      · exact ⟨[], entry false attempt, rfl, none⟩

theorem length_stream_le (retries : Nat) (attempts : List Attempt) :
    (stream retries attempts).length ≤ retries + 1 := by
  induction attempts generalizing retries with
  | nil =>
    unfold stream
    exact Nat.zero_le _
  | cons attempt attempts ih =>
    cases retries with
    | zero => exact Nat.le_refl 1
    | succ retries =>
      unfold stream
      dsimp only
      split
      · exact Nat.succ_le_succ (ih retries)
      · exact Nat.succ_le_succ (Nat.zero_le _)

theorem exists_entry_of_mem_stream {retries : Nat} {attempts : List Attempt}
    {started : Entry} (member : started ∈ stream retries attempts) :
    ∃ last attempt, started = entry last attempt := by
  induction attempts generalizing retries with
  | nil =>
    unfold stream at member
    cases member
  | cons attempt attempts ih =>
    cases retries with
    | zero => exact ⟨true, attempt, List.mem_singleton.1 member⟩
    | succ retries =>
      unfold stream at member
      dsimp only at member
      split at member
      · rcases List.mem_cons.1 member with same | later
        · exact ⟨false, attempt, same⟩
        · exact ih later
      · exact ⟨false, attempt, List.mem_singleton.1 member⟩

theorem forall_isClean_iff (retries : Nat) (attempts : List Attempt) :
    (∀ entry ∈ stream retries attempts, entry.IsClean) ↔
      AllOrderly retries attempts := by
  induction attempts generalizing retries with
  | nil =>
    unfold stream AllOrderly
    exact iff_of_true (fun _ absent => absurd absent List.not_mem_nil) trivial
  | cons attempt attempts ih =>
    cases retries with
    | zero =>
      have single : stream 0 (attempt :: attempts) = [entry true attempt] :=
        rfl
      rw [single, List.forall_mem_singleton]
      exact isClean_entry_iff true attempt
    | succ retries =>
      unfold stream AllOrderly
      dsimp only
      rw [← isClean_entry_iff false attempt]
      by_cases abandoned : (entry false attempt).outcome = .retries
      · rw [if_pos abandoned, List.forall_mem_cons, ih retries]
        refine and_congr_right fun isClean => ?_
        have fails := (outcome_entry_iff ((isClean_entry_iff false attempt).1 isClean)).1 abandoned
        rw [imp_iff_right fails]
      · rw [if_neg abandoned, List.forall_mem_singleton]
        refine (and_iff_left_of_imp fun isClean fails => ?_).symm
        exact absurd ((outcome_entry_iff
          ((isClean_entry_iff false attempt).1 isClean)).2 fails) abandoned

/-- When abandoned attempts have forwarded nothing, the last attempt makes up
what is yielded. -/
theorem yielded_concat {before : List Entry} {last : Entry}
    (nothing : ∀ entry ∈ before, entry.forwarded = []) :
    yielded (before ++ [last]) = last.forwarded := by
  have silent : before.flatMap Entry.forwarded = [] := List.flatMap_eq_nil_iff.2 nothing
  unfold yielded
  rw [List.flatMap_append, silent, List.flatMap_singleton, List.nil_append]

/-- A retried stream is clean if and only if the attempts that it starts are
orderly. -/
theorem clean_stream_iff (maxRetries : Nat) (attempts : List Attempt) :
    Clean maxRetries (stream maxRetries attempts) ↔
      AllOrderly maxRetries attempts := by
  rw [← forall_isClean_iff]
  constructor
  · intro clean started member
    refine ⟨?_, clean.abandoned started member⟩
    by_cases retries : started.outcome = .retries
    · rw [clean.abandoned started member retries]
      exact resultsLast_nil
    · rcases stream_cases maxRetries attempts with
        empty | ⟨before, last, same, all⟩
      · rw [empty] at member
        cases member
      · have terminal := clean.terminal
        rw [same] at member
        rw [same, yielded_concat] at terminal
        · rcases List.mem_append.1 member with earlier | isLast
          · exact absurd (all started earlier) retries
          · rw [List.mem_singleton.1 isLast]
            exact terminal
        · intro other earlier
          apply clean.abandoned other _ (all other earlier)
          rw [same]
          exact List.mem_append_left _ earlier
  · intro isClean
    have abandoned : ∀ entry ∈ stream maxRetries attempts,
        entry.outcome = .retries → entry.forwarded = [] :=
      fun entry member => (isClean entry member).2
    refine ⟨abandoned, ?_, ?_, ?_, length_stream_le maxRetries attempts⟩
    · intro before started after same more
      apply abandoned
      · rw [same]
        exact List.mem_append_right _ List.mem_cons_self
      · rcases stream_cases maxRetries attempts with
          empty | ⟨earlier, last, concat, all⟩
        · rw [empty] at same
          cases before <;> cases same
        · apply all
          have initial := congrArg List.dropLast (same.symm.trans concat)
          rw [List.dropLast_concat, List.dropLast_append_of_ne_nil
            (List.cons_ne_nil started after), List.dropLast_cons_of_ne_nil more]
            at initial
          rw [← initial]
          exact List.mem_append_right _ List.mem_cons_self
    · intro started member
      obtain ⟨last, attempt, rfl⟩ := exists_entry_of_mem_stream member
      exact forward_complete last false attempt.ending attempt.events
    · rcases stream_cases maxRetries attempts with
        empty | ⟨before, last, same, all⟩
      · rw [empty]
        exact resultsLast_nil
      · rw [same, yielded_concat]
        · apply (isClean last _).1
          rw [same]
          exact List.mem_append_right _ List.mem_cons_self
        · intro other earlier
          apply abandoned other _ (all other earlier)
          rw [same]
          exact List.mem_append_left _ earlier

section Example

/-- A result that is no error. -/
def success : LlmEvent := .result (.bool false) (.int 0) none none none

/-- The connection breaks after the result of the first attempt. -/
def twice : List Attempt :=
  [⟨[success], .raises (.runtimeError "RuntimeError")⟩, ⟨[success], .exhausted⟩]

theorem not_clean_twice : ¬ Clean 1 (stream 1 twice) := by
  intro clean
  have two : yielded (stream 1 twice) = [success, success] := rfl
  have terminal := clean.terminal
  rw [two] at terminal
  cases terminal.eq_nil rfl

end Example

end RetryStream

end RoxabiFactory
