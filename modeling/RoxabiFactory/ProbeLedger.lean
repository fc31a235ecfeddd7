import RoxabiFactory.TransitionSystem

/-!
# Calls behind a breaker with one probe

A breaker that tries to recover admits one call as its probe and refuses the
others until a call tells it an outcome.  The ledger runs any number of calls
behind such a breaker; a call is the list of the outcomes that it will report,
and the reports of different calls interleave.  The probe is never lost when
no call that reports nothing takes it.
-/

namespace RoxabiFactory

/-- A breaker; asking it tells whether the call is refused. -/
structure ProbeSlot (Time Breaker Report : Type*) where
  Valid : Breaker → Prop
  held : Breaker → Bool
  ask : Breaker → Time → Bool × Breaker
  report : Breaker → Time → Report → Breaker
  valid_ask : ∀ breaker now, Valid breaker → Valid (ask breaker now).2
  valid_report : ∀ breaker now outcome, Valid breaker → Valid (report breaker now outcome)
  held_report : ∀ breaker now outcome, Valid breaker → held (report breaker now outcome) = false
  held_of_refused : ∀ breaker now, (ask breaker now).1 = true →
    held (ask breaker now).2 = held breaker

namespace ProbeLedger

structure Call (Script Report : Type*) where
  script : Script
  tookProbe : Bool
  /-- The outcomes that it has reported. -/
  made : List Report := []
  /-- The outcomes that it is going to report. -/
  rest : List Report

structure State (Time Breaker Script Report : Type*) where
  clock : Time
  breaker : Breaker
  running : List (Call Script Report) := []
  ended : List (Call Script Report) := []

inductive Action (Time Script : Type*)
  | enter (script : Script)
  /-- The call at this place reports its next outcome, or ends. -/
  | advance (place : Nat)
  | tick (now : Time)

variable {Time Breaker Script Report : Type*}
variable (slot : ProbeSlot Time Breaker Report)
variable (reports : Script → List Report)

namespace State

/-- The next call that asks takes the probe. -/
def grants (state : State Time Breaker Script Report) : Prop := slot.held state.breaker = false ∧
    slot.held (slot.ask state.breaker state.clock).2 = true

instance (state : State Time Breaker Script Report) : Decidable (state.grants slot) :=
  inferInstanceAs (Decidable (_ ∧ _))

def enter (state : State Time Breaker Script Report) (script : Script) :
    State Time Breaker Script Report :=
  let asked := slot.ask state.breaker state.clock
  if asked.1 then { state with breaker := asked.2 }
  else
    { state with
      breaker := asked.2
      running := state.running ++
        [{ script := script
           tookProbe := decide (state.grants slot)
           rest := reports script }] }

/-- The call goes on. -/
def advance (state : State Time Breaker Script Report) (place : Nat)
    (call : Call Script Report) : State Time Breaker Script Report :=
  match call.rest with
  | [] =>
    { state with
      running := state.running.eraseIdx place
      ended := state.ended ++ [call] }
  | outcome :: rest =>
    { state with
      breaker := slot.report state.breaker state.clock outcome
      running := state.running.set place
        { call with
          made := call.made ++ [outcome]
          rest := rest } }

end State

def step [LE Time] [DecidableLE Time] (state : State Time Breaker Script Report) :
    Action Time Script → Option (State Time Breaker Script Report)
  | .enter script => some (state.enter slot reports script)
  | .advance place =>
    (state.running[place]?).map (state.advance slot place)
  | .tick now =>
    if state.clock ≤ now then some { state with clock := now } else none

/-- The runs that begin with this breaker and no call. -/
def system [LE Time] [DecidableLE Time] (breaker : Breaker) :
    TransitionSystem (State Time Breaker Script Report) (Action Time Script) where
  initial state := ∃ clock, state = { clock := clock, breaker := breaker }
  step := step slot reports

/-- A call that takes the probe reports something. -/
def Answers (state : State Time Breaker Script Report) : Action Time Script → Prop
  | .enter script => state.grants slot → reports script ≠ []
  | .advance _ | .tick _ => True

/-- Every call that had the probe has reported an outcome by its end, and the
probe in flight belongs to a call in progress. -/
structure ProbesResolved (state : State Time Breaker Script Report) : Prop where
  ended : ∀ call ∈ state.ended, call.tookProbe = true → call.made ≠ []
  running : slot.held state.breaker = true → ∃ call ∈ state.running, call.tookProbe = true

/-- What the runs preserve: the call that holds the probe has not reported
anything yet and is going to. -/
structure Accounted (state : State Time Breaker Script Report) : Prop where
  valid : slot.Valid state.breaker
  ended : ∀ call ∈ state.ended, call.tookProbe = true → call.made ≠ []
  running : ∀ call ∈ state.running, call.tookProbe = true → call.made ≠ [] ∨ call.rest ≠ []
  holder : slot.held state.breaker = true →
    ∃ call ∈ state.running, call.tookProbe = true ∧ call.made = []

variable {slot reports}
variable {state after : State Time Breaker Script Report}

namespace Accounted

theorem resolved (accounted : Accounted slot state) : ProbesResolved slot state where
  ended := accounted.ended
  running holds := by
    obtain ⟨call, member, took, -⟩ := accounted.holder holds
    exact ⟨call, member, took⟩

theorem enter (accounted : Accounted slot state) {script : Script}
    (answers : state.grants slot → reports script ≠ []) :
    Accounted slot (state.enter slot reports script) := by
  have valid := slot.valid_ask state.breaker state.clock accounted.valid
  unfold State.enter
  by_cases refused : (slot.ask state.breaker state.clock).1 = true
  · rw [if_pos refused]
    refine ⟨valid, accounted.ended, accounted.running, ?_⟩
    intro holds
    rw [slot.held_of_refused _ _ refused] at holds
    exact accounted.holder holds
  · rw [if_neg refused]
    constructor
    · exact valid
    · exact accounted.ended
    · intro call member took
      rcases List.mem_append.mp member with old | new
      · exact accounted.running call old took
      · obtain rfl := List.mem_singleton.mp new
        exact .inr (answers (of_decide_eq_true took))
    · intro holds
      by_cases before : slot.held state.breaker = true
      · obtain ⟨call, member, took, silent⟩ := accounted.holder before
        exact ⟨call, List.mem_append_left _ member, took, silent⟩
      · refine ⟨_, List.mem_append_right _ (List.mem_singleton_self _), ?_, rfl⟩
        exact decide_eq_true ⟨Bool.not_eq_true _ ▸ before, holds⟩

theorem report (accounted : Accounted slot state) {place : Nat}
    {call : Call Script Report} {outcome : Report} {rest : List Report} :
    Accounted slot
      { state with
        breaker := slot.report state.breaker state.clock outcome
        running := state.running.set place
          { call with
            made := call.made ++ [outcome]
            rest := rest } } where
  valid := slot.valid_report _ _ _ accounted.valid
  ended := accounted.ended
  running := by
    intro other member took
    rcases List.mem_or_eq_of_mem_set member with old | rfl
    · exact accounted.running other old took
    · exact .inl (by simp)
  holder := by
    intro holds
    rw [slot.held_report _ _ _ accounted.valid] at holds
    cases holds

theorem finish (accounted : Accounted slot state) {place : Nat}
    {call : Call Script Report} (found : state.running[place]? = some call)
    (silent : call.rest = []) :
    Accounted slot
      { state with
        running := state.running.eraseIdx place
        ended := state.ended ++ [call] } where
  valid := accounted.valid
  ended := by
    intro other member took
    rcases List.mem_append.mp member with old | new
    · exact accounted.ended other old took
    · obtain rfl := List.mem_singleton.mp new
      have reported := accounted.running other (List.mem_of_getElem? found) took
      exact reported.resolve_right fun more => more silent
  running other member := accounted.running other (List.mem_of_mem_eraseIdx member)
  holder := by
    intro holds
    obtain ⟨other, member, took, nothing⟩ := accounted.holder holds
    -- The call that ends has reported, so it is not the holder.
    have more := (accounted.running other member took).resolve_left
      fun reported => reported nothing
    obtain ⟨index, bound, same⟩ := List.mem_iff_getElem.mp member
    refine ⟨other, List.mem_eraseIdx_iff_getElem?.mpr ⟨index, ?_, ?_⟩, took, nothing⟩
    · rintro rfl
      rw [List.getElem?_eq_getElem bound, same] at found
      cases found
      exact more silent
    · rw [List.getElem?_eq_getElem bound, same]

theorem step [LE Time] [DecidableLE Time] {action : Action Time Script}
    (accounted : Accounted slot state)
    (answers : Answers slot reports state action)
    (stepTo : step slot reports state action = some after) :
    Accounted slot after := by
  cases action with
  | enter script =>
    cases stepTo
    exact accounted.enter answers
  | advance place =>
    obtain ⟨call, found, rfl⟩ := Option.map_eq_some_iff.mp stepTo
    unfold State.advance
    split
    · rename_i silent
      exact accounted.finish found silent
    · exact accounted.report
  | tick now =>
    simp only [ProbeLedger.step] at stepTo
    split at stepTo <;> cases stepTo
    exact ⟨accounted.valid, accounted.ended, accounted.running, accounted.holder⟩

end Accounted

/-- In a run in which every call that takes the probe reports something, the
probe is never lost. -/
theorem probesResolved_of_reachable [LE Time] [DecidableLE Time] {breaker : Breaker}
    (valid : slot.Valid breaker) (free : slot.held breaker = false)
    (reached : (system slot reports breaker).ReachableWithin
      (Answers slot reports) state) : ProbesResolved slot state := by
  apply Accounted.resolved
  apply reached.invariant
  · rintro _ ⟨clock, rfl⟩
    refine ⟨valid, by simp, by simp, ?_⟩
    intro holds
    rw [free] at holds
    cases holds
  · intro state action after accounted answers stepTo
    exact accounted.step answers stepTo

theorem enter_eq_of_grants (grants : state.grants slot) (script : Script) :
    state.enter slot reports script =
      { state with
        breaker := (slot.ask state.breaker state.clock).2
        running := state.running ++
          [{ script := script
             tookProbe := true
             rest := reports script }] } := by
  have admitted : ¬ (slot.ask state.breaker state.clock).1 = true := by
    intro refused
    have same := slot.held_of_refused _ _ refused
    rw [grants.1, grants.2] at same
    cases same
  rw [State.enter, if_neg admitted]
  simp [grants]

/-- A call that reports nothing and takes the probe has lost it when it
ends. -/
theorem exists_lost_of_silent [LE Time] [DecidableLE Time]
    {breaker : Breaker} (grants : state.grants slot) {script : Script}
    (silent : reports script = []) :
    ∃ after, (system slot reports breaker).run state
        [.enter script, .advance state.running.length] = some after ∧
      ¬ ProbesResolved slot after := by
  let call : Call Script Report :=
    { script := script
      tookProbe := true
      rest := [] }
  have entered := @enter_eq_of_grants _ _ _ _ slot reports state grants script
  rw [silent] at entered
  refine ⟨{ (state.enter slot reports script) with
    running := (state.running ++ [call]).eraseIdx state.running.length
    ended := state.ended ++ [call] }, ?_, ?_⟩
  · simp only [TransitionSystem.run, system, step, entered,
      Option.bind_some, List.getElem?_concat_length, Option.map_some,
      State.advance, call]
  · intro resolved
    exact resolved.ended call (List.mem_append_right _ (List.mem_singleton_self _)) rfl rfl

end ProbeLedger

end RoxabiFactory
