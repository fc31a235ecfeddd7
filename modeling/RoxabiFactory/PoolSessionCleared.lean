import RoxabiFactory.PoolResetSession

/-!
# A cleared conversation

A turn that was submitted before `/clear` may write its session id back over
the new one, and the table may still show the cleared session as the last
active one.  Where neither is the case, nothing that was submitted before
touches the session once `reset_session` has returned, and no later message
resumes a session that it has ended.
-/

namespace RoxabiFactory

namespace PoolSession

variable {state after : State} {action : Action}

/-- What one step may do after calls of `reset_session` have returned. -/
structure StaysCleared (state : State) (action : Action) (after : State) : Prop where
  /-- A step that belongs to an earlier message leaves the session id alone,
  ends no session, and neither makes a resume pending nor attempts one. -/
  quiet : ∀ born ∈ state.born action, born < state.lastReturned →
    after.sessionId = state.sessionId ∧ after.stream = state.stream ∧
      (after.pending = none ∨ after.pending = state.pending) ∧
      after.resumes = state.resumes
  /-- The last active session is resumed for no message that was submitted
  after it was cleared. -/
  fresh : ∀ index, action = .decided index →
    ∀ lookup ∈ state.lookups[index]?, after.resumes = state.resumes ∨
      ∃ session, session ∉ lookup.cleared ∧ after.resumes = state.resumes ++ [session]

/-- Turns and lookups do not straddle a call of `reset_session` with a session
id in hand, and the table shows the cleared sessions as ended when it is
read. -/
def KeepsCleared (state : State) : Action → Prop
  | .writesBack turn (some session) => ∀ writer ∈ state.turns[turn]?,
      session ≠ state.sessionId → writer.born = state.clears.length
  | .clear => ∀ turn ∈ state.turns, turn.point = .working
  | .resolved lookup (some _) => ∀ reader ∈ state.lookups[lookup]?,
      reader.born = state.clears.length
  | .queried lookup => ∀ reader ∈ state.lookups[lookup]?,
      ∀ row ∈ state.rows, row.session ∈ reader.cleared → row.ended = true
  | .decided lookup => ∀ reader ∈ state.lookups[lookup]?,
      reader.point ≠ .found (some state.sessionId) →
        reader.point ≠ .found none → reader.born = state.clears.length
  | _ => True

/-- What has a session id in hand was submitted after the last clear. -/
structure Settled (state : State) : Prop where
  returned : state.lastReturned ≤ state.clears.length
  writers : ∀ turn ∈ state.turns, turn.point ≠ .working → turn.born = state.clears.length
  pending : ∀ entry ∈ state.pending, entry.2 = state.clears.length
  found : ∀ lookup ∈ state.lookups, ∀ session,
    lookup.point = .found (some session) → session ∉ lookup.cleared

theorem getLastSession_notMem {rows : List Row} {cleared : List Session}
    (shown : ∀ row ∈ rows, row.session ∈ cleared → row.ended = true)
    {session : Session} (last : getLastSession rows = some session) :
    session ∉ cleared := by
  obtain ⟨row, first, rfl⟩ := Option.map_eq_some_iff.mp last
  intro member
  have active := List.find?_some first
  have ended := shown row (List.mem_of_find?_eq_some first) member
  simp [ended] at active

namespace Settled

theorem setTurn (settled : Settled state) {index : Nat} {turn : Turn} {point : TurnPoint}
    (fresh : point ≠ .working → turn.born = state.clears.length) :
    Settled (state.setTurn index turn point) := by
  refine ⟨settled.returned, fun other member busy => ?_, settled.pending,
    settled.found⟩
  rcases List.mem_or_eq_of_mem_set member with old | rfl
  · exact settled.writers other old busy
  · exact fresh busy

theorem setLookup (settled : Settled state) {index : Nat} {lookup : Lookup} {point : LookupPoint}
    (fresh : ∀ session, point = .found (some session) → session ∉ lookup.cleared) :
    Settled (state.setLookup index lookup point) := by
  refine ⟨settled.returned, settled.writers, settled.pending,
    fun other member => ?_⟩
  rcases List.mem_or_eq_of_mem_set member with old | rfl
  · exact settled.found other old
  · exact fresh

theorem setClear (settled : Settled state) (index : Nat) (point : ClearPoint) :
    Settled (state.setClear index point) := by
  have same : (state.setClear index point).clears.length =
      state.clears.length := List.length_set
  exact ⟨same ▸ settled.returned, same ▸ settled.writers, same ▸ settled.pending, settled.found⟩

theorem lookUp_ne_found (state : State) (session : Option Session) :
    state.lookUp ≠ .found session := by
  unfold State.lookUp
  split <;> exact fun same => nomatch same

theorem step (settled : Settled state) (keeps : KeepsCleared state action)
    (stepTo : step state action = some after) : Settled after := by
  cases action with
  | submit isReply =>
    cases stepTo
    refine ⟨settled.returned, settled.writers, settled.pending,
      fun lookup member session found => ?_⟩
    rcases List.mem_append.mp member with old | new
    · exact settled.found lookup old session found
    · rw [List.mem_singleton.mp new] at found
      simp only at found
      split at found
      · cases found
      · exact absurd found (lookUp_ne_found state _)
  | resolved index answer =>
    obtain ⟨lookup, at', stepTo⟩ := Option.bind_eq_some_iff.mp stepTo
    simp only [Option.ite_none_right_eq_some] at stepTo
    obtain ⟨-, stepTo⟩ := stepTo
    cases answer with
    | none =>
      cases stepTo
      exact settled.setLookup fun session found =>
        absurd found (lookUp_ne_found state _)
    | some session =>
      cases stepTo
      have done : Settled (state.setLookup index lookup .done) :=
        settled.setLookup fun session found => nomatch found
      split
      · exact ⟨done.returned, done.writers, done.pending, done.found⟩
      · refine ⟨done.returned, done.writers, ?_, done.found⟩
        rintro entry ⟨⟩
        exact keeps lookup at'
  | queried index =>
    obtain ⟨lookup, at', stepTo⟩ := Option.bind_eq_some_iff.mp stepTo
    simp only [Option.ite_none_right_eq_some, Option.some.injEq] at stepTo
    obtain ⟨-, rfl⟩ := stepTo
    refine settled.setLookup fun session found => ?_
    exact getLastSession_notMem (keeps lookup at') (LookupPoint.found.inj found)
  | decided index =>
    obtain ⟨lookup, at', stepTo⟩ := Option.bind_eq_some_iff.mp stepTo
    have done : Settled (state.setLookup index lookup .done) :=
      settled.setLookup fun session found => nomatch found
    split at stepTo
    · cases stepTo
      exact done
    · cases stepTo
      split
      · exact done
      · exact ⟨done.returned, done.writers, done.pending, done.found⟩
    · cases stepTo
  | loopStarts | loopEnds =>
    cases stepTo
    exact ⟨settled.returned, settled.writers, settled.pending, settled.found⟩
  | takePending =>
    simp only [PoolSession.step] at stepTo
    split at stepTo
    next =>
      split at stepTo
      · cases stepTo
      · cases stepTo
        exact ⟨settled.returned, settled.writers, (fun _ none' => nomatch none'), settled.found⟩
    · cases stepTo
  | turnStarts born =>
    simp only [PoolSession.step, Option.ite_none_right_eq_some, Option.some.injEq] at stepTo
    obtain ⟨-, rfl⟩ := stepTo
    refine ⟨settled.returned, fun turn member busy => ?_, settled.pending,
      settled.found⟩
    rcases List.mem_append.mp member with old | new
    · exact settled.writers turn old busy
    · rw [List.mem_singleton.mp new] at busy
      exact absurd rfl busy
  | logTurn index =>
    obtain ⟨turn, -, stepTo⟩ := Option.bind_eq_some_iff.mp stepTo
    cases stepTo
    exact ⟨settled.returned, settled.writers, settled.pending, settled.found⟩
  | logPublished index ok =>
    obtain ⟨event, -, stepTo⟩ := Option.bind_eq_some_iff.mp stepTo
    cases stepTo
    exact ⟨settled.returned, settled.writers, settled.pending, settled.found⟩
  | writesBack index session =>
    obtain ⟨turn, at', stepTo⟩ := Option.bind_eq_some_iff.mp stepTo
    simp only [Option.ite_none_right_eq_some] at stepTo
    obtain ⟨-, stepTo⟩ := stepTo
    cases session with
    | none =>
      cases stepTo
      exact settled
    | some session =>
      cases stepTo
      split
      · exact settled
      next other => exact settled.setTurn fun _ => keeps turn at' other
  | turnEnds index ok =>
    obtain ⟨turn, at', stepTo⟩ := Option.bind_eq_some_iff.mp stepTo
    split at stepTo
    next old new ending =>
      cases stepTo
      have written : Settled (state.setTurn index turn (.ended new)) := by
        refine settled.setTurn fun _ => ?_
        exact settled.writers turn (List.mem_of_getElem? at') (by simp [ending])
      exact ⟨written.returned, written.writers, written.pending, written.found⟩
    · cases stepTo
  | assigns index =>
    obtain ⟨turn, at', stepTo⟩ := Option.bind_eq_some_iff.mp stepTo
    split at stepTo
    next new ended =>
      cases stepTo
      have written : Settled (state.setTurn index turn .working) :=
        settled.setTurn fun busy => absurd rfl busy
      exact ⟨written.returned, written.writers, written.pending, written.found⟩
    · cases stepTo
  | clear =>
    cases stepTo
    refine ⟨?_, fun turn member busy => absurd (keeps turn member) busy,
      fun _ none' => (nomatch none'), settled.found⟩
    have returned := settled.returned
    simp only [List.length_append, List.length_singleton]
    omega
  | clearEnds index ok =>
    simp only [PoolSession.step] at stepTo
    split at stepTo
    next old _ =>
      cases stepTo
      have moved := settled.setClear index (.ended old)
      exact ⟨moved.returned, moved.writers, moved.pending, moved.found⟩
    · cases stepTo
  | rotates index session =>
    simp only [PoolSession.step] at stepTo
    split at stepTo
    next old _ =>
      cases stepTo
      have moved := settled.setClear index (.starting old session)
      exact ⟨moved.returned, moved.writers, moved.pending, moved.found⟩
    · cases stepTo
  | clearStarts index ok =>
    simp only [PoolSession.step] at stepTo
    split at stepTo
    next old new _ =>
      cases stepTo
      have moved := settled.setClear index (.started old)
      exact ⟨moved.returned, moved.writers, moved.pending, moved.found⟩
    · cases stepTo
  | clearReturns index =>
    simp only [PoolSession.step] at stepTo
    split at stepTo
    next old started =>
      cases stepTo
      obtain ⟨inside, -⟩ := List.getElem?_eq_some_iff.mp started
      have moved : Settled (state.setClear index .returned) :=
        settled.setClear index .returned
      refine ⟨?_, moved.writers, moved.pending, moved.found⟩
      have length : (state.setClear index .returned).clears.length =
          state.clears.length := List.length_set
      change max state.lastReturned (index + 1) ≤ _
      rw [length]
      exact Nat.max_le.mpr ⟨settled.returned, inside⟩
    · cases stepTo
  | applies index again =>
    obtain ⟨event, -, stepTo⟩ := Option.bind_eq_some_iff.mp stepTo
    cases stepTo
    exact ⟨settled.returned, settled.writers, settled.pending, settled.found⟩
  | drops index =>
    obtain ⟨event, -, stepTo⟩ := Option.bind_eq_some_iff.mp stepTo
    cases stepTo
    exact ⟨settled.returned, settled.writers, settled.pending, settled.found⟩

theorem quiet (settled : Settled state) (keeps : KeepsCleared state action)
    (stepTo : PoolSession.step state action = some after) {born : Nat}
    (owner : state.born action = some born) (early : born < state.lastReturned) :
    after.sessionId = state.sessionId ∧ after.stream = state.stream ∧
      (after.pending = none ∨ after.pending = state.pending) ∧
      after.resumes = state.resumes := by
  have old : born ≠ state.clears.length := by
    have returned := settled.returned
    omega
  cases action with
  | resolved index answer =>
    obtain ⟨lookup, at', rfl⟩ := Option.map_eq_some_iff.mp owner
    cases answer with
    | none =>
      obtain ⟨_, _, stepTo⟩ := Option.bind_eq_some_iff.mp stepTo
      simp only [Option.ite_none_right_eq_some, Option.some.injEq] at stepTo
      obtain ⟨-, rfl⟩ := stepTo
      exact ⟨rfl, rfl, .inr rfl, rfl⟩
    | some session => exact absurd (keeps lookup at') old
  | queried index =>
    obtain ⟨_, _, stepTo⟩ := Option.bind_eq_some_iff.mp stepTo
    simp only [Option.ite_none_right_eq_some, Option.some.injEq] at stepTo
    obtain ⟨-, rfl⟩ := stepTo
    exact ⟨rfl, rfl, .inr rfl, rfl⟩
  | decided index =>
    obtain ⟨lookup, at', rfl⟩ := Option.map_eq_some_iff.mp owner
    obtain ⟨other, same, stepTo⟩ := Option.bind_eq_some_iff.mp stepTo
    obtain rfl : lookup = other := Option.some.inj (at'.symm.trans same)
    split at stepTo
    · cases stepTo
      exact ⟨rfl, rfl, .inr rfl, rfl⟩
    next session found =>
      cases stepTo
      split
      · exact ⟨rfl, rfl, .inr rfl, rfl⟩
      next differs =>
        have fresh := keeps lookup at' (by simpa [found] using differs)
          (by simp [found])
        exact absurd fresh old
    · cases stepTo
  | takePending =>
    obtain ⟨entry, at', rfl⟩ := Option.map_eq_some_iff.mp owner
    exact absurd (settled.pending entry at') old
  | logTurn index =>
    obtain ⟨_, _, stepTo⟩ := Option.bind_eq_some_iff.mp stepTo
    cases stepTo
    exact ⟨rfl, rfl, .inr rfl, rfl⟩
  | writesBack index session =>
    obtain ⟨turn, at', rfl⟩ := Option.map_eq_some_iff.mp owner
    obtain ⟨_, _, stepTo⟩ := Option.bind_eq_some_iff.mp stepTo
    simp only [Option.ite_none_right_eq_some] at stepTo
    obtain ⟨-, stepTo⟩ := stepTo
    split at stepTo
    · cases stepTo
      exact ⟨rfl, rfl, .inr rfl, rfl⟩
    · cases stepTo
      split
      · exact ⟨rfl, rfl, .inr rfl, rfl⟩
      next differs => exact absurd (keeps turn at' differs) old
  | turnEnds index ok | assigns index =>
    obtain ⟨turn, at', rfl⟩ := Option.map_eq_some_iff.mp owner
    obtain ⟨other, same, stepTo⟩ := Option.bind_eq_some_iff.mp stepTo
    obtain rfl : turn = other := Option.some.inj (at'.symm.trans same)
    split at stepTo
    next busy =>
      have fresh := settled.writers turn (List.mem_of_getElem? at') (by simp [busy])
      exact absurd fresh old
    · cases stepTo
  | _ => cases owner

end Settled

theorem settled_of_reachable (reached : poolSession.ReachableWithin KeepsCleared state) :
    Settled state := by
  have start : ∀ state, poolSession.initial state → Settled state := by
    rintro _ ⟨session, rows, rfl⟩
    exact ⟨Nat.le_refl 0, List.forall_mem_nil _,
      (fun _ none' => nomatch none'), List.forall_mem_nil _⟩
  exact reached.invariant start fun _ _ _ settled keeps stepTo =>
    settled.step keeps stepTo

theorem staysCleared_of_reachable (reached : poolSession.ReachableWithin KeepsCleared state)
    (keeps : KeepsCleared state action)
    (stepTo : step state action = some after) :
    StaysCleared state action after := by
  have settled := settled_of_reachable reached
  refine ⟨fun born owner early => settled.quiet keeps stepTo owner early, ?_⟩
  rintro index rfl lookup at'
  obtain ⟨other, same, stepTo⟩ := Option.bind_eq_some_iff.mp stepTo
  obtain rfl : lookup = other := Option.some.inj (at'.symm.trans same)
  split at stepTo
  · cases stepTo
    exact .inl rfl
  next session found =>
    cases stepTo
    split
    · exact .inl rfl
    · exact .inr ⟨session, settled.found lookup (List.mem_of_getElem? at') session found, rfl⟩
  · cases stepTo

instance decidableKeepsCleared (state : State) : ∀ action, Decidable (KeepsCleared state action)
  | .writesBack turn (some session) => inferInstanceAs (Decidable (∀ writer ∈ state.turns[turn]?,
        session ≠ state.sessionId → writer.born = state.clears.length))
  | .clear => inferInstanceAs (Decidable (∀ turn ∈ state.turns, turn.point = .working))
  | .resolved lookup (some _) => inferInstanceAs (Decidable
      (∀ reader ∈ state.lookups[lookup]?, reader.born = state.clears.length))
  | .queried lookup => inferInstanceAs (Decidable (∀ reader ∈ state.lookups[lookup]?,
        ∀ row ∈ state.rows, row.session ∈ reader.cleared → row.ended = true))
  | .decided lookup => inferInstanceAs (Decidable (∀ reader ∈ state.lookups[lookup]?,
        reader.point ≠ .found (some state.sessionId) →
          reader.point ≠ .found none → reader.born = state.clears.length))
  | .writesBack _ none | .resolved _ none | .submit _ | .loopStarts | .loopEnds
  | .takePending | .turnStarts _ | .logTurn _ | .logPublished _ _
  | .turnEnds _ _ | .assigns _ | .clearEnds _ _ | .rotates _ _
  | .clearStarts _ _ | .clearReturns _ | .applies _ _ | .drops _ =>
    inferInstanceAs (Decidable True)

/-- One turn whose answer has a session id. -/
def turnRuns (turn born : Nat) (session : Session) : List Action :=
  [.loopStarts, .turnStarts born, .logTurn turn, .logPublished 0 true,
    .writesBack turn (some session), .turnEnds turn true, .assigns turn,
    .loopEnds]

def clearRuns (clear : Nat) (session : Session) : List Action :=
  [.clear, .clearEnds clear true, .rotates clear session,
    .clearStarts clear true, .clearReturns clear]

/-- A turn, `/clear`, a turn, and a message for which the session before the
second answer is found. -/
theorem staysCleared_of_later_message :
    ∃ state after, poolSession.ReachableWithin KeepsCleared state ∧
      step state (.decided 0) = some after ∧ after.resumes = ["n"] ∧
      StaysCleared state (.decided 0) after := by
  have found : ∃ state, poolSession.ReachableWithin KeepsCleared state ∧
      KeepsCleared state (.decided 0) ∧
      (step state (.decided 0)).map State.resumes = some ["n"] :=
    TransitionSystem.exists_reachableWithin_of_checkedRun { sessionId := "a" } ⟨"a", [], rfl⟩
      (turnRuns 0 0 "c" ++ clearRuns 0 "n" ++ [.applies 0 false, .applies 0 true, .applies 0 false,
          .applies 0 false, .applies 0 false] ++
        turnRuns 1 1 "d" ++ [.submit false, .queried 0])
      (by decide)
  obtain ⟨state, reached, keeps, resumes⟩ := found
  obtain ⟨after, stepTo, resumed⟩ := Option.map_eq_some_iff.mp resumes
  exact ⟨state, after, reached, stepTo, resumed, staysCleared_of_reachable reached keeps stepTo⟩

/-- A turn that runs while the pool is cleared takes the pool to the session of
its answer; and with a writer that lags behind, the next message resumes the
session that was cleared. -/
theorem exists_clear_undone : (∃ state, poolSession.Reachable state ∧ state.lastReturned = 1 ∧
      state.born (.assigns 0) = some 0 ∧ state.sessionId = "n" ∧
      (step state (.assigns 0)).map State.sessionId = some "c") ∧
    ∃ state, poolSession.Reachable state ∧ (state.lookups[0]?).map Lookup.cleared = some ["a"] ∧
      (step state (.decided 0)).map State.resumes = some ["a"] :=
  ⟨TransitionSystem.exists_reachable_of_run { sessionId := "a" } ⟨"a", [], rfl⟩
      ([.loopStarts, .turnStarts 0] ++ clearRuns 0 "n" ++
        [.writesBack 0 (some "c"), .turnEnds 0 true])
      (by decide),
    TransitionSystem.exists_reachable_of_run { sessionId := "a", rows := [{ session := "a" }] }
      ⟨"a", [{ session := "a" }], rfl⟩
      (clearRuns 0 "n" ++ [.submit false, .queried 0])
      (by decide)⟩

end PoolSession

end RoxabiFactory
