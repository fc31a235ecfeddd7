import RoxabiFactory.Invites

/-!
# What becomes of an invite

Each call is at a point that the status of the invite allows.  A statement
that writes the status keeps this when no other call is on its way to another
one.
-/

namespace RoxabiFactory

namespace Invites

variable {Task : Type}

namespace State

/-- The status of the invite allows the point at which a call stands. -/
structure Fits (state : State Task) (phase : Phase) : Prop where
  registered : phase.isWinner = true → state.registered = true
  done : phase.isDone = true → state.status = .accepted
  changed : phase.isChanged = true → state.status = .revoked
  between : phase.isBetween = true → state.status ≠ .revoked
  accepting : phase.isAccepting = true → state.status ≠ .expired
  expiring : phase = .accept .expiring → state.expiresAt < state.now

/-- The invariant of the runs in which the statements run alone. -/
structure Sound (state : State Task) : Prop where
  fits : ∀ task phase, state.tasks task = some phase → state.Fits phase
  unique : ∀ task other phase second, state.tasks task = some phase →
    state.tasks other = some second → phase.isWinner = true →
    second.isWinner = true → task = other
  late : state.status = .expired → state.expiresAt < state.now

theorem sound_of_created {state : State Task} (created : Created state) :
    state.Sound := by
  constructor
  · intro task phase found
    rw [created.idle] at found
    cases found
  · intro task other phase second found
    rw [created.idle] at found
    cases found
  · intro expired
    rw [created.status] at expired
    cases expired

section Steps

variable {state after : State Task} {task : Task} {phase next : Phase}

theorem Fits.of_quiet (winner : phase.isWinner = false)
    (changed : phase.isChanged = false) (between : phase.isBetween = false)
    (done : phase.isDone = false) : state.Fits phase := by
  have accepting : phase.isAccepting = false := by
    unfold Phase.isBetween at between
    exact (Bool.or_eq_false_iff.1 (Bool.or_eq_false_iff.1 between).1).1
  constructor
  · intro present
    rw [winner] at present
    cases present
  · intro present
    rw [done] at present
    cases present
  · intro present
    rw [changed] at present
    cases present
  · intro present
    rw [between] at present
    cases present
  · intro present
    rw [accepting] at present
    cases present
  · intro expiring
    subst expiring
    cases between

variable [DecidableEq Task]

theorem Sound.setPhase (sound : state.Sound) (fits : state.Fits next)
    (winner : next.isWinner = true → ∃ phase,
      state.tasks task = some phase ∧ phase.isWinner = true) :
    (state.setPhase task next).Sound := by
  constructor
  · intro other phase found
    by_cases same : other = task
    · rw [same] at found
      cases (Function.update_self ..).symm.trans found
      exact ⟨fits.registered, fits.done, fits.changed, fits.between, fits.accepting, fits.expiring⟩
    · have known := sound.fits other phase ((Function.update_of_ne same _ _).symm.trans found)
      exact ⟨known.registered, known.done, known.changed, known.between,
        known.accepting, known.expiring⟩
  · have before (other : Task) (phase : Phase)
        (found : (state.setPhase task next).tasks other = some phase)
        (won : phase.isWinner = true) :
        ∃ phase, state.tasks other = some phase ∧ phase.isWinner = true := by
      by_cases same : other = task
      · rw [same] at found ⊢
        cases (Function.update_self ..).symm.trans found
        exact winner won
      · exact ⟨phase, (Function.update_of_ne same _ _).symm.trans found, won⟩
    intro first second phase other found also won wins
    obtain ⟨earlier, known, had⟩ := before first phase found won
    obtain ⟨former, listed, has⟩ := before second other also wins
    exact sound.unique first second earlier former known listed had has
  · exact sound.late

/-- The call is refused, or comes to another point without consequences. -/
theorem Sound.quiet (sound : state.Sound) (winner : next.isWinner = false)
    (changed : next.isChanged = false) (between : next.isBetween = false)
    (done : next.isDone = false) : (state.setPhase task next).Sound := by
  apply sound.setPhase (.of_quiet winner changed between done)
  intro won
  rw [winner] at won
  cases won

omit [DecidableEq Task] in
theorem Sound.setStatus (sound : state.Sound) (status : InviteStatus)
    (done : ∀ task phase, state.tasks task = some phase → phase.isDone = true → status = .accepted)
    (changed : ∀ task phase, state.tasks task = some phase →
      phase.isChanged = true → status = .revoked)
    (between : status = .revoked → ∀ task phase,
      state.tasks task = some phase → phase.isBetween = false)
    (accepting : status = .expired → ∀ task phase,
      state.tasks task = some phase → phase.isAccepting = false)
    (late : status = .expired → state.expiresAt < state.now) :
    (state.setStatus status).Sound := by
  constructor
  · intro task phase found
    have fits := sound.fits task phase found
    constructor
    · exact fits.registered
    · exact done task phase found
    · exact changed task phase found
    · intro present revoked
      rw [between revoked task phase found] at present
      cases present
    · intro present expired
      rw [accepting expired task phase found] at present
      cases present
    · exact fits.expiring
  · exact sound.unique
  · exact late

/-- A call of `accept_invite` goes on with the same consequences. -/
theorem Sound.goOn (sound : state.Sound) {stage following : Stage}
    (found : state.tasks task = some (.accept stage))
    (winner : (Phase.accept following).isWinner = true → (Phase.accept stage).isWinner = true)
    (done : (Phase.accept following).isDone = false)
    (accepting : (Phase.accept stage).isAccepting = true)
    (expiring : following ≠ .expiring) :
    (state.setPhase task (.accept following)).Sound := by
  have fits := sound.fits task _ found
  have between : (Phase.accept stage).isBetween = true := by
    unfold Phase.isBetween
    rw [accepting]
    rfl
  apply sound.setPhase
  · constructor
    · intro won
      exact fits.registered (winner won)
    · intro present
      rw [done] at present
      cases present
    · intro present
      cases present
    · intro _
      exact fits.between between
    · intro _
      exact fits.accepting accepting
    · intro same
      exact absurd (Phase.accept.inj same) expiring
  · intro won
    exact ⟨_, found, winner won⟩

theorem Sound.insert (sound : state.Sound) (found : state.tasks task = some (.accept .unregistered))
    (unknown : ¬ state.registered = true) :
    ({ state with registered := true }.setPhase task
      (.accept .inserted)).Sound := by
  have fits := sound.fits task _ found
  have first (other : Task) (phase : Phase)
      (known : state.tasks other = some phase) : phase.isWinner = false := by
    apply Bool.eq_false_of_not_eq_true
    intro won
    exact unknown ((sound.fits other phase known).registered won)
  constructor
  · intro other phase known
    by_cases same : other = task
    · rw [same] at known
      cases (Function.update_self ..).symm.trans known
      constructor
      · intro _
        rfl
      · intro done
        cases done
      · intro changed
        cases changed
      · intro _
        exact fits.between rfl
      · intro _
        exact fits.accepting rfl
      · intro expiring
        cases expiring
    · have before := sound.fits other phase ((Function.update_of_ne same _ _).symm.trans known)
      exact ⟨fun _ => rfl, before.done, before.changed, before.between,
        before.accepting, before.expiring⟩
  · have only (other : Task) (phase : Phase)
        (known : ({ state with registered := true }.setPhase task
          (.accept .inserted)).tasks other = some phase)
        (won : phase.isWinner = true) : other = task := by
      by_contra differ
      rw [first other phase ((Function.update_of_ne differ _ _).symm.trans known)] at won
      cases won
    intro one other phase second known also won wins
    exact (only one phase known won).trans (only other second also wins).symm
  · exact sound.late

/-- The next part of `accept_invite`. -/
theorem Sound.accept {stage : Stage} (sound : state.Sound)
    (found : state.tasks task = some (.accept stage))
    (alone : state.Alone (some (.accept stage))) :
    (state.accept task stage).Sound := by
  have fits := sound.fits task _ found
  cases stage with
  | called =>
    apply sound.setPhase
    · constructor
      · intro won
        cases won
      · intro done
        cases done
      · intro changed
        cases changed
      · intro between revoked
        rw [revoked] at between
        cases between
      · intro accepting
        cases accepting
      · intro expiring
        cases expiring
    · intro won
      cases won
  | selected status =>
    rw [State.accept]
    by_cases pending : status = .pending
    swap
    · rw [if_pos pending]
      exact sound.quiet rfl rfl rfl rfl
    subst pending
    have kept : state.status ≠ .revoked := fits.between rfl
    rw [if_neg (by decide)]
    by_cases isOver : state.expiresAt < state.now
    · rw [if_pos isOver]
      apply sound.setPhase
      · constructor
        · intro won
          cases won
        · intro done
          cases done
        · intro changed
          cases changed
        · intro _
          exact kept
        · intro accepting
          cases accepting
        · intro _
          exact isOver
      · intro won
        cases won
    · rw [if_neg isOver]
      apply sound.setPhase
      · constructor
        · intro won
          cases won
        · intro done
          cases done
        · intro changed
          cases changed
        · intro _
          exact kept
        · intro _ expired
          exact isOver (sound.late expired)
        · intro expiring
          cases expiring
      · intro won
        cases won
  | expiring =>
    obtain ⟨unaccepted, free⟩ := alone
    rw [State.accept]
    apply Sound.quiet _ rfl rfl rfl rfl
    apply sound.setStatus
    · intro other phase known done
      exact absurd ((sound.fits other phase known).done done) unaccepted
    · intro other phase known changed
      exact absurd ((sound.fits other phase known).changed changed) (fits.between rfl)
    · intro revoked
      cases revoked
    · intro _ other phase known
      exact free other phase known
    · intro _
      exact fits.expiring rfl
  | expired => exact sound.quiet rfl rfl rfl rfl
  | checked =>
    rw [State.accept]
    split
    · exact sound.quiet rfl rfl rfl rfl
    · apply sound.goOn found
      · intro won
        cases won
      · rfl
      · rfl
      · decide
  | unregistered =>
    rw [State.accept]
    by_cases known : state.registered = true
    · rw [if_pos known]
      exact sound.quiet rfl rfl rfl rfl
    · rw [if_neg known]
      exact sound.insert found known
  | inserted =>
    apply sound.goOn found
    · intro _
      rfl
    · rfl
    · rfl
    · decide
  | userCommitted =>
    apply sound.goOn found
    · intro _
      rfl
    · rfl
    · rfl
    · decide
  | created =>
    have kept : state.status ≠ .revoked := fits.between rfl
    have written : (state.setStatus .accepted).Sound := by
      apply sound.setStatus
      · intro other phase listed done
        rfl
      · intro other phase listed changed
        exact absurd ((sound.fits other phase listed).changed changed) kept
      · intro revoked
        cases revoked
      · intro expired
        cases expired
      · intro expired
        cases expired
    apply written.setPhase
    · constructor
      · intro _
        exact fits.registered rfl
      · intro _
        rfl
      · intro changed
        cases changed
      · intro between
        cases between
      · intro accepting
        cases accepting
      · intro expiring
        cases expiring
    · intro _
      exact ⟨_, found, rfl⟩
  | accepted =>
    apply sound.setPhase
    · constructor
      · intro _
        exact fits.registered rfl
      · intro _
        exact fits.done rfl
      · intro changed
        cases changed
      · intro between
        cases between
      · intro accepting
        cases accepting
      · intro expiring
        cases expiring
    · intro _
      exact ⟨_, found, rfl⟩

/-- The statement of `revoke_invite`. -/
theorem Sound.revoke (sound : state.Sound)
    (alone : state.Alone (some .revoke)) : (state.revoke task).Sound := by
  unfold State.revoke
  split
  · rename_i pending
    have free := alone pending
    have written : (state.setStatus .revoked).Sound := by
      apply sound.setStatus
      · intro other phase known done
        have accepted := (sound.fits other phase known).done done
        rw [pending] at accepted
        cases accepted
      · intro other phase known changed
        rfl
      · intro _ other phase known
        exact free other phase known
      · intro expired
        cases expired
      · intro expired
        cases expired
    apply written.setPhase
    · constructor
      · intro won
        cases won
      · intro done
        cases done
      · intro _
        rfl
      · intro between
        cases between
      · intro accepting
        cases accepting
      · intro expiring
        cases expiring
    · intro won
      cases won
  · exact sound.quiet rfl rfl rfl rfl

theorem Sound.step {action : Action Task} (sound : state.Sound) (orderly : state.Orderly action)
    (stepTo : state.step action = some after) : after.Sound := by
  cases action with
  | accept task password =>
    unfold State.step at stepTo
    cases found : state.tasks task with
    | some phase => simp only [found, reduceCtorEq] at stepTo
    | none =>
      simp only [found] at stepTo
      split at stepTo
      · cases stepTo
        exact sound.quiet rfl rfl rfl rfl
      · cases stepTo
        exact sound.quiet rfl rfl rfl rfl
  | revoke task =>
    unfold State.step at stepTo
    cases found : state.tasks task with
    | some phase => simp only [found, reduceCtorEq] at stepTo
    | none =>
      simp only [found, Option.some.injEq] at stepTo
      subst stepTo
      exact sound.quiet rfl rfl rfl rfl
  | run task =>
    unfold State.step at stepTo
    have alone : state.Alone (state.tasks task) := orderly
    cases found : state.tasks task with
    | none => simp only [found, reduceCtorEq] at stepTo
    | some phase =>
      rw [found] at alone
      cases phase with
      | accept stage =>
        simp only [found, Option.some.injEq] at stepTo
        subst stepTo
        exact sound.accept found alone
      | revoke =>
        simp only [found, Option.some.injEq] at stepTo
        subst stepTo
        exact sound.revoke alone
      | revoking changed =>
        simp only [found, Option.some.injEq] at stepTo
        subst stepTo
        have fits := sound.fits task _ found
        apply sound.setPhase
        · constructor
          · intro won
            cases won
          · intro done
            cases done
          · intro happened
            exact fits.changed happened
          · intro between
            cases between
          · intro accepting
            cases accepting
          · intro expiring
            cases expiring
        · intro won
          cases won
      | returned outcome => simp only [found, reduceCtorEq] at stepTo
  | register =>
    cases stepTo
    constructor
    · intro task phase found
      have fits := sound.fits task phase found
      exact ⟨fun _ => rfl, fits.done, fits.changed, fits.between, fits.accepting, fits.expiring⟩
    · exact sound.unique
    · exact sound.late
  | tick time =>
    simp only [State.step] at stepTo
    split at stepTo
    · rename_i later
      cases stepTo
      constructor
      · intro task phase found
        have fits := sound.fits task phase found
        exact ⟨fits.registered, fits.done, fits.changed, fits.between,
          fits.accepting, fun expiring =>
            lt_of_lt_of_le (fits.expiring expiring) later⟩
      · exact sound.unique
      · intro expired
        exact lt_of_lt_of_le (sound.late expired) later
    · cases stepTo

omit [DecidableEq Task] in
theorem Sound.honest (sound : state.Sound) : state.Honest := by
  constructor
  · intro task found
    have revoked := (sound.fits task _ found).changed rfl
    refine ⟨revoked, ?_⟩
    intro other also
    have accepted := (sound.fits other _ also).done rfl
    rw [revoked] at accepted
    cases accepted
  · intro expired task found
    have accepted := (sound.fits task _ found).done rfl
    rw [expired] at accepted
    cases accepted
  · intro task other found also
    exact sound.unique task other _ _ found also rfl rfl

end Steps

end State

/-- An invite that has been revoked or found to be expired is never accepted,
and none is accepted twice, when the statements that revoke or expire it run
alone. -/
theorem invitesHonest_of_reachable [DecidableEq Task] {state : State Task}
    (reached : (system Task).ReachableWithin State.Orderly state) :
    state.Honest := by
  have sound : state.Sound := by
    apply reached.invariant
    · intro start created
      exact State.sound_of_created created
    · intro before action next known orderly stepTo
      exact known.step orderly stepTo
  exact sound.honest

section Example

/-- A pending invite for a new user. -/
def invited : State Bool where
  now := 0
  expiresAt := 10
  registered := false

/-- The invite is revoked and then accepted. -/
def revokedFirst : List (Action Bool) :=
  [.revoke true, .run true, .run true, .accept false "secret", .run false, .run false]

/-- A call of `accept_invite` up to its last statement. -/
def accepting : List (Action Bool) :=
  [.accept false "secret", .run false, .run false, .run false, .run false, .run false, .run false]

/-- The invite that has been revoked stays so. -/
theorem honest_revokedFirst : ∃ state : State Bool,
      (system Bool).run invited revokedFirst = some state ∧ state.Honest := by
  have run : ∃ state : State Bool, (system Bool).checkedRun State.Orderly invited revokedFirst =
        some state := by
    rw [← Option.isSome_iff_exists]
    decide
  obtain ⟨state, runs⟩ := run
  have start : (system Bool).ReachableWithin State.Orderly invited := by
    apply TransitionSystem.ReachableWithin.start
    exact ⟨rfl, fun _ => rfl⟩
  refine ⟨state, TransitionSystem.run_of_checkedRun runs, ?_⟩
  exact invitesHonest_of_reachable (.of_checkedRun invited start revokedFirst runs)

/-- The invite is revoked while it is being accepted. -/
theorem exists_revoked_accepted :
    ∃ state : State Bool, (system Bool).Reachable state ∧ ¬ state.Honest := by
  have run : ∃ state : State Bool, (system Bool).Reachable state ∧
      (state.tasks true = some (.returned (.revoked true)) ∧
        state.tasks false = some (.returned .accepted)) :=
    TransitionSystem.exists_reachable_of_run invited ⟨rfl, fun _ => rfl⟩
      (accepting ++ [.revoke true, .run true, .run true, .run false,
        .run false]) (by decide)
  obtain ⟨state, reached, revoked, accepted⟩ := run
  refine ⟨state, reached, ?_⟩
  intro honest
  exact (honest.revoked true revoked).2 false accepted

end Example

end Invites

end RoxabiFactory
