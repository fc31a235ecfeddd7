import RoxabiFactory.LinkChallenges

/-!
# Codes work once while no transactions overlap

A ticket is taken by one attempt in every run.  As long as a validation has its
transaction for itself, the rows of the table are the codes whose tickets have
not been taken, so the attempt with the ticket finds the row, and what it rolls
back is nothing.
-/

namespace RoxabiFactory

namespace LinkChallenges

namespace ChallengeState

section Tickets

variable {Task : Type} (state : ChallengeState Task)

/-- The validation that a task carries out. -/
def attempt (task : Task) : Option Attempt := (state.tasks task).bind Stage.attempt?

/-- The tickets for a code that have been taken have smaller numbers. -/
def nextTicket (codeHash : String) : ℕ :=
  ((state.waiting codeHash).map Ticket.number).getD (state.issued codeHash)

/-- The ticket of an attempt, if it has one, has been taken. -/
def Taken (attempt : Attempt) : Prop := ∀ insertion ∈ attempt.insertion,
    insertion.2 < state.nextTicket insertion.1

/-- Every ticket is taken once. -/
structure Numbered : Prop where
  waiting : ∀ codeHash, ∀ ticket ∈ state.waiting codeHash, ticket.number < state.issued codeHash
  pending : ∀ task, ∀ attempt ∈ state.attempt task, state.Taken attempt
  logged : ∀ validation ∈ state.log, state.Taken validation.attempt
  tasks : ∀ task other, task ≠ other → ∀ first ∈ state.attempt task,
    ∀ second ∈ state.attempt other, first.Apart second
  log : ∀ task, ∀ attempt ∈ state.attempt task,
    ∀ validation ∈ state.log, attempt.Apart validation.attempt
  apart : state.log.Pairwise fun later earlier =>
    later.attempt.Apart earlier.attempt

variable {state}

theorem Taken.mono {after : ChallengeState Task} {attempt : Attempt} (taken : state.Taken attempt)
    (later : ∀ codeHash, state.nextTicket codeHash ≤
      after.nextTicket codeHash) : after.Taken attempt :=
  fun insertion own => (taken insertion own).trans_le (later _)

theorem Taken.apart {first second : Attempt} (taken : state.Taken second)
    (fresh : ∀ insertion ∈ first.insertion,
      insertion.2 = state.nextTicket insertion.1) : first.Apart second := by
  intro insertion own other
  have before := taken insertion other
  rw [fresh insertion own] at before
  exact lt_irrefl _ before

theorem Numbered.nextTicket_le_issued (numbered : state.Numbered) (codeHash : String) :
    state.nextTicket codeHash ≤ state.issued codeHash := by
  unfold nextTicket
  cases waits : state.waiting codeHash with
  | none => exact le_rfl
  | some ticket => exact (numbered.waiting codeHash ticket waits).le

theorem nextTicket_take_self (codeHash : String) :
    (state.take codeHash).nextTicket codeHash = state.issued codeHash := by
  unfold nextTicket take
  simp only [Function.update_self, Option.map_none, Option.getD_none]

theorem Numbered.nextTicket_le_take (numbered : state.Numbered) (codeHash other : String) :
    state.nextTicket other ≤ (state.take codeHash).nextTicket other := by
  by_cases same : other = codeHash
  · subst same
    rw [nextTicket_take_self]
    exact numbered.nextTicket_le_issued other
  · unfold nextTicket take
    simp only [Function.update_of_ne same, le_refl]

variable [DecidableEq Task] {task : Task} {db : SqliteConnection Table}

theorem tasks_advance_self (stage : Option Stage) :
    (state.advance task stage db).tasks task = stage :=
  Function.update_self ..

theorem tasks_advance_of_ne {other : Task} (different : other ≠ task) (stage : Option Stage) :
    (state.advance task stage db).tasks other = state.tasks other :=
  Function.update_of_ne different ..

theorem attempt_advance_self (stage : Option Stage) : (state.advance task stage db).attempt task =
      stage.bind Stage.attempt? := by
  unfold attempt
  rw [tasks_advance_self]

theorem attempt_advance_of_ne {other : Task} (different : other ≠ task) (stage : Option Stage) :
    (state.advance task stage db).attempt other = state.attempt other := by
  unfold attempt
  rw [tasks_advance_of_ne different]

theorem Numbered.advance (numbered : state.Numbered) {stage : Option Stage}
    (same : ∀ attempt ∈ stage.bind Stage.attempt?, attempt ∈ state.attempt task) :
    (state.advance task stage db).Numbered := by
  have before {other : Task} {attempt : Attempt}
      (own : attempt ∈ (state.advance task stage db).attempt other) :
      attempt ∈ state.attempt other := by
    by_cases equal : other = task
    · subst equal
      rw [attempt_advance_self] at own
      exact same attempt own
    · rw [attempt_advance_of_ne equal] at own
      exact own
  constructor
  · exact numbered.waiting
  · intro other attempt own
    exact numbered.pending other attempt (before own)
  · exact numbered.logged
  · intro other another different first own second its
    exact numbered.tasks other another different first (before own) second (before its)
  · intro other attempt own
    exact numbered.log other attempt (before own)
  · exact numbered.apart

theorem Numbered.answer (numbered : state.Numbered) {attempt : Attempt}
    (own : attempt ∈ state.attempt task) (accepted : Bool) :
    (state.answer task attempt accepted db).Numbered := by
  have ended : (state.advance task none db).Numbered := by
    apply numbered.advance
    intro other its
    cases its
  have different {other : Task} {another : Attempt}
      (its : another ∈ (state.advance task none db).attempt other) :
      other ≠ task ∧ another ∈ state.attempt other := by
    by_cases equal : other = task
    · subst equal
      rw [attempt_advance_self] at its
      cases its
    · rw [attempt_advance_of_ne equal] at its
      exact ⟨equal, its⟩
  constructor
  · exact ended.waiting
  · exact ended.pending
  · intro validation member
    rcases List.mem_cons.1 member with rfl | earlier
    · exact numbered.pending task attempt own
    · exact ended.logged validation earlier
  · exact ended.tasks
  · intro other another its validation member
    rcases List.mem_cons.1 member with rfl | earlier
    · obtain ⟨apart, before⟩ := different its
      exact numbered.tasks other task apart another before attempt own
    · exact ended.log other another its validation earlier
  · apply List.Pairwise.cons _ ended.apart
    exact numbered.log task attempt own

theorem Numbered.take (numbered : state.Numbered)
    (free : state.attempt task = none) (codeHash : String) :
    ((state.take codeHash).advance task
      (some (.begun ⟨codeHash, state.waiting codeHash, state.clock⟩))
      db).Numbered := by
  have later := numbered.nextTicket_le_take codeHash
  have cases_of_mem {other : Task} {attempt : Attempt}
      (own : attempt ∈ ((state.take codeHash).advance task
        (some (.begun ⟨codeHash, state.waiting codeHash, state.clock⟩))
        db).attempt other) :
      (other = task ∧ attempt = ⟨codeHash, state.waiting codeHash, state.clock⟩) ∨
      (other ≠ task ∧ attempt ∈ state.attempt other) := by
    by_cases equal : other = task
    · subst equal
      rw [attempt_advance_self] at own
      exact .inl ⟨rfl, (Option.some.inj own).symm⟩
    · rw [attempt_advance_of_ne equal] at own
      exact .inr ⟨equal, own⟩
  have fresh : ∀ insertion ∈ Attempt.insertion ⟨codeHash, state.waiting codeHash, state.clock⟩,
      insertion.2 = state.nextTicket insertion.1 := by
    intro insertion own
    obtain ⟨ticket, waits, rfl⟩ := Option.map_eq_some_iff.1 own
    have held : state.waiting codeHash = some ticket := waits
    simp only [nextTicket, held, Option.map_some, Option.getD_some]
  have symmetric {first second : Attempt} (apart : first.Apart second) : second.Apart first :=
    fun insertion own other => apart insertion other own
  constructor
  · intro other ticket waits
    by_cases same : other = codeHash
    · subst same
      cases (Function.update_self ..).symm.trans waits
    · exact numbered.waiting other ticket ((Function.update_of_ne same ..).symm.trans waits)
  · intro other attempt own
    rcases cases_of_mem own with ⟨rfl, rfl⟩ | ⟨different, before⟩
    · intro insertion its
      obtain ⟨ticket, waits, rfl⟩ := Option.map_eq_some_iff.1 its
      exact (numbered.waiting codeHash ticket waits).trans_eq (nextTicket_take_self codeHash).symm
    · exact (numbered.pending other attempt before).mono later
  · intro validation member
    exact (numbered.logged validation member).mono later
  · intro other another different first own second its
    rcases cases_of_mem own with ⟨rfl, rfl⟩ | ⟨-, before⟩
    · rcases cases_of_mem its with ⟨rfl, -⟩ | ⟨-, earlier⟩
      · exact absurd rfl different
      · exact (numbered.pending another second earlier).apart fresh
    · rcases cases_of_mem its with ⟨rfl, rfl⟩ | ⟨-, earlier⟩
      · exact symmetric ((numbered.pending other first before).apart fresh)
      · exact numbered.tasks other another different first before second earlier
  · intro other attempt own validation member
    rcases cases_of_mem own with ⟨rfl, rfl⟩ | ⟨-, before⟩
    · exact (numbered.logged validation member).apart fresh
    · exact numbered.log other attempt before validation member
  · exact numbered.apart

theorem Numbered.rollBack (numbered : state.Numbered) {attempt : Attempt}
    (own : attempt ∈ state.attempt task) :
    (state.rollBack task attempt db).Numbered := by
  have ended : (state.answer task attempt false db).Numbered := numbered.answer own false
  exact ⟨ended.waiting, ended.pending, ended.logged, ended.tasks, ended.log, ended.apart⟩

/-- A call without a validation goes on, and a code has a new ticket. -/
theorem Numbered.insertRow (numbered : state.Numbered) (codeHash : String)
    (row : Challenge) : (state.insertRow task codeHash row).Numbered := by
  unfold ChallengeState.insertRow
  split
  · apply numbered.advance
    intro attempt own
    cases own
  · have ended : (state.advance task
        (some (.inserted codeHash (state.issued codeHash))) (state.db.modify
          fun table => Function.update table codeHash (some row))).Numbered := by
      apply numbered.advance
      intro attempt own
      cases own
    generalize state.db.modify (fun table =>
      Function.update table codeHash (some row)) = stored at ended ⊢
    have later : ∀ other, state.nextTicket other ≤
        nextTicket { state.advance task
          (some (.inserted codeHash (state.issued codeHash))) stored with
          waiting := Function.update state.waiting codeHash
            (some ⟨state.issued codeHash, row.expiresAt⟩)
          issued := Function.update state.issued codeHash (state.issued codeHash + 1) } other := by
      intro other
      by_cases same : other = codeHash
      · subst same
        refine (numbered.nextTicket_le_issued other).trans_eq ?_
        simp only [nextTicket, Function.update_self, Option.map_some, Option.getD_some]
      · simp only [nextTicket, Function.update_of_ne same, le_refl]
    constructor
    · intro other ticket waits
      by_cases same : other = codeHash
      · subst same
        cases (Function.update_self ..).symm.trans waits
        change state.issued other <
          Function.update state.issued other (state.issued other + 1) other
        rw [Function.update_self]
        exact Nat.lt_succ_self _
      · exact (numbered.waiting other ticket
          ((Function.update_of_ne same ..).symm.trans waits)).trans_eq
            (Function.update_of_ne same ..).symm
    · intro other attempt own
      exact (ended.pending other attempt own).mono later
    · intro validation member
      exact (ended.logged validation member).mono later
    · exact ended.tasks
    · exact ended.log
    · exact ended.apart

theorem Numbered.beginValidation (numbered : state.Numbered)
    (silent : state.attempt task = none) (codeHash : String) :
    (state.beginValidation task codeHash).Numbered := by
  unfold ChallengeState.beginValidation
  split
  · exact numbered.take silent codeHash
  · have taken : ((state.take codeHash).advance task (some (.begun
        ⟨codeHash, state.waiting codeHash, state.clock⟩)) state.db).Numbered :=
      numbered.take silent codeHash
    have ended : (((state.take codeHash).advance task (some (.begun
        ⟨codeHash, state.waiting codeHash, state.clock⟩)) state.db).answer task
        ⟨codeHash, state.waiting codeHash, state.clock⟩ false
        state.db).Numbered := taken.answer (attempt_advance_self _) false
    simp only [ChallengeState.answer, ChallengeState.advance, Function.update_idem] at ended
    exact ended

theorem Numbered.resume (numbered : state.Numbered) {stage : Stage}
    {after : ChallengeState Task} (waits : state.tasks task = some stage)
    (resumes : state.resume task stage = some after) : after.Numbered := by
  have own {attempt : Attempt} (its : stage.attempt? = some attempt) :
      attempt ∈ state.attempt task := by
    unfold ChallengeState.attempt
    rw [waits]
    exact its
  cases stage with
  | purged => cases resumes
  | inserted codeHash number =>
    cases resumes
    have ended : (state.advance task none state.db.commit).Numbered := by
      apply numbered.advance
      intro attempt its
      cases its
    exact ⟨ended.waiting, ended.pending, ended.logged, ended.tasks, ended.log, ended.apart⟩
  | begun attempt =>
    rw [ChallengeState.resume] at resumes
    split at resumes
    · cases resumes
      apply numbered.advance
      intro other its
      cases its
      exact own rfl
    · cases resumes
      apply numbered.advance
      intro other its
      cases its
      exact own rfl
  | missing attempt =>
    rw [ChallengeState.resume] at resumes
    split at resumes
    · cases resumes
      exact numbered.rollBack (own rfl)
    · cases resumes
      apply numbered.advance
      intro other its
      cases its
      exact own rfl
  | found attempt row =>
    cases resumes
    apply numbered.advance
    intro other its
    cases its
    exact own rfl
  | removed attempt row =>
    rw [ChallengeState.resume] at resumes
    split at resumes
    · cases resumes
      apply numbered.advance
      intro other its
      cases its
      exact own rfl
    · cases resumes
      apply numbered.advance
      intro other its
      cases its
      exact own rfl
  | failing attempt =>
    rw [ChallengeState.resume] at resumes
    split at resumes
    · cases resumes
      exact numbered.rollBack (own rfl)
    · cases resumes
      exact numbered.answer (own rfl) false
  | committed attempt row =>
    cases resumes
    exact numbered.answer (own rfl) _

theorem Numbered.step (numbered : state.Numbered)
    {action : ChallengeAction Task} {after : ChallengeState Task}
    (steps : state.step action = some after) : after.Numbered := by
  unfold ChallengeState.step at steps
  split at steps
  · have later : ({ state with clock := action.now } :
        ChallengeState Task).Numbered :=
      ⟨numbered.waiting, numbered.pending, numbered.logged, numbered.tasks,
        numbered.log, numbered.apart⟩
    generalize ({ state with clock := action.now } : ChallengeState Task) =
      middle at steps later
    have silent {task : Task} (free : middle.tasks task = none) : middle.attempt task = none := by
      unfold ChallengeState.attempt
      rw [free]
      rfl
    cases event : action.event with
    | create task =>
      rw [event, perform] at steps
      split at steps
      · cases steps
        apply later.advance
        intro attempt own
        cases own
      · cases steps
    | insert task codeHash initiatorId platform ttlMicroseconds =>
      rw [event, perform] at steps
      split at steps
      · cases steps
        exact later.insertRow codeHash _
      · cases steps
    | validate task codeHash =>
      rw [event, perform] at steps
      split at steps
      · rename_i free
        cases steps
        exact later.beginValidation (silent free) codeHash
      · cases steps
    | resume task =>
      rw [event] at steps
      obtain ⟨stage, waits, resumes⟩ := Option.bind_eq_some_iff.1 steps
      exact later.resume waits resumes
  · cases steps

theorem numbered_of_initial
    (initially : (challengeSystem Task).initial state) : state.Numbered := by
  obtain ⟨-, tasks, waiting, issued, log, -⟩ := initially
  have silent {task : Task} {attempt : Attempt} (own : attempt ∈ state.attempt task) : False := by
    unfold ChallengeState.attempt at own
    rw [tasks] at own
    cases own
  constructor
  · intro codeHash ticket waits
    rw [waiting] at waits
    obtain ⟨row, -, rfl⟩ := Option.map_eq_some_iff.1 waits
    rw [issued]
    exact Nat.one_pos
  · intro task attempt own
    exact (silent own).elim
  · intro validation member
    rw [log] at member
    cases member
  · intro task other different first own
    exact (silent own).elim
  · intro task attempt own
    exact (silent own).elim
  · rw [log]
    exact .nil

theorem numbered_of_reachable {admissible : ChallengeState Task → ChallengeAction Task → Prop}
    (reached : (challengeSystem Task).ReachableWithin admissible state) :
    state.Numbered := by
  apply reached.invariant
  · exact fun _ initially => numbered_of_initial initially
  · exact fun _ _ _ numbered _ steps => numbered.step steps

end Tickets

/-! ## The rows and the tickets -/

/-- A row has a ticket, and a ticket that has not expired has a row. -/
def Matches (row : Option Challenge) (ticket : Option Ticket) (clock : ℤ) :
    Prop :=
  (∀ found ∈ row, ∃ held ∈ ticket, held.expiresAt = found.expiresAt) ∧
    ∀ held ∈ ticket, clock ≤ held.expiresAt → row.isSome

theorem Matches.later {row : Option Challenge} {ticket : Option Ticket}
    {clock now : ℤ} (same : Matches row ticket clock) (later : clock ≤ now) :
    Matches row ticket now :=
  ⟨same.1, fun held own live => same.2 held own (later.trans live)⟩

theorem matches_none (clock : ℤ) : Matches none none clock := by
  constructor
  · intro found read
    cases read
  · intro held own
    cases own

theorem Matches.purge {table : Table} {codeHash : String} {ticket : Option Ticket} {clock : ℤ}
    (same : Matches (table codeHash) ticket clock) :
    Matches (LinkChallenges.purge clock table codeHash) ticket clock := by
  constructor
  · intro found read
    exact same.1 found (Option.filter_eq_some_iff.1 read).1
  · intro held own live
    obtain ⟨row, read⟩ := Option.isSome_iff_exists.1 (same.2 held own live)
    obtain ⟨other, its, expires⟩ := same.1 row read
    cases (Option.mem_unique own its)
    have kept : isPurged row.expiresAt clock = false := by
      apply decide_eq_false
      rw [← expires, not_lt]
      exact Int.ediv_le_ediv (by decide) live
    unfold LinkChallenges.purge
    rw [read, Option.filter_some, kept]
    rfl

/-- What a call relies on while it waits. -/
def Fits {Task : Type} (state : ChallengeState Task) : Stage → Prop
  | .purged | .inserted _ _ => True
  | .begun attempt =>
    state.db.inTransaction = true ∧ state.db.current = state.db.committed ∧
      state.waiting attempt.codeHash = none ∧
      Matches (state.db.current attempt.codeHash) attempt.ticket attempt.started
  | .missing attempt =>
    state.db.inTransaction = true ∧ state.db.current = state.db.committed ∧
      state.waiting attempt.codeHash = none ∧
      state.db.current attempt.codeHash = none ∧
      ∀ held ∈ attempt.ticket, held.expiresAt < attempt.started
  | .found attempt row =>
    state.db.inTransaction = true ∧ state.waiting attempt.codeHash = none ∧
      ∃ held ∈ attempt.ticket, held.expiresAt = row.expiresAt
  | .removed attempt row =>
    state.db.inTransaction = true ∧ state.waiting attempt.codeHash = none ∧
      state.db.current attempt.codeHash = none ∧
      ∃ held ∈ attempt.ticket, held.expiresAt = row.expiresAt
  | .failing _ => False
  | .committed attempt row =>
    ∃ held ∈ attempt.ticket, held.expiresAt = row.expiresAt

/-- A validation is accepted if it is the first and not late, and only if it is
the first. -/
def Fair (validation : Validation) : Prop := (∀ held ∈ validation.attempt.ticket,
    validation.attempt.started ≤ held.expiresAt → validation.accepted = true) ∧
  (validation.accepted = true → validation.attempt.ticket.isSome)

/-- What holds while validations have their transactions for themselves. -/
structure Sound {Task : Type} (state : ChallengeState Task) : Prop where
  fits : ∀ task, ∀ stage ∈ state.tasks task, state.Fits stage
  single : ∀ task other, (state.transaction task).isSome →
    (state.transaction other).isSome → task = other
  rows : ∀ codeHash, (∀ task, ∀ attempt ∈ state.transaction task, attempt.codeHash ≠ codeHash) →
    Matches (state.db.current codeHash) (state.waiting codeHash) state.clock
  log : ∀ validation ∈ state.log, Fair validation
  rollbacks : ∀ rollback ∈ state.rollbacks, rollback.discarded = rollback.restored

section Steps

variable {Task : Type} {state after : ChallengeState Task}
variable {task : Task} {stage : Stage}

theorem Fits.of_transaction?_eq_none (fits : state.Fits stage)
    (outside : stage.transaction? = none) : after.Fits stage := by
  cases stage with
  | purged | inserted codeHash number => trivial
  | begun attempt => cases outside
  | missing attempt => cases outside
  | found attempt row => cases outside
  | removed attempt row => cases outside
  | failing attempt => cases outside
  | committed attempt row => exact fits

theorem Fits.congr (fits : state.Fits stage) (db : after.db = state.db)
    (waiting : after.waiting = state.waiting) : after.Fits stage := by
  cases stage <;> simp only [Fits, db, waiting] at fits ⊢ <;> exact fits

theorem Fits.inTransaction (fits : state.Fits stage)
    (inside : stage.transaction?.isSome) : state.db.inTransaction = true := by
  cases stage with
  | purged | inserted codeHash number => cases inside
  | begun attempt => exact fits.1
  | missing attempt => exact fits.1
  | found attempt row => exact fits.1
  | removed attempt row => exact fits.1
  | failing attempt => exact fits.elim
  | committed attempt row => cases inside

theorem transaction_eq (waits : state.tasks task = some stage) :
    state.transaction task = stage.transaction? := by
  unfold transaction
  rw [waits]
  rfl

/-- No validation is within its transaction when no transaction is open. -/
theorem Sound.quiet (sound : state.Sound)
    (idle : state.db.inTransaction = false) : state.Quiet := by
  intro task
  rw [← Option.not_isSome_iff_eq_none.trans Option.isNone_iff_eq_none.symm]
  intro inside
  obtain ⟨attempt, own⟩ := Option.isSome_iff_exists.1 inside
  obtain ⟨stage, waits, its⟩ := Option.bind_eq_some_iff.1 own
  have opened := (sound.fits task stage waits).inTransaction (Option.isSome_of_mem its)
  rw [idle] at opened
  cases opened

/-- A step of one task, while no other one is in a transaction or without an
effect on the others. -/
theorem Sound.of_step (sound : state.Sound) (task : Task)
    (others : ∀ other, other ≠ task → after.tasks other = state.tasks other)
    (clear : (∀ other, other ≠ task → state.transaction other = none) ∨
      (after.db = state.db ∧ after.waiting = state.waiting ∧ after.transaction task = none))
    (fits : ∀ stage ∈ after.tasks task, after.Fits stage)
    (rows : ∀ codeHash, (∀ attempt ∈ after.transaction task, attempt.codeHash ≠ codeHash) →
      (∀ other, other ≠ task → ∀ attempt ∈ state.transaction other, attempt.codeHash ≠ codeHash) →
      Matches (after.db.current codeHash) (after.waiting codeHash) after.clock)
    (log : ∀ validation ∈ after.log, Fair validation)
    (rollbacks : ∀ rollback ∈ after.rollbacks,
      rollback.discarded = rollback.restored) : after.Sound := by
  have same {other : Task} (different : other ≠ task) :
      after.transaction other = state.transaction other := by
    unfold transaction
    rw [others other different]
  constructor
  · intro other stage waits
    by_cases equal : other = task
    · subst equal
      exact fits stage waits
    · rw [others other equal] at waits
      have before := sound.fits other stage waits
      rcases clear with alone | ⟨db, waiting, -⟩
      · apply before.of_transaction?_eq_none
        exact (transaction_eq waits).symm.trans (alone other equal)
      · exact before.congr db waiting
  · intro first second inside also
    rcases clear with alone | ⟨-, -, outside⟩
    · have only {other : Task} (its : (after.transaction other).isSome) : other = task := by
        by_contra different
        rw [same different, alone other different] at its
        cases its
      exact (only inside).trans (only also).symm
    · have before {other : Task} (its : (after.transaction other).isSome) :
          (state.transaction other).isSome := by
        by_cases equal : other = task
        · rw [equal, outside] at its
          cases its
        · rw [same equal] at its
          exact its
      exact sound.single first second (before inside) (before also)
  · intro codeHash outside
    apply rows codeHash (outside task)
    intro other different attempt own
    exact outside other attempt ((same different).trans own)
  · exact log
  · exact rollbacks

theorem Sound.alone (sound : state.Sound) {attempt : Attempt}
    (inside : state.transaction task = some attempt) (other : Task)
    (different : other ≠ task) : state.transaction other = none := by
  by_contra also
  exact different (sound.single other task (Option.isSome_iff_ne_none.2 also)
    (Option.isSome_of_mem inside))

theorem Sound.rows_of_ne (sound : state.Sound) {attempt : Attempt}
    (inside : state.transaction task = some attempt) {codeHash : String}
    (different : attempt.codeHash ≠ codeHash) :
    Matches (state.db.current codeHash) (state.waiting codeHash)
      state.clock := by
  apply sound.rows
  intro other found own
  by_cases equal : other = task
  · rw [equal, inside] at own
    cases own
    exact different
  · rw [sound.alone inside other equal] at own
    cases own

theorem Sound.rows_of_quiet (sound : state.Sound) (quiet : state.Quiet) (codeHash : String) :
    Matches (state.db.current codeHash) (state.waiting codeHash)
      state.clock := by
  apply sound.rows
  intro task attempt own
  rw [Option.isNone_iff_eq_none.1 (quiet task)] at own
  cases own

/-- The rows when a transaction ends after which its code has neither a row nor
a ticket. -/
theorem Sound.rows_of_end (sound : state.Sound) {attempt : Attempt}
    (inside : state.transaction task = some attempt)
    (read : state.db.current attempt.codeHash = none)
    (waiting : state.waiting attempt.codeHash = none) (codeHash : String) :
    Matches (state.db.current codeHash) (state.waiting codeHash)
      state.clock := by
  by_cases same : attempt.codeHash = codeHash
  · rw [← same, read, waiting]
    exact matches_none state.clock
  · exact sound.rows_of_ne inside same

variable [DecidableEq Task] {db : SqliteConnection Table}

theorem Sound.create (sound : state.Sound) (quiet : state.Quiet) :
    (state.advance task (some .purged) (state.db.modify (purge state.clock))).Sound := by
  apply sound.of_step task
  · exact fun other different => tasks_advance_of_ne different _
  · exact .inl fun other _ => Option.isNone_iff_eq_none.1 (quiet other)
  · intro stage waits
    rw [tasks_advance_self] at waits
    cases waits
    trivial
  · intro codeHash _ _
    exact (sound.rows_of_quiet quiet codeHash).purge
  · exact sound.log
  · exact sound.rollbacks

theorem Sound.insertRow (sound : state.Sound) (quiet : state.Quiet)
    (codeHash : String) (row : Challenge) :
    (state.insertRow task codeHash row).Sound := by
  have clear : ∀ other, other ≠ task → state.transaction other = none :=
    fun other _ => Option.isNone_iff_eq_none.1 (quiet other)
  unfold ChallengeState.insertRow
  split
  · apply sound.of_step task
    · exact fun other different => tasks_advance_of_ne different _
    · exact .inl clear
    · intro stage waits
      rw [tasks_advance_self] at waits
      cases waits
    · exact fun other _ _ => sound.rows_of_quiet quiet other
    · exact sound.log
    · exact sound.rollbacks
  · apply sound.of_step task
    · exact fun other different => Function.update_of_ne different ..
    · exact .inl clear
    · intro stage waits
      cases (Function.update_self ..).symm.trans waits
      trivial
    · intro other _ _
      change Matches (Function.update state.db.current codeHash (some row) other)
        (Function.update state.waiting codeHash
          (some ⟨state.issued codeHash, row.expiresAt⟩) other) state.clock
      by_cases same : other = codeHash
      · rw [same, Function.update_self, Function.update_self]
        constructor
        · intro found read
          cases read
          exact ⟨_, rfl, rfl⟩
        · exact fun _ _ _ => rfl
      · rw [Function.update_of_ne same, Function.update_of_ne same]
        exact sound.rows_of_quiet quiet other
    · exact sound.log
    · exact sound.rollbacks

theorem Sound.beginValidation (sound : state.Sound)
    (idle : state.db.inTransaction = false) (codeHash : String) :
    (state.beginValidation task codeHash).Sound := by
  have quiet := sound.quiet idle
  unfold ChallengeState.beginValidation
  rw [SqliteConnection.begin?_of_idle idle]
  apply sound.of_step task
  · exact fun other different => tasks_advance_of_ne different _
  · exact .inl fun other _ => Option.isNone_iff_eq_none.1 (quiet other)
  · intro stage waits
    rw [tasks_advance_self] at waits
    cases waits
    refine ⟨rfl, state.db.settled idle, Function.update_self .., ?_⟩
    exact sound.rows_of_quiet quiet codeHash
  · intro other outside _
    have different : codeHash ≠ other := by
      apply outside ⟨codeHash, state.waiting codeHash, state.clock⟩
      exact transaction_eq (tasks_advance_self _)
    change Matches (state.db.current other)
      (Function.update state.waiting codeHash none other) state.clock
    rw [Function.update_of_ne different.symm]
    exact sound.rows_of_quiet quiet other
  · exact sound.log
  · exact sound.rollbacks

/-- A validation goes on within its transaction, and changes at most its own
row. -/
theorem Sound.advance (sound : state.Sound) {attempt : Attempt} {next : Stage}
    (inside : state.transaction task = some attempt)
    (own : next.transaction? = some attempt)
    (fits : (state.advance task (some next) db).Fits next)
    (rows : ∀ codeHash, attempt.codeHash ≠ codeHash →
      db.current codeHash = state.db.current codeHash) :
    (state.advance task (some next) db).Sound := by
  apply sound.of_step task
  · exact fun other different => tasks_advance_of_ne different _
  · exact .inl (sound.alone inside)
  · intro stage waits
    rw [tasks_advance_self] at waits
    cases waits
    exact fits
  · intro codeHash outside _
    have different : attempt.codeHash ≠ codeHash := by
      apply outside
      exact (transaction_eq (tasks_advance_self _)).trans own
    change Matches (db.current codeHash) (state.waiting codeHash) state.clock
    rw [rows codeHash different]
    exact sound.rows_of_ne inside different
  · exact sound.log
  · exact sound.rollbacks

theorem Sound.begun (sound : state.Sound) {attempt : Attempt} {after : ChallengeState Task}
    (waits : state.tasks task = some (.begun attempt))
    (resumes : state.resume task (.begun attempt) = some after) :
    after.Sound := by
  have inside : state.transaction task = some attempt := transaction_eq waits
  obtain ⟨inTransaction, settled, waiting, expected⟩ := sound.fits task _ waits
  rw [ChallengeState.resume] at resumes
  split at resumes
  · rename_i read
    cases resumes
    apply sound.advance inside rfl _ fun _ _ => rfl
    refine ⟨inTransaction, settled, waiting, read, ?_⟩
    intro held own
    by_contra late
    have live := expected.2 held own (not_lt.1 late)
    rw [read] at live
    cases live
  · rename_i row read
    cases resumes
    apply sound.advance inside rfl _ fun _ _ => rfl
    exact ⟨inTransaction, waiting, expected.1 row read⟩

theorem Sound.missing (sound : state.Sound) {attempt : Attempt} {after : ChallengeState Task}
    (waits : state.tasks task = some (.missing attempt))
    (resumes : state.resume task (.missing attempt) = some after) :
    after.Sound := by
  have inside : state.transaction task = some attempt := transaction_eq waits
  obtain ⟨inTransaction, settled, waiting, read, late⟩ := sound.fits task _ waits
  rw [ChallengeState.resume, SqliteConnection.rollback?_of_open inTransaction] at resumes
  cases resumes
  apply sound.of_step task
  · exact fun other different => Function.update_of_ne different ..
  · exact .inl (sound.alone inside)
  · intro stage other
    cases (Function.update_self ..).symm.trans other
  · intro codeHash _ _
    change Matches (state.db.committed codeHash) (state.waiting codeHash) state.clock
    rw [← settled]
    exact sound.rows_of_end inside read waiting codeHash
  · intro validation member
    rcases List.mem_cons.1 member with rfl | earlier
    · constructor
      · intro held own live
        exact absurd live (not_le.2 (late held own))
      · intro accepted
        cases accepted
    · exact sound.log validation earlier
  · intro rollback member
    rcases List.mem_cons.1 member with rfl | earlier
    · exact settled
    · exact sound.rollbacks rollback earlier

theorem Sound.found (sound : state.Sound) {attempt : Attempt} {row : Challenge}
    (waits : state.tasks task = some (.found attempt row)) :
    (state.advance task (some (.removed attempt row)) (state.db.modify
      fun table => Function.update table attempt.codeHash none)).Sound := by
  have inside : state.transaction task = some attempt := transaction_eq waits
  obtain ⟨-, waiting, ticket⟩ := sound.fits task _ waits
  apply sound.advance inside rfl
  · exact ⟨rfl, waiting, Function.update_self .., ticket⟩
  · intro codeHash different
    exact Function.update_of_ne different.symm ..

theorem Sound.removed (sound : state.Sound) {attempt : Attempt}
    {row : Challenge} {after : ChallengeState Task}
    (waits : state.tasks task = some (.removed attempt row))
    (resumes : state.resume task (.removed attempt row) = some after) :
    after.Sound := by
  have inside : state.transaction task = some attempt := transaction_eq waits
  obtain ⟨inTransaction, waiting, read, ticket⟩ := sound.fits task _ waits
  rw [ChallengeState.resume, SqliteConnection.commit?_of_open inTransaction] at resumes
  cases resumes
  apply sound.of_step task
  · exact fun other different => tasks_advance_of_ne different _
  · exact .inl (sound.alone inside)
  · intro stage other
    rw [tasks_advance_self] at other
    cases other
    exact ticket
  · exact fun codeHash _ _ =>
      sound.rows_of_end inside read waiting codeHash
  · exact sound.log
  · exact sound.rollbacks

/-- The expiry is checked in time, so the first validation is accepted. -/
theorem Sound.committed (sound : state.Sound) {attempt : Attempt}
    {row : Challenge} (waits : state.tasks task = some (.committed attempt row))
    (inTime : attempt.started ≤ row.expiresAt → state.clock ≤ row.expiresAt) :
    (state.answer task attempt (decide (state.clock ≤ row.expiresAt)) state.db).Sound := by
  obtain ⟨held, own, expires⟩ := sound.fits task _ waits
  apply sound.of_step task
  · exact fun other different => Function.update_of_ne different ..
  · refine .inr ⟨rfl, rfl, ?_⟩
    have ended : (state.answer task attempt
        (decide (state.clock ≤ row.expiresAt)) state.db).tasks task = none :=
      Function.update_self ..
    exact congrArg (Option.bind · Stage.transaction?) ended
  · intro stage other
    cases (Function.update_self ..).symm.trans other
  · intro codeHash _ outside
    apply sound.rows
    intro other found its
    by_cases equal : other = task
    · rw [equal, transaction_eq waits] at its
      cases its
    · exact outside other equal found its
  · intro validation member
    rcases List.mem_cons.1 member with rfl | earlier
    · constructor
      · intro ticket its live
        cases Option.mem_unique own its
        rw [expires] at live
        exact decide_eq_true (inTime live)
      · exact fun _ => Option.isSome_of_mem own
    · exact sound.log validation earlier
  · exact sound.rollbacks

theorem Sound.inserted (sound : state.Sound) (quiet : state.Quiet)
    (codeHash : String) (number : ℕ) :
    ({ state.advance task none state.db.commit with
      returned := (codeHash, number) :: state.returned } :
      ChallengeState Task).Sound := by
  apply sound.of_step task
  · exact fun other different => Function.update_of_ne different ..
  · exact .inl fun other _ => Option.isNone_iff_eq_none.1 (quiet other)
  · intro stage waits
    cases (Function.update_self ..).symm.trans waits
  · exact fun other _ _ => sound.rows_of_quiet quiet other
  · exact sound.log
  · exact sound.rollbacks

theorem Sound.resume (sound : state.Sound) {after : ChallengeState Task}
    (waits : state.tasks task = some stage)
    (may : state.MayResume state.clock stage)
    (resumes : state.resume task stage = some after) : after.Sound := by
  cases stage with
  | purged => cases resumes
  | inserted codeHash number =>
    cases resumes
    exact sound.inserted may codeHash number
  | begun attempt => exact sound.begun waits resumes
  | missing attempt => exact sound.missing waits resumes
  | found attempt row =>
    cases resumes
    exact sound.found waits
  | removed attempt row => exact sound.removed waits resumes
  | failing attempt => exact (sound.fits task _ waits).elim
  | committed attempt row =>
    cases resumes
    exact sound.committed waits may

theorem Sound.step (sound : state.Sound) {action : ChallengeAction Task}
    {after : ChallengeState Task} (alone : state.Alone action)
    (steps : state.step action = some after) : after.Sound := by
  unfold ChallengeState.step at steps
  split at steps
  · rename_i later
    have middle : ({ state with clock := action.now } :
        ChallengeState Task).Sound := by
      constructor
      · intro task stage waits
        exact (sound.fits task stage waits).congr rfl rfl
      · exact sound.single
      · exact fun codeHash outside => (sound.rows codeHash outside).later later
      · exact sound.log
      · exact sound.rollbacks
    unfold Alone at alone
    cases event : action.event with
    | create task =>
      rw [event] at alone
      rw [event, perform] at steps
      split at steps
      · cases steps
        exact middle.create alone
      · cases steps
    | insert task codeHash initiatorId platform ttlMicroseconds =>
      rw [event] at alone
      rw [event, perform] at steps
      split at steps
      · cases steps
        exact middle.insertRow alone codeHash _
      · cases steps
    | validate task codeHash =>
      rw [event] at alone
      rw [event, perform] at steps
      split at steps
      · cases steps
        exact middle.beginValidation alone codeHash
      · cases steps
    | resume task =>
      rw [event] at alone
      rw [event] at steps
      obtain ⟨stage, waits, resumes⟩ := Option.bind_eq_some_iff.1 steps
      have may := alone stage waits
      apply middle.resume waits _ resumes
      cases stage with
      | inserted codeHash number => exact may
      | committed attempt row => exact may
      | purged | begun attempt | missing attempt | failing attempt => trivial
      | found attempt row | removed attempt row => trivial
  · cases steps

theorem sound_of_initial (initially : (challengeSystem Task).initial state) : state.Sound := by
  obtain ⟨-, tasks, waiting, -, log, rollbacks⟩ := initially
  have outside (task : Task) : state.transaction task = none := by
    unfold transaction
    rw [tasks]
    rfl
  constructor
  · intro task stage waits
    rw [tasks] at waits
    cases waits
  · intro task other inside
    rw [outside] at inside
    cases inside
  · intro codeHash _
    rw [waiting]
    constructor
    · intro found read
      rw [read]
      exact ⟨_, rfl, rfl⟩
    · intro held own _
      obtain ⟨row, read, -⟩ := Option.map_eq_some_iff.1 own
      exact Option.isSome_of_mem read
  · intro validation member
    rw [log] at member
    cases member
  · intro rollback member
    rw [rollbacks] at member
    cases member

/-- Codes work exactly once while validations have their transactions for
themselves. -/
theorem challengesHonest_of_reachable
    (reached : (challengeSystem Task).ReachableWithin Alone state) :
    state.Honest := by
  have sound : state.Sound := by
    apply reached.invariant
    · exact fun _ initially => sound_of_initial initially
    · exact fun _ _ _ sound alone steps => sound.step alone steps
  constructor
  · intro validation member ticket own _ live
    exact (sound.log validation member).1 ticket own live
  · intro validation member accepted
    unfold Attempt.insertion
    rw [Option.isSome_map]
    exact (sound.log validation member).2 accepted
  · exact (numbered_of_reachable reached).apart.imp fun apart _ _ => apart
  · intro rollback member codeHash _
    rw [sound.rollbacks rollback member]

end Steps

section Example

def empty : ChallengeState Bool where
  db := .opened fun _ => none
  tasks _ := none
  clock := 0
  waiting _ := none
  issued _ := 1
  returned := []
  log := []
  rollbacks := []

theorem initial_empty : (challengeSystem Bool).initial empty :=
  ⟨rfl, fun _ => rfl, fun _ => rfl, fun _ => rfl, rfl, rfl⟩

def createdThenValidated : List (ChallengeAction Bool) :=
  [⟨1, .create false⟩, ⟨2, .insert false "K7Q2ZD" "tg:42" "telegram" 300000000⟩,
    ⟨3, .resume false⟩, ⟨4, .validate true "K7Q2ZD"⟩, ⟨5, .resume true⟩,
    ⟨6, .resume true⟩, ⟨7, .resume true⟩, ⟨8, .resume true⟩]

/-- The code is accepted. -/
theorem honest_createdThenValidated : ∃ state : ChallengeState Bool,
    (challengeSystem Bool).run empty createdThenValidated = some state ∧
      state.log.map Validation.accepted = [true] ∧ state.Honest := by
  have run : ∃ state : ChallengeState Bool,
      (challengeSystem Bool).checkedRun Alone empty createdThenValidated =
        some state ∧ state.log.map Validation.accepted = [true] := by
    have runs : ((challengeSystem Bool).checkedRun Alone empty
        createdThenValidated).any (fun state =>
          decide (state.log.map Validation.accepted = [true])) = true := by
      decide
    obtain ⟨state, found, accepted⟩ := (Option.any_eq_true _ _).1 runs
    exact ⟨state, found, of_decide_eq_true accepted⟩
  obtain ⟨state, runs, accepted⟩ := run
  have start : (challengeSystem Bool).ReachableWithin Alone empty := .start initial_empty
  refine ⟨state, TransitionSystem.run_of_checkedRun runs, accepted, ?_⟩
  exact challengesHonest_of_reachable (.of_checkedRun empty start createdThenValidated runs)

/-- The validation of a wrong code begins its transaction before a code is
inserted, and rolls it back before this code is committed. -/
def rolledBackByAnother : List (ChallengeAction Bool) :=
  [⟨1, .validate true "WRONG1"⟩, ⟨2, .create false⟩, ⟨3, .resume true⟩,
    ⟨4, .insert false "K7Q2ZD" "tg:42" "telegram" 300000000⟩,
    ⟨5, .resume true⟩, ⟨6, .resume false⟩, ⟨7, .validate true "K7Q2ZD"⟩,
    ⟨8, .resume true⟩, ⟨9, .resume true⟩]

/-- The attempt that validates this code. -/
def firstAttempt : Attempt := ⟨"K7Q2ZD", some ⟨1, 300000004⟩, 7⟩

/-- The code has been returned, and is not accepted. -/
theorem exists_dishonest : ∃ state : ChallengeState Bool,
    (challengeSystem Bool).Reachable state ∧ ¬ state.Honest := by
  have run : ∃ state : ChallengeState Bool, (challengeSystem Bool).Reachable state ∧
        (⟨firstAttempt, false⟩ ∈ state.log ∧ ("K7Q2ZD", 1) ∈ state.returned) :=
    TransitionSystem.exists_reachable_of_run empty initial_empty
      rolledBackByAnother (by decide)
  obtain ⟨state, reached, logged, returned⟩ := run
  refine ⟨state, reached, ?_⟩
  intro honest
  have accepted : false = true := honest.first _ logged ⟨1, 300000004⟩ rfl returned (by decide)
  cases accepted

end Example

end ChallengeState

end LinkChallenges

end RoxabiFactory
