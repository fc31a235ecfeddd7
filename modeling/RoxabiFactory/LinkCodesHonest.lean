import RoxabiFactory.LinkCodes

/-!
# Link codes are consumed once

A code that is consumed stays consumed while no claim is rolled back, so a
second call finds it consumed, and what is in the journal is of calls that have
claimed a code and have not raised.
-/

namespace RoxabiFactory

namespace LinkCodes

open SqliteConnection SqliteStatements
open UserIdentities (PlatformKey parsePlatformKey)

/-! ## Journals that grow -/

theorem Tables.isConsumed_apply {tables : Tables} {codeHash : String}
    (consumed : tables.isConsumed codeHash = true) (change : Change) :
    (tables.apply change).isConsumed codeHash = true := by
  cases change with
  | mint other code =>
    rw [apply]
    split
    · rename_i absent
      have different : codeHash ≠ other := by
        rintro rfl
        rw [isConsumed, absent] at consumed
        cases consumed
      simp only [isConsumed, Function.update_of_ne different]
      exact consumed
    · exact consumed
  | claim other now =>
    by_cases same : codeHash = other
    · subst same
      simp only [isConsumed, apply, Function.update_self]
      cases row : tables.codes codeHash with
      | none =>
        rw [isConsumed, row] at consumed
        cases consumed
      | some code => rfl
    · simp only [isConsumed, apply, Function.update_of_ne same]
      exact consumed
  | attach key userId => exact consumed
  | detach key => exact consumed
  | unlink userId platform => exact consumed

theorem Tables.not_isOpen_of_isConsumed {tables : Tables} {codeHash : String}
    (consumed : tables.isConsumed codeHash = true) (now : ℤ) :
    tables.isOpen codeHash now = false := by
  unfold isOpen
  rw [isConsumed] at consumed
  cases row : tables.codes codeHash with
  | none => rfl
  | some code =>
    rw [row, Option.any_some] at consumed
    rw [Option.any_some, Option.isNone_eq_false_iff.mpr consumed, Bool.false_and]

theorem Tables.isConsumed_claim {tables : Tables} {codeHash : String}
    {now : ℤ} (isOpen : tables.isOpen codeHash now = true) :
    (tables.apply (.claim codeHash now)).isConsumed codeHash = true := by
  simp only [isConsumed, apply, Function.update_self]
  cases row : tables.codes codeHash with
  | none =>
    rw [Tables.isOpen, row] at isOpen
    cases isOpen
  | some code => rfl

section Journals

variable {Task : Type} {author : Option Task} {task : Task}
  {db after : SqliteConnection (Journal Task)} {journal : Journal Task}

theorem Journal.tables_add (author : Option Task) (change : Change) :
    (journal.add author change).tables = journal.tables.apply change :=
  List.foldl_append

/-- The change adds nothing, or something of the author. -/
def Adds (author : Option Task) (change : Journal Task → Journal Task) : Prop :=
  ∀ journal, change journal = journal ∨ ∃ added, change journal = journal.add author added

/-- The statement adds to the journal only. -/
def IsAdditive (author : Option Task) : Statement (Journal Task) → Prop
  | .read | .commit => True
  | .modify change => Adds author change
  | .begin | .rollback => False

theorem isAdditive_statement (task : Task) (call : Call) (stage : Stage) :
    IsAdditive (some task) (stage.statement task call) := by
  match stage with
  | .called | .claimed _ | .checked _ _ | .attaching _ [] false => trivial
  | .loaded userId =>
    intro journal
    dsimp only [Journal.claim]
    split
    · exact .inr ⟨_, rfl⟩
    · exact .inl rfl
  | .attaching _ (key :: _) _ =>
    intro journal
    exact .inr ⟨_, rfl⟩
  | .attaching _ [] true =>
    intro journal
    dsimp only [Journal.attach]
    split
    · exact .inl rfl
    · exact .inr ⟨_, rfl⟩

theorem isAdditive_other (statement : OtherStatement) :
    IsAdditive (none : Option Task) statement.statement := by
  cases statement with
  | mint codeHash userId platform expiresAt =>
    intro journal
    dsimp only [Journal.mint]
    split
    · exact .inl rfl
    · exact .inr ⟨_, rfl⟩
  | unlink userId platform =>
    intro journal
    exact .inr ⟨_, rfl⟩
  | elsewhere =>
    intro journal
    exact .inl rfl
  | commit => trivial

/-- What is consumed in the committed journal is consumed in the current one. -/
def Nested (db : SqliteConnection (Journal Task)) : Prop :=
  ∀ codeHash, db.committed.tables.isConsumed codeHash = true →
    db.current.tables.isConsumed codeHash = true

/-- An entry of one of the two journals. -/
def Has (db : SqliteConnection (Journal Task)) (entry : Option Task × Change) : Prop :=
  entry ∈ db.current.entries ++ db.committed.entries

/-- The connection after statements of an author. -/
structure Grows (author : Option Task) (db after : SqliteConnection (Journal Task)) : Prop where
  nested : Nested after
  current : ∀ codeHash, db.current.tables.isConsumed codeHash = true →
    after.current.tables.isConsumed codeHash = true
  committed : ∀ codeHash, db.committed.tables.isConsumed codeHash = true →
    after.committed.tables.isConsumed codeHash = true
  entries : ∀ entry, Has after entry → Has db entry ∨ entry.1 = author

theorem Grows.refl (nested : Nested db) : Grows author db db where
  nested := nested
  current := fun _ consumed => consumed
  committed := fun _ consumed => consumed
  entries := fun _ member => .inl member

theorem Grows.modify (nested : Nested db)
    {change : Journal Task → Journal Task} (adds : Adds author change) :
    Grows author db (db.modify change) := by
  have current (codeHash : String) (consumed : db.current.tables.isConsumed codeHash = true) :
      (change db.current).tables.isConsumed codeHash = true := by
    rcases adds db.current with same | ⟨added, isAdded⟩
    · rw [same]
      exact consumed
    · rw [isAdded, Journal.tables_add]
      exact Tables.isConsumed_apply consumed added
  constructor
  · intro codeHash consumed
    exact current codeHash (nested codeHash consumed)
  · exact current
  · intro codeHash consumed
    exact consumed
  · intro entry member
    rcases List.mem_append.mp member with inCurrent | inCommitted
    · rcases adds db.current with same | ⟨added, isAdded⟩
      · left
        apply List.mem_append_left
        rw [← same]
        exact inCurrent
      · have inAdded : entry ∈ (db.current.add author added).entries := by
          rw [← isAdded]
          exact inCurrent
        rcases List.mem_append.mp inAdded with before | new
        · exact .inl (List.mem_append_left _ before)
        · right
          rw [List.mem_singleton.mp new]
    · exact .inl (List.mem_append_right _ inCommitted)

theorem Grows.commit (nested : Nested db) : Grows author db db.commit where
  nested := fun _ consumed => consumed
  current := fun _ consumed => consumed
  committed := nested
  entries := by
    intro entry member
    left
    rcases List.mem_append.mp member with inCurrent | inCommitted
    · exact List.mem_append_left _ inCurrent
    · exact List.mem_append_left _ inCommitted

theorem Grows.exec (nested : Nested db) {statement : Statement (Journal Task)}
    (additive : IsAdditive author statement) :
    Grows author db ((statement.exec db).getD db) := by
  cases statement with
  | read => exact .refl nested
  | modify change => exact .modify nested additive
  | commit => exact .commit nested
  | begin | rollback => exact additive.elim

theorem Grows.apply (nested : Nested db) {statement : Statement (Journal Task)}
    (additive : IsAdditive author statement) {fault : Fault}
    (kept : fault ≠ .abandoned) :
    Grows author db (fault.apply db statement) := by
  cases fault with
  | refused => exact .refl nested
  | rejected =>
    cases statement with
    | modify change => exact .modify nested fun _ => .inl rfl
    | read | commit => exact .refl nested
    | begin | rollback => exact additive.elim
  | abandoned => exact absurd rfl kept
  | interrupted executed =>
    cases executed with
    | false => exact .refl nested
    | true => exact .exec nested additive

end Journals

/-! ## The calls -/

/-- The code that a call has claimed, unless it has raised. -/
def Phase.claim? : Phase → Option String
  | .running call stage => if stage.hasClaim then some call.codeHash else none
  | .returned codeHash (.ok _) => some codeHash
  | .returned _ (.error _) => none

theorem Phase.claim?_running (call : Call) {stage : Stage} (claimed : stage.hasClaim = true) :
    (Phase.running call stage).claim? = some call.codeHash :=
  if_pos claimed

theorem Phase.claim?_early (call : Call) {stage : Stage} (early : stage.hasClaim = false) :
    (Phase.running call stage).claim? = none := by
  rw [claim?, early]
  rfl

namespace State

variable {Task : Type} {state : State Task} {task : Task}

def claimOf (state : State Task) (task : Task) : Option String :=
  (state.tasks task).bind Phase.claim?

theorem claimOf_of_tasks {phase : Phase} (isPhase : state.tasks task = some phase) :
    state.claimOf task = phase.claim? := by
  rw [claimOf, isPhase]
  rfl

/-- A code is claimed by one call, and is consumed. -/
structure Sound (state : State Task) : Prop where
  nested : Nested state.db
  claims : ∀ task codeHash, state.claimOf task = some codeHash →
    state.db.current.tables.isConsumed codeHash = true
  done : ∀ task codeHash userId, state.tasks task = some (.returned codeHash (.ok userId)) →
      state.db.committed.tables.isConsumed codeHash = true
  once : ∀ task other codeHash, state.claimOf task = some codeHash →
    state.claimOf other = some codeHash → task = other
  quiet : ∀ task, state.claimOf task = none → ∀ entry, Has state.db entry → entry.1 ≠ some task

theorem Sound.honest (sound : state.Sound) : state.Honest where
  once := by
    intro task other codeHash userId otherId succeeded alsoSucceeded
    exact sound.once task other codeHash (claimOf_of_tasks succeeded)
      (claimOf_of_tasks alsoSucceeded)
  undone := by
    intro task codeHash raised isRaised
    exact sound.quiet task (claimOf_of_tasks isRaised)

theorem Sound.of_recorded (sound : state.Sound) {author : Option Task}
    (recorded : state.OthersRecorded author) {other : Task}
    (different : some other ≠ author) {codeHash : String}
    (isClaim : state.claimOf other = some codeHash) :
    state.db.committed.tables.isConsumed codeHash = true := by
  obtain ⟨phase, isPhase, isClaim⟩ := Option.bind_eq_some_iff.mp isClaim
  cases phase with
  | running call stage =>
    have isRecorded := recorded other different _ isPhase
    rw [Phase.isRecorded] at isRecorded
    cases claimed : stage.hasClaim with
    | false =>
      rw [Phase.claim?_early call claimed] at isClaim
      cases isClaim
    | true =>
      cases (Phase.claim?_running call claimed).symm.trans isClaim
      rw [claimed] at isRecorded
      exact isRecorded
  | returned returnedHash result =>
    cases result with
    | error raised => cases isClaim
    | ok userId =>
      cases isClaim
      exact sound.done other codeHash userId isPhase

theorem Sound.executeOther (sound : state.Sound) (statement : OtherStatement) {fault : Option Fault}
    (kept : fault = some .abandoned → state.OthersRecorded none) :
    (state.executeOther statement fault).Sound := by
  have keep {db : SqliteConnection (Journal Task)}
      (grows : Grows none state.db db) : { state with db := db }.Sound := by
    constructor
    · exact grows.nested
    · intro task codeHash isClaim
      exact grows.current codeHash (sound.claims task codeHash isClaim)
    · intro task codeHash userId isDone
      exact grows.committed codeHash (sound.done task codeHash userId isDone)
    · exact sound.once
    · intro task isNone entry member
      rcases grows.entries entry member with before | other
      · exact sound.quiet task isNone entry before
      · rw [other]
        exact nofun
  have additive : IsAdditive (none : Option Task) statement.statement := isAdditive_other statement
  cases fault with
  | none => exact keep (.exec sound.nested additive)
  | some fault =>
    by_cases abandoned : fault = .abandoned
    · subst abandoned
      have recorded := kept rfl
      constructor
      · exact fun _ consumed => consumed
      · intro task codeHash isClaim
        exact sound.of_recorded recorded nofun isClaim
      · exact sound.done
      · exact sound.once
      · intro task isNone entry member
        apply sound.quiet task isNone entry
        rcases List.mem_append.mp member with first | second
        · exact List.mem_append_right _ first
        · exact List.mem_append_right _ second
    · exact keep (.apply sound.nested additive abandoned)

variable [DecidableEq Task] {db : SqliteConnection (Journal Task)} {phase : Phase}

theorem tasks_advance_self : (state.advance task phase db).tasks task = some phase :=
  Function.update_self ..

theorem tasks_advance_of_ne {other : Task} (different : other ≠ task) :
    (state.advance task phase db).tasks other = state.tasks other :=
  Function.update_of_ne different ..

theorem claimOf_advance_self : (state.advance task phase db).claimOf task = phase.claim? :=
  claimOf_of_tasks tasks_advance_self

theorem claimOf_advance_of_ne {other : Task} (different : other ≠ task) :
    (state.advance task phase db).claimOf other = state.claimOf other := by
  rw [claimOf, claimOf, tasks_advance_of_ne different]

/-- A call goes on, after which the claims of the other calls are as they
were. -/
theorem Sound.advance (sound : state.Sound) (nested : Nested db)
    (others : ∀ other codeHash, other ≠ task → state.claimOf other = some codeHash →
        db.current.tables.isConsumed codeHash = true)
    (committed : ∀ codeHash, state.db.committed.tables.isConsumed codeHash = true →
        db.committed.tables.isConsumed codeHash = true)
    (entries : ∀ entry, Has db entry → Has state.db entry ∨ entry.1 = some task)
    (claims : ∀ codeHash, phase.claim? = some codeHash →
      db.current.tables.isConsumed codeHash = true ∧
        ∀ other, other ≠ task → state.claimOf other ≠ some codeHash)
    (done : ∀ codeHash userId, phase = .returned codeHash (.ok userId) →
      db.committed.tables.isConsumed codeHash = true)
    (quiet : phase.claim? = none → ∀ entry, Has db entry → entry.1 ≠ some task) :
    (state.advance task phase db).Sound where
  nested := nested
  claims := by
    intro other codeHash isClaim
    by_cases same : other = task
    · subst same
      rw [claimOf_advance_self] at isClaim
      exact (claims codeHash isClaim).1
    · rw [claimOf_advance_of_ne same] at isClaim
      exact others other codeHash same isClaim
  done := by
    intro other codeHash userId isDone
    by_cases same : other = task
    · subst same
      rw [tasks_advance_self] at isDone
      exact done codeHash userId (Option.some.inj isDone)
    · rw [tasks_advance_of_ne same] at isDone
      exact committed codeHash (sound.done other codeHash userId isDone)
  once := by
    intro first second codeHash isFirst isSecond
    by_cases firstSame : first = task
    · by_cases secondSame : second = task
      · rw [firstSame, secondSame]
      · subst firstSame
        rw [claimOf_advance_self] at isFirst
        rw [claimOf_advance_of_ne secondSame] at isSecond
        exact absurd isSecond ((claims codeHash isFirst).2 second secondSame)
    · rw [claimOf_advance_of_ne firstSame] at isFirst
      by_cases secondSame : second = task
      · subst secondSame
        rw [claimOf_advance_self] at isSecond
        exact absurd isFirst ((claims codeHash isSecond).2 first firstSame)
      · rw [claimOf_advance_of_ne secondSame] at isSecond
        exact sound.once first second codeHash isFirst isSecond
  quiet := by
    intro other isNone entry member
    by_cases same : other = task
    · subst same
      rw [claimOf_advance_self] at isNone
      exact quiet isNone entry member
    · rw [claimOf_advance_of_ne same] at isNone
      rcases entries entry member with before | own
      · exact sound.quiet other isNone entry before
      · rw [own]
        intro equal
        exact same (Option.some.inj equal).symm

theorem Sound.still (sound : state.Sound) (grows : Grows (some task) state.db db)
    (before : state.claimOf task = none) (after : phase.claim? = none)
    (entries : ∀ entry, Has db entry → Has state.db entry) :
    (state.advance task phase db).Sound := by
  apply sound.advance grows.nested
  · intro other codeHash _ isClaim
    exact grows.current codeHash (sound.claims other codeHash isClaim)
  · exact grows.committed
  · exact grows.entries
  · intro codeHash isClaim
    rw [after] at isClaim
    cases isClaim
  · rintro codeHash userId rfl
    cases after
  · intro _ entry member
    exact sound.quiet task before entry (entries entry member)

theorem Sound.goOn (sound : state.Sound) (grows : Grows (some task) state.db db) {codeHash : String}
    (before : state.claimOf task = some codeHash)
    (after : phase.claim? = some codeHash)
    (done : ∀ userId, phase = .returned codeHash (.ok userId) → db.committed = db.current) :
    (state.advance task phase db).Sound := by
  have consumed := grows.current codeHash (sound.claims task codeHash before)
  apply sound.advance grows.nested
  · intro other otherHash _ isClaim
    exact grows.current otherHash (sound.claims other otherHash isClaim)
  · exact grows.committed
  · exact grows.entries
  · intro otherHash isClaim
    cases after.symm.trans isClaim
    refine ⟨consumed, fun other different isOther => ?_⟩
    exact different (sound.once other task codeHash isOther before)
  · rintro otherHash userId rfl
    cases after
    rw [done userId rfl]
    exact consumed
  · intro isNone
    rw [after] at isNone
    cases isNone

/-! ## Steps -/

theorem Sound.consume (sound : state.Sound) (idle : state.tasks task = none)
    (codeHash platformKey : String) (now : ℤ) :
    (state.consume task codeHash platformKey now).Sound := by
  have before : state.claimOf task = none := by
    rw [claimOf, idle]
    rfl
  unfold State.consume
  split
  · exact sound.still (.refl sound.nested) before rfl fun _ member => member
  · exact sound.still (.refl sound.nested) before rfl fun _ member => member

theorem Sound.fail (sound : state.Sound) {call : Call} {stage : Stage} {fault : Fault}
    (isRunning : state.tasks task = some (.running call stage))
    (may : state.MayResume task call stage (some fault)) :
    (state.advance task (.returned call.codeHash (.error fault.error))
      (fault.apply state.db (stage.statement task call))).Sound := by
  have additive := isAdditive_statement task call stage
  have early (kept : fault ≠ .abandoned) (early : stage.hasClaim = false) (entries : ∀ entry,
        Has (fault.apply state.db (stage.statement task call)) entry → Has state.db entry) :
      (state.advance task (.returned call.codeHash (.error fault.error))
        (fault.apply state.db (stage.statement task call))).Sound := by
    apply sound.still (.apply sound.nested additive kept) _ rfl entries
    rw [claimOf_of_tasks isRunning, Phase.claim?_early call early]
  cases fault with
  | refused => exact early nofun may fun _ member => member
  | rejected =>
    apply early nofun may
    intro entry member
    cases sent : stage.statement task call with
    | modify change =>
      rw [sent] at member
      exact member
    | begin | read | commit | rollback =>
      rw [sent] at member
      exact member
  | abandoned =>
    obtain ⟨recorded, absent⟩ := may
    have inCommitted (entry : Option Task × Change)
        (member : Has (opened state.db.committed) entry) :
        entry ∈ state.db.committed.entries := by
      rcases List.mem_append.mp member with first | second
      · exact first
      · exact second
    apply sound.advance (fun _ consumed => consumed)
    · intro other codeHash different isClaim
      apply sound.of_recorded recorded _ isClaim
      exact fun same => different (Option.some.inj same)
    · exact fun _ consumed => consumed
    · intro entry member
      exact .inl (List.mem_append_right _ (inCommitted entry member))
    · intro codeHash isClaim
      cases isClaim
    · intro codeHash userId isDone
      cases isDone
    · intro _ entry member
      exact absent entry (inCommitted entry member)
  | interrupted executed =>
    cases executed with
    | false => exact early nofun may fun _ member => member
    | true =>
      obtain ⟨notClaimed, untouched⟩ := may
      apply early nofun notClaimed
      intro entry member
      cases stage with
      | called => exact member
      | loaded userId =>
        have unchanged : state.db.current.claim task call.codeHash
            call.startedAt = state.db.current := by
          apply if_neg
          rcases untouched with absurd | isClosed
          · cases absurd
          · rw [isClosed]
            exact Bool.false_ne_true
        have same : (state.db.current.claim task call.codeHash
            call.startedAt).entries = state.db.current.entries :=
          congrArg Journal.entries unchanged
        rcases List.mem_append.mp member with first | second
        · apply List.mem_append_left
          rw [← same]
          exact first
        · exact List.mem_append_right _ second
      | claimed userId | checked userId missing
      | attaching userId old missing => cases notClaimed

theorem Sound.proceed (sound : state.Sound) {call : Call} {stage : Stage}
    (isRunning : state.tasks task = some (.running call stage))
    (agrees : stage.conflicts call state.db.current.tables = false)
    (now : ℤ) : (state.resume task call stage now none).Sound := by
  have before := claimOf_of_tasks isRunning
  have grows : Grows (some task) state.db
      (((stage.statement task call).exec state.db).getD state.db) :=
    .exec sound.nested (isAdditive_statement task call stage)
  unfold State.resume
  match stage with
  | .called =>
    apply sound.still grows before
    · dsimp only [Stage.next]
      split
      · rename_i raised isNext
        rfl
      · rename_i following isNext
        split at isNext
        · cases isNext
        · split_ifs at isNext
          cases isNext
          rfl
      · rename_i userId isNext
        split at isNext
        · cases isNext
        · split_ifs at isNext
          cases isNext
    · exact fun _ member => member
  | .loaded userId =>
    dsimp only [Stage.next]
    cases isOpen : state.db.current.tables.isOpen call.codeHash call.startedAt with
    | false =>
      have unchanged : state.db.current.claim task call.codeHash
          call.startedAt = state.db.current := by
        apply if_neg
        rw [isOpen]
        exact Bool.false_ne_true
      apply sound.still grows before rfl
      intro entry member
      rcases List.mem_append.mp member with first | second
      · apply List.mem_append_left
        rw [← unchanged]
        exact first
      · exact List.mem_append_right _ second
    | true =>
      have added : state.db.current.claim task call.codeHash
          call.startedAt = state.db.current.add (some task)
            (.claim call.codeHash call.startedAt) := if_pos isOpen
      have consumed : (state.db.current.claim task call.codeHash
          call.startedAt).tables.isConsumed call.codeHash = true := by
        rw [added, Journal.tables_add]
        exact Tables.isConsumed_claim isOpen
      apply sound.advance grows.nested
      · intro other codeHash _ isClaim
        exact grows.current codeHash (sound.claims other codeHash isClaim)
      · exact grows.committed
      · exact grows.entries
      · intro codeHash isClaim
        cases isClaim
        refine ⟨consumed, fun other _ isOther => ?_⟩
        have already := sound.claims other call.codeHash isOther
        rw [Tables.not_isOpen_of_isConsumed already] at isOpen
        cases isOpen
      · intro codeHash userId isDone
        cases isDone
      · intro isNone
        cases isNone
  | .claimed userId =>
    rw [Stage.conflicts] at agrees
    dsimp only [Stage.next]
    cases isOwner : state.db.current.tables.owner call.key with
    | none => exact sound.goOn grows before rfl nofun
    | some other =>
      rw [isOwner, Option.any_some, decide_eq_false_iff_not, not_not]
        at agrees
      simp only [if_pos agrees]
      exact sound.goOn grows before rfl nofun
  | .checked userId missing => exact sound.goOn grows before rfl nofun
  | .attaching userId (key :: old) missing =>
    exact sound.goOn grows before rfl nofun
  | .attaching userId [] true =>
    rw [Stage.conflicts] at agrees
    dsimp only [Stage.next]
    simp only [agrees, Bool.false_eq_true, if_false]
    exact sound.goOn grows before rfl nofun
  | .attaching userId [] false =>
    exact sound.goOn grows before rfl fun _ _ => rfl

theorem Sound.step (sound : state.Sound) {action : LinkAction Task}
    (may : state.MayHappen action) {after : State Task}
    (stepTo : state.step action = some after) : after.Sound := by
  obtain ⟨now, event⟩ := action
  cases event with
  | consume task codeHash platformKey =>
    dsimp only [State.step] at stepTo
    split at stepTo
    · rename_i idle
      cases stepTo
      exact sound.consume idle codeHash platformKey now
    · cases stepTo
  | resume task fault =>
    dsimp only [State.step] at stepTo
    split at stepTo
    · rename_i call stage isRunning
      cases stepTo
      have may := may _ isRunning
      cases fault with
      | none => exact sound.proceed isRunning may now
      | some fault => exact sound.fail isRunning may
    · cases stepTo
  | other statement fault =>
    cases stepTo
    exact sound.executeOther statement may
  | store change =>
    dsimp only [State.step] at stepTo
    split at stepTo
    · cases stepTo
    · rename_i idle
      cases stepTo
      have settled := state.db.settled (Bool.eq_false_iff.mpr idle)
      constructor
      · exact fun _ consumed => consumed
      · intro task codeHash isClaim
        rw [opened, Journal.tables_add]
        exact Tables.isConsumed_apply (sound.claims task codeHash isClaim) change.change
      · intro task codeHash userId isDone
        rw [opened, Journal.tables_add, settled]
        exact Tables.isConsumed_apply (sound.done task codeHash userId isDone) change.change
      · exact sound.once
      · intro task isNone entry member
        have added : entry ∈ state.db.current.entries ++
            [((none : Option Task), change.change)] := by
          rcases List.mem_append.mp member with first | second
          · exact first
          · exact second
        rcases List.mem_append.mp added with before | new
        · exact sound.quiet task isNone entry (List.mem_append_left _ before)
        · rw [List.mem_singleton.mp new]
          exact nofun

theorem sound_of_initial (initially : (linkSystem Task).initial state) :
    state.Sound := by
  obtain ⟨tables, isDb, idle⟩ := initially
  have noClaim (task : Task) : state.claimOf task = none := by
    rw [claimOf, idle]
    rfl
  constructor
  · rw [isDb]
    exact fun _ consumed => consumed
  · intro task codeHash isClaim
    rw [noClaim] at isClaim
    cases isClaim
  · intro task codeHash userId isDone
    rw [idle] at isDone
    cases isDone
  · intro task other codeHash isClaim
    rw [noClaim] at isClaim
    cases isClaim
  · intro task _ entry member
    rw [isDb] at member
    cases member

/-- A code is consumed once, and a call that raises leaves nothing behind, if
no call fails between its claim and its commit. -/
theorem consumption_honest {state : State Task}
    (reached : (linkSystem Task).ReachableWithin MayHappen state) :
    state.Honest := by
  have sound : state.Sound := reached.invariant (fun _ initially => sound_of_initial initially)
    (fun _ _ _ sound may stepTo => sound.step may stepTo)
  exact sound.honest

section Example

instance [Fintype Task] (state : State Task) (task : Option Task) :
    Decidable (state.OthersRecorded task) :=
  inferInstanceAs (Decidable (∀ other, some other ≠ task → ∀ phase ∈ state.tasks other,
      phase.isRecorded state.db.committed = true))

instance [Fintype Task] (state : State Task) (task : Task) (call : Call)
    (stage : Stage) : (fault : Option Fault) →
    Decidable (state.MayResume task call stage fault)
  | none => inferInstanceAs (Decidable (stage.conflicts call state.db.current.tables = false))
  | some .abandoned => inferInstanceAs (Decidable (state.OthersRecorded (some task) ∧
        ∀ entry ∈ state.db.committed.entries, entry.1 ≠ some task))
  | some (.interrupted true) => inferInstanceAs (Decidable
      (stage.hasClaim = false ∧ (stage = .called ∨
        state.db.current.tables.isOpen call.codeHash call.startedAt = false)))
  | some .refused | some .rejected | some (.interrupted false) =>
    inferInstanceAs (Decidable (stage.hasClaim = false))

instance [Fintype Task] (state : State Task) (action : LinkAction Task) :
    Decidable (state.MayHappen action) :=
  match action with
  | ⟨_, .resume task fault⟩ =>
    match isPhase : state.tasks task with
    | some (.running call stage) =>
      decidable_of_iff (state.MayResume task call stage fault) (by
        constructor
        · intro may phase member
          cases isPhase.symm.trans member
          exact may
        · intro may
          exact may _ isPhase)
    | some (.returned _ _) => .isTrue (by
        intro phase member
        cases isPhase.symm.trans member
        trivial)
    | none => .isTrue (by
        intro phase member
        cases isPhase.symm.trans member)
  | ⟨_, .other _ fault⟩ => inferInstanceAs (Decidable
      (fault = some .abandoned → state.OthersRecorded none))
  | ⟨_, .consume _ _ _⟩ | ⟨_, .store _⟩ => .isTrue trivial

/-- A code has been minted for a user, and a key belongs to another one. -/
def minted : State Bool where
  db := opened { start := {
    codes := fun codeHash => if codeHash = "hash"
      then some ⟨"rx:user:a", some "telegram", 600, none⟩ else none
    identities := [(⟨.telegram, "2"⟩, "rx:user:b")] } }
  tasks _ := none

theorem initial_minted : (linkSystem Bool).initial minted := ⟨_, rfl, fun _ => rfl⟩

/-- A call attaches a free key, and a later call fails. -/
def consumedOnce : List (LinkAction Bool) :=
  [⟨1, .consume true "hash" "tg:user:1"⟩, ⟨2, .resume true none⟩,
    ⟨3, .resume true none⟩, ⟨4, .resume true none⟩, ⟨5, .resume true none⟩,
    ⟨6, .resume true none⟩, ⟨7, .resume true none⟩,
    ⟨8, .consume false "hash" "tg:user:1"⟩, ⟨9, .resume false none⟩]

/-- Whether a call that is finished has succeeded. -/
def outcome (state : State Bool) (task : Bool) : Option Bool := (state.tasks task).bind fun phase =>
    match phase with
    | .running _ _ => none
    | .returned _ result => some result.toOption.isSome

theorem honest_consumedOnce : ∃ state : State Bool,
    (linkSystem Bool).Reachable state ∧ state.outcome true = some true ∧
      state.outcome false = some false ∧ state.Honest := by
  have run : ∃ state : State Bool, (linkSystem Bool).ReachableWithin MayHappen state ∧
        state.outcome true = some true ∧ state.outcome false = some false :=
    TransitionSystem.exists_reachableWithin_of_checkedRun minted initial_minted
      consumedOnce (by decide)
  obtain ⟨state, reached, accepted, refused⟩ := run
  exact ⟨state, reached.reachable, accepted, refused, consumption_honest reached⟩

/-- A call claims the code, finds that the key belongs to another user, and
raises; the next call of another operation commits the claim. -/
def claimedInVain : List (LinkAction Bool) :=
  [⟨1, .consume true "hash" "tg:user:2"⟩, ⟨2, .resume true none⟩,
    ⟨3, .resume true none⟩, ⟨4, .resume true none⟩, ⟨5, .other .commit none⟩]

theorem exists_not_honest : ∃ state : State Bool,
    (linkSystem Bool).Reachable state ∧ ¬ state.Honest := by
  have run : ∃ state : State Bool, (linkSystem Bool).Reachable state ∧
      state.outcome true = some false ∧
        (some true, Change.claim "hash" 1) ∈ state.db.committed.entries :=
    TransitionSystem.exists_reachable_of_run minted initial_minted claimedInVain (by decide)
  obtain ⟨state, reached, refused, isClaimed⟩ := run
  refine ⟨state, reached, fun honest => ?_⟩
  obtain ⟨phase, isPhase, refused⟩ := Option.bind_eq_some_iff.mp refused
  cases phase with
  | running call stage => cases refused
  | returned codeHash result =>
    cases result with
    | ok userId => cases refused
    | error raised =>
      exact honest.undone true codeHash raised isPhase _ (List.mem_append_right _ isClaimed) rfl

end Example

end State

end LinkCodes

end RoxabiFactory
