import Mathlib.Data.Nat.Notation
import Mathlib.Logic.Function.Basic
import RoxabiFactory.TransitionSystem

/-!
# The lock file of the hub

A hub that starts looks for the lock file, reads a process id from it, asks
whether that process is alive, and then overwrites the file with its own id;
a hub that exits removes the file.  Every file step is a step of its own, so
the steps of several hubs mix.
-/

namespace RoxabiFactory

namespace HubLockfile

/-- `int(text.strip())`; only what it makes of the texts of `str` matters. -/
structure IntText where
  parse : List Char → Option Int
  parse_str : ∀ number : ℕ, parse (Nat.toDigits 10 number) = some number

/-- `str(pid)`. -/
def str (pid : ℕ) : List Char := Nat.toDigits 10 pid

/-- The numbers without a sign. -/
def IntText.decimal : IntText where
  parse text :=
    if text ≠ [] ∧ text.all Char.isDigit = true then
      some (Int.ofNat (Nat.ofDigitChars 10 text 0))
    else none
  parse_str number := by
    have digits : Nat.toDigits 10 number ≠ [] ∧
        (Nat.toDigits 10 number).all Char.isDigit = true := by
      refine ⟨Nat.toDigits_ne_nil, ?_⟩
      rw [List.all_eq_true]
      intro character member
      exact Nat.isDigit_of_mem_toDigits (by decide) (by decide) member
    rw [if_pos digits, Nat.ofDigitChars_toDigits (by decide) (by decide)]
    rfl

/-- Where a hub process is. -/
inductive Stage
  | absent
  /-- Before `lf.exists()`. -/
  | starting
  /-- The file exists and will be read. -/
  | checking
  /-- The process with this id will be asked for. -/
  | probing (pid : Int)
  /-- The file will be opened for writing. -/
  | opening
  | writing (inode : ℕ)
  /-- `acquire_lockfile` has returned. -/
  | running
  /-- `release_lockfile` has been called, and may be called again. -/
  | exiting
  /-- On the way out of a failed `acquire_lockfile`. -/
  | refused
  | gone
  deriving DecidableEq

structure LockFile where
  inode : ℕ
  text : List Char
  deriving DecidableEq

structure State (Hub : Type) where
  file : Option LockFile := none
  nextInode : ℕ := 0
  /-- The ids of the processes that are no hubs. -/
  others : ℕ → Bool := fun _ => false
  /-- The ids of the hub processes. -/
  hubs : ℕ → Bool := fun _ => false
  pid : Hub → ℕ := fun _ => 0
  stage : Hub → Stage := fun _ => .absent

inductive Step (Hub : Type)
  | startHub (hub : Hub) (pid : ℕ)
  | startOther (pid : ℕ)
  | endOther (pid : ℕ)
  | exists_ (hub : Hub)
  /-- `fails` when the file is there but cannot be read. -/
  | read (hub : Hub) (fails : Bool)
  /-- `os.kill(pid, 0)`; `found` unless it raises `ProcessLookupError`. -/
  | probe (hub : Hub) (found : Bool)
  | open_ (hub : Hub)
  | write (hub : Hub)
  /-- `unlink` by an exiting hub. -/
  | release (hub : Hub) (fails : Bool)
  /-- The process is killed or ends. -/
  | die (hub : Hub)

/-- The largest process id that `os.kill` takes. -/
def maxPid : Int := 2147483647

section Code

variable {Hub : Type} [DecidableEq Hub]

def State.alive (state : State Hub) (pid : ℕ) : Bool := state.others pid || state.hubs pid

/-- A positive id is found if its process is alive; an id that is too large
raises an exception that nobody catches, which ends the start as well.  Other
numbers stand for groups of processes. -/
def State.Answers (state : State Hub) (pid : Int) (found : Bool) : Prop :=
  0 < pid → found = (state.alive pid.toNat || decide (maxPid < pid))

instance (state : State Hub) (pid : Int) (found : Bool) : Decidable (state.Answers pid found) :=
  inferInstanceAs (Decidable (_ → _))

def State.setStage (state : State Hub) (hub : Hub) (stage : Stage) : State Hub :=
  { state with stage := Function.update state.stage hub stage }

/-- What follows the reading of the file. -/
def afterRead (ints : IntText) : Option LockFile → Bool → Stage
  | none, _ | some _, true => .opening
  | some file, false =>
    match ints.parse file.text with
    | some pid => .probing pid
    | none => .opening

/-- The file is truncated or created. -/
def openFile (state : State Hub) : State Hub × ℕ :=
  match state.file with
  | some file =>
    ({ state with file := some { file with text := [] } }, file.inode)
  | none =>
    ({ state with
      file := some ⟨state.nextInode, []⟩
      nextInode := state.nextInode + 1 }, state.nextInode)

/-- The text is written at the start of the file that has been opened. -/
def writeFile (file : Option LockFile) (inode : ℕ) (text : List Char) : Option LockFile :=
  file.map fun file =>
    if file.inode = inode then
      { file with text := text ++ file.text.drop text.length }
    else file

def step (ints : IntText) (state : State Hub) : Step Hub → Option (State Hub)
  | .startHub hub pid =>
    if state.stage hub = .absent ∧ 0 < pid ∧ state.alive pid = false then
      some { state.setStage hub .starting with
        pid := Function.update state.pid hub pid
        hubs := Function.update state.hubs pid true }
    else none
  | .startOther pid =>
    if state.alive pid = false then
      some { state with others := Function.update state.others pid true }
    else none
  | .endOther pid =>
    some { state with others := Function.update state.others pid false }
  | .exists_ hub =>
    if state.stage hub = .starting then
      some (state.setStage hub (if state.file.isSome then .checking else .opening))
    else none
  | .read hub fails =>
    if state.stage hub = .checking then
      some (state.setStage hub (afterRead ints state.file fails))
    else none
  | .probe hub found =>
    match state.stage hub with
    | .probing pid =>
      if state.Answers pid found then
        some (state.setStage hub (if found = true ∧ pid ≠ state.pid hub then .refused
          else .opening))
      else none
    | _ => none
  | .open_ hub =>
    if state.stage hub = .opening then
      some ((openFile state).1.setStage hub (.writing (openFile state).2))
    else none
  | .write hub =>
    match state.stage hub with
    | .writing inode =>
      some { state.setStage hub .running with
        file := writeFile state.file inode (str (state.pid hub)) }
    | _ => none
  | .release hub fails =>
    if state.stage hub = .running ∨ state.stage hub = .exiting then
      some { state.setStage hub .exiting with
        file := if fails then state.file else none }
    else none
  | .die hub =>
    if state.stage hub = .absent ∨ state.stage hub = .gone then none
    else
      some { state.setStage hub .gone with
        hubs := Function.update state.hubs (state.pid hub) false }

/-- No hub has been started; any file may be left over, and any processes may
be alive. -/
def IsInitial (state : State Hub) : Prop :=
  (∀ pid, state.hubs pid = false) ∧ ∀ hub, state.stage hub = .absent

def system (ints : IntText) (Hub : Type) [DecidableEq Hub] :
    TransitionSystem (State Hub) (Step Hub) where
  initial := IsInitial
  step := step ints

/-! ## One hub -/

/-- The process is alive. -/
def Stage.IsLive (stage : Stage) : Prop := stage ≠ .absent ∧ stage ≠ .gone

/-- `acquire_lockfile` has returned in a live process. -/
def Stage.HasAcquired (stage : Stage) : Prop := stage = .running ∨ stage = .exiting

structure OneHub (state : State Hub) : Prop where
  /-- No two live hubs have both returned from `acquire_lockfile`. -/
  single : ∀ first second, (state.stage first).HasAcquired →
    (state.stage second).HasAcquired → first = second
  /-- The lock file names the running hub. -/
  named : ∀ hub, state.stage hub = .running →
    ∃ file, state.file = some file ∧ file.text = str (state.pid hub)
  /-- The file that a hub may remove is its own. -/
  own : ∀ hub, (state.stage hub).HasAcquired →
    ∀ file, state.file = some file → file.text = str (state.pid hub)

/-- The process may write although the file has changed since it read it. -/
def Stage.IsPending : Stage → Prop
  | .probing _ | .opening | .writing _ => True
  | _ => False

def Stage.IsWriting : Stage → Prop
  | .writing _ => True
  | _ => False

/-- A hub opens the file for writing only when no other one is between its
reading of the file and its write or is exiting; it reads the file only when no
other one is between opening and writing, and reading works. -/
def Apart (state : State Hub) : Step Hub → Prop
  | .open_ hub => ∀ other, other ≠ hub →
      ¬ (state.stage other).IsPending ∧ state.stage other ≠ .exiting
  | .read hub fails => fails = false ∧ ∀ other, other ≠ hub → ¬ (state.stage other).IsWriting
  | _ => True

/-! ## What the stages of two hubs and the file have in common -/

def Stage.IsIdle : Stage → Prop
  | .absent | .starting | .checking | .refused | .gone => True
  | _ => False

/-- What the stage of a hub says about another one. -/
def Stage.Allows (stage other : Stage) (otherPid : ℕ) : Prop :=
  match stage with
  | .probing pid => other = .running → pid = otherPid
  | .opening => other ≠ .running
  | .writing _ => other.IsIdle
  | .running | .exiting => ¬ other.HasAcquired
  | _ => True

/-- What the stage of a hub says about the file. -/
def Stage.Holds (stage : Stage) (file : Option LockFile) (pid : ℕ) : Prop :=
  match stage with
  | .writing inode => file = some ⟨inode, []⟩
  | .running => ∃ lock, file = some lock ∧ lock.text = str pid
  | .exiting => ∀ lock, file = some lock → lock.text = str pid
  | _ => True

structure Sound (state : State Hub) : Prop where
  alive : ∀ hub, (state.stage hub).IsLive → state.hubs (state.pid hub) = true ∧
      state.others (state.pid hub) = false ∧ 0 < state.pid hub
  distinct : ∀ first second, (state.stage first).IsLive → (state.stage second).IsLive →
      state.pid first = state.pid second → first = second
  allows : ∀ hub other, other ≠ hub → (state.stage hub).Allows (state.stage other) (state.pid other)
  holds : ∀ hub, (state.stage hub).Holds state.file (state.pid hub)

theorem Stage.Allows.of_isIdle {stage other : Stage} {otherPid : ℕ}
    (idle : other.IsIdle) : stage.Allows other otherPid := by
  cases stage <;> cases other <;>
    simp_all [Stage.Allows, Stage.IsIdle, Stage.HasAcquired]

theorem Stage.IsIdle.allows {stage : Stage} (idle : stage.IsIdle)
    (other : Stage) (otherPid : ℕ) : stage.Allows other otherPid := by
  cases stage <;> first | exact trivial | cases idle

theorem Stage.IsIdle.holds {stage : Stage} (idle : stage.IsIdle)
    (file : Option LockFile) (pid : ℕ) : stage.Holds file pid := by
  cases stage <;> first | exact trivial | cases idle

theorem Stage.Allows.of_isPending {stage other : Stage} {otherPid : ℕ}
    (pending : other.IsPending) (notWriting : ¬ stage.IsWriting) :
    stage.Allows other otherPid := by
  cases stage <;> cases other <;>
    simp_all [Stage.Allows, Stage.IsPending, Stage.IsWriting, Stage.HasAcquired]

variable {state : State Hub} {hub : Hub}

theorem stage_setStage_self (state : State Hub) (hub : Hub) (stage : Stage) :
    (state.setStage hub stage).stage hub = stage :=
  Function.update_self ..

theorem stage_setStage_of_ne {other : Hub} (different : other ≠ hub)
    (state : State Hub) (stage : Stage) :
    (state.setStage hub stage).stage other = state.stage other :=
  Function.update_of_ne different ..

theorem Sound.move (sound : Sound state) {stage : Stage} {file : Option LockFile} (nextInode : ℕ)
    (live : stage.IsLive → (state.stage hub).IsLive)
    (mine : ∀ other, other ≠ hub → stage.Allows (state.stage other) (state.pid other))
    (theirs : ∀ other, other ≠ hub → (state.stage other).Allows stage (state.pid hub))
    (holds : stage.Holds file (state.pid hub))
    (others : ∀ other, other ≠ hub → (state.stage other).Holds file (state.pid other)) :
    Sound { state.setStage hub stage with
      file := file, nextInode := nextInode } := by
  have lives : ∀ other, ((state.setStage hub stage).stage other).IsLive →
      (state.stage other).IsLive := by
    intro other otherLive
    by_cases same : other = hub
    · subst same
      rw [stage_setStage_self] at otherLive
      exact live otherLive
    · rwa [stage_setStage_of_ne same] at otherLive
  constructor
  · intro other otherLive
    exact sound.alive other (lives other otherLive)
  · intro first second firstLive secondLive
    exact sound.distinct first second (lives first firstLive) (lives second secondLive)
  · intro first second different
    dsimp only
    by_cases isFirst : first = hub
    · subst isFirst
      rw [stage_setStage_self, stage_setStage_of_ne different]
      exact mine second different
    · rw [stage_setStage_of_ne isFirst]
      by_cases isSecond : second = hub
      · subst isSecond
        rw [stage_setStage_self]
        exact theirs first isFirst
      · rw [stage_setStage_of_ne isSecond]
        exact sound.allows first second different
  · intro other
    dsimp only
    by_cases same : other = hub
    · subst same
      rw [stage_setStage_self]
      exact holds
    · rw [stage_setStage_of_ne same]
      exact others other same

theorem Sound.setStage (sound : Sound state) {stage : Stage}
    (live : stage.IsLive → (state.stage hub).IsLive)
    (mine : ∀ other, other ≠ hub → stage.Allows (state.stage other) (state.pid other))
    (theirs : ∀ other, other ≠ hub → (state.stage other).Allows stage (state.pid hub))
    (holds : stage.Holds state.file (state.pid hub)) :
    Sound (state.setStage hub stage) :=
  sound.move state.nextInode live mine theirs holds
    fun other _ => sound.holds other

theorem Sound.setIdle (sound : Sound state) {stage : Stage} (idle : stage.IsIdle)
    (live : stage.IsLive → (state.stage hub).IsLive) :
    Sound (state.setStage hub stage) :=
  sound.setStage live (fun _ _ => idle.allows _ _) (fun _ _ => .of_isIdle idle) (idle.holds _ _)

omit [DecidableEq Hub] in
theorem Sound.found (sound : Sound state) {other : Hub} {pid : Int}
    {found : Bool} (answers : state.Answers pid found)
    (running : state.stage other = .running)
    (named : pid = state.pid other) : found = true := by
  obtain ⟨alive, -, positive⟩ := sound.alive other (by rw [running]; exact ⟨by decide, by decide⟩)
  subst named
  rw [answers (by omega), State.alive, Int.toNat_natCast, alive]
  simp

/-! ## The steps -/

theorem Sound.startHub (sound : Sound state) {pid : ℕ}
    (absent : state.stage hub = .absent) (positive : 0 < pid)
    (unused : state.alive pid = false) :
    Sound { state.setStage hub .starting with
      pid := Function.update state.pid hub pid
      hubs := Function.update state.hubs pid true } := by
  obtain ⟨notOther, notHub⟩ := Bool.or_eq_false_iff.mp unused
  have starts : Stage.IsIdle .starting := trivial
  have fresh : ∀ other, (state.stage other).IsLive →
      state.pid other ≠ pid := by
    intro other live same
    have alive := (sound.alive other live).1
    rw [same, notHub] at alive
    cases alive
  have others : ∀ other, other ≠ hub → ((state.setStage hub .starting).stage other).IsLive →
        (state.stage other).IsLive := by
    intro other different live
    rwa [stage_setStage_of_ne different] at live
  constructor
  · intro other live
    by_cases same : other = hub
    · subst same
      dsimp only [State.setStage]
      rw [Function.update_self, Function.update_self]
      exact ⟨rfl, notOther, positive⟩
    · have otherLive := others other same live
      obtain ⟨alive, rest⟩ := sound.alive other otherLive
      dsimp only
      rw [Function.update_of_ne same, Function.update_of_ne (fresh other otherLive)]
      exact ⟨alive, rest⟩
  · intro first second firstLive secondLive
    dsimp only
    by_cases isFirst : first = hub
    · by_cases isSecond : second = hub
      · exact fun _ => isFirst.trans isSecond.symm
      · subst isFirst
        rw [Function.update_self, Function.update_of_ne isSecond]
        intro same
        exact absurd same.symm (fresh second (others second isSecond secondLive))
    · by_cases isSecond : second = hub
      · subst isSecond
        rw [Function.update_self, Function.update_of_ne isFirst]
        intro same
        exact absurd same (fresh first (others first isFirst firstLive))
      · rw [Function.update_of_ne isFirst, Function.update_of_ne isSecond]
        exact sound.distinct first second (others first isFirst firstLive)
          (others second isSecond secondLive)
  · intro first second different
    dsimp only
    by_cases isSecond : second = hub
    · subst isSecond
      rw [stage_setStage_self]
      exact .of_isIdle starts
    · rw [stage_setStage_of_ne isSecond, Function.update_of_ne isSecond]
      by_cases isFirst : first = hub
      · subst isFirst
        rw [stage_setStage_self]
        exact starts.allows _ _
      · rw [stage_setStage_of_ne isFirst]
        exact sound.allows first second different
  · intro other
    dsimp only
    by_cases same : other = hub
    · subst same
      rw [stage_setStage_self]
      exact starts.holds _ _
    · rw [stage_setStage_of_ne same, Function.update_of_ne same]
      exact sound.holds other

omit [DecidableEq Hub] in
theorem Sound.startOther (sound : Sound state) {pid : ℕ} (unused : state.alive pid = false) :
    Sound { state with others := Function.update state.others pid true } := by
  constructor
  · intro hub live
    obtain ⟨alive, notOther, positive⟩ := sound.alive hub live
    refine ⟨alive, ?_, positive⟩
    dsimp only
    rw [Function.update_of_ne, notOther]
    intro same
    rw [← same, State.alive, alive, Bool.or_true] at unused
    cases unused
  · exact sound.distinct
  · exact sound.allows
  · exact sound.holds

omit [DecidableEq Hub] in
theorem Sound.endOther (sound : Sound state) (pid : ℕ) :
    Sound { state with
      others := Function.update state.others pid false } := by
  constructor
  · intro hub live
    obtain ⟨alive, notOther, positive⟩ := sound.alive hub live
    refine ⟨alive, ?_, positive⟩
    dsimp only
    by_cases same : state.pid hub = pid
    · rw [same, Function.update_self]
    · rw [Function.update_of_ne same, notOther]
  · exact sound.distinct
  · exact sound.allows
  · exact sound.holds

theorem Sound.die (sound : Sound state) (live : (state.stage hub).IsLive) :
    Sound { state.setStage hub .gone with
      hubs := Function.update state.hubs (state.pid hub) false } := by
  have gone : Sound (state.setStage hub .gone) := sound.setIdle trivial fun _ => live
  constructor
  · intro other otherLive
    have different : other ≠ hub := by
      intro same
      subst same
      dsimp only at otherLive
      rw [stage_setStage_self] at otherLive
      exact otherLive.2 rfl
    obtain ⟨alive, rest⟩ := gone.alive other otherLive
    refine ⟨?_, rest⟩
    dsimp only
    rw [Function.update_of_ne]
    · exact alive
    · intro same
      dsimp only at otherLive
      rw [stage_setStage_of_ne different] at otherLive
      exact different (sound.distinct other hub otherLive live same)
  · exact gone.distinct
  · exact gone.allows
  · exact gone.holds

theorem Sound.exists_ (sound : Sound state) (starting : state.stage hub = .starting) :
    Sound (state.setStage hub (if state.file.isSome then .checking else .opening)) := by
  have live : (state.stage hub).IsLive := by
    rw [starting]
    exact ⟨by decide, by decide⟩
  split
  · exact sound.setIdle trivial fun _ => live
  · rename_i noFile
    have noFile := Option.not_isSome_iff_eq_none.mp noFile
    -- A hub that writes or runs has a file.
    refine sound.setStage (fun _ => live) ?_ ?_ trivial
    · intro other _ running
      have named := sound.holds other
      rw [running, noFile] at named
      obtain ⟨lock, isSome, -⟩ := named
      cases isSome
    · intro other _
      have opening : Stage.IsPending .opening := trivial
      apply Stage.Allows.of_isPending opening
      intro writing
      have empty := sound.holds other
      generalize state.stage other = stage at writing empty
      cases stage with
      | writing inode =>
        rw [noFile] at empty
        cases empty
      | _ => cases writing

theorem Sound.read (sound : Sound state) (ints : IntText) (checking : state.stage hub = .checking)
    (apart : ∀ other, other ≠ hub → ¬ (state.stage other).IsWriting) :
    Sound (state.setStage hub (afterRead ints state.file false)) := by
  have live : (state.stage hub).IsLive := by
    rw [checking]
    exact ⟨by decide, by decide⟩
  have pending : (afterRead ints state.file false).IsPending := by
    unfold afterRead
    split
    · trivial
    · trivial
    · split <;> trivial
  refine sound.setStage (fun _ => live) ?_
    (fun other different => .of_isPending pending (apart other different)) ?_
  · intro other _
    by_cases running : state.stage other = .running
    · -- The file is that of the running hub.
      have named := sound.holds other
      rw [running] at named
      obtain ⟨lock, isFile, isText⟩ := named
      rw [isFile]
      dsimp only [afterRead]
      rw [isText, str, ints.parse_str]
      exact fun _ => rfl
    · unfold afterRead
      split
      · exact running
      · exact running
      · split
        · exact fun isRunning => absurd isRunning running
        · exact running
  · unfold afterRead
    split
    · trivial
    · trivial
    · split <;> trivial
theorem Sound.probe (sound : Sound state) {pid : Int} {found : Bool}
    (probing : state.stage hub = .probing pid)
    (answers : state.Answers pid found) :
    Sound (state.setStage hub (if found = true ∧ pid ≠ state.pid hub then .refused
      else .opening)) := by
  have live : (state.stage hub).IsLive := by
    rw [probing]
    exact ⟨nofun, nofun⟩
  split
  · exact sound.setIdle trivial fun _ => live
  · rename_i goesOn
    refine sound.setStage (fun _ => live) ?_ ?_ trivial
    · intro other different running
      have allowed := sound.allows hub other different
      rw [probing] at allowed
      have named : pid = state.pid other := allowed running
      -- The running hub is found, so its id is the own one.
      have found := sound.found answers running named
      have own : pid = state.pid hub := by
        by_contra notOwn
        exact goesOn ⟨found, notOwn⟩
      apply different
      apply sound.distinct other hub _ live
      · omega
      · rw [running]
        exact ⟨nofun, nofun⟩
    · intro other different
      have opening : Stage.IsPending .opening := trivial
      apply Stage.Allows.of_isPending opening
      intro writing
      have idle := sound.allows other hub different.symm
      rw [probing] at idle
      generalize state.stage other = stage at writing idle
      cases stage with
      | writing inode => exact idle
      | _ => cases writing

omit [DecidableEq Hub] in
theorem openFile_eq (state : State Hub) : ∃ nextInode, (openFile state).1 =
      { state with
        file := some ⟨(openFile state).2, []⟩, nextInode := nextInode } := by
  unfold openFile
  split
  · exact ⟨_, rfl⟩
  · exact ⟨_, rfl⟩

theorem Sound.open_ (sound : Sound state) (opening : state.stage hub = .opening)
    (apart : ∀ other, other ≠ hub →
      ¬ (state.stage other).IsPending ∧ state.stage other ≠ .exiting) :
    Sound ((openFile state).1.setStage hub (.writing (openFile state).2)) := by
  have idle : ∀ other, other ≠ hub → (state.stage other).IsIdle := by
    intro other different
    obtain ⟨notPending, notExiting⟩ := apart other different
    have notRunning := sound.allows hub other different
    rw [opening] at notRunning
    generalize state.stage other = stage at *
    cases stage <;> first | trivial | exact absurd trivial notPending
  obtain ⟨nextInode, opened⟩ := openFile_eq state
  rw [opened]
  apply sound.move nextInode _ idle
  · intro other different
    exact (idle other different).allows _ _
  · rfl
  · intro other different
    exact (idle other different).holds _ _
  · intro _
    rw [opening]
    exact ⟨nofun, nofun⟩

theorem Sound.write (sound : Sound state) {inode : ℕ} (writing : state.stage hub = .writing inode) :
    Sound { state.setStage hub .running with
      file := writeFile state.file inode (str (state.pid hub)) } := by
  have idle : ∀ other, other ≠ hub → (state.stage other).IsIdle := by
    intro other different
    have idle := sound.allows hub other different
    rwa [writing] at idle
  have empty := sound.holds hub
  rw [writing] at empty
  change state.file = some ⟨inode, []⟩ at empty
  apply sound.move state.nextInode
  · intro _
    rw [writing]
    exact ⟨nofun, nofun⟩
  · intro other different
    have idle := idle other different
    generalize state.stage other = stage at idle
    rintro (rfl | rfl) <;> exact idle
  · intro other different
    exact (idle other different).allows _ _
  · refine ⟨⟨inode, str (state.pid hub)⟩, ?_, rfl⟩
    simp [writeFile, empty]
  · intro other different
    exact (idle other different).holds _ _

theorem Sound.release (sound : Sound state) (fails : Bool)
    (acquired : (state.stage hub).HasAcquired) :
    Sound { state.setStage hub .exiting with
      file := if fails then state.file else none } := by
  have theirs : ∀ other, other ≠ hub → (state.stage other).Allows .exiting (state.pid hub) ∧
        ¬ (state.stage other).HasAcquired ∧
        ¬ (state.stage other).IsWriting := by
    intro other different
    have mine := sound.allows hub other different
    have allowed := sound.allows other hub different.symm
    rcases acquired with running | exiting
    · rw [running] at mine allowed
      generalize state.stage other = stage at *
      cases stage <;> simp_all [Stage.Allows, Stage.HasAcquired, Stage.IsWriting, Stage.IsIdle]
    · rw [exiting] at mine allowed
      generalize state.stage other = stage at *
      cases stage <;> simp_all [Stage.Allows, Stage.HasAcquired, Stage.IsWriting, Stage.IsIdle]
  apply sound.move state.nextInode
  · intro _
    rcases acquired with running | exiting
    · rw [running]
      exact ⟨nofun, nofun⟩
    · rw [exiting]
      exact ⟨nofun, nofun⟩
  · intro other different
    exact (theirs other different).2.1
  · intro other different
    exact (theirs other different).1
  · have own := sound.holds hub
    cases fails with
    | false => exact nofun
    | true =>
      rcases acquired with running | exiting
      · rw [running] at own
        obtain ⟨lock, isFile, isText⟩ := own
        intro file same
        cases isFile.symm.trans same
        exact isText
      · rwa [exiting] at own
  · intro other different
    obtain ⟨-, notAcquired, notWriting⟩ := theirs other different
    generalize state.stage other = stage at *
    cases stage <;> first
      | trivial
      | exact absurd (.inl rfl) notAcquired
      | exact absurd (.inr rfl) notAcquired
      | exact absurd trivial notWriting

theorem Sound.step (sound : Sound state) {ints : IntText}
    {action : Step Hub} {after : State Hub} (apart : Apart state action)
    (applied : HubLockfile.step ints state action = some after) :
    Sound after := by
  cases action with
  | startHub hub pid =>
    obtain ⟨⟨absent, positive, unused⟩, same⟩ := Option.ite_none_right_eq_some.mp applied
    cases same
    exact sound.startHub absent positive unused
  | startOther pid =>
    obtain ⟨unused, same⟩ := Option.ite_none_right_eq_some.mp applied
    cases same
    exact sound.startOther unused
  | endOther pid =>
    cases applied
    exact sound.endOther pid
  | exists_ hub =>
    obtain ⟨starting, same⟩ := Option.ite_none_right_eq_some.mp applied
    cases same
    exact sound.exists_ starting
  | read hub fails =>
    obtain ⟨checking, same⟩ := Option.ite_none_right_eq_some.mp applied
    cases same
    obtain ⟨rfl, apart⟩ := apart
    exact sound.read ints checking apart
  | probe hub found =>
    dsimp only [HubLockfile.step] at applied
    split at applied
    · rename_i pid probing
      obtain ⟨answers, same⟩ := Option.ite_none_right_eq_some.mp applied
      cases same
      exact sound.probe probing answers
    · cases applied
  | open_ hub =>
    obtain ⟨opening, same⟩ := Option.ite_none_right_eq_some.mp applied
    cases same
    exact sound.open_ opening apart
  | write hub =>
    dsimp only [HubLockfile.step] at applied
    split at applied
    · rename_i inode writing
      cases applied
      exact sound.write writing
    · cases applied
  | release hub fails =>
    obtain ⟨acquired, same⟩ := Option.ite_none_right_eq_some.mp applied
    cases same
    exact sound.release fails acquired
  | die hub =>
    obtain ⟨notLive, same⟩ := Option.ite_none_left_eq_some.mp applied
    cases same
    exact sound.die (not_or.mp notLive)

omit [DecidableEq Hub] in
theorem Sound.of_isInitial (initially : IsInitial state) : Sound state := by
  obtain ⟨-, absent⟩ := initially
  have idle : ∀ hub, (state.stage hub).IsIdle := by
    intro hub
    rw [absent hub]
    trivial
  constructor
  · intro hub live
    exact absurd (absent hub) live.1
  · intro first _ live
    exact absurd (absent first) live.1
  · intro hub other _
    exact (idle hub).allows _ _
  · intro hub
    exact (idle hub).holds _ _

omit [DecidableEq Hub] in
theorem Sound.oneHub (sound : Sound state) : OneHub state where
  single first second firstAcquired secondAcquired := by
    by_contra different
    have allowed := sound.allows first second (Ne.symm different)
    rcases firstAcquired with stage | stage <;> rw [stage] at allowed <;>
      exact allowed secondAcquired
  named hub running := by
    have holds := sound.holds hub
    rwa [running] at holds
  own hub acquired file isFile := by
    have holds := sound.holds hub
    rcases acquired with stage | stage
    · rw [stage] at holds
      obtain ⟨lock, same, isText⟩ := holds
      cases same.symm.trans isFile
      exact isText
    · rw [stage] at holds
      exact holds file isFile

/-- Hubs that keep apart take turns. -/
theorem oneHub_of_apart (ints : IntText) (Hub : Type) [DecidableEq Hub] (state : State Hub)
    (reached : (system ints Hub).ReachableWithin Apart state) :
    OneHub state := by
  apply Sound.oneHub
  apply reached.invariant
  · intro state initially
    exact .of_isInitial initially
  · intro state action after sound apart applied
    exact sound.step apart applied

end Code

section Example

instance : DecidablePred Stage.IsPending
  | .probing _ | .opening | .writing _ => .isTrue trivial
  | .absent | .starting | .checking | .running | .exiting | .refused
  | .gone => .isFalse id

instance : DecidablePred Stage.IsWriting
  | .writing _ => .isTrue trivial
  | .absent | .starting | .checking | .probing _ | .opening | .running
  | .exiting | .refused | .gone => .isFalse id

instance (state : State Bool) : DecidablePred (Apart state)
  | .open_ hub => inferInstanceAs (Decidable (∀ other, other ≠ hub →
      ¬ (state.stage other).IsPending ∧ state.stage other ≠ .exiting))
  | .read hub fails => inferInstanceAs (Decidable (fails = false ∧
      ∀ other, other ≠ hub → ¬ (state.stage other).IsWriting))
  | .startHub .. | .startOther _ | .endOther _ | .exists_ _ | .probe ..
  | .write _ | .release .. | .die _ => .isTrue trivial

def startLock (hub : Bool) (pid : ℕ) : List (Step Bool) := [.startHub hub pid, .exists_ hub]

def writeLock (hub : Bool) : List (Step Bool) := [.open_ hub, .write hub]

/-- A hub is killed and the next one finds its lock. -/
theorem oneHub_after_crash : ∃ state : State Bool, (state.stage true = .gone ∧
      state.stage false = .running ∧ state.file = some ⟨0, str 11⟩) ∧ OneHub state := by
  have run : ∃ state : State Bool, (system .decimal Bool).ReachableWithin Apart state ∧
        state.stage true = .gone ∧ state.stage false = .running ∧ state.file = some ⟨0, str 11⟩ :=
    TransitionSystem.exists_reachableWithin_of_checkedRun {} ⟨fun _ => rfl, fun _ => rfl⟩
      (startLock true 10 ++ writeLock true ++ [.die true] ++
        startLock false 11 ++ [.read false false, .probe false false] ++ writeLock false)
      (by decide)
  obtain ⟨state, reached, holds⟩ := run
  exact ⟨state, holds, oneHub_of_apart .decimal Bool state reached⟩

/-- Two hubs that start together both run; and a hub that removes the lock a
second time removes that of the next one. -/
theorem exists_two_hubs : (∃ state : State Bool, (system .decimal Bool).Reachable state ∧
      state.stage true = .running ∧ state.stage false = .running) ∧
    (∃ state : State Bool, (system .decimal Bool).Reachable state ∧
      state.stage false = .running ∧ state.file = none) ∧
    ¬ ∀ state : State Bool, (system .decimal Bool).Reachable state →
      OneHub state := by
  have both : ∃ state : State Bool, (system .decimal Bool).Reachable state ∧
        state.stage true = .running ∧ state.stage false = .running :=
    TransitionSystem.exists_reachable_of_run {} ⟨fun _ => rfl, fun _ => rfl⟩
      (startLock true 10 ++ startLock false 11 ++ writeLock true ++ writeLock false)
      (by decide)
  have removed : ∃ state : State Bool, (system .decimal Bool).Reachable state ∧
        state.stage false = .running ∧ state.file = none :=
    TransitionSystem.exists_reachable_of_run {} ⟨fun _ => rfl, fun _ => rfl⟩
      (startLock true 10 ++ writeLock true ++ [.release true false] ++
        startLock false 11 ++ writeLock false ++ [.release true false])
      (by decide)
  refine ⟨both, removed, ?_⟩
  intro always
  obtain ⟨state, reached, first, second⟩ := both
  cases (always state reached).single true false (.inl first) (.inl second)

end Example

end HubLockfile

end RoxabiFactory
