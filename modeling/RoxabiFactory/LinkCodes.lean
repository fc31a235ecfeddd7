import Mathlib.Data.Fintype.Defs
import Mathlib.Logic.Function.Basic
import RoxabiFactory.PlatformKeys
import RoxabiFactory.SqliteScripts
import RoxabiFactory.TransitionSystem

/-!
# Link codes of the dashboard

`consume_link_code` reads the row of a code, claims it by an `UPDATE` of a row
that is not consumed yet, and attaches the platform key to the user of the code
before it commits.  Other calls send statements over the same connection in
between, and none of them rolls a transaction back when it raises.
-/

namespace RoxabiFactory

namespace LinkCodes

open SqliteConnection SqliteStatements
open UserIdentities (PlatformKey parsePlatformKey)

/-! ## The tables -/

/-- A row of `dash_link_codes`; times are in microseconds. -/
structure LinkCode where
  userId : String
  platform : Option String
  expiresAt : ℤ
  consumedAt : Option ℤ := none
  deriving DecidableEq

/-- The rows of `dash_link_codes` by the hashes of the codes, which are as
unique as their ids, and the rows of `platform_identities`. -/
structure Tables where
  codes : String → Option LinkCode := fun _ => none
  identities : List (PlatformKey × String) := []

inductive Change
  /-- The `INSERT` of `create_link_code`. -/
  | mint (codeHash : String) (code : LinkCode)
  /-- The `UPDATE` of `_claim_link_code`. -/
  | claim (codeHash : String) (now : ℤ)
  | attach (key : PlatformKey) (userId : String)
  | detach (key : PlatformKey)
  /-- The `DELETE` of `unlink_platform`. -/
  | unlink (userId platform : String)
  deriving DecidableEq

namespace Tables

variable (tables : Tables)

def isConsumed (codeHash : String) : Bool :=
  (tables.codes codeHash).any fun code => code.consumedAt.isSome

/-- `consumed_at IS NULL AND expires_at > ?`. -/
def isOpen (codeHash : String) (now : ℤ) : Bool := (tables.codes codeHash).any fun code =>
    code.consumedAt.isNone && decide (now < code.expiresAt)

/-- `SELECT user_id FROM platform_identities WHERE platform_key = ?`. -/
def owner (key : PlatformKey) : Option String := tables.identities.lookup key

/-- The keys of a user on a platform. -/
def keysOf (userId platform : String) : List PlatformKey := (tables.identities.filter fun row =>
    decide (row.2 = userId ∧ row.1.platform.name = platform)).map Prod.fst

def apply : Change → Tables
  | .mint codeHash code =>
    match tables.codes codeHash with
    | none => { tables with
        codes := Function.update tables.codes codeHash (some code) }
    | some _ => tables
  | .claim codeHash now =>
    { tables with
      codes := Function.update tables.codes codeHash ((tables.codes codeHash).map fun code =>
          { code with consumedAt := some now }) }
  | .attach key userId =>
    { tables with identities := tables.identities ++ [(key, userId)] }
  | .detach key =>
    { tables with
      identities := tables.identities.filter fun row => decide (row.1 ≠ key) }
  | .unlink userId platform =>
    { tables with
      identities := tables.identities.filter fun row =>
        !decide (row.2 = userId ∧ row.1.platform.name = platform) }

end Tables

/-- The tables at the beginning, and what has been changed since then, with
the call of `consume_link_code` that has done it, if it was one. -/
structure Journal (Task : Type) where
  start : Tables
  entries : List (Option Task × Change) := []

namespace Journal

variable {Task : Type} (journal : Journal Task)

def tables : Tables :=
  journal.entries.foldl (fun tables entry => tables.apply entry.2) journal.start

def add (author : Option Task) (change : Change) : Journal Task :=
  { journal with entries := journal.entries ++ [(author, change)] }

/-- `_claim_link_code`, which changes at most one row. -/
def claim (task : Task) (codeHash : String) (now : ℤ) : Journal Task :=
  if journal.tables.isOpen codeHash now then
    journal.add (some task) (.claim codeHash now)
  else journal

/-- The `INSERT` of `_attach_platform_identity`; the key is the primary key. -/
def attach (task : Task) (key : PlatformKey) (userId : String) : Journal Task :=
  if (journal.tables.owner key).isSome then journal
  else journal.add (some task) (.attach key userId)

/-- The `INSERT` of `create_link_code`; the hash is unique. -/
def mint (codeHash : String) (code : LinkCode) : Journal Task :=
  if (journal.tables.codes codeHash).isSome then journal
  else journal.add none (.mint codeHash code)

end Journal

/-! ## Calls -/

/-- The arguments of `consume_link_code`: the hash of the code, the parsed
platform key, and the time at which the call was made. -/
structure Call where
  codeHash : String
  key : PlatformKey
  startedAt : ℤ
  deriving DecidableEq

/-- The statement that a call sends next. -/
inductive Stage
  /-- The `SELECT` of `_load_valid_link_code`. -/
  | called
  /-- The `UPDATE` of `_claim_link_code`. -/
  | loaded (userId : String)
  /-- The `SELECT` of the owner of the key. -/
  | claimed (userId : String)
  /-- The `SELECT` of the other keys of the user; the key has no row yet, or
  is attached to the user. -/
  | checked (userId : String) (missing : Bool)
  /-- The `DELETE` of the next old key, then the `INSERT` of a missing key, and
  then the commit. -/
  | attaching (userId : String) (old : List PlatformKey) (missing : Bool)
  deriving DecidableEq

/-- The call has claimed the code. -/
def Stage.hasClaim : Stage → Bool
  | called | loaded _ => false
  | claimed _ | checked _ _ | attaching _ _ _ => true

inductive Phase
  | running (call : Call) (stage : Stage)
  | returned (codeHash : String) (result : Py String)

namespace Stage

variable {Task : Type}

def statement (task : Task) (call : Call) : Stage → Statement (Journal Task)
  | called | claimed _ | checked _ _ => .read
  | loaded _ => .modify fun journal =>
    journal.claim task call.codeHash call.startedAt
  | attaching _ (key :: _) _ => .modify fun journal =>
    journal.add (some task) (.detach key)
  | attaching userId [] true => .modify fun journal =>
    journal.attach task call.key userId
  | attaching _ [] false => .commit

/-- What the call does with the answer: it goes on, or returns. -/
def next (call : Call) (now : ℤ) (tables : Tables) : Stage → Py (Stage ⊕ String)
  | called =>
    match tables.codes call.codeHash with
    | none => .error .valueError
    | some code =>
      if code.consumedAt.isSome then .error .valueError
      else if code.expiresAt < now then .error .valueError
      else if code.platform.any (· ≠ call.key.platform.name) then
        .error .valueError
      else .ok (.inl (.loaded code.userId))
  | loaded userId =>
    if tables.isOpen call.codeHash call.startedAt then
      .ok (.inl (.claimed userId))
    else .error .valueError
  | claimed userId =>
    match tables.owner call.key with
    | none => .ok (.inl (.checked userId true))
    | some other =>
      if other = userId then .ok (.inl (.checked userId false))
      else .error .valueError
  | checked userId missing =>
    let old := (tables.keysOf userId call.key.platform.name).filter
      fun key => decide (key ≠ call.key)
    .ok (.inl (.attaching userId old missing))
  | attaching userId (_ :: old) missing =>
    .ok (.inl (.attaching userId old missing))
  | attaching userId [] true =>
    if (tables.owner call.key).isSome then
      .error (.other "IntegrityError")
    else .ok (.inl (.attaching userId [] false))
  | attaching userId [] false => .ok (.inr userId)

end Stage

/-- A statement of another call on the connection. -/
inductive OtherStatement
  /-- `create_link_code`. -/
  | mint (codeHash userId : String) (platform : Option String) (expiresAt : ℤ)
  /-- `unlink_platform`. -/
  | unlink (userId platform : String)
  /-- A change of other tables. -/
  | elsewhere
  | commit
  deriving DecidableEq

def OtherStatement.statement {Task : Type} : OtherStatement → Statement (Journal Task)
  | mint codeHash userId platform expiresAt => .modify fun journal =>
    journal.mint codeHash ⟨userId, platform, expiresAt, none⟩
  | unlink userId platform => .modify fun journal =>
    journal.add none (.unlink userId platform)
  | elsewhere => .modify id
  | commit => .commit

/-- A committed change of the identities by another store. -/
inductive StoreChange
  | attach (key : PlatformKey) (userId : String)
  | detach (key : PlatformKey)
  deriving DecidableEq

def StoreChange.change : StoreChange → Change
  | attach key userId => .attach key userId
  | detach key => .detach key

structure State (Task : Type) where
  db : SqliteConnection (Journal Task)
  tasks : Task → Option Phase

inductive Event (Task : Type)
  | consume (task : Task) (codeHash platformKey : String)
  /-- The next statement of a call is executed, or fails. -/
  | resume (task : Task) (fault : Option Fault)
  | other (statement : OtherStatement) (fault : Option Fault)
  /-- Another connection writes, which needs the lock of the database. -/
  | store (change : StoreChange)

/-- What happens, and the time of the clock. -/
structure LinkAction (Task : Type) where
  now : ℤ
  event : Event Task

namespace State

variable {Task : Type} [DecidableEq Task] (state : State Task)

def advance (task : Task) (phase : Phase) (db : SqliteConnection (Journal Task)) : State Task :=
  { db := db, tasks := Function.update state.tasks task (some phase) }

/-- `consume_link_code`, up to its first statement. -/
def consume (task : Task) (codeHash platformKey : String) (now : ℤ) : State Task :=
  match parsePlatformKey platformKey with
  | none =>
    state.advance task (.returned codeHash (.error .valueError)) state.db
  | some key =>
    state.advance task (.running ⟨codeHash, key, now⟩ .called) state.db

/-- The next statement of a call. -/
def resume (task : Task) (call : Call) (stage : Stage) (now : ℤ) : Option Fault → State Task
  | some fault =>
    state.advance task (.returned call.codeHash (.error fault.error))
      (fault.apply state.db (stage.statement task call))
  | none =>
    let phase := match stage.next call now state.db.current.tables with
      | .error raised => .returned call.codeHash (.error raised)
      | .ok (.inl following) => .running call following
      | .ok (.inr userId) => .returned call.codeHash (.ok userId)
    state.advance task phase (((stage.statement task call).exec state.db).getD state.db)

/-- The statement of another call. -/
def executeOther (statement : OtherStatement) : Option Fault → State Task
  | some fault =>
    { state with db := fault.apply state.db statement.statement }
  | none =>
    { state with db := (statement.statement.exec state.db).getD state.db }

def step (action : LinkAction Task) : Option (State Task) :=
  match action.event with
  | .consume task codeHash platformKey =>
    match state.tasks task with
    | none => some (state.consume task codeHash platformKey action.now)
    | some _ => none
  | .resume task fault =>
    match state.tasks task with
    | some (.running call stage) =>
      some (state.resume task call stage action.now fault)
    | _ => none
  | .other statement fault => some (state.executeOther statement fault)
  | .store change =>
    if state.db.inTransaction then none
    else some { state with
      db := opened (state.db.current.add none change.change) }

end State

/-- No call is under way. -/
def linkSystem (Task : Type) [DecidableEq Task] :
    TransitionSystem (State Task) (LinkAction Task) where
  initial state := ∃ tables, state.db = opened ⟨tables, []⟩ ∧ ∀ task, state.tasks task = none
  step := State.step

/-! ## What the calls promise -/

namespace State

variable {Task : Type} (state : State Task)

/-- One of the calls for a code succeeds at most, and nothing is left of a call
that has raised: neither committed, nor to be committed by a later call. -/
structure Honest : Prop where
  once : ∀ task other codeHash userId otherId,
    state.tasks task = some (.returned codeHash (.ok userId)) →
      state.tasks other = some (.returned codeHash (.ok otherId)) → task = other
  undone : ∀ task codeHash raised, state.tasks task = some (.returned codeHash (.error raised)) →
      ∀ entry ∈ state.db.current.entries ++ state.db.committed.entries, entry.1 ≠ some task

/-! ## The condition on the steps -/

end State

/-- The claim of the call, if it has one, is in the journal. -/
def Phase.isRecorded {Task : Type} (journal : Journal Task) : Phase → Bool
  | .running call stage =>
    !stage.hasClaim || journal.tables.isConsumed call.codeHash
  | .returned _ _ => true

/-- The key of a call that has claimed its code belongs to another user. -/
def Stage.conflicts (call : Call) (tables : Tables) : Stage → Bool
  | .claimed userId => (tables.owner call.key).any (· ≠ userId)
  | .attaching _ [] true => (tables.owner call.key).isSome
  | _ => false

namespace State

variable {Task : Type} (state : State Task)

/-- A rollback does not undo the claims of calls other than this one. -/
def OthersRecorded (task : Option Task) : Prop :=
  ∀ other, some other ≠ task → ∀ phase ∈ state.tasks other,
    phase.isRecorded state.db.committed = true

/-- The call does not fail after it has claimed the code, unless SQLite rolls
its transaction back, of which nothing has been committed. -/
def MayResume (task : Task) (call : Call) (stage : Stage) : Option Fault → Prop
  | none => stage.conflicts call state.db.current.tables = false
  | some .abandoned => state.OthersRecorded (some task) ∧
      ∀ entry ∈ state.db.committed.entries, entry.1 ≠ some task
  | some (.interrupted true) => stage.hasClaim = false ∧
      (stage = .called ∨ state.db.current.tables.isOpen call.codeHash call.startedAt = false)
  | some .refused | some .rejected | some (.interrupted false) =>
    stage.hasClaim = false

def MayHappen (action : LinkAction Task) : Prop :=
  match action.event with
  | .resume task fault => ∀ phase ∈ state.tasks task,
      match phase with
      | .running call stage => state.MayResume task call stage fault
      | .returned _ _ => True
  | .other _ fault => fault = some .abandoned → state.OthersRecorded none
  | .consume _ _ _ | .store _ => True

end State

end LinkCodes

end RoxabiFactory
