import RoxabiFactory.BlobManifest

/-!
# The files of the blob store

The path of a content resolves to itself, and `_write_blob_file` touches no
other path.  After any number of its calls the path is as it was, or removed,
or a file that it has created; such a file is whole from some call on, unless
`os.write` has been short or the process stops too early.
-/

namespace RoxabiFactory

namespace FsBlobStore

variable {store : FsBlobStore}

section Paths

theorem isName_of_noDot {part : String} (nonempty : part ≠ "")
    (noDot : '.' ∉ part.toList) : IsName part := by
  refine ⟨?_, nonempty, ?_⟩
  · rintro rfl
    exact noDot (by decide)
  · rintro rfl
    exact noDot (by decide)

theorem noDot_hexdigest (sha256 : Sha256) (data : Bytes) :
    '.' ∉ (sha256.hexdigest data).toList := by
  intro member
  have digit := sha256.isHex data '.' member
  revert digit
  decide

theorem hexdigest_ne_empty (sha256 : Sha256) (data : Bytes) : sha256.hexdigest data ≠ "" := by
  intro empty
  have length := sha256.length_hexdigest data
  simp [empty] at length

theorem isName_hexdigest (sha256 : Sha256) (data : Bytes) : IsName (sha256.hexdigest data) :=
  isName_of_noDot (hexdigest_ne_empty sha256 data) (noDot_hexdigest sha256 data)

theorem isName_shardFor (sha256 : Sha256) (data : Bytes) :
    IsName (shardFor (sha256.hexdigest data)) := by
  apply isName_of_noDot
  · intro empty
    have length := congrArg (fun text => text.toList.length) empty
    simp [shardFor, sha256.length_hexdigest data] at length
  · intro member
    rw [shardFor, String.toList_ofList] at member
    exact noDot_hexdigest sha256 data (List.mem_of_mem_take member)

theorem resolve_append (path : Path) {part : String} (named : IsName part) :
    resolve (path ++ [part]) = resolve path ++ [part] := by
  simp [resolve, List.foldl_append, named.1, named.2.1, named.2.2]

theorem resolve_blobPath (data : Bytes) : resolve (store.blobPath (store.sha256.hexdigest data)) =
      store.blobPath (store.sha256.hexdigest data) := by
  have shard := isName_shardFor store.sha256 data
  have name := isName_hexdigest store.sha256 data
  have parts : ∀ first second : String,
      store.root ++ [first, second] = (store.root ++ [first]) ++ [second] := by
    simp
  rw [blobPath, parts, resolve_append _ name, resolve_append _ shard, store.resolved]

theorem safeResolveInRoot_blobPath (data : Bytes) :
    store.safeResolveInRoot (store.blobPath (store.sha256.hexdigest data)) =
      some (store.blobPath (store.sha256.hexdigest data)) := by
  rw [safeResolveInRoot, resolve_blobPath, if_pos]
  exact List.prefix_append _ _

theorem safeResolveInRoot_of_placed {row : BlobRow} (placed : row.Placed store) :
    store.safeResolveInRoot row.storePath =
      some (store.blobPath row.contentHash) := by
  obtain ⟨path, data, hashed⟩ := placed
  rw [path, hashed, safeResolveInRoot_blobPath]

/-- `get` reads the file of the row. -/
theorem get_of_placed {state : State} {row : BlobRow} {content : Bytes} (placed : row.Placed store)
    (stored : state.files (store.blobPath row.contentHash) = some content) :
    store.get state row.storePath = .ok content := by
  rw [get, safeResolveInRoot_of_placed placed]
  simp [stored]

theorem blobPath_injective {first second : String}
    (same : store.blobPath first = store.blobPath second) : first = second := by
  simp only [blobPath, List.append_cancel_left_eq, List.cons.injEq] at same
  exact same.2.1

end Paths

/-- The path that a call is about. -/
def FileOp.path : FileOp → Path
  | .create path | .append path _ | .sync path | .unlink path => path

theorem FileOp.apply_of_ne {files : Files} {op : FileOp} {path : Path}
    (other : path ≠ op.path) : op.apply files path = files path := by
  cases op <;> simp_all [FileOp.apply, FileOp.path]

theorem applyOps_of_ne {ops : List FileOp} {path : Path}
    (others : ∀ op ∈ ops, path ≠ op.path) (files : Files) :
    applyOps files ops path = files path := by
  induction ops generalizing files with
  | nil => rfl
  | cons op ops ih =>
    have first : op.apply files path = files path :=
      FileOp.apply_of_ne (others op List.mem_cons_self)
    have rest := ih (fun other member =>
      others other (List.mem_cons_of_mem _ member)) (op.apply files)
    rw [← first]
    exact rest

/-- `os.open` creates the file. -/
def Creates (files : Files) (path : Path) (answers : WriteAnswers) : Prop :=
  answers.mkdir = .ok () ∧ answers.create = .ok () ∧ files path = none

/-- The number of the calls after which a file that was created is whole or
removed again; there is none when it stays as it is. -/
def WriteAnswers.settledAfter (answers : WriteAnswers) (data : Bytes) : Option Nat :=
  match answers.write, answers.sync, answers.unlink with
  | .ok count, .ok (), _ => if data.length ≤ count then some 2 else none
  | .ok count, .error _, .ok () =>
    if data.length ≤ count then some 2 else some 3
  | .ok count, .error _, .error _ =>
    if data.length ≤ count then some 2 else none
  | .error _, _, .ok () => some 2
  | .error _, _, .error _ => none

/-- What `_write_blob_file` does, by how far it comes. -/
inductive WriteRun (files : Files) (path : Path) (data : Bytes)
    (answers : WriteAnswers) : List FileOp → Except BlobError Unit → Prop
  | adopted (known : (files path).isSome) : WriteRun files path data answers [] (.ok ())
  | refused (error : BlobError) : WriteRun files path data answers [] (.error error)
  | removed (error : BlobError) : WriteRun files path data answers [.unlink path] (.error error)
  | whole (creates : Creates files path answers) (count : Nat)
      (written : answers.write = .ok count) (synced : answers.sync = .ok ()) :
      WriteRun files path data answers
        [.create path, .append path (data.take count), .sync path] (.ok ())
  | failed (creates : Creates files path answers) (refused : OsError)
      (noWrite : answers.write = .error refused) (error : BlobError)
      (removes : answers.unlink = .ok ()) :
      WriteRun files path data answers [.create path, .unlink path] (.error error)
  | failedLeft (creates : Creates files path answers) (refused : OsError)
      (noWrite : answers.write = .error refused) (error : BlobError)
      (stays : ∃ other, answers.unlink = .error other) :
      WriteRun files path data answers [.create path] (.error error)
  | unsynced (creates : Creates files path answers) (count : Nat)
      (written : answers.write = .ok count) (refused : OsError)
      (noSync : answers.sync = .error refused) (error : BlobError)
      (removes : answers.unlink = .ok ()) :
      WriteRun files path data answers [.create path, .append path (data.take count), .unlink path]
        (.error error)
  | unsyncedLeft (creates : Creates files path answers) (count : Nat)
      (written : answers.write = .ok count) (refused : OsError)
      (noSync : answers.sync = .error refused) (error : BlobError)
      (stays : ∃ other, answers.unlink = .error other) :
      WriteRun files path data answers [.create path, .append path (data.take count)] (.error error)

theorem writeRun_of_writeBlobFile {files : Files} {path : Path} {data : Bytes}
    {contentHash : String} {answers : WriteAnswers} {ops : List FileOp}
    {outcome : Except BlobError Unit}
    (runs : writeBlobFile files path data contentHash answers = (ops, outcome)) :
    WriteRun files path data answers ops outcome := by
  unfold writeBlobFile at runs
  cases mkdir : answers.mkdir with
  | error error =>
    simp only [mkdir] at runs
    obtain ⟨rfl, rfl⟩ := Prod.mk.inj runs
    exact .refused _
  | ok made =>
    cases create : answers.create with
    | error error =>
      cases unlink : answers.unlink with
      | error other =>
        simp only [mkdir, create, cleanUp, unlink] at runs
        obtain ⟨rfl, rfl⟩ := Prod.mk.inj runs
        exact .refused _
      | ok done =>
        simp only [mkdir, create, cleanUp, unlink] at runs
        obtain ⟨rfl, rfl⟩ := Prod.mk.inj runs
        exact .removed _
    | ok created =>
      by_cases known : (files path).isSome
      · simp only [mkdir, create, if_pos known] at runs
        obtain ⟨rfl, rfl⟩ := Prod.mk.inj runs
        exact .adopted known
      · have creates : Creates files path answers := ⟨mkdir, create, by simpa using known⟩
        simp only [mkdir, create, if_neg known] at runs
        cases write : answers.write with
        | error error =>
          cases unlink : answers.unlink with
          | error other =>
            simp only [write, cleanUp, unlink] at runs
            obtain ⟨rfl, rfl⟩ := Prod.mk.inj runs
            exact .failedLeft creates error write _ ⟨other, unlink⟩
          | ok done =>
            simp only [write, cleanUp, unlink] at runs
            obtain ⟨rfl, rfl⟩ := Prod.mk.inj runs
            exact .failed creates error write _ unlink
        | ok count =>
          cases sync : answers.sync with
          | ok synced =>
            simp only [write, sync] at runs
            obtain ⟨rfl, rfl⟩ := Prod.mk.inj runs
            exact .whole creates count write sync
          | error error =>
            cases unlink : answers.unlink with
            | error other =>
              simp only [write, sync, cleanUp, unlink] at runs
              obtain ⟨rfl, rfl⟩ := Prod.mk.inj runs
              exact .unsyncedLeft creates count write error sync _ ⟨other, unlink⟩
            | ok done =>
              simp only [write, sync, cleanUp, unlink] at runs
              obtain ⟨rfl, rfl⟩ := Prod.mk.inj runs
              exact .unsynced creates count write error sync _ unlink

section Run

variable {files : Files} {path : Path} {data : Bytes} {answers : WriteAnswers}
variable {ops : List FileOp} {outcome : Except BlobError Unit}

theorem WriteRun.applyOps_take_of_ne {other : Path}
    (runs : WriteRun files path data answers ops outcome)
    (different : other ≠ path) (calls : Nat) :
    applyOps files (ops.take calls) other = files other := by
  apply applyOps_of_ne
  intro op member
  have called := List.mem_of_mem_take member
  have about : op.path = path := by
    cases runs <;> simp only [List.mem_cons, List.not_mem_nil, or_false]
      at called <;> rcases called with rfl | rfl | rfl <;> rfl
  rw [about]
  exact different

theorem WriteRun.length_le (runs : WriteRun files path data answers ops outcome) :
    ops.length ≤ 3 := by
  cases runs <;> simp

/-- `_write_blob_file` returns with a file in place. -/
theorem WriteRun.isSome_of_ok {value : Unit}
    (runs : WriteRun files path data answers ops (.ok value)) :
    (applyOps files ops path).isSome := by
  cases runs with
  | adopted known => exact known
  | whole creates count written synced =>
    simp [applyOps, FileOp.apply]

/-- The process gets past the calls between which a created file is neither
whole nor removed. -/
def WholeAfter (files : Files) (path : Path) (data : Bytes)
    (answers : WriteAnswers) (calls : Nat) : Prop :=
  Creates files path answers → calls = 0 ∨ data = [] ∨
      ∃ settled ∈ answers.settledAfter data, settled ≤ calls

theorem WriteAnswers.two_le_settledAfter {settled : Nat}
    (settles : settled ∈ answers.settledAfter data) : 2 ≤ settled := by
  simp only [settledAfter, Option.mem_def] at settles
  split at settles
  all_goals try split at settles
  all_goals simp only [Option.some.injEq, reduceCtorEq] at settles
  all_goals omega

theorem WriteAnswers.whole_of_settledAfter {settled count : Nat}
    (settles : settled ∈ answers.settledAfter data)
    (written : answers.write = .ok count) :
    data.take count = data ∨ settled = 3 ∧ answers.unlink = .ok () ∧
      ∃ error, answers.sync = .error error := by
  by_cases full : data.length ≤ count
  · exact .inl (List.take_of_length_le full)
  · right
    cases sync : answers.sync <;> cases unlink : answers.unlink <;>
      simp [settledAfter, written, sync, unlink, full] at settles ⊢
    exact settles.symm

theorem applyOps_created (files : Files) (path : Path) (content : Bytes) :
    applyOps files [.create path] path = some [] ∧
      applyOps files [.create path, .append path content] path = some content ∧
      applyOps files [.create path, .append path content, .sync path] path = some content ∧
      applyOps files [.create path, .append path content, .unlink path] path =
        none := by
  simp [applyOps, FileOp.apply]

theorem WriteRun.whole_of_settled
    (runs : WriteRun files path data answers ops outcome) {calls : Nat}
    (settled : WholeAfter files path data answers calls) :
    applyOps files (ops.take calls) path = files path ∨
      applyOps files (ops.take calls) path = none ∨
      applyOps files (ops.take calls) path = some data := by
  -- a call after which the file is empty, for a content that may be empty
  have early : ∀ {made : Nat}, made ≤ 1 → calls = made →
      Creates files path answers → made = 0 ∨ data = [] := by
    intro made few same creates
    rcases settled creates with none | empty | ⟨limit, settles, reached⟩
    · exact .inl (same ▸ none)
    · exact .inr empty
    · have := WriteAnswers.two_le_settledAfter settles
      omega
  cases runs with
  | adopted | refused => exact .inl (by simp [applyOps])
  | removed error =>
    rcases calls with _ | calls
    · exact .inl rfl
    · exact .inr (.inl (by simp [applyOps, FileOp.apply]))
  | whole creates count written synced =>
    obtain ⟨empty, afterWrite, afterSync, -⟩ :=
      applyOps_created files path (data.take count)
    have full : 2 ≤ calls → data.take count = data := by
      intro enough
      rcases settled creates with none | rfl | ⟨limit, settles, reached⟩
      · omega
      · simp
      · rcases WriteAnswers.whole_of_settledAfter settles written with
          same | ⟨-, -, error, refused⟩
        · exact same
        · simp [synced] at refused
    rcases calls with _ | _ | _ | calls
    · exact .inl rfl
    · rcases @early 1 (by omega) rfl creates with absurd | rfl
      · simp at absurd
      · exact .inr (.inr empty)
    · rw [full (by omega)] at afterWrite ⊢
      exact .inr (.inr afterWrite)
    · rw [full (by omega)] at afterSync ⊢
      exact .inr (.inr (by simpa using afterSync))
  | failed creates refused noWrite error removes =>
    rcases calls with _ | _ | calls
    · exact .inl rfl
    · rcases @early 1 (by omega) rfl creates with absurd | rfl
      · simp at absurd
      · exact .inr (.inr (by simp [applyOps, FileOp.apply]))
    · exact .inr (.inl (by simp [applyOps, FileOp.apply]))
  | failedLeft creates refused noWrite error stays =>
    obtain ⟨other, stays⟩ := stays
    rcases calls with _ | calls
    · exact .inl rfl
    · rcases settled creates with absurd | rfl | ⟨limit, settles, -⟩
      · simp at absurd
      · exact .inr (.inr (by simp [applyOps, FileOp.apply]))
      · simp [WriteAnswers.settledAfter, noWrite, stays] at settles
  | unsynced creates count written refused noSync error removes =>
    obtain ⟨empty, afterWrite, -, afterUnlink⟩ :=
      applyOps_created files path (data.take count)
    rcases calls with _ | _ | _ | calls
    · exact .inl rfl
    · rcases @early 1 (by omega) rfl creates with absurd | rfl
      · simp at absurd
      · exact .inr (.inr empty)
    · rcases settled creates with absurd | rfl | ⟨limit, settles, reached⟩
      · simp at absurd
      · exact .inr (.inr (by simpa using afterWrite))
      · rcases WriteAnswers.whole_of_settledAfter settles written with
          same | ⟨rfl, -⟩
        · rw [same] at afterWrite ⊢
          exact .inr (.inr afterWrite)
        · omega
    · exact .inr (.inl (by simpa using afterUnlink))
  | unsyncedLeft creates count written refused noSync error stays =>
    obtain ⟨other, stays⟩ := stays
    obtain ⟨empty, afterWrite, -⟩ :=
      applyOps_created files path (data.take count)
    rcases calls with _ | _ | calls
    · exact .inl rfl
    · rcases @early 1 (by omega) rfl creates with absurd | rfl
      · simp at absurd
      · exact .inr (.inr empty)
    · rcases settled creates with absurd | rfl | ⟨limit, settles, reached⟩
      · simp at absurd
      · exact .inr (.inr (by simpa using afterWrite))
      · rcases WriteAnswers.whole_of_settledAfter settles written with
          same | ⟨-, removes, -⟩
        · rw [same] at afterWrite ⊢
          exact .inr (.inr (by simpa using afterWrite))
        · simp [stays] at removes

end Run

end FsBlobStore

end RoxabiFactory
