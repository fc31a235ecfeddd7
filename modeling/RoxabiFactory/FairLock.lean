import Mathlib.Data.List.Basic

/-!
# Fair locks of an event loop

A lock hands itself over in the order in which tasks ask for it.  Whoever
releases it wakes the first waiter, and between that moment and the step of
the woken task the lock is free; a task that asks meanwhile still waits.  A
cancelled waiter stays in the line until its own step removes it.
-/

namespace RoxabiFactory

inductive Future
  | pending
  | set
  | cancelled
  deriving DecidableEq, Repr

structure Waiter (Task : Type*) where
  task : Task
  future : Future := .pending
  /-- The task is cancelled after its future is done. -/
  mustCancel : Bool := false
  deriving DecidableEq

namespace Waiter

variable {Task : Type*}

/-- `cancel` of the task that waits. -/
def cancel (waiter : Waiter Task) : Waiter Task :=
  match waiter.future with
  | .pending => { waiter with future := .cancelled }
  | .set | .cancelled => { waiter with mustCancel := true }

/-- The wait has not been cancelled. -/
def Live (waiter : Waiter Task) : Prop := waiter.future ≠ .cancelled ∧ waiter.mustCancel = false

@[simp]
theorem task_cancel (waiter : Waiter Task) : waiter.cancel.task = waiter.task := by
  unfold cancel
  split <;> rfl

theorem not_live_cancel (waiter : Waiter Task) : ¬ waiter.cancel.Live := by
  unfold cancel Live
  split <;> simp

theorem future_cancel_eq_set {waiter : Waiter Task} :
    waiter.cancel.future = .set ↔ waiter.future = .set := by
  unfold cancel
  split <;> simp_all

end Waiter

/-- `asyncio.Lock`. -/
structure FairLock (Task : Type*) where
  locked : Bool := false
  waiters : List (Waiter Task) := []

namespace FairLock

variable {Task : Type*}

/-- `acquire` up to its wait; tells whether the lock is taken. -/
def acquire (lock : FairLock Task) (task : Task) : Bool × FairLock Task :=
  if !lock.locked && lock.waiters.all (·.future = .cancelled) then
    (true, { lock with locked := true })
  else (false, { lock with waiters := lock.waiters ++ [{ task := task }] })

/-- `_wake_up_first`. -/
def wakeUpFirst (lock : FairLock Task) : FairLock Task :=
  match lock.waiters with
  | [] => lock
  | first :: rest =>
    if first.future = .pending then
      { lock with waiters := { first with future := .set } :: rest }
    else lock

def release (lock : FairLock Task) : FairLock Task :=
  wakeUpFirst { lock with locked := false }

section Waiters

variable [DecidableEq Task]

def remove (lock : FairLock Task) (task : Task) : FairLock Task :=
  { lock with waiters := lock.waiters.filter (·.task ≠ task) }

/-- The rest of `acquire` when the future is done; tells whether the lock is
taken. -/
def resume (lock : FairLock Task) (waiter : Waiter Task) : Bool × FairLock Task :=
  let left := lock.remove waiter.task
  if waiter.future = .cancelled ∨ waiter.mustCancel then
    (false, if left.locked then left else left.wakeUpFirst)
  else (true, { left with locked := true })

def cancel (lock : FairLock Task) (task : Task) : FairLock Task :=
  { lock with
    waiters := lock.waiters.map fun waiter =>
      if waiter.task = task then waiter.cancel else waiter }

end Waiters

/-- The task stands in the line. -/
def Waits (lock : FairLock Task) (task : Task) : Prop := ∃ waiter ∈ lock.waiters, waiter.task = task

/-- The task stands in the line and has not been cancelled. -/
def WaitsLive (lock : FairLock Task) (task : Task) : Prop :=
  ∃ waiter ∈ lock.waiters, waiter.task = task ∧ waiter.Live

variable {lock : FairLock Task} {task other : Task} {waiter : Waiter Task}

theorem WaitsLive.waits (live : lock.WaitsLive task) : lock.Waits task := by
  obtain ⟨waiter, member, same, -⟩ := live
  exact ⟨waiter, member, same⟩

theorem waits_acquire (waits : (lock.acquire task).2.Waits other) :
    lock.Waits other ∨ other = task ∧ (lock.acquire task).1 = false := by
  unfold acquire at waits ⊢
  split at waits
  · exact .inl waits
  · rename_i waiting
    rw [if_neg waiting]
    obtain ⟨waiter, member, same⟩ := waits
    rcases List.mem_append.mp member with old | new
    · exact .inl ⟨waiter, old, same⟩
    · obtain rfl := List.mem_singleton.mp new
      exact .inr ⟨same.symm, rfl⟩

theorem waitsLive_acquire (live : (lock.acquire task).2.WaitsLive other) :
    lock.WaitsLive other ∨ other = task := by
  unfold acquire at live
  split at live
  · exact .inl live
  · obtain ⟨waiter, member, same, live⟩ := live
    rcases List.mem_append.mp member with old | new
    · exact .inl ⟨waiter, old, same, live⟩
    · obtain rfl := List.mem_singleton.mp new
      exact .inr same.symm

theorem locked_wakeUpFirst (lock : FairLock Task) : lock.wakeUpFirst.locked = lock.locked := by
  unfold wakeUpFirst
  split
  · rfl
  · split <;> rfl

theorem waits_wakeUpFirst : lock.wakeUpFirst.Waits task ↔ lock.Waits task := by
  unfold wakeUpFirst Waits
  split
  · rfl
  · rename_i first rest waiting
    split
    · simp [waiting]
    · rfl

theorem waitsLive_wakeUpFirst :
    lock.wakeUpFirst.WaitsLive task ↔ lock.WaitsLive task := by
  unfold wakeUpFirst WaitsLive
  split
  · rfl
  · rename_i first rest waiting
    split
    · rename_i pending
      simp [waiting, Waiter.Live, pending]
    · rfl

theorem waits_release : lock.release.Waits task ↔ lock.Waits task := waits_wakeUpFirst

theorem waitsLive_release : lock.release.WaitsLive task ↔ lock.WaitsLive task :=
  waitsLive_wakeUpFirst

section Waiters

variable [DecidableEq Task]

theorem waits_remove : (lock.remove other).Waits task ↔ lock.Waits task ∧ task ≠ other := by
  simp only [Waits, remove, List.mem_filter, decide_eq_true_eq]
  constructor
  · rintro ⟨waiter, ⟨member, different⟩, rfl⟩
    exact ⟨⟨waiter, member, rfl⟩, different⟩
  · rintro ⟨⟨waiter, member, rfl⟩, different⟩
    exact ⟨waiter, ⟨member, different⟩, rfl⟩

theorem waitsLive_remove (live : (lock.remove other).WaitsLive task) :
    lock.WaitsLive task := by
  obtain ⟨waiter, member, same, live⟩ := live
  exact ⟨waiter, (List.mem_filter.mp member).1, same, live⟩

theorem waits_resume : (lock.resume waiter).2.Waits task ↔
      lock.Waits task ∧ task ≠ waiter.task := by
  rw [← waits_remove]
  unfold resume
  dsimp only
  split
  · dsimp only
    split
    · rfl
    · exact waits_wakeUpFirst
  · rfl

theorem waitsLive_resume (live : (lock.resume waiter).2.WaitsLive task) :
    lock.WaitsLive task := by
  apply @waitsLive_remove _ _ _ waiter.task
  unfold resume at live
  dsimp only at live
  split at live
  · dsimp only at live
    split at live
    · exact live
    · exact waitsLive_wakeUpFirst.mp live
  · exact live

theorem waits_cancel : (lock.cancel other).Waits task ↔ lock.Waits task := by
  have kept (waiter : Waiter Task) : (if waiter.task = other then waiter.cancel else waiter).task =
        waiter.task := by
    split <;> simp
  simp only [Waits, cancel, List.mem_map, exists_exists_and_eq_and, kept]

theorem locked_resume : (lock.resume waiter).2.locked =
      (lock.locked || (lock.resume waiter).1) := by
  unfold resume
  dsimp only
  split
  · dsimp only
    split
    · simp [remove]
    · simp [locked_wakeUpFirst, remove]
  · simp

theorem waitsLive_cancel (live : (lock.cancel other).WaitsLive task) :
    lock.WaitsLive task := by
  obtain ⟨waiter, member, same, live⟩ := live
  obtain ⟨before, old, rfl⟩ := List.mem_map.mp member
  split at live
  · exact absurd live (Waiter.not_live_cancel before)
  · rename_i different
    rw [if_neg different] at same
    exact ⟨before, old, same, live⟩

end Waiters

/-- The line is in the order of the tasks, and a woken waiter is its head and
finds the lock free. -/
structure Orderly [LT Task] (lock : FairLock Task) : Prop where
  sorted : lock.waiters.Pairwise fun first second => first.task < second.task
  woken : ∀ waiter ∈ lock.waiters, waiter.future = .set →
    lock.locked = false ∧ lock.waiters.head? = some waiter

theorem locked_of_acquire (taken : (lock.acquire task).1 = true) :
    lock.locked = false ∧ ∀ other, ¬ lock.WaitsLive other := by
  unfold acquire at taken
  split at taken
  · rename_i free
    simp only [Bool.and_eq_true, Bool.not_eq_true', List.all_eq_true,
      decide_eq_true_eq] at free
    refine ⟨free.1, ?_⟩
    rintro other ⟨waiter, member, -, live⟩
    exact live.1 (free.2 waiter member)
  · cases taken

theorem not_waitsLive_acquire (taken : (lock.acquire task).1 = true) :
    ¬ (lock.acquire task).2.WaitsLive other := by
  have free := (locked_of_acquire taken).2 other
  unfold acquire at taken ⊢
  split at taken
  · rename_i granted
    rw [if_pos granted]
    exact free
  · cases taken

theorem locked_acquire : (lock.acquire task).2.locked = (lock.locked || (lock.acquire task).1) := by
  unfold acquire
  split <;> simp

namespace Orderly

theorem empty [LT Task] : Orderly ({ } : FairLock Task) := ⟨.nil, by simp⟩

theorem acquire [LT Task] (orderly : lock.Orderly)
    (later : ∀ other, lock.Waits other → other < task) :
    (lock.acquire task).2.Orderly := by
  unfold FairLock.acquire
  split
  · rename_i free
    simp only [Bool.and_eq_true, Bool.not_eq_true', List.all_eq_true,
      decide_eq_true_eq] at free
    refine ⟨orderly.sorted, ?_⟩
    intro waiter member set
    rw [free.2 waiter member] at set
    cases set
  · constructor
    · refine List.pairwise_append.mpr ⟨orderly.sorted, List.pairwise_singleton _ _, ?_⟩
      intro first member second new
      obtain rfl := List.mem_singleton.mp new
      exact later _ ⟨first, member, rfl⟩
    · intro waiter member set
      rcases List.mem_append.mp member with old | new
      · obtain ⟨free, head⟩ := orderly.woken waiter old set
        exact ⟨free, by simp [List.head?_append, head]⟩
      · obtain rfl := List.mem_singleton.mp new
        cases set

theorem wakeUpFirst [LT Task] (orderly : lock.Orderly)
    (free : lock.locked = false) : lock.wakeUpFirst.Orderly := by
  unfold FairLock.wakeUpFirst
  split
  · exact orderly
  · rename_i first rest waiting
    have sorted := orderly.sorted
    rw [waiting] at sorted
    split
    · rename_i pending
      constructor
      · obtain ⟨before, sorted⟩ := List.pairwise_cons.mp sorted
        exact List.pairwise_cons.mpr ⟨before, sorted⟩
      · intro waiter member set
        refine ⟨free, ?_⟩
        rcases List.mem_cons.mp member with rfl | old
        · rfl
        · -- the head was not woken, so nobody was
          have head := (orderly.woken waiter
            (by rw [waiting]; exact List.mem_cons_of_mem _ old) set).2
          rw [waiting, List.head?_cons, Option.some.injEq] at head
          rw [head, set] at pending
          cases pending
    · exact orderly

theorem release [LT Task] (orderly : lock.Orderly) :
    lock.release.Orderly := by
  apply wakeUpFirst
  · refine ⟨orderly.sorted, ?_⟩
    intro waiter member set
    exact ⟨rfl, (orderly.woken waiter member set).2⟩
  · rfl

section Waiters

variable [DecidableEq Task]

theorem future_of_resume (done : waiter.future ≠ .pending)
    (taken : (lock.resume waiter).1 = true) : waiter.future = .set := by
  unfold FairLock.resume at taken
  dsimp only at taken
  split at taken
  · cases taken
  · rename_i live
    cases future : waiter.future with
    | pending => exact absurd future done
    | set => rfl
    | cancelled => exact absurd (.inl future) live

theorem live_of_resume (done : waiter.future ≠ .pending)
    (taken : (lock.resume waiter).1 = true) : waiter.Live := by
  have set := future_of_resume done taken
  refine ⟨by rw [set]; simp, ?_⟩
  unfold FairLock.resume at taken
  by_contra mustCancel
  rw [if_pos (.inr (by simpa using mustCancel))] at taken
  cases taken

variable [LT Task]

/-- A waiter that takes the lock finds it free and is the head of the line.
-/
theorem locked_of_resume (orderly : lock.Orderly)
    (member : waiter ∈ lock.waiters) (done : waiter.future ≠ .pending)
    (taken : (lock.resume waiter).1 = true) :
    lock.locked = false ∧
      ∀ other, lock.Waits other → other ≠ waiter.task → waiter.task < other := by
  obtain ⟨free, head⟩ := orderly.woken waiter member (future_of_resume done taken)
  refine ⟨free, ?_⟩
  rintro other ⟨later, stands, rfl⟩ different
  obtain ⟨rest, waiting⟩ := List.head?_eq_some_iff.mp head
  have sorted := orderly.sorted
  rw [waiting] at sorted stands
  rcases List.mem_cons.mp stands with rfl | behind
  · exact absurd rfl different
  · exact (List.pairwise_cons.mp sorted).1 later behind

/-- Another woken waiter stays the head when a task leaves the line. -/
theorem remove (orderly : lock.Orderly) (task : Task) : (lock.remove task).Orderly := by
  refine ⟨orderly.sorted.filter _, ?_⟩
  intro waiter member set
  obtain ⟨member, kept⟩ := List.mem_filter.mp member
  obtain ⟨free, head⟩ := orderly.woken waiter member set
  refine ⟨free, ?_⟩
  obtain ⟨rest, waiting⟩ := List.head?_eq_some_iff.mp head
  simp only [FairLock.remove, waiting]
  rw [List.filter_cons, if_pos kept, List.head?_cons]

theorem resume (orderly : lock.Orderly) (member : waiter ∈ lock.waiters)
    (done : waiter.future ≠ .pending) :
    (lock.resume waiter).2.Orderly := by
  have left := orderly.remove waiter.task
  by_cases taken : (lock.resume waiter).1 = true
  · have woken := orderly.woken waiter member (future_of_resume done taken)
    unfold FairLock.resume at taken ⊢
    dsimp only at taken ⊢
    split
    · rename_i cancelled
      rw [if_pos cancelled] at taken
      cases taken
    · refine ⟨left.sorted, ?_⟩
      intro other stands set
      obtain ⟨old, kept⟩ := List.mem_filter.mp stands
      have head := (orderly.woken other old set).2
      rw [woken.2, Option.some.injEq] at head
      exact absurd (congrArg Waiter.task head.symm) (of_decide_eq_true kept)
  · unfold FairLock.resume at taken ⊢
    dsimp only at taken ⊢
    split
    · dsimp only
      split
      · exact left
      · rename_i free
        exact left.wakeUpFirst (by simpa using free)
    · rename_i live
      exact absurd (by rw [if_neg live]) taken

theorem cancel (orderly : lock.Orderly) (task : Task) : (lock.cancel task).Orderly := by
  have kept (waiter : Waiter Task) : (if waiter.task = task then waiter.cancel else waiter).task =
        waiter.task := by
    split <;> simp
  constructor
  · exact List.pairwise_map.mpr (by simpa only [kept] using orderly.sorted)
  · intro waiter member set
    obtain ⟨before, old, rfl⟩ := List.mem_map.mp member
    have woken : before.future = .set := by
      split at set
      · exact Waiter.future_cancel_eq_set.mp set
      · exact set
    obtain ⟨free, head⟩ := orderly.woken before old woken
    refine ⟨free, ?_⟩
    simp only [FairLock.cancel, List.head?_map, head, Option.map_some]

end Waiters

end Orderly

end FairLock

end RoxabiFactory
