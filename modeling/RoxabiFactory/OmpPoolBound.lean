import Mathlib.Data.List.Nodup
import RoxabiFactory.OmpPool

/-!
# Bound, owners and sessions of the omp pool

A slot of the semaphore belongs to one call, and a running client is free or
belongs to the call that has entered.  This is kept as long as a call that
fails leaves no client running and a worker is released by its holder.  A
worker that is replaced because of its prompt gets a new session whatever
session was asked for.
-/

namespace RoxabiFactory

namespace OmpPool

variable {cap : Nat} {state after : State} {call : Call} {rest : List Call}

theorem exists_rest_of_getElem? {calls : List Call} {index : Nat}
    (found : calls[index]? = some call) :
    ∃ rest, calls.Perm (call :: rest) ∧ ∀ other, (calls.set index other).Perm (other :: rest) := by
  obtain ⟨inside, rfl⟩ := List.getElem?_eq_some_iff.mp found
  refine ⟨calls.eraseIdx index, (List.getElem_cons_eraseIdx_perm inside).symm, fun other => ?_⟩
  have bound : index < (calls.set index other).length := by
    simpa using inside
  have perm := List.getElem_cons_eraseIdx_perm bound
  rw [List.getElem_set_self, List.eraseIdx_set_eq] at perm
  exact perm.symm

namespace Point

/-- The call has a slot of the semaphore. -/
def holdsSlot : Point → Bool
  | waiting | released _ | failed => false
  | _ => true

/-- The call has a slot and has looked at the free list. -/
def entered : Point → Bool
  | waiting | granted | released _ | failed => false
  | _ => true

/-- The worker that belongs to the call. -/
def worker : Point → Option Nat
  | disposing worker | launching worker _ | attaching worker _
  | abandoning worker | switching worker | renewing worker
  | reading worker | returned worker => some worker
  | _ => none

/-- The worker that the call has checked out. -/
def tracked : Point → Option Nat
  | switching worker | renewing worker | reading worker
  | returned worker => some worker
  | _ => none

theorem holdsSlot_of_entered {point : Point} (entered : point.entered = true) :
    point.holdsSlot = true := by
  cases point <;> simp_all [Point.entered, holdsSlot]

theorem worker_of_tracked {point : Point} {worker : Nat}
    (tracked : point.tracked = some worker) : point.worker = some worker := by
  cases point <;> simp_all [Point.tracked, Point.worker]

end Point

def held (calls : List Call) : List Nat := calls.filterMap (·.point.worker)

def trackedBy (calls : List Call) : List Nat := calls.filterMap (·.point.tracked)

@[simp]
theorem held_cons (call : Call) (rest : List Call) :
    held (call :: rest) = call.point.worker.toList ++ held rest := by
  cases worker : call.point.worker <;> simp [held, worker]

@[simp]
theorem trackedBy_cons (call : Call) (rest : List Call) :
    trackedBy (call :: rest) = call.point.tracked.toList ++ trackedBy rest := by
  cases tracked : call.point.tracked <;> simp [trackedBy, tracked]

theorem trackedBy_sublist (calls : List Call) : (trackedBy calls).Sublist (held calls) := by
  induction calls with
  | nil => exact .slnil
  | cons call rest ih =>
    rw [trackedBy_cons, held_cons]
    refine List.Sublist.append ?_ ih
    cases tracked : call.point.tracked with
    | none => exact List.nil_sublist _
    | some worker => rw [Point.worker_of_tracked tracked]

/-- A call that resumes a session will get it, on a process with the prompt
that it asked for. -/
def Call.Fits (call : Call) (workers : Nat → Worker) : Prop :=
  match call.point with
  | .disposing _ => call.sessionFile = none
  | .preparing respawned => respawned = true → call.sessionFile = none
  | .launching worker respawned | .attaching worker respawned =>
    (workers worker).startedWith = call.systemPrompt ∧ (respawned = true → call.sessionFile = none)
  | .switching worker => (workers worker).startedWith = call.systemPrompt
  | .renewing worker | .reading worker =>
    (workers worker).startedWith = call.systemPrompt ∧ call.sessionFile = none
  | .returned worker =>
    (workers worker).startedWith = call.systemPrompt ∧ ∀ session, call.sessionFile = some session →
        (workers worker).session = some session
  | _ => True

theorem Call.Fits.of_same {workers others : Nat → Worker} (fits : call.Fits workers)
    (same : ∀ worker, call.point.worker = some worker →
      (others worker).startedWith = (workers worker).startedWith ∧
        (others worker).session = (workers worker).session) :
    call.Fits others := by
  unfold Call.Fits at fits ⊢
  cases point : call.point <;> simp_all [Point.worker]

/-- Slots, workers and sessions are accounted for by the calls and by one
more call, of which `slot` to `tracked` say what it has. -/
structure Accounts (cap : Nat) (state : State) (slot entered : Bool)
    (worker tracked : Option Nat) (rest : List Call) : Prop where
  slots : state.slots + slot.toNat + rest.countP (·.point.holdsSlot) = cap
  room : state.free.length + entered.toNat + rest.countP (·.point.entered) ≤ cap
  owners : (state.free ++ worker.toList ++ held rest).Nodup
  checked : ∀ other, other ∈ state.checkedOut ↔ tracked = some other ∨ other ∈ trackedBy rest
  known : ∀ other ∈ state.free ++ worker.toList ++ held rest, other < state.clients
  running : ∀ other, (state.workers other).running = true →
    other ∈ state.free ++ worker.toList ++ held rest
  prompts : ∀ other, (state.workers other).systemPrompt = (state.workers other).startedWith
  fits : ∀ other ∈ rest, other.Fits state.workers

/-- Slots, workers and sessions are accounted for by the calls. -/
def Sound (cap : Nat) (state : State) (calls : List Call) : Prop :=
  Accounts cap state false false none none calls

theorem sound_cons_iff : Sound cap state (call :: rest) ↔
    Accounts cap state call.point.holdsSlot call.point.entered
      call.point.worker call.point.tracked rest ∧ call.Fits state.workers := by
  have toNat (value : Bool) : value.toNat = if value then 1 else 0 := by
    cases value <;> rfl
  constructor
  · rintro ⟨slots, room, owners, checked, known, running, prompts, fits⟩
    rw [List.countP_cons] at slots room
    rw [List.forall_mem_cons] at fits
    refine ⟨⟨?_, ?_, ?_, ?_, ?_, ?_, prompts, fits.2⟩, fits.1⟩
    · rw [toNat]
      simp only [Bool.toNat_false] at slots
      omega
    · rw [toNat]
      simp only [Bool.toNat_false] at room
      omega
    · simpa using owners
    · simpa using checked
    · simpa using known
    · simpa using running
  · rintro ⟨⟨slots, room, owners, checked, known, running, prompts, others⟩, fits⟩
    rw [toNat] at slots room
    refine ⟨?_, ?_, ?_, ?_, ?_, ?_, prompts, List.forall_mem_cons.mpr ⟨fits, others⟩⟩
    · rw [List.countP_cons]
      simp only [Bool.toNat_false]
      omega
    · rw [List.countP_cons]
      simp only [Bool.toNat_false]
      omega
    · simpa using owners
    · simpa using checked
    · simpa using known
    · simpa using running

theorem Sound.perm {calls others : List Call} (sound : Sound cap state calls)
    (same : calls.Perm others) : Sound cap state others := by
  have heldPerm : (held calls).Perm (held others) := same.filterMap _
  obtain ⟨slots, room, owners, checked, known, running, prompts, fits⟩ := sound
  refine ⟨?_, ?_, ?_, fun other => ?_, fun other member => ?_,
    fun other runs => ?_, prompts, fun other member => ?_⟩
  · rwa [← same.countP_eq]
  · rwa [← same.countP_eq]
  · exact (heldPerm.append_left _).nodup_iff.mp owners
  · have trackedPerm : (trackedBy calls).Perm (trackedBy others) := same.filterMap _
    rw [checked, trackedPerm.mem_iff]
  · exact known other ((heldPerm.append_left _).mem_iff.mpr member)
  · exact (heldPerm.append_left _).mem_iff.mp (running other runs)
  · exact fits other (same.mem_iff.mpr member)

theorem Sound.initial (cap : Nat) : Sound cap { slots := cap } [] := by
  constructor <;> simp [held, trackedBy]

namespace Accounts

variable {slot entered : Bool} {worker tracked : Option Nat} {own : Nat}

theorem takeSlot (accounts : Accounts cap state false entered worker tracked rest)
    {slots : Nat} (available : state.slots = slots + 1) :
    Accounts cap { state with slots := slots } true entered worker tracked
      rest := by
  obtain ⟨count, room, owners, checked, known, running, prompts, fits⟩ := accounts
  refine ⟨?_, room, owners, checked, known, running, prompts, fits⟩
  simp only [Bool.toNat_false, Bool.toNat_true] at count ⊢
  omega

theorem returnSlot (accounts : Accounts cap state true entered worker tracked rest) :
    Accounts cap { state with slots := state.slots + 1 } false false worker
      tracked rest := by
  obtain ⟨count, room, owners, checked, known, running, prompts, fits⟩ := accounts
  refine ⟨?_, ?_, owners, checked, known, running, prompts, fits⟩
  · simp only [Bool.toNat_false, Bool.toNat_true] at count ⊢
    omega
  · simp only [Bool.toNat_false] at room ⊢
    omega

theorem entered_le_slots (accounts : Accounts cap state true false worker tracked rest) :
    rest.countP (·.point.entered) + 1 ≤ cap := by
  have entered : rest.countP (·.point.entered) ≤ rest.countP (·.point.holdsSlot) :=
    List.countP_mono_left fun _ _ => Point.holdsSlot_of_entered
  have slots := accounts.slots
  simp only [Bool.toNat_true] at slots
  omega

theorem popEmpty (accounts : Accounts cap state true false none none rest)
    (empty : state.free = []) :
    Accounts cap state true true none none rest := by
  have room := accounts.entered_le_slots
  refine ⟨accounts.slots, ?_, accounts.owners, accounts.checked,
    accounts.known, accounts.running, accounts.prompts, accounts.fits⟩
  simp only [empty, List.length_nil, Bool.toNat_true]
  omega

theorem pop (accounts : Accounts cap state true false none none rest)
    {others : List Nat} (last : state.free = others ++ [own]) :
    Accounts cap { state with free := others } true true (some own) none
      rest := by
  obtain ⟨count, room, owners, checked, known, running, prompts, fits⟩ := accounts
  refine ⟨count, ?_, ?_, checked, ?_, ?_, prompts, fits⟩
  · simp only [last, List.length_append, List.length_singleton,
      Bool.toNat_false, Bool.toNat_true] at room ⊢
    omega
  · simpa [last] using owners
  · simpa [last] using known
  · simpa [last] using running

theorem foreign (accounts : Accounts cap state slot entered (some own) tracked rest) :
    own ∉ state.free ∧ own ∉ held rest := by
  have owners := accounts.owners
  rw [Option.toList_some, List.append_assoc, List.nodup_append] at owners
  obtain ⟨-, cons, apart⟩ := owners
  exact ⟨fun member => apart own member own (by simp) rfl,
    (List.nodup_cons.mp cons).1⟩

theorem update (accounts : Accounts cap state slot entered (some own) tracked rest)
    (value : Worker) (prompt : value.systemPrompt = value.startedWith) :
    Accounts cap (state.setWorker own value) slot entered (some own) tracked
      rest := by
  obtain ⟨-, apart⟩ := accounts.foreign
  obtain ⟨count, room, owners, checked, known, running, prompts, fits⟩ := accounts
  refine ⟨count, room, owners, checked, known, fun other runs => ?_,
    fun other => ?_, fun other member => ?_⟩
  · by_cases same : other = own
    · simp [same]
    · rw [state.setWorker_workers_of_ne value same] at runs
      exact running other runs
  · by_cases same : other = own
    · subst same
      simpa using prompt
    · rw [state.setWorker_workers_of_ne value same]
      exact prompts other
  · refine (fits other member).of_same fun theirs owned => ?_
    have ne : theirs ≠ own := by
      rintro rfl
      exact apart (List.mem_filterMap.mpr ⟨other, member, owned⟩)
    rw [state.setWorker_workers_of_ne value ne]
    exact ⟨rfl, rfl⟩

theorem drop (accounts : Accounts cap state slot entered (some own) none rest)
    (stopped : (state.workers own).running = false) :
    Accounts cap state slot entered none none rest := by
  obtain ⟨count, room, owners, checked, known, running, prompts, fits⟩ := accounts
  have fewer : (state.free ++ (none : Option Nat).toList ++ held rest).Sublist
      (state.free ++ (some own).toList ++ held rest) := by
    simp only [Option.toList_none, Option.toList_some, List.append_nil, List.append_assoc]
    exact (List.sublist_append_right _ _).append_left _
  refine ⟨count, room, owners.sublist fewer, checked,
    fun other member => known other (fewer.subset member),
    fun other runs => ?_, prompts, fits⟩
  have member := running other runs
  have ne : other ≠ own := by
    rintro rfl
    simp [stopped] at runs
  simpa [ne] using member

theorem construct (accounts : Accounts cap state slot entered none none rest)
    (value : Worker) (prompt : value.systemPrompt = value.startedWith) :
    Accounts cap (({ state with clients := state.clients + 1 } : State).setWorker
        state.clients value) slot entered (some state.clients) none rest := by
  obtain ⟨count, room, owners, checked, known, running, prompts, fits⟩ := accounts
  have fresh : state.clients ∉ state.free ++ held rest := by
    intro member
    have old := known state.clients (by simpa using member)
    omega
  simp only [List.mem_append, not_or] at fresh
  have kept : Accounts cap { state with clients := state.clients + 1 } slot
      entered (some state.clients) none rest := by
    refine ⟨count, room, ?_, checked, fun other member => ?_,
      fun other runs => ?_, prompts, fits⟩
    · simp only [Option.toList_none, List.append_nil, List.nodup_append,
        Option.toList_some, List.append_assoc, List.singleton_append,
        List.nodup_cons, List.mem_cons] at owners ⊢
      refine ⟨owners.1, ⟨fresh.2, owners.2.1⟩, ?_⟩
      rintro first member second (rfl | theirs)
      · rintro rfl
        exact fresh.1 member
      · exact owners.2.2 first member second theirs
    · simp only [Option.toList_some, List.mem_append, List.mem_singleton] at member
      change other < state.clients + 1
      rcases member with (member | rfl) | member
      · have old := known other (by simp [member])
        omega
      · omega
      · have old := known other (by simp [member])
        omega
    · have member := running other runs
      simp only [Option.toList_none, List.append_nil, Option.toList_some,
        List.mem_append] at member ⊢
      exact member.elim (fun free => .inl (.inl free)) .inr
  exact kept.update value prompt

theorem checkOut (accounts : Accounts cap state slot entered (some own) none rest) :
    Accounts cap { state with checkedOut := insert own state.checkedOut } slot
      entered (some own) (some own) rest := by
  obtain ⟨count, room, owners, checked, known, running, prompts, fits⟩ := accounts
  refine ⟨count, room, owners, fun other => ?_, known, running, prompts, fits⟩
  rw [Finset.mem_insert, checked]
  simp [eq_comm]

theorem release (accounts : Accounts cap state true true (some own) (some own) rest) :
    Accounts cap (state.release own) false false none none rest := by
  obtain ⟨notFree, apart⟩ := accounts.foreign
  obtain ⟨count, room, owners, checked, known, running, prompts, fits⟩ := accounts
  have member : own ∈ state.checkedOut := (checked own).mpr (.inl rfl)
  rw [State.release, if_pos member, if_neg notFree]
  refine ⟨?_, ?_, ?_, fun other => ?_, ?_, ?_, prompts, fits⟩
  · simp only [Bool.toNat_true, Bool.toNat_false] at count ⊢
    omega
  · simp only [Bool.toNat_true, Bool.toNat_false, List.length_append,
      List.length_singleton] at room ⊢
    omega
  · simpa using owners
  · rw [Finset.mem_erase, checked]
    have other_ne (theirs : other ∈ trackedBy rest) : other ≠ own := by
      rintro rfl
      exact apart ((trackedBy_sublist rest).subset theirs)
    constructor
    · rintro ⟨ne, same | theirs⟩
      · exact absurd (Option.some.inj same).symm ne
      · exact .inr theirs
    · rintro (same | theirs)
      · cases same
      · exact ⟨other_ne theirs, .inr theirs⟩
  · simpa using known
  · simpa using running

end Accounts

/-- A client that cannot be stopped, a call that fails when it has checked a
worker out, a replaced worker for a call that resumes a session, and a second
release of a worker that somebody else has by then are left out. -/
def KeepsBound (state : State) : Action → Prop
  | .enter index => ∀ call ∈ state.calls[index]?, call.sessionFile ≠ none →
      ∀ worker ∈ state.free.getLast?, (state.workers worker).systemPrompt = call.systemPrompt
  | .stopped _ outcome running => outcome = .ok ∨ running = false
  | .switched _ outcome | .renewed _ outcome _ | .read _ outcome =>
    outcome = .ok
  | .release index => ∀ call ∈ state.calls[index]?,
      ∀ worker ∈ state.checkedOut, call.point ≠ .released worker
  | _ => True

section Step

variable {index : Nat}

theorem sound_move {point : Point}
    (others : ∀ other, (state.calls.set index other).Perm (other :: rest))
    (accounts : Accounts cap state point.holdsSlot point.entered point.worker point.tracked rest)
    (fits : ({ call with point := point } : Call).Fits state.workers) :
    Sound cap (state.move index call point) (state.move index call point).calls := by
  have cons : Sound cap state ({ call with point := point } :: rest) :=
    sound_cons_iff.mpr ⟨accounts, fits⟩
  have perm := cons.perm (others { call with point := point }).symm
  obtain ⟨count, room, owners, checked, known, running, prompts, allFit⟩ := perm
  exact ⟨count, room, owners, checked, known, running, prompts, allFit⟩

theorem sound_failStart (others : ∀ other, (state.calls.set index other).Perm (other :: rest))
    {entered : Bool} (accounts : Accounts cap state true entered none none rest) :
    Sound cap (state.failStart index call) (state.failStart index call).calls :=
  sound_move others accounts.returnSlot trivial

theorem sound_checkOut (others : ∀ other, (state.calls.set index other).Perm (other :: rest))
    {worker : Nat} {respawned : Bool}
    (accounts : Accounts cap state true true (some worker) none rest)
    (prompt : (state.workers worker).startedWith = call.systemPrompt)
    (fresh : respawned = true → call.sessionFile = none) :
    Sound cap (state.checkOut index call worker respawned)
      (state.checkOut index call worker respawned).calls := by
  unfold State.checkOut
  split
  case isTrue respawned =>
    exact sound_move others accounts.checkOut ⟨prompt, fresh respawned⟩
  case isFalse =>
    split
    case isTrue => exact sound_move others accounts.checkOut prompt
    case isFalse none' =>
      exact sound_move others accounts.checkOut ⟨prompt, by simpa using none'⟩

theorem sound_enter (others : ∀ other, (state.calls.set index other).Perm (other :: rest))
    (accounts : Accounts cap state true false none none rest)
    (samePrompt : call.sessionFile ≠ none → ∀ worker ∈ state.free.getLast?,
      (state.workers worker).systemPrompt = call.systemPrompt) :
    Sound cap (state.enter index call) (state.enter index call).calls := by
  unfold State.enter
  cases last : state.free.getLast? with
  | none =>
    have empty := List.getLast?_eq_none_iff.mp last
    exact sound_move others (accounts.popEmpty empty)
      fun respawned => nomatch respawned
  | some worker =>
    have split' : state.free = state.free.dropLast ++ [worker] :=
      (List.dropLast_append_getLast? worker last).symm
    have popped := accounts.pop split'
    dsimp only
    split
    case isTrue same =>
      have prompt : (state.workers worker).startedWith = call.systemPrompt := by
        rw [same, accounts.prompts]
      have kept : ∀ other, (({ state with free := state.free.dropLast } :
          State).calls.set index other).Perm (other :: rest) := others
      exact sound_checkOut kept popped prompt fun respawned =>
        nomatch respawned
    case isFalse other =>
      refine sound_move others popped ?_
      by_contra resumes
      exact other (samePrompt resumes worker last).symm

theorem sound_launch (others : ∀ other, (state.calls.set index other).Perm (other :: rest))
    {respawned : Bool} (accounts : Accounts cap state true true none none rest)
    (fresh : respawned = true → call.sessionFile = none) :
    Sound cap (state.launch index call respawned) (state.launch index call respawned).calls :=
  sound_move others (accounts.construct
      { startedWith := call.systemPrompt
        systemPrompt := call.systemPrompt
        running := true } rfl)
    ⟨by simp, fresh⟩

theorem accounts_stop {slot entered : Bool} {worker : Nat}
    (accounts : Accounts cap state slot entered (some worker) none rest) :
    Accounts cap (state.stop worker false) slot entered none none rest := by
  have prompt := accounts.prompts worker
  have stopped := accounts.update { state.workers worker with running := false } prompt
  exact stopped.drop (by simp)

theorem sound_finish (others : ∀ other, (state.calls.set index other).Perm (other :: rest))
    {worker : Nat} {sessionFile : Option String}
    (accounts : Accounts cap state true true (some worker) (some worker) rest)
    (prompt : (state.workers worker).startedWith = call.systemPrompt)
    (session : ∀ session, call.sessionFile = some session →
      (state.workers worker).session = some session) :
    Sound cap (state.finish index call worker sessionFile)
      (state.finish index call worker sessionFile).calls := by
  refine sound_move others (accounts.update _ prompt.symm) ⟨?_, ?_⟩
  · simpa using prompt
  · simpa using session

theorem sound_stepCall (others : ∀ other, (state.calls.set index other).Perm (other :: rest))
    (sound : Sound cap state (call :: rest)) {action : Action}
    (found : state.calls[action.call]? = some call)
    (atIndex : action.call = index)
    (keeps : KeepsBound state action)
    (stepTo : stepCall state index call action = some after) :
    Sound cap after after.calls := by
  obtain ⟨accounts, fits⟩ := sound_cons_iff.mp sound
  unfold Call.Fits at fits
  cases action with
  | acquire => cases stepTo
  | grant =>
    simp only [stepCall] at stepTo
    split at stepTo
    next slots waiting available =>
      cases stepTo
      rw [waiting] at accounts
      have taken := accounts.takeSlot available
      exact sound_move others taken trivial
    · cases stepTo
  | abort =>
    simp only [stepCall] at stepTo
    split at stepTo
    next waiting =>
      cases stepTo
      rw [waiting] at accounts
      exact sound_move others accounts trivial
    next granted =>
      cases stepTo
      rw [granted] at accounts
      exact sound_failStart others accounts
    · cases stepTo
  | enter =>
    simp only [stepCall, Option.ite_none_right_eq_some, Option.some.injEq] at stepTo
    obtain ⟨granted, rfl⟩ := stepTo
    rw [granted] at accounts
    exact sound_enter others accounts (keeps call found)
  | stopped _ outcome running =>
    have off : (running && !outcome.isOk) = false := by
      rcases keeps with rfl | rfl <;> simp [Outcome.isOk]
    simp only [stepCall, off] at stepTo
    split at stepTo
    next worker disposing =>
      rw [disposing] at accounts fits
      have stopped := accounts_stop accounts
      split at stepTo
      · cases stepTo
        exact sound_move others stopped fun _ => fits
      · cases stepTo
        exact sound_move others stopped fun _ => fits
      · cases stepTo
        exact sound_failStart others stopped
    next worker abandoning =>
      cases stepTo
      rw [abandoning] at accounts
      exact sound_failStart others (accounts_stop accounts)
    · cases stepTo
  | prepared _ outcome =>
    simp only [stepCall] at stepTo
    split at stepTo
    next respawned preparing =>
      cases stepTo
      rw [preparing] at accounts fits
      cases outcome.isOk with
      | true => exact sound_launch others accounts fits
      | false => exact sound_failStart others accounts
    · cases stepTo
  | launched _ outcome =>
    simp only [stepCall] at stepTo
    split at stepTo
    next worker respawned launching =>
      cases stepTo
      rw [launching] at accounts fits
      cases outcome.isOk with
      | true => exact sound_move others accounts fits
      | false => exact sound_move others accounts trivial
    · cases stepTo
  | attached _ outcome =>
    simp only [stepCall] at stepTo
    split at stepTo
    next worker respawned attaching =>
      cases stepTo
      rw [attaching] at accounts fits
      cases outcome.isOk with
      | true => exact sound_checkOut others accounts fits.1 fits.2
      | false => exact sound_move others accounts trivial
    · cases stepTo
  | switched _ outcome =>
    obtain rfl : outcome = .ok := keeps
    simp only [stepCall, Outcome.isOk] at stepTo
    split at stepTo
    next worker switching =>
      cases stepTo
      rw [switching] at accounts fits
      have switched := accounts.update { state.workers worker with session := call.sessionFile }
        (accounts.prompts worker)
      have kept : ∀ other, ((state.setWorker worker
          { state.workers worker with
            session := call.sessionFile }).calls.set index
            other).Perm (other :: rest) := others
      refine sound_finish kept switched ?_ ?_
      · simpa using fits
      · simp
    · cases stepTo
  | renewed _ outcome path =>
    obtain rfl : outcome = .ok := keeps
    simp only [stepCall, Outcome.isOk] at stepTo
    split at stepTo
    next worker renewing =>
      cases stepTo
      rw [renewing] at accounts fits
      have prompt := accounts.prompts worker
      refine sound_move others (accounts.update _ prompt) ⟨?_, fits.2⟩
      simpa using fits.1
    · cases stepTo
  | read _ outcome =>
    obtain rfl : outcome = .ok := keeps
    simp only [stepCall, Outcome.isOk] at stepTo
    split at stepTo
    next worker reading =>
      cases stepTo
      rw [reading] at accounts fits
      exact sound_finish others accounts fits.1 fun session resumes => by
        simp [fits.2] at resumes
    · cases stepTo
  | release =>
    simp only [stepCall] at stepTo
    split at stepTo
    next worker returned =>
      cases stepTo
      rw [returned] at accounts
      have kept : ∀ other, ((state.release worker).calls.set index other).Perm (other :: rest) := by
        unfold State.release
        split <;> exact others
      exact sound_move kept accounts.release trivial
    next worker released =>
      cases stepTo
      rw [released] at accounts
      have absent : worker ∉ state.checkedOut := fun member =>
        keeps call found worker member released
      rw [State.release, if_neg absent]
      exact sound_move others accounts trivial
    · cases stepTo

theorem sound_step {action : Action} (sound : Sound cap state state.calls)
    (keeps : KeepsBound state action) (stepTo : step state action = some after) :
    Sound cap after after.calls := by
  by_cases acquires : ∃ sessionFile systemPrompt, action = .acquire sessionFile systemPrompt
  · obtain ⟨sessionFile, systemPrompt, rfl⟩ := acquires
    cases stepTo
    have cons : Sound cap state ({ sessionFile, systemPrompt } :: state.calls) :=
      sound_cons_iff.mpr ⟨sound, trivial⟩
    obtain ⟨count, room, owners, checked, known, running, prompts, fits⟩ :=
      cons.perm (List.perm_append_singleton _ state.calls).symm
    exact ⟨count, room, owners, checked, known, running, prompts, fits⟩
  · have calls : (state.calls[action.call]?).bind (fun call =>
        stepCall state action.call call action) = some after := by
      cases action with
      | acquire sessionFile systemPrompt =>
        exact absurd ⟨sessionFile, systemPrompt, rfl⟩ acquires
      | _ => exact stepTo
    obtain ⟨call, found, stepTo⟩ := Option.bind_eq_some_iff.mp calls
    obtain ⟨rest, perm, others⟩ := exists_rest_of_getElem? found
    exact sound_stepCall others (sound.perm perm) found rfl keeps stepTo

end Step

theorem sound_of_reachable (reached : (pool cap).ReachableWithin KeepsBound state) :
    Sound cap state state.calls := by
  have start : ∀ state, (pool cap).initial state →
      Sound cap state state.calls := by
    rintro _ rfl
    exact Sound.initial cap
  exact reached.invariant start fun _ _ _ sound keeps stepTo =>
    sound_step sound keeps stepTo

/-- The calls that have a slot of the semaphore and no worker checked out:
those between the semaphore and `_checked_out.add`. -/
def State.starting (state : State) : Nat := state.calls.countP fun call =>
    call.point.holdsSlot && call.point.tracked.isNone

/-- What the pool promises: the bound on clients, one holder for each worker,
slots, and sessions. -/
structure PoolSound (cap : Nat) (state : State) : Prop where
  bounded : state.running.length ≤ cap
  once : (state.calls.filterMap (·.point.tracked)).Nodup
  checkedOut : ∀ worker, worker ∈ state.checkedOut ↔
    ∃ call ∈ state.calls, call.point.tracked = some worker
  slots : state.slots + state.checkedOut.card + state.starting = cap
  session : ∀ call ∈ state.calls, ∀ worker session,
    call.point = .returned worker → call.sessionFile = some session →
      (state.workers worker).session = some session ∧
        (state.workers worker).startedWith = call.systemPrompt

theorem countP_eq_starting_add (calls : List Call) : calls.countP (·.point.holdsSlot) =
      calls.countP (fun call =>
        call.point.holdsSlot && call.point.tracked.isNone) +
      (trackedBy calls).length := by
  induction calls with
  | nil => rfl
  | cons call rest ih =>
    have slot : call.point.tracked.isSome = true → call.point.holdsSlot = true := by
      cases call.point <;> simp [Point.tracked, Point.holdsSlot]
    rw [List.countP_cons, List.countP_cons, trackedBy_cons, ih]
    cases tracked : call.point.tracked with
    | none => simp; omega
    | some worker =>
      simp [slot (by simp [tracked])]
      omega

theorem held_length_le (calls : List Call) :
    (held calls).length ≤ calls.countP (·.point.entered) := by
  induction calls with
  | nil => exact Nat.le_refl 0
  | cons call rest ih =>
    have own : call.point.worker.toList.length ≤
        if call.point.entered then 1 else 0 := by
      cases call.point <;> simp [Point.worker, Point.entered]
    rw [held_cons, List.countP_cons, List.length_append]
    omega

theorem Sound.running_length_le (sound : Sound cap state state.calls) :
    state.running.length ≤ cap := by
  have subset : state.running ⊆ state.free ++ held state.calls := by
    intro client member
    have runs := (List.mem_filter.mp member).2
    simpa using sound.running client runs
  have distinct : state.running.Nodup := List.nodup_range.filter _
  calc
    state.running.length ≤ (state.free ++ held state.calls).length :=
      (distinct.subperm subset).length_le
    _ = state.free.length + (held state.calls).length := List.length_append
    _ ≤ state.free.length + state.calls.countP (·.point.entered) :=
      Nat.add_le_add_left (held_length_le state.calls) _
    _ ≤ cap := sound.room

theorem Sound.checkedOut_card (sound : Sound cap state state.calls) :
    state.checkedOut.card = (trackedBy state.calls).length := by
  have distinct : (trackedBy state.calls).Nodup := by
    have owners := sound.owners
    rw [List.nodup_append] at owners
    exact owners.2.1.sublist (trackedBy_sublist state.calls)
  have same : state.checkedOut = (trackedBy state.calls).toFinset := by
    ext worker
    rw [sound.checked, List.mem_toFinset]
    simp
  rw [same, List.toFinset_card_of_nodup distinct]

/-- In a run whose steps all meet the condition the pool keeps its bound, its
owners, its slots and the sessions it was asked for. -/
theorem poolSound_of_reachable (reached : (pool cap).ReachableWithin KeepsBound state) :
    PoolSound cap state := by
  have sound := sound_of_reachable reached
  refine ⟨sound.running_length_le, ?_, fun worker => ?_, ?_, ?_⟩
  · have owners := sound.owners
    rw [List.nodup_append] at owners
    exact owners.2.1.sublist (trackedBy_sublist state.calls)
  · rw [sound.checked]
    simp [trackedBy]
  · have slots := sound.slots
    rw [countP_eq_starting_add, ← sound.checkedOut_card] at slots
    simp only [Bool.toNat_false] at slots
    rw [State.starting]
    omega
  · intro call member worker session returned resumes
    have fits := sound.fits call member
    rw [Call.Fits, returned] at fits
    exact ⟨fits.2 session resumes, fits.1⟩

instance decidableKeepsBound (state : State) : ∀ action, Decidable (KeepsBound state action)
  | .enter index => inferInstanceAs (Decidable
      (∀ call ∈ state.calls[index]?, call.sessionFile ≠ none → ∀ worker ∈ state.free.getLast?,
          (state.workers worker).systemPrompt = call.systemPrompt))
  | .stopped _ outcome running => inferInstanceAs (Decidable (outcome = .ok ∨ running = false))
  | .switched _ outcome | .renewed _ outcome _ | .read _ outcome =>
    inferInstanceAs (Decidable (outcome = .ok))
  | .release index => inferInstanceAs (Decidable (∀ call ∈ state.calls[index]?,
        ∀ worker ∈ state.checkedOut, call.point ≠ .released worker))
  | .acquire _ _ | .grant _ | .abort _ | .prepared _ _ | .launched _ _
  | .attached _ _ => inferInstanceAs (Decidable True)

/-- The actions of a call that starts its own worker. -/
def coldStart (call : Nat) : List Action :=
  [.grant call, .enter call, .prepared call .ok, .launched call .ok, .attached call .ok]

/-- Two conversations with their own prompts on two workers; the first one
comes back and gets its worker and its session. -/
theorem poolSound_of_resumed_session : ∃ state, (pool 2).ReachableWithin KeepsBound state ∧
      (state.calls[2]?).any (fun call =>
        decide (call.point = .returned 0)) = true ∧ PoolSound 2 state := by
  have found : ∃ state, (pool 2).ReachableWithin KeepsBound state ∧
      (state.calls[2]?).any (fun call =>
        decide (call.point = .returned 0)) = true :=
    TransitionSystem.exists_reachableWithin_of_checkedRun { slots := 2 } rfl
      ([.acquire none "P", .acquire none "Q"] ++ coldStart 0 ++ coldStart 1 ++
        [.renewed 0 .ok (some "s"), .renewed 1 .ok (some "t"), .read 0 .ok,
          .read 1 .ok, .acquire (some "s") "P", .release 0, .grant 2, .enter 2,
          .switched 2 .ok])
      (by decide +kernel)
  obtain ⟨state, reached, returned⟩ := found
  exact ⟨state, reached, returned, poolSound_of_reachable reached⟩

/-- With one worker, two conversations with their own prompts: the first one
comes back to a fresh session.  And `switch_session` fails: the client runs on
without a slot beside its successor. -/
theorem exists_session_lost_and_bound_exceeded : (∃ state, (pool 1).Reachable state ∧
      state.calls[2]? = some ⟨some "s", "P", .returned 2⟩ ∧
      (state.workers 2).session = some "u") ∧
    ∃ state, (pool 1).Reachable state ∧ state.running.length = 2 :=
  ⟨TransitionSystem.exists_reachable_of_run { slots := 1 } rfl
      ([.acquire none "P"] ++ coldStart 0 ++ [.renewed 0 .ok (some "s"), .read 0 .ok, .release 0,
          .acquire none "Q", .grant 1, .enter 1, .stopped 1 .ok false,
          .prepared 1 .ok, .launched 1 .ok, .attached 1 .ok,
          .renewed 1 .ok (some "t"), .read 1 .ok, .release 1,
          .acquire (some "s") "P", .grant 2, .enter 2, .stopped 2 .ok false,
          .prepared 2 .ok, .launched 2 .ok, .attached 2 .ok,
          .renewed 2 .ok (some "u"), .read 2 .ok])
      (by decide +kernel),
    TransitionSystem.exists_reachable_of_run { slots := 1 } rfl
      ([.acquire (some "s") "P"] ++ coldStart 0 ++
        [.switched 0 (.raises true), .acquire none "P"] ++ coldStart 1)
      (by decide +kernel)⟩

end OmpPool

end RoxabiFactory
