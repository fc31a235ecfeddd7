import RoxabiFactory.AuthStore

/-!
# The row and the cache entry of a key

The cache entry of a key, changed by the cache steps that are to come, agrees
with its row as long as the steps are taken in the order of the statements.
The grant that was stored last is still in the row when no revocation has run
that was not meant for it, and the cache has it once the upsert has returned.
-/

namespace RoxabiFactory

namespace AuthStore

/-! ## Entries that run -/

/-- The entry, when it is neither over nor at its last instant. -/
def live (now : ℤ) (entry : Option Grant) : Option Grant := entry.filter (Grant.running now)

section Live

variable {now later : ℤ} {grant : Grant} {entry : Option Grant}

theorem Grant.not_running_of_expired (ended : grant.expired now = true) :
    grant.running now = false := by
  unfold Grant.expired at ended
  unfold Grant.running
  cases expiry : grant.expiresAt with
  | none =>
    rw [expiry] at ended
    cases ended
  | some time =>
    rw [expiry] at ended
    simp only [Option.any_some, decide_eq_true_eq] at ended
    simp only [Option.all_some, decide_eq_false_iff_not]
    omega

theorem Grant.running_of_permanent (stays : grant.permanent = true) : grant.running now = true := by
  unfold Grant.permanent at stays
  unfold Grant.running
  rw [Option.isNone_iff_eq_none.1 stays]
  rfl

theorem Grant.permanent_of_not_running (ends : grant.running now = false) :
    grant.permanent = false := by
  apply Bool.eq_false_of_not_eq_true
  intro stays
  rw [Grant.running_of_permanent stays] at ends
  cases ends

theorem Grant.running_of_le (le : now ≤ later)
    (runs : grant.running later = true) : grant.running now = true := by
  unfold Grant.running at runs ⊢
  cases expiry : grant.expiresAt with
  | none => rfl
  | some time =>
    rw [expiry] at runs
    simp only [Option.all_some, decide_eq_true_eq] at runs ⊢
    omega

theorem Grant.expired_of_le (le : now ≤ later)
    (ended : grant.expired now = true) : grant.expired later = true := by
  unfold Grant.expired at ended ⊢
  cases expiry : grant.expiresAt with
  | none =>
    rw [expiry] at ended
    cases ended
  | some time =>
    rw [expiry] at ended
    simp only [Option.any_some, decide_eq_true_eq] at ended ⊢
    omega

theorem live_some (now : ℤ) (grant : Grant) : live now (some grant) =
      if grant.running now then some grant else none := by
  rfl

theorem live_some_of_permanent (stays : grant.permanent = true) :
    live now (some grant) = some grant := by
  rw [live_some, if_pos (Grant.running_of_permanent stays)]

theorem eq_of_live_eq_some (same : live now entry = some grant) : entry = some grant := by
  unfold live at same
  exact (Option.filter_eq_some_iff.1 same).1

theorem live_of_le (le : now ≤ later) (entry : Option Grant) :
    live later entry = live later (live now entry) := by
  cases entry with
  | none => rfl
  | some grant =>
    cases runs : grant.running now with
    | true => rw [live_some now, if_pos runs]
    | false =>
      have ends : ¬ grant.running later = true := by
        intro still
        rw [Grant.running_of_le le still] at runs
        cases runs
      rw [live_some, if_neg ends, live_some now, runs]
      rfl

end Live

/-! ## The cache steps that are to come -/

section Steps

variable {Task : Type} {now : ℤ} {grant : Grant} {entry : Option Grant}

/-- The cache entry after the steps of the operations. -/
def settle (entry : Option Grant) (pending : List (Task × Option Grant)) : Option Grant :=
  pending.foldl (fun entry operation => cacheStep entry operation.2) entry

theorem settle_append (entry : Option Grant) (first second : List (Task × Option Grant)) :
    settle entry (first ++ second) = settle (settle entry first) second := by
  exact List.foldl_append

theorem settle_revocations {pending : List (Task × Option Grant)}
    (revocations : ∀ operation ∈ pending, operation.2 = none) :
    settle none pending = none := by
  induction pending with
  | nil => rfl
  | cons operation pending ih =>
    have first := revocations operation List.mem_cons_self
    have rest := ih fun other member =>
      revocations other (List.mem_cons_of_mem _ member)
    unfold settle at rest ⊢
    rw [List.foldl_cons, first]
    exact rest

theorem settle_permanent {pending : List (Task × Option Grant)} (stays : grant.permanent = true)
    (upserts : ∀ operation ∈ pending, operation.2 ≠ none) :
    settle (some grant) pending = some grant := by
  induction pending with
  | nil => rfl
  | cons operation pending ih =>
    obtain ⟨other, upsert⟩ := Option.ne_none_iff_exists'.1 (upserts operation List.mem_cons_self)
    have rest := ih fun later member =>
      upserts later (List.mem_cons_of_mem _ member)
    have unchanged : cacheStep (some grant) operation.2 = some grant := by
      rw [upsert]
      exact if_pos stays
    unfold settle at rest ⊢
    rw [List.foldl_cons, unchanged]
    exact rest

theorem live_settle_of_not_running (ends : grant.running now = false)
    (pending : List (Task × Option Grant)) :
    live now (settle none pending) =
      live now (settle (some grant) pending) := by
  cases pending with
  | nil =>
    change none = live now (some grant)
    rw [live_some, ends]
    rfl
  | cons operation pending =>
    have same : cacheStep none operation.2 =
        cacheStep (some grant) operation.2 := by
      have ordinary := Grant.permanent_of_not_running ends
      cases operation.2 with
      | none => rfl
      | some other => simp [cacheStep, ordinary]
    unfold settle
    rw [List.foldl_cons, List.foldl_cons, same]

end Steps

/-! ## What holds of a key -/

section Slots

variable {Task : Type} {now : ℤ}

/-- The operations behind a stored grant do not touch it: they are upserts,
which leave a permanent entry alone. -/
structure Harmless (grant : Grant) (pending : List (Task × Option Grant)) : Prop where
  upserts : ∀ operation ∈ pending, operation.2 ≠ none
  permanent : pending ≠ [] → grant.permanent = true

namespace Slot

/-- Where the grant stands that was stored last. -/
def Stands (slot : Slot Task) (stored : Stored Task) : Prop :=
  match stored.writer with
  | none => slot.cached = some stored.grant ∧ Harmless stored.grant slot.pending
  | some task => ∃ before after, slot.pending = before ++ (task, some stored.grant) :: after ∧
        Harmless stored.grant after

structure Sound (now : ℤ) (slot : Slot Task) : Prop where
  distinct : (slot.pending.map Prod.fst).Nodup
  coherent : live now (settle slot.cached slot.pending) = live now slot.row
  row : ∀ stored, slot.stored = some stored →
    stored.grant.expired now = false → slot.row = some stored.grant
  stands : ∀ stored, slot.stored = some stored →
    stored.grant.expired now = false → slot.Stands stored

end Slot

theorem Harmless.nil (grant : Grant) : Harmless grant ([] : List (Task × Option Grant)) := by
  constructor
  · intro operation member
    cases member
  · intro nonempty
    exact absurd rfl nonempty

theorem Harmless.filter {grant : Grant} {pending : List (Task × Option Grant)}
    (harmless : Harmless grant pending)
    (keeps : Task × Option Grant → Bool) :
    Harmless grant (pending.filter keeps) := by
  constructor
  · intro operation member
    exact harmless.upserts operation (List.mem_of_mem_filter member)
  · intro nonempty
    apply harmless.permanent
    intro empty
    rw [empty] at nonempty
    exact nonempty rfl

theorem Harmless.append {grant other : Grant} {task : Task}
    {pending : List (Task × Option Grant)} (harmless : Harmless grant pending)
    (stays : grant.permanent = true) :
    Harmless grant (pending ++ [(task, some other)]) := by
  constructor
  · intro operation member
    rcases List.mem_append.1 member with known | new
    · exact harmless.upserts operation known
    · rw [List.mem_singleton.1 new]
      exact Option.some_ne_none other
  · intro _
    exact stays

namespace Slot

variable {slot : Slot Task}

theorem Sound.start (row : Option Grant) : Sound now
      ({ row := row, committed := row, cached := live now row } :
        Slot Task) := by
  constructor
  · exact List.nodup_nil
  · exact (live_of_le le_rfl row).symm
  · intro stored present
    cases present
  · intro stored present
    cases present

theorem Sound.tick {later : ℤ} (sound : slot.Sound now) (le : now ≤ later) :
    slot.Sound later := by
  have before (stored : Stored Task) (runs : stored.grant.expired later = false) :
      stored.grant.expired now = false := by
    apply Bool.eq_false_of_not_eq_true
    intro ended
    rw [Grant.expired_of_le le ended] at runs
    cases runs
  constructor
  · exact sound.distinct
  · rw [live_of_le le, sound.coherent, ← live_of_le le]
  · intro stored present runs
    exact sound.row stored present (before stored runs)
  · intro stored present runs
    exact sound.stands stored present (before stored runs)

theorem Sound.commit (sound : slot.Sound now) : slot.commit.Sound now :=
  ⟨sound.distinct, sound.coherent, sound.row, sound.stands⟩

theorem Sound.withdraw (sound : slot.Sound now) : slot.withdraw.Sound now := by
  constructor
  · exact sound.distinct
  · exact sound.coherent
  · intro stored present
    cases present
  · intro stored present
    cases present

theorem Sound.pop {grant : Grant} (sound : slot.Sound now)
    (cached : slot.cached = some grant) (ended : grant.expired now = true) :
    slot.pop.Sound now := by
  constructor
  · exact sound.distinct
  · have same := sound.coherent
    rw [cached] at same
    change live now (settle none slot.pending) = live now slot.row
    rw [← same]
    exact live_settle_of_not_running (Grant.not_running_of_expired ended) slot.pending
  · exact sound.row
  · intro stored present runs
    have stands := sound.stands stored present runs
    unfold Stands at stands ⊢
    cases writer : stored.writer with
    | some task =>
      rw [writer] at stands
      exact stands
    | none =>
      rw [writer] at stands
      have same := cached.symm.trans stands.1
      cases same
      rw [ended] at runs
      cases runs

theorem nodup_append_pending {pending : List (Task × Option Grant)}
    {task : Task} (distinct : (pending.map Prod.fst).Nodup)
    (new : task ∉ pending.map Prod.fst) (effect : Option Grant) :
    ((pending ++ [(task, effect)]).map Prod.fst).Nodup := by
  rw [List.map_append, List.nodup_append]
  refine ⟨distinct, List.nodup_singleton task, ?_⟩
  intro known member other new_member same
  rw [List.mem_singleton.1 new_member] at same
  rw [same] at member
  exact new member

/-- A revocation deletes a row that was not stored after it was meant. -/
theorem Sound.delete {task : Task} (sound : slot.Sound now) (new : task ∉ slot.pending.map Prod.fst)
    (deletable : slot.Deletable now) : (slot.delete task).Sound now := by
  have ended (stored : Stored Task) (present : slot.stored = some stored) :
      ¬ stored.grant.expired now = false := by
    rw [deletable stored present]
    exact Bool.noConfusion
  constructor
  · exact nodup_append_pending sound.distinct new none
  · change live now (settle slot.cached (slot.pending ++ [(task, none)])) = _
    rw [settle_append]
    rfl
  · intro stored present runs
    exact absurd runs (ended stored present)
  · intro stored present runs
    exact absurd runs (ended stored present)

/-- What the cache comes to agrees with a permanent row exactly. -/
theorem Sound.settle_eq_row {grant : Grant} (sound : slot.Sound now)
    (row : slot.row = some grant) (stays : grant.permanent = true) :
    settle slot.cached slot.pending = some grant := by
  have coherent := sound.coherent
  rw [row, live_some_of_permanent stays] at coherent
  exact eq_of_live_eq_some coherent

theorem Sound.cacheStep_settle (sound : slot.Sound now)
    (ordinary : slot.row.any Grant.permanent = false) (grant : Grant) :
    cacheStep (settle slot.cached slot.pending) (some grant) = some grant := by
  cases settled : settle slot.cached slot.pending with
  | none => rfl
  | some existing =>
    cases stays : existing.permanent with
    | false => exact if_neg (by rw [stays]; exact Bool.false_ne_true)
    | true =>
      have coherent := sound.coherent
      rw [settled, live_some_of_permanent stays] at coherent
      rw [eq_of_live_eq_some coherent.symm] at ordinary
      rw [Option.any_some, stays] at ordinary
      cases ordinary

theorem Sound.insert {task : Task} {grant : Grant} (sound : slot.Sound now)
    (new : task ∉ slot.pending.map Prod.fst) :
    (slot.insert task grant).Sound now := by
  have distinct := nodup_append_pending sound.distinct new (some grant)
  have settled : settle slot.cached (slot.pending ++ [(task, some grant)]) =
      cacheStep (settle slot.cached slot.pending) (some grant) := by
    rw [settle_append]
    rfl
  unfold Slot.insert
  cases kept : slot.row.any Grant.permanent with
  | true =>
    obtain ⟨existing, row, stays⟩ := (Option.any_eq_true _ _).1 kept
    have same := sound.settle_eq_row row stays
    simp only [if_true]
    constructor
    · exact distinct
    · change live now (settle slot.cached _) = live now slot.row
      rw [settled, same, row]
      exact congrArg (live now) (if_pos stays)
    · exact sound.row
    · intro stored present runs
      have own := (sound.row stored present runs).symm.trans row
      have permanent : stored.grant.permanent = true := by
        rw [Option.some.inj own]
        exact stays
      have stands := sound.stands stored present runs
      unfold Stands at stands ⊢
      cases writer : stored.writer with
      | none =>
        rw [writer] at stands
        exact ⟨stands.1, stands.2.append permanent⟩
      | some owner =>
        rw [writer] at stands
        obtain ⟨before, after, pending, harmless⟩ := stands
        refine ⟨before, after ++ [(task, some grant)], ?_, harmless.append permanent⟩
        change slot.pending ++ _ = _
        rw [pending, List.append_assoc, List.cons_append]
  | false =>
    simp only [Bool.false_eq_true, if_false]
    constructor
    · exact distinct
    · change live now (settle slot.cached _) = live now (some grant)
      rw [settled, sound.cacheStep_settle kept]
    · intro stored present runs
      cases present
      rfl
    · intro stored present runs
      cases present
      exact ⟨slot.pending, [], rfl, .nil grant⟩

/-- The cache step that comes in its turn does not change what the cache comes
to. -/
theorem settle_inTurn {task : Task} {effect entry : Option Grant}
    {before after : List (Task × Option Grant)}
    (turn : before = [] ∨ effect = none ∧ ∀ other ∈ before, other.2 = none) :
    settle (cacheStep entry effect) (before ++ after) =
      settle entry (before ++ (task, effect) :: after) := by
  rcases turn with rfl | ⟨rfl, revocations⟩
  · rfl
  · have left : settle none before = none := settle_revocations revocations
    calc
      settle none (before ++ after)
      _ = settle (settle none before) after := settle_append _ _ _
      _ = settle none after := by rw [left]
      _ = settle (settle entry before) ((task, none) :: after) := rfl
      _ = settle entry (before ++ (task, none) :: after) := (settle_append _ _ _).symm

theorem cacheStep_eq_of_settle {grant : Grant} {entry : Option Grant}
    {after : List (Task × Option Grant)} (harmless : Harmless grant after)
    (settled : live now (settle (cacheStep entry (some grant)) after) = live now (some grant)) :
    cacheStep entry (some grant) = some grant := by
  have kept (existing : Grant) (present : entry = some existing)
      (stays : existing.permanent = true) :
      cacheStep entry (some grant) = some grant := by
    have step : cacheStep entry (some grant) = some existing := by
      rw [present]
      exact if_pos stays
    rw [step, settle_permanent stays harmless.upserts, live_some_of_permanent stays] at settled
    rw [step, eq_of_live_eq_some settled.symm]
  cases present : entry with
  | none => rfl
  | some existing =>
    cases stays : existing.permanent with
    | true =>
      rw [← present]
      exact kept existing present stays
    | false => exact if_neg (by rw [stays]; exact Bool.false_ne_true)

variable [DecidableEq Task]

/-- The place of an operation among those whose cache step is to come. -/
theorem Sound.place {task : Task} {effect : Option Grant}
    {before after : List (Task × Option Grant)} (sound : slot.Sound now)
    (pending : slot.pending = before ++ (task, effect) :: after) :
    slot.pending.takeWhile (isOther task) = before ∧
      slot.pending.filter (isOther task) = before ++ after := by
  have distinct := sound.distinct
  rw [pending, List.map_append, List.map_cons, List.nodup_append, List.nodup_cons] at distinct
  have others_before : ∀ entry ∈ before, isOther task entry = true := by
    intro entry entry_member
    apply decide_eq_true
    exact distinct.2.2 entry.1 (List.mem_map_of_mem entry_member) task List.mem_cons_self
  have others_after : ∀ entry ∈ after, isOther task entry = true := by
    intro entry entry_member
    apply decide_eq_true
    intro same
    have listed : entry.1 ∈ after.map Prod.fst := List.mem_map_of_mem entry_member
    rw [same] at listed
    exact distinct.2.1.1 listed
  have itself : ¬ isOther task (task, effect) = true := by
    simp [isOther]
  rw [pending]
  constructor
  · rw [List.takeWhile_append_of_pos others_before,
      List.takeWhile_cons_of_neg itself, List.append_nil]
  · rw [List.filter_append, List.filter_cons_of_neg itself,
      List.filter_eq_self.2 others_before, List.filter_eq_self.2 others_after]

theorem Sound.stands_of_return {task : Task} {effect : Option Grant}
    {stored : Stored Task} (sound : slot.Sound now)
    (member : (task, effect) ∈ slot.pending) (turn : slot.InTurn task effect)
    (present : slot.stored = some stored)
    (runs : stored.grant.expired now = false)
    (own : stored.writer = some task) :
    (slot.finish task effect).cached = some stored.grant ∧
      Harmless stored.grant (slot.finish task effect).pending := by
  have stands := sound.stands stored present runs
  unfold Stands at stands
  rw [own] at stands
  obtain ⟨before, after, pending, harmless⟩ := stands
  have listed : (task, some stored.grant) ∈ slot.pending := by
    rw [pending]
    exact List.mem_append_right _ List.mem_cons_self
  have same : effect = some stored.grant := congrArg Prod.snd
    (List.inj_on_of_nodup_map sound.distinct member listed rfl)
  subst same
  obtain ⟨first, rest⟩ := sound.place pending
  unfold InTurn at turn
  rw [first] at turn
  have empty : before = [] := by
    rcases turn with empty | ⟨revocation, -⟩
    · exact empty
    · cases revocation
  subst empty
  have coherent := sound.coherent
  rw [pending, sound.row stored present runs] at coherent
  constructor
  · exact cacheStep_eq_of_settle harmless coherent
  · change Harmless stored.grant (slot.pending.filter _)
    rw [rest]
    exact harmless

theorem Sound.stands_of_other {task : Task} {effect : Option Grant}
    {stored : Stored Task} (sound : slot.Sound now)
    (member : (task, effect) ∈ slot.pending)
    (present : slot.stored = some stored)
    (runs : stored.grant.expired now = false)
    (other : stored.writer ≠ some task) :
    (slot.finish task effect).Stands stored := by
  have stands := sound.stands stored present runs
  unfold Stands at stands ⊢
  cases writer : stored.writer with
  | none =>
    rw [writer] at stands
    obtain ⟨cached, harmless⟩ := stands
    obtain ⟨upsert, rfl⟩ := Option.ne_none_iff_exists'.1 (harmless.upserts _ member)
    have stays := harmless.permanent (List.ne_nil_of_mem member)
    constructor
    · change cacheStep slot.cached (some upsert) = some stored.grant
      rw [cached]
      exact if_pos stays
    · exact harmless.filter _
  | some owner =>
    rw [writer] at stands other
    obtain ⟨before, after, pending, harmless⟩ := stands
    have kept : isOther task (owner, some stored.grant) = true := by
      apply decide_eq_true
      intro same
      exact other (congrArg some same)
    refine ⟨before.filter (isOther task), after.filter (isOther task), ?_, harmless.filter _⟩
    change slot.pending.filter _ = _
    rw [pending, List.filter_append, List.filter_cons_of_pos kept]

theorem Sound.finish {task : Task} {effect : Option Grant}
    (sound : slot.Sound now) (member : (task, effect) ∈ slot.pending)
    (turn : slot.InTurn task effect) : (slot.finish task effect).Sound now := by
  obtain ⟨before, after, pending⟩ := List.append_of_mem member
  obtain ⟨first, rest⟩ := sound.place pending
  have in_turn := turn
  unfold InTurn at in_turn
  rw [first] at in_turn
  have settled : settle (cacheStep slot.cached effect) (before ++ after) =
      settle slot.cached slot.pending := by
    rw [pending]
    exact settle_inTurn in_turn
  constructor
  · exact sound.distinct.sublist (List.filter_sublist.map Prod.fst)
  · change live now (settle (cacheStep slot.cached effect)
      (slot.pending.filter _)) = live now slot.row
    rw [rest, settled]
    exact sound.coherent
  · intro stored present runs
    obtain ⟨old, old_present, rfl⟩ := Option.map_eq_some_iff.1 present
    have same : (if old.writer = some task then { old with writer := none }
        else old).grant = old.grant := by
      split <;> rfl
    rw [same] at runs ⊢
    exact sound.row old old_present runs
  · intro stored present runs
    obtain ⟨old, old_present, rfl⟩ := Option.map_eq_some_iff.1 present
    by_cases own : old.writer = some task
    · rw [if_pos own] at runs ⊢
      have returned := sound.stands_of_return member turn old_present runs own
      exact returned
    · rw [if_neg own] at runs ⊢
      exact sound.stands_of_other member old_present runs own

end Slot

end Slots

end AuthStore

end RoxabiFactory
