import RoxabiFactory.AudioPublish

/-!
# Audio replies that are told apart are not lost

While the window of the stream tells the audio of a call from all others, a
retry adds no second message and no message is dropped for another; while the
dedup store does so, the key of a message is live exactly if its own audio has
been played.
-/

namespace RoxabiFactory

namespace AudioReplies

/-! ## The key tells the ids apart -/

theorem hexByte_injective : Function.Injective hexByte := by
  have digits : ∀ first second : Fin 16,
      Nat.digitChar first = Nat.digitChar second → first = second := by
    decide
  intro first second same
  have high := digits ⟨first.toNat / 16, by have := first.toNat_lt; omega⟩
    ⟨second.toNat / 16, by have := second.toNat_lt; omega⟩
    (List.cons.inj same).1
  have low := digits ⟨first.toNat % 16, by omega⟩ ⟨second.toNat % 16, by omega⟩
    (List.cons.inj (List.cons.inj same).2).1
  have equal : first.toNat = second.toNat := by
    have quotient : first.toNat / 16 = second.toNat / 16 :=
      congrArg Fin.val high
    have remainder : first.toNat % 16 = second.toNat % 16 :=
      congrArg Fin.val low
    omega
  exact UInt8.toNat_inj.1 equal

theorem flatMap_hexByte_injective {first second : List UInt8}
    (same : first.flatMap hexByte = second.flatMap hexByte) :
    first = second := by
  induction first generalizing second with
  | nil =>
    cases second with
    | nil => rfl
    | cons byte bytes => cases same
  | cons byte bytes ih =>
    cases second with
    | nil => cases same
    | cons other others =>
      rw [List.flatMap_cons, List.flatMap_cons] at same
      obtain ⟨head, tail⟩ := List.append_inj same rfl
      rw [hexByte_injective head, ih tail]

theorem encodeKey_injective : Function.Injective encodeKey := by
  intro first second same
  have bytes := flatMap_hexByte_injective same
  apply String.toByteArray_inj.1
  exact ByteArray.ext (Array.toList_inj.1 bytes)

namespace AudioState

/-! ## What the publisher has done -/

section Publisher

variable {Call : Type} {inboundId : Call → String}
variable {state after : AudioState Call} {call : Call}

theorem calls_publish (call : Call) : (state.publish inboundId call).calls = state.calls := by
  unfold publish
  split <;> rfl

theorem notifications_publish (call : Call) :
    (state.publish inboundId call).notifications = state.notifications := by
  unfold publish
  split <;> rfl

variable [DecidableEq Call]

/-- How many messages of the stream have the audio of the call. -/
def copies (stream : List (Stored Call)) (call : Call) : ℕ :=
  stream.countP fun message => decide (message.call = call)

/-- The messages and the notifications of a call. -/
def Counts (messages notices : ℕ) : Option Progress → Prop
  | none => messages = 0 ∧ notices = 0
  | some (.publishing _ _) | some .failed => messages ≤ 1 ∧ notices = 0
  | some .finished => messages = 1 ∨ notices = 1

def Published (state : AudioState Call) : Prop :=
  ∀ call, Counts (copies state.stream call) (state.notifications.count call) (state.calls call)

theorem mem_of_copies_pos {stream : List (Stored Call)} (some : 0 < copies stream call) :
    ∃ message ∈ stream, message.call = call := by
  obtain ⟨message, member, same⟩ := List.countP_pos_iff.1 some
  exact ⟨message, member, of_decide_eq_true same⟩

theorem copies_pos_of_mem {stream : List (Stored Call)} {message : Stored Call}
    (member : message ∈ stream) (same : message.call = call) :
    0 < copies stream call :=
  List.countP_pos_iff.2 ⟨message, member, decide_eq_true same⟩

theorem copies_publish_of_ne {other : Call} (different : other ≠ call) :
    copies (state.publish inboundId call).stream other =
      copies state.stream other := by
  unfold publish
  split
  · rfl
  · unfold copies
    rw [List.countP_append, List.countP_singleton, if_neg]
    · rfl
    · simpa using different.symm

theorem copies_publish_self (apart : state.Distinguishes inboundId call state.clock)
    (most : copies state.stream call ≤ 1) :
    copies (state.publish inboundId call).stream call = 1 := by
  unfold publish
  split
  · rename_i duplicate
    obtain ⟨message, member, found⟩ := List.any_eq_true.1 duplicate
    obtain ⟨sameId, inWindow⟩ := Bool.and_eq_true_iff.1 found
    have own : message.call = call := (apart message member).2 (of_decide_eq_true sameId)
        (of_decide_eq_true inWindow)
    have stored := copies_pos_of_mem member own
    exact le_antisymm most stored
  · rename_i unseen
    have absent : copies state.stream call = 0 := by
      by_contra stored
      obtain ⟨message, member, own⟩ := mem_of_copies_pos (Nat.pos_of_ne_zero stored)
      apply unseen
      apply List.any_eq_true.2
      refine ⟨message, member, ?_⟩
      rw [own, decide_eq_true rfl, Bool.true_and]
      exact decide_eq_true ((apart message member).1 own)
    unfold copies at absent ⊢
    rw [List.countP_append, absent, List.countP_singleton, if_pos]
    exact decide_eq_true rfl

theorem Published.of_step (published : state.Published) (call : Call)
    (others : ∀ other, other ≠ call → after.calls other = state.calls other)
    (stream : ∀ other, other ≠ call → copies after.stream other = copies state.stream other)
    (notifications : ∀ other, other ≠ call →
      after.notifications.count other = state.notifications.count other)
    (own : Counts (copies after.stream call) (after.notifications.count call)
      (after.calls call)) : after.Published := by
  intro other
  by_cases same : other = call
  · rw [same]
    exact own
  · rw [others other same, stream other same, notifications other same]
    exact published other

theorem calls_setCall (progress : Progress) :
    (state.setCall call progress).calls call = some progress :=
  Function.update_self ..

theorem calls_setCall_of_ne {other : Call} (different : other ≠ call) (progress : Progress) :
    (state.setCall call progress).calls other = state.calls other :=
  Function.update_of_ne different ..

theorem counts_retry {messages : ℕ} (most : messages ≤ 1)
    (attempt now : ℕ) : Counts messages 0 (some (retry attempt now)) := by
  unfold retry
  split
  · exact ⟨most, rfl⟩
  · exact ⟨most, rfl⟩

theorem Published.render (published : state.Published) (free : state.calls call = none) :
    (state.setCall call (.publishing 0 state.clock)).Published := by
  apply published.of_step call
  · exact fun other different => calls_setCall_of_ne different _
  · exact fun _ _ => rfl
  · exact fun _ _ => rfl
  · rw [calls_setCall]
    have counts := published call
    rw [free] at counts
    exact ⟨counts.1.trans_le (Nat.zero_le 1), counts.2⟩

theorem Published.attempt (published : state.Published) {attempt notBefore : ℕ}
    (publishing : state.calls call = some (.publishing attempt notBefore))
    (outcome : Outcome)
    (apart : outcome ≠ .lost → state.Distinguishes inboundId call state.clock) :
    (state.attemptPublish inboundId call attempt outcome).Published := by
  have counts := published call
  rw [publishing] at counts
  obtain ⟨most, silent⟩ := counts
  have stored (reached : outcome ≠ .lost) : copies (state.publish inboundId call).stream call = 1 :=
    copies_publish_self (apart reached) most
  have others {other : Call} (different : other ≠ call) (progress : Progress) :
      ((state.publish inboundId call).setCall call progress).calls other =
        state.calls other := by
    rw [calls_setCall_of_ne different, calls_publish]
  have unnotified : (state.publish inboundId call).notifications.count call = 0 := by
    rw [notifications_publish]
    exact silent
  have unnotifies (other : Call) : (state.publish inboundId call).notifications.count other =
        state.notifications.count other := by
    rw [notifications_publish]
  cases outcome with
  | acknowledged =>
    have once := stored (by decide)
    apply published.of_step call
    · exact fun other different => others different _
    · exact fun other different => copies_publish_of_ne different
    · exact fun other _ => unnotifies other
    · rw [attemptPublish, calls_setCall]
      exact .inl once
  | unacknowledged =>
    have once := stored (by decide)
    apply published.of_step call
    · exact fun other different => others different _
    · exact fun other different => copies_publish_of_ne different
    · exact fun other _ => unnotifies other
    · rw [attemptPublish, calls_setCall]
      change Counts _ ((state.publish inboundId call).notifications.count call) _
      rw [unnotified]
      exact counts_retry once.le _ _
  | lost =>
    apply published.of_step call
    · exact fun other different => calls_setCall_of_ne different _
    · exact fun _ _ => rfl
    · exact fun _ _ => rfl
    · rw [attemptPublish, calls_setCall]
      change Counts _ (state.notifications.count call) _
      rw [silent]
      exact counts_retry most _ _

theorem Published.notify (published : state.Published)
    (failed : state.calls call = some .failed) {raises : Bool}
    (stored : raises = true → ∃ message ∈ state.stream, message.call = call) :
    (state.notifyFailed call raises).Published := by
  have counts := published call
  rw [failed] at counts
  obtain ⟨most, silent⟩ := counts
  apply published.of_step call
  · exact fun other different => calls_setCall_of_ne different _
  · exact fun _ _ => rfl
  · intro other different
    cases raises with
    | true => rfl
    | false => exact List.count_cons_of_ne different.symm
  · have finished : (state.notifyFailed call raises).calls call =
        some .finished := calls_setCall _
    rw [finished]
    cases raises with
    | true =>
      obtain ⟨message, member, own⟩ := stored rfl
      exact .inl (le_antisymm most (copies_pos_of_mem member own))
    | false =>
      apply Or.inr
      exact List.count_cons_self.trans (congrArg (· + 1) silent)

end Publisher

/-! ## What the adapter has done -/

section Adapter

variable {Call : Type} {inboundId : Call → String}
variable {state after : AudioState Call}

/-- The key of a message is live because of its own audio. -/
structure Delivered (inboundId : Call → String) (state : AudioState Call) : Prop where
  fresh : ∀ position, state.stream.length ≤ position → (state.delivery position).plays = []
  once : ∀ position, (state.delivery position).plays.length ≤ 1
  played : ∀ position, (state.delivery position).acked = true → (state.delivery position).plays ≠ []
  past : ∀ position, ∀ played ∈ (state.delivery position).plays, played ≤ state.clock
  marked : ∀ position, ∀ message ∈ state.stream[position]?,
    ∀ played ∈ (state.delivery position).plays,
      ∃ put, state.sent (encodeKey (inboundId message.call)) = some put ∧ played ≤ put
  owned : ∀ key put, state.sent key = some put → ∃ position, ∃ message ∈ state.stream[position]?,
      encodeKey (inboundId message.call) = key ∧ put ∈ (state.delivery position).plays

theorem Delivered.of_stream (delivered : state.Delivered inboundId)
    (stream : state.stream <+: after.stream)
    (delivery : after.delivery = state.delivery)
    (sent : after.sent = state.sent) (clock : state.clock ≤ after.clock) :
    after.Delivered inboundId := by
  have same {position : ℕ} (inside : position < state.stream.length) :
      after.stream[position]? = state.stream[position]? := by
    obtain ⟨rest, grown⟩ := stream
    rw [← grown, List.getElem?_append_left inside]
  constructor
  · intro position beyond
    rw [delivery]
    exact delivered.fresh position (stream.length_le.trans beyond)
  · rw [delivery]
    exact delivered.once
  · rw [delivery]
    exact delivered.played
  · intro position played own
    rw [delivery] at own
    exact (delivered.past position played own).trans clock
  · intro position message stored played own
    rw [delivery] at own
    rw [sent]
    apply delivered.marked position message _ played own
    by_cases inside : position < state.stream.length
    · exact (same inside).symm.trans stored
    · rw [delivered.fresh position (not_lt.1 inside)] at own
      cases own
  · intro key put live
    rw [sent] at live
    obtain ⟨position, message, stored, named, own⟩ := delivered.owned key put live
    refine ⟨position, message, ?_, named, ?_⟩
    · obtain ⟨inside, -⟩ := List.getElem?_eq_some_iff.1 stored
      exact (same inside).trans stored
    · rw [delivery]
      exact own

theorem prefix_publish (call : Call) : state.stream <+: (state.publish inboundId call).stream := by
  unfold publish
  split
  · exact List.prefix_rfl
  · exact List.prefix_append _ _

theorem delivery_publish (call : Call) : (state.publish inboundId call).delivery = state.delivery ∧
      (state.publish inboundId call).sent = state.sent ∧
      (state.publish inboundId call).clock = state.clock := by
  unfold publish
  split <;> exact ⟨rfl, rfl, rfl⟩

variable {position : ℕ} {message : Stored Call} {delivery : Delivery}

theorem delivery_setDelivery : (state.setDelivery position delivery).delivery position = delivery :=
  Function.update_self ..

theorem delivery_setDelivery_of_ne {other : ℕ} (different : other ≠ position) :
    (state.setDelivery position delivery).delivery other = state.delivery other :=
  Function.update_of_ne different ..

theorem Delivered.setDelivery (delivered : state.Delivered inboundId)
    (plays : delivery.plays = (state.delivery position).plays)
    (acked : delivery.acked = true → delivery.plays ≠ []) :
    (state.setDelivery position delivery).Delivered inboundId := by
  have same (other : ℕ) : ((state.setDelivery position delivery).delivery other).plays =
        (state.delivery other).plays := by
    by_cases equal : other = position
    · rw [equal, delivery_setDelivery, plays]
    · rw [delivery_setDelivery_of_ne equal]
  constructor
  · intro other beyond
    rw [same]
    exact delivered.fresh other beyond
  · intro other
    rw [same]
    exact delivered.once other
  · intro other away
    by_cases equal : other = position
    · rw [equal, delivery_setDelivery] at away ⊢
      exact acked away
    · rw [delivery_setDelivery_of_ne equal] at away ⊢
      exact delivered.played other away
  · intro other played own
    rw [same] at own
    exact delivered.past other played own
  · intro other another stored played own
    rw [same] at own
    exact delivered.marked other another stored played own
  · intro key put live
    obtain ⟨other, another, stored, named, own⟩ := delivered.owned key put live
    refine ⟨other, another, stored, named, ?_⟩
    rw [same]
    exact own

theorem Delivered.play (delivered : state.Delivered inboundId)
    (stored : state.stream[position]? = some message)
    (unplayed : (state.delivery position).plays = [])
    (plays : delivery.plays = [state.clock]) :
    ((state.markSent (inboundId message.call)).setDelivery position
      delivery).Delivered inboundId := by
  have delivery_eq {other : ℕ} (different : other ≠ position) :
      ((state.markSent (inboundId message.call)).setDelivery position
        delivery).delivery other = state.delivery other :=
    Function.update_of_ne different ..
  have own : ((state.markSent (inboundId message.call)).setDelivery position
      delivery).delivery position = delivery :=
    Function.update_self ..
  constructor
  · intro other beyond
    have different : other ≠ position := by
      intro same
      obtain ⟨inside, -⟩ := List.getElem?_eq_some_iff.1 stored
      exact absurd inside (not_lt.2 (same ▸ beyond))
    rw [delivery_eq different]
    exact delivered.fresh other beyond
  · intro other
    by_cases same : other = position
    · rw [same, own, plays]
      exact le_rfl
    · rw [delivery_eq same]
      exact delivered.once other
  · intro other away
    by_cases same : other = position
    · rw [same, own, plays]
      exact List.cons_ne_nil _ _
    · rw [delivery_eq same] at away ⊢
      exact delivered.played other away
  · intro other played its
    by_cases same : other = position
    · rw [same, own, plays] at its
      exact (List.mem_singleton.1 its).le
    · rw [delivery_eq same] at its
      exact delivered.past other played its
  · intro other another holds played its
    change ∃ put, Function.update state.sent (encodeKey (inboundId message.call)) (some state.clock)
      (encodeKey (inboundId another.call)) = some put ∧ played ≤ put
    have past : played ≤ state.clock := by
      by_cases same : other = position
      · rw [same, own, plays] at its
        exact (List.mem_singleton.1 its).le
      · rw [delivery_eq same] at its
        exact delivered.past other played its
    by_cases sameKey : encodeKey (inboundId another.call) = encodeKey (inboundId message.call)
    · rw [sameKey, Function.update_self]
      exact ⟨state.clock, rfl, past⟩
    · rw [Function.update_of_ne sameKey]
      have different : other ≠ position := by
        intro same
        rw [same] at holds
        cases stored.symm.trans holds
        exact sameKey rfl
      rw [delivery_eq different] at its
      exact delivered.marked other another holds played its
  · intro key put live
    by_cases sameKey : key = encodeKey (inboundId message.call)
    · rw [sameKey] at live ⊢
      cases (Function.update_self ..).symm.trans live
      refine ⟨position, message, stored, rfl, ?_⟩
      rw [own, plays]
      exact List.mem_singleton_self _
    · have before : state.sent key = some put := (Function.update_of_ne sameKey ..).symm.trans live
      obtain ⟨other, another, holds, named, its⟩ := delivered.owned key put before
      refine ⟨other, another, holds, named, ?_⟩
      have different : other ≠ position := by
        intro same
        rw [same, unplayed] at its
        cases its
      rw [delivery_eq different]
      exact its

theorem Delivered.plays_of_alreadySent (delivered : state.Delivered inboundId)
    (remembers : state.Remembers inboundId position message state.clock)
    (live : state.alreadySent (inboundId message.call) = true) :
    (state.delivery position).plays ≠ [] := by
  obtain ⟨put, marked, recent⟩ := (Option.any_eq_true _ _).1 live
  obtain ⟨other, another, stored, named, played⟩ := delivered.owned _ put marked
  by_cases same : other = position
  · rw [← same]
    exact List.ne_nil_of_mem played
  · obtain ⟨inside, -⟩ := List.getElem?_eq_some_iff.1 stored
    have old := remembers.2.2 other inside same another stored
      (encodeKey_injective named) put played
    exact absurd (of_decide_eq_true recent) (not_lt.2 old)

theorem Delivered.plays_eq_nil (delivered : state.Delivered inboundId)
    (stored : state.stream[position]? = some message)
    (remembers : state.Remembers inboundId position message state.clock)
    (dead : ¬state.alreadySent (inboundId message.call) = true) :
    (state.delivery position).plays = [] := by
  rw [List.eq_nil_iff_forall_not_mem]
  intro played own
  obtain ⟨put, marked, later⟩ := delivered.marked position message stored played own
  apply dead
  apply (Option.any_eq_true _ _).2
  refine ⟨put, marked, ?_⟩
  have recent := remembers.2.1 played own
  exact decide_eq_true (by omega)

theorem Delivered.process (delivered : state.Delivered inboundId)
    (stored : state.stream[position]? = some message)
    (remembers : state.Remembers inboundId position message state.clock)
    (pending : IsPending (state.delivery position)) (sends replies : Bool) :
    (state.process inboundId position message sends replies).Delivered
      inboundId := by
  have unacked {plays : List ℕ} (acked : (state.delivery position).acked = true) : plays ≠ [] := by
    rw [pending.1] at acked
    cases acked
  unfold AudioState.process
  rw [if_neg remembers.1]
  split
  · rename_i live
    apply delivered.setDelivery
    · rfl
    · intro _
      exact delivered.plays_of_alreadySent remembers live
  · rename_i dead
    have unplayed := delivered.plays_eq_nil stored remembers dead
    split
    · apply delivered.play stored unplayed
      exact congrArg (state.clock :: ·) unplayed
    · split
      · exact delivered.setDelivery rfl unacked
      · exact delivered.setDelivery rfl unacked

theorem process_eq (position : ℕ) (message : Stored Call) (sends replies : Bool) :
    ∃ sent delivery, state.process inboundId position message sends replies =
      { state with sent := sent, delivery := delivery } := by
  unfold AudioState.process
  dsimp only
  split
  · exact ⟨_, _, rfl⟩
  · split
    · exact ⟨_, _, rfl⟩
    · split
      · exact ⟨_, _, rfl⟩
      · split
        · exact ⟨_, _, rfl⟩
        · exact ⟨_, _, rfl⟩

end Adapter

/-! ## Every run -/

section Runs

variable {Call : Type} [DecidableEq Call] {inboundId : Call → String}
variable {state after : AudioState Call}

/-- What holds while the audios are told apart. -/
structure Sound (inboundId : Call → String) (state : AudioState Call) : Prop where
  published : state.Published
  delivered : state.Delivered inboundId

theorem Sound.attempt (sound : state.Sound inboundId) {call : Call} {attempt notBefore : ℕ}
    (publishing : state.calls call = some (.publishing attempt notBefore))
    (outcome : Outcome)
    (apart : outcome ≠ .lost → state.Distinguishes inboundId call state.clock) :
    (state.attemptPublish inboundId call attempt outcome).Sound inboundId := by
  constructor
  · exact sound.published.attempt publishing outcome apart
  · obtain ⟨delivery, sent, clock⟩ : (state.publish inboundId call).delivery =
          state.delivery ∧ (state.publish inboundId call).sent = state.sent ∧
        (state.publish inboundId call).clock = state.clock :=
      delivery_publish call
    cases outcome with
    | acknowledged | unacknowledged =>
      exact sound.delivered.of_stream (prefix_publish call) delivery sent clock.ge
    | lost =>
      exact sound.delivered.of_stream List.prefix_rfl rfl rfl le_rfl

theorem Sound.step {action : AudioAction Call} (sound : state.Sound inboundId)
    (apart : state.KeepsApart inboundId action)
    (steps : state.step inboundId action = some after) :
    after.Sound inboundId := by
  unfold AudioState.step at steps
  split at steps
  · rename_i later
    have middle : ({ state with clock := action.now } :
        AudioState Call).Sound inboundId :=
      ⟨sound.published, sound.delivered.of_stream List.prefix_rfl rfl rfl later⟩
    unfold KeepsApart at apart
    cases event : action.event with
    | render call =>
      rw [event, perform] at steps
      split at steps
      · rename_i free
        cases steps
        exact ⟨middle.published.render free,
          middle.delivered.of_stream List.prefix_rfl rfl rfl le_rfl⟩
      · cases steps
    | attempt call outcome =>
      rw [event] at apart
      rw [event, perform] at steps
      split at steps
      · rename_i publishing
        split at steps
        · cases steps
          apply middle.attempt publishing outcome
          intro reached
          cases outcome with
          | acknowledged => exact apart
          | unacknowledged => exact apart
          | lost => exact absurd rfl reached
        · cases steps
      · cases steps
    | notify call raises =>
      rw [event] at apart
      rw [event, perform] at steps
      split at steps
      · rename_i failed
        cases steps
        exact ⟨middle.published.notify failed apart,
          middle.delivered.of_stream List.prefix_rfl rfl rfl le_rfl⟩
      · cases steps
    | deliver position sends replies =>
      rw [event] at apart
      rw [event, perform] at steps
      split at steps
      · rename_i message stored
        split at steps
        · rename_i pending
          cases steps
          constructor
          · obtain ⟨sent, delivery, same⟩ := process_eq position message sends replies
            rw [same]
            exact middle.published
          · exact middle.delivered.process stored (apart message stored) pending sends replies
        · cases steps
      · cases steps
  · cases steps

theorem sound_of_initial (initially : (audioSystem inboundId).initial state) :
    state.Sound inboundId := by
  obtain ⟨calls, stream, notifications, sent, delivery⟩ := initially
  constructor
  · intro call
    rw [calls, stream, notifications]
    exact ⟨rfl, rfl⟩
  · constructor
    · intro position _
      rw [delivery]
    · intro position
      rw [delivery]
      exact Nat.zero_le 1
    · intro position acked
      rw [delivery] at acked
      cases acked
    · intro position played own
      rw [delivery] at own
      cases own
    · intro position message stored played own
      rw [delivery] at own
      cases own
    · intro key put live
      rw [sent] at live
      cases live

/-- While the audios are told apart, each one is stored or reported, and what
is stored is played once. -/
theorem accounted_of_reachable (reached : (audioSystem inboundId).ReachableWithin
      (fun state => state.KeepsApart inboundId) state) :
    state.Accounted := by
  have sound : state.Sound inboundId := by
    apply reached.invariant
    · exact fun _ initially => sound_of_initial initially
    · exact fun _ _ _ sound apart steps => sound.step apart steps
  constructor
  · intro call finished
    have counts := sound.published call
    rw [finished] at counts
    exact counts
  · exact sound.delivered.once
  · exact sound.delivered.played

end Runs

section Example

/-- Nothing has happened yet. -/
def silent : AudioState Bool where
  clock := 0
  calls _ := none
  stream := []
  notifications := []
  sent _ := none
  delivery _ := { }

theorem initial_silent (inboundId : Bool → String) : (audioSystem inboundId).initial silent :=
  ⟨fun _ => rfl, rfl, rfl, fun _ => rfl, fun _ => rfl⟩

def answersTwo (call : Bool) : String :=
  if call then "tg:1" else "tg:2"

/-- One audio is published by the second attempt, after the broker has stored
it in the first one, and it is delivered twice; the other one is never
published. -/
def told : List (AudioAction Bool) := [⟨0, .render true⟩, ⟨10, .attempt true .unacknowledged⟩,
    ⟨20, .render false⟩, ⟨30, .attempt false .lost⟩,
    ⟨300, .attempt true .acknowledged⟩, ⟨310, .deliver 0 true false⟩,
    ⟨320, .attempt false .lost⟩, ⟨900, .attempt false .lost⟩,
    ⟨910, .notify false false⟩, ⟨90310, .deliver 0 true true⟩]

/-- Both audios are accounted for. -/
theorem accounted_told : ∃ state : AudioState Bool,
    (audioSystem answersTwo).run silent told = some state ∧
      state.stream = [⟨true, 10⟩] ∧ state.notifications = [false] ∧
      state.Accounted := by
  have run : ∃ state : AudioState Bool, (audioSystem answersTwo).checkedRun
        (fun state => state.KeepsApart answersTwo) silent told = some state ∧
      (state.stream = [⟨true, 10⟩] ∧ state.notifications = [false]) := by
    have runs : ((audioSystem answersTwo).checkedRun
        (fun state => state.KeepsApart answersTwo) silent told).any
          (fun state => decide (state.stream = [⟨true, 10⟩] ∧
            state.notifications = [false])) = true := by
      decide
    obtain ⟨state, found, evaluated⟩ := (Option.any_eq_true _ _).1 runs
    exact ⟨state, found, of_decide_eq_true evaluated⟩
  obtain ⟨state, runs, stream, notifications⟩ := run
  have start : (audioSystem answersTwo).ReachableWithin
      (fun state => state.KeepsApart answersTwo) silent :=
    .start (initial_silent answersTwo)
  refine ⟨state, TransitionSystem.run_of_checkedRun runs, stream, notifications, ?_⟩
  exact accounted_of_reachable (.of_checkedRun silent start told runs)

/-- Both calls answer the same message. -/
def answersOne (_ : Bool) : String := "tg:1"

/-- The broker drops the second audio as a duplicate of the first one, and
acknowledges it. -/
def twoReplies : List (AudioAction Bool) := [⟨0, .render true⟩, ⟨10, .attempt true .acknowledged⟩,
    ⟨5000, .render false⟩, ⟨5010, .attempt false .acknowledged⟩]

/-- The second audio is neither stored nor reported. -/
theorem exists_unaccounted : ∃ state : AudioState Bool,
    (audioSystem answersOne).Reachable state ∧ ¬state.Accounted := by
  have run : ∃ state : AudioState Bool, (audioSystem answersOne).Reachable state ∧
        (state.calls false = some .finished ∧ state.stream = [⟨true, 10⟩] ∧
          state.notifications = []) :=
    TransitionSystem.exists_reachable_of_run silent (initial_silent answersOne)
      twoReplies (by decide)
  obtain ⟨state, reached, finished, stream, notifications⟩ := run
  refine ⟨state, reached, ?_⟩
  intro accounted
  have one := accounted.finished false finished
  rw [stream, notifications] at one
  exact absurd one (by decide)

end Example

end AudioState

end AudioReplies

end RoxabiFactory
