import RoxabiFactory.WebSessionTurns

/-!
# The streams of a session

A stream takes events out of the session of its post, and its end closes the
session.  While the posts of a session come one after the other, all of this
keeps the invariant, and each post gets its own answer.
-/

namespace RoxabiFactory

namespace Web

namespace State

section Steps

variable {Turn Client : Type}
variable {state after : State Turn Client} {turn : Turn}
variable {client : Client} {stream changed : Stream Turn}

theorem eq_or_of_update {Key Value : Type} [DecidableEq Key]
    {values : Key → Option Value} {key other : Key} {new value : Value}
    (found : Function.update values key (some new) other = some value) :
    (other = key ∧ value = new) ∨ (other ≠ key ∧ values other = some value) := by
  by_cases same : other = key
  · rw [same, Function.update_self] at found
    cases found
    exact .inl ⟨same, rfl⟩
  · rw [Function.update_of_ne same] at found
    exact .inr ⟨same, found⟩

theorem Sound.posted (sound : state.Sound) (found : state.streams client = some stream) :
    ∃ post, state.posts stream.turn = some post ∧ stream.Follows post :=
  (sound.stream client stream found).2

theorem Sound.client_eq (sound : state.Sound)
    (found : state.streams client = some stream) (live : stream.Live)
    {other : Client} {second : Stream Turn}
    (also : state.streams other = some second) (alive : second.Live)
    (same : second.turn = stream.turn) : other = client := by
  obtain ⟨post, known, follows⟩ := sound.posted found
  obtain ⟨again, listed, tracks⟩ := sound.posted also
  rw [same, known] at listed
  cases listed
  exact sound.lone other second client stream also found alive live
    (tracks.session.symm.trans follows.session)

variable [DecidableEq Client]

theorem Delivered.setStream {delivered : List (Turn × WebEvent)}
    (received : state.Delivered turn delivered)
    (before : ∀ stream, state.streams client = some stream → stream.turn ≠ turn)
    (differ : changed.turn ≠ turn)
    (streams : after.streams = Function.update state.streams client (some changed)) :
    after.Delivered turn delivered := by
  constructor
  · intro other second opened own live
    rw [streams] at opened
    by_cases same : other = client
    · rw [same, Function.update_self] at opened
      cases opened
      exact absurd own differ
    · rw [Function.update_of_ne same] at opened
      exact received.received other second opened own live
  · intro some
    obtain ⟨other, second, opened, own, live⟩ := received.receiver some
    refine ⟨other, second, ?_, own, live⟩
    have apart : other ≠ client := by
      intro same
      rw [same] at opened
      exact before second opened own
    rw [streams, Function.update_of_ne apart]
    exact opened

variable [DecidableEq Turn]

theorem Sound.advance (sound : state.Sound)
    (found : state.streams client = some stream) (live : stream.Live)
    (changed : Stream Turn) (turn : changed.turn = stream.turn)
    (session : changed.session = stream.session)
    (format : changed.format = stream.format)
    (held : changed.closings = stream.closings)
    (kept : changed.Sound) (unended : changed.phase ≠ .ended)
    (posts : after.posts = state.posts) (tokens : after.tokens = state.tokens)
    (closings : after.closings = state.closings)
    (streams : after.streams = Function.update state.streams client (some changed))
    (sessions : ∀ id, id ≠ stream.session → after.sessions id = state.sessions id)
    (takes : ∀ post, state.Current stream.turn post → post.session = stream.session →
      (changed.received.map Prod.snd).Sublist post.published ∧
      ∃ session delivered, after.sessions stream.session = some session ∧
        session.streamFormat = post.format ∧
        Flow stream.turn post.format post.published post.finished delivered session.queue ∧
        (changed.Live → changed.received = delivered) ∧
        (delivered ≠ [] → changed.Live)) :
    after.Sound := by
  obtain ⟨post, known, follows⟩ := sound.posted found
  have current := sound.current stream.turn post known (follows.unclosed live)
  obtain ⟨order, own, items, looked, agrees, flow, received, receiver⟩ :=
    takes post current follows.session
  have lookup (other : Client) (second : Stream Turn) (opened : after.streams other = some second) :
      (other = client ∧ second = changed) ∨
        (other ≠ client ∧ state.streams other = some second) := by
    rw [streams] at opened
    exact eq_or_of_update opened
  constructor
  · rw [posts, tokens]
    exact sound.unposted
  · intro other second opened
    rw [posts]
    rcases lookup other second opened with ⟨rfl, rfl⟩ | ⟨-, before⟩
    · refine ⟨kept, post, ?_, ?_⟩
      · rw [turn]
        exact known
      · exact ⟨follows.session.trans session.symm, follows.format.trans format.symm, follows.minted,
          fun _ => follows.unclosed live, order⟩
    · exact sound.stream other second before
  · intro other second opened alive
    rw [closings]
    rcases lookup other second opened with ⟨rfl, rfl⟩ | ⟨-, before⟩
    · rw [held, session]
      exact sound.session other stream found live
    · exact sound.session other second before alive
  · intro first one other second opened also alive well same
    rcases lookup first one opened with ⟨rfl, rfl⟩ | ⟨-, before⟩
    · rcases lookup other second also with ⟨rfl, rfl⟩ | ⟨-, known⟩
      · rfl
      · exact sound.lone first stream other second found known live well (session.symm.trans same)
    · rcases lookup other second also with ⟨rfl, rfl⟩ | ⟨-, known⟩
      · exact sound.lone first one other stream before found alive live (same.trans session)
      · exact sound.lone first one other second before known alive well same
  · intro other second listed unclosed
    rw [posts] at listed
    have before := sound.current other second listed unclosed
    by_cases same : other = stream.turn
    · subst same
      rw [known] at listed
      cases listed
      constructor
      · rw [posts]
        exact before.alone
      · rw [tokens]
        exact before.token
      · rw [follows.session]
        refine ⟨own, items, looked, agrees, flow, ?_, ?_⟩
        · intro third again opened owned alive
          rcases lookup third again opened with ⟨rfl, rfl⟩ | ⟨differ, known⟩
          · exact received alive
          · exact absurd (sound.client_eq found live known alive owned) differ
        · intro some
          refine ⟨client, changed, ?_, turn, receiver some⟩
          rw [streams]
          exact Function.update_self ..
    · have apart : second.session ≠ stream.session := by
        rw [← follows.session]
        exact sound.session_ne known (.inr (follows.unclosed live)) listed unclosed same
      obtain ⟨session, items, looked, agrees, flow, received⟩ := before.flow
      constructor
      · rw [posts]
        exact before.alone
      · rw [tokens]
        exact before.token
      · rw [sessions _ apart]
        refine ⟨session, items, looked, agrees, flow, ?_⟩
        apply received.setStream _ _ streams
        · intro again opened
          rw [found] at opened
          cases opened
          exact Ne.symm same
        · rw [turn]
          exact Ne.symm same
  · intro other second listed closed
    rw [posts] at listed
    have before := sound.past other second listed closed
    obtain ⟨third, again, opened, owned, isOver⟩ := before.stream
    constructor
    · exact before.minted
    · rw [tokens]
      exact before.revoked
    · refine ⟨third, again, ?_, owned, isOver⟩
      have apart : third ≠ client := by
        intro same
        rw [same, found] at opened
        cases opened
        exact live.1 isOver
      rw [streams, Function.update_of_ne apart]
      exact opened

theorem Sound.setPhase (sound : state.Sound)
    (found : state.streams client = some stream) (live : stream.Live)
    (phase : Phase) (left : Bool) (unended : phase ≠ .ended)
    (kept : { stream with phase := phase, left := left : Stream Turn }.Sound)
    (stays : stream.received ≠ [] → phase ≠ .dropped) :
    (state.setStream client { stream with phase := phase, left := left }).Sound := by
  apply sound.advance found live { stream with phase := phase, left := left }
  · rfl
  · rfl
  · rfl
  · rfl
  · exact kept
  · exact unended
  · rfl
  · rfl
  · rfl
  · rfl
  · intro id differ
    rfl
  · intro post current same
    obtain ⟨session, delivered, looked, agrees, flow, received⟩ := current.flow
    rw [same] at looked
    have all := received.received client stream found rfl live
    refine ⟨?_, session, delivered, looked, agrees, flow, fun _ => all, ?_⟩
    · change (stream.received.map Prod.snd).Sublist _
      rw [all]
      exact flow.delivered_sublist
    · intro some
      rw [← all] at some
      exact ⟨unended, stays some⟩

theorem Sound.start (sound : state.Sound) (found : state.streams client = some stream)
    (opened : stream.phase = .opened) :
    (state.setStream client { stream with phase := .running }).Sound := by
  obtain ⟨own, early, -⟩ := (sound.stream client stream found).1
  have live : stream.Live := by
    unfold Stream.Live
    rw [opened]
    decide
  apply sound.setPhase found live .running stream.left
  · decide
  · constructor
    · exact own
    · intro phase
      exact early (.inl opened)
    · intro phase
      rcases phase with isOver | isOver <;> cases isOver
  · intro _
    decide

theorem Sound.drop (sound : state.Sound) (found : state.streams client = some stream)
    (opened : stream.phase = .opened) :
    (state.setStream client { stream with phase := .dropped }).Sound := by
  obtain ⟨own, early, -⟩ := (sound.stream client stream found).1
  have live : stream.Live := by
    unfold Stream.Live
    rw [opened]
    decide
  apply sound.setPhase found live .dropped stream.left
  · decide
  · constructor
    · exact own
    · intro phase
      exact early (.inl opened)
    · intro phase
      rcases phase with isOver | isOver <;> cases isOver
  · intro some
    exact absurd (early (.inl opened)) some

theorem Sound.leave (sound : state.Sound) (found : state.streams client = some stream)
    (running : stream.phase = .running) :
    (state.setStream client { stream with phase := .finishing, left := true }).Sound := by
  obtain ⟨own, -, -⟩ := (sound.stream client stream found).1
  have live : stream.Live := by
    unfold Stream.Live
    rw [running]
    decide
  apply sound.setPhase found live .finishing true
  · decide
  · constructor
    · exact own
    · intro phase
      rcases phase with isOver | isOver <;> cases isOver
    · intro phase left
      cases left
  · intro _
    decide

theorem Sound.read (sound : state.Sound) (found : state.streams client = some stream)
    (running : stream.phase = .running)
    (step : state.read client stream = some after) : after.Sound := by
  obtain ⟨own, -, -⟩ := (sound.stream client stream found).1
  have live : stream.Live := by
    unfold Stream.Live
    rw [running]
    decide
  unfold State.read at step
  rw [if_pos (sound.session client stream found live)] at step
  cases looked : state.sessions stream.session with
  | none =>
    rw [looked] at step
    cases step
  | some session =>
    rw [looked] at step
    cases queue : session.queue with
    | nil =>
      simp only [queue] at step
      cases step
    | cons item rest =>
      simp only [queue, Option.some.injEq] at step
      subst step
      obtain ⟨post, known, follows⟩ := sound.posted found
      have taken (post : Post) (current : state.Current stream.turn post)
          (same : post.session = stream.session) :
          ∃ delivered, stream.received = delivered ∧ session.streamFormat = post.format ∧
            Flow stream.turn post.format post.published post.finished delivered (item :: rest) := by
        obtain ⟨other, delivered, held, agrees, flow, received⟩ := current.flow
        rw [same, looked] at held
        cases held
        rw [queue] at flow
        exact ⟨delivered, received.received client stream found rfl live, agrees, flow⟩
      have item_turn : item.1 = stream.turn := by
        obtain ⟨delivered, -, -, flow⟩ := taken post
          (sound.current _ post known (follows.unclosed live))
          follows.session
        exact (flow.mem (List.mem_append_right _ List.mem_cons_self)).1
      apply sound.advance found live
        { stream with
          received := stream.received ++ [item]
          phase := if isStreamTerminal item.2 stream.format
            then .finishing else .running }
      · rfl
      · rfl
      · rfl
      · rfl
      · constructor
        · intro other member
          rcases List.mem_append.1 member with old | new
          · exact own other old
          · rw [List.mem_singleton.1 new]
            exact item_turn
        · intro phase
          simp only at phase
          split at phase <;> rcases phase with early | early <;>
            cases early
        · intro phase _
          refine ⟨item.2, ?_, ?_⟩
          · change (stream.received ++ [item]).getLast? = _
            rw [List.getLast?_concat, ← item_turn]
          · simp only at phase
            split at phase
            · rename_i terminal
              exact terminal
            · rcases phase with isOver | isOver <;> cases isOver
      · simp only
        split <;> decide
      · rfl
      · rfl
      · rfl
      · rfl
      · intro id differ
        exact Function.update_of_ne differ _ _
      · intro post current same
        obtain ⟨delivered, all, agrees, flow⟩ := taken post current same
        have next := flow.take
        refine ⟨?_, _, delivered ++ [item], Function.update_self .., agrees, next, ?_, ?_⟩
        · change ((stream.received ++ [item]).map Prod.snd).Sublist _
          rw [all]
          exact next.delivered_sublist
        · intro _
          change stream.received ++ [item] = _
          rw [all]
        · intro _
          unfold Stream.Live
          simp only
          split <;> decide

theorem Sound.openStream (sound : state.Sound)
    (absent : state.streams client = none) (id : String) (turn : Turn)
    (format : StreamFormat)
    (quiet : ∀ client, ∀ stream ∈ state.streams client, stream.session = id → ¬ stream.Live) :
    (state.openStream client id turn format).Sound := by
  unfold State.openStream
  by_cases allowed : (state.tokens turn &&
      (state.posts turn).any fun post => post.session = id) = true
  swap
  · rw [if_neg allowed]
    exact sound
  rw [if_pos allowed]
  obtain ⟨registered, bound⟩ := Bool.and_eq_true_iff.1 allowed
  obtain ⟨post, known, same⟩ := (Option.any_eq_true _ _).1 bound
  have owner : post.session = id := of_decide_eq_true same
  have unclosed : post.closed = false := by
    apply Bool.eq_false_of_not_eq_true
    intro closed
    rw [(sound.past turn post known closed).revoked] at registered
    cases registered
  have current := sound.current turn post known unclosed
  obtain ⟨session, delivered, looked, agrees, flow, received⟩ := current.flow
  have empty : delivered = [] := by
    apply received.eq_nil sound known
    rw [owner]
    exact quiet
  rw [owner] at looked
  -- `get_or_create` finds the session.
  have found : state.session id = session := by
    unfold State.session
    rw [looked]
    rfl
  have unchanged : state.setSession id (state.session id) = state := by
    unfold State.setSession
    rw [found, ← looked, Function.update_eq_self]
  simp only [unchanged]
  split
  swap
  · exact sound
  rename_i match'
  rw [found, agrees] at match'
  have fresh (other : Client) (second : Stream Turn)
      (opened : state.streams other = some second) : other ≠ client := by
    intro same
    rw [same, absent] at opened
    cases opened
  constructor
  · exact sound.unposted
  · intro other second opened
    rcases eq_or_of_update opened with ⟨rfl, rfl⟩ | ⟨-, before⟩
    · constructor
      · constructor
        · intro item member
          cases member
        · intro _
          rfl
        · intro phase
          rcases phase with isOver | isOver <;> cases isOver
      · exact ⟨post, known, owner, match', current.token.symm.trans registered,
          fun _ => unclosed, List.nil_sublist _⟩
    · exact sound.stream other second before
  · intro other second opened live
    rcases eq_or_of_update opened with ⟨rfl, rfl⟩ | ⟨-, before⟩
    · rfl
    · exact sound.session other second before live
  · intro first one other second opened also live alive same
    rcases eq_or_of_update opened with ⟨rfl, rfl⟩ | ⟨-, before⟩
    · rcases eq_or_of_update also with ⟨rfl, rfl⟩ | ⟨-, known⟩
      · rfl
      · exact absurd alive (quiet other second known same.symm)
    · rcases eq_or_of_update also with ⟨rfl, rfl⟩ | ⟨-, known⟩
      · exact absurd live (quiet first one before same)
      · exact sound.lone first one other second before known live alive same
  · intro other second listed unclosed
    have before := sound.current other second listed unclosed
    obtain ⟨session, items, looked, agrees, flow, delivers⟩ := before.flow
    refine ⟨before.alone, before.token, session, items, looked, agrees, flow, ?_⟩
    by_cases mine : other = turn
    · subst mine
      cases known.symm.trans listed
      have none := delivers.eq_nil sound known (by rw [owner]; exact quiet)
      rw [none]
      constructor
      · intro third again opened own live
        rcases eq_or_of_update opened with ⟨rfl, rfl⟩ | ⟨-, before⟩
        · rfl
        · rw [← none]
          exact delivers.received third again before own live
      · intro some
        exact absurd rfl some
    · apply delivers.setStream _ (Ne.symm mine) rfl
      intro again opened
      rw [absent] at opened
      cases opened
  · intro other second listed closed
    obtain ⟨minted, revoked, third, again, opened, own, isOver⟩ :=
      sound.past other second listed closed
    exact ⟨minted, revoked, third, again,
      (Function.update_of_ne (fresh third again opened) _ _).trans opened, own,
      isOver⟩

theorem Sound.cleanup (sound : state.Sound) (found : state.streams client = some stream)
    (finishing : stream.phase = .finishing) :
    (state.cleanup client stream).Sound := by
  obtain ⟨post, known, follows⟩ := sound.posted found
  obtain ⟨own, -, ends⟩ := (sound.stream client stream found).1
  have live : stream.Live := by
    unfold Stream.Live
    rw [finishing]
    decide
  have unclosed := follows.unclosed live
  have current := sound.current stream.turn post known unclosed
  have isOver : ¬ ({ stream with phase := .ended } : Stream Turn).Live :=
    fun alive => alive.1 rfl
  have kept : ({ stream with phase := .ended } : Stream Turn).Sound := by
    constructor
    · exact own
    · intro phase
      rcases phase with early | early <;> cases early
    · intro _ left
      exact ends (.inl finishing) left
  unfold State.cleanup
  simp only [known]
  constructor
  · intro other none
    have apart : other ≠ stream.turn := by
      intro same
      subst same
      cases (Function.update_self ..).symm.trans none
    have before := (Function.update_of_ne apart _ _).symm.trans none
    change (state.tokens other && _) = false
    rw [sound.unposted other before]
    rfl
  · intro other second opened
    rcases eq_or_of_update opened with ⟨rfl, rfl⟩ | ⟨differ, before⟩
    · refine ⟨kept, _, Function.update_self .., follows.session,
        follows.format, follows.minted, fun alive => absurd alive isOver,
        follows.order⟩
    · obtain ⟨steady, earlier, listed, tracks⟩ := sound.stream other second before
      refine ⟨steady, ?_⟩
      by_cases same : second.turn = stream.turn
      · rw [same] at listed ⊢
        rw [known] at listed
        cases listed
        refine ⟨_, Function.update_self .., tracks.session, tracks.format,
          tracks.minted, ?_, tracks.order⟩
        intro alive
        exact absurd (sound.client_eq found live before alive same) differ
      · exact ⟨earlier, (Function.update_of_ne same _ _).trans listed, tracks⟩
  · intro other second opened alive
    rcases eq_or_of_update opened with ⟨rfl, rfl⟩ | ⟨differ, before⟩
    · exact absurd alive isOver
    · have apart : second.session ≠ stream.session := by
        intro same
        exact differ (sound.lone other second client stream before found alive live same)
      exact (sound.session other second before alive).trans (Function.update_of_ne apart _ _).symm
  · intro first one other second opened also alive well same
    rcases eq_or_of_update opened with ⟨rfl, rfl⟩ | ⟨-, before⟩
    · exact absurd alive isOver
    · rcases eq_or_of_update also with ⟨rfl, rfl⟩ | ⟨-, listed⟩
      · exact absurd well isOver
      · exact sound.lone first one other second before listed alive well same
  · intro other second listed alive
    rcases eq_or_of_update listed with ⟨rfl, rfl⟩ | ⟨differ, before⟩
    · cases alive
    · have apart : second.session ≠ stream.session := by
        rw [← follows.session]
        exact sound.session_ne known (.inr unclosed) before alive differ
      obtain ⟨alone, token, session, items, looked, agrees, flow, received⟩ :=
        sound.current other second before alive
      constructor
      · intro third earlier opened distinct shared
        rcases eq_or_of_update opened with ⟨rfl, rfl⟩ | ⟨-, earlier⟩
        · exact absurd (shared.symm.trans follows.session) apart
        · exact alone third _ earlier distinct shared
      · change (state.tokens other && !((state.posts other).any _)) = _
        have same : state.posts other = some second := before
        rw [same, token]
        change (second.minted && !decide (second.session = stream.session)) = _
        rw [decide_eq_false apart]
        exact Bool.and_true _
      · refine ⟨session, items, (Function.update_of_ne apart _ _).trans looked, agrees, flow, ?_⟩
        have ended : ({ stream with phase := .ended } : Stream Turn).turn ≠
            other := Ne.symm differ
        apply received.setStream _ ended rfl
        intro again opened
        rw [found] at opened
        cases opened
        exact Ne.symm differ
  · intro other second listed closed
    rcases eq_or_of_update listed with ⟨rfl, rfl⟩ | ⟨differ, before⟩
    · refine ⟨follows.minted, ?_, client, _, Function.update_self .., rfl, rfl⟩
      change (state.tokens _ && !((state.posts _).any _)) = _
      rw [known]
      change (state.tokens _ && !decide (post.session = stream.session)) = _
      rw [decide_eq_true follows.session]
      exact Bool.and_false _
    · obtain ⟨minted, revoked, third, again, opened, owned, ended⟩ :=
        sound.past other second before closed
      refine ⟨minted, ?_, third, again, ?_, owned, ended⟩
      · change (state.tokens other && _) = false
        rw [revoked]
        rfl
      · have apart : third ≠ client := by
          intro same
          rw [same, found] at opened
          cases opened
          rw [finishing] at ended
          cases ended
        exact (Function.update_of_ne apart _ _).trans opened

theorem ends_refusal (format : StreamFormat) (text : String) : Ends format [refusal format text]
      (closes format [refusal format text]) := by
  apply open_nil.ends_concat
  cases format with
  | agui => rfl
  | legacy => rfl

theorem Sound.step {action : Action Turn Client} (sound : state.Sound)
    (orderly : state.Orderly action)
    (stepTo : state.step action = some after) : after.Sound := by
  cases action with
  | post turn session format =>
    unfold State.step at stepTo
    cases found : state.posts turn with
    | none =>
      simp only [found, Option.some.injEq] at stepTo
      subst stepTo
      exact sound.begin found session format orderly
    | some post => simp only [found, reduceCtorEq] at stepTo
  | mint turn =>
    unfold State.step at stepTo
    cases found : state.posts turn with
    | none => simp only [found, reduceCtorEq] at stepTo
    | some post =>
      simp only [found] at stepTo
      split at stepTo
      · cases stepTo
      · rename_i unminted
        cases stepTo
        exact sound.mint found (Bool.eq_false_of_not_eq_true unminted)
  | refuse turn text =>
    unfold State.step at stepTo
    cases found : state.posts turn with
    | none => simp only [found, reduceCtorEq] at stepTo
    | some post =>
      simp only [found] at stepTo
      split at stepTo
      · cases stepTo
      · rename_i busy
        cases stepTo
        obtain ⟨unminted, unfinished⟩ := Bool.or_eq_false_iff.1 (Bool.eq_false_of_not_eq_true busy)
        have unclosed := sound.unclosed_of_unminted found unminted
        obtain ⟨session, delivered, looked, agrees, -⟩ :=
          (sound.current turn post found unclosed).flow
        have same : (state.session post.session).streamFormat =
            post.format := by
          unfold State.session
          rw [looked]
          exact agrees
        apply sound.publish found post.formatter unfinished
        rw [same]
        exact ends_refusal post.format text
  | call turn call =>
    unfold State.step at stepTo
    cases found : state.posts turn with
    | none => simp only [found, reduceCtorEq] at stepTo
    | some post =>
      simp only [found] at stepTo
      split at stepTo
      · cases stepTo
      · rename_i unfinished
        cases stepTo
        exact sound.publish found _ (Bool.eq_false_of_not_eq_true unfinished) _
          (post.formatter.ends_call post.session _ call)
  | openStream client session turn format =>
    unfold State.step at stepTo
    cases found : state.streams client with
    | none =>
      simp only [found, Option.some.injEq] at stepTo
      subst stepTo
      exact sound.openStream found session turn format orderly
    | some stream => simp only [found, reduceCtorEq] at stepTo
  | start client =>
    unfold State.step at stepTo
    cases found : state.streams client with
    | none => simp only [found, reduceCtorEq] at stepTo
    | some stream =>
      simp only [found] at stepTo
      split at stepTo
      · rename_i opened
        cases stepTo
        exact sound.start found opened
      · cases stepTo
  | read client =>
    unfold State.step at stepTo
    cases found : state.streams client with
    | none => simp only [found, reduceCtorEq] at stepTo
    | some stream =>
      simp only [found] at stepTo
      split at stepTo
      · rename_i running
        exact sound.read found running stepTo
      · cases stepTo
  | ping client =>
    unfold State.step at stepTo
    cases found : state.streams client with
    | none => simp only [found, reduceCtorEq] at stepTo
    | some stream =>
      simp only [found] at stepTo
      split at stepTo
      · rename_i gone
        have live : stream.Live := by
          unfold Stream.Live
          rw [gone.1]
          decide
        exact absurd (sound.session client stream found live) gone.2
      · cases stepTo
        exact sound
  | disconnect client =>
    unfold State.step at stepTo
    cases found : state.streams client with
    | none => simp only [found, reduceCtorEq] at stepTo
    | some stream =>
      simp only [found] at stepTo
      cases phase : stream.phase with
      | opened =>
        simp only [phase, Option.some.injEq] at stepTo
        subst stepTo
        exact sound.drop found phase
      | running =>
        simp only [phase, Option.some.injEq] at stepTo
        subst stepTo
        exact sound.leave found phase
      | finishing =>
        simp only [phase, Option.some.injEq] at stepTo
        exact stepTo ▸ sound
      | ended =>
        simp only [phase, Option.some.injEq] at stepTo
        exact stepTo ▸ sound
      | dropped =>
        simp only [phase, Option.some.injEq] at stepTo
        exact stepTo ▸ sound
  | cleanup client =>
    unfold State.step at stepTo
    cases found : state.streams client with
    | none => simp only [found, reduceCtorEq] at stepTo
    | some stream =>
      simp only [found] at stepTo
      split at stepTo
      · rename_i finishing
        cases stepTo
        exact sound.cleanup found finishing
      · cases stepTo

theorem sound_of_reachable (reached : (system Turn Client).ReachableWithin State.Orderly state) :
    state.Sound := by
  apply reached.invariant
  · intro start initially
    rw [initially]
    exact sound_initial
  · intro before action next sound orderly stepTo
    exact sound.step orderly stepTo

omit [DecidableEq Turn] [DecidableEq Client] in
/-- The last event of a finished turn waits or has been received, unless the
stream of the turn has been left. -/
theorem Sound.kept (sound : state.Sound) {post : Post}
    (found : state.posts turn = some post) (finished : post.finished = true) :
    (∃ event ∈ post.published, isStreamTerminal event post.format = true ∧
      state.Kept turn post event) ∨
    ∃ client stream, state.streams client = some stream ∧
      stream.turn = turn ∧ stream.left = true := by
  cases closed : post.closed with
  | false =>
    left
    obtain ⟨session, delivered, looked, -, flow, received⟩ :=
      (sound.current turn post found closed).flow
    rw [finished] at flow
    obtain ⟨event, published, terminal, member⟩ := flow.terminal
    refine ⟨event, published, terminal, ?_⟩
    rcases List.mem_append.1 member with taken | waiting
    · right
      obtain ⟨client, stream, opened, same, live⟩ := received.receiver (List.ne_nil_of_mem taken)
      rw [← received.received client stream opened same live] at taken
      exact ⟨client, stream, opened, same, taken⟩
    · left
      unfold State.session
      rw [looked]
      exact waiting
  | true =>
    obtain ⟨client, stream, opened, same, isOver⟩ := (sound.past turn post found closed).stream
    obtain ⟨kept, other, known, follows⟩ := sound.stream client stream opened
    rw [same, found] at known
    cases known
    cases gone : stream.left with
    | true =>
      right
      exact ⟨client, stream, opened, same, gone⟩
    | false =>
      left
      obtain ⟨event, last, terminal⟩ := kept.ends (.inr isOver) gone
      have member : (stream.turn, event) ∈ stream.received := List.mem_of_getLast? last
      refine ⟨event, follows.order.subset (List.mem_map_of_mem member), ?_, .inr ?_⟩
      · rw [follows.format]
        exact terminal
      · rw [← same]
        exact ⟨client, stream, opened, rfl, member⟩

omit [DecidableEq Turn] [DecidableEq Client] in
theorem Sound.answered (sound : state.Sound) : state.Answered where
  opens turn post found minted unclosed := by
    obtain ⟨-, token, session, delivered, looked, agrees, -⟩ :=
      sound.current turn post found unclosed
    refine ⟨token.trans minted, ?_⟩
    unfold State.session
    rw [looked]
    exact agrees
  own client stream opened := (sound.stream client stream opened).1.own
  order client stream post opened found := by
    obtain ⟨other, known, follows⟩ := sound.posted opened
    rw [found] at known
    cases known
    exact follows.order
  ends client stream opened := (sound.stream client stream opened).1.ends
  kept turn post found finished := sound.kept found finished

/-- Each post gets its own answer while posts come one after the other. -/
theorem answered_of_reachable (reached : (system Turn Client).ReachableWithin State.Orderly state) :
    state.Answered := by
  have sound : state.Sound := sound_of_reachable reached
  exact sound.answered

end Steps

section Example

/-- A post with its stream, which is opened and started. -/
def posted (turn : Bool) : List (Action Bool Bool) :=
  [.post turn "s" .legacy, .mint turn, .openStream turn "s" turn .legacy, .start turn]

def answer (turn : Bool) : List (Action Bool Bool) := [.call turn (.sendFallback "hi" "" "")]

/-- The stream takes both events of the answer and ends. -/
def received (client : Bool) : List (Action Bool Bool) :=
  [.read client, .read client, .cleanup client]

/-- Two posts of one session, one after the other. -/
theorem answered_of_two_posts : ∃ state : State Bool Bool,
      (system Bool Bool).run {} (posted false ++ answer false ++
        received false ++ posted true ++ answer true ++ received true) =
          some state ∧ state.Answered := by
  have run : ∃ state : State Bool Bool,
      (system Bool Bool).checkedRun State.Orderly {} (posted false ++
        answer false ++ received false ++ posted true ++ answer true ++
          received true) = some state := by
    rw [← Option.isSome_iff_exists]
    decide
  obtain ⟨state, runs⟩ := run
  refine ⟨state, TransitionSystem.run_of_checkedRun runs, ?_⟩
  have start : (system Bool Bool).ReachableWithin State.Orderly {} := .start rfl
  exact answered_of_reachable (.of_checkedRun {} start _ runs)

/-- The first stream is left, and its late answer goes to the second post. -/
theorem exists_answer_of_other_turn : ∃ state : State Bool Bool,
      (system Bool Bool).Reachable state ∧ ¬ state.Answered := by
  have run : ∃ state : State Bool Bool, (system Bool Bool).Reachable state ∧
        (state.streams true).map (fun stream =>
          (stream.turn, stream.received)) = some (true, [(false, delta "hi")]) :=
    TransitionSystem.exists_reachable_of_run {} rfl
      (posted false ++ [.disconnect false, .cleanup false] ++ answer false ++
        posted true ++ [.read true]) (by decide)
  obtain ⟨state, reached, holds⟩ := run
  refine ⟨state, reached, ?_⟩
  intro answered
  obtain ⟨stream, opened, same⟩ := Option.map_eq_some_iff.1 holds
  obtain ⟨turn, items⟩ := Prod.mk.inj same
  have own := answered.own true stream opened (false, delta "hi") (items ▸ List.mem_cons_self)
  rw [turn] at own
  cases own

end Example

end State

end Web

end RoxabiFactory
