import RoxabiFactory.WebSessions

/-!
# One answer for each post

While the posts of a session come one after the other, the session of the hub
belongs to the last post: what a stream has received and what waits in the
queue is, together, what the turn has published, apart from events that a full
queue has dropped, and the event that closes the stream is there once the turn
has published it.
-/

namespace RoxabiFactory

namespace Web

variable {Turn Client : Type}

/-! ## Events of one turn -/

/-- The delivered and the waiting events are events of the turn in its order,
and have its last event when the turn has finished. -/
def Flow (turn : Turn) (format : StreamFormat) (published : List WebEvent)
    (finished : Bool) (delivered queue : List (Turn × WebEvent)) : Prop :=
  ∃ own : List WebEvent, delivered ++ queue = own.map (Prod.mk turn) ∧
    own.Sublist published ∧ Ends format own finished

section Flow

variable {turn : Turn} {format : StreamFormat} {published : List WebEvent}
variable {delivered : List (Turn × WebEvent)} {session : Session Turn}
variable {event : WebEvent}

theorem Flow.start (turn : Turn) (format : StreamFormat) : Flow turn format [] false [] [] :=
  ⟨[], rfl, List.Sublist.refl [], open_nil⟩

theorem Flow.take {finished : Bool} {item : Turn × WebEvent} {rest : List (Turn × WebEvent)}
    (flow : Flow turn format published finished delivered (item :: rest)) :
    Flow turn format published finished (delivered ++ [item]) rest := by
  obtain ⟨own, same, sublist, ends⟩ := flow
  refine ⟨own, ?_, sublist, ends⟩
  rw [List.append_assoc]
  exact same

theorem Flow.mem {finished : Bool} {queue : List (Turn × WebEvent)}
    (flow : Flow turn format published finished delivered queue)
    {item : Turn × WebEvent} (member : item ∈ delivered ++ queue) :
    item.1 = turn ∧ item.2 ∈ published := by
  obtain ⟨own, same, sublist, -⟩ := flow
  rw [same] at member
  obtain ⟨event, listed, rfl⟩ := List.mem_map.1 member
  exact ⟨rfl, sublist.subset listed⟩

theorem Flow.delivered_sublist {finished : Bool} {queue : List (Turn × WebEvent)}
    (flow : Flow turn format published finished delivered queue) :
    (delivered.map Prod.snd).Sublist published := by
  obtain ⟨own, same, sublist, -⟩ := flow
  have events : (delivered ++ queue).map Prod.snd = own := by
    rw [same, List.map_map]
    exact List.map_id own
  rw [List.map_append] at events
  apply List.Sublist.trans _ sublist
  rw [← events]
  exact List.sublist_append_left _ _

theorem Flow.terminal {queue : List (Turn × WebEvent)}
    (flow : Flow turn format published true delivered queue) :
    ∃ event ∈ published, isStreamTerminal event format = true ∧
      (turn, event) ∈ delivered ++ queue := by
  obtain ⟨own, same, sublist, body, last, rfl, -, terminal⟩ := flow
  have member : last ∈ body ++ [last] := List.mem_append_right _ List.mem_cons_self
  refine ⟨last, sublist.subset member, terminal, ?_⟩
  rw [same]
  exact List.mem_map_of_mem member

/-- An event is put into the queue, drops out, or takes the place of the oldest
one, which is not the last event of the turn. -/
theorem Flow.publish (sameFormat : session.streamFormat = format)
    (flow : Flow turn format published false delivered session.queue) :
    Flow turn format (published ++ [event]) (isStreamTerminal event format)
      delivered (Session.publish turn session event).queue := by
  obtain ⟨own, same, sublist, opens⟩ := flow
  have extended (kept : List WebEvent) (part : kept.Sublist own) :
      Ends format (kept ++ [event]) (isStreamTerminal event format) := by
    have body : Open format kept := Open.sublist opens part
    cases terminal : isStreamTerminal event format with
    | true => exact ⟨kept, event, rfl, body, terminal⟩
    | false =>
      apply body.append
      intro other member
      rw [List.mem_singleton.1 member]
      exact terminal
  have grown (kept : List WebEvent) (part : kept.Sublist own) :
      (kept ++ [event]).Sublist (published ++ [event]) :=
    (part.trans sublist).append (List.Sublist.refl [event])
  unfold Session.publish
  split
  · refine ⟨own ++ [event], ?_, grown own (List.Sublist.refl own),
      extended own (List.Sublist.refl own)⟩
    change delivered ++ (session.queue ++ [(turn, event)]) = _
    rw [← List.append_assoc, same, List.map_append]
    rfl
  · rename_i full
    split
    · -- The oldest event of the full queue makes room.
      obtain ⟨first, rest, split⟩ : ∃ first rest, session.queue = first :: rest := by
        cases queue : session.queue with
        | nil =>
          rw [queue] at full
          exact absurd (by decide : (0 : ℕ) < maxsize) full
        | cons first rest => exact ⟨first, rest, rfl⟩
      rw [split] at same
      obtain ⟨before, after, rfl, left, right⟩ := List.append_eq_map_iff.1 same
      cases after with
      | nil => cases right
      | cons oldest after =>
        have part : (before ++ after).Sublist (before ++ oldest :: after) :=
          (List.Sublist.refl before).append (List.sublist_cons_self _ _)
        refine ⟨before ++ after ++ [event], ?_, grown _ part,
          extended _ part⟩
        change delivered ++ (session.queue.tail ++ [(turn, event)]) = _
        have tail : rest = after.map (Prod.mk turn) := (List.cons.inj right).2.symm
        rw [split, List.tail_cons, tail, ← left, List.map_append,
          List.map_append, List.append_assoc]
        rfl
    · rename_i ordinary
      rw [sameFormat] at ordinary
      rw [Bool.eq_false_of_not_eq_true ordinary]
      exact ⟨own, same, sublist.trans (List.sublist_append_left _ _), opens⟩

theorem publish_streamFormat (turn : Turn) (session : Session Turn) (event : WebEvent) :
    (Session.publish turn session event).streamFormat =
      session.streamFormat := by
  unfold Session.publish
  split
  · rfl
  · split <;> rfl

theorem Flow.publishOpen {events : List WebEvent} (sameFormat : session.streamFormat = format)
    (flow : Flow turn format published false delivered session.queue)
    (opens : Open format events) :
    Flow turn format (published ++ events) false delivered
        (events.foldl (Session.publish turn) session).queue ∧
      (events.foldl (Session.publish turn) session).streamFormat = format := by
  induction events generalizing session published with
  | nil =>
    rw [List.append_nil]
    exact ⟨flow, sameFormat⟩
  | cons event events ih =>
    have next : Flow turn format (published ++ [event]) (isStreamTerminal event format) delivered
        (Session.publish turn session event).queue := flow.publish sameFormat
    rw [opens event List.mem_cons_self] at next
    have run := ih ((publish_streamFormat turn session event).trans
      sameFormat) next fun other member =>
        opens other (List.mem_cons_of_mem _ member)
    rw [List.append_assoc] at run
    exact run

theorem Flow.publishAll {events : List WebEvent} (sameFormat : session.streamFormat = format)
    (flow : Flow turn format published false delivered session.queue)
    (ends : Ends format events (closes format events)) :
    Flow turn format (published ++ events) (closes format events) delivered
        (events.foldl (Session.publish turn) session).queue ∧
      (events.foldl (Session.publish turn) session).streamFormat = format := by
  cases closing : closes format events with
  | false =>
    rw [closing] at ends
    exact flow.publishOpen sameFormat ends
  | true =>
    rw [closing] at ends
    obtain ⟨body, last, rfl, opens, terminal⟩ := ends
    obtain ⟨before, kept⟩ := flow.publishOpen sameFormat opens
    have final : Flow turn format (published ++ body ++ [last])
        (isStreamTerminal last format) delivered
        (Session.publish turn (body.foldl (Session.publish turn) session)
          last).queue := before.publish kept
    rw [terminal, List.append_assoc] at final
    rw [List.foldl_append]
    exact ⟨final, (publish_streamFormat turn _ last).trans kept⟩

end Flow

/-! ## Streams and their posts -/

/-- What holds of a stream by itself. -/
structure Stream.Sound (stream : Stream Turn) : Prop where
  own : ∀ item ∈ stream.received, item.1 = stream.turn
  early : stream.phase = .opened ∨ stream.phase = .dropped → stream.received = []
  ends : stream.phase = .finishing ∨ stream.phase = .ended →
    stream.left = false → ∃ event, stream.EndsIn event

/-- The stream has been opened with the token of the post. -/
structure Stream.Follows (stream : Stream Turn) (post : Post) : Prop where
  session : post.session = stream.session
  format : post.format = stream.format
  minted : post.minted = true
  unclosed : stream.Live → post.closed = false
  order : (stream.received.map Prod.snd).Sublist post.published

/-- The post has gone on, and has not been closed meanwhile. -/
structure Post.Continues (post next : Post) : Prop where
  session : next.session = post.session
  format : next.format = post.format
  closed : next.closed = post.closed
  minted : post.minted = true → next.minted = true
  finished : post.finished = true → next.finished = true
  published : post.published.Sublist next.published

theorem Stream.Follows.continues {stream : Stream Turn} {post next : Post}
    (follows : stream.Follows post) (continues : post.Continues next) :
    stream.Follows next where
  session := continues.session.trans follows.session
  format := continues.format.trans follows.format
  minted := continues.minted follows.minted
  unclosed live := continues.closed.trans (follows.unclosed live)
  order := follows.order.trans continues.published

/-! ## Posts one after the other -/

namespace State

/-- The streams that may still end the turn have received what has been
delivered, and something has been delivered to such a stream only. -/
structure Delivered (state : State Turn Client) (turn : Turn)
    (delivered : List (Turn × WebEvent)) : Prop where
  received : ∀ client stream, state.streams client = some stream →
    stream.turn = turn → stream.Live → stream.received = delivered
  receiver : delivered ≠ [] → ∃ client stream,
    state.streams client = some stream ∧ stream.turn = turn ∧ stream.Live

/-- The session belongs to a post that has not been closed. -/
structure Current (state : State Turn Client) (turn : Turn) (post : Post) : Prop where
  alone : ∀ other earlier, state.posts other = some earlier → other ≠ turn →
    earlier.session = post.session →
    earlier.closed = true ∧ earlier.finished = true
  token : state.tokens turn = post.minted
  flow : ∃ session delivered, state.sessions post.session = some session ∧
    session.streamFormat = post.format ∧
    Flow turn post.format post.published post.finished delivered session.queue ∧
    state.Delivered turn delivered

/-- A stream of the post has come to its end. -/
structure Past (state : State Turn Client) (turn : Turn) (post : Post) : Prop where
  minted : post.minted = true
  revoked : state.tokens turn = false
  stream : ∃ client stream, state.streams client = some stream ∧
    stream.turn = turn ∧ stream.phase = .ended

/-- The invariant of runs in which posts come one after the other. -/
structure Sound (state : State Turn Client) : Prop where
  unposted : ∀ turn, state.posts turn = none → state.tokens turn = false
  stream : ∀ client stream, state.streams client = some stream → stream.Sound ∧
    ∃ post, state.posts stream.turn = some post ∧ stream.Follows post
  session : ∀ client stream, state.streams client = some stream →
    stream.Live → stream.closings = state.closings stream.session
  lone : ∀ client stream other second, state.streams client = some stream →
    state.streams other = some second → stream.Live → second.Live →
    stream.session = second.session → client = other
  current : ∀ turn post, state.posts turn = some post →
    post.closed = false → state.Current turn post
  past : ∀ turn post, state.posts turn = some post → post.closed = true → state.Past turn post

theorem sound_initial : ({} : State Turn Client).Sound where
  unposted _ _ := rfl
  stream client stream found := by cases found
  session client stream found := by cases found
  lone client stream other second found := by cases found
  current turn post found := by cases found
  past turn post found := by cases found

section Steps

variable {state after : State Turn Client} {turn : Turn} {post next : Post}
variable {client : Client} {stream changed : Stream Turn}

/-- A post that is unfinished or has not been closed shares its session with
no other post that has not been closed. -/
theorem Sound.session_ne (sound : state.Sound) (found : state.posts turn = some post)
    (busy : post.finished = false ∨ post.closed = false) {other : Turn}
    {second : Post} (also : state.posts other = some second)
    (unclosed : second.closed = false) (differ : other ≠ turn) :
    second.session ≠ post.session := by
  intro same
  have past := (sound.current other second also unclosed).alone turn post found
    differ.symm same.symm
  rcases busy with unfinished | kept
  · rw [unfinished] at past
    cases past.2
  · rw [kept] at past
    cases past.1

theorem Delivered.eq_nil (sound : state.Sound) (found : state.posts turn = some post)
    {delivered : List (Turn × WebEvent)}
    (received : state.Delivered turn delivered)
    (quiet : ∀ client, ∀ stream ∈ state.streams client,
      stream.session = post.session → ¬ stream.Live) : delivered = [] := by
  by_contra some
  obtain ⟨client, stream, opened, same, live⟩ := received.receiver some
  obtain ⟨-, own, known, follows⟩ := sound.stream client stream opened
  rw [same, found] at known
  cases known
  exact quiet client stream opened follows.session.symm live

theorem Sound.unclosed_of_unminted (sound : state.Sound)
    (found : state.posts turn = some post) (unminted : post.minted = false) :
    post.closed = false := by
  apply Bool.eq_false_of_not_eq_true
  intro closed
  have minted := (sound.past turn post found closed).minted
  rw [unminted] at minted
  cases minted

variable [DecidableEq Turn]

theorem Sound.progress (sound : state.Sound) (found : state.posts turn = some post)
    (busy : post.finished = false ∨ post.closed = false)
    (continues : post.Continues next)
    (posts : after.posts = Function.update state.posts turn (some next))
    (streams : after.streams = state.streams)
    (closings : after.closings = state.closings)
    (sessions : ∀ id, id ≠ post.session → after.sessions id = state.sessions id)
    (tokens : ∀ other, other ≠ turn → after.tokens other = state.tokens other)
    (token : post.closed = true → after.tokens turn = state.tokens turn)
    (current : post.closed = false → after.tokens turn = next.minted ∧
      ∃ session delivered, after.sessions post.session = some session ∧
        session.streamFormat = post.format ∧
        Flow turn post.format next.published next.finished delivered session.queue ∧
        state.Delivered turn delivered) :
    after.Sound := by
  have delivered (other : Turn) (items : List (Turn × WebEvent))
      (known : state.Delivered other items) : after.Delivered other items := by
    constructor
    · intro client stream opened
      rw [streams] at opened
      exact known.received client stream opened
    · rw [streams]
      exact known.receiver
  constructor
  · intro other absent
    rw [posts] at absent
    by_cases same : other = turn
    · rw [same, Function.update_self] at absent
      cases absent
    · rw [Function.update_of_ne same] at absent
      rw [tokens other same]
      exact sound.unposted other absent
  · intro client stream opened
    rw [streams] at opened
    obtain ⟨kept, own, known, follows⟩ := sound.stream client stream opened
    refine ⟨kept, ?_⟩
    rw [posts]
    by_cases same : stream.turn = turn
    · rw [same] at known ⊢
      rw [found] at known
      cases known
      exact ⟨next, Function.update_self .., follows.continues continues⟩
    · rw [Function.update_of_ne same]
      exact ⟨own, known, follows⟩
  · rw [streams, closings]
    exact sound.session
  · rw [streams]
    exact sound.lone
  · intro other second known unclosed
    rw [posts] at known
    by_cases same : other = turn
    · subst same
      rw [Function.update_self] at known
      cases known
      rw [continues.closed] at unclosed
      obtain ⟨minted, session, items, kept, format, flow, received⟩ := current unclosed
      constructor
      · intro third earlier known differ same
        rw [posts, Function.update_of_ne differ] at known
        rw [continues.session] at same
        exact (sound.current other post found unclosed).alone third earlier known differ same
      · exact minted
      · rw [continues.session, continues.format]
        exact ⟨session, items, kept, format, flow, delivered _ _ received⟩
    · rw [Function.update_of_ne same] at known
      have before := sound.current other second known unclosed
      have apart := sound.session_ne found busy known unclosed same
      obtain ⟨session, items, kept, format, flow, received⟩ := before.flow
      constructor
      · intro third earlier listed differ shared
        rw [posts] at listed
        by_cases again : third = turn
        · rw [again, Function.update_self] at listed
          cases listed
          exact absurd (continues.session.symm.trans shared).symm apart
        · rw [Function.update_of_ne again] at listed
          exact before.alone third earlier listed differ shared
      · rw [tokens other same]
        exact before.token
      · rw [sessions _ apart]
        exact ⟨session, items, kept, format, flow, delivered _ _ received⟩
  · intro other second known closed
    rw [posts] at known
    by_cases same : other = turn
    · subst same
      rw [Function.update_self] at known
      cases known
      rw [continues.closed] at closed
      have before := sound.past other post found closed
      constructor
      · exact continues.minted before.minted
      · rw [token closed]
        exact before.revoked
      · rw [streams]
        exact before.stream
    · rw [Function.update_of_ne same] at known
      have before := sound.past other second known closed
      constructor
      · exact before.minted
      · rw [tokens other same]
        exact before.revoked
      · rw [streams]
        exact before.stream

theorem Sound.publish (sound : state.Sound)
    (found : state.posts turn = some post) (formatter : Formatter)
    (unfinished : post.finished = false) (events : List WebEvent)
    (ends : Ends (state.session post.session).streamFormat events
      (closes (state.session post.session).streamFormat events)) :
    (state.publish turn { post with formatter := formatter } events).Sound := by
  have continues : post.Continues
      { post with
        formatter := formatter
        finished := closes (state.session post.session).streamFormat events
        published := post.published ++ events } :=
    { session := rfl
      format := rfl
      closed := rfl
      minted := id
      finished := fun finished => by
        rw [unfinished] at finished
        cases finished
      published := List.sublist_append_left _ _ }
  apply sound.progress found (.inl unfinished) continues
  · rfl
  · rfl
  · rfl
  · intro id differ
    exact Function.update_of_ne differ _ _
  · intro other differ
    rfl
  · intro closed
    rfl
  · intro unclosed
    have before := sound.current turn post found unclosed
    obtain ⟨session, delivered, kept, format, flow, received⟩ := before.flow
    have looked : state.session post.session = session := by
      unfold State.session
      rw [kept]
      rfl
    rw [looked, format] at ends
    rw [unfinished] at flow
    obtain ⟨published, same⟩ := flow.publishAll format ends
    refine ⟨before.token, _, delivered, Function.update_self .., ?_, ?_, received⟩
    · rw [looked]
      exact same
    · rw [looked, format]
      exact published

theorem Sound.mint (sound : state.Sound)
    (found : state.posts turn = some post) (unminted : post.minted = false) :
    { state.setPost turn { post with minted := true } with
      tokens := Function.update state.tokens turn true }.Sound := by
  have unclosed := sound.unclosed_of_unminted found unminted
  have continues : post.Continues { post with minted := true } :=
    { session := rfl
      format := rfl
      closed := rfl
      minted := fun _ => rfl
      finished := id
      published := List.Sublist.refl _ }
  apply sound.progress found (.inr unclosed) continues
  · rfl
  · rfl
  · rfl
  · intro id differ
    rfl
  · intro other differ
    exact Function.update_of_ne differ _ _
  · intro closed
    rw [unclosed] at closed
    cases closed
  · intro _
    exact ⟨Function.update_self .., (sound.current turn post found unclosed).flow⟩

/-- A post begins a turn, when the earlier ones of its session are over. -/
theorem Sound.begin (sound : state.Sound) (absent : state.posts turn = none)
    (id : String) (format : StreamFormat)
    (orderly : state.Orderly (.post turn id format)) :
    ((state.setSession id { state.session id with streamFormat := format }).setPost turn
        { session := id, format := format }).Sound := by
  obtain ⟨finished, quiet, empty⟩ := orderly
  have past (other : Turn) (earlier : Post)
      (known : state.posts other = some earlier) (same : earlier.session = id) :
      earlier.closed = true := by
    by_contra unclosed
    obtain ⟨session, delivered, kept, -, flow, received⟩ := (sound.current other earlier known
        (Bool.eq_false_of_not_eq_true unclosed)).flow
    have none : delivered = [] := by
      apply received.eq_nil sound known
      rw [same]
      exact quiet
    have drained : session.queue = [] := by
      unfold State.session at empty
      rw [← same, kept] at empty
      exact empty
    rw [finished other earlier known same, none, drained] at flow
    obtain ⟨event, -, -, member⟩ := flow.terminal
    cases member
  have fresh (client : Client) (stream : Stream Turn)
      (opened : state.streams client = some stream) : stream.turn ≠ turn := by
    intro same
    obtain ⟨-, post, known, -⟩ := sound.stream client stream opened
    rw [same, absent] at known
    cases known
  constructor
  · intro other none
    by_cases same : other = turn
    · rw [same]
      exact sound.unposted turn absent
    · exact sound.unposted other ((Function.update_of_ne same _ _).symm.trans none)
  · intro client stream opened
    obtain ⟨kept, post, known, follows⟩ := sound.stream client stream opened
    have same := Function.update_of_ne (fresh client stream opened)
      (some { session := id, format := format : Post }) state.posts
    exact ⟨kept, post, same.trans known, follows⟩
  · exact sound.session
  · exact sound.lone
  · intro other second known unclosed
    by_cases same : other = turn
    · subst same
      have new := (Function.update_self ..).symm.trans known
      cases new
      constructor
      · intro third earlier listed differ shared
        have before := (Function.update_of_ne differ _ _).symm.trans listed
        exact ⟨past third earlier before shared, finished third earlier before shared⟩
      · exact sound.unposted other absent
      · refine ⟨_, [], Function.update_self .., rfl, ?_, ?_⟩
        · rw [empty]
          exact Flow.start other format
        · constructor
          · intro client stream opened own
            exact absurd own (fresh client stream opened)
          · intro some
            exact absurd rfl some
    · have before := (Function.update_of_ne same _ _).symm.trans known
      have apart : second.session ≠ id := by
        intro shared
        rw [past other second before shared] at unclosed
        cases unclosed
      obtain ⟨session, items, kept, agrees, flow, received⟩ :=
        (sound.current other second before unclosed).flow
      constructor
      · intro third earlier listed differ shared
        by_cases again : third = turn
        · rw [again] at listed
          have new := (Function.update_self ..).symm.trans listed
          cases new
          exact absurd shared.symm apart
        · exact (sound.current other second before unclosed).alone third
            earlier ((Function.update_of_ne again _ _).symm.trans listed)
            differ shared
      · exact (sound.current other second before unclosed).token
      · exact ⟨session, items, (Function.update_of_ne apart _ _).trans kept, agrees, flow,
          received.received, received.receiver⟩
  · intro other second known closed
    by_cases same : other = turn
    · subst same
      have new := (Function.update_self ..).symm.trans known
      cases new
      cases closed
    · obtain ⟨minted, revoked, stream⟩ := sound.past other second
        ((Function.update_of_ne same _ _).symm.trans known) closed
      exact ⟨minted, revoked, stream⟩

end Steps

end State

end Web

end RoxabiFactory
