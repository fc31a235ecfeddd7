import Mathlib.Data.List.Nodup
import RoxabiFactory.WebFormatter

/-!
# Runs of AG-UI events

A turn of a `WebFormatter` is a placeholder, edits and reasoning, and a last
edit, or a single fallback.  A reader of its events has one message open at a
time, and the contents of this message are the text of the last edit.
-/

namespace RoxabiFactory

namespace Web

/-- What a reader knows: the open message with its contents, and the messages
that have ended, the last one last. -/
structure Scan where
  opened : Option (String × String) := none
  ended : List (String × String) := []

/-- The ids of the messages that have begun. -/
def Scan.ids (scan : Scan) : List String :=
  scan.ended.map Prod.fst ++ scan.opened.toList.map Prod.fst

def reasoningTypes : List String :=
  ["REASONING_START", "REASONING_MESSAGE_START", "REASONING_MESSAGE_CONTENT",
    "REASONING_MESSAGE_END", "REASONING_END"]

/-- The events of a run between its start and its end. -/
inductive Scans : Scan → List WebEvent → Scan → Prop
  | nil (scan : Scan) : Scans scan [] scan
  | start {ended : List (String × String)} {id : String} {events : List WebEvent} {after : Scan}
      (fresh : id ∉ ended.map Prod.fst)
      (later : Scans ⟨some (id, ""), ended⟩ events after) :
      Scans ⟨none, ended⟩ (textStart id :: events) after
  | content {ended : List (String × String)} {id text delta : String}
      {events : List WebEvent} {after : Scan} (nonempty : delta ≠ "")
      (later : Scans ⟨some (id, text ++ delta), ended⟩ events after) :
      Scans ⟨some (id, text), ended⟩ (textContent id delta :: events) after
  | finish {ended : List (String × String)} {id text : String}
      {events : List WebEvent} {after : Scan}
      (later : Scans ⟨none, ended ++ [(id, text)]⟩ events after) :
      Scans ⟨some (id, text), ended⟩ (textEnd id :: events) after
  | reasoning {scan : Scan} {event : WebEvent} {events : List WebEvent}
      {after : Scan} (isReasoning : event.type ∈ reasoningTypes)
      (later : Scans scan events after) : Scans scan (event :: events) after

section Scans

variable {scan middle after : Scan} {events later : List WebEvent}

theorem Scans.append (first : Scans scan events middle)
    (second : Scans middle later after) : Scans scan (events ++ later) after := by
  induction first with
  | nil => exact second
  | start fresh _ ih => exact .start fresh (ih second)
  | content nonempty _ ih => exact .content nonempty (ih second)
  | finish _ ih => exact .finish (ih second)
  | reasoning isReasoning _ ih => exact .reasoning isReasoning (ih second)

theorem Scans.nodup_ids (scans : Scans scan events after)
    (nodup : scan.ids.Nodup) : after.ids.Nodup := by
  induction scans with
  | nil => exact nodup
  | start fresh _ ih =>
    apply ih
    simp only [Scan.ids, Option.toList_none, List.map_nil, List.append_nil,
      Option.toList_some, List.map_cons] at nodup ⊢
    rw [List.nodup_middle, List.append_nil]
    exact List.nodup_cons.mpr ⟨fresh, nodup⟩
  | content _ _ ih => exact ih nodup
  | finish _ ih =>
    apply ih
    simpa [Scan.ids] using nodup
  | reasoning _ _ ih => exact ih nodup

theorem Scans.count_events (scans : Scans scan events after) (id : String) :
    events.count (textStart id) + scan.ids.count id = after.ids.count id ∧
      events.count (textEnd id) + (scan.ended.map Prod.fst).count id =
        (after.ended.map Prod.fst).count id := by
  induction scans with
  | nil => simp
  | start fresh _ ih =>
    simp only [Scan.ids, textStart, textEnd, List.count_cons, List.count_append,
      List.map_cons, List.map_nil, Option.toList_none,
      Option.toList_some, List.count_nil, beq_iff_eq, WebEvent.mk.injEq] at ih ⊢
    simp at ih ⊢
    omega
  | content nonempty _ ih =>
    simpa [textStart, textEnd, textContent, Scan.ids] using ih
  | finish _ ih =>
    simp [textStart, textEnd, Scan.ids, List.count_cons, List.count_append] at ih ⊢
    omega
  | reasoning isReasoning _ ih =>
    rw [List.count_cons_of_ne, List.count_cons_of_ne]
    · exact ih
    · rintro rfl
      simp [reasoningTypes, textEnd] at isReasoning
    · rintro rfl
      simp [reasoningTypes, textStart] at isReasoning

end Scans

/-- The events of a turn are a run of the session whose last message has a
text. -/
structure IsRun (sessionId runId lastText : String) (events : List WebEvent) : Prop where
  scans : ∃ body ended, events = runStarted sessionId runId ::
      (body ++ [runFinished sessionId runId]) ∧
    Scans { } body ⟨none, ended⟩ ∧
    ended.getLast?.map Prod.snd = some lastText
  ends_once : ∀ id, textStart id ∈ events → events.count (textEnd id) = 1

namespace Formatter

/-- The events of some calls in a session that is in AG-UI format. -/
def runAgui (sessionId : String) : Formatter → List Call → Formatter × List WebEvent
  | formatter, [] => (formatter, [])
  | formatter, call :: calls =>
    let called := formatter.call sessionId .agui call
    let rest := runAgui sessionId called.1 calls
    (rest.1, called.2 ++ rest.2)

end Formatter

/-- An edit that is not the last one, or reasoning. -/
def Call.Intermediate : Call → Prop
  | .editPlaceholderText _ finalize _ => finalize = false
  | .editReasoningStart _ | .editReasoningDelta _ _ | .editReasoningEnd _ =>
    True
  | _ => False

def Call.messageIds : Call → List String
  | .sendPlaceholder _ messageId | .editPlaceholderText _ _ messageId
  | .sendMessage _ _ messageId | .sendFallback _ _ messageId => [messageId]
  | _ => []

/-- The reader's open message is that of the formatter, with its buffer as
contents. -/
structure Follows (formatter : Formatter) (scan : Scan) : Prop where
  named : formatter.messageId ≠ ""
  opened : scan.opened = some (formatter.messageId, formatter.buffer)

section Calls

variable {formatter : Formatter} {scan : Scan} {sessionId : String}

theorem Follows.edit (follows : Follows formatter scan) (text : String)
    {id : String} (named : id ≠ "") (fresh : id ∉ scan.ids) :
    ∃ after, Scans scan (formatter.aguiEdit text id).2 after ∧
      Follows (formatter.aguiEdit text id).1 after ∧
      (formatter.aguiEdit text id).1.buffer = text ∧
      (formatter.aguiEdit text id).1.runId = formatter.runId ∧
      ∀ other ∈ after.ids, other ∈ scan.ids ∨ other = id := by
  obtain ⟨opened, ended⟩ := scan
  obtain ⟨hasName, rfl⟩ := follows
  unfold Formatter.aguiEdit
  split
  · next grows =>
    obtain ⟨rest, whole⟩ := List.isPrefixOf_iff_prefix.mp grows
    have increment : String.ofList (text.toList.drop formatter.buffer.length) =
        String.ofList rest := by
      rw [← whole, ← String.length_toList, List.drop_left]
    have joined : formatter.buffer ++ String.ofList rest = text := by
      rw [← String.toList_inj, String.toList_append, String.toList_ofList, whole]
    dsimp only
    rw [increment]
    by_cases empty : String.ofList rest = ""
    · rw [empty, String.append_empty] at joined
      subst joined
      rw [if_pos (.inl empty)]
      exact ⟨_, .nil _, ⟨hasName, rfl⟩, rfl, rfl, fun other => .inl⟩
    · rw [if_neg (not_or.mpr ⟨empty, hasName⟩)]
      refine ⟨_, .content empty (.nil _), ⟨hasName, ?_⟩, rfl, rfl,
        fun other => .inl⟩
      rw [joined]
  · rw [List.singleton_append]
    have begins : Scans ⟨none, ended ++ [(formatter.messageId, formatter.buffer)]⟩
        (textStart id :: if text = "" then [] else [textContent id text])
        ⟨some (id, text),
          ended ++ [(formatter.messageId, formatter.buffer)]⟩ := by
      refine .start (by simpa [Scan.ids] using fresh) ?_
      split
      · next empty =>
        subst empty
        exact .nil _
      · next nonempty =>
        apply Scans.content nonempty
        rw [String.empty_append]
        exact .nil _
    refine ⟨_, .finish begins, ⟨named, rfl⟩, rfl, rfl, fun other => ?_⟩
    simp [Scan.ids, or_assoc]

theorem scans_of_isReasoning {events : List WebEvent}
    (areReasoning : ∀ event ∈ events, event.type ∈ reasoningTypes) :
    Scans scan events scan := by
  induction events with
  | nil => exact .nil _
  | cons event events ih =>
    rw [List.forall_mem_cons] at areReasoning
    exact .reasoning areReasoning.1 (ih areReasoning.2)

theorem callAgui_of_no_ids (formatter : Formatter) (sessionId : String)
    (scan : Scan) {call : Call} (intermediate : call.Intermediate)
    (noIds : call.messageIds = []) :
    (formatter.callAgui sessionId call).1 = formatter ∧
      Scans scan (formatter.callAgui sessionId call).2 scan := by
  match call with
  | .editReasoningStart messageId =>
    refine ⟨rfl, scans_of_isReasoning ?_⟩
    simp [Formatter.callAgui, reasoningStart, reasoningTypes]
  | .editReasoningDelta messageId delta =>
    refine ⟨rfl, scans_of_isReasoning ?_⟩
    change ∀ event ∈ if delta = "" then []
      else [reasoningContent messageId delta], event.type ∈ reasoningTypes
    split <;> simp [reasoningContent, reasoningTypes]
  | .editReasoningEnd messageId =>
    refine ⟨rfl, scans_of_isReasoning ?_⟩
    simp [Formatter.callAgui, reasoningEnd, reasoningTypes]

theorem Follows.run (follows : Follows formatter scan) (sessionId : String)
    {calls : List Call} (intermediate : ∀ call ∈ calls, call.Intermediate)
    (named : "" ∉ calls.flatMap Call.messageIds)
    (fresh : (scan.ids ++ calls.flatMap Call.messageIds).Nodup) :
    ∃ after, Scans scan (formatter.runAgui sessionId calls).2 after ∧
      Follows (formatter.runAgui sessionId calls).1 after ∧
      (formatter.runAgui sessionId calls).1.runId = formatter.runId ∧
      ∀ id ∈ after.ids, id ∈ scan.ids ∨ id ∈ calls.flatMap Call.messageIds := by
  induction calls generalizing formatter scan with
  | nil => exact ⟨scan, .nil _, follows, rfl, fun id => .inl⟩
  | cons call calls ih =>
    rw [List.forall_mem_cons] at intermediate
    rw [List.flatMap_cons] at named fresh ⊢
    unfold Formatter.runAgui
    by_cases noIds : call.messageIds = []
    · obtain ⟨unchanged, scans⟩ := callAgui_of_no_ids formatter sessionId scan intermediate.1 noIds
      rw [noIds, List.nil_append] at named fresh ⊢
      obtain ⟨after, laterScans, laterFollows, sameRun, known⟩ :=
        ih follows intermediate.2 named fresh
      dsimp only [Formatter.call]
      rw [unchanged]
      exact ⟨after, scans.append laterScans, laterFollows, sameRun, known⟩
    · obtain ⟨text, id, rfl⟩ : ∃ text id, call = .editPlaceholderText text false id := by
        cases call with
        | editPlaceholderText text finalize id =>
          exact ⟨text, id, congrArg (Call.editPlaceholderText text · id) intermediate.1⟩
        | create | editReasoningStart | editReasoningDelta
        | editReasoningEnd => exact absurd rfl noIds
        | sendPlaceholder | sendMessage | sendFallback =>
          exact absurd intermediate.1 id
      simp only [Call.messageIds, List.singleton_append, List.mem_cons, not_or] at named fresh ⊢
      obtain ⟨idNamed, named⟩ := named
      have idFresh : id ∉ scan.ids := by
        intro known
        exact (List.nodup_append.mp fresh).2.2 id known id List.mem_cons_self rfl
      obtain ⟨middle, scans, nowFollows, -, sameRun, known⟩ :=
        follows.edit text (Ne.symm idNamed) idFresh
      have laterFresh : (middle.ids ++
          calls.flatMap Call.messageIds).Nodup := by
        obtain ⟨scanNodup, restNodup, apart⟩ := List.nodup_append.mp fresh
        obtain ⟨notLater, callsNodup⟩ := List.nodup_cons.mp restNodup
        refine List.nodup_append.mpr ⟨scans.nodup_ids scanNodup, callsNodup, ?_⟩
        rintro other before _ later rfl
        rcases known other before with first | rfl
        · exact apart other first other (List.mem_cons_of_mem _ later) rfl
        · exact notLater later
      obtain ⟨after, laterScans, laterFollows, laterRun, laterKnown⟩ :=
        ih nowFollows intermediate.2 named laterFresh
      refine ⟨after, scans.append laterScans, laterFollows,
        laterRun.trans sameRun, fun other member => ?_⟩
      rcases laterKnown other member with before | later
      · rcases known other before with first | rfl
        · exact .inl first
        · exact .inr (.inl rfl)
      · exact .inr (.inr later)

theorem isRun_of_scans {runId lastText : String} {body : List WebEvent}
    {ended : List (String × String)} {id : String}
    (scans : Scans { } body ⟨none, ended ++ [(id, lastText)]⟩) :
    IsRun sessionId runId lastText (runStarted sessionId runId ::
        (body ++ [runFinished sessionId runId])) := by
  refine ⟨⟨body, _, rfl, scans, by simp⟩, fun other begins => ?_⟩
  have nodup := scans.nodup_ids List.nodup_nil
  obtain ⟨starts, ends⟩ := scans.count_events other
  have begun : textStart other ∈ body := by
    simpa [runStarted, runFinished, textStart] using begins
  have some := List.count_pos_iff.mpr begun
  have once := List.nodup_iff_count_le_one.mp nodup other
  simp only [Scan.ids, Option.toList_none, List.map_nil, List.append_nil,
    List.count_nil, Nat.add_zero] at starts ends once
  simp only [List.count_cons, List.count_append, List.count_nil]
  have neither : (runStarted sessionId runId == textEnd other) = false ∧
      (runFinished sessionId runId == textEnd other) = false := by
    simp [runStarted, runFinished, textEnd]
  rw [neither.1, neither.2]
  simp only [Bool.false_eq_true, if_false]
  omega

theorem aguiEnd_of_named (sessionId : String)
    (messageNamed : formatter.messageId ≠ "") (runNamed : formatter.runId ≠ "") :
    formatter.aguiEnd sessionId = [textEnd formatter.messageId,
      runFinished sessionId formatter.runId] := by
  rw [Formatter.aguiEnd, if_neg messageNamed, if_neg runNamed]
  rfl

theorem runAgui_append (calls later : List Call) : formatter.runAgui sessionId (calls ++ later) =
      (((formatter.runAgui sessionId calls).1.runAgui sessionId later).1,
        (formatter.runAgui sessionId calls).2 ++
          ((formatter.runAgui sessionId calls).1.runAgui sessionId later).2) := by
  induction calls generalizing formatter with
  | nil => rfl
  | cons call calls ih =>
    rw [List.cons_append, Formatter.runAgui, ih]
    simp only [Formatter.runAgui, List.append_assoc]

theorem isRun_fallback (sessionId text runId messageId : String) :
    IsRun sessionId runId text (Formatter.runAgui sessionId { }
      [.sendFallback text runId messageId]).2 := by
  have content : Scans ⟨some (messageId, ""), []⟩
      (if text = "" then [] else [textContent messageId text])
      ⟨some (messageId, text), []⟩ := by
    split
    · next empty =>
      subst empty
      exact .nil _
    · next nonempty =>
      apply Scans.content nonempty
      rw [String.empty_append]
      exact .nil _
  have scans := Scans.start List.not_mem_nil (content.append (.finish (.nil _)))
  have events : (Formatter.runAgui sessionId { } [.sendFallback text runId messageId]).2 =
      runStarted sessionId runId :: (textStart messageId ::
        ((if text = "" then [] else [textContent messageId text]) ++
          [textEnd messageId]) ++ [runFinished sessionId runId]) := by
    by_cases empty : text = "" <;>
      simp [Formatter.runAgui, Formatter.call, Formatter.callAgui,
        Formatter.aguiFallback, Formatter.aguiSend, empty]
  rw [events]
  exact isRun_of_scans scans

/-- What a reader sees of a turn: after each edit its open message is the text,
and a last edit or a fallback makes a run whose last message is the text. -/
theorem agui_turns (sessionId text : String) {runId messageId id : String}
    {calls : List Call} (intermediate : ∀ call ∈ calls, call.Intermediate)
    (runNamed : runId ≠ "")
    (named : "" ∉ messageId :: (calls.flatMap Call.messageIds ++ [id]))
    (fresh : (messageId :: (calls.flatMap Call.messageIds ++ [id])).Nodup) :
    (∃ body name ended, (Formatter.runAgui sessionId { } (.sendPlaceholder runId messageId ::
            (calls ++ [.editPlaceholderText text false id]))).2 =
        runStarted sessionId runId :: body ∧
      Scans { } body ⟨some (name, text), ended⟩) ∧
    IsRun sessionId runId text (Formatter.runAgui sessionId { } (.sendPlaceholder runId messageId ::
        (calls ++ [.editPlaceholderText text true id]))).2 ∧
    IsRun sessionId runId text (Formatter.runAgui sessionId { }
      [.sendFallback text runId messageId]).2 := by
  simp only [List.mem_cons, List.mem_append, List.not_mem_nil, or_false, not_or] at named
  obtain ⟨firstNamed, callsNamed, idNamed⟩ := named
  let placed : Formatter := ⟨"", runId, messageId⟩
  have start : Follows placed ⟨some (messageId, ""), []⟩ := ⟨Ne.symm firstNamed, rfl⟩
  rw [← List.cons_append] at fresh
  obtain ⟨callsFresh, -, apart⟩ := List.nodup_append.mp fresh
  obtain ⟨middle, scans, follows, sameRun, known⟩ :=
    start.run sessionId intermediate callsNamed callsFresh
  have idFresh : id ∉ middle.ids := by
    intro member
    refine apart id ?_ id List.mem_cons_self rfl
    rcases known id member with first | later
    · exact List.mem_cons.mpr (.inl (List.mem_singleton.mp first))
    · exact List.mem_cons_of_mem _ later
  obtain ⟨⟨opened, ended⟩, edited, ⟨lastNamed, rfl⟩, buffer, run, -⟩ :=
    follows.edit text (Ne.symm idNamed) idFresh
  rw [buffer] at edited
  have body := Scans.start List.not_mem_nil (scans.append edited)
  refine ⟨⟨_, _, _, ?_, body⟩, ?_, isRun_fallback sessionId text runId messageId⟩
  · rw [Formatter.runAgui, runAgui_append]
    simp [Formatter.runAgui, Formatter.call, Formatter.callAgui, placed]
  · have lastRun := run.trans sameRun
    have whole : IsRun sessionId runId text _ := isRun_of_scans (body.append (.finish (.nil _)))
    have ending := aguiEnd_of_named sessionId lastNamed (lastRun ▸ runNamed)
    change IsRun sessionId runId text (runStarted sessionId runId ::
      textStart messageId :: (placed.runAgui sessionId
        (calls ++ [.editPlaceholderText text true id])).2)
    rw [runAgui_append]
    simp only [Formatter.runAgui, Formatter.call, Formatter.callAgui, if_true]
    rw [ending, lastRun]
    simpa [placed] using whole

end Calls

section Example

/-- A text that grows, with some reasoning. -/
def growing : List Call := [.editPlaceholderText "Working" false "m1", .editReasoningStart "r",
    .editReasoningEnd "r", .editPlaceholderText "Working, still" false "m2"]

theorem isRun_growing : IsRun "session" "run" "Done" (Formatter.runAgui "session" { }
      (.sendPlaceholder "run" "m0" :: (growing ++ [.editPlaceholderText "Done" true "m3"]))).2 :=
  (@agui_turns "session" "Done" "run" "m0" "m3" growing
    (by simp [growing, Call.Intermediate]) (by decide) (by decide)
    (by decide)).2.1

end Example

end Web

end RoxabiFactory
