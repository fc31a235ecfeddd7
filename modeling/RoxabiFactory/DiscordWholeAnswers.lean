import RoxabiFactory.DiscordFormatter

/-!
# Whole answers on Discord

The answer is the last part of the combined message, which is cut at its limit.
In an embed the other parts leave room for the first chunk.  In plain content
the reasoning takes its room first, so the end of the chunk may be cut, and an
answer that reads as the placeholder is not shown beside anything else.  A
later chunk is rendered once more, which changes it when it holds a table.
-/

namespace RoxabiFactory

open DiscordTables Text

namespace DiscordFormatter

/-! ## Composed parts -/

section Compose

variable {lead : List Text} {answer fallback : Text} {limit : ℕ}

theorem intercalate_append_singleton (lead : List Text) (answer : Text) :
    separator.intercalate (lead ++ [answer]) =
      separator.intercalate (lead ++ [[]]) ++ answer := by
  induction lead with
  | nil => simp only [List.nil_append, List.intercalate_singleton]
  | cons part lead ih =>
    have nonempty (last : Text) : lead ++ [last] ≠ [] := by simp
    rw [List.cons_append, List.cons_append, List.intercalate_cons_of_ne_nil (nonempty answer),
      List.intercalate_cons_of_ne_nil (nonempty []), ih]
    simp only [List.append_assoc]

/-- The characters above the answer. -/
def leadLength (lead : List Text) : ℕ := (lead.map (·.length + separator.length)).sum

theorem length_intercalate_append_nil (lead : List Text) :
    (separator.intercalate (lead ++ [[]])).length = leadLength lead := by
  induction lead with
  | nil => rfl
  | cons part lead ih =>
    rw [List.cons_append, List.intercalate_cons_of_ne_nil (by simp), List.length_append,
      List.length_append, ih, leadLength, leadLength, List.map_cons,
      List.sum_cons, Nat.add_assoc]

theorem length_compose_le (lead answer : List Text) (fallback : Text)
    (limit : ℕ) : (compose lead answer fallback limit).length ≤ limit :=
  List.length_take_le limit _

theorem drop_compose (fallback : Text) :
    (compose lead [answer] fallback limit).drop (leadLength lead) =
      answer.take (limit - leadLength lead) := by
  rw [compose, if_neg (by simp), intercalate_append_singleton, List.drop_take,
    List.drop_left' (length_intercalate_append_nil lead)]

end Compose

/-! ## The part of the message that comes from the answer -/

/-- What is above the answer. -/
def leadParts (formatter : DiscordFormatter) : List Text :=
  if formatter.recapLines = [] then formatter.reasoningParts
  else formatter.recapParts

/-- The part of a message that comes from the answer.  A placeholder that
stands alone is an answer that reads the same. -/
def answerPart (formatter : DiscordFormatter) (message : DiscordMessage) :
    Text :=
  if formatter.answerParts = [] then
    if formatter.recapLines = [] ∧ formatter.reasoningParts = [] ∧
        formatter.answerText = formatter.placeholderText then
      message.body
    else []
  else message.body.drop (leadLength formatter.leadParts)

/-- The whole of a first chunk is shown. -/
def HasRoomFor (formatter : DiscordFormatter) (first : Text) : Prop :=
  first = [] ∨
    if formatter.recapLines = [] then
      formatter.reasoningParts = [] ∨ first ≠ formatter.placeholderText ∧
        leadLength formatter.reasoningParts + first.length ≤ discordMaxLength
    else first ≠ formatter.placeholderText

section Parts

variable {formatter : DiscordFormatter} {budget : ℕ} {recapBody reasoning : Text}

theorem leadLength_filter_pair (first second : Text) :
    leadLength ([first, second].filter (· ≠ [])) = (if first = [] then 0 else first.length + 2) +
        if second = [] then 0 else second.length + 2 := by
  by_cases firstEmpty : first = [] <;> by_cases secondEmpty : second = [] <;>
    simp [leadLength, separator, firstEmpty, secondEmpty]

theorem length_take_add_le (part : Text) (room : ℕ) :
    (if part.take room = [] then 0 else (part.take room).length + 2) ≤
      if part = [] then 0 else room + 2 := by
  have short := List.length_take_le room part
  by_cases empty : part = []
  · simp [empty]
  · rw [if_neg empty]
    split <;> omega

theorem leadLength_shrink_le (enough : 2 ≤ budget) :
    leadLength ((shrink budget recapBody reasoning).filter (· ≠ [])) ≤
      if recapBody ≠ [] ∨ reasoning ≠ [] then budget + 2 else 0 := by
  unfold shrink
  split
  · rename_i both
    dsimp only [separator, List.length_cons, List.length_nil]
    rw [leadLength_filter_pair, if_pos (Or.inl both.1)]
    have recapRoom := length_take_add_le recapBody ((budget : ℤ) - 2 - min reasoning.length
        (((budget : ℤ) - 2) / 4).toNat).toNat
    have reasoningRoom := length_take_add_le reasoning
      (min reasoning.length (((budget : ℤ) - 2) / 4).toNat)
    rw [if_neg both.1] at recapRoom
    rw [if_neg both.2] at reasoningRoom
    push_cast at recapRoom reasoningRoom ⊢
    omega
  · rename_i notBoth
    have recapRoom := length_take_add_le recapBody budget
    have reasoningRoom := length_take_add_le reasoning budget
    rw [leadLength_filter_pair, Int.toNat_natCast]
    by_cases recapEmpty : recapBody = []
    · rw [if_pos recapEmpty] at recapRoom
      by_cases reasoningEmpty : reasoning = []
      · rw [if_pos reasoningEmpty] at reasoningRoom
        omega
      · rw [if_neg reasoningEmpty] at reasoningRoom
        rw [if_pos (Or.inr reasoningEmpty)]
        omega
    · have reasoningEmpty : reasoning = [] :=
        not_not.mp fun nonempty => notBoth ⟨recapEmpty, nonempty⟩
      rw [if_pos reasoningEmpty] at reasoningRoom
      rw [if_neg recapEmpty] at recapRoom
      rw [if_pos (Or.inl recapEmpty)]
      omega

theorem leadLength_recapParts_add_le {answer : Text} (shown : formatter.answerParts = [answer])
    (fits : answer.length ≤ discordMaxLength) :
    leadLength formatter.recapParts + answer.length ≤ embedDescMax := by
  unfold discordMaxLength at fits
  unfold recapParts embedDescMax
  rw [shown]
  dsimp only
  rw [List.map_singleton, List.sum_singleton]
  set recapBody := joinLines formatter.recapLines.tail
  set reasoning := formatter.reasoningDisplay.getD []
  by_cases above : recapBody ≠ [] ∨ reasoning ≠ []
  · have bound := @leadLength_shrink_le (4096 - (answer.length + 2)) recapBody reasoning (by omega)
    rw [if_pos above] at bound ⊢
    have budget : ((4096 : ℕ) : ℤ) - ((answer.length + separator.length : ℕ) : ℤ) =
          ((4096 - (answer.length + 2) : ℕ) : ℤ) := by
      rw [separator]
      push_cast [List.length_cons, List.length_nil]
      omega
    rw [budget]
    omega
  · have bound := @leadLength_shrink_le (4096 - answer.length) recapBody reasoning (by omega)
    rw [if_neg above] at bound ⊢
    have budget : ((4096 : ℕ) : ℤ) - ((answer.length + 0 : ℕ) : ℤ) =
        ((4096 - answer.length : ℕ) : ℤ) := by
      omega
    rw [budget]
    omega

end Parts

/-! ## What the message shows of the answer -/

section Answer

variable {formatter : DiscordFormatter}

theorem answerParts_cases (formatter : DiscordFormatter) : (formatter.answerText = [] ∨
        formatter.answerText = formatter.placeholderText) ∧
      formatter.answerParts = [] ∨
    formatter.answerText ≠ [] ∧ formatter.answerText ≠ formatter.placeholderText ∧
      formatter.answerParts = [formatter.answerText] := by
  unfold answerParts
  split
  · rename_i shown
    exact Or.inr ⟨shown.1, shown.2, rfl⟩
  · rename_i hidden
    rw [not_and_or, not_not, not_not] at hidden
    exact Or.inl ⟨hidden, rfl⟩

theorem answerPart_of_shown (shown : formatter.answerParts = [formatter.answerText]) :
    formatter.answerPart formatter.renderCombined = formatter.answerText.take
        ((if formatter.recapLines = [] then discordMaxLength
          else embedDescMax) - leadLength formatter.leadParts) := by
  rw [answerPart, if_neg (by rw [shown]; exact List.cons_ne_nil _ [])]
  unfold renderCombined leadParts
  split
  · rw [← drop_compose formatter.placeholderText, ← shown]
    rfl
  · rw [← drop_compose [8203], ← shown]
    rfl

theorem answerPart_of_hidden (hidden : formatter.answerParts = []) :
    formatter.answerPart formatter.renderCombined =
      if formatter.recapLines = [] ∧ formatter.reasoningParts = [] ∧
          formatter.answerText = formatter.placeholderText then
        formatter.answerText.take discordMaxLength
      else [] := by
  rw [answerPart, if_pos hidden]
  split
  · rename_i alone
    rw [renderCombined, if_pos alone.1]
    dsimp only [DiscordMessage.body]
    rw [composeNoRecapDisplay, hidden, alone.2.1, alone.2.2]
    rfl
  · rfl

theorem answerPart_prefix (formatter : DiscordFormatter) :
    formatter.answerPart formatter.renderCombined <+:
      formatter.answerText := by
  rcases answerParts_cases formatter with ⟨-, hidden⟩ | ⟨-, -, shown⟩
  · rw [answerPart_of_hidden hidden]
    split
    · exact List.take_prefix _ _
    · exact List.nil_prefix
  · rw [answerPart_of_shown shown]
    exact List.take_prefix _ _

/-- The message shows the whole answer exactly when there is room for it. -/
theorem answerPart_eq_iff (fits : formatter.answerText.length ≤ discordMaxLength) :
    formatter.answerPart formatter.renderCombined = formatter.answerText ↔
      formatter.HasRoomFor formatter.answerText := by
  unfold HasRoomFor
  rcases answerParts_cases formatter with
    ⟨unseen, hidden⟩ | ⟨nonempty, different, shown⟩
  · rw [answerPart_of_hidden hidden, List.take_of_length_le fits]
    by_cases empty : formatter.answerText = []
    · simp [empty]
    · have same := unseen.resolve_left empty
      by_cases recap : formatter.recapLines = [] <;>
        by_cases lead : formatter.reasoningParts = [] <;>
        simp [← same, recap, lead, empty, Ne.symm empty]
  · have positive := List.length_pos_iff.mpr nonempty
    rw [answerPart_of_shown shown, List.take_eq_self_iff, leadParts]
    by_cases recap : formatter.recapLines = []
    · simp only [recap, if_pos, nonempty, different, false_or, ne_eq, not_false_eq_true, true_and]
      constructor
      · intro room
        right
        omega
      · rintro (alone | room)
        · rw [alone]
          exact fits
        · omega
    · have room := leadLength_recapParts_add_le shown fits
      simp only [recap, if_neg, nonempty, different, false_or, ne_eq, not_false_eq_true, iff_true]
      omega

end Answer

end DiscordFormatter

/-! ## Follow-up messages -/

section FollowUps

variable {tabulate : Tabulate} {text chunk : Text} {chunks : List Text}

def discordChunks (tabulate : Tabulate) (text : Text) : List Text :=
  splitChunks discordMaxLength (by decide) (convertTables tabulate text)

theorem renderText_eq (tabulate : Tabulate) (text : Text) :
    renderText tabulate text discordMaxLength = .ok (discordChunks tabulate text) :=
  chunkText_of_pos _ _

theorem flatten_discordChunks (fits : chunk.length ≤ discordMaxLength)
    (unchanged : convertTables tabulate chunk = chunk) :
    (discordChunks tabulate chunk).flatten = chunk := by
  rw [discordChunks, unchanged]
  by_cases empty : chunk = []
  · rw [empty, splitChunks_nil, List.flatten_nil]
  · rw [splitChunks_of_le empty fits, List.flatten_singleton]

theorem count_discordChunks (text : Text) : (discordChunks tabulate text).flatten.count 124 =
      (convertTables tabulate text).count 124 :=
  count_flatten_splitChunks rfl _

theorem count_followUps_le (drawn : DrawsNoPipes tabulate) (chunks : List Text) :
    (chunks.flatMap (discordChunks tabulate)).flatten.count 124 ≤
      chunks.flatten.count 124 := by
  induction chunks with
  | nil => exact le_rfl
  | cons chunk chunks ih =>
    have first := (fewer_convertTables drawn chunk).count_le
    rw [List.flatMap_cons, List.flatten_append, List.count_append,
      List.flatten_cons, List.count_append, count_discordChunks]
    omega

theorem unchanged_of_count_le (drawn : DrawsNoPipes tabulate) (kept : chunks.flatten.count 124 ≤
      (chunks.flatMap (discordChunks tabulate)).flatten.count 124) :
    ∀ chunk ∈ chunks, convertTables tabulate chunk = chunk := by
  induction chunks with
  | nil => exact List.forall_mem_nil _
  | cons chunk chunks ih =>
    have first := (fewer_convertTables drawn chunk).count_le
    have others := count_followUps_le drawn chunks
    rw [List.flatMap_cons, List.flatten_append, List.count_append,
      List.flatten_cons, List.count_append, count_discordChunks] at kept
    rw [List.forall_mem_cons]
    constructor
    · apply (fewer_convertTables drawn chunk).resolve_right
      omega
    · apply ih
      omega

theorem flatten_followUps (fits : ∀ chunk ∈ chunks, chunk.length ≤ discordMaxLength)
    (unchanged : ∀ chunk ∈ chunks, convertTables tabulate chunk = chunk) :
    (chunks.flatMap (discordChunks tabulate)).flatten = chunks.flatten := by
  induction chunks with
  | nil => rfl
  | cons chunk chunks ih =>
    rw [List.forall_mem_cons] at fits unchanged
    rw [List.flatMap_cons, List.flatten_append, List.flatten_cons,
      flatten_discordChunks fits.1 unchanged.1, ih fits.2 unchanged.2]

/-- The beginning of a first chunk and the follow-up messages are the chunks
only when nothing is cut and no table is converted. -/
theorem append_followUps_eq_iff {shown first : Text} (drawn : DrawsNoPipes tabulate)
    (fits : ∀ chunk ∈ chunks, chunk.length ≤ discordMaxLength)
    (isPrefix : shown <+: first) :
    shown ++ (chunks.flatMap (discordChunks tabulate)).flatten =
        first ++ chunks.flatten ↔
      shown = first ∧ ∀ chunk ∈ chunks, convertTables tabulate chunk = chunk := by
  constructor
  · intro whole
    have counts := congrArg (List.count 124) whole
    have shownCount := isPrefix.sublist.count_le 124
    rw [List.count_append, List.count_append] at counts
    have unchanged : ∀ chunk ∈ chunks, convertTables tabulate chunk = chunk :=
      unchanged_of_count_le drawn (by omega)
    rw [flatten_followUps fits unchanged] at whole
    exact ⟨List.append_cancel_right whole, unchanged⟩
  · rintro ⟨rfl, unchanged⟩
    rw [flatten_followUps fits unchanged]

end FollowUps

namespace DiscordTurn

/-! ## Runs of a turn -/

/-- A call to the formatter in a streaming turn. -/
inductive Edit
  | placeholderText (text : Text)
  | reasoning (hasTrace : Bool) (now : ℚ) (event : ReasoningEvent)
  | toolRecap (lines : List Text) (done : Bool)

def apply (turn : DiscordTurn) : Edit → DiscordTurn
  | .placeholderText text => turn.editPlaceholderText text
  | .reasoning hasTrace now event => turn.editReasoning hasTrace now event
  | .toolRecap lines done => turn.editToolRecap lines done

/-- The turn after its edits. -/
def run (placeholderText : Text) (edits : List Edit) : DiscordTurn :=
  edits.foldl apply (sendPlaceholder placeholderText)

/-- The combined message and the follow-up messages show the chunks. -/
def ShowsWhole (turn : DiscordTurn) (chunks : List Text) : Prop :=
  ∃ message, turn.edits.getLast? = some message ∧
    turn.formatter.answerPart message ++ turn.followUps.flatten = chunks.flatten

def KeepsLimits (turn : DiscordTurn) : Prop :=
  (∀ message ∈ turn.edits, message.content.length ≤ discordMaxLength ∧
    ∀ embed, message.embed = some embed →
      embed.description.length ≤ DiscordFormatter.embedDescMax) ∧
  ∀ followUp ∈ turn.followUps, followUp.length ≤ discordMaxLength

section Run

variable {turn : DiscordTurn} {tabulate : Tabulate} {first : Text}
variable {extraChunks : List Text}

theorem KeepsLimits.renderCombined (kept : turn.KeepsLimits) (formatter : DiscordFormatter) :
    ({ turn with formatter := formatter }).renderCombined.KeepsLimits := by
  refine ⟨?_, kept.2⟩
  intro message member
  rcases List.mem_append.mp member with earlier | latest
  · exact kept.1 message earlier
  · rw [List.mem_singleton.mp latest, DiscordFormatter.renderCombined]
    split
    · exact ⟨DiscordFormatter.length_compose_le _ _ _ _, nofun⟩
    · refine ⟨Nat.zero_le _, ?_⟩
      rintro embed ⟨rfl⟩
      exact DiscordFormatter.length_compose_le _ _ _ _

theorem KeepsLimits.apply (kept : turn.KeepsLimits) (edit : Edit) : (turn.apply edit).KeepsLimits ∧
      (turn.apply edit).followUps = turn.followUps := by
  cases edit with
  | placeholderText text => exact ⟨kept.renderCombined _, rfl⟩
  | reasoning hasTrace now event =>
    dsimp only [DiscordTurn.apply, editReasoning]
    split
    · split
      · exact ⟨kept, rfl⟩
      · exact ⟨kept.renderCombined _, rfl⟩
    · exact ⟨kept, rfl⟩
  | toolRecap lines done =>
    dsimp only [DiscordTurn.apply, editToolRecap]
    split
    · exact ⟨kept, rfl⟩
    · exact ⟨kept.renderCombined _, rfl⟩

theorem keepsLimits_run (placeholderText : Text) (edits : List Edit) :
    (run placeholderText edits).KeepsLimits ∧ (run placeholderText edits).followUps = [] := by
  induction edits using List.reverseRecOn with
  | nil => exact ⟨⟨List.forall_mem_nil _, List.forall_mem_nil _⟩, rfl⟩
  | append_singleton edits edit ih =>
    have next := ih.1.apply edit
    rw [run, List.foldl_append]
    exact ⟨next.1, next.2.trans ih.2⟩

theorem foldlM_sendMessage (turn : DiscordTurn) :
    extraChunks.foldlM (sendMessage tabulate) turn =
      .ok { turn with
        followUps := turn.followUps ++
          extraChunks.flatMap (discordChunks tabulate) } := by
  induction extraChunks generalizing turn with
  | nil =>
    rw [List.flatMap_nil, List.append_nil]
    rfl
  | cons chunk extraChunks ih =>
    rw [List.foldlM_cons, sendMessage, renderText_eq, Py.ok_bind,
      Py.ok_bind, ih, List.append_assoc, List.flatMap_cons]

theorem exists_deliverTextChunks (drawn : DrawsNoPipes tabulate)
    (kept : turn.KeepsLimits) (unsent : turn.followUps = [])
    (firstFits : first.length ≤ discordMaxLength)
    (extraFit : ∀ chunk ∈ extraChunks, chunk.length ≤ discordMaxLength) :
    ∃ final, turn.deliverTextChunks tabulate first extraChunks = .ok final ∧ final.KeepsLimits ∧
      (final.ShowsWhole (first :: extraChunks) ↔ turn.formatter.HasRoomFor first ∧
          ∀ chunk ∈ extraChunks, convertTables tabulate chunk = chunk) := by
  set formatter := { turn.formatter with answerText := first }
  refine ⟨_, foldlM_sendMessage _, ⟨(kept.renderCombined formatter).1, ?_⟩, ?_⟩
  · intro followUp member
    dsimp only [editPlaceholderText, renderCombined] at member
    rw [unsent, List.nil_append, List.mem_flatMap] at member
    obtain ⟨chunk, -, piece⟩ := member
    exact length_le_of_mem_splitChunks piece
  · have shows := append_followUps_eq_iff drawn extraFit formatter.answerPart_prefix
    rw [DiscordFormatter.answerPart_eq_iff firstFits] at shows
    refine Iff.trans ?_ shows
    dsimp only [ShowsWhole, editPlaceholderText, renderCombined]
    rw [List.getLast?_concat, unsent, List.nil_append, List.flatten_cons]
    simp only [Option.some.injEq, exists_eq_left']
    rfl

/-! ## The final answer -/

theorem length_le_of_chunk {text : Text} {chunks : List Text}
    (split : DiscordFormatter.chunk tabulate text = .ok chunks) :
    ∀ chunk ∈ chunks, chunk.length ≤ discordMaxLength := by
  rw [DiscordFormatter.chunk, renderText_eq] at split
  cases split
  intro chunk member
  exact length_le_of_mem_splitChunks member

/-- After a turn the message and the follow-ups show the whole answer, within
the limits, exactly when there is room for the first chunk and no later chunk
holds a table. -/
theorem showsWhole_iff (drawn : DrawsNoPipes tabulate)
    (placeholderText : Text) (edits : List Edit) {answer : Text}
    (split : DiscordFormatter.chunk tabulate answer = .ok (first :: extraChunks)) :
    ∃ final, (run placeholderText edits).deliverTextChunks tabulate first
        extraChunks = .ok final ∧
      (final.ShowsWhole (first :: extraChunks) ∧ final.KeepsLimits ↔
        (run placeholderText edits).formatter.HasRoomFor first ∧
          ∀ chunk ∈ extraChunks, convertTables tabulate chunk = chunk) := by
  have fits := List.forall_mem_cons.mp (length_le_of_chunk split)
  obtain ⟨kept, unsent⟩ := keepsLimits_run placeholderText edits
  obtain ⟨final, delivered, keeps, shows⟩ :=
    exists_deliverTextChunks drawn kept unsent fits.1 fits.2
  exact ⟨final, delivered, by rw [and_iff_left keeps, shows]⟩

end Run

section Example

/-- A drawing of a table with a line for each cell. -/
def exampleTabulate : Tabulate := fun headers data =>
  joinLines (headers ++ data.flatten)

theorem drawsNoPipes_exampleTabulate : DrawsNoPipes exampleTabulate := by
  intro headers data headersFree dataFree pipe
  rcases mem_joinLines pipe with isNewline | ⟨cell, listed, inCell⟩
  · cases isNewline
  · rcases List.mem_append.mp listed with header | inData
    · exact headersFree cell header inCell
    · obtain ⟨cells, row, inRow⟩ := List.mem_flatten.mp inData
      exact dataFree cells row cell inRow inCell

/-- A text of a full message without blanks and pipes. -/
def exampleAnswer : Text := List.replicate discordMaxLength 97

theorem length_exampleAnswer : exampleAnswer.length = discordMaxLength := List.length_replicate

theorem chunk_exampleAnswer (tabulate : Tabulate) :
    DiscordFormatter.chunk tabulate exampleAnswer = .ok [exampleAnswer] := by
  have absent : 124 ∉ exampleAnswer := by
    intro member
    cases List.eq_of_mem_replicate member
  rw [DiscordFormatter.chunk, renderText_eq, discordChunks,
    convertTables_eq_self absent, splitChunks_of_le]
  · apply List.ne_nil_of_length_pos
    rw [length_exampleAnswer]
    decide
  · exact length_exampleAnswer.le

/-- A turn that shows a word of reasoning. -/
def exampleEdits : List Edit := [.reasoning true 0 (.delta (ofString "hm"))]

theorem showsWhole_iff_example : ∃ final, (run (ofString "…") []).deliverTextChunks exampleTabulate
        exampleAnswer [] = .ok final ∧
      (final.ShowsWhole [exampleAnswer] ∧ final.KeepsLimits ↔
        (run (ofString "…") []).formatter.HasRoomFor exampleAnswer ∧ ∀ chunk ∈ ([] : List Text),
            convertTables exampleTabulate chunk = chunk) :=
  showsWhole_iff drawsNoPipes_exampleTabulate (ofString "…") []
    (chunk_exampleAnswer exampleTabulate)

/-- A word of reasoning cuts off the end of an answer. -/
theorem cuts_answer_example : ∃ final, (run (ofString "…") exampleEdits).deliverTextChunks
        exampleTabulate exampleAnswer [] = .ok final ∧
      DiscordFormatter.chunk exampleTabulate exampleAnswer = .ok [exampleAnswer] ∧
      ¬ final.ShowsWhole [exampleAnswer] := by
  obtain ⟨kept, unsent⟩ := keepsLimits_run (ofString "…") exampleEdits
  obtain ⟨final, delivered, -, shows⟩ :=
    exists_deliverTextChunks drawsNoPipes_exampleTabulate kept unsent length_exampleAnswer.le
      (List.forall_mem_nil _)
  refine ⟨final, delivered, chunk_exampleAnswer _, ?_⟩
  rw [shows]
  rintro ⟨empty | room, -⟩
  · have long := length_exampleAnswer
    rw [empty] at long
    cases long
  · rw [if_pos (by rfl)] at room
    rcases room with alone | ⟨-, short⟩
    · cases alone
    · have taken : DiscordFormatter.leadLength
          (run (ofString "…") exampleEdits).formatter.reasoningParts = 6 := rfl
      rw [taken, length_exampleAnswer] at short
      omega

end Example

end DiscordTurn

end RoxabiFactory
