import RoxabiFactory.ChunkText

/-!
# Messages for Telegram

A formatter cuts a text into chunks, and in plain mode it escapes the text
before.  A chunk is sent as a rich message; in plain mode, or when this fails,
it is escaped and the first part that fits is sent.
-/

namespace RoxabiFactory

namespace Telegram

open Text

/-- The code points of `_MARKDOWNV2_SPECIAL`, in its order. -/
def special : Text := [95, 42, 91, 93, 40, 41, 126, 96, 62, 35, 43, 45, 61, 124, 123, 125, 46, 33,
    92]

/-- A backslash comes before each special character. -/
def escape (text : Text) : Text := text.flatMap fun codePoint =>
    if codePoint ∈ special then [92, codePoint] else [codePoint]

/-- `TELEGRAM_MAX_LENGTH`. -/
def maxLength : ℕ := 4096

theorem maxLength_pos : 0 < maxLength := by
  decide

/-- `_render_text`. -/
def renderText (text : Text) : List Text :=
  splitChunks maxLength maxLength_pos (escape text)

theorem chunkText_escape (text : Text) :
    chunkText text maxLength (some escape) = .ok (renderText text) := by
  rw [chunkText, dif_pos (by decide)]
  rfl

/-- `TelegramFormatter.chunk`. -/
def chunk (rich : Bool) (text : Text) : List Text :=
  let chunks := if rich then splitChunks maxLength maxLength_pos text
    else renderText text
  if chunks = [] then [text] else chunks

inductive Message
  | rich (markdown : Text)
  | markdownV2 (text : Text)

def Message.text : Message → Text
  | .rich text | .markdownV2 text => text

/-- `send_text_with_fallback`; `accepted` says that the rich message is. -/
def sendTextWithFallback (rich accepted : Bool) (text : Text) : List Message :=
  if rich ∧ text ≠ [] ∧ accepted then [.rich text]
  else [.markdownV2 ((renderText text).headD text)]

/-- `edit_text_with_fallback`. -/
def editTextWithFallback (rich accepted : Bool) (text : Text) : List Message :=
  if rich ∧ text ≠ [] ∧ accepted then [.rich text]
  else (renderText text).head?.toList.map .markdownV2

/-- What is sent of a text that is escaped: what comes before its first
break. -/
def firstPart (escaped : Text) : Text :=
  if escaped.length ≤ maxLength then escaped
  else escaped.take (cutPlace (escaped.take maxLength) maxLength)

/-- The messages fit and have the visible characters of the chunk, which are
escaped once: by the formatter in plain mode, and else unless the chunk is sent
as a rich message. -/
structure Delivered (rich accepted : Bool) (chunk : Text) (messages : List Message) : Prop where
  length_le : ∀ message ∈ messages, message.text.length ≤ maxLength
  visible_eq : visible (messages.flatMap Message.text) =
    visible (if rich ∧ ¬ accepted then escape chunk else chunk)

def EndsInBackslashes (text : Text) : Prop :=
  ∃ plain count, text = plain ++ List.replicate count 92 ∧ ∀ codePoint ∈ plain, codePoint ∉ special

/-- When a chunk is delivered: as a rich message; when only blanks come after
the first break of the escaped chunk; and in plain mode when escaping it again
changes nothing up to the first break. -/
def Harmless (rich accepted : Bool) (chunk : Text) : Prop :=
  if rich then
    accepted = true ∨ visible ((escape chunk).drop (firstPart (escape chunk)).length) = []
  else EndsInBackslashes (visible chunk) ∧
    (visible (firstPart (escape chunk))).length = (visible chunk).length

section Escape

variable {text : Text} {codePoint : ℕ}

theorem escape_cons_of_special (isSpecial : codePoint ∈ special) :
    escape (codePoint :: text) = 92 :: codePoint :: escape text := by
  rw [escape, List.flatMap_cons, if_pos isSpecial]
  rfl

theorem escape_cons_of_plain (isPlain : codePoint ∉ special) :
    escape (codePoint :: text) = codePoint :: escape text := by
  rw [escape, List.flatMap_cons, if_neg isPlain]
  rfl

theorem not_isSpace_of_special (isSpecial : codePoint ∈ special) :
    PyStr.isSpace codePoint = false := by
  revert codePoint
  decide

theorem visible_escape (text : Text) : visible (escape text) = escape (visible text) := by
  induction text with
  | nil => rfl
  | cons codePoint text ih =>
    unfold visible at ih ⊢
    by_cases isSpecial : codePoint ∈ special
    · have shown := not_isSpace_of_special isSpecial
      have backslash : PyStr.isSpace 92 = false := by decide
      simp only [escape_cons_of_special isSpecial, List.filter_cons, shown,
        backslash, Bool.not_false, if_true, ih]
    · cases shown : PyStr.isSpace codePoint <;>
        simp [escape_cons_of_plain isSpecial, shown, ih]

theorem escape_append (first second : Text) :
    escape (first ++ second) = escape first ++ escape second :=
  List.flatMap_append

theorem escape_of_plain (plain : ∀ codePoint ∈ text, codePoint ∉ special) : escape text = text := by
  induction text with
  | nil => rfl
  | cons codePoint text ih =>
    rw [List.forall_mem_cons] at plain
    rw [escape_cons_of_plain plain.1, ih plain.2]

theorem escape_replicate (count : ℕ) : escape (List.replicate count 92) =
      List.replicate count 92 ++ List.replicate count 92 := by
  rw [List.replicate_append_replicate]
  induction count with
  | zero => rfl
  | succ count ih =>
    rw [List.replicate_succ, escape_cons_of_special (by decide), ih,
      ← List.replicate_succ, ← List.replicate_succ]
    congr 1
    omega

theorem eq_replicate_of_isPrefix {behind : ℕ} (some : 0 < behind)
    (isPrefix : text <+: List.replicate behind 92 ++ escape text) :
    text = List.replicate text.length 92 := by
  induction text generalizing behind with
  | nil => rfl
  | cons codePoint text ih =>
    obtain ⟨behind, rfl⟩ := Nat.exists_eq_add_of_lt some
    rw [Nat.zero_add, List.replicate_succ, List.cons_append, List.cons_prefix_cons] at isPrefix
    obtain ⟨rfl, later⟩ := isPrefix
    rw [escape_cons_of_special (by decide)] at later
    have more : List.replicate behind 92 ++ 92 :: 92 :: escape text =
        List.replicate (behind + 2) 92 ++ escape text := by
      rw [← List.replicate_append_replicate, List.append_assoc]
      rfl
    rw [more] at later
    rw [List.length_cons, List.replicate_succ, ← ih (by omega) later]

theorem endsInBackslashes_of_isPrefix (isPrefix : text <+: escape text) :
    EndsInBackslashes text := by
  induction text with
  | nil => exact ⟨[], 0, rfl, List.forall_mem_nil _⟩
  | cons codePoint text ih =>
    by_cases isSpecial : codePoint ∈ special
    · rw [escape_cons_of_special isSpecial, List.cons_prefix_cons] at isPrefix
      obtain ⟨rfl, later⟩ := isPrefix
      have tail := @eq_replicate_of_isPrefix _ 1 Nat.one_pos later
      refine ⟨[], text.length + 1, ?_, List.forall_mem_nil _⟩
      rw [List.nil_append, List.replicate_succ, ← tail]
    · rw [escape_cons_of_plain isSpecial, List.cons_prefix_cons] at isPrefix
      obtain ⟨plain, count, textEq, isPlain⟩ := ih isPrefix.2
      refine ⟨codePoint :: plain, count, by rw [textEq]; rfl, ?_⟩
      exact List.forall_mem_cons.mpr ⟨isSpecial, isPlain⟩

theorem EndsInBackslashes.prefix (ends : EndsInBackslashes text) : text <+: escape text := by
  obtain ⟨plain, count, rfl, isPlain⟩ := ends
  rw [escape_append, escape_of_plain isPlain, escape_replicate, ← List.append_assoc]
  exact List.prefix_append _ _

end Escape

section Deliver

variable {rich accepted : Bool} {text part : Text}

theorem splitChunks_ne_nil (nonempty : text ≠ []) :
    splitChunks maxLength maxLength_pos text ≠ [] := by
  rcases Nat.lt_or_ge maxLength text.length with long | fits
  · rw [splitChunks_of_lt long]
    exact List.cons_ne_nil _ _
  · rw [splitChunks_of_le nonempty fits]
    exact List.cons_ne_nil _ _

theorem escape_ne_nil (nonempty : text ≠ []) : escape text ≠ [] := by
  obtain ⟨codePoint, text, rfl⟩ := List.exists_cons_of_ne_nil nonempty
  by_cases isSpecial : codePoint ∈ special
  · rw [escape_cons_of_special isSpecial]
    exact List.cons_ne_nil _ _
  · rw [escape_cons_of_plain isSpecial]
    exact List.cons_ne_nil _ _

theorem eq_nil_of_renderText (none : renderText text = []) : text = [] := by
  by_contra nonempty
  exact splitChunks_ne_nil (escape_ne_nil nonempty) none

theorem visible_headD_renderText (text : Text) : visible ((renderText text).headD text) =
      visible (firstPart (escape text)) := by
  by_cases empty : text = []
  · subst empty
    rw [renderText, show escape [] = [] from rfl, splitChunks_nil]
    rfl
  · unfold renderText firstPart
    rcases Nat.lt_or_ge maxLength (escape text).length with long | fits
    · rw [splitChunks_of_lt long, if_neg (by omega), List.headD_cons,
        visible_rstrip]
    · rw [splitChunks_of_le (escape_ne_nil empty) fits, if_pos fits, List.headD_cons]

theorem length_headD_renderText_le (text : Text) :
    ((renderText text).headD text).length ≤ maxLength := by
  cases rendered : renderText text with
  | nil =>
    rw [eq_nil_of_renderText rendered]
    exact Nat.zero_le _
  | cons first others =>
    apply length_le_of_mem_splitChunks
    rw [← renderText, rendered]
    exact List.mem_cons_self

theorem length_le_of_mem_chunk (isChunk : part ∈ chunk true text) :
    part.length ≤ maxLength := by
  simp only [chunk, if_true] at isChunk
  split at isChunk
  · next none =>
    have empty : text = [] := by
      by_contra nonempty
      exact splitChunks_ne_nil nonempty none
    rw [List.mem_singleton.mp isChunk, empty]
    exact Nat.zero_le _
  · exact length_le_of_mem_splitChunks isChunk

theorem firstPart_prefix (escaped : Text) : firstPart escaped <+: escaped := by
  unfold firstPart
  split
  · exact List.prefix_rfl
  · exact List.take_prefix _ _

theorem visible_firstPart_iff (notSent : rich = true → accepted = true → part = []) :
    visible (firstPart (escape part)) = visible (if rich ∧ ¬ accepted then escape part else part) ↔
      Harmless rich accepted part := by
  have isPrefix := firstPart_prefix (escape part)
  unfold Harmless
  cases rich with
  | true =>
    cases accepted with
    | true =>
      rw [notSent rfl rfl]
      exact iff_of_true rfl (.inl rfl)
    | false =>
      have whole : visible (escape part) = visible (firstPart (escape part)) ++
          visible ((escape part).drop (firstPart (escape part)).length) := by
        rw [← visible_append, List.prefix_iff_eq_append.mp isPrefix]
      simp only [Bool.false_eq_true, not_false_eq_true, and_self, if_true, false_or]
      rw [whole, List.self_eq_append_right]
  | false =>
    have shown : visible (firstPart (escape part)) <+: escape (visible part) := by
      rw [← visible_escape]
      exact isPrefix.filter _
    simp only [Bool.false_eq_true, false_and, if_false]
    constructor
    · intro same
      rw [same] at shown ⊢
      exact ⟨endsInBackslashes_of_isPrefix shown, rfl⟩
    · rintro ⟨ends, sameLength⟩
      exact (List.prefix_of_prefix_length_le shown ends.prefix
        sameLength.le).eq_of_length sameLength

/-- A chunk is delivered if and only if it is harmless, whether it is sent or
edited. -/
theorem delivered_iff (accepted : Bool) (isChunk : part ∈ chunk rich text) :
    (Delivered rich accepted part (sendTextWithFallback rich accepted part) ↔
      Harmless rich accepted part) ∧
    (Delivered rich accepted part (editTextWithFallback rich accepted part) ↔
      Harmless rich accepted part) := by
  unfold sendTextWithFallback editTextWithFallback
  by_cases sent : rich ∧ part ≠ [] ∧ accepted
  · obtain ⟨rfl, nonempty, rfl⟩ := sent
    have delivered : Delivered true true part [.rich part] := by
      refine ⟨?_, by simp [Message.text]⟩
      rintro _ (_ | ⟨_, ⟨⟩⟩)
      exact length_le_of_mem_chunk isChunk
    rw [if_pos ⟨rfl, nonempty, rfl⟩, if_pos ⟨rfl, nonempty, rfl⟩]
    exact ⟨iff_of_true delivered (.inl rfl), iff_of_true delivered (.inl rfl)⟩
  · rw [if_neg sent, if_neg sent]
    have notSent (isRich : rich = true) (isAccepted : accepted = true) : part = [] := by
      by_contra nonempty
      exact sent ⟨isRich, nonempty, isAccepted⟩
    have fits := length_headD_renderText_le part
    have fallback (messages : List Message)
        (short : ∀ message ∈ messages, message.text.length ≤ maxLength)
        (text : messages.flatMap Message.text = (renderText part).headD part) :
        Delivered rich accepted part messages ↔
          Harmless rich accepted part := by
      rw [← visible_firstPart_iff notSent, ← visible_headD_renderText, ← text]
      exact ⟨Delivered.visible_eq, Delivered.mk short⟩
    constructor
    · apply fallback
      · rintro _ (_ | ⟨_, ⟨⟩⟩)
        exact fits
      · simp [Message.text]
    · cases rendered : renderText part with
      | nil =>
        apply fallback
        · intro message member
          cases member
        · rw [rendered, eq_nil_of_renderText rendered]
          rfl
      | cons first others =>
        rw [rendered] at fits fallback
        apply fallback
        · rintro _ (_ | ⟨_, ⟨⟩⟩)
          exact fits
        · simp [Message.text]

end Deliver

section Example

theorem renderText_of_short {text : Text} (nonempty : text ≠ [])
    (fits : (escape text).length ≤ maxLength) :
    renderText text = [escape text] :=
  splitChunks_of_le (escape_ne_nil nonempty) fits

/-- Two letters in plain mode. -/
theorem delivered_iff_letters : (Delivered false false [72, 105]
        (sendTextWithFallback false false [72, 105]) ↔
      Harmless false false [72, 105]) ∧
    (Delivered false false [72, 105] (editTextWithFallback false false [72, 105]) ↔
      Harmless false false [72, 105]) := by
  have isChunk : [72, 105] ∈ chunk false [72, 105] := by
    simp only [chunk, Bool.false_eq_true, if_false]
    rw [renderText_of_short (by decide) (by decide)]
    decide
  exact delivered_iff false isChunk

/-- A dot is escaped by the formatter and again when it is sent. -/
theorem exists_escaped_twice : ∃ part ∈ chunk false [46],
      ¬ Delivered false false part (sendTextWithFallback false false part) := by
  refine ⟨[92, 46], ?_, fun delivered => ?_⟩
  · simp only [chunk, Bool.false_eq_true, if_false]
    rw [renderText_of_short (by decide) (by decide)]
    decide
  · have shown := delivered.visible_eq
    unfold sendTextWithFallback at shown
    rw [renderText_of_short (by decide) (by decide)] at shown
    revert shown
    decide

end Example

end Telegram

end RoxabiFactory
