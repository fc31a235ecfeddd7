import RoxabiFactory.WireMessages

/-!
# Merged messages

The debouncer makes one message of a batch: texts are joined by newlines and
cut at a budget, and what identifies a message comes from the last one.  A
merged message in front of a batch counts as the messages that it was made of.
-/

namespace RoxabiFactory

open Wire

namespace MessageDebouncer

/-- `text[:stop]`. -/
def sliceTo (text : String) (stop : ℤ) : String := String.ofList (text.toList.take
    (if 0 ≤ stop then stop else text.length + stop).toNat)

/-- `"\n".join(texts)[:max_merged_chars]`. -/
def combine (maxMergedChars : ℤ) (texts : List String) : String :=
  sliceTo ("\n".intercalate texts) maxMergedChars

/-- `merge`. -/
def merge (maxMergedChars : ℤ) (messages : List InboundMessage) : Py InboundMessage :=
  match messages with
  | [] => .error .valueError
  | [message] => .ok message
  | first :: second :: others =>
    .ok { (first :: second :: others).getLast (List.cons_ne_nil _ _) with
      text := combine maxMergedChars (messages.map (·.text))
      textRaw := combine maxMergedChars (messages.map (·.textRaw))
      isMention := messages.any (·.isMention)
      attachments := messages.flatMap (·.attachments) }

variable {maxMergedChars : ℤ}

theorem sliceTo_append (budget : 0 ≤ maxMergedChars) (text rest : String) :
    sliceTo (sliceTo text maxMergedChars ++ rest) maxMergedChars =
      sliceTo (text ++ rest) maxMergedChars := by
  unfold sliceTo
  simp only [if_pos budget, String.toList_append, String.toList_ofList,
    List.take_append, List.take_take, List.length_take, min_self]
  congr 3
  omega

theorem intercalate_append (text : String) (texts others : List String) (more : others ≠ []) :
    "\n".intercalate (text :: texts ++ others) =
      "\n".intercalate (text :: texts) ++ ("\n" ++ "\n".intercalate others) := by
  induction texts generalizing text with
  | nil =>
    obtain ⟨other, others, rfl⟩ := List.exists_cons_of_ne_nil more
    simp [String.append_assoc]
  | cons next texts ih =>
    rw [List.cons_append, List.cons_append, String.intercalate_cons_cons,
      ← List.cons_append, ih, String.intercalate_cons_cons]
    simp only [String.append_assoc]

theorem combine_combine (budget : 0 ≤ maxMergedChars) (text : String)
    (texts others : List String) (more : others ≠ []) :
    combine maxMergedChars (combine maxMergedChars (text :: texts) :: others) =
      combine maxMergedChars (text :: texts ++ others) := by
  have split := intercalate_append (combine maxMergedChars (text :: texts)) [] others more
  rw [combine, List.singleton_append.symm, split, String.intercalate_singleton,
    combine, sliceTo_append budget, combine, intercalate_append _ _ _ more]

/-- A merged message stands for the messages that it was made of. -/
theorem merge_merge (budget : 0 ≤ maxMergedChars)
    {messages : List InboundMessage} (nonempty : messages ≠ [])
    (others : List InboundMessage) :
    (merge maxMergedChars messages >>= fun merged =>
      merge maxMergedChars (merged :: others)) =
        merge maxMergedChars (messages ++ others) := by
  match messages, others with
  | [], _ => exact absurd rfl nonempty
  | [message], others => rfl
  | first :: second :: later, [] =>
    rw [List.append_nil]
    rfl
  | first :: second :: later, other :: others =>
    have texts (field : InboundMessage → String) : combine maxMergedChars (combine maxMergedChars
            ((first :: second :: later).map field) ::
          (other :: others).map field) =
        combine maxMergedChars ((first :: second :: (later ++ other :: others)).map field) := by
      rw [← List.cons_append, ← List.cons_append, List.map_append]
      exact combine_combine budget _ _ _ (List.cons_ne_nil _ _)
    have last : (first :: second :: (later ++ other :: others)).getLast (List.cons_ne_nil _ _) =
        (other :: others).getLast (List.cons_ne_nil _ _) := by
      simp only [← List.cons_append]
      exact List.getLast_append_of_ne_nil _ _
    simp only [merge, Py.ok_bind, List.cons_append, List.getLast_cons_cons,
      List.map_cons, List.any_cons, List.flatMap_cons] at texts last ⊢
    rw [texts (·.text), texts (·.textRaw), last]
    simp only [List.any_append, List.flatMap_append, List.any_cons,
      List.flatMap_cons, Bool.or_assoc, List.append_assoc]

section Example

theorem noon_valid : TimeFields.Valid
    { year := 2026, month := 1, day := 1, hour := 12, offset := some 0 } := by
  decide

def chatMessage (id text : String) (isMention : Bool) : InboundMessage where
  id := id
  platform := "telegram"
  botId := "main"
  scopeId := "chat:1"
  userId := "1"
  userName := "ada"
  isMention := isMention
  text := text
  textRaw := text
  trustLevel := .pub
  timestamp := ⟨_, noon_valid⟩

/-- The budget ends in the second message. -/
theorem merge_merge_chat : (merge 5 [chatMessage "1" "one" true, chatMessage "2" "two" false] >>=
      fun merged => merge 5 [merged, chatMessage "3" "three" false]) =
        merge 5 ([chatMessage "1" "one" true, chatMessage "2" "two" false] ++
          [chatMessage "3" "three" false]) :=
  merge_merge (by decide) (List.cons_ne_nil _ _) _

end Example

end MessageDebouncer

end RoxabiFactory
