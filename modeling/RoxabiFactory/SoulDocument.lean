import Mathlib.Logic.Function.Basic
import RoxabiFactory.TextLines

/-!
# Soul documents

The five sections of an agent's soul are merged into one document, in which a
header stands in front of each of them, and are read back from its lines.
Nothing in a section is escaped.
-/

namespace RoxabiFactory

namespace Soul

open Text (isBoundary splitlines strip joinLines prose IsLine)

/-! ## Sections -/

inductive SoulSection
  | identity
  | personality
  | values
  | expertise
  | guidelines
  deriving DecidableEq

def SoulSection.name : SoulSection → Text
  | identity => .ofString "Identity"
  | personality => .ofString "Personality"
  | values => .ofString "Values"
  | expertise => .ofString "Expertise"
  | guidelines => .ofString "Guidelines"

def soulSectionOrder : List SoulSection :=
  [.identity, .personality, .values, .expertise, .guidelines]

/-- A dictionary whose keys are sections. -/
abbrev Sections := SoulSection → Option Text

def sectionNamed (name : Text) : Option SoulSection :=
  soulSectionOrder.find? fun candidate => decide (candidate.name = name)

/-- What `\w` matches. -/
structure WordClass where
  isWord : ℕ → Bool
  letters : ∀ codePoint, 65 ≤ codePoint ∧ codePoint ≤ 90 ∨
    97 ≤ codePoint ∧ codePoint ≤ 122 → isWord codePoint = true
  blanks : ∀ codePoint, PyStr.isSpace codePoint = true → isWord codePoint = false

/-! ## Reading -/

section Reading

variable (words : WordClass)

/-- `_SOUL_HEADER_RE.match(line)`, for a line without blanks around it. -/
def matchHeader : Text → Option Text
  | 35 :: 35 :: rest =>
    let name := rest.dropWhile PyStr.isSpace
    if name.length < rest.length ∧ name ≠ [] ∧ name.all words.isWord = true then some name
    else none
  | _ => none

def headerName (line : Text) : Option Text :=
  matchHeader words (strip line)

/-- The variables of `parse_soul_markdown`. -/
structure Reader where
  sections : Sections := fun _ => none
  current : Option SoulSection := none
  buf : List Text := []

/-- `_flush`. -/
def Reader.flush (reader : Reader) : Sections :=
  match reader.current with
  | none => reader.sections
  | some current =>
    Function.update reader.sections current (some (strip (joinLines reader.buf)))

def Reader.read (reader : Reader) (line : Text) : Py Reader :=
  match headerName words line with
  | some name =>
    match sectionNamed name with
    | none => .error .valueError
    | some found => .ok ⟨reader.flush, some found, []⟩
  | none =>
    match reader.current with
    | none => .ok reader
    | some _ => .ok { reader with buf := reader.buf ++ [line] }

/-- `parse_soul_markdown`. -/
def parseSoulMarkdown (markdown : Text) : Py Sections :=
  if strip markdown = [] then .ok fun _ => none
  else do
    let reader ← (splitlines markdown).foldlM (Reader.read words) {}
    return reader.flush

end Reading

/-! ## Writing -/

/-- `(sections.get(name) or "").strip()`, if it is not empty. -/
def trimmed (sections : Sections) : Sections := fun key =>
  let body := strip ((sections key).getD [])
  if body = [] then none else some body

/-- A header and the text below it. -/
def part (key : SoulSection) (body : Text) : Text := .ofString "## " ++ key.name ++ 10 :: body

def parts (sections : Sections) : List Text := soulSectionOrder.filterMap fun key =>
    (trimmed sections key).map (part key)

/-- `merge_soul_sections`. -/
def mergeSoulSections (sections : Sections) : Text := List.intercalate [10, 10] (parts sections) ++
    if parts sections = [] then [] else [10]

def voiceTranscriptInstruction : Text := .ofString ("## Voice messages\n" ++
    "When the user's input is wrapped in <voice_transcript>…" ++
    "</voice_transcript>, the transcript has already been shown to the user " ++
    "as a confirmation. Respond directly to the content — do not quote, " ++
    "repeat, or acknowledge the transcript itself.")

def maxPromptBytes : ℕ := 64 * 1024

def maxSoulDocumentBytes : ℕ := 48 * 1024

/-- The number of bytes in UTF-8. -/
def encodedSize : Text → Py ℕ
  | [] => .ok 0
  | codePoint :: rest => do
    if 55296 ≤ codePoint ∧ codePoint ≤ 57343 then
      throw (.other "UnicodeEncodeError")
    let size ← encodedSize rest
    return size + if codePoint < 128 then 1 else if codePoint < 2048 then 2
      else if codePoint < 65536 then 3 else 4

def checkPrompt (composed : Text) : Py Text := do
  let size ← encodedSize composed
  if maxPromptBytes < size then throw .valueError
  return composed

/-- `compose_soul_document`. -/
def composeSoulDocument (sections : Sections) : Py Text := checkPrompt (List.intercalate [10, 10]
    (parts sections ++ [voiceTranscriptInstruction]))

/-- `compose_soul_document_from_markdown`. -/
def composeSoulDocumentFromMarkdown (words : WordClass) (markdown : Text) :
    Py Text := do
  composeSoulDocument (← parseSoulMarkdown words markdown)

/-- `validate_soul_document_bytes`. -/
def validateSoulDocumentBytes (size : ℕ) : Py Unit :=
  if maxSoulDocumentBytes < size then .error .valueError else .ok ()

/-- `merge_and_validate_sections`. -/
def mergeAndValidateSections (sections : Sections) : Py Text := do
  let md := mergeSoulSections sections
  validateSoulDocumentBytes (← encodedSize md)
  let _ ← composeSoulDocument sections
  return md

/-! ## Sizes -/

section Sizes

variable {sections : Sections} {size : ℕ}

theorem encodedSize_append {first second : Text} {firstSize secondSize : ℕ}
    (isFirst : encodedSize first = .ok firstSize)
    (isSecond : encodedSize second = .ok secondSize) :
    encodedSize (first ++ second) = .ok (firstSize + secondSize) := by
  induction first generalizing firstSize with
  | nil =>
    cases isFirst
    rw [List.nil_append, isSecond, Nat.zero_add]
  | cons codePoint rest ih =>
    rw [encodedSize] at isFirst
    rw [List.cons_append, encodedSize]
    split at isFirst
    · cases isFirst
    · rename_i notSurrogate
      obtain ⟨restSize, isRest, added⟩ := Py.bind_eq_ok.mp isFirst
      rw [if_neg notSurrogate]
      refine Py.bind_eq_ok.mpr ⟨_, ih isRest, ?_⟩
      rw [← Except.ok.inj added, Nat.add_right_comm]
      rfl

theorem exists_encodedSize_ofString (characters : String) :
    ∃ size, encodedSize (.ofString characters) = .ok size ∧
      size ≤ 4 * characters.toList.length := by
  unfold Text.ofString
  induction characters.toList with
  | nil => exact ⟨0, rfl, Nat.zero_le _⟩
  | cons character rest ih =>
    obtain ⟨size, isSize, few⟩ := ih
    have notSurrogate : ¬ (55296 ≤ character.toNat ∧
        character.toNat ≤ 57343) := by
      have valid := character.valid
      simp only [UInt32.isValidChar, Nat.isValidChar] at valid
      unfold Char.toNat
      omega
    rw [List.map_cons, encodedSize, if_neg notSurrogate, isSize]
    refine ⟨_, rfl, ?_⟩
    rw [List.length_cons]
    split_ifs <;> omega

theorem length_voiceTranscriptInstruction :
    voiceTranscriptInstruction.length ≤ 400 := by
  simp only [voiceTranscriptInstruction, Text.ofString, List.length_map,
    String.toList_append, String.reduceToList, List.length_append,
    List.length_cons, List.length_nil]
  omega

theorem intercalate_append_last (separator last : Text) (texts : List Text) :
    List.intercalate separator (texts ++ [last]) =
      List.intercalate separator (texts ++ [[]]) ++ last := by
  induction texts with
  | nil =>
    rw [List.nil_append, List.nil_append, List.intercalate_singleton,
      List.intercalate_singleton, List.nil_append]
  | cons text rest ih =>
    have split (final : Text) : List.intercalate separator
        (text :: (rest ++ [final])) = text ++ separator ++
          List.intercalate separator (rest ++ [final]) := by
      cases rest with
      | nil => rw [List.nil_append, List.intercalate_cons_cons]
      | cons next others => rw [List.cons_append, List.intercalate_cons_cons]
    rw [List.cons_append, List.cons_append, split, split, ih,
      List.append_assoc, List.append_assoc, List.append_assoc]

theorem exists_composeSoulDocument
    (isSize : encodedSize (List.intercalate [10, 10] (parts sections ++ [[]])) =
      .ok size) (short : size ≤ maxSoulDocumentBytes) :
    ∃ composed, composeSoulDocument sections = .ok composed := by
  obtain ⟨added, isAdded, few⟩ : ∃ added, encodedSize voiceTranscriptInstruction = .ok added ∧
        added ≤ 4 * 400 := by
    have few := length_voiceTranscriptInstruction
    unfold voiceTranscriptInstruction at few ⊢
    obtain ⟨added, isAdded, bounded⟩ := exists_encodedSize_ofString _
    refine ⟨added, isAdded, ?_⟩
    unfold Text.ofString at few
    rw [List.length_map] at few
    omega
  have isComposed := encodedSize_append isSize isAdded
  rw [← intercalate_append_last] at isComposed
  have fits : ¬ maxPromptBytes < size + added := by
    unfold maxPromptBytes
    unfold maxSoulDocumentBytes at short
    omega
  rw [composeSoulDocument, checkPrompt, isComposed]
  exact ⟨_, if_neg fits⟩

theorem mergeAndValidateSections_eq_ok {markdown : Text} {mergedSize : ℕ}
    (isMerged : mergeSoulSections sections = markdown)
    (isMergedSize : encodedSize markdown = .ok mergedSize)
    (shortMerged : mergedSize ≤ maxSoulDocumentBytes)
    (isSize : encodedSize (List.intercalate [10, 10] (parts sections ++ [[]])) =
      .ok size) (short : size ≤ maxSoulDocumentBytes) :
    mergeAndValidateSections sections = .ok markdown := by
  obtain ⟨composed, isComposed⟩ := exists_composeSoulDocument isSize short
  have validated : validateSoulDocumentBytes mergedSize = .ok () :=
    if_neg (Nat.not_lt.mpr shortMerged)
  unfold mergeAndValidateSections
  simp only [isMerged, isMergedSize]
  refine Py.bind_eq_ok.mpr ⟨mergedSize, rfl, ?_⟩
  rw [validated]
  refine Py.bind_eq_ok.mpr ⟨(), rfl, ?_⟩
  rw [isComposed]
  rfl

end Sizes

end Soul

end RoxabiFactory
