import Mathlib.Data.List.DropRight
import RoxabiFactory.ToolRecap

/-!
# The lines of a text

A text is the list of its code points.  `splitlines` ends a line at more than
the newline, and `strip` removes blanks at both ends; neither changes which
lines there are that are not blank.
-/

namespace RoxabiFactory

abbrev Text := List ℕ

namespace Text

/-- A text literal. -/
def ofString (characters : String) : Text := characters.toList.map Char.toNat

def isBoundary (codePoint : ℕ) : Bool :=
  decide (codePoint ∈ [10, 11, 12, 13, 28, 29, 30, 133, 8232, 8233])

/-- A character in front of the first line. -/
def consLine (codePoint : ℕ) : List Text → List Text
  | [] => [[codePoint]]
  | line :: lines => (codePoint :: line) :: lines

/-- `text.splitlines()`. -/
def splitlines : Text → List Text
  | [] => []
  | codePoint :: rest =>
    -- a carriage return in front of a newline belongs to it
    if codePoint = 13 ∧ rest.head? = some 10 then splitlines rest
    else if isBoundary codePoint then [] :: splitlines rest
    else consLine codePoint (splitlines rest)

/-- `text.strip()`. -/
def strip (text : Text) : Text := (text.dropWhile PyStr.isSpace).rdropWhile PyStr.isSpace

/-- `"\n".join(lines)`. -/
def joinLines (lines : List Text) : Text := List.intercalate [10] lines

/-- No character ends the line. -/
def IsLine (line : Text) : Prop := ∀ codePoint ∈ line, isBoundary codePoint = false

/-- The lines that are not blank, without the blanks around them. -/
def prose (lines : List Text) : List Text := (lines.map strip).filter fun line => decide (line ≠ [])

/-! ## Blanks -/

section Strip

variable {codePoint : ℕ} {text : Text}

@[simp] theorem strip_nil : strip [] = [] :=
  rfl

theorem strip_cons_of_isSpace (blank : PyStr.isSpace codePoint = true) :
    strip (codePoint :: text) = strip text := by
  rw [strip, List.dropWhile_cons_of_pos blank]
  rfl

theorem strip_append_of_isSpace (blank : PyStr.isSpace codePoint = true) :
    strip (text ++ [codePoint]) = strip text := by
  unfold strip
  by_cases allBlank : ∀ other ∈ text, PyStr.isSpace other = true
  · rw [List.dropWhile_append_of_pos allBlank,
      List.dropWhile_eq_nil_iff.mpr allBlank, List.dropWhile_cons_of_pos blank]
    rfl
  · have kept : text.dropWhile PyStr.isSpace ≠ [] := fun empty =>
      allBlank (List.dropWhile_eq_nil_iff.mp empty)
    rw [List.dropWhile_append, if_neg (by simpa using kept),
      List.rdropWhile_concat_pos _ _ _ blank]

theorem strip_strip : strip (strip text) = strip text := by
  have first : (strip text).dropWhile PyStr.isSpace = strip text := by
    cases stripped : strip text with
    | nil => rfl
    | cons first rest =>
      obtain ⟨trailing, split⟩ :=
        List.rdropWhile_prefix PyStr.isSpace (text.dropWhile PyStr.isSpace)
      have started : text.dropWhile PyStr.isSpace =
          first :: (rest ++ trailing) := by
        rw [← split, ← List.cons_append, ← stripped, strip]
      have visible := List.head?_dropWhile_not PyStr.isSpace text
      rw [started] at visible
      exact List.dropWhile_cons_of_neg (Bool.not_eq_true _ ▸ visible)
  conv_lhs => rw [strip, first]
  exact List.rdropWhile_idempotent _ _

theorem mem_of_mem_strip (member : codePoint ∈ strip text) : codePoint ∈ text :=
  (List.dropWhile_sublist _).mem ((List.rdropWhile_prefix _ _).mem member)

end Strip

/-! ## Lines -/

section Lines

variable {codePoint : ℕ} {line rest text : Text} {lines : List Text}

theorem ne_carriageReturn (visible : isBoundary codePoint = false) :
    codePoint ≠ 13 := by
  rintro rfl
  cases visible

theorem splitlines_append_newline (isLine : IsLine line) :
    splitlines (line ++ 10 :: rest) = line :: splitlines rest := by
  induction line with
  | nil => rfl
  | cons codePoint line ih =>
    obtain ⟨visible, isLine⟩ := List.forall_mem_cons.mp isLine
    rw [List.cons_append, splitlines, if_neg fun carriage => ne_carriageReturn visible carriage.1,
      if_neg (by rw [visible]; exact Bool.false_ne_true), ih isLine]
    rfl

theorem splitlines_flatMap (areLines : ∀ line ∈ lines, IsLine line) :
    splitlines (lines.flatMap (· ++ [10])) = lines := by
  induction lines with
  | nil => rfl
  | cons line lines ih =>
    rw [List.forall_mem_cons] at areLines
    rw [List.flatMap_cons, List.append_assoc, List.singleton_append,
      splitlines_append_newline areLines.1, ih areLines.2]

theorem isLine_nil : IsLine [] := nofun

theorem isLine_of_mem_splitlines (member : line ∈ splitlines text) :
    IsLine line := by
  induction text generalizing line with
  | nil => cases member
  | cons codePoint rest ih =>
    rw [splitlines] at member
    split at member
    · exact ih member
    · split at member
      · rcases List.mem_cons.mp member with rfl | later
        · exact isLine_nil
        · exact ih later
      · rename_i visible
        rw [Bool.not_eq_true] at visible
        cases split : splitlines rest with
        | nil =>
          rw [split] at member
          rw [List.mem_singleton.mp member]
          exact List.forall_mem_singleton.mpr visible
        | cons first others =>
          rw [split] at ih member
          rcases List.mem_cons.mp member with rfl | later
          · exact List.forall_mem_cons.mpr ⟨visible, ih List.mem_cons_self⟩
          · exact ih (List.mem_cons_of_mem _ later)

theorem joinLines_cons_cons (line next : Text) (lines : List Text) :
    joinLines (line :: next :: lines) = line ++ 10 :: joinLines (next :: lines) :=
  rfl

theorem joinLines_singleton (line : Text) : joinLines [line] = line := List.intercalate_singleton

/-! ## Lines that are not blank -/

@[simp] theorem prose_nil_cons : prose ([] :: lines) = prose lines :=
  rfl

theorem prose_cons_congr {other : Text} {others : List Text}
    (sameLine : strip line = strip other) (same : prose lines = prose others) :
    prose (line :: lines) = prose (other :: others) := by
  unfold prose at same ⊢
  rw [List.map_cons, List.map_cons, List.filter_cons, List.filter_cons, sameLine, same]

theorem prose_append {others : List Text} :
    prose (lines ++ others) = prose lines ++ prose others := by
  unfold prose
  rw [List.map_append, List.filter_append]

/-- The pieces between the characters that end lines are the lines, but for
empty ones. -/
theorem splitlines_cases (text : Text) : text = [] ∨
    ∃ line lines pieces, splitlines text = line :: lines ∧
      text.splitOnP isBoundary = line :: pieces ∧ prose lines = prose pieces := by
  induction text with
  | nil => exact .inl rfl
  | cons codePoint rest ih =>
    right
    rw [splitlines, List.splitOnP_cons_eq_if_modifyHead]
    by_cases carriage : codePoint = 13 ∧ rest.head? = some 10
    · -- the newline that follows ends an empty line
      rw [if_pos carriage]
      obtain ⟨rfl, newline⟩ := carriage
      obtain ⟨after, rfl⟩ : ∃ after, rest = 10 :: after := List.head?_eq_some_iff.mp newline
      rcases ih with empty | ⟨line, lines, pieces, split, piecesSplit, same⟩
      · cases empty
      · have isEmpty : (10 :: after).splitOnP isBoundary = [] :: after.splitOnP isBoundary := by
          exact List.splitOnP_append_cons [] after rfl
        rw [isEmpty] at piecesSplit
        obtain ⟨rfl, rfl⟩ := List.cons.inj piecesSplit
        exact ⟨[], lines, [] :: after.splitOnP isBoundary, split, by rw [isEmpty]; rfl, same⟩
    · rw [if_neg carriage]
      by_cases boundary : isBoundary codePoint = true
      · rw [if_pos boundary, if_pos boundary]
        refine ⟨[], splitlines rest, _, rfl, rfl, ?_⟩
        rcases ih with rfl | ⟨line, lines, pieces, split, piecesSplit, same⟩
        · rfl
        · rw [split, piecesSplit]
          exact prose_cons_congr rfl same
      · rw [if_neg boundary, if_neg boundary]
        rcases ih with rfl | ⟨line, lines, pieces, split, piecesSplit, same⟩
        · exact ⟨[codePoint], [], [], rfl, rfl, rfl⟩
        · rw [split, piecesSplit]
          exact ⟨codePoint :: line, lines, pieces, rfl, rfl, same⟩

theorem prose_splitlines (text : Text) :
    prose (splitlines text) = prose (text.splitOnP isBoundary) := by
  rcases splitlines_cases text with rfl | ⟨line, lines, pieces, split, piecesSplit, same⟩
  · rfl
  · rw [split, piecesSplit]
    exact prose_cons_congr rfl same

theorem prose_cons_of_isSpace (blank : PyStr.isSpace codePoint = true) :
    prose ((codePoint :: text).splitOnP isBoundary) =
      prose (text.splitOnP isBoundary) := by
  rw [List.splitOnP_cons_eq_if_modifyHead]
  split
  · exact prose_nil_cons
  · obtain ⟨line, pieces, split⟩ :=
      List.exists_cons_of_ne_nil (List.splitOnP_ne_nil isBoundary text)
    rw [split]
    exact prose_cons_congr (strip_cons_of_isSpace blank) rfl

theorem isLine_or_exists_boundary (text : Text) : IsLine text ∨ ∃ before boundary line,
      text = before ++ boundary :: line ∧ isBoundary boundary = true ∧
        IsLine line := by
  induction text with
  | nil => exact .inl isLine_nil
  | cons codePoint rest ih =>
    rcases ih with isLine | ⟨before, boundary, line, rfl, ends, isLine⟩
    · by_cases boundary : isBoundary codePoint = true
      · exact .inr ⟨[], codePoint, rest, rfl, boundary, isLine⟩
      · rw [Bool.not_eq_true] at boundary
        exact .inl (List.forall_mem_cons.mpr ⟨boundary, isLine⟩)
    · exact .inr ⟨codePoint :: before, boundary, line, rfl, ends, isLine⟩

theorem prose_append_of_isSpace (blank : PyStr.isSpace codePoint = true) :
    prose ((text ++ [codePoint]).splitOnP isBoundary) =
      prose (text.splitOnP isBoundary) := by
  by_cases boundary : isBoundary codePoint = true
  · rw [List.splitOnP_append_cons text [] boundary, prose_append]
    exact List.append_nil _
  · rw [Bool.not_eq_true] at boundary
    have lastLine {line : Text} (isLine : IsLine line) :
        prose ((line ++ [codePoint]).splitOnP isBoundary) =
          prose (line.splitOnP isBoundary) := by
      have longer : IsLine (line ++ [codePoint]) := List.forall_mem_append.mpr
          ⟨isLine, List.forall_mem_singleton.mpr boundary⟩
      rw [List.splitOnP_eq_singleton longer, List.splitOnP_eq_singleton isLine]
      exact prose_cons_congr (strip_append_of_isSpace blank) rfl
    rcases isLine_or_exists_boundary text with
      isLine | ⟨before, ending, line, rfl, ends, isLine⟩
    · exact lastLine isLine
    · rw [List.append_assoc, List.cons_append, List.splitOnP_append_cons before _ ends,
        List.splitOnP_append_cons before _ ends, prose_append, prose_append,
        lastLine isLine]

theorem prose_strip (text : Text) : prose ((strip text).splitOnP isBoundary) =
      prose (text.splitOnP isBoundary) := by
  have leading (text : Text) : prose ((text.dropWhile PyStr.isSpace).splitOnP isBoundary) =
        prose (text.splitOnP isBoundary) := by
    induction text with
    | nil => rfl
    | cons codePoint rest ih =>
      by_cases blank : PyStr.isSpace codePoint = true
      · rw [List.dropWhile_cons_of_pos blank, ih, prose_cons_of_isSpace blank]
      · rw [List.dropWhile_cons_of_neg blank]
  have trailing (text : Text) : prose ((text.rdropWhile PyStr.isSpace).splitOnP isBoundary) =
        prose (text.splitOnP isBoundary) := by
    induction text using List.reverseRecOn with
    | nil => rfl
    | append_singleton rest codePoint ih =>
      by_cases blank : PyStr.isSpace codePoint = true
      · rw [List.rdropWhile_concat_pos _ _ _ blank, ih, prose_append_of_isSpace blank]
      · rw [List.rdropWhile_concat_neg _ _ _ blank]
  exact (trailing _).trans (leading text)

theorem prose_joinLines (areLines : ∀ line ∈ lines, IsLine line) :
    prose ((joinLines lines).splitOnP isBoundary) = prose lines := by
  induction lines with
  | nil => rfl
  | cons line lines ih =>
    rw [List.forall_mem_cons] at areLines
    cases lines with
    | nil =>
      rw [joinLines_singleton, List.splitOnP_eq_singleton areLines.1]
    | cons next lines =>
      rw [joinLines_cons_cons, List.splitOnP_append_cons_of_forall_mem areLines.1 10 rfl]
      exact prose_cons_congr rfl (ih areLines.2)

theorem mem_joinLines (member : codePoint ∈ joinLines lines) :
    codePoint = 10 ∨ ∃ line ∈ lines, codePoint ∈ line := by
  induction lines with
  | nil => cases member
  | cons line lines ih =>
    cases lines with
    | nil =>
      rw [joinLines_singleton] at member
      exact .inr ⟨line, List.mem_cons_self, member⟩
    | cons next lines =>
      rw [joinLines_cons_cons, List.mem_append, List.mem_cons] at member
      rcases member with inLine | isNewline | inRest
      · exact .inr ⟨line, List.mem_cons_self, inLine⟩
      · exact .inl isNewline
      · rcases ih inRest with isNewline | ⟨other, listed, inOther⟩
        · exact .inl isNewline
        · exact .inr ⟨other, List.mem_cons_of_mem _ listed, inOther⟩

theorem joinLines_append_newline (nonempty : lines ≠ []) :
    joinLines lines ++ [10] = lines.flatMap (· ++ [10]) := by
  induction lines with
  | nil => exact absurd rfl nonempty
  | cons line lines ih =>
    cases lines with
    | nil => rw [joinLines_singleton, List.flatMap_singleton]
    | cons next lines =>
      rw [joinLines_cons_cons, List.flatMap_cons, ← ih (List.cons_ne_nil _ _)]
      simp only [List.append_assoc, List.cons_append, List.nil_append]

theorem joinLines_append_nil (nonempty : lines ≠ []) :
    joinLines (lines ++ [[]]) = joinLines lines ++ [10] := by
  induction lines with
  | nil => exact absurd rfl nonempty
  | cons line lines ih =>
    cases lines with
    | nil => rw [joinLines_singleton]; rfl
    | cons next lines =>
      have rest := ih (List.cons_ne_nil _ _)
      rw [List.cons_append] at rest
      rw [List.cons_append, List.cons_append, joinLines_cons_cons, rest,
        joinLines_cons_cons, List.append_assoc, List.cons_append]

theorem joinLines_splitOnP (newlines : ∀ codePoint ∈ text,
    isBoundary codePoint = true → codePoint = 10) :
    joinLines (text.splitOnP isBoundary) = text := by
  induction text with
  | nil => rfl
  | cons codePoint rest ih =>
    rw [List.forall_mem_cons] at newlines
    have restJoined := ih newlines.2
    obtain ⟨line, pieces, split⟩ :=
      List.exists_cons_of_ne_nil (List.splitOnP_ne_nil isBoundary rest)
    rw [List.splitOnP_cons_eq_if_modifyHead]
    rw [split] at restJoined ⊢
    split
    · rename_i boundary
      rw [joinLines_cons_cons, restJoined, newlines.1 boundary]
      rfl
    · rw [← restJoined]
      cases pieces with
      | nil =>
        rw [List.modifyHead_cons, joinLines_singleton, joinLines_singleton]
      | cons next pieces =>
        rw [List.modifyHead_cons, joinLines_cons_cons, joinLines_cons_cons]
        rfl

theorem eq_false_of_mem_splitOnP {separates : ℕ → Bool} (member : line ∈ text.splitOnP separates) :
    ∀ codePoint ∈ line, separates codePoint = false := by
  induction text generalizing line with
  | nil =>
    rw [List.splitOnP_nil, List.mem_singleton] at member
    rw [member]
    exact List.forall_mem_nil _
  | cons codePoint rest ih =>
    rw [List.splitOnP_cons_eq_if_modifyHead] at member
    split at member
    · rcases List.mem_cons.mp member with rfl | later
      · exact List.forall_mem_nil _
      · exact ih later
    · rename_i visible
      rw [Bool.not_eq_true] at visible
      obtain ⟨first, pieces, split⟩ :=
        List.exists_cons_of_ne_nil (List.splitOnP_ne_nil separates rest)
      rw [split] at member ih
      rcases List.mem_cons.mp member with rfl | later
      · exact List.forall_mem_cons.mpr ⟨visible, ih List.mem_cons_self⟩
      · exact ih (List.mem_cons_of_mem _ later)

theorem isLine_of_mem_splitOnP (member : line ∈ text.splitOnP isBoundary) : IsLine line :=
  eq_false_of_mem_splitOnP member

theorem mem_prose {words : Text} :
    words ∈ prose lines ↔ words ≠ [] ∧ ∃ line ∈ lines, strip line = words := by
  unfold prose
  rw [List.mem_filter, List.mem_map, decide_eq_true_eq, and_comm]

end Lines

end Text

end RoxabiFactory
