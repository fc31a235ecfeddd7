import RoxabiFactory.SoulDocument

/-!
# What a soul document keeps

The lines of a document fall into blocks, each below a header.  Reading keeps
the last block with each name; so a document gives back the texts it was merged
from unless one of them has a line that looks like a header or a line that does
not end at a newline, and it keeps the lines of the blocks that are last.
-/

namespace RoxabiFactory

namespace Soul

open Text (isBoundary splitlines strip joinLines prose IsLine)

/-! ## Blocks -/

/-- A header and the lines below it. -/
abbrev Block := SoulSection × List Text

section Blocks

variable (words : WordClass)

/-- The lines in front of the first header, and the blocks. -/
def blocksOf : List Text → List Text × List (Text × List Text)
  | [] => ([], [])
  | line :: rest =>
    let (before, blocks) := blocksOf rest
    match headerName words line with
    | some name => ([], (name, before) :: blocks)
    | none => (line :: before, blocks)

def sectionBlocks (markdown : Text) : List Block :=
  (blocksOf words (splitlines markdown)).2.filterMap fun block =>
    (sectionNamed block.1).map fun key => (key, block.2)

/-- A section is read. -/
def assign (sections : Sections) (block : Block) : Sections :=
  Function.update sections block.1 (some (strip (joinLines block.2)))

def lastBlock (blocks : List Block) (key : SoulSection) : Option (List Text) :=
  blocks.reverse.lookup key

end Blocks

/-! ## Properties of documents -/

section Properties

variable (words : WordClass)

/-- Reading a merged document gives the trimmed texts, and the same prompt. -/
def RoundTrips (sections : Sections) (markdown : Text) : Prop :=
  parseSoulMarkdown words markdown = .ok (trimmed sections) ∧ composeSoulDocument sections =
      composeSoulDocumentFromMarkdown words markdown

/-- No line of the text looks like a header, and newlines end its lines. -/
def IsPlain (text : Text) : Prop :=
  (∀ codePoint ∈ text, isBoundary codePoint = true → codePoint = 10) ∧
    ∀ line ∈ splitlines text, headerName words line = none

def AllPlain (sections : Sections) : Prop :=
  ∀ key body, trimmed sections key = some body → IsPlain words body

/-- The lines from the first header on that are neither blank nor headers are
in some section. -/
def Keeps (markdown : Text) (sections : Sections) : Prop :=
  ∀ line ∈ (splitlines markdown).dropWhile fun line =>
      (headerName words line).isNone,
    headerName words line = none → strip line ≠ [] → ∃ key text, sections key = some text ∧
        strip line ∈ (splitlines text).map strip

/-- What is below a header is also below the last header of some section. -/
def Covered (blocks : List Block) : Prop := ∀ block ∈ blocks, ∀ line ∈ block.2, strip line ≠ [] →
    ∃ key lines, lastBlock blocks key = some lines ∧ ∃ other ∈ lines, strip other = strip line

end Properties

/-! ## Reading blocks -/

section Reading

variable {words : WordClass} {reader : Reader} {line : Text}
  {lines before : List Text} {name : Text} {key : SoulSection}

attribute [local simp] Reader.read blocksOf

/-- The lines that a section still gets. -/
def Reader.extend (reader : Reader) (lines : List Text) : Reader :=
  match reader.current with
  | none => reader
  | some _ => { reader with buf := reader.buf ++ lines }

theorem Reader.extend_nil : reader.extend [] = reader := by
  unfold Reader.extend
  split
  · rfl
  · rw [List.append_nil]

theorem Reader.extend_cons :
    (reader.extend [line]).extend lines = reader.extend (line :: lines) := by
  obtain ⟨sections, current, buf⟩ := reader
  cases current with
  | none => rfl
  | some key =>
    simp only [Reader.extend, List.append_assoc, List.singleton_append]

theorem read_of_notHeader (notHeader : headerName words line = none) :
    reader.read words line = .ok (reader.extend [line]) := by
  obtain ⟨sections, current, buf⟩ := reader
  simp only [Reader.read, notHeader]
  cases current <;> rfl

theorem read_of_header (isHeader : headerName words line = some name)
    (known : sectionNamed name = some key) :
    reader.read words line = .ok ⟨reader.flush, some key, []⟩ := by
  simp only [Reader.read, isHeader, known]

theorem read_of_unknown (isHeader : headerName words line = some name)
    (unknown : sectionNamed name = none) :
    reader.read words line = .error .valueError := by
  simp only [Reader.read, isHeader, unknown]

/-- The lines are read if all headers name sections, and then the sections are
those of the blocks. -/
theorem foldlM_read (lines : List Text) (reader : Reader) (sections : Sections) : (do
      let reader ← lines.foldlM (Reader.read words) reader
      return reader.flush) = Except.ok sections ↔
      (∀ block ∈ (blocksOf words lines).2, (sectionNamed block.1).isSome = true) ∧
      sections = ((blocksOf words lines).2.filterMap fun block =>
        (sectionNamed block.1).map fun key => (key, block.2)).foldl assign
          (reader.extend (blocksOf words lines).1).flush := by
  induction lines generalizing reader with
  | nil =>
    rw [blocksOf, Reader.extend_nil]
    simp only [List.foldlM_nil, List.not_mem_nil, false_implies, implies_true,
      true_and, List.filterMap_nil, List.foldl_nil]
    exact ⟨fun same => (Except.ok.inj same).symm, fun same => by rw [same]; rfl⟩
  | cons line lines ih =>
    rw [List.foldlM_cons, blocksOf]
    cases isHeader : headerName words line with
    | none =>
      have rest := ih (reader.extend [line])
      rw [Reader.extend_cons] at rest
      rw [read_of_notHeader isHeader]
      exact rest
    | some name =>
      rw [List.forall_mem_cons]
      cases known : sectionNamed name with
      | none =>
        rw [read_of_unknown isHeader known]
        constructor
        · intro returns
          cases returns
        · rintro ⟨⟨isKnown, -⟩, -⟩
          cases isKnown
      | some key =>
        have rest := ih ⟨reader.flush, some key, []⟩
        rw [read_of_header isHeader known, Reader.extend_nil]
        simp only [known, Option.isSome_some, true_and,
          List.filterMap_cons, Option.map_some, List.foldl_cons]
        exact rest

theorem foldl_assign (blocks : List Block) (sections : Sections) (key : SoulSection) :
    blocks.foldl assign sections key =
      ((lastBlock blocks key).map fun lines => strip (joinLines lines)).or (sections key) := by
  induction blocks using List.reverseRecOn with
  | nil => rfl
  | append_singleton blocks block ih =>
    obtain ⟨last, lines⟩ := block
    rw [List.foldl_append, lastBlock, List.reverse_append]
    by_cases same : key = last
    · subst same
      rw [List.foldl_cons, List.foldl_nil, assign, Function.update_self]
      simp
    · have differs : (key == last) = false := beq_false_of_ne same
      rw [List.foldl_cons, List.foldl_nil, assign, Function.update_of_ne same, ih]
      simp only [List.reverse_singleton, List.singleton_append, List.lookup_cons, differs]
      rfl

theorem mem_notHeader_iff : line ∈ lines ∧ headerName words line = none ↔
    line ∈ (blocksOf words lines).1 ∨ ∃ block ∈ (blocksOf words lines).2, line ∈ block.2 := by
  induction lines with
  | nil => simp
  | cons first rest ih =>
    rw [List.mem_cons, or_and_right, ih, blocksOf]
    cases isHeader : headerName words first with
    | none =>
      simp only [List.mem_cons]
      constructor
      · rintro (⟨rfl, -⟩ | inRest)
        · exact .inl (.inl rfl)
        · exact inRest.imp_left .inr
      · rintro ((rfl | before) | inBlock)
        · exact .inl ⟨rfl, isHeader⟩
        · exact .inr (.inl before)
        · exact .inr (.inr inBlock)
    | some name =>
      simp only [List.exists_mem_cons_iff, List.not_mem_nil, false_or, or_iff_right_iff_imp]
      rintro ⟨rfl, notHeader⟩
      rw [isHeader] at notHeader
      cases notHeader

theorem mem_below_iff : (line ∈ lines.dropWhile fun line => (headerName words line).isNone) ∧
        headerName words line = none ↔
      ∃ block ∈ (blocksOf words lines).2, line ∈ block.2 := by
  induction lines with
  | nil => simp
  | cons first rest ih =>
    rw [blocksOf]
    cases isHeader : headerName words first with
    | none =>
      rw [List.dropWhile_cons, isHeader]
      exact ih
    | some name =>
      rw [List.dropWhile_cons, isHeader, Option.isNone_some,
        if_neg Bool.false_ne_true, List.mem_cons, or_and_right, mem_notHeader_iff]
      simp only [List.exists_mem_cons_iff, or_iff_right_iff_imp]
      rintro ⟨rfl, notHeader⟩
      rw [isHeader] at notHeader
      cases notHeader

theorem headerName_of_blank (blank : strip line = []) : headerName words line = none := by
  rw [headerName, blank]
  rfl

theorem headerName_congr {other : Text} (same : strip line = strip other) :
    headerName words line = headerName words other := by
  rw [headerName, headerName, same]

theorem blocksOf_of_blank (blank : ∀ line ∈ lines, strip line = []) :
    (blocksOf words lines).2 = [] := by
  induction lines with
  | nil => rfl
  | cons line lines ih =>
    rw [List.forall_mem_cons] at blank
    rw [blocksOf, headerName_of_blank blank.1]
    exact ih blank.2

theorem blank_of_mem_splitlines {text : Text} (blank : strip text = [])
    (member : line ∈ splitlines text) : strip line = [] := by
  have none : prose (splitlines text) = [] := by
    rw [Text.prose_splitlines, ← Text.prose_strip, blank]
    rfl
  by_contra filled
  have listed : strip line ∈ prose (splitlines text) :=
    Text.mem_prose.mpr ⟨filled, line, member, rfl⟩
  rw [none] at listed
  cases listed

/-- A document is read if its headers name sections, and a section is the last
block with its name. -/
theorem parseSoulMarkdown_eq_ok {markdown : Text} {sections : Sections} :
    parseSoulMarkdown words markdown = .ok sections ↔
      (∀ block ∈ (blocksOf words (splitlines markdown)).2, (sectionNamed block.1).isSome = true) ∧
      sections = fun key => (lastBlock (sectionBlocks words markdown) key).map
        fun lines => strip (joinLines lines) := by
  have assigned : ((sectionBlocks words markdown).foldl assign fun _ => none) =
      fun key => (lastBlock (sectionBlocks words markdown) key).map
        fun lines => strip (joinLines lines) := by
    ext key
    rw [foldl_assign, Option.or_none]
  rw [parseSoulMarkdown]
  split
  · rename_i blank
    have noBlocks : (blocksOf words (splitlines markdown)).2 = [] :=
      blocksOf_of_blank fun line => blank_of_mem_splitlines blank
    rw [sectionBlocks, noBlocks]
    constructor
    · intro returns
      cases returns
      exact ⟨nofun, rfl⟩
    · rintro ⟨-, rfl⟩
      rfl
  · rw [foldlM_read, ← assigned]
    rfl

theorem of_mem_lastBlock {markdown : Text}
    (last : lastBlock (sectionBlocks words markdown) key = some lines)
    (member : line ∈ lines) : IsLine line ∧ headerName words line = none := by
  obtain ⟨early, late, split, -⟩ := List.lookup_eq_some_iff.mp last
  have listed : (key, lines) ∈ sectionBlocks words markdown := by
    rw [← List.mem_reverse, split]
    exact List.mem_append_right _ List.mem_cons_self
  obtain ⟨block, isBlock, named⟩ := List.mem_filterMap.mp listed
  obtain ⟨key, -, same⟩ := Option.map_eq_some_iff.mp named
  cases same
  obtain ⟨inDocument, notHeader⟩ := mem_notHeader_iff.mpr (.inr ⟨block, isBlock, member⟩)
  exact ⟨Text.isLine_of_mem_splitlines inDocument, notHeader⟩

theorem mem_map_strip_iff (areLines : ∀ line ∈ lines, IsLine line) (filled : strip line ≠ []) :
    strip line ∈ (splitlines (strip (joinLines lines))).map strip ↔
      ∃ other ∈ lines, strip other = strip line := by
  have sameProse : prose (splitlines (strip (joinLines lines))) = prose lines := by
    rw [Text.prose_splitlines, Text.prose_strip, Text.prose_joinLines areLines]
  calc strip line ∈ (splitlines (strip (joinLines lines))).map strip
      ↔ strip line ∈ prose (splitlines (strip (joinLines lines))) := by
        rw [Text.mem_prose, List.mem_map, and_iff_right filled]
    _ ↔ ∃ other ∈ lines, strip other = strip line := by
        rw [sameProse, Text.mem_prose, and_iff_right filled]

theorem keeps_iff_covered {markdown : Text} {sections : Sections}
    (returns : parseSoulMarkdown words markdown = .ok sections) :
    Keeps words markdown sections ↔
      Covered (sectionBlocks words markdown) := by
  obtain ⟨known, rfl⟩ := parseSoulMarkdown_eq_ok.mp returns
  have inSection {line : Text} (filled : strip line ≠ []) :
      (∃ key text, (lastBlock (sectionBlocks words markdown) key).map
          (fun lines => strip (joinLines lines)) = some text ∧
        strip line ∈ (splitlines text).map strip) ↔
      ∃ key lines, lastBlock (sectionBlocks words markdown) key = some lines ∧
        ∃ other ∈ lines, strip other = strip line := by
    constructor
    · rintro ⟨key, text, isText, kept⟩
      obtain ⟨lines, last, rfl⟩ := Option.map_eq_some_iff.mp isText
      exact ⟨key, lines, last, (mem_map_strip_iff (fun line member =>
        (of_mem_lastBlock last member).1) filled).mp kept⟩
    · rintro ⟨key, lines, last, same⟩
      exact ⟨key, _, Option.map_eq_some_iff.mpr ⟨lines, last, rfl⟩,
        (mem_map_strip_iff (fun line member =>
          (of_mem_lastBlock last member).1) filled).mpr same⟩
  constructor
  · intro keeps block isBlock line member filled
    obtain ⟨source, isSource, named⟩ := List.mem_filterMap.mp isBlock
    obtain ⟨key, -, rfl⟩ := Option.map_eq_some_iff.mp named
    obtain ⟨below, notHeader⟩ := mem_below_iff.mpr ⟨source, isSource, member⟩
    exact (inSection filled).mp (keeps line below notHeader filled)
  · intro covered line below notHeader filled
    obtain ⟨source, isSource, member⟩ := mem_below_iff.mp ⟨below, notHeader⟩
    obtain ⟨key, isKey⟩ := Option.isSome_iff_exists.mp (known source isSource)
    have isBlock : (key, source.2) ∈ sectionBlocks words markdown :=
      List.mem_filterMap.mpr ⟨source, isSource, by rw [isKey]; rfl⟩
    exact (inSection filled).mpr (covered _ isBlock line member filled)

theorem isPlain_of_parse {markdown text : Text} {sections : Sections}
    (returns : parseSoulMarkdown words markdown = .ok sections)
    (isText : sections key = some text) : IsPlain words text := by
  obtain ⟨-, rfl⟩ := parseSoulMarkdown_eq_ok.mp returns
  obtain ⟨lines, last, rfl⟩ := Option.map_eq_some_iff.mp isText
  have areLines : ∀ line ∈ lines, IsLine line := fun line member =>
    (of_mem_lastBlock last member).1
  constructor
  · intro codePoint member boundary
    rcases Text.mem_joinLines (Text.mem_of_mem_strip member) with
      isNewline | ⟨line, listed, inLine⟩
    · exact isNewline
    · rw [areLines line listed codePoint inLine] at boundary
      cases boundary
  · intro line member
    by_cases filled : strip line = []
    · exact headerName_of_blank filled
    · obtain ⟨other, listed, same⟩ := (mem_map_strip_iff areLines filled).mp
        (List.mem_map_of_mem member)
      rw [← headerName_congr same]
      exact (of_mem_lastBlock last listed).2

end Reading

/-! ## Merged documents -/

section Merging

variable {words : WordClass}

def headerLine (key : SoulSection) : Text := .ofString "## " ++ key.name

def mergedLines : List Block → List Text
  | [] => []
  | [block] => headerLine block.1 :: block.2
  | block :: next :: rest =>
    headerLine block.1 :: (block.2 ++ [] :: mergedLines (next :: rest))

/-- The blocks of a merged document: an empty line stands below each of them
but the last one. -/
def mergedBlocks : List Block → List Block
  | [] => []
  | [block] => [block]
  | block :: next :: rest =>
    (block.1, block.2 ++ [[]]) :: mergedBlocks (next :: rest)

def textBlocks (sections : Sections) : List Block := soulSectionOrder.filterMap fun key =>
    (trimmed sections key).map fun body => (key, body.splitOnP isBoundary)

theorem isLine_headerLine (key : SoulSection) : IsLine (headerLine key) := by
  have visible : ∀ codePoint ∈ headerLine key, isBoundary codePoint = false := by
    cases key <;> decide
  exact visible

theorem headerName_headerLine (key : SoulSection) :
    headerName words (headerLine key) = some key.name := by
  have isLetter : ∀ codePoint ∈ key.name, 65 ≤ codePoint ∧ codePoint ≤ 90 ∨
      97 ≤ codePoint ∧ codePoint ≤ 122 := by
    cases key <;> decide
  have isWord : key.name.all words.isWord = true := List.all_eq_true.mpr fun codePoint member =>
      words.letters codePoint (isLetter codePoint member)
  have stripped : strip (headerLine key) = 35 :: 35 :: 32 :: key.name := by
    cases key <;> decide
  have named : (32 :: key.name).dropWhile PyStr.isSpace = key.name ∧
      key.name ≠ [] := by
    cases key <;> decide
  rw [headerName, stripped, matchHeader, named.1]
  exact if_pos ⟨Nat.lt_succ_self _, named.2, isWord⟩

theorem sectionNamed_name (key : SoulSection) : sectionNamed key.name = some key := by
  cases key <;> decide

theorem mem_soulSectionOrder (key : SoulSection) : key ∈ soulSectionOrder := by
  cases key <;> decide

theorem flatMap_mergedLines (blocks : List Block) (nonempty : ∀ block ∈ blocks, block.2 ≠ []) :
    (mergedLines blocks).flatMap (· ++ [10]) = List.intercalate [10, 10]
        (blocks.map fun block => part block.1 (joinLines block.2)) ++
          if blocks = [] then [] else [10] := by
  induction blocks with
  | nil => rfl
  | cons block rest ih =>
    rw [List.forall_mem_cons] at nonempty
    have ended := Text.joinLines_append_newline nonempty.1
    cases rest with
    | nil =>
      rw [mergedLines, List.flatMap_cons, ← ended, List.map_singleton,
        List.intercalate_singleton, if_neg (List.cons_ne_nil _ _), part,
        headerLine]
      simp only [List.append_assoc, List.cons_append, List.nil_append]
    | cons next rest =>
      rw [mergedLines, List.flatMap_cons, List.flatMap_append, ← ended,
        List.flatMap_cons, ih nonempty.2, List.map_cons, List.map_cons,
        List.map_cons, List.intercalate_cons_cons, if_neg (List.cons_ne_nil _ _),
        if_neg (List.cons_ne_nil _ _)]
      simp only [part, headerLine, List.append_assoc, List.cons_append, List.nil_append]

theorem isLine_of_mem_mergedLines {blocks : List Block} {line : Text}
    (areLines : ∀ block ∈ blocks, ∀ line ∈ block.2, IsLine line)
    (member : line ∈ mergedLines blocks) : IsLine line := by
  induction blocks with
  | nil => cases member
  | cons block rest ih =>
    rw [List.forall_mem_cons] at areLines
    cases rest with
    | nil =>
      rcases List.mem_cons.mp member with rfl | inBlock
      · exact isLine_headerLine block.1
      · exact areLines.1 line inBlock
    | cons next rest =>
      rcases List.mem_cons.mp member with rfl | later
      · exact isLine_headerLine block.1
      · rcases List.mem_append.mp later with inBlock | after
        · exact areLines.1 line inBlock
        · rcases List.mem_cons.mp after with rfl | inRest
          · exact Text.isLine_nil
          · exact ih areLines.2 inRest

theorem blocksOf_append {lines : List Text} (rest : List Text)
    (notHeaders : ∀ line ∈ lines, headerName words line = none) :
    blocksOf words (lines ++ rest) =
      (lines ++ (blocksOf words rest).1, (blocksOf words rest).2) := by
  induction lines with
  | nil => rfl
  | cons line lines ih =>
    rw [List.forall_mem_cons] at notHeaders
    rw [List.cons_append, blocksOf, notHeaders.1, ih notHeaders.2]
    rfl

theorem blocksOf_headerLine (key : SoulSection) (lines : List Text) :
    blocksOf words (headerLine key :: lines) =
      ([], (key.name, (blocksOf words lines).1) :: (blocksOf words lines).2) := by
  rw [blocksOf, headerName_headerLine]

theorem blocksOf_mergedLines (blocks : List Block) (notHeaders : ∀ block ∈ blocks, ∀ line ∈ block.2,
      headerName words line = none) :
    blocksOf words (mergedLines blocks) =
      ([], (mergedBlocks blocks).map fun block => (block.1.name, block.2)) := by
  induction blocks with
  | nil => rfl
  | cons block rest ih =>
    rw [List.forall_mem_cons] at notHeaders
    cases rest with
    | nil =>
      have alone := blocksOf_append [] notHeaders.1
      rw [List.append_nil] at alone
      rw [mergedLines, blocksOf_headerLine, alone]
      simp only [blocksOf, List.append_nil]
      rfl
    | cons next rest =>
      have emptyLine := blocksOf_append (mergedLines (next :: rest)) (List.forall_mem_singleton.mpr
          (@headerName_of_blank words [] Text.strip_nil))
      rw [List.singleton_append] at emptyLine
      rw [mergedLines, blocksOf_headerLine,
        blocksOf_append _ notHeaders.1, emptyLine, ih notHeaders.2]
      rfl

theorem mem_textBlocks {sections : Sections} {block : Block} :
    block ∈ textBlocks sections ↔ ∃ body, trimmed sections block.1 = some body ∧
      block.2 = body.splitOnP isBoundary := by
  constructor
  · intro listed
    obtain ⟨key, -, named⟩ := List.mem_filterMap.mp listed
    obtain ⟨body, isBody, rfl⟩ := Option.map_eq_some_iff.mp named
    exact ⟨body, isBody, rfl⟩
  · rintro ⟨body, isBody, split⟩
    refine List.mem_filterMap.mpr ⟨block.1, mem_soulSectionOrder block.1, ?_⟩
    rw [isBody, Option.map_some, ← split]

variable {sections : Sections}

theorem parts_eq (plain : AllPlain words sections) :
    parts sections = (textBlocks sections).map fun block =>
      part block.1 (joinLines block.2) := by
  rw [parts, textBlocks, List.map_filterMap]
  apply List.filterMap_congr
  intro key _
  cases isBody : trimmed sections key with
  | none => rfl
  | some body =>
    simp only [Option.map_some, Text.joinLines_splitOnP (plain key body isBody).1]

theorem mergeSoulSections_eq (plain : AllPlain words sections) : mergeSoulSections sections =
      (mergedLines (textBlocks sections)).flatMap (· ++ [10]) := by
  rw [flatMap_mergedLines, mergeSoulSections, parts_eq plain]
  · simp only [List.map_eq_nil_iff]
  · intro block listed
    obtain ⟨body, -, split⟩ := mem_textBlocks.mp listed
    rw [split]
    exact List.splitOnP_ne_nil isBoundary body

theorem splitlines_mergeSoulSections (plain : AllPlain words sections) :
    splitlines (mergeSoulSections sections) =
      mergedLines (textBlocks sections) := by
  rw [mergeSoulSections_eq plain]
  apply Text.splitlines_flatMap
  intro line
  apply isLine_of_mem_mergedLines
  intro block listed line member
  obtain ⟨body, -, split⟩ := mem_textBlocks.mp listed
  rw [split] at member
  exact Text.isLine_of_mem_splitOnP member

theorem headerName_of_mem_splitOnP {body line : Text}
    (plain : IsPlain words body) (member : line ∈ body.splitOnP isBoundary) :
    headerName words line = none := by
  by_cases filled : strip line = []
  · exact headerName_of_blank filled
  · have inProse : strip line ∈ prose (splitlines body) := by
      rw [Text.prose_splitlines]
      exact Text.mem_prose.mpr ⟨filled, line, member, rfl⟩
    obtain ⟨-, other, listed, same⟩ := Text.mem_prose.mp inProse
    rw [← headerName_congr same]
    exact plain.2 other listed

theorem sectionBlocks_mergeSoulSections (plain : AllPlain words sections) :
    blocksOf words (splitlines (mergeSoulSections sections)) =
      ([], (mergedBlocks (textBlocks sections)).map fun block =>
        (block.1.name, block.2)) := by
  rw [splitlines_mergeSoulSections plain]
  apply blocksOf_mergedLines
  intro block listed line member
  obtain ⟨body, isBody, split⟩ := mem_textBlocks.mp listed
  rw [split] at member
  exact headerName_of_mem_splitOnP (plain block.1 body isBody) member

def Block.text (block : Block) : SoulSection × Text := (block.1, strip (joinLines block.2))

theorem map_text_mergedBlocks (blocks : List Block) (nonempty : ∀ block ∈ blocks, block.2 ≠ []) :
    (mergedBlocks blocks).map Block.text = blocks.map Block.text := by
  induction blocks with
  | nil => rfl
  | cons block rest ih =>
    rw [List.forall_mem_cons] at nonempty
    cases rest with
    | nil => rfl
    | cons next rest =>
      have emptyLine : strip (joinLines (block.2 ++ [[]])) =
          strip (joinLines block.2) := by
        rw [Text.joinLines_append_nil nonempty.1]
        exact Text.strip_append_of_isSpace rfl
      rw [mergedBlocks, List.map_cons, ih nonempty.2, List.map_cons, Block.text, emptyLine]
      rfl

theorem lookup_map_text (blocks : List Block) (key : SoulSection) :
    (blocks.map Block.text).reverse.lookup key =
      (lastBlock blocks key).map fun lines => strip (joinLines lines) := by
  rw [lastBlock, ← List.map_reverse]
  generalize blocks.reverse = blocks
  induction blocks with
  | nil => rfl
  | cons block rest ih =>
    rw [List.map_cons, Block.text, List.lookup_cons, ih, List.lookup_cons]
    cases key == block.1 <;> rfl

theorem lookup_filterMap (sections : Sections) (key : SoulSection) (keys : List SoulSection) :
    (keys.filterMap fun other =>
      (sections other).map fun body => (other, body)).lookup key =
        if key ∈ keys then sections key else none := by
  induction keys with
  | nil => rfl
  | cons first rest ih =>
    rw [List.filterMap_cons]
    by_cases same : key = first
    · subst same
      rw [if_pos List.mem_cons_self]
      cases found : sections key with
      | none =>
        rw [found, ite_self] at ih
        exact ih
      | some body => simp only [Option.map_some, List.lookup_cons_self]
    · have differs : (key == first) = false := beq_false_of_ne same
      simp only [List.mem_cons, same, false_or]
      cases sections first with
      | none => exact ih
      | some body =>
        simp only [Option.map_some, List.lookup_cons, differs]
        exact ih

theorem strip_of_trimmed {key : SoulSection} {body : Text}
    (isBody : trimmed sections key = some body) : strip body = body := by
  unfold trimmed at isBody
  simp only at isBody
  split at isBody
  · cases isBody
  · cases isBody
    exact Text.strip_strip

theorem map_text_textBlocks (plain : AllPlain words sections) :
    (textBlocks sections).map Block.text = soulSectionOrder.filterMap fun key =>
        (trimmed sections key).map fun body => (key, body) := by
  rw [textBlocks, List.map_filterMap]
  apply List.filterMap_congr
  intro key _
  cases isBody : trimmed sections key with
  | none => rfl
  | some body =>
    simp only [Option.map_some, Block.text, Text.joinLines_splitOnP (plain key body isBody).1,
      strip_of_trimmed isBody]

theorem parse_mergeSoulSections (plain : AllPlain words sections) :
    parseSoulMarkdown words (mergeSoulSections sections) =
      .ok (trimmed sections) := by
  rw [parseSoulMarkdown_eq_ok]
  have isBlocks : sectionBlocks words (mergeSoulSections sections) =
      mergedBlocks (textBlocks sections) := by
    rw [sectionBlocks, sectionBlocks_mergeSoulSections plain, List.filterMap_map]
    refine (List.filterMap_congr fun block _ => ?_).trans List.filterMap_some
    simp only [Function.comp, sectionNamed_name, Option.map_some]
  constructor
  · intro block listed
    rw [sectionBlocks_mergeSoulSections plain] at listed
    obtain ⟨source, -, rfl⟩ := List.mem_map.mp listed
    rw [sectionNamed_name]
    rfl
  · ext1 key
    have nonempty : ∀ block ∈ textBlocks sections, block.2 ≠ [] := by
      intro block listed
      obtain ⟨body, -, split⟩ := mem_textBlocks.mp listed
      rw [split]
      exact List.splitOnP_ne_nil isBoundary body
    rw [isBlocks, ← lookup_map_text, map_text_mergedBlocks _ nonempty,
      map_text_textBlocks plain, ← List.filterMap_reverse, lookup_filterMap,
      if_pos (List.mem_reverse.mpr (mem_soulSectionOrder key))]

theorem parts_trimmed (sections : Sections) : parts (trimmed sections) = parts sections := by
  have same : trimmed (trimmed sections) = trimmed sections := by
    ext1 key
    cases isBody : trimmed sections key with
    | none =>
      rw [trimmed, isBody]
      rfl
    | some body =>
      have filled : body ≠ [] := by
        rintro rfl
        unfold trimmed at isBody
        simp only at isBody
        split at isBody
        · cases isBody
        · rename_i filled
          exact filled (Option.some.inj isBody)
      rw [trimmed, isBody]
      simp only [Option.getD_some, strip_of_trimmed isBody, if_neg filled]
  rw [parts, same, parts]

theorem roundTrips_iff : RoundTrips words sections (mergeSoulSections sections) ↔
      AllPlain words sections := by
  constructor
  · rintro ⟨returns, -⟩ key body isBody
    exact isPlain_of_parse returns isBody
  · intro plain
    have returns := parse_mergeSoulSections plain
    refine ⟨returns, ?_⟩
    rw [composeSoulDocumentFromMarkdown, returns, Py.ok_bind,
      composeSoulDocument, composeSoulDocument, parts_trimmed]

theorem eq_of_mergeAndValidateSections {markdown : Text}
    (accepted : mergeAndValidateSections sections = .ok markdown) :
    markdown = mergeSoulSections sections := by
  obtain ⟨_, -, validated⟩ := Py.bind_eq_ok.mp accepted
  obtain ⟨_, -, composed⟩ := Py.bind_eq_ok.mp validated
  obtain ⟨_, -, returned⟩ := Py.bind_eq_ok.mp composed
  exact (Except.ok.inj returned).symm

end Merging

/-! ## Every document -/

theorem survives_iff (words : WordClass) :
    (∀ sections markdown, mergeAndValidateSections sections = .ok markdown →
      (RoundTrips words sections markdown ↔ AllPlain words sections)) ∧
    ∀ markdown sections, parseSoulMarkdown words markdown = .ok sections →
      (Keeps words markdown sections ↔
        Covered (sectionBlocks words markdown)) := by
  constructor
  · intro sections markdown accepted
    rw [eq_of_mergeAndValidateSections accepted]
    exact roundTrips_iff
  · intro markdown sections returns
    exact keeps_iff_covered returns

section Example

def asciiWords : WordClass where
  isWord codePoint := decide ((65 ≤ codePoint ∧ codePoint ≤ 90 ∨
    97 ≤ codePoint ∧ codePoint ≤ 122) ∨ 48 ≤ codePoint ∧ codePoint ≤ 57 ∨ codePoint = 95)
  letters _ isLetter := decide_eq_true (.inl isLetter)
  blanks codePoint blank := by
    simp only [PyStr.isSpace, Bool.or_eq_true, decide_eq_true_eq, List.mem_cons,
      List.not_mem_nil, or_false] at blank
    simp only [decide_eq_false_iff_not]
    omega

def identityOnly (text : Text) : Sections
  | .identity => some text
  | _ => none

theorem survives_identityOnly : RoundTrips asciiWords (identityOnly (.ofString "a\nb"))
      (.ofString "## Identity\na\nb\n") ∧
    Keeps asciiWords (.ofString "## Identity\na\nb\n") (identityOnly (.ofString "a\nb")) := by
  have accepted : mergeAndValidateSections (identityOnly (.ofString "a\nb")) =
        .ok (.ofString "## Identity\na\nb\n") := by
    apply @mergeAndValidateSections_eq_ok _ 17 _ 16
    · decide
    · decide
    · decide
    · decide
    · decide
  have plain : AllPlain asciiWords (identityOnly (.ofString "a\nb")) := by
    intro key body isBody
    cases key with
    | identity =>
      have isText : trimmed (identityOnly (.ofString "a\nb")) .identity =
          some (.ofString "a\nb") := by
        decide
      cases isText.symm.trans isBody
      constructor
      · decide
      · decide
    | personality => cases isBody
    | values => cases isBody
    | expertise => cases isBody
    | guidelines => cases isBody
  have roundTrips := ((survives_iff asciiWords).1 _ _ accepted).mpr plain
  have same : trimmed (identityOnly (.ofString "a\nb")) =
      identityOnly (.ofString "a\nb") := by
    ext1 key
    cases key <;> decide
  have returns := roundTrips.1
  rw [same] at returns
  refine ⟨roundTrips, ((survives_iff asciiWords).2 _ _ returns).mpr ?_⟩
  have isBlocks : sectionBlocks asciiWords
      (.ofString "## Identity\na\nb\n") = [(.identity, [[97], [98]])] := by
    decide
  rw [isBlocks]
  intro block listed line member filled
  rw [List.mem_singleton.mp listed] at member
  exact ⟨.identity, [[97], [98]], rfl, line, member, rfl⟩

/-- A text with a line that looks like a header, and a document in which a
header is repeated. -/
theorem exists_not_survives :
    (∃ sections markdown, mergeAndValidateSections sections = .ok markdown ∧
      ¬ RoundTrips asciiWords sections markdown) ∧
    ∃ markdown sections, parseSoulMarkdown asciiWords markdown = .ok sections ∧
      ¬ Keeps asciiWords markdown sections := by
  constructor
  · refine ⟨identityOnly (.ofString "a\n## Note\nb"), .ofString "## Identity\na\n## Note\nb\n",
      @mergeAndValidateSections_eq_ok _ 25 _ 24
        (by decide) (by decide) (by decide) (by decide)
        (by decide), ?_⟩
    rintro ⟨returns, -⟩
    have raises : (parseSoulMarkdown asciiWords
        (.ofString "## Identity\na\n## Note\nb\n")).toOption.isNone = true := by
      decide
    rw [returns] at raises
    cases raises
  · have isBlocks : sectionBlocks asciiWords (.ofString "## Identity\na\n## Identity\nb\n") =
          [(.identity, [[97]]), (.identity, [[98]])] := by
      decide
    have returns := parseSoulMarkdown_eq_ok.mpr ⟨(by decide :
      ∀ block ∈ (blocksOf asciiWords (splitlines (.ofString "## Identity\na\n## Identity\nb\n"))).2,
          (sectionNamed block.1).isSome = true), rfl⟩
    refine ⟨_, _, returns, fun keeps => ?_⟩
    have covered := (keeps_iff_covered returns).mp keeps
    rw [isBlocks] at covered
    obtain ⟨key, lines, last, other, listed, same⟩ :=
      covered (.identity, [[97]]) (by decide) [97] (by decide) (by decide)
    cases key with
    | identity =>
      cases last
      rw [List.mem_singleton.mp listed] at same
      cases same
    | personality => cases last
    | values => cases last
    | expertise => cases last
    | guidelines => cases last

end Example

end Soul

end RoxabiFactory
