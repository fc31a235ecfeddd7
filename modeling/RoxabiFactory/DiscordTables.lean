import RoxabiFactory.BacktrackingMatchers
import RoxabiFactory.ChunkText

/-!
# Tables in texts for Discord

`render_text` turns the Markdown tables of a text into code blocks and splits
the text.  A table begins with a pipe at the beginning of a line, and its cells
are what is between pipes, so a code block has no pipe in it unless `tabulate`
draws one.  The package is a parameter.
-/

namespace RoxabiFactory

namespace DiscordTables

open Matcher Text

/-- `tabulate(data, headers, tablefmt="simple")`. -/
abbrev Tabulate := (headers : List Text) → (data : List (List Text)) → Text

/-- The format draws its lines with hyphens. -/
def DrawsNoPipes (tabulate : Tabulate) : Prop := ∀ headers data, (∀ cell ∈ headers, 124 ∉ cell) →
    (∀ cells ∈ data, ∀ cell ∈ cells, 124 ∉ cell) → 124 ∉ tabulate headers data

/-! ## The pattern of a table -/

def lineStart : Matcher ℕ := place fun cursor => cursor.passed.head?.all (· == 10)

/-- A line between pipes and how it ends. -/
def tableLine (inside : ℕ → Bool) (ending : List (Matcher ℕ)) : Matcher ℕ :=
  sequence (lineStart :: one (· == 124) :: plus (one inside) :: one (· == 124) :: ending)

def headerRow : Matcher ℕ := tableLine (· != 10) [star (one PyStr.isSpace), one (· == 10)]

def separatorRow : Matcher ℕ := tableLine (fun codePoint =>
      PyStr.isSpace codePoint || decide (codePoint ∈ [45, 58, 124]))
    [star (one PyStr.isSpace), one (· == 10)]

def dataRow : Matcher ℕ := tableLine (· != 10)
    [star (one fun codePoint => decide (codePoint ∈ [32, 9])), optional (one (· == 10))]

/-- `_TABLE_RE`. -/
def tableRe : Matcher ℕ := sequence [headerRow, separatorRow, plus dataRow]

/-! ## The code block of a table -/

/-- The cells of a row, without what is outside its pipes. -/
def row (line : Text) : List Text :=
  let parts := line.splitOn 124
  let parts := if parts.head?.any (strip · == []) then parts.tail else parts
  let parts :=
    if parts.getLast?.any (strip · == []) then parts.dropLast else parts
  parts.map strip

/-- `_parse_md_table`. -/
def parseMdTable (tabulate : Tabulate) (found : Text) : Text :=
  match (splitlines found).filter fun line => strip line != [] with
  | headerLine :: _ :: dataLine :: dataLines =>
    [96, 96, 96, 10] ++ tabulate (row headerLine) ((dataLine :: dataLines).map row) ++
      [10, 96, 96, 96]
  | _ => found

/-- A text whose tables are code blocks. -/
def convertTables (tabulate : Tabulate) (text : Text) : Text :=
  substitute tableRe (parseMdTable tabulate) text

/-- `render_text`. -/
def renderText (tabulate : Tabulate) (text : Text) (maxLength : ℤ) : Py (List Text) :=
  chunkText (convertTables tabulate text) maxLength none

/-! ## A table begins with a pipe -/

section Pattern

variable {inside : ℕ → Bool} {ending : List (Matcher ℕ)}
variable {cursor next : Cursor ℕ}

theorem goesOn_tableLine (goOn : ∀ matcher ∈ ending, GoesOn matcher) :
    GoesOn (tableLine inside ending) := by
  apply goesOn_sequence
  intro matcher member
  simp only [List.mem_cons] at member
  rcases member with rfl | rfl | rfl | rfl | member
  · exact goesOn_place _
  · exact goesOn_one _
  · exact (goesOn_one inside).plus
  · exact goesOn_one _
  · exact goOn matcher member

theorem goesOn_separatorRow : GoesOn separatorRow := by
  apply goesOn_tableLine
  intro matcher member
  rw [List.mem_pair] at member
  rcases member with rfl | rfl
  · exact (goesOn_one _).star
  · exact goesOn_one _

theorem goesOn_dataRow : GoesOn dataRow := by
  apply goesOn_tableLine
  intro matcher member
  rw [List.mem_pair] at member
  rcases member with rfl | rfl
  · exact (goesOn_one _).star
  · exact (goesOn_one _).optional

theorem exists_pipe_of_mem_tableRe (member : next ∈ tableRe cursor) :
    ∃ taken, cursor.left = 124 :: taken ++ next.left := by
  obtain ⟨headed, header, others⟩ := List.mem_flatMap.mp member
  obtain ⟨start, started, header⟩ := List.mem_flatMap.mp header
  obtain ⟨opened, pipe, header⟩ := List.mem_flatMap.mp header
  rw [eq_of_mem_place started] at pipe
  obtain ⟨symbol, isPipe, leftEq⟩ := exists_of_mem_one pipe
  have inHeader : headed.left <:+ opened.left := by
    refine goesOn_sequence ?_ opened headed header
    intro matcher member
    simp only [List.mem_cons, List.not_mem_nil, or_false] at member
    rcases member with rfl | rfl | rfl | rfl
    · exact (goesOn_one _).plus
    · exact goesOn_one _
    · exact (goesOn_one _).star
    · exact goesOn_one _
  have afterHeader : next.left <:+ headed.left := by
    refine goesOn_sequence ?_ headed next others
    intro matcher member
    rw [List.mem_pair] at member
    rcases member with rfl | rfl
    · exact goesOn_separatorRow
    · exact goesOn_dataRow.plus
  obtain ⟨taken, parts⟩ := afterHeader.trans inHeader
  refine ⟨taken, ?_⟩
  rw [leftEq, eq_of_beq isPipe, List.cons_append, parts]

end Pattern

/-! ## A code block has no pipe -/

section Block

variable {tabulate : Tabulate} {line cell : Text}

theorem not_mem_of_mem_row (member : cell ∈ row line) : 124 ∉ cell := by
  obtain ⟨part, partMember, rfl⟩ := List.mem_map.mp member
  have isPart : part ∈ line.splitOn 124 := by
    split at partMember
    · split at partMember
      · exact List.mem_of_mem_tail (List.dropLast_subset _ partMember)
      · exact List.mem_of_mem_tail partMember
    · split at partMember
      · exact List.dropLast_subset _ partMember
      · exact partMember
  rw [List.splitOn_eq_splitOnP] at isPart
  intro pipe
  have absent := eq_false_of_mem_splitOnP isPart 124 (mem_of_mem_strip pipe)
  cases absent

theorem parseMdTable_cases (drawn : DrawsNoPipes tabulate) (found : Text) :
    parseMdTable tabulate found = found ∨ 124 ∉ parseMdTable tabulate found := by
  unfold parseMdTable
  split
  · right
    rename_i headerLine _ dataLine dataLines _
    have inTable := drawn (row headerLine) ((dataLine :: dataLines).map row)
      (fun cell => not_mem_of_mem_row) (by
        intro cells cellsMember cell
        obtain ⟨line, -, rfl⟩ := List.mem_map.mp cellsMember
        exact not_mem_of_mem_row)
    simpa using inTable
  · exact Or.inl rfl

theorem reduces_parseMdTable (drawn : DrawsNoPipes tabulate) :
    Reduces 124 tableRe (parseMdTable tabulate) := by
  intro cursor next member
  obtain ⟨taken, leftEq⟩ := exists_pipe_of_mem_tableRe member
  refine ⟨124 :: taken, List.cons_ne_nil 124 taken, leftEq, ?_⟩
  rcases parseMdTable_cases drawn (124 :: taken) with unchanged | absent
  · exact Or.inl unchanged
  · right
    rw [List.count_eq_zero_of_not_mem absent]
    exact List.count_pos_iff.mpr List.mem_cons_self

theorem fewer_convertTables (drawn : DrawsNoPipes tabulate) (text : Text) :
    Fewer 124 (convertTables tabulate text) text :=
  (reduces_parseMdTable drawn).substitute text

theorem convertTables_eq_self {text : Text} (absent : 124 ∉ text) :
    convertTables tabulate text = text := by
  apply substituteAfter_eq_self
  intro cursor suffix
  rw [List.eq_nil_iff_forall_not_mem]
  intro next member
  obtain ⟨taken, leftEq⟩ := exists_pipe_of_mem_tableRe member
  apply absent
  apply suffix.subset
  rw [leftEq]
  exact List.mem_cons_self

end Block

end DiscordTables

end RoxabiFactory
