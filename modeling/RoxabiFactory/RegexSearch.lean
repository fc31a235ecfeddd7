import Mathlib.Data.List.Infix

/-!
# Searching for patterns

A pattern is a sequence of parts.  A part takes words, or runs of symbols, from
the beginning of a text, and a matcher tries the ways in which it can do so one
after the other: a greedy run from the longest on, and a lazy run from the
shortest on.  A search takes the first place at which a pattern matches.
-/

namespace RoxabiFactory

namespace RegexSearch

variable {Symbol : Type*}

/-- What a pattern asks of the text at one place. -/
inductive Part (Symbol : Type*)
  | word (symbols : List Symbol)
  /-- One of the words, of which the first ones are tried first. -/
  | oneOf (words : List (List Symbol))
  /-- A run of accepted symbols that is as long as it can be. -/
  | greedy (accepts : Symbol → Bool) (atLeast : ℕ)
  /-- A run of accepted symbols that is as short as it can be. -/
  | lazy (accepts : Symbol → Bool) (atLeast : ℕ)

/-- A part of a pattern, which is a group when its match is kept. -/
inductive Piece (Symbol : Type*)
  | plain (part : Part Symbol)
  | group (part : Part Symbol)

abbrev Pattern (Symbol : Type*) := List (Piece Symbol)

/-- The runs at the beginning of a text and what is after them, from the
shortest run on. -/
def runs (accepts : Symbol → Bool) : List Symbol → List (List Symbol × List Symbol)
  | [] => [([], [])]
  | symbol :: text =>
    ([], symbol :: text) ::
      if accepts symbol then
        (runs accepts text).map fun way => (symbol :: way.1, way.2)
      else []

/-- A word at the beginning of a text, and what is after it. -/
def takeWord [DecidableEq Symbol] (symbols text : List Symbol) :
    Option (List Symbol × List Symbol) :=
  if symbols.isPrefixOf text then
    some (symbols, text.drop symbols.length)
  else none

/-- The ways in which a part takes from a text, in the order in which they are
tried. -/
def Part.ways [DecidableEq Symbol] (text : List Symbol) :
    Part Symbol → List (List Symbol × List Symbol)
  | word symbols => (takeWord symbols text).toList
  | oneOf words => words.filterMap fun symbols => takeWord symbols text
  | greedy accepts atLeast =>
    ((runs accepts text).filter fun way =>
      decide (atLeast ≤ way.1.length)).reverse
  | lazy accepts atLeast =>
    (runs accepts text).filter fun way => decide (atLeast ≤ way.1.length)

namespace Pattern

/-- The first match at the beginning of a text: its groups, and what is after
it. -/
def matchAt [DecidableEq Symbol] :
    Pattern Symbol → List Symbol → Option (List (List Symbol) × List Symbol)
  | [], text => some ([], text)
  | .plain part :: pieces, text =>
    (part.ways text).findSome? fun way => matchAt pieces way.2
  | .group part :: pieces, text =>
    (part.ways text).findSome? fun way =>
      (matchAt pieces way.2).map fun found => (way.1 :: found.1, found.2)

/-- The groups of the first match in a text. -/
def search [DecidableEq Symbol] (pattern : Pattern Symbol) :
    List Symbol → Option (List (List Symbol))
  | [] => (pattern.matchAt []).map Prod.fst
  | symbol :: text =>
    match pattern.matchAt (symbol :: text) with
    | some found => some found.1
    | none => search pattern text

/-- The groups of the matches in a text, each of which begins after the one
before it; the first symbols are passed over. -/
def findAllAfter [DecidableEq Symbol] (pattern : Pattern Symbol) :
    ℕ → List Symbol → List (List (List Symbol))
  | _, [] => []
  | skipped + 1, _ :: text => findAllAfter pattern skipped text
  | 0, symbol :: text =>
    match pattern.matchAt (symbol :: text) with
    | some found =>
      found.1 :: findAllAfter pattern (text.length - found.2.length) text
    | none => findAllAfter pattern 0 text

/-- The groups of the matches of a pattern that does not match the empty
text. -/
def findAll [DecidableEq Symbol] (pattern : Pattern Symbol)
    (text : List Symbol) : List (List (List Symbol)) :=
  pattern.findAllAfter 0 text

end Pattern

/-! ## Rules for the parts -/

theorem takeWord_append [DecidableEq Symbol] (symbols text : List Symbol) :
    takeWord symbols (symbols ++ text) = some (symbols, text) := by
  rw [takeWord, if_pos, List.drop_left]
  rw [List.isPrefixOf_iff_prefix]
  exact List.prefix_append symbols text

theorem takeWord_eq_none [DecidableEq Symbol] {symbols text : List Symbol}
    (absent : ¬ symbols <+: text) : takeWord symbols text = none := by
  rw [takeWord, if_neg]
  rw [List.isPrefixOf_iff_prefix]
  exact absent

theorem runs_eq_cons (accepts : Symbol → Bool) (text : List Symbol) :
    ∃ longer, runs accepts text = ([], text) :: longer := by
  cases text with
  | nil => exact ⟨[], rfl⟩
  | cons symbol text => exact ⟨_, rfl⟩

theorem runs_append {accepts : Symbol → Bool} {run text : List Symbol}
    (accepted : ∀ symbol ∈ run, accepts symbol = true)
    (stops : ∀ symbol ∈ text.head?, accepts symbol = false) :
    ∃ shorter, runs accepts (run ++ text) = shorter ++ [(run, text)] := by
  induction run with
  | nil =>
    cases text with
    | nil => exact ⟨[], rfl⟩
    | cons symbol text =>
      refine ⟨[], ?_⟩
      rw [List.nil_append, runs, stops symbol rfl]
      rfl
  | cons symbol run ih =>
    obtain ⟨shorter, runsEq⟩ := ih fun other member =>
      accepted other (List.mem_cons_of_mem _ member)
    refine ⟨([], symbol :: run ++ text) :: shorter.map fun way => (symbol :: way.1, way.2), ?_⟩
    rw [List.cons_append, runs, accepted symbol List.mem_cons_self,
      if_pos rfl, runsEq, List.map_append]
    rfl

theorem findSome?_runs {Found : Type*} {accepts : Symbol → Bool}
    {run text : List Symbol} {next : List Symbol × List Symbol → Option Found}
    {found : Found} (accepted : ∀ symbol ∈ run, accepts symbol = true)
    (misses : ∀ taken symbol left, taken ++ symbol :: left = run →
      next (taken, symbol :: left ++ text) = none)
    (hits : next (run, text) = some found) :
    (runs accepts (run ++ text)).findSome? next = some found := by
  induction run generalizing next with
  | nil =>
    obtain ⟨longer, runsEq⟩ := runs_eq_cons accepts text
    rw [List.nil_append, runsEq, List.findSome?_cons_of_isSome]
    · exact hits
    · rw [hits]
      rfl
  | cons symbol run ih =>
    rw [List.cons_append, runs, accepted symbol List.mem_cons_self,
      if_pos rfl, List.findSome?_cons_of_isNone, List.findSome?_map]
    · apply ih
      · intro other member
        exact accepted other (List.mem_cons_of_mem _ member)
      · intro taken other left whole
        exact misses (symbol :: taken) other left (congrArg (symbol :: ·) whole)
      · exact hits
    · rw [Option.isNone_iff_eq_none]
      exact misses [] symbol run rfl

namespace Pattern

variable [DecidableEq Symbol] {pieces : Pattern Symbol}
variable {run text : List Symbol} {accepts : Symbol → Bool} {atLeast : ℕ}
variable {found : List (List Symbol) × List Symbol}

@[simp]
theorem matchAt_word (symbols : List Symbol) :
    matchAt (.plain (.word symbols) :: pieces) (symbols ++ text) =
      matchAt pieces text := by
  rw [matchAt, Part.ways, takeWord_append]
  simp

theorem matchAt_word_eq_none {symbols : List Symbol} (absent : ¬ symbols <+: text) :
    matchAt (.plain (.word symbols) :: pieces) text = none := by
  rw [matchAt, Part.ways, takeWord_eq_none absent]
  rfl

theorem ways_greedy (accepted : ∀ symbol ∈ run, accepts symbol = true)
    (stops : ∀ symbol ∈ text.head?, accepts symbol = false)
    (enough : atLeast ≤ run.length) :
    ∃ shorter, (Part.greedy accepts atLeast).ways (run ++ text) = (run, text) :: shorter := by
  obtain ⟨shorter, runsEq⟩ := runs_append accepted stops
  refine ⟨(shorter.filter fun way =>
    decide (atLeast ≤ way.1.length)).reverse, ?_⟩
  rw [Part.ways, runsEq, List.filter_append]
  simp [enough]

theorem matchAt_greedy (accepted : ∀ symbol ∈ run, accepts symbol = true)
    (stops : ∀ symbol ∈ text.head?, accepts symbol = false)
    (enough : atLeast ≤ run.length)
    (goesOn : matchAt pieces text = some found) :
    matchAt (.plain (.greedy accepts atLeast) :: pieces) (run ++ text) =
      some found := by
  obtain ⟨shorter, waysEq⟩ := ways_greedy accepted stops enough
  rw [matchAt, waysEq, List.findSome?_cons_of_isSome]
  · exact goesOn
  · rw [goesOn]
    rfl

theorem matchAt_lazy (accepted : ∀ symbol ∈ run, accepts symbol = true)
    (misses : ∀ taken symbol left, taken ++ symbol :: left = run →
      matchAt pieces (symbol :: left ++ text) = none)
    (hits : matchAt pieces text = some found) :
    matchAt (.group (.lazy accepts 0) :: pieces) (run ++ text) =
      some (run :: found.1, found.2) := by
  have ways : (Part.lazy accepts 0).ways (run ++ text) =
      runs accepts (run ++ text) := by
    simp [Part.ways]
  rw [matchAt, ways]
  apply findSome?_runs accepted
  · intro taken symbol left whole
    rw [misses taken symbol left whole]
    rfl
  · rw [hits]
    rfl

theorem search_of_matchAt {pattern : Pattern Symbol} (here : pattern.matchAt text = some found) :
    pattern.search text = some found.1 := by
  cases text with
  | nil => rw [search, here, Option.map_some]
  | cons symbol text => rw [search, here]

theorem search_append {word front after : List Symbol} (long : word.length ≤ after.length)
    (absent : ∀ back, back <:+ front → back ≠ [] → ¬ word <+: back ++ after) :
    search (.plain (.word word) :: pieces) (front ++ (after ++ text)) =
      search (.plain (.word word) :: pieces) (after ++ text) := by
  induction front with
  | nil => rfl
  | cons symbol front ih =>
    have missing : ¬ word <+: symbol :: (front ++ (after ++ text)) := by
      intro found
      apply absent (symbol :: front) List.suffix_rfl (List.cons_ne_nil _ _)
      have whole : symbol :: front ++ after <+:
          symbol :: (front ++ (after ++ text)) := by
        rw [← List.append_assoc, ← List.cons_append]
        exact List.prefix_append _ text
      apply List.prefix_of_prefix_length_le found whole
      rw [List.length_append]
      omega
    rw [List.cons_append, search, matchAt_word_eq_none missing]
    apply ih
    intro back suffix
    exact absent back (suffix.trans (List.suffix_cons symbol front))

/-- A word does not begin in a text that goes on. -/
def absent (word : List Symbol) : List Symbol → List Symbol → Bool
  | [], _ => true
  | symbol :: front, after =>
    !word.isPrefixOf (symbol :: front ++ after) && absent word front after

theorem not_prefix_of_absent {word front after : List Symbol}
    (isAbsent : absent word front after = true) :
    ∀ back, back <:+ front → back ≠ [] → ¬ word <+: back ++ after := by
  induction front with
  | nil =>
    intro back suffix nonempty
    exact absurd (List.suffix_nil.mp suffix) nonempty
  | cons symbol front ih =>
    rw [absent, Bool.and_eq_true, Bool.not_eq_true'] at isAbsent
    intro back suffix nonempty
    rcases List.suffix_cons_iff.mp suffix with rfl | later
    · rw [← List.isPrefixOf_iff_prefix, isAbsent.1]
      simp
    · exact ih isAbsent.2 back later nonempty

end Pattern

end RegexSearch

end RoxabiFactory
