import Mathlib.Data.List.Infix
import Mathlib.Order.Basic

/-!
# Matchers that backtrack

A matcher lists the ways in which a pattern matches at a place of a text, in
the order in which they are tried.  Matchers that go on one after the other try
the ways of the later one for each way of the earlier one.  A substitution
replaces the first match at each place that no earlier match has taken.
-/

namespace RoxabiFactory

/-- A place in a text: what was passed, the latest first, and what is left. -/
structure Cursor (Symbol : Type*) where
  passed : List Symbol
  left : List Symbol

abbrev Matcher (Symbol : Type*) := Cursor Symbol → List (Cursor Symbol)

namespace Matcher

variable {Symbol : Type*}

def place (holds : Cursor Symbol → Bool) : Matcher Symbol := fun cursor =>
  if holds cursor then [cursor] else []

/-- A symbol that is accepted. -/
def one (accepts : Symbol → Bool) : Matcher Symbol
  | ⟨_, []⟩ => []
  | ⟨passed, symbol :: left⟩ =>
    if accepts symbol then [⟨symbol :: passed, left⟩] else []

/-- Matchers that go on one after the other. -/
def sequence : List (Matcher Symbol) → Matcher Symbol
  | [], cursor => [cursor]
  | matcher :: matchers, cursor =>
    (matcher cursor).flatMap (sequence matchers)

/-- A match, or none. -/
def optional (matcher : Matcher Symbol) : Matcher Symbol := fun cursor =>
  matcher cursor ++ [cursor]

/-- At most so many matches, as many as there can be first. -/
def atMost (matcher : Matcher Symbol) : ℕ → Matcher Symbol
  | 0, cursor => [cursor]
  | bound + 1, cursor =>
    (matcher cursor).flatMap (atMost matcher bound) ++ [cursor]

/-- Matches of a matcher that takes something, as many as there can be. -/
def star (matcher : Matcher Symbol) : Matcher Symbol := fun cursor =>
  atMost matcher cursor.left.length cursor

def plus (matcher : Matcher Symbol) : Matcher Symbol := sequence [matcher, star matcher]

/-- Replace the matches of a matcher that takes something; the first symbols
are passed over. -/
def substituteAfter (matcher : Matcher Symbol) (replace : List Symbol → List Symbol) :
    ℕ → List Symbol → List Symbol → List Symbol
  | _, _, [] => []
  | skipped + 1, passed, symbol :: left =>
    substituteAfter matcher replace skipped (symbol :: passed) left
  | 0, passed, symbol :: left =>
    match (matcher ⟨passed, symbol :: left⟩).head? with
    | some next =>
      let taken := left.length + 1 - next.left.length
      replace ((symbol :: left).take taken) ++
        substituteAfter matcher replace (taken - 1) (symbol :: passed) left
    | none => symbol :: substituteAfter matcher replace 0 (symbol :: passed) left

/-- `re.sub` with a pattern that does not match the empty text. -/
def substitute (matcher : Matcher Symbol)
    (replace : List Symbol → List Symbol) (text : List Symbol) : List Symbol :=
  substituteAfter matcher replace 0 [] text

/-! ## Matchers go on -/

/-- A match ends later in the same text. -/
def GoesOn (matcher : Matcher Symbol) : Prop :=
  ∀ cursor, ∀ next ∈ matcher cursor, next.left <:+ cursor.left

section GoesOn

variable {matcher : Matcher Symbol} {matchers : List (Matcher Symbol)}
variable {accepts : Symbol → Bool}

theorem eq_of_mem_place {holds : Cursor Symbol → Bool}
    {cursor next : Cursor Symbol} (member : next ∈ place holds cursor) :
    next = cursor := by
  unfold place at member
  split at member
  · exact List.mem_singleton.mp member
  · cases member

theorem goesOn_place (holds : Cursor Symbol → Bool) :
    GoesOn (place holds) := by
  intro cursor next member
  rw [eq_of_mem_place member]

theorem exists_of_mem_one {cursor next : Cursor Symbol} (member : next ∈ one accepts cursor) :
    ∃ symbol, accepts symbol = true ∧ cursor.left = symbol :: next.left := by
  obtain ⟨passed, left⟩ := cursor
  cases left with
  | nil => cases member
  | cons symbol left =>
    rw [one] at member
    split at member
    · rename_i accepted
      rw [List.mem_singleton.mp member]
      exact ⟨symbol, accepted, rfl⟩
    · cases member

theorem goesOn_one (accepts : Symbol → Bool) : GoesOn (one accepts) := by
  intro cursor next member
  obtain ⟨symbol, -, leftEq⟩ := exists_of_mem_one member
  rw [leftEq]
  exact List.suffix_cons symbol next.left

theorem goesOn_sequence (goOn : ∀ matcher ∈ matchers, GoesOn matcher) :
    GoesOn (sequence matchers) := by
  induction matchers with
  | nil =>
    intro cursor next member
    rw [List.mem_singleton.mp member]
  | cons matcher matchers ih =>
    rw [List.forall_mem_cons] at goOn
    intro cursor next member
    obtain ⟨middle, first, later⟩ := List.mem_flatMap.mp member
    exact (ih goOn.2 middle next later).trans (goOn.1 cursor middle first)

theorem GoesOn.optional (goesOn : GoesOn matcher) :
    GoesOn (optional matcher) := by
  intro cursor next member
  rcases List.mem_append.mp member with matched | here
  · exact goesOn cursor next matched
  · rw [List.mem_singleton.mp here]

theorem GoesOn.atMost (goesOn : GoesOn matcher) (bound : ℕ) :
    GoesOn (atMost matcher bound) := by
  induction bound with
  | zero =>
    intro cursor next member
    rw [List.mem_singleton.mp member]
  | succ bound ih =>
    intro cursor next member
    rcases List.mem_append.mp member with matched | here
    · obtain ⟨middle, first, later⟩ := List.mem_flatMap.mp matched
      exact (ih middle next later).trans (goesOn cursor middle first)
    · rw [List.mem_singleton.mp here]

theorem GoesOn.star (goesOn : GoesOn matcher) : GoesOn (star matcher) :=
  fun cursor => goesOn.atMost cursor.left.length cursor

theorem GoesOn.plus (goesOn : GoesOn matcher) : GoesOn (plus matcher) := by
  apply goesOn_sequence
  intro other member
  rw [List.mem_pair] at member
  rcases member with rfl | rfl
  · exact goesOn
  · exact goesOn.star

end GoesOn

theorem substituteAfter_eq_self {matcher : Matcher Symbol}
    {replace : List Symbol → List Symbol} {text : List Symbol}
    (misses : ∀ cursor, cursor.left <:+ text → matcher cursor = [])
    (passed : List Symbol) :
    substituteAfter matcher replace 0 passed text = text := by
  induction text generalizing passed with
  | nil => rfl
  | cons symbol left ih =>
    have rest := ih (fun cursor suffix =>
      misses cursor (suffix.trans (List.suffix_cons symbol left)))
      (symbol :: passed)
    rw [substituteAfter, misses ⟨passed, symbol :: left⟩ List.suffix_rfl]
    exact congrArg (symbol :: ·) rest

/-! ## Substitutions that use a symbol up -/

section Fewer

variable [DecidableEq Symbol]

/-- A text that is unchanged, or in which a symbol occurs less often. -/
def Fewer (symbol : Symbol) (changed text : List Symbol) : Prop :=
  changed = text ∨ changed.count symbol < text.count symbol

variable {symbol : Symbol} {changed text : List Symbol}

theorem Fewer.count_le (fewer : Fewer symbol changed text) :
    changed.count symbol ≤ text.count symbol := by
  rcases fewer with rfl | less
  · exact le_rfl
  · exact less.le

theorem Fewer.append {changedRest rest : List Symbol} (first : Fewer symbol changed text)
    (second : Fewer symbol changedRest rest) :
    Fewer symbol (changed ++ changedRest) (text ++ rest) := by
  have firstCount := first.count_le
  have secondCount := second.count_le
  unfold Fewer
  rw [List.count_append, List.count_append]
  rcases first with rfl | less
  · rcases second with rfl | less
    · exact Or.inl rfl
    · right
      omega
  · right
    omega

variable {matcher : Matcher Symbol} {replace : List Symbol → List Symbol}

/-- A match takes something, and its replacement is fewer. -/
def Reduces (symbol : Symbol) (matcher : Matcher Symbol)
    (replace : List Symbol → List Symbol) : Prop :=
  ∀ cursor, ∀ next ∈ matcher cursor, ∃ taken, taken ≠ [] ∧
    cursor.left = taken ++ next.left ∧ Fewer symbol (replace taken) taken

theorem Reduces.substituteAfter (reduces : Reduces symbol matcher replace)
    (skipped : ℕ) (passed text : List Symbol) :
    Fewer symbol (substituteAfter matcher replace skipped passed text) (text.drop skipped) := by
  induction text generalizing skipped passed with
  | nil =>
    rw [List.drop_nil]
    cases skipped <;> exact Or.inl rfl
  | cons next left ih =>
    cases skipped with
    | succ skipped => exact ih skipped (next :: passed)
    | zero =>
      unfold Matcher.substituteAfter
      cases found : (matcher ⟨passed, next :: left⟩).head? with
      | none =>
        exact Fewer.append (Or.inl (rfl : [next] = [next])) (ih 0 (next :: passed))
      | some after =>
        obtain ⟨taken, nonempty, whole, fewer⟩ := reduces _ after (List.mem_of_mem_head? found)
        have lengths := congrArg List.length whole
        simp only [List.length_cons, List.length_append] at lengths
        have some : 0 < taken.length := List.length_pos_iff.mpr nonempty
        have count : left.length + 1 - after.left.length =
            taken.length := by
          omega
        have takenEq : (next :: left).take taken.length = taken := by
          rw [show next :: left = _ from whole, List.take_left]
        have parts : taken ++ left.drop (taken.length - 1) =
            next :: left := by
          calc taken ++ left.drop (taken.length - 1) = (next :: left).take taken.length ++
                  (next :: left).drop taken.length := by
                rw [takenEq, ← List.drop_succ_cons, Nat.sub_add_cancel some]
            _ = next :: left := List.take_append_drop _ _
        have both := fewer.append (ih (taken.length - 1) (next :: passed))
        dsimp only
        rw [count, takenEq]
        rwa [parts] at both

theorem Reduces.substitute (reduces : Reduces symbol matcher replace) (text : List Symbol) :
    Fewer symbol (substitute matcher replace text) text :=
  reduces.substituteAfter 0 [] text

end Fewer

end Matcher

end RoxabiFactory
