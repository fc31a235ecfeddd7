import RoxabiFactory.CliErrorClassify
import RoxabiFactory.TextLines

/-!
# Splitting a text into chunks

`chunk_text` cuts a text that is too long at the last natural boundary of the
window that fits: a paragraph break, a newline, the end of a sentence or a
word, and at the limit when there is none.  The blanks around a cut go away and
nothing else does.
-/

namespace RoxabiFactory

namespace Text

/-- `text.lstrip()`. -/
def lstrip (text : Text) : Text := text.dropWhile PyStr.isSpace

/-- `text.rstrip()`. -/
def rstrip (text : Text) : Text := text.rdropWhile PyStr.isSpace

/-- `text.rfind(word)`, which is no place when the word is missing. -/
def rfind (word text : Text) : Option ℕ := (List.range (text.length + 1)).reverse.find? fun place =>
    word.isPrefixOf (text.drop place)

/-- A paragraph break, a newline, the ends of sentences and a blank. -/
def separators : List Text := [[10, 10], [10], [46, 32], [33, 32], [63, 32], [32]]

/-- The place after the last of the first separators that is found, unless it
begins the window. -/
def cutPlace (window : Text) (maxLen : ℕ) : ℕ := (separators.findSome? fun separator =>
    ((rfind separator window).filter (0 < ·)).map (· + separator.length)).getD maxLen

/-- The characters that are not blank. -/
def visible (text : Text) : Text := text.filter fun codePoint => !PyStr.isSpace codePoint

/-! ## Where a window is cut -/

section Cut

variable {word text window : Text} {place maxLen : ℕ}

theorem add_length_le_of_rfind (found : rfind word text = some place) :
    place + word.length ≤ text.length := by
  have inside := List.mem_of_find?_eq_some found
  have isPrefix := List.find?_some found
  rw [List.mem_reverse, List.mem_range] at inside
  rw [List.isPrefixOf_iff_prefix] at isPrefix
  have short := isPrefix.length_le
  rw [List.length_drop] at short
  omega

theorem cutPlace_mem (fits : window.length ≤ maxLen) (positive : 0 < maxLen) :
    0 < cutPlace window maxLen ∧ cutPlace window maxLen ≤ maxLen := by
  unfold cutPlace
  cases chosen : separators.findSome? fun separator =>
      ((rfind separator window).filter (0 < ·)).map (· + separator.length) with
  | none => exact ⟨positive, le_rfl⟩
  | some cut =>
    obtain ⟨separator, -, cutEq⟩ := List.exists_of_findSome?_eq_some chosen
    rw [Option.map_eq_some_iff] at cutEq
    obtain ⟨place, placeEq, rfl⟩ := cutEq
    obtain ⟨found, isLater⟩ := Option.filter_eq_some_iff.mp placeEq
    have inside := add_length_le_of_rfind found
    have later : 0 < place := of_decide_eq_true isLater
    rw [Option.getD_some]
    omega

end Cut

/-! ## The loop -/

theorem takeWhile_lstrip (text : Text) : (lstrip text).takeWhile PyStr.isSpace = [] := by
  have first := List.head?_dropWhile_not PyStr.isSpace text
  unfold lstrip
  cases rest : text.dropWhile PyStr.isSpace with
  | nil => rfl
  | cons codePoint rest' =>
    rw [rest] at first
    exact List.takeWhile_cons_of_neg (Bool.not_eq_true _ ▸ first)

theorem length_lstrip_le (text : Text) : (lstrip text).length ≤ text.length :=
  (List.dropWhile_sublist _).length_le

/-- The loop of `chunk_text` and what it leaves. -/
def splitChunks (maxLen : ℕ) (positive : 0 < maxLen) (text : Text) : List Text :=
  if maxLen < text.length then
    let cut := cutPlace (text.take maxLen) maxLen
    rstrip (text.take cut) ::
      splitChunks maxLen positive (lstrip (text.drop cut))
  else if text = [] then []
  else [text]
  termination_by text.length
  decreasing_by
    have cut := cutPlace_mem (List.length_take_le maxLen text) positive
    have shorter := length_lstrip_le (text.drop (cutPlace (text.take maxLen) maxLen))
    rw [List.length_drop] at shorter
    omega

/-- `chunk_text`. -/
def chunkText (text : Text) (maxLen : ℤ) (escapeFn : Option (Text → Text)) : Py (List Text) :=
  if positive : 0 < maxLen then
    .ok (splitChunks maxLen.toNat (Int.pos_iff_toNat_pos.mp positive) (escapeFn.getD id text))
  else .error .valueError

section Loop

variable {maxLen : ℕ} {positive : 0 < maxLen} {text chunk : Text}

theorem splitChunks_of_lt (long : maxLen < text.length) :
    splitChunks maxLen positive text = rstrip (text.take (cutPlace (text.take maxLen) maxLen)) ::
        splitChunks maxLen positive (lstrip (text.drop (cutPlace (text.take maxLen) maxLen))) := by
  rw [splitChunks, if_pos long]

theorem splitChunks_of_le (nonempty : text ≠ []) (fits : text.length ≤ maxLen) :
    splitChunks maxLen positive text = [text] := by
  rw [splitChunks, if_neg (by omega), if_neg nonempty]

@[simp]
theorem splitChunks_nil : splitChunks maxLen positive [] = [] := by
  rw [splitChunks, if_neg (by simp), if_pos rfl]

theorem length_le_of_mem_splitChunks (member : chunk ∈ splitChunks maxLen positive text) :
    chunk.length ≤ maxLen := by
  induction text using splitChunks.induct maxLen positive with
  | case1 text long cut ih =>
    rw [splitChunks_of_lt long, List.mem_cons] at member
    rcases member with rfl | later
    · have bound := cutPlace_mem (List.length_take_le maxLen text) positive
      calc (rstrip (text.take cut)).length ≤ (text.take cut).length :=
            (List.rdropWhile_prefix _ _).length_le
        _ ≤ cut := List.length_take_le cut text
        _ ≤ maxLen := bound.2
    · exact ih later
  | case2 short =>
    rw [splitChunks_nil] at member
    cases member
  | case3 text short nonempty =>
    rw [splitChunks_of_le nonempty (not_lt.mp short), List.mem_singleton] at member
    rw [member]
    exact not_lt.mp short

@[simp]
theorem visible_append (first second : Text) :
    visible (first ++ second) = visible first ++ visible second :=
  List.filter_append first second

theorem visible_lstrip (text : Text) : visible (lstrip text) = visible text := by
  induction text with
  | nil => rfl
  | cons codePoint text ih =>
    unfold lstrip visible at ih ⊢
    cases blank : PyStr.isSpace codePoint with
    | false => rw [List.dropWhile_cons_of_neg (by rw [blank]; decide)]
    | true =>
      rw [List.dropWhile_cons_of_pos blank, ih, List.filter_cons_of_neg (by rw [blank]; decide)]

theorem visible_rstrip (text : Text) : visible (rstrip text) = visible text := by
  induction text using List.reverseRecOn with
  | nil => rfl
  | append_singleton text codePoint ih =>
    unfold rstrip at ih ⊢
    cases blank : PyStr.isSpace codePoint with
    | false =>
      rw [List.rdropWhile_concat_neg _ _ _ (by rw [blank]; decide)]
    | true =>
      rw [List.rdropWhile_concat_pos _ _ _ blank, ih, visible_append]
      simp [visible, blank]

theorem visible_flatten_splitChunks (text : Text) :
    visible (splitChunks maxLen positive text).flatten = visible text := by
  induction text using splitChunks.induct maxLen positive with
  | case1 text long cut ih =>
    calc visible (splitChunks maxLen positive text).flatten
        = visible (text.take cut) ++ visible (text.drop cut) := by
          rw [splitChunks_of_lt long, List.flatten_cons, visible_append, ih,
            visible_rstrip, visible_lstrip]
      _ = visible text := by rw [← visible_append, List.take_append_drop]
  | case2 short => rw [splitChunks_nil, List.flatten_nil]
  | case3 text short nonempty =>
    rw [splitChunks_of_le nonempty (not_lt.mp short), List.flatten_singleton]

theorem count_flatten_splitChunks {codePoint : ℕ}
    (isVisible : PyStr.isSpace codePoint = false) (text : Text) :
    (splitChunks maxLen positive text).flatten.count codePoint =
      text.count codePoint := by
  have sameCount (some : Text) : (visible some).count codePoint = some.count codePoint :=
    List.count_filter (by rw [isVisible]; rfl)
  rw [← sameCount, visible_flatten_splitChunks, sameCount]

theorem chunkText_of_pos (text : Text) (positive : 0 < maxLen) :
    chunkText text maxLen none = .ok (splitChunks maxLen positive text) := by
  rw [chunkText, dif_pos (Int.natCast_pos.mpr positive)]
  rfl

end Loop

/-! ## Blank chunks -/

/-- What a split of a text keeps. -/
structure Faithful (maxLen : ℕ) (text : Text) (chunks : List Text) : Prop where
  length_le : ∀ chunk ∈ chunks, chunk.length ≤ maxLen
  visible_eq : visible chunks.flatten = visible text
  notBlank : visible text ≠ [] → ∀ chunk ∈ chunks, visible chunk ≠ []

/-- The first break of a text that is too long comes after its leading
blanks. -/
def BreaksAfterBlanks (maxLen : ℕ) (text : Text) : Prop :=
  visible text = [] ∨ text.length ≤ maxLen ∨
    (text.takeWhile PyStr.isSpace).length < cutPlace (text.take maxLen) maxLen

section Blank

variable {maxLen : ℕ} {positive : 0 < maxLen} {text chunk : Text}

theorem visible_take_ne_nil_iff (text : Text) (place : ℕ) : visible (text.take place) ≠ [] ↔
      (text.takeWhile PyStr.isSpace).length < min place text.length := by
  induction text generalizing place with
  | nil => simp [visible]
  | cons codePoint text ih =>
    cases place with
    | zero => simp [visible]
    | succ place =>
      have later := ih place
      unfold visible at later ⊢
      cases blank : PyStr.isSpace codePoint with
      | false => simp [blank]
      | true =>
        rw [List.take_succ_cons, List.filter_cons_of_neg (by simp [blank]),
          List.takeWhile_cons_of_pos blank, later]
        simp only [List.length_cons]
        omega

theorem notBlank_of_takeWhile_eq_nil (starts : text.takeWhile PyStr.isSpace = [])
    (member : chunk ∈ splitChunks maxLen positive text) :
    visible chunk ≠ [] := by
  induction text using splitChunks.induct maxLen positive with
  | case1 text long cut ih =>
    have bound := cutPlace_mem (List.length_take_le maxLen text) positive
    rw [splitChunks_of_lt long, List.mem_cons] at member
    rcases member with rfl | later
    · rw [visible_rstrip, visible_take_ne_nil_iff, starts]
      exact lt_min bound.1 (by simp only [List.length_nil]; omega)
    · exact ih (takeWhile_lstrip _) later
  | case2 short =>
    rw [splitChunks_nil] at member
    cases member
  | case3 text short nonempty =>
    rw [splitChunks_of_le nonempty (not_lt.mp short), List.mem_singleton] at member
    have whole := visible_take_ne_nil_iff text text.length
    rw [List.take_length, starts, min_self] at whole
    rw [member, whole]
    exact List.length_pos_iff.mpr nonempty

theorem faithful_splitChunks (notBlank : visible text ≠ [] →
      ∀ chunk ∈ splitChunks maxLen positive text, visible chunk ≠ []) :
    Faithful maxLen text (splitChunks maxLen positive text) where
  length_le _ member := length_le_of_mem_splitChunks member
  visible_eq := visible_flatten_splitChunks text
  notBlank := notBlank

theorem notBlank_splitChunks_iff (long : maxLen < text.length) :
    (∀ chunk ∈ splitChunks maxLen positive text, visible chunk ≠ []) ↔
      (text.takeWhile PyStr.isSpace).length <
        cutPlace (text.take maxLen) maxLen := by
  have bound := cutPlace_mem (List.length_take_le maxLen text) positive
  rw [splitChunks_of_lt long, List.forall_mem_cons, visible_rstrip,
    visible_take_ne_nil_iff, min_eq_left (by omega)]
  constructor
  · intro both
    exact both.1
  · intro later
    refine ⟨later, fun chunk member => ?_⟩
    exact notBlank_of_takeWhile_eq_nil (takeWhile_lstrip _) member

/-- `chunk_text` returns for every text, and its chunks are a faithful split if
and only if the first break does not come within the leading blanks. -/
theorem chunkText_faithful_iff (text : Text) (positive : 0 < maxLen) :
    ∃ chunks, chunkText text maxLen none = .ok chunks ∧
      (Faithful maxLen text chunks ↔ BreaksAfterBlanks maxLen text) := by
  refine ⟨_, chunkText_of_pos text positive, ?_⟩
  constructor
  · intro faithful
    by_cases blank : visible text = []
    · exact .inl blank
    refine .inr ?_
    rw [or_iff_not_imp_left, not_le]
    intro long
    exact (notBlank_splitChunks_iff long).mp (faithful.notBlank blank)
  · intro breaks
    apply faithful_splitChunks
    intro shown
    by_cases fits : text.length ≤ maxLen
    · have nonempty : text ≠ [] := by
        rintro rfl
        exact shown rfl
      intro chunk member
      rw [splitChunks_of_le nonempty fits, List.mem_singleton] at member
      rwa [member]
    · have later := (breaks.resolve_left shown).resolve_left fits
      exact (notBlank_splitChunks_iff (not_le.mp fits)).mpr later

end Blank

section Example

/-- A word is cut where nothing else is. -/
theorem chunkText_faithful_three :
    ∃ chunks, chunkText (List.replicate 5 97) (3 : ℕ) none = .ok chunks ∧
      (Faithful 3 (List.replicate 5 97) chunks ↔ BreaksAfterBlanks 3 (List.replicate 5 97)) :=
  chunkText_faithful_iff _ (by decide)

/-- Three blanks before a letter fill the first chunk. -/
theorem exists_blank_chunk : ∃ chunks, chunkText [32, 32, 32, 97] (3 : ℕ) none = .ok chunks ∧
      ¬ Faithful 3 [32, 32, 32, 97] chunks := by
  refine ⟨_, chunkText_of_pos _ (by decide), fun faithful => ?_⟩
  have breaks := (notBlank_splitChunks_iff (by decide)).mp
    (faithful.notBlank (by decide))
  exact absurd breaks (by decide)

end Example

end Text

end RoxabiFactory
