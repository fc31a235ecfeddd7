import RoxabiFactory.AclRenderer
import RoxabiFactory.SubjectPatterns

/-!
# The gate for grants

`subject_covered` compares a required subject with the grants of an identity by
their texts.  A grant that matches all subjects of a pattern is found if it has
the texts of the pattern up to its last token.
-/

namespace RoxabiFactory

namespace GrantGate

open SubjectPattern

/-! ## The check -/

/-- `text.endswith(ending)`. -/
def endsWith (text ending : String) : Bool := ending.toList.isSuffixOf text.toList

/-- `grant[:-1]`. -/
def beginning (grant : String) : String := String.ofList grant.toList.dropLast

def grantCovers (subject grant : String) : Bool :=
  decide (grant = subject) || decide (grant = ">") ||
    (endsWith grant ".>" && PythonStr.startsWith subject (beginning grant)) ||
    (endsWith grant ".*" && PythonStr.startsWith subject (beginning grant) &&
      !(subject.toList.drop (beginning grant).toList.length).contains '.')

def subjectCovered (subject : String) (grants : List String) : Bool :=
  grants.any (grantCovers subject)

/-! ## What NATS matches -/

def tokens (subject : String) : List (List Char) := subject.toList.splitOn '.'

def one : List Char := ['*']

def rest : List Char := ['>']

def IsToken (token : List Char) : Prop := token ≠ [] ∧ '.' ∉ token ∧ token ≠ one ∧ token ≠ rest

/-- A subject without wildcards. -/
def IsConcrete (subject : String) : Prop := ∀ token ∈ tokens subject, IsToken token

/-- `>` is the last token of a pattern only. -/
def IsSubjectPattern (pattern : String) : Prop := IsPattern one rest IsToken (tokens pattern)

def natsMatches (pattern subject : String) : Prop :=
  isMatch one rest (tokens pattern) (tokens subject) = true

/-- The grant matches every concrete subject of the pattern. -/
def IncludesPattern (grant pattern : String) : Prop :=
  ∀ subject, IsConcrete subject → natsMatches pattern subject → natsMatches grant subject

/-- The tokens of the grant before its last one are those of the pattern, and
a lone `*` is the whole pattern. -/
def Spelled (grant pattern : String) : Prop :=
  (tokens grant).dropLast <+: tokens pattern ∧ (grant = "*" → pattern = "*")

/-- The grant ends in `.*` where the pattern ends in `.>`. -/
def Overlooks (grant pattern : String) : Prop :=
  ∃ start, grant = start ++ ".*" ∧ pattern = start ++ ".>"

/-! ## Texts and tokens -/

theorem splitOn_injective {first second : List Char}
    (same : first.splitOn '.' = second.splitOn '.') : first = second := by
  rw [← @List.intercalate_splitOn _ first _ _ '.', same, List.intercalate_splitOn]

theorem exists_append_of_splitOn {text : List Char} {first second : List (List Char)}
    (split : text.splitOn '.' = first ++ second) (notEmpty : first ≠ [])
    (rests : second ≠ []) (plain : ∀ token ∈ first ++ second, '.' ∉ token) :
    ∃ start ending, text = start ++ '.' :: ending ∧
      start.splitOn '.' = first ∧ ending.splitOn '.' = second := by
  have firstPlain : ∀ token ∈ first, '.' ∉ token :=
    fun token member => plain token (List.mem_append_left _ member)
  have secondPlain : ∀ token ∈ second, '.' ∉ token :=
    fun token member => plain token (List.mem_append_right _ member)
  have firstSplit := List.splitOn_intercalate '.' firstPlain notEmpty
  have secondSplit := List.splitOn_intercalate '.' secondPlain rests
  refine ⟨_, _, ?_, firstSplit, secondSplit⟩
  apply splitOn_injective
  rw [split, List.splitOn_append_cons_self, firstSplit, secondSplit]

theorem plain_of_isPattern {pattern : List (List Char)}
    (isPattern : IsPattern one rest IsToken pattern) :
    ∀ token ∈ pattern, '.' ∉ token ∧ token ≠ [] := by
  induction pattern with
  | nil => exact fun _ absent => absurd absent List.not_mem_nil
  | cons first pattern ih =>
    intro token member
    rcases List.mem_cons.1 member with rfl | later
    · rcases isPattern.1 with isToken | rfl | ⟨rfl, -⟩
      · exact ⟨isToken.2.1, isToken.1⟩
      · decide
      · decide
    · exact ih isPattern.2 token later

theorem exists_isToken (avoided : List Char) : ∃ token, IsToken token ∧ token ≠ avoided := by
  by_cases same : avoided = ['a']
  · refine ⟨['b'], by unfold IsToken; decide, ?_⟩
    rw [same]
    decide
  · exact ⟨['a'], by unfold IsToken; decide, Ne.symm same⟩

theorem tokens_injective {first second : String}
    (same : tokens first = tokens second) : first = second :=
  String.toList_injective (splitOn_injective same)

theorem includesPattern_iff {grant pattern : String} (isPattern : IsSubjectPattern pattern) :
    IncludesPattern grant pattern ↔ covers one rest (tokens grant) (tokens pattern) = true := by
  constructor
  · intro includes
    apply covers_of_includes exists_isToken isPattern
    intro subject isConcrete matched
    have notEmpty : subject ≠ [] := by
      rintro rfl
      cases split : tokens pattern with
      | nil => exact List.splitOn_ne_nil '.' _ split
      | cons token others =>
        rw [split] at matched
        cases matched
    have split : tokens (String.ofList (['.'].intercalate subject)) =
        subject := by
      unfold tokens
      rw [String.toList_ofList]
      exact List.splitOn_intercalate '.'
        (fun token member => (isConcrete token member).2.1) notEmpty
    have granted := includes (String.ofList (['.'].intercalate subject))
    unfold IsConcrete natsMatches at granted
    rw [split] at granted
    exact granted isConcrete matched
  · intro covered subject _ matched
    exact isMatch_of_covers covered matched

/-! ## Grants one by one -/

theorem covers_append {common wider pattern : List (List Char)}
    (more : wider ≠ []) (follows : pattern ≠ []) :
    covers one rest (common ++ wider) (common ++ pattern) = true ↔
      covers one rest wider pattern = true := by
  induction common with
  | nil => exact Iff.rfl
  | cons token common ih =>
    rw [List.cons_append, List.cons_append, covers_cons, ih]
    have notLast : common ++ wider ≠ [] := List.append_ne_nil_of_right_ne_nil common more
    have notEnd : common ++ pattern ≠ [] := List.append_ne_nil_of_right_ne_nil common follows
    constructor
    · rintro (⟨-, empty⟩ | ⟨-, -, covered⟩)
      · exact absurd empty notLast
      · exact covered
    · intro covered
      exact .inr ⟨fun ends => notEnd ends.2, .inr rfl, covered⟩

theorem length_le_of_covers {wider pattern : List (List Char)}
    (covered : covers one rest wider pattern = true) :
    wider.length ≤ pattern.length := by
  induction wider generalizing pattern with
  | nil => exact Nat.zero_le _
  | cons token wider ih =>
    cases pattern with
    | nil => cases covered
    | cons part pattern =>
      rw [List.length_cons, List.length_cons]
      rcases covers_cons.1 covered with ⟨-, rfl⟩ | ⟨-, -, covered⟩
      · exact Nat.succ_le_succ (Nat.zero_le _)
      · exact Nat.succ_le_succ (ih covered)

theorem covers_self {pattern : List (List Char)} (isPattern : IsPattern one rest IsToken pattern) :
    covers one rest pattern pattern = true := by
  induction pattern with
  | nil => rfl
  | cons token pattern ih =>
    rw [covers_cons]
    by_cases last : token = rest ∧ pattern = []
    · exact .inl last
    · exact .inr ⟨last, .inr rfl, ih isPattern.2⟩

section Grants

variable {grant pattern : String} {start : List Char} {last : Char}

theorem tokens_of_ends (ends : grant.toList = start ++ ['.', last]) (isPlain : last ≠ '.') :
    tokens grant = start.splitOn '.' ++ [[last]] := by
  have single : [last].splitOn '.' = [[last]] := by
    apply List.splitOn_eq_singleton
    rw [List.mem_singleton]
    exact isPlain.symm
  unfold tokens
  rw [ends, List.splitOn_append_cons_self, single]

theorem ne_one_of_ends (ends : grant.toList = start ++ ['.', last]) :
    grant ≠ "*" := by
  rintro rfl
  have lengths : 1 = start.length + 2 := (congrArg List.length ends).trans List.length_append
  omega

theorem toList_beginning (ends : grant.toList = start ++ ['.', last]) :
    (beginning grant).toList = start ++ ['.'] := by
  have split : start ++ ['.', last] = (start ++ ['.']) ++ [last] := by
    rw [List.append_assoc]
    rfl
  unfold beginning
  rw [String.toList_ofList, ends, split, List.dropLast_concat]

theorem startsWith_beginning (ends : grant.toList = start ++ ['.', last]) :
    PythonStr.startsWith pattern (beginning grant) = true ↔
      ∃ ending, pattern.toList = start ++ '.' :: ending := by
  unfold PythonStr.startsWith
  rw [toList_beginning ends, List.isPrefixOf_iff_prefix]
  constructor
  · rintro ⟨ending, same⟩
    refine ⟨ending, ?_⟩
    rw [← same, List.append_assoc]
    rfl
  · rintro ⟨ending, same⟩
    refine ⟨ending, ?_⟩
    rw [same, List.append_assoc]
    rfl

theorem drop_beginning (ends : grant.toList = start ++ ['.', last])
    {ending : List Char} (follows : pattern.toList = start ++ '.' :: ending) :
    pattern.toList.drop (beginning grant).toList.length = ending := by
  have split : start ++ '.' :: ending = (start ++ ['.']) ++ ending := by
    rw [List.append_assoc]
    rfl
  rw [toList_beginning ends, follows, split, List.drop_left]

theorem endsWith_iff (last : Char) : endsWith grant (String.ofList ['.', last]) = true ↔
      ∃ start, grant.toList = start ++ ['.', last] := by
  unfold endsWith
  rw [String.toList_ofList, List.isSuffixOf_iff_suffix]
  constructor
  · rintro ⟨start, same⟩
    exact ⟨start, same.symm⟩
  · rintro ⟨start, same⟩
    exact ⟨start, same.symm⟩

/-- The check of one grant: equal texts, `>`, or a text that goes on where the
wildcard of the grant is. -/
theorem grantCovers_cases : grantCovers pattern grant = true ↔ grant = pattern ∨ grant = ">" ∨
      (∃ start ending, grant.toList = start ++ ['.', '>'] ∧
        pattern.toList = start ++ '.' :: ending) ∨
      ∃ start ending, grant.toList = start ++ ['.', '*'] ∧
        pattern.toList = start ++ '.' :: ending ∧ '.' ∉ ending := by
  unfold grantCovers
  rw [Bool.or_eq_true, Bool.or_eq_true, Bool.or_eq_true, decide_eq_true_eq,
    decide_eq_true_eq, or_assoc, or_assoc]
  refine or_congr Iff.rfl (or_congr Iff.rfl (or_congr ?_ ?_))
  · rw [Bool.and_eq_true]
    constructor
    · rintro ⟨ends, starts⟩
      obtain ⟨start, isGrant⟩ := (endsWith_iff '>').1 ends
      obtain ⟨ending, isPattern⟩ := (startsWith_beginning isGrant).1 starts
      exact ⟨start, ending, isGrant, isPattern⟩
    · rintro ⟨start, ending, isGrant, isPattern⟩
      exact ⟨(endsWith_iff '>').2 ⟨start, isGrant⟩,
        (startsWith_beginning isGrant).2 ⟨ending, isPattern⟩⟩
  · rw [Bool.and_eq_true, Bool.and_eq_true, Bool.not_eq_true',
      ← Bool.not_eq_true, List.contains_iff_mem]
    constructor
    · rintro ⟨⟨ends, starts⟩, single⟩
      obtain ⟨start, isGrant⟩ := (endsWith_iff '*').1 ends
      obtain ⟨ending, isPattern⟩ := (startsWith_beginning isGrant).1 starts
      rw [drop_beginning isGrant isPattern] at single
      exact ⟨start, ending, isGrant, isPattern, single⟩
    · rintro ⟨start, ending, isGrant, isPattern, single⟩
      rw [drop_beginning isGrant isPattern]
      exact ⟨⟨(endsWith_iff '*').2 ⟨start, isGrant⟩,
        (startsWith_beginning isGrant).2 ⟨ending, isPattern⟩⟩, single⟩

/-- A grant that the check accepts covers the pattern, if it does not overlook
that the pattern goes on. -/
theorem covers_of_grantCovers (isPattern : IsSubjectPattern pattern)
    (accepted : grantCovers pattern grant = true) :
    Overlooks grant pattern ∨ Spelled grant pattern ∧
      covers one rest (tokens grant) (tokens pattern) = true := by
  rcases grantCovers_cases.1 accepted with rfl | rfl |
    ⟨start, ending, isGrant, follows⟩ | ⟨start, ending, isGrant, follows, single⟩
  · exact .inr ⟨⟨List.dropLast_prefix _, id⟩, covers_self isPattern⟩
  · right
    have split : tokens ">" = [rest] := by decide
    rw [Spelled, split]
    refine ⟨⟨List.nil_prefix, ?_⟩, ?_⟩
    · intro isOne
      exact absurd isOne (by decide)
    · cases parts : tokens pattern with
      | nil => exact absurd parts (List.splitOn_ne_nil '.' _)
      | cons token others => exact covers_cons.2 (.inl ⟨rfl, rfl⟩)
  · right
    have grantTokens := tokens_of_ends isGrant (by decide)
    have patternTokens : tokens pattern =
        start.splitOn '.' ++ ending.splitOn '.' := by
      unfold tokens
      rw [follows, List.splitOn_append_cons_self]
    have notEmpty : ending.splitOn '.' ≠ [] := List.splitOn_ne_nil '.' _
    rw [Spelled, grantTokens, patternTokens, List.dropLast_concat]
    refine ⟨⟨List.prefix_append _ _, ?_⟩, ?_⟩
    · intro isOne
      exact absurd isOne (ne_one_of_ends isGrant)
    · rw [covers_append (List.cons_ne_nil _ _) notEmpty]
      cases parts : ending.splitOn '.' with
      | nil => exact absurd parts notEmpty
      | cons token others => exact covers_cons.2 (.inl ⟨rfl, rfl⟩)
  · have grantTokens := tokens_of_ends isGrant (by decide)
    have endingSplit := List.splitOn_eq_singleton single
    have patternTokens : tokens pattern = start.splitOn '.' ++ [ending] := by
      unfold tokens
      rw [follows, List.splitOn_append_cons_self, endingSplit]
    by_cases goesOn : ending = rest
    · left
      refine ⟨String.ofList start, ?_, ?_⟩
      · apply String.toList_injective
        rw [String.toList_append, String.toList_ofList]
        exact isGrant
      · apply String.toList_injective
        rw [String.toList_append, String.toList_ofList, follows, goesOn]
        rfl
    · right
      rw [Spelled, grantTokens, patternTokens, List.dropLast_concat]
      refine ⟨⟨List.prefix_append _ _, ?_⟩, ?_⟩
      · intro isOne
        exact absurd isOne (ne_one_of_ends isGrant)
      · rw [covers_append (List.cons_ne_nil _ _) (List.cons_ne_nil _ _), covers_cons]
        exact .inr ⟨fun ends => goesOn ends.1, .inl rfl, rfl⟩

theorem exists_ends {parts : List (List Char)} {token : List Char}
    (split : tokens grant = parts ++ [token]) (notEmpty : parts ≠ [])
    (plain : ∀ part ∈ parts, '.' ∉ part) (tokenPlain : '.' ∉ token) :
    ∃ start, grant.toList = start ++ '.' :: token ∧ start.splitOn '.' = parts := by
  obtain ⟨start, ending, isGrant, startSplit, endingSplit⟩ :=
    exists_append_of_splitOn split notEmpty (List.cons_ne_nil token []) (List.forall_mem_append.2
        ⟨plain, List.forall_mem_singleton.2 tokenPlain⟩)
  have isToken : ending = token := by
    apply splitOn_injective
    rw [endingSplit, List.splitOn_eq_singleton tokenPlain]
  rw [isToken] at isGrant
  exact ⟨start, isGrant, startSplit⟩

theorem grantCovers_of_spelled (isPattern : IsSubjectPattern pattern)
    (spelled : Spelled grant pattern)
    (covered : covers one rest (tokens grant) (tokens pattern) = true) :
    grantCovers pattern grant = true := by
  rw [grantCovers_cases]
  obtain ⟨⟨follows, patternTokens⟩, oneIsOne⟩ := spelled
  have grantTokens := List.dropLast_append_getLast (List.splitOn_ne_nil '.' grant.toList)
  set parts := (tokens grant).dropLast
  set token := (tokens grant).getLast (List.splitOn_ne_nil '.' grant.toList) with isToken
  have split : tokens grant = parts ++ [token] := grantTokens.symm
  have plain : ∀ part ∈ parts ++ follows, '.' ∉ part := by
    rw [patternTokens]
    exact fun part member => (plain_of_isPattern isPattern part member).1
  have partsPlain : ∀ part ∈ parts, '.' ∉ part :=
    fun part member => plain part (List.mem_append_left _ member)
  cases follows with
  | nil =>
    have shorter := length_le_of_covers covered
    rw [split, ← patternTokens, List.append_nil, List.length_append] at shorter
    exact absurd shorter (Nat.not_succ_le_self _)
  | cons part follows =>
    rw [split, ← patternTokens, covers_append (List.cons_ne_nil _ _)
      (List.cons_ne_nil _ _), covers_cons] at covered
    have beforeLast (notEmpty : parts ≠ []) (tokenPlain : '.' ∉ token) :
        ∃ start ending, grant.toList = start ++ '.' :: token ∧
          pattern.toList = start ++ '.' :: ending ∧ ending.splitOn '.' = part :: follows := by
      obtain ⟨start, isGrant, startSplit⟩ :=
        exists_ends split notEmpty partsPlain tokenPlain
      obtain ⟨other, ending, isPattern, otherSplit, endingSplit⟩ :=
        exists_append_of_splitOn patternTokens.symm notEmpty (List.cons_ne_nil part follows) plain
      rw [splitOn_injective (otherSplit.trans startSplit.symm)] at isPattern
      exact ⟨start, ending, isGrant, isPattern, endingSplit⟩
    have alone {text : String} (isText : tokens text = [token])
        (empty : parts = []) : grant = text := by
      apply tokens_injective
      rw [split, empty, isText]
      rfl
    rcases covered with ⟨isRest, -⟩ | ⟨notRest, same, covered⟩
    · rw [isRest] at alone beforeLast
      by_cases empty : parts = []
      · exact .inr (.inl (alone (by decide) empty))
      · obtain ⟨start, ending, isGrant, isPattern, -⟩ := beforeLast empty (by decide)
        exact .inr (.inr (.inl ⟨start, ending, isGrant, isPattern⟩))
    · have noMore : follows = [] := by
        cases follows with
        | nil => rfl
        | cons other follows => cases covered
      subst noMore
      rcases same with isOne | same
      · rw [isOne] at alone beforeLast
        by_cases empty : parts = []
        · have isGrant := @alone "*" (by decide) empty
          exact .inl (isGrant.trans (oneIsOne isGrant).symm)
        · obtain ⟨start, ending, isGrant, isPattern, endingSplit⟩ := beforeLast empty (by decide)
          have partPlain : '.' ∉ part := plain part (List.mem_append_right _ List.mem_cons_self)
          have isPart : ending = part := by
            apply splitOn_injective
            rw [endingSplit, List.splitOn_eq_singleton partPlain]
          exact .inr (.inr (.inr ⟨start, ending, isGrant, isPattern, isPart ▸ partPlain⟩))
      · left
        apply tokens_injective
        rw [split, ← patternTokens, same]

end Grants

/-! ## The gate -/

/-- If a required pattern is covered, every concrete subject of it is matched
by a grant, or a grant overlooks how the pattern ends; and a grant that matches
all of them and is spelled like the pattern before its last token is
enough. -/
theorem subjectCovered_sound_and_complete (pattern : String)
    (grants : List String) (isPattern : IsSubjectPattern pattern) :
    (subjectCovered pattern grants = true → (∃ grant ∈ grants, Overlooks grant pattern) ∨
        ∀ subject, IsConcrete subject → natsMatches pattern subject →
          ∃ grant ∈ grants, natsMatches grant subject) ∧
      ((∃ grant ∈ grants, Spelled grant pattern ∧ IncludesPattern grant pattern) →
          subjectCovered pattern grants = true) := by
  unfold subjectCovered
  rw [List.any_eq_true]
  constructor
  · rintro ⟨grant, member, accepted⟩
    rcases covers_of_grantCovers isPattern accepted with
      overlooks | ⟨-, covered⟩
    · exact .inl ⟨grant, member, overlooks⟩
    · right
      intro subject isConcrete matched
      have includes := (includesPattern_iff isPattern).2 covered
      exact ⟨grant, member, includes subject isConcrete matched⟩
  · rintro ⟨grant, member, spelled, includes⟩
    exact ⟨grant, member, grantCovers_of_spelled isPattern spelled
      ((includesPattern_iff isPattern).1 includes)⟩

section Example

theorem isSubjectPattern_ab : IsSubjectPattern "a.b.c" := by
  have isA : IsToken ['a'] := by unfold IsToken; decide
  have isB : IsToken ['b'] := by unfold IsToken; decide
  have isC : IsToken ['c'] := by unfold IsToken; decide
  have split : tokens "a.b.c" = [['a'], ['b'], ['c']] := by decide
  unfold IsSubjectPattern
  rw [split]
  exact ⟨.inl isA, .inl isB, .inl isC, trivial⟩

/-- A wildcard in the middle of a grant is compared as a text. -/
theorem exists_included_not_covered :
    ∃ pattern grant, IsSubjectPattern pattern ∧ IncludesPattern grant pattern ∧
      subjectCovered pattern [grant] = false := by
  have grantSplit : tokens "a.*.c" = [['a'], one, ['c']] := by decide
  have split : tokens "a.b.c" = [['a'], ['b'], ['c']] := by decide
  have includes : IncludesPattern "a.*.c" "a.b.c" := by
    rw [includesPattern_iff isSubjectPattern_ab, grantSplit, split]
    decide
  exact ⟨"a.b.c", "a.*.c", isSubjectPattern_ab, includes, by decide⟩

theorem exists_grant_natsMatches : ∃ grant ∈ ["a.b.>"], natsMatches grant "a.b.c" := by
  have isConcrete : IsConcrete "a.b.c" := by
    have split : tokens "a.b.c" = [['a'], ['b'], ['c']] := by decide
    unfold IsConcrete IsToken
    rw [split]
    decide
  have sound := (subjectCovered_sound_and_complete "a.b.c" ["a.b.>"]
    isSubjectPattern_ab).1 (by decide)
  rcases sound with ⟨grant, member, start, ends, goesOn⟩ | sound
  · have last := congrArg (fun text => text.toList.getLast?) goesOn
    have isRest : (".>" : String).toList.getLast? = some '>' := by decide
    have isC : ("a.b.c" : String).toList.getLast? = some 'c' := by decide
    simp only [String.toList_append, List.getLast?_append, isRest, isC,
      Option.some_or, Option.some.injEq] at last
    exact absurd last (by decide)
  · exact sound "a.b.c" isConcrete (by unfold natsMatches; decide)

end Example

end GrantGate

end RoxabiFactory
