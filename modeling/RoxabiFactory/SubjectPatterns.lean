import Mathlib.Data.List.Infix

/-!
# Patterns of subjects

A subject is a list of tokens.  In a pattern, the token `one` stands for any
token, and the token `rest` in the last place for one token or more.  Whether
a pattern matches all that another one matches is decided token by token, if
there are enough tokens to tell them apart.
-/

namespace RoxabiFactory

namespace SubjectPattern

variable {Token : Type*} [DecidableEq Token]

section Definitions

variable (one rest : Token)

/-- The subject is matched by the pattern. -/
def isMatch : List Token → List Token → Bool
  | [], [] => true
  | [], _ :: _ => false
  | _ :: _, [] => false
  | token :: pattern, part :: subject =>
    decide (token = rest ∧ pattern = []) ||
      (decide (token = one ∨ token = part) && isMatch pattern subject)

/-- The first pattern matches all that the second one matches. -/
def covers : List Token → List Token → Bool
  | [], [] => true
  | [], _ :: _ => false
  | _ :: _, [] => false
  | token :: wider, part :: pattern =>
    decide (token = rest ∧ wider = []) || (decide (¬ (part = rest ∧ pattern = [])) &&
        decide (token = one ∨ token = part) && covers wider pattern)

/-- Every token is concrete or `one`, but the last, which may be `rest`. -/
def IsPattern (concrete : Token → Prop) : List Token → Prop
  | [] => True
  | token :: pattern =>
    (concrete token ∨ token = one ∨ token = rest ∧ pattern = []) ∧ IsPattern concrete pattern

end Definitions

variable {one rest : Token}

theorem isMatch_cons {token part : Token} {pattern subject : List Token} :
    isMatch one rest (token :: pattern) (part :: subject) = true ↔ (token = rest ∧ pattern = []) ∨
        (token = one ∨ token = part) ∧ isMatch one rest pattern subject = true := by
  rw [isMatch, Bool.or_eq_true, Bool.and_eq_true, decide_eq_true_eq,
    decide_eq_true_eq]

theorem covers_cons {token part : Token} {wider pattern : List Token} :
    covers one rest (token :: wider) (part :: pattern) = true ↔ (token = rest ∧ wider = []) ∨
        ¬ (part = rest ∧ pattern = []) ∧ (token = one ∨ token = part) ∧
          covers one rest wider pattern = true := by
  rw [covers, Bool.or_eq_true, Bool.and_eq_true, Bool.and_eq_true,
    decide_eq_true_eq, decide_eq_true_eq, decide_eq_true_eq, and_assoc]

theorem exists_cons_of_isMatch {token : Token} {pattern subject : List Token}
    (matched : isMatch one rest (token :: pattern) subject = true) :
    ∃ part tail, subject = part :: tail := by
  cases subject with
  | nil => cases matched
  | cons part tail => exact ⟨part, tail, rfl⟩

theorem isMatch_of_covers {wider pattern subject : List Token}
    (covered : covers one rest wider pattern = true)
    (matched : isMatch one rest pattern subject = true) :
    isMatch one rest wider subject = true := by
  induction wider generalizing pattern subject with
  | nil =>
    cases pattern with
    | nil => exact matched
    | cons part pattern => cases covered
  | cons token wider ih =>
    cases pattern with
    | nil => cases covered
    | cons part pattern =>
      obtain ⟨head, tail, rfl⟩ := exists_cons_of_isMatch matched
      rw [isMatch_cons] at matched ⊢
      rcases covers_cons.1 covered with last | ⟨notRest, same, covered⟩
      · exact .inl last
      · right
        obtain ⟨isPart, matched⟩ := matched.resolve_left notRest
        refine ⟨?_, ih covered matched⟩
        rcases same with isOne | rfl
        · exact .inl isOne
        · exact isPart

section Fresh

variable {concrete : Token → Prop}

theorem exists_isMatch (fresh : ∀ avoided : Token, ∃ token, concrete token ∧ token ≠ avoided)
    {pattern : List Token} (isPattern : IsPattern one rest concrete pattern) :
    ∃ subject, (∀ token ∈ subject, concrete token) ∧ isMatch one rest pattern subject = true := by
  induction pattern with
  | nil => exact ⟨[], fun _ absent => absurd absent List.not_mem_nil, rfl⟩
  | cons token pattern ih =>
    obtain ⟨kind, isPattern⟩ := isPattern
    obtain ⟨subject, isConcrete, matched⟩ := ih isPattern
    obtain ⟨part, partConcrete, isPart⟩ : ∃ part, concrete part ∧
        isMatch one rest (token :: pattern) (part :: subject) = true := by
      rcases kind with isToken | isOne | isRest
      · exact ⟨token, isToken, isMatch_cons.2 (.inr ⟨.inr rfl, matched⟩)⟩
      · obtain ⟨part, partConcrete, -⟩ := fresh token
        exact ⟨part, partConcrete, isMatch_cons.2 (.inr ⟨.inl isOne, matched⟩)⟩
      · obtain ⟨part, partConcrete, -⟩ := fresh token
        exact ⟨part, partConcrete, isMatch_cons.2 (.inl isRest)⟩
    refine ⟨part :: subject, ?_, isPart⟩
    intro other member
    rcases List.mem_cons.1 member with rfl | inSubject
    · exact partConcrete
    · exact isConcrete other inSubject

/-- The first pattern matches every concrete subject that the second one
matches. -/
def Includes (one rest : Token) (concrete : Token → Prop) (wider pattern : List Token) : Prop :=
  ∀ subject, (∀ token ∈ subject, concrete token) → isMatch one rest pattern subject = true →
      isMatch one rest wider subject = true

theorem covers_of_includes (fresh : ∀ avoided : Token, ∃ token, concrete token ∧ token ≠ avoided)
    {wider pattern : List Token}
    (isPattern : IsPattern one rest concrete pattern)
    (includes : Includes one rest concrete wider pattern) :
    covers one rest wider pattern = true := by
  induction pattern generalizing wider with
  | nil =>
    have empty := includes [] (fun _ absent => absurd absent List.not_mem_nil)
      rfl
    cases wider with
    | nil => rfl
    | cons token wider => cases empty
  | cons part pattern ih =>
    obtain ⟨subject, isConcrete, matched⟩ :=
      exists_isMatch fresh isPattern
    obtain ⟨kind, isPattern⟩ := isPattern
    cases wider with
    | nil =>
      obtain ⟨head, tail, rfl⟩ := exists_cons_of_isMatch matched
      cases includes _ isConcrete matched
    | cons token wider =>
      rw [covers_cons]
      by_cases last : token = rest ∧ wider = []
      · exact .inl last
      · right
        have goesOn {head : Token} {tail : List Token} (headConcrete : concrete head)
            (tailConcrete : ∀ other ∈ tail, concrete other)
            (isTail : isMatch one rest (part :: pattern) (head :: tail) = true) :
            (token = one ∨ token = head) ∧ isMatch one rest wider tail = true := by
          have isWider := includes (head :: tail)
            (List.forall_mem_cons.2 ⟨headConcrete, tailConcrete⟩) isTail
          exact (isMatch_cons.1 isWider).resolve_left last
        by_cases isRest : part = rest ∧ pattern = []
        · -- One token more, or one token less, is matched as well.
          obtain ⟨head, headConcrete, -⟩ := fresh token
          have alone := @goesOn _ [] headConcrete (fun _ absent => absurd absent List.not_mem_nil)
            (isMatch_cons.2 (.inl isRest))
          have followed := @goesOn _ [head] headConcrete
            (fun other member => List.mem_singleton.1 member ▸ headConcrete)
            (isMatch_cons.2 (.inl isRest))
          cases wider with
          | nil => cases followed.2
          | cons other wider => cases alone.2
        · obtain ⟨head, headConcrete, isHead, tells⟩ :
              ∃ head, concrete head ∧ (part = one ∨ part = head) ∧
                (token = one ∨ token = head → token = one ∨ token = part) := by
            rcases kind with isPart | isOne | ends
            · exact ⟨part, isPart, .inr rfl, id⟩
            · obtain ⟨head, headConcrete, different⟩ := fresh token
              refine ⟨head, headConcrete, .inl isOne, ?_⟩
              rintro (tokenOne | same)
              · exact .inl tokenOne
              · exact absurd same.symm different
            · exact absurd ends isRest
          obtain ⟨subject, subjectConcrete, subjectMatched⟩ :=
            exists_isMatch fresh isPattern
          refine ⟨isRest, ?_, ih isPattern ?_⟩
          · exact tells (goesOn headConcrete subjectConcrete
              (isMatch_cons.2 (.inr ⟨isHead, subjectMatched⟩))).1
          · intro tail tailConcrete tailMatched
            exact (goesOn headConcrete tailConcrete (isMatch_cons.2 (.inr ⟨isHead, tailMatched⟩))).2

end Fresh

end SubjectPattern

end RoxabiFactory
