import RoxabiFactory.AclRenderer

/-!
# Access rules that are read back

The default permissions are read up to the first closing brace, which closes
the deny list of `publish`.  What the text denies by default for `subscribe` is
therefore lost, whatever the matrix is.
-/

namespace RoxabiFactory

namespace AclRenderer

open RegexSearch

variable (alphanumeric : Alphanumeric)

/-- The user for an identity, with the grants that it has. -/
structure Describes (matrix : LoadedMatrix) (pubkeys : String → String)
    (item : String × Identity) (user : ParsedUser) : Prop where
  commentName : user.commentName = item.1
  nkey : user.nkey = pubkeys item.1
  allowResponses : user.allowResponses = item.2.allowResponses
  allowed : ∀ grant ∈ effectiveGrants matrix, grant.name = item.1 →
    user.publishAllow = grant.publish.toFinset ∧
      user.subscribeAllow = grant.subscribe.toFinset

/-- Everything is denied by default, and the users are the identities that are
not retired. -/
structure ReadsBack (matrix : LoadedMatrix) (pubkeys : String → String)
    (parsed : ParsedAuthConf) : Prop where
  defaultPublishDeny : parsed.defaultPublishDeny = [">"]
  defaultSubscribeDeny : parsed.defaultSubscribeDeny = [">"]
  users : List.Forall₂ (Describes matrix pubkeys) (matrix.identities.items.filter fun item =>
      decide (item.2.status ≠ .retired)) parsed.users

/-! ## The beginning of every text -/

/-- The text before the default permissions. -/
def preamble : String := header ++ "\n" ++ "authorization \x7b" ++ "\n" ++ "  "

/-- The default permissions up to the first closing brace. -/
def denied : String := "\n    publish:   \x7b deny: [\">\"] "

theorem toList_denied : denied.toList =
    ['\n', ' ', ' ', ' ', ' ', 'p', 'u', 'b', 'l', 'i', 's', 'h', ':', ' ', ' ',
      ' ', '\x7b', ' ', 'd', 'e', 'n', 'y', ':', ' ', '[', '"', '>', '"', ']',
      ' '] :=
  String.toList_ofList

theorem intercalate_lines (line : String) (lines : List String) :
    "\n".intercalate (header :: "authorization \x7b" :: "  default_permissions: \x7b" ::
        "    publish:   \x7b deny: [\">\"] \x7d" :: line :: lines) ++ "\n" =
      preamble ++ ("default_permissions" ++ (":" ++ (" " ++ ("\x7b" ++ (denied ++ ("\x7d" ++
          ("\n" ++ "\n".intercalate (line :: lines) ++ "\n"))))))) := by
  have opens : "  default_permissions: \x7b" =
      "  " ++ ("default_permissions" ++ (":" ++ (" " ++ "\x7b"))) := rfl
  have publish : ∀ rest : String, "\n" ++ ("    publish:   \x7b deny: [\">\"] \x7d" ++ rest) =
        denied ++ ("\x7d" ++ rest) := by
    intro rest
    rw [← String.append_assoc, ← String.append_assoc]
    exact congrArg (· ++ rest) (by decide)
  rw [String.intercalate_cons_cons, String.intercalate_cons_cons,
    String.intercalate_cons_cons, String.intercalate_cons_cons, opens,
    preamble]
  simp only [String.append_assoc]
  rw [publish]

theorem exists_render (matrix : LoadedMatrix) (pubkeys : String → String) :
    ∃ rest : String, renderAuthConf matrix pubkeys =
      preamble ++ ("default_permissions" ++ (":" ++ (" " ++ ("\x7b" ++
        (denied ++ ("\x7d" ++ rest)))))) :=
  ⟨_, intercalate_lines _ _⟩

/-- `\s*` where there is no blank. -/
theorem matchAt_spaces {pieces : Pattern Char} {text : List Char}
    {found : List (List Char) × List Char}
    (stops : ∀ symbol ∈ text.head?, PythonStr.isSpace symbol = false)
    (goesOn : pieces.matchAt text = some found) :
    Pattern.matchAt (spaces :: pieces) text = some found := by
  have accepted : ∀ symbol ∈ ([] : List Char), PythonStr.isSpace symbol = true := by
    simp
  exact Pattern.matchAt_greedy accepted stops (Nat.zero_le _) goesOn

theorem matchAt_reDp (rest : List Char) :
    reDp.matchAt ("default_permissions".toList ++ (":".toList ++
        (" ".toList ++ ("\x7b".toList ++ (denied.toList ++ ("\x7d".toList ++ rest)))))) =
      some ([denied.toList], rest) := by
  have colon : ":".toList = [':'] := String.toList_ofList
  have brace : "\x7b".toList = ['\x7b'] := String.toList_ofList
  have closing : "\x7d".toList = ['\x7d'] := String.toList_ofList
  have inside : '\x7d' ∉ denied.toList := by
    rw [toList_denied]
    decide
  rw [reDp, literal, Pattern.matchAt_word]
  apply matchAt_spaces
  · rw [colon]
    rintro _ ⟨⟩
    decide
  rw [literal, Pattern.matchAt_word]
  apply Pattern.matchAt_greedy
  · exact List.all_eq_true.mp (by decide)
  · rw [brace]
    rintro _ ⟨⟩
    decide
  · exact Nat.zero_le _
  rw [literal, Pattern.matchAt_word]
  have hits : Pattern.matchAt [literal "\x7d"] ("\x7d".toList ++ rest) = some ([], rest) :=
    Pattern.matchAt_word _
  apply Pattern.matchAt_lazy ?_ ?_ hits
  · intro symbol member
    rfl
  · intro taken symbol left whole
    apply Pattern.matchAt_word_eq_none
    rw [closing]
    intro found
    apply inside
    rw [← whole, List.singleton_prefix_cons_iff.mp found]
    simp

/-- The default permissions are read up to the end of `publish`. -/
theorem search_reDp (matrix : LoadedMatrix) (pubkeys : String → String) :
    reDp.search (renderAuthConf matrix pubkeys).toList =
      some [denied.toList] := by
  obtain ⟨rest, renderEq⟩ := exists_render matrix pubkeys
  have isAbsent : Pattern.absent "default_permissions".toList preamble.toList
      "default_permissions".toList = true := by
    unfold preamble header
    repeat rw [String.toList_append]
    repeat rw [String.toList_ofList]
    decide +kernel
  rw [renderEq]
  simp only [String.toList_append]
  have here := Pattern.search_of_matchAt (matchAt_reDp rest.toList)
  rw [← here]
  exact Pattern.search_append (Nat.le_refl _) (Pattern.not_prefix_of_absent isAbsent)

/-! ## What is read -/

theorem findAll_denied : (reDeny alphanumeric).findAll denied.toList =
    [["publish".toList, "\">\"".toList]] := by
  rw [toList_denied]
  rfl

/-- The deny list of `subscribe` is not among what has been read. -/
theorem defaultSubscribeDeny_render (matrix : LoadedMatrix) (pubkeys : String → String) :
    (parseAuthConf alphanumeric (renderAuthConf matrix pubkeys)).defaultSubscribeDeny = [] := by
  have listed : listFor (reDeny alphanumeric) denied.toList "subscribe" = [] := by
    rw [listFor, findAll_denied]
    decide
  unfold parseAuthConf
  rw [search_reDp]
  simp only [groupOrEmpty]
  exact listed

/-- No rendered text reads back as the grants of its matrix. -/
theorem not_readsBack_render (matrix : LoadedMatrix) (pubkeys : String → String) :
    ¬ ReadsBack matrix pubkeys (parseAuthConf alphanumeric (renderAuthConf matrix pubkeys)) := by
  intro readsBack
  have denied := readsBack.defaultSubscribeDeny
  rw [defaultSubscribeDeny_render] at denied
  cases denied

/-! ## The effective grants -/

section Example

/-- None of the characters that the text uses itself. -/
def IsPlain (text : String) : Prop :=
  ∀ character ∈ text.toList, PythonStr.isSpace character = false ∧
    character ∉ ['"', '\'', ',', '[', ']', '\x7b', '\x7d', '#']

instance (text : String) : Decidable (IsPlain text) := List.decidableBAll _ text.toList

/-- The hub, which may publish one subject. -/
def hubIdentities : OrderedDict String Identity :=
  AList.singleton "hub" {
    status := .active
    publish := ["factory.jobs.claude"]
    subscribe := []
    allowResponses := false }

theorem hubIdentities_groups : ∀ item ∈ hubIdentities.items, ∀ group ∈ item.2.groups,
      ((∅ : OrderedDict String GroupDefinition).lookup group).isSome := by
  decide

def hubMatrix : LoadedMatrix where
  identities := hubIdentities
  requestReplyFlows := []
  flows_nodup := List.nodup_nil
  groups_known := hubIdentities_groups

/-- A matrix of plain names and subjects. -/
theorem exists_default_lost : (∀ text ∈ ["hub", "factory.jobs.claude", "UHUB"], IsPlain text) ∧
      ¬ ReadsBack hubMatrix (fun _ => "UHUB") (parseAuthConf (fun _ => false)
          (renderAuthConf hubMatrix fun _ => "UHUB")) := by
  refine ⟨by decide, ?_⟩
  intro readsBack
  have denied := readsBack.defaultSubscribeDeny
  rw [defaultSubscribeDeny_render] at denied
  cases denied

end Example

end AclRenderer

end RoxabiFactory
