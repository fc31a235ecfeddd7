import RoxabiFactory.CommandRouter
import RoxabiFactory.MessageDebouncer

/-!
# Workspace commands

`/folder`, `/cd` and `/workspace` switch the working directory and submit the
text after their argument as the next prompt.  The argument is a word of the
text, but the prompt is cut out by adding lengths, as if one blank stood in
front of the argument.
-/

namespace RoxabiFactory

open Wire PythonStr

namespace WorkspaceCommands

/-- `text[start:].lstrip()`. -/
def restFrom (text : String) (start : ℕ) : String :=
  String.ofList ((text.toList.drop start).dropWhile isSpace)

/-- What the handlers know of the file system and their configuration. -/
structure Workspaces (Path : Type*) where
  /-- `Path(text).expanduser().resolve()`. -/
  expanded : String → Path
  resolve : Path → Path
  isDir : Path → Bool
  isRelativeTo : Path → Path → Bool
  /-- How a path is printed. -/
  print : Path → String
  baseDir : Option Path
  workspaces : List (String × Path)

inductive Effect (Path : Type*)
  | switchWorkspace (cwd : Path)
  | submit (msg : InboundMessage)

def Effect.text {Path : Type*} : Effect Path → Option String
  | .switchWorkspace _ => none
  | .submit msg => some msg.text

/-- What a handler answers, and what it has done to the pool. -/
structure Handled (Path : Type*) where
  answer : Except PyException Response
  effects : List (Effect Path) := []

def requireAdmin (msg : InboundMessage) : Option Response :=
  if msg.isAdmin then none else some ⟨"This command is admin-only."⟩

section Handlers

variable {Path : Type*} (files : Workspaces Path)

/-- `_constrain_to_base`. -/
def constrainToBase (path : Path) : Option Path :=
  match files.baseDir with
  | none => some path
  | some baseDir =>
    if files.isRelativeTo (files.resolve path) (files.resolve baseDir) then
      some (files.resolve path)
    else none

/-- The message of the prompt, if there is one. -/
def followup (msg : InboundMessage) (remaining textRaw : String) : List (Effect Path) :=
  if remaining = "" then []
  else [.submit { msg with text := remaining, textRaw := textRaw }]

def cmdFolder (hasPool : Bool) (msg : InboundMessage) (args : List String) : Handled Path :=
  match requireAdmin msg, args with
  | some denied, _ => { answer := .ok denied }
  | none, [] => { answer := .ok ⟨"Usage: /folder <path>"⟩ }
  | none, arg :: _ =>
    if files.isDir (files.expanded arg) then
      match constrainToBase files (files.expanded arg) with
      | none => { answer := .ok ⟨"Path escapes base directory: " ++ arg⟩ }
      | some constrained =>
        if hasPool then
          match words msg.text with
          | [] =>
            { answer := .error (.other "IndexError")
              effects := [.switchWorkspace constrained] }
          | commandName :: _ =>
            let remaining := restFrom msg.text (commandName.length + arg.length + 1)
            { answer := .ok ⟨"cwd → " ++ files.print constrained⟩
              effects := .switchWorkspace constrained :: followup msg remaining remaining }
        else { answer := .ok ⟨"cwd: " ++ files.print constrained⟩ }
    else { answer := .ok ⟨"Not a directory: " ++ arg⟩ }

/-- `sorted(workspaces.items())`. -/
def sortedItems : List (String × Path) :=
  files.workspaces.mergeSort fun first second => decide (first.1 ≤ second.1)

/-- The workspaces in their order, or that there are none. -/
def listing : Response :=
  if files.workspaces.isEmpty then ⟨"No workspaces configured."⟩
  else ⟨"Workspaces:\n" ++ "\n".intercalate ((sortedItems files).map fun item =>
    "  " ++ item.1 ++ " → " ++ files.print item.2)⟩

def available : String :=
  if files.workspaces.isEmpty then "none"
  else ", ".intercalate ((sortedItems files).map Prod.fst)

def cmdWorkspace (hasPool : Bool) (msg : InboundMessage) (args : List String) : Handled Path :=
  match requireAdmin msg, args with
  | some denied, _ => { answer := .ok denied }
  | none, [] => { answer := .ok (listing files) }
  | none, key :: _ =>
    if key ∈ ["ls", "list"] then { answer := .ok (listing files) }
    else
      match files.workspaces.lookup key with
      | none =>
        { answer := .ok ⟨"Unknown workspace: " ++ key ++ ". Available: " ++ available files⟩ }
      | some cwd =>
        match constrainToBase files cwd with
        | none =>
          { answer := .ok ⟨"Workspace path escapes base directory: " ++ key ++
              " → " ++ files.print cwd⟩ }
        | some constrained =>
          if hasPool then
            let start := ("/workspace " ++ key).length
            let remaining := restFrom msg.text start
            { answer := .ok ⟨"Workspace: " ++ key⟩
              effects := .switchWorkspace constrained :: followup msg remaining
                  (if msg.textRaw = "" then remaining
                  else restFrom msg.textRaw start) }
          else { answer := .ok ⟨"Workspace: " ++ key⟩ }

/-- The handler of a command with the words after it, as `dispatch` calls
it. -/
def handle (hasPool : Bool) (msg : InboundMessage) (command : CommandContext) : Handled Path :=
  if CommandRouter.commandName command = "/workspace" then
    cmdWorkspace files hasPool msg (words command.args)
  else cmdFolder files hasPool msg (words command.args)

/-- The argument leads to a directory that is allowed. -/
def Accepts (command : CommandContext) (arg : String) : Prop :=
  if CommandRouter.commandName command = "/workspace" then
    arg ∉ ["ls", "list"] ∧ ((files.workspaces.lookup arg).bind (constrainToBase files)).isSome
  else files.isDir (files.expanded arg) = true ∧ (constrainToBase files (files.expanded arg)).isSome

end Handlers

/-! ## The text of a command -/

def isVisible (character : Char) : Bool := !isSpace character

/-- What follows the command, from the blanks on. -/
def afterCommand (text : String) : List Char := text.toList.dropWhile isVisible

/-- The blanks in front of the first argument. -/
def gap (text : String) : List Char := (afterCommand text).takeWhile isSpace

/-- What follows the first argument, without blanks in front. -/
def prompt (text : String) : String :=
  String.ofList ((((afterCommand text).dropWhile isSpace).dropWhile isVisible).dropWhile isSpace)

/-- The texts that are submitted are the prompt, unless it is empty. -/
def SubmitsPrompt {Path : Type*} (msg : InboundMessage) (handled : Handled Path) : Prop :=
  handled.effects.filterMap Effect.text =
    if prompt msg.text = "" then [] else [prompt msg.text]

theorem filter_dropWhile_isSpace (text : List Char) :
    (text.dropWhile isSpace).filter isVisible = text.filter isVisible := by
  induction text with
  | nil => rfl
  | cons character text ih =>
    cases blank : isSpace character with
    | true =>
      rw [List.dropWhile_cons_of_pos blank, ih,
        List.filter_cons_of_neg (by simp [isVisible, blank])]
    | false => rw [List.dropWhile_cons_of_neg (by simp [blank])]

/-- The lengths of a command and of its argument lead to the rest if and only
if they count every blank between them. -/
theorem dropWhile_drop_eq_iff (word rest : List Char) {blanks arg : List Char}
    (present : blanks ≠ []) (nonempty : arg ≠ [])
    (visible : ∀ character ∈ arg, isVisible character = true) :
    ((word ++ (blanks ++ (arg ++ rest))).drop (word.length + arg.length + 1)).dropWhile isSpace =
      rest.dropWhile isSpace ↔ blanks.length = 1 := by
  have split : (word ++ (blanks ++ (arg ++ rest))).drop (word.length + arg.length + 1) =
        (blanks ++ arg).drop (arg.length + 1) ++ rest := by
    have start := List.length_pos_iff.mpr present
    rw [Nat.add_assoc, List.drop_length_add_append, ← List.append_assoc,
      List.drop_append_of_le_length (by rw [List.length_append]; omega)]
  rw [split]
  constructor
  · intro same
    have shown := congrArg (List.filter isVisible) same
    rw [filter_dropWhile_isSpace, filter_dropWhile_isSpace,
      List.filter_append, List.append_left_eq_self,
      List.filter_eq_nil_iff] at shown
    by_contra several
    have start := List.length_pos_iff.mpr present
    have left : (blanks ++ arg).drop (arg.length + 1) ≠ [] := by
      rw [ne_eq, List.drop_eq_nil_iff, List.length_append]
      omega
    have last := List.getLast_mem left
    rw [List.getLast_drop, List.getLast_append_of_ne_nil _ nonempty] at last
    exact shown _ last (visible _ (List.getLast_mem nonempty))
  · intro single
    obtain ⟨blank, rfl⟩ := List.length_eq_one_iff.mp single
    rw [List.singleton_append, List.drop_succ_cons, List.drop_length, List.nil_append]

theorem words_eq_cons {text : String} (nonempty : text.toList.takeWhile isVisible ≠ []) :
    ∃ others, words text = String.ofList (text.toList.takeWhile isVisible) :: others := by
  unfold words
  generalize text.toList = characters at nonempty ⊢
  have visible (character) (member : character ∈
      characters.takeWhile isVisible) : isSpace character = false := by
    simpa [isVisible] using List.mem_takeWhile_imp member
  have whole := List.takeWhile_append_dropWhile (p := isVisible) (l := characters)
  have pieces : ∃ others, characters.splitOnP isSpace =
      characters.takeWhile isVisible :: others := by
    cases rest : characters.dropWhile isVisible with
    | nil =>
      rw [rest, List.append_nil] at whole
      rw [whole] at visible ⊢
      exact ⟨[], List.splitOnP_eq_singleton visible⟩
    | cons blank later =>
      have isBlank : isSpace blank = true := by
        have first := List.head?_dropWhile_not isVisible characters
        rw [rest] at first
        simpa [isVisible] using first
      rw [rest] at whole
      have split := List.splitOnP_append_cons_of_forall_mem visible blank isBlank later
      rw [whole] at split
      exact ⟨_, split⟩
  obtain ⟨others, pieces⟩ := pieces
  rw [pieces, List.filter_cons_of_pos (by simpa using nonempty),
    List.map_cons]
  exact ⟨_, rfl⟩

theorem toList_of_words_eq_cons {text word : String} {others : List String}
    (split : words text = word :: others)
    (starts : text.toList.dropWhile isSpace = text.toList) :
    word.toList = text.toList.takeWhile isVisible ∧
      text.toList.takeWhile isVisible ≠ [] := by
  have nonempty : text.toList.takeWhile isVisible ≠ [] := by
    intro none
    cases characters : text.toList with
    | nil => simp [words, characters] at split
    | cons character later =>
      rw [characters] at none starts
      have blank : isSpace character = true := by
        by_contra visible
        rw [List.takeWhile_cons_of_pos (by simpa [isVisible] using visible)]
          at none
        cases none
      rw [List.dropWhile_cons_of_pos blank] at starts
      have shorter := (List.dropWhile_sublist (l := later) isSpace).length_le
      rw [starts, List.length_cons] at shorter
      omega
  obtain ⟨words, first⟩ := words_eq_cons nonempty
  rw [first, List.cons.injEq] at split
  rw [← split.1, String.toList_ofList]
  exact ⟨rfl, nonempty⟩

section Submitted

variable {Path : Type*} {files : Workspaces Path} {lowerCase : LowerCase}
variable {msg : InboundMessage} {command : CommandContext} {arg : String}
variable {others : List String}

theorem parse_eq_some {text : String} (parsed : CommandParser.parse lowerCase text = some command) :
    command.args.toList = (afterCommand text).dropWhile isSpace ∧
      text.toList.dropWhile isSpace = text.toList ∧
      ∃ mark rest, text.toList = mark :: rest ∧ isVisible mark = true ∧
        command.commandPrefix = String.singleton mark ∧
        command.name =
          lowerCase.lower (String.ofList (rest.takeWhile isVisible)) := by
  unfold CommandParser.parse at parsed
  split at parsed
  · next mark first rest characters =>
    rw [Option.ite_none_right_eq_some] at parsed
    obtain ⟨⟨isMark, visible⟩, parsed⟩ := parsed
    have shown : isVisible mark = true := by
      unfold CommandParser.marks at isMark
      rw [List.mem_pair] at isMark
      rcases isMark with rfl | rfl <;> decide
    have notBlank : ¬ isSpace mark = true := by
      simpa [isVisible] using shown
    rw [← Option.some.inj parsed]
    refine ⟨?_, ?_, mark, first :: rest, characters, shown, rfl, rfl⟩
    · rw [afterCommand, characters, List.dropWhile_cons_of_pos shown]
      exact String.toList_ofList
    · rw [characters, List.dropWhile_cons_of_neg notBlank]
  · cases parsed

theorem restFrom_eq_prompt_iff (parsed : CommandParser.parse lowerCase msg.text = some command)
    (args : words command.args = arg :: others) :
    restFrom msg.text ((msg.text.toList.takeWhile isVisible).length +
        arg.length + 1) = prompt msg.text ↔ (gap msg.text).length = 1 := by
  obtain ⟨argsEq, -⟩ := parse_eq_some parsed
  have argEq := toList_of_words_eq_cons args (by
    rw [argsEq]
    exact List.dropWhile_eq_self_iff.mpr (List.dropWhile_get_zero_not _ _))
  rw [argsEq] at argEq
  obtain ⟨argEq, nonempty⟩ := argEq
  have present : gap msg.text ≠ [] := by
    intro none
    have first := List.head?_dropWhile_not isVisible msg.text.toList
    unfold gap afterCommand at none
    rw [afterCommand] at nonempty
    cases after : msg.text.toList.dropWhile isVisible with
    | nil => simp [after] at nonempty
    | cons blank later =>
      rw [after] at first none
      rw [List.takeWhile_cons_of_pos (by simpa [isVisible] using first)] at none
      cases none
  have whole : msg.text.toList.takeWhile isVisible ++ (gap msg.text ++
      (((afterCommand msg.text).dropWhile isSpace).takeWhile isVisible ++
        ((afterCommand msg.text).dropWhile isSpace).dropWhile isVisible)) =
      msg.text.toList := by
    rw [List.takeWhile_append_dropWhile, gap, List.takeWhile_append_dropWhile,
      afterCommand, List.takeWhile_append_dropWhile]
  have cut := dropWhile_drop_eq_iff (msg.text.toList.takeWhile isVisible)
    (((afterCommand msg.text).dropWhile isSpace).dropWhile isVisible)
    present nonempty fun character member => List.mem_takeWhile_imp member
  rw [whole, ← argEq] at cut
  rw [← cut, restFrom, prompt, String.ofList_inj]
  rfl

theorem submitsPrompt_iff_eq {cwd : Path} {answer : Except PyException Response}
    {remaining textRaw : String} :
    SubmitsPrompt msg
        { answer := answer
          effects := .switchWorkspace cwd :: followup msg remaining textRaw } ↔
      remaining = prompt msg.text := by
  unfold SubmitsPrompt followup
  by_cases sends : remaining = ""
  · subst sends
    by_cases expected : prompt msg.text = ""
    · simp [Effect.text, List.filterMap_cons, expected]
    · simp [Effect.text, List.filterMap_cons, expected, Ne.symm expected]
  · by_cases expected : prompt msg.text = ""
    · simp [Effect.text, List.filterMap_cons, expected, sends]
    · simp [Effect.text, List.filterMap_cons, expected, sends]

theorem length_typed (keepsLength : ∀ word, lowerCase.lower word = "workspace" → word.length = 9)
    (parsed : CommandParser.parse lowerCase msg.text = some command)
    (name : CommandRouter.commandName command = "/workspace") :
    (msg.text.toList.takeWhile isVisible).length = 10 := by
  obtain ⟨-, -, mark, rest, characters, shown, markEq, nameEq⟩ := parse_eq_some parsed
  have spelled := congrArg String.toList name
  rw [CommandRouter.commandName, markEq, nameEq, String.toList_append,
    String.toList_singleton, List.singleton_append] at spelled
  have lowered : lowerCase.lower (String.ofList (rest.takeWhile isVisible)) = "workspace" :=
    String.toList_inj.mp (List.cons.inj spelled).2
  have length := keepsLength _ lowered
  rw [String.length_ofList] at length
  rw [characters, List.takeWhile_cons_of_pos shown, List.length_cons, length]

/-- The prompt of an accepted command is submitted if and only if one blank
stands in front of its argument. -/
theorem submitsPrompt_iff (keepsLength : ∀ word, lowerCase.lower word = "workspace" →
      word.length = 9)
    (parsed : CommandParser.parse lowerCase msg.text = some command)
    (isAdmin : msg.isAdmin = true)
    (args : words command.args = arg :: others)
    (accepts : Accepts files command arg) :
    SubmitsPrompt msg (handle files true msg command) ↔ (gap msg.text).length = 1 := by
  have allowed : requireAdmin msg = none := if_pos isAdmin
  have cut := restFrom_eq_prompt_iff parsed args
  unfold handle
  unfold Accepts at accepts
  by_cases name : CommandRouter.commandName command = "/workspace"
  · rw [if_pos name] at accepts ⊢
    obtain ⟨cwd, known⟩ := Option.isSome_iff_exists.mp accepts.2
    obtain ⟨place, found, constrained⟩ := Option.bind_eq_some_iff.mp known
    have start : ("/workspace " ++ arg).length =
        (msg.text.toList.takeWhile isVisible).length + arg.length + 1 := by
      rw [length_typed keepsLength parsed name, String.length_append]
      have length : "/workspace ".length = 11 := by decide
      omega
    rw [← cut, ← start]
    simp only [cmdWorkspace, allowed, args, if_neg accepts.1, found, constrained, if_true]
    exact submitsPrompt_iff_eq
  · rw [if_neg name] at accepts ⊢
    obtain ⟨cwd, constrained⟩ := Option.isSome_iff_exists.mp accepts.2
    obtain ⟨-, starts, mark, rest, characters, shown, -⟩ := parse_eq_some parsed
    have nonempty : msg.text.toList.takeWhile isVisible ≠ [] := by
      rw [characters, List.takeWhile_cons_of_pos shown]
      exact List.cons_ne_nil _ _
    obtain ⟨later, typed⟩ := words_eq_cons nonempty
    rw [← cut]
    simp only [cmdFolder, allowed, args, accepts.1, if_true, constrained,
      typed, String.length_ofList]
    exact submitsPrompt_iff_eq

end Submitted

section Example

/-- Every directory is there and allowed. -/
def anyFolder : Workspaces String where
  expanded := id
  resolve := id
  isDir _ := true
  isRelativeTo _ _ := true
  print := id
  baseDir := none
  workspaces := [("docs", "/srv/docs")]

def adminMessage (text : String) : InboundMessage :=
  { MessageDebouncer.chatMessage "1" text false with isAdmin := true }

/-- A command with an argument and a prompt. -/
def docsCommand (name raw : String) : CommandContext where
  commandPrefix := "/"
  name := name
  args := "docs read it"
  raw := raw

theorem ascii_keepsLength (word : String)
    (lowered : LowerCase.ascii.lower word = "workspace") : word.length = 9 := by
  have length := congrArg String.length lowered
  rw [LowerCase.ascii, String.length_ofList, List.length_map] at length
  exact length

theorem accepts_docs (raw : String) :
    Accepts anyFolder (docsCommand "cd" raw) "docs" := by
  simp [Accepts, docsCommand, CommandRouter.commandName, anyFolder, constrainToBase]

theorem submitsPrompt_cd : SubmitsPrompt (adminMessage "/cd docs read it")
        (handle anyFolder true (adminMessage "/cd docs read it")
          (docsCommand "cd" "/cd docs read it")) ↔
      (gap "/cd docs read it").length = 1 :=
  @submitsPrompt_iff String anyFolder LowerCase.ascii _ _ "docs" ["read", "it"]
    ascii_keepsLength rfl rfl rfl (accepts_docs _)

/-- With two blanks the last letter of the argument is submitted. -/
theorem exists_argument_sent : ∃ command, CommandParser.parse LowerCase.ascii "/cd  docs read it" =
        some command ∧
      words command.args = ["docs", "read", "it"] ∧
      Accepts anyFolder command "docs" ∧
      ¬ SubmitsPrompt (adminMessage "/cd  docs read it")
        (handle anyFolder true (adminMessage "/cd  docs read it") command) := by
  refine ⟨docsCommand "cd" "/cd  docs read it", rfl, rfl, accepts_docs _, ?_⟩
  unfold SubmitsPrompt
  decide

end Example

end WorkspaceCommands

end RoxabiFactory
