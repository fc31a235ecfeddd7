import Mathlib.Data.List.TakeWhile
import RoxabiFactory.PythonExceptions
import RoxabiFactory.ToolRecap
import RoxabiFactory.WireMessages

/-!
# Commands

`CommandParser` takes a message that begins with a slash or an exclamation
mark as a command.  `CommandRouter` looks the command up among the built-in
handlers, the session handlers and the plugins, in this order, and lets an
unknown one through to the agent when its mark is an exclamation mark or when
it is registered as a pass-through.
-/

namespace RoxabiFactory

open Wire

/-- `str.lower`, which rests on Unicode tables. -/
structure LowerCase where
  lower : String → String
  lower_empty : lower "" = ""

/-- The table for ASCII text. -/
def LowerCase.ascii : LowerCase where
  lower text := String.ofList (text.toList.map Char.toLower)
  lower_empty := by rfl

namespace PythonStr

/-- `character.isspace()`. -/
def isSpace (character : Char) : Bool := PyStr.isSpace character.toNat

/-- `text.strip()`. -/
def strip (text : String) : String :=
  String.ofList (((text.toList.dropWhile isSpace).reverse.dropWhile isSpace).reverse)

/-- `text.split()`. -/
def words (text : String) : List String :=
  ((text.toList.splitOnP isSpace).filter (· ≠ [])).map String.ofList

/-- `text.startswith(beginning)`. -/
def startsWith (text beginning : String) : Bool := beginning.toList.isPrefixOf text.toList

theorem strip_empty : strip "" = "" := by
  rfl

theorem exists_ne_nil_of_not_isSpace {characters : List Char} {character : Char}
    (present : character ∈ characters) (visible : isSpace character = false) :
    ∃ word ∈ characters.splitOnP isSpace, word ≠ [] := by
  induction characters with
  | nil => cases present
  | cons first rest ih =>
    rw [List.splitOnP_cons_eq_if_modifyHead]
    split
    · rename_i blank
      rcases List.mem_cons.1 present with rfl | later
      · rw [visible] at blank
        cases blank
      · obtain ⟨word, found, filled⟩ := ih later
        exact ⟨word, List.mem_cons_of_mem _ found, filled⟩
    · obtain ⟨head, tail, pieces⟩ := List.exists_cons_of_ne_nil (List.splitOnP_ne_nil isSpace rest)
      rw [pieces]
      exact ⟨first :: head, List.mem_cons_self, List.cons_ne_nil _ _⟩

theorem words_ne_nil {text : String} (filled : strip text ≠ "") :
    words text ≠ [] := by
  intro empty
  apply filled
  have blank : ∀ character ∈ text.toList, isSpace character = true := by
    intro character present
    by_contra visible
    obtain ⟨word, found, nonempty⟩ := exists_ne_nil_of_not_isSpace present
      (Bool.eq_false_of_not_eq_true visible)
    have kept : word ∈ (text.toList.splitOnP isSpace).filter (· ≠ []) :=
      List.mem_filter.2 ⟨found, decide_eq_true nonempty⟩
    rw [List.map_eq_nil_iff.1 empty] at kept
    cases kept
  have dropped : text.toList.dropWhile isSpace = [] := List.dropWhile_eq_nil_iff.2 blank
  unfold strip
  rw [dropped]
  rfl

end PythonStr

open PythonStr

structure Response where
  content : String
  deriving DecidableEq

/-- `MessageManager.get`: the text of a key with its arguments. -/
abbrev MessageManager := String → List (String × String) → String

namespace CommandParser

/-- `COMMAND_PREFIXES`. -/
def marks : List Char := ['/', '!']

/-- The first word after the mark, in lower case, is the name. -/
def parse (lowerCase : LowerCase) (text : String) : Option CommandContext :=
  match text.toList with
  | mark :: first :: rest =>
    if mark ∈ marks ∧ isSpace first = false then
      let remainder := first :: rest
      some
        { commandPrefix := String.singleton mark
          name := lowerCase.lower (String.ofList (remainder.takeWhile fun character =>
              !isSpace character))
          args := String.ofList ((remainder.dropWhile fun character =>
            !isSpace character).dropWhile isSpace)
          raw := text }
    else none
  | _ => none

end CommandParser

/-- A handler gets the message and the words after the name. -/
abbrev CommandHandler := InboundMessage → List String → Except PyException Response

/-- A session command or the command of a plugin.  `timeout` is the time-out
in whole seconds as it is printed. -/
structure CommandEntry where
  handler : CommandHandler
  timeout : String := "30"

structure CommandConfig where
  builtin : Bool := false

/-- The commands of an agent.  `builtinReply` is what a built-in handler
answers. -/
structure CommandRouter where
  /-- `patterns.get("bare_url", False)`. -/
  bareUrl : Bool := false
  bareUrlCommand : String := "explain"
  builtins : String → Option CommandConfig
  builtinReply : String → CommandHandler
  sessionDriver : Bool := false
  sessionHandlers : String → Option CommandEntry
  pluginHandlers : String → Option CommandEntry
  passthroughs : List String := []
  msgManager : Option MessageManager := none

/-- What a dispatch answers, and the commands whose handlers it has called. -/
structure Dispatch where
  answer : Except PyException (Option Response)
  executed : List String

namespace CommandRouter

variable (router : CommandRouter)

/-- `BARE_URL_RE.fullmatch`. -/
def isUrl (text : String) : Bool := startsWith text "https://" && text.toList.drop 8 ≠ [] &&
    (text.toList.drop 8).all fun character => !isSpace character

def isBareUrl (text : String) : Bool := router.bareUrl && isUrl (strip text)

/-- The command of `rewrite_bare_url`. -/
def bareUrlContext (text : String) : CommandContext where
  commandPrefix := "/"
  name := router.bareUrlCommand
  args := strip text
  raw := text

def prepare (msg : InboundMessage) : InboundMessage :=
  if msg.command.isNone && router.isBareUrl msg.text then
    { msg with command := some (router.bareUrlContext msg.text) }
  else msg

def isCommand (msg : InboundMessage) : Bool := msg.command.isSome || router.isBareUrl msg.text

/-- The keys of `_build_builtin_handlers`. -/
def builtinHandlers : List String :=
  ["/help", "/circuit", "/stop", "/config", "/voice", "/text", "/clear",
    "/new", "/folder", "/cd", "/workspace", "/session"]

/-- `/voice` with arguments is a prompt. -/
def runBuiltin (command : String) (args : List String)
    (msg : InboundMessage) : Except PyException (Option Response) :=
  if command = "/voice" ∧ args ≠ [] then .ok none
  else (router.builtinReply command msg args).map some

/-- `_dispatch_builtin`. -/
def dispatchBuiltin (command : String) (args : List String) (msg : InboundMessage) : Dispatch :=
  if command ∈ builtinHandlers then
    ⟨router.runBuiltin command args msg, [command]⟩
  else if (router.builtins command).any (·.builtin) then
    ⟨.ok (some ⟨"Built-in command " ++ command ++ " is not yet implemented."⟩), []⟩
  else ⟨.ok none, []⟩

def formatTimeoutMessage (command timeout : String) : String :=
  "Command " ++ command ++ " timed out after " ++ timeout ++ "s."

/-- `asyncio.wait_for(handler(…))`. -/
def runEntry (entry : CommandEntry) (command : String) (args : List String)
    (msg : InboundMessage) : Except PyException (Option Response) :=
  match entry.handler msg args with
  | .ok response => .ok (some response)
  | .error .timeoutError =>
    .ok (some ⟨formatTimeoutMessage command entry.timeout⟩)
  | .error exc => .error exc

/-- Commands of products that are gone. -/
def retiredCommandMessages : List (String × String) := [("vault-add",
    "Command /vault-add was removed. URL capture is no longer a hub slash " ++
    "command (cortex owns long-term memory). Use /explain or /summarize " ++
    "to read a page, or /search to query memory. Type /help for commands."),
   ("add-vault", "Command /add-vault was removed. Notes are no longer saved via this " ++
    "hub command. Use /search for memory search. Type /help for commands.")]

/-- `command_name.lstrip("/!")`. -/
def bareName (command : String) : String := String.ofList (command.toList.dropWhile fun character =>
    decide (character ∈ CommandParser.marks))

/-- `format_unknown_command`, with the text of the message manager in place of
the generic line. -/
def unknownReply (command : String) : Response :=
  match retiredCommandMessages.lookup (bareName command) with
  | some retired => ⟨retired⟩
  | none =>
    match router.msgManager with
    | some get => ⟨get "unknown_command" [("command_name", command)]⟩
    | none => ⟨"Unknown command: " ++ command ++ ". Type /help for available commands."⟩

/-- What `dispatch` does with a command that no built-in handler has
answered. -/
def dispatchRegistered (command : CommandContext) (name : String)
    (args : List String) (msg : InboundMessage) : Dispatch :=
  match router.sessionHandlers name with
  | some entry =>
    if router.sessionDriver then ⟨runEntry entry name args msg, [name]⟩
    else ⟨.ok (some ⟨"Session commands require a session driver. " ++
      "No session driver is configured."⟩), []⟩
  | none =>
    match router.pluginHandlers name with
    | some entry => ⟨runEntry entry name args msg, [name]⟩
    | none =>
      if command.commandPrefix = "!" ∨ name ∈ router.passthroughs then
        ⟨.ok none, []⟩
      else ⟨.ok (some (router.unknownReply name)), []⟩

def commandName (command : CommandContext) : String := command.commandPrefix ++ command.name

/-- `dispatch` of a message that has a command; the pool is there. -/
def dispatchCommand (command : CommandContext) (msg : InboundMessage) :
    Dispatch :=
  let name := commandName command
  let args := words command.args
  let builtin := router.dispatchBuiltin name args msg
  match builtin.answer with
  | .ok none =>
    let registered := router.dispatchRegistered command name args msg
    ⟨registered.answer, builtin.executed ++ registered.executed⟩
  | _ => builtin

def dispatch (msg : InboundMessage) : Dispatch :=
  let prepared := router.prepare msg
  match prepared.command with
  | none => ⟨.error (.valueError "ValueError"), []⟩
  | some command => router.dispatchCommand command prepared

end CommandRouter

end RoxabiFactory
