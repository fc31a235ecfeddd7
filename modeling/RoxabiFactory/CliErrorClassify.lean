import RoxabiFactory.PythonValues

/-!
# Errors of the CLI as worker errors

The CLI reports an error with a subtype and a text of any JSON type.
`_resolve_cli_worker_error` looks for a time-out in the text, then for a
subtype that names the failure, and infers a subtype from the text when there
is none.  The Unicode tables of `str` are a parameter.
-/

namespace RoxabiFactory

/-- The parts of `str` that depend on Unicode tables, `str()` of values that
are not strings, and the sanitizer of `WorkerError` messages. -/
structure PythonText where
  lower : PyStr → PyStr
  strip : String → String
  isPrintable : Char → Bool
  isWord : Nat → Bool
  str : Json → PyStr
  sanitize : String → String

def PythonText.ascii : PythonText where
  lower
    | .text characters => .text characters.toLower
    | .loneSurrogate codePoints => .loneSurrogate codePoints
  strip characters := characters.trimAscii.toString
  isPrintable character := decide (32 ≤ character.toNat) &&
    decide (character.toNat < 127)
  isWord codePoint := (Char.ofNat codePoint).isAlphanum || codePoint == 95
  str _ := .text ""
  sanitize := id

namespace PyStr

def codePoints : PyStr → List Nat
  | .text characters => characters.toList.map Char.toNat
  | .loneSurrogate codePoints => codePoints

/-- `needle in text`. -/
def contains (text : PyStr) (needle : String) : Bool :=
  decide (needle.toList.map Char.toNat <:+: text.codePoints)

/-- `left + right`. -/
def append : PyStr → PyStr → PyStr
  | .text left, .text right => .text (left ++ right)
  | left, right => .loneSurrogate (left.codePoints ++ right.codePoints)

end PyStr

structure WorkerError where
  code : String
  message : String
  retryable : Bool
  deriving DecidableEq, Repr

structure CodeMeta where
  defaultRetryable : Bool
  description : String

/-- The entries of `KNOWN_CODES` that the CLI paths use. -/
def knownCodes : List (String × CodeMeta) := [("transport.timeout",
      ⟨true, "NATS request timed out before a reply was received."⟩),
    ("cli.auth", ⟨false, "CLI pool authentication failed (invalid or expired credentials)."⟩),
    ("cli.session_lost", ⟨true, "CLI session was lost and could not be resumed."⟩),
    ("cli.parse", ⟨false, "CLI command string could not be parsed."⟩),
    ("llm.rate_limit", ⟨true, "LLM provider returned a rate-limit / quota-exceeded error."⟩)]

namespace CliErrorClassify

def authSubtypes : List String := ["auth_error", "auth", "login_required"]

def sessionLostSubtypes : List String := ["session_expired", "session_lost", "resume_failed"]

def rateLimitSubtypes : List String :=
  ["rate_limit_error", "rate_limit", "quota_exceeded", "usage_limit"]

def authFlatHints : List String :=
  ["not logged in", "login required", "auth error", "authentication required", "oauth"]

def rateLimitFlatHints : List String :=
  ["weekly limit", "rate limit", "quota exceeded", "usage limit", "hit your limit"]

def sessionLostFlatHints : List String := ["session expired", "session lost", "resume failed"]

variable (tools : PythonText)

/-- `_scrub_cli_error_text`. -/
def scrubCliErrorText (text : PyStr) : String :=
  let scrubbed := text.codePoints.map fun codePoint =>
    if h : codePoint.isValidChar then
      let character := Char.ofNatAux codePoint h
      if tools.isPrintable character then character else ' '
    else ' '
  if scrubbed.length > 200 then String.ofList (scrubbed.take 199 ++ ['…'])
  else String.ofList scrubbed

/-- `\bhint\b` matches somewhere, for a hint made of word characters;
`afterWord` tells whether a word character comes before the text. -/
def matchesWord (hint : List Nat) : Bool → List Nat → Bool
  | afterWord, text =>
    (!afterWord && decide (hint <+: text) && !(text.drop hint.length).head?.any tools.isWord) ||
    match text with
    | [] => false
    | codePoint :: rest => matchesWord hint (tools.isWord codePoint) rest

/-- `_hint_matches`. -/
def hintMatches (lower : PyStr) (hint : String) : Bool :=
  if ' ' ∈ hint.toList then lower.contains hint
  else matchesWord tools (hint.toList.map Char.toNat) false lower.codePoints

/-- `_infer_subtype_from_flat_error`. -/
def inferSubtypeFromFlatError (error : PyStr) : String :=
  let lower := tools.lower error
  if authFlatHints.any (hintMatches tools lower) then "auth_error"
  else if rateLimitFlatHints.any lower.contains then "rate_limit_error"
  else if sessionLostFlatHints.any lower.contains then "session_expired"
  else ""

/-- `subtype in names`; the value must be hashable. -/
def isOneOf (subtype : Json) (names : List String) : Py Bool := do
  let key ← subtype.hashKey
  return names.any fun name => decide (key = .str (.text name))

/-- `"rate_limit" in subtype`. -/
def mentionsRateLimit : Json → Py Bool
  | .str text => .ok (text.contains "rate_limit")
  | .arr items => .ok (items.any fun item => item.isText "rate_limit")
  | .obj members => .ok (members.any fun member =>
    decide (member.1 = .text "rate_limit"))
  | _ => .error .typeError

/-- `_subtype_is_specific`. -/
def subtypeIsSpecific (subtype : Json) : Py Bool := do
  if ← isOneOf subtype authSubtypes then return true
  if ← isOneOf subtype sessionLostSubtypes then return true
  if ← isOneOf subtype rateLimitSubtypes then return true
  if subtype.truthy then mentionsRateLimit subtype else return false

/-- The code of `_classify_cli_error`. -/
def classifyCode (subtype : Json) : Py String := do
  if ← isOneOf subtype authSubtypes then return "cli.auth"
  if ← isOneOf subtype sessionLostSubtypes then return "cli.session_lost"
  if ← isOneOf subtype rateLimitSubtypes then return "llm.rate_limit"
  if ← mentionsRateLimit subtype then return "llm.rate_limit"
  return "cli.parse"

/-- A `WorkerError` of a known code; an empty text is replaced by the
description of the code. -/
def workerErrorOfCode (code : String) (text : PyStr) : WorkerError :=
  let known := (knownCodes.lookup code).getD ⟨true, ""⟩
  let scrubbed := scrubCliErrorText tools text
  { code := code
    message := tools.sanitize (if scrubbed = "" then known.description else scrubbed)
    retryable := known.defaultRetryable }

/-- `_classify_cli_error`. -/
def classifyCliError (subtype : Json) (text : PyStr) : Py WorkerError := do
  let code ← classifyCode subtype
  return workerErrorOfCode tools code text

/-- `_resolve_cli_worker_error`. -/
def resolveCliWorkerError (subtype error : Json) : Py WorkerError :=
  match error with
  | .str text =>
    let lower := tools.lower text
    if lower.contains "timeout" || lower.contains "timed out" then
      return workerErrorOfCode tools "transport.timeout" text
    else do
      let specific ← subtypeIsSpecific subtype
      let inferred := inferSubtypeFromFlatError tools text
      if specific || decide (inferred = "") then
        classifyCliError tools subtype text
      else classifyCliError tools (.ofString inferred) text
  | _ => .error .attributeError

end CliErrorClassify

end RoxabiFactory
