import RoxabiFactory.PythonValues
import RoxabiFactory.TimeOrder

/-!
# The cached installation token

`TokenCache.read` and `mint` look into a loaded JSON value without a test of
its type.  Both catch the exceptions of a missing member and of a bad text, and
both miss the one that a number without the method `replace` raises.
-/

namespace RoxabiFactory

/-- `value[key]` for a string literal. -/
def Json.getItem (value : Json) (key : String) : Py Json :=
  match value with
  | .obj members =>
    match members.lookup (.text key) with
    | some member => .ok member
    | none => .error .keyError
  | _ => .error .typeError

theorem Json.getItem_eq_ok {value member : Json} {key : String} : value.getItem key = .ok member ↔
      ∃ members, value = .obj members ∧ members.lookup (.text key) = some member := by
  cases value with
  | obj members =>
    unfold getItem
    cases found : members.lookup (.text key) with
    | none => simp [found]
    | some other => simp [found]
  | _ => simp [getItem]

/-- What `json.loads` finds in a text; a text that is no UTF-8 or no JSON
raises a `ValueError`. -/
inductive Document
  | malformed
  | tooDeep
  | value (data : Json)
  deriving DecidableEq

def Document.loads : Document → Py Json
  | .malformed => .error .valueError
  | .tooDeep => .error .recursionError
  | .value data => .ok data

/-- The cache file, as `read_text` meets it. -/
inductive CacheFile
  | unreadable
  | text (document : Document)
  deriving DecidableEq

def CacheFile.load : CacheFile → Py Json
  | .unreadable => .error (.other "OSError")
  | .text document => document.loads

/-- A `datetime` with `tzinfo`. -/
abbrev AwareTime := {time : TimeFields // time.Valid ∧ time.offset ≠ none}

/-- `replace(tzinfo=timezone.utc)`, if there is no `tzinfo`. -/
def DateTime.ensureAware (time : DateTime) : AwareTime :=
  if aware : time.val.offset ≠ none then ⟨time.val, time.property, aware⟩
  else ⟨{ time.val with offset := some 0 }, by
    obtain ⟨year, month, day, hour, minute, second, microsecond, -⟩ := time.property
    refine ⟨⟨year, month, day, hour, minute, second, microsecond, ?_⟩, Option.some_ne_none _⟩
    rintro offset ⟨⟩
    decide⟩

structure InstallationToken where
  token : Json
  expiresAt : AwareTime
  deriving DecidableEq

namespace InstallationToken

/-- The seconds that remain, in microseconds. -/
def remaining (it : InstallationToken) (now : Int) : Int := it.expiresAt.val.instant - now

def isNearExpiry (it : InstallationToken) (now leeway : Int) : Bool :=
  decide (it.remaining now < leeway * 1000000)

/-- The payload that `write` dumps. -/
def payload (it : InstallationToken) : Json := .obj [(.text "token", it.token), (.text "expires_at",
      .ofString (String.ofList it.expiresAt.val.isoformat))]

end InstallationToken

namespace TokenCache

/-- `raw.replace("Z", "+00:00")`. -/
def normalized (raw : String) : List Char := raw.toList.flatMap fun character =>
    if character = 'Z' then ['+', '0', '0', ':', '0', '0'] else [character]

section Reading

-- `datetime.fromisoformat`, which reads more texts than `isoformat`
-- writes.
variable (fromisoformat : List Char → Option DateTime)

def parseExpiresAt : Json → Py DateTime
  | .str (.text raw) =>
    match fromisoformat (normalized raw) with
    | some time => .ok time
    | none => .error .valueError
  | .str (.loneSurrogate _) => .error .valueError
  | _ => .error .attributeError

/-- The token of a loaded value, as `read` and `mint` take it out. -/
def parseToken (data : Json) : Py InstallationToken := data.getItem "token" >>= fun token =>
    data.getItem "expires_at" >>= fun raw =>
      parseExpiresAt fromisoformat raw >>= fun expiresAt =>
        .ok ⟨token, expiresAt.ensureAware⟩

/-- `except (OSError, json.JSONDecodeError, KeyError, TypeError, ValueError)`. -/
def isCaught : PyError → Bool
  | .keyError | .typeError => true
  | .other name => decide (name = "OSError")
  | raised => raised.isValueError

def read (now : Int) (file : CacheFile) : Py (Option InstallationToken) :=
  match file.load >>= parseToken fromisoformat with
  | .ok it => .ok (if it.expiresAt.val.instant ≤ now then none else some it)
  | .error raised => if isCaught raised then .ok none else .error raised

/-! ## The shape of a document -/

/-- The document has a token and a time at which it expires. -/
def Grants (document : Document) (it : InstallationToken) : Prop :=
  ∃ members raw time, document = .value (.obj members) ∧
    members.lookup (.text "token") = some it.token ∧
    members.lookup (.text "expires_at") = some (.str (.text raw)) ∧
    fromisoformat (normalized raw) = some time ∧
    it.expiresAt = time.ensureAware

end Reading

/-- A member of the object that is not a string. -/
def HasNonString (members : List (PyStr × Json)) (key : String) : Prop :=
  ∃ member, members.lookup (.text key) = some member ∧ ∀ text, member ≠ .str text

/-- Reading the document raises what nobody catches: its nesting is too deep,
or it has a token that expires at something else than a text. -/
def Trips : Document → Prop
  | .value (.obj members) =>
    (members.lookup (.text "token")).isSome ∧ HasNonString members "expires_at"
  | .value _ | .malformed => False
  | .tooDeep => True

/-- The cache file has such a token. -/
def IsWarm (fromisoformat : List Char → Option DateTime) (file : CacheFile) :
    Prop :=
  ∃ document it, file = .text document ∧ Grants fromisoformat document it

def FileTrips : CacheFile → Prop
  | .unreadable => False
  | .text document => Trips document

theorem trips_obj {members : List (PyStr × Json)} : Trips (.value (.obj members)) ↔
      (members.lookup (.text "token")).isSome ∧ HasNonString members "expires_at" :=
  Iff.rfl

section Shape

variable {fromisoformat : List Char → Option DateTime}

theorem parseExpiresAt_eq_ok {raw : Json} {time : DateTime} :
    parseExpiresAt fromisoformat raw = .ok time ↔ ∃ text, raw = .str (.text text) ∧
        fromisoformat (normalized text) = some time := by
  unfold parseExpiresAt
  constructor
  · intro returns
    split at returns
    · split at returns
      · rename_i text _ other found
        rw [Except.ok.inj returns] at found
        exact ⟨text, rfl, found⟩
      · cases returns
    · cases returns
    · cases returns
  · rintro ⟨text, rfl, found⟩
    simp only [found]

theorem parseExpiresAt_raises {raw : Json} {raised : PyError}
    (raises : parseExpiresAt fromisoformat raw = .error raised) :
    isCaught raised = false ↔ ∀ text, raw ≠ .str text := by
  cases raw with
  | str text =>
    have valueError : raised = .valueError := by
      unfold parseExpiresAt at raises
      cases text with
      | loneSurrogate codePoints => exact (Except.error.inj raises).symm
      | text raw =>
        dsimp only at raises
        split at raises
        · cases raises
        · exact (Except.error.inj raises).symm
    rw [valueError]
    constructor
    · intro uncaught
      exact absurd uncaught (by decide)
    · intro notText
      exact absurd rfl (notText text)
  | _ =>
    rw [← Except.error.inj raises]
    exact iff_of_true rfl fun text same => Json.noConfusion same

theorem loads_parseToken_eq_ok {document : Document} {it : InstallationToken} :
    (document.loads >>= parseToken fromisoformat) = .ok it ↔
      Grants fromisoformat document it := by
  cases document with
  | malformed =>
    constructor
    · rintro ⟨⟩
    · rintro ⟨_, _, _, ⟨⟩, _⟩
  | tooDeep =>
    constructor
    · rintro ⟨⟩
    · rintro ⟨_, _, _, ⟨⟩, _⟩
  | value data =>
    unfold Document.loads parseToken
    rw [Py.ok_bind]
    simp only [Py.bind_eq_ok, Json.getItem_eq_ok, parseExpiresAt_eq_ok]
    constructor
    · rintro ⟨token, ⟨members, rfl, hasToken⟩, _, ⟨_, same, hasTime⟩, time,
        ⟨raw, rfl, isTime⟩, returns⟩
      cases same
      cases returns
      exact ⟨members, raw, time, rfl, hasToken, hasTime, isTime, rfl⟩
    · rintro ⟨members, raw, time, same, hasToken, hasTime, isTime, expires⟩
      cases same
      refine ⟨it.token, ⟨members, rfl, hasToken⟩, _, ⟨members, rfl, hasTime⟩,
        time, ⟨raw, rfl, isTime⟩, ?_⟩
      rw [← expires]

theorem loads_parseToken_raises {document : Document} {raised : PyError}
    (raises : (document.loads >>= parseToken fromisoformat) = .error raised) :
    isCaught raised = false ↔ Trips document := by
  cases document with
  | malformed =>
    cases raises
    exact iff_of_false (by decide) id
  | tooDeep =>
    cases raises
    exact iff_of_true (by decide) trivial
  | value data =>
    unfold Document.loads parseToken at raises
    rw [Py.ok_bind] at raises
    cases data with
    | obj members =>
      rw [trips_obj, HasNonString]
      unfold Json.getItem at raises
      dsimp only at raises
      cases hasToken : members.lookup (.text "token") with
      | none =>
        simp only [hasToken] at raises
        cases raises
        refine iff_of_false (by decide) ?_
        rintro ⟨⟨⟩, -⟩
      | some token =>
        simp only [hasToken, Py.ok_bind] at raises
        cases hasTime : members.lookup (.text "expires_at") with
        | none =>
          simp only [hasTime] at raises
          cases raises
          refine iff_of_false (by decide) ?_
          rintro ⟨-, member, ⟨⟩, -⟩
        | some raw =>
          simp only [hasTime, Py.ok_bind] at raises
          cases parsed : parseExpiresAt fromisoformat raw with
          | ok time =>
            rw [parsed] at raises
            cases raises
          | error other =>
            rw [parsed] at raises
            cases raises
            rw [parseExpiresAt_raises parsed]
            constructor
            · intro notText
              exact ⟨rfl, raw, rfl, notText⟩
            · rintro ⟨-, member, found, notText⟩
              cases found
              exact notText
    | _ =>
      cases raises
      exact iff_of_false (by decide) id

variable {file : CacheFile} {now : Int}

/-- `read` returns on every file that does not trip. -/
theorem read_eq_error_iff : (∃ raised, read fromisoformat now file = .error raised) ↔
      FileTrips file := by
  unfold read
  cases file with
  | unreadable =>
    refine iff_of_false ?_ id
    rintro ⟨raised, raises⟩
    cases raises
  | text document =>
    unfold CacheFile.load FileTrips
    dsimp only
    cases loaded : document.loads >>= parseToken fromisoformat with
    | ok it =>
      dsimp only
      refine iff_of_false (by rintro ⟨raised, ⟨⟩⟩) ?_
      intro trips
      obtain ⟨members, raw, time, rfl, -, hasTime, -⟩ := loads_parseToken_eq_ok.1 loaded
      obtain ⟨-, member, found, notText⟩ := trips
      rw [hasTime] at found
      exact notText _ (Option.some.inj found).symm
    | error raised =>
      dsimp only
      rw [← loads_parseToken_raises loaded]
      cases isCaught raised with
      | true => simp
      | false => simp

/-- A token that `read` returns is in the file. -/
theorem grants_of_read {it : InstallationToken}
    (returns : read fromisoformat now file = .ok (some it)) :
    ∃ document, file = .text document ∧ Grants fromisoformat document it := by
  unfold read at returns
  cases file with
  | unreadable => cases returns
  | text document =>
    unfold CacheFile.load at returns
    dsimp only at returns
    cases loaded : document.loads >>= parseToken fromisoformat with
    | ok found =>
      rw [loaded] at returns
      dsimp only at returns
      split at returns
      · cases returns
      · cases returns
        exact ⟨document, rfl, loads_parseToken_eq_ok.1 loaded⟩
    | error raised =>
      rw [loaded] at returns
      dsimp only at returns
      split at returns
      · cases returns
      · cases returns

theorem read_eq_none_iff (cold : ¬ IsWarm fromisoformat file) :
    read fromisoformat now file = .ok none ↔ ¬ FileTrips file := by
  rw [← @read_eq_error_iff fromisoformat file now]
  cases returned : read fromisoformat now file with
  | error raised => simp
  | ok found =>
    cases found with
    | none => simp
    | some it =>
      obtain ⟨document, isText, grants⟩ := grants_of_read returned
      exact absurd ⟨document, it, isText, grants⟩ cold

end Shape

end TokenCache

end RoxabiFactory
