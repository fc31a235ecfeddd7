import Mathlib.Data.Finset.Basic
import RoxabiFactory.CommandRouter
import RoxabiFactory.OrderedDict
import RoxabiFactory.RegexSearch

/-!
# The rendered access rules

The matrix of identities is expanded into the subjects that every identity may
publish and subscribe to, and rendered as the authorization block of NATS.  The
drift gate reads such a text back with regular expressions and a scanner of
braces.
-/

namespace RoxabiFactory

namespace AclRenderer

open RegexSearch

inductive Status
  | active
  | retired
  deriving DecidableEq

structure Identity where
  status : Status
  publish : List String
  subscribe : List String
  allowResponses : Bool
  groups : List String := []

structure GroupDefinition where
  publish : List String
  subscribe : List String

structure Flow where
  requester : String
  responder : String

/-- What `load_matrix` returns. -/
structure LoadedMatrix where
  identities : OrderedDict String Identity
  requestReplyFlows : List Flow := []
  groups : OrderedDict String GroupDefinition := ∅
  /-- Two flows never have the same pair. -/
  flows_nodup : (requestReplyFlows.map fun flow =>
    (flow.requester, flow.responder)).Nodup
  /-- `_validate_group_refs`. -/
  groups_known : ∀ item ∈ identities.items, ∀ group ∈ item.2.groups, (groups.lookup group).isSome

/-! ## The effective grants -/

/-- The subjects that an identity may publish, and subscribe to. -/
structure Grant where
  name : String
  publish : List String
  subscribe : List String
  deriving DecidableEq

/-- `list(dict.fromkeys(subjects))`. -/
def fromKeys (subjects : List String) : List String := subjects.foldl (fun kept subject =>
    if subject ∈ kept then kept else kept ++ [subject]) []

/-- The steps 1 to 3 for an identity: its own lists, and those of its
groups. -/
def expand (matrix : LoadedMatrix) (name : String) (identity : Identity) : Grant where
  name := name
  publish := fromKeys (identity.publish ++ identity.groups.flatMap
    fun group => ((matrix.groups.lookup group).map (·.publish)).getD [])
  subscribe := fromKeys (identity.subscribe ++ identity.groups.flatMap
    fun group => ((matrix.groups.lookup group).map (·.subscribe)).getD [])

def inbox (requester : String) : String := "_inbox." ++ requester ++ ".>"

/-- `subjects.append(subject)`, unless it is there. -/
def append (subjects : List String) (subject : String) : List String :=
  if subject ∈ subjects then subjects else subjects ++ [subject]

/-- The step 4 for a flow: both sides may use the inbox of the requester. -/
def inject (flow : Flow) (grant : Grant) : Grant :=
  let heard :=
    if grant.name = flow.requester then
      { grant with
        subscribe := append grant.subscribe (inbox flow.requester) }
    else grant
  if heard.name = flow.responder then
    { heard with publish := append heard.publish (inbox flow.requester) }
  else heard

/-- `effective_grants`. -/
def effectiveGrants (matrix : LoadedMatrix) : List Grant :=
  let active := matrix.identities.items.filter fun item =>
    decide (item.2.status ≠ .retired)
  matrix.requestReplyFlows.foldl (fun grants flow => grants.map (inject flow))
    (active.map fun item => expand matrix item.1 item.2)

/-! ## The text -/

/-- `_HEADER`. -/
def header : String := "# NATS nkey authorization — generated by factory-acl genkeys\n" ++
  "# Spec: artifacts/specs/706-per-role-nkeys-acls-spec.mdx\n" ++
  "# TODO(ADR-045): ACL for roxabi-nats SDK identities " ++ "intentionally omitted\n" ++
  "#                until the SDK extraction lands — " ++ "rerun this script then.\n" ++
  "# DO NOT edit manually — regenerate with:" ++
  " sudo env \"PATH=$PATH\" factory-acl genkeys --regenerate"

/-- `_quoted_list`. -/
def quotedList (items : List String) : String :=
  ",".intercalate (items.map fun item => "\"" ++ item ++ "\"")

/-- `_perm_block`. -/
def permBlock (allow : List String) : String :=
  if allow ≠ [] then "\x7b allow: [" ++ quotedList allow ++ "] \x7d"
  else "\x7b deny: [\">\"] \x7d"

/-- `_emit_user`. -/
def emitUser (grant : Grant) (pubkey : String) (allowResponses : Bool) :
    String :=
  let ar := if allowResponses then "true" else "false"
  "    \x7b\n" ++
  "      nkey: \"" ++ pubkey ++ "\"\n" ++
  "      # " ++ grant.name ++ "\n" ++
  "      permissions: \x7b\n" ++
  "        publish:   " ++ permBlock grant.publish ++ "\n" ++
  "        subscribe: " ++ permBlock grant.subscribe ++ "\n" ++
  "        allow_responses: " ++ ar ++ "\n" ++
  "      \x7d\n" ++
  "    \x7d"

/-- `render_auth_conf`, with a public key for every identity. -/
def renderAuthConf (matrix : LoadedMatrix) (pubkeys : String → String) :
    String :=
  let grants := effectiveGrants matrix
  let users := matrix.identities.items.filterMap fun item =>
    (grants.find? (·.name = item.1)).map fun grant =>
      emitUser grant (pubkeys item.1) item.2.allowResponses
  "\n".intercalate ([header, "authorization \x7b", "  default_permissions: \x7b",
        "    publish:   \x7b deny: [\">\"] \x7d",
        "    subscribe: \x7b deny: [\">\"] \x7d",
        "  \x7d",
        "  users: ["] ++ users ++ ["  ]", "\x7d"]) ++ "\n"

/-! ## Reading a text back -/

/-- The characters beyond ASCII that are alphanumeric, which rest on Unicode
tables. -/
abbrev Alphanumeric := Char → Bool

/-- `\w`. -/
def isWord (alphanumeric : Alphanumeric) (character : Char) : Bool :=
  if character.toNat < 128 then character.isAlphanum || character == '_'
  else alphanumeric character

/-- `\s*`. -/
def spaces : Piece Char := .plain (.greedy PythonStr.isSpace 0)

def literal (text : String) : Piece Char := .plain (.word text.toList)

/-- `(\w+)\s*:\s*\x7b\s*keyword\s*:\s*\[([^\]]*)\]`. -/
def reList (alphanumeric : Alphanumeric) (keyword : String) : Pattern Char :=
  [.group (.greedy (isWord alphanumeric) 1), spaces, literal ":", spaces,
    literal "\x7b", spaces, literal keyword, spaces, literal ":", spaces,
    literal "[", .group (.greedy (· ≠ ']') 0), literal "]"]

/-- `_RE_DENY`. -/
def reDeny (alphanumeric : Alphanumeric) : Pattern Char := reList alphanumeric "deny"

/-- `_RE_ALLOW`. -/
def reAllow (alphanumeric : Alphanumeric) : Pattern Char := reList alphanumeric "allow"

/-- `_RE_NKEY`. -/
def reNkey : Pattern Char :=
  [literal "nkey", spaces, literal ":", spaces, literal "\"",
    .group (.greedy (· ≠ '"') 1), literal "\""]

/-- `_RE_COMMENT_NAME`. -/
def reCommentName : Pattern Char := [literal "#", .plain (.greedy PythonStr.isSpace 1),
    .group (.greedy (fun character => !PythonStr.isSpace character) 1)]

/-- `_RE_ALLOW_RESP`. -/
def reAllowResp : Pattern Char := [literal "allow_responses", spaces, literal ":", spaces,
    .group (.oneOf ["true".toList, "false".toList])]

/-- `_RE_PERMS`. -/
def rePerms : Pattern Char := [literal "permissions", spaces, literal ":", spaces, literal "\x7b",
    .group (.greedy (fun _ => true) 0), literal "\x7d"]

/-- `_RE_DP`. -/
def reDp : Pattern Char := [literal "default_permissions", spaces, literal ":", spaces,
    literal "\x7b", .group (.lazy (fun _ => true) 0), literal "\x7d"]

/-- `_RE_USERS`. -/
def reUsers : Pattern Char := [literal "users", spaces, literal ":", spaces, literal "[",
    .group (.greedy (fun _ => true) 0), literal "]"]

/-- `m.group(1) if m else ""`. -/
def groupOrEmpty (found : Option (List (List Char))) : List Char := (found.bind List.head?).getD []

/-- The entries of a list of quoted texts. -/
def entries (text : List Char) : List String :=
  ((text.splitOn ',').map fun entry => PythonStr.strip (String.ofList entry))
    |>.filter (· ≠ "")
    |>.map fun entry => String.ofList
      (((entry.toList.dropWhile (· = '"')).reverse.dropWhile
        (· = '"')).reverse)

/-- `_deny_list` and `_allow_set`: the entries of the first match for the
keyword. -/
def listFor (pattern : Pattern Char) (block : List Char) (keyword : String) : List String :=
  match (pattern.findAll block).find? fun groups =>
      decide (groups.head? = some keyword.toList) with
  | some [_, listed] => entries listed
  | _ => []

/-- The scanner of `_split_user_blocks`: how deep it is, and the block that it
is in. -/
structure Scan where
  depth : ℤ := 0
  /-- What has been read since the start of the block. -/
  started : Option (List Char) := none
  blocks : List (List Char) := []

/-- One character of `_split_user_blocks`. -/
def Scan.read (scan : Scan) (character : Char) : Scan :=
  if character = '\x7b' then
    { scan with
      depth := scan.depth + 1
      started :=
        if scan.depth = 0 then some ['\x7b']
        else scan.started.map (· ++ ['\x7b']) }
  else if character = '\x7d' then
    match decide (scan.depth - 1 = 0), scan.started with
    | true, some block =>
      { depth := 0
        started := none
        blocks := scan.blocks ++ [block ++ ['\x7d']] }
    | _, started =>
      { scan with
        depth := scan.depth - 1
        started := started.map (· ++ ['\x7d']) }
  else { scan with started := scan.started.map (· ++ [character]) }

/-- `_split_user_blocks`. -/
def splitUserBlocks (usersBlock : List Char) : List (List Char) :=
  (usersBlock.foldl Scan.read { }).blocks

structure ParsedUser where
  nkey : String
  publishAllow : Finset String
  subscribeAllow : Finset String
  allowResponses : Bool
  commentName : String

/-- `_parse_user_block`. -/
def parseUserBlock (alphanumeric : Alphanumeric) (block : List Char) :
    ParsedUser :=
  let perm := groupOrEmpty (rePerms.search block)
  let allowed := fun keyword =>
    (listFor (reAllow alphanumeric) perm keyword).toFinset
  { nkey := String.ofList (groupOrEmpty (reNkey.search block))
    publishAllow := allowed "publish"
    subscribeAllow := allowed "subscribe"
    allowResponses :=
      decide (groupOrEmpty (reAllowResp.search perm) = "true".toList)
    commentName := String.ofList (groupOrEmpty (reCommentName.search block)) }

structure ParsedAuthConf where
  defaultPublishDeny : List String
  defaultSubscribeDeny : List String
  users : List ParsedUser

/-- `parse_auth_conf`. -/
def parseAuthConf (alphanumeric : Alphanumeric) (text : String) :
    ParsedAuthConf :=
  let dp := groupOrEmpty (reDp.search text.toList)
  let usersBlock := groupOrEmpty (reUsers.search text.toList)
  { defaultPublishDeny := listFor (reDeny alphanumeric) dp "publish"
    defaultSubscribeDeny := listFor (reDeny alphanumeric) dp "subscribe"
    users := (splitUserBlocks usersBlock).map (parseUserBlock alphanumeric) }

end AclRenderer

end RoxabiFactory
