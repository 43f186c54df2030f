import Mathlib.Data.List.Sort
import Mathlib.Data.String.Basic
import OpenPinch.Common.Crypto
import OpenPinch.Common.Types

/-!
# Text functions of the engine

Fingerprints and their similarity, truncation, the phrases that the brain looks
for in a message, scopes and links.  Texts are handled as lists of characters.
Lower-casing ASCII letters keeps the length of a text in bytes, so an index into
the lower-cased text is one into the text.
-/

namespace OpenPinch

/-! ## Characters and tokens -/

/-- `str::to_ascii_lowercase`. -/
def toAsciiLowercase (text : String) : String := String.ofList (text.toList.map Char.toLower)

/-- The parts between the characters that satisfy the test, `str::split`. -/
def splitChars (test : Char → Bool) : List Char → List (List Char)
  | [] => [[]]
  | c :: rest =>
      if test c then [] :: splitChars test rest
      else
        match splitChars test rest with
        | [] => [[c]]
        | first :: more => (c :: first) :: more

/-- The parts that are not empty. -/
def tokens (test : Char → Bool) (text : String) : List String :=
  ((splitChars test text.toList).filter fun token => !token.isEmpty).map String.ofList

/-- `str::split_whitespace`. -/
def splitWhitespace (text : String) : List String := tokens isWhitespace text

/-- `Vec::dedup`: equal neighbours become one. -/
def dedup {α : Type} [DecidableEq α] : List α → List α
  | [] => []
  | [a] => [a]
  | a :: b :: rest => if a = b then dedup (b :: rest) else a :: dedup (b :: rest)

/-- `Vec::sort` on texts, byte by byte. -/
def sortTexts (texts : List String) : List String :=
  texts.insertionSort fun left right => left ≤ right

/-- `str::find`: where the first occurrence begins. -/
def findChars (needle : List Char) : List Char → Option Nat
  | [] => if needle = [] then some 0 else none
  | c :: rest =>
      if needle.isPrefixOf (c :: rest) then some 0
      else (findChars needle rest).map (· + 1)

/-- `str::contains`. -/
def containsText (text needle : String) : Bool := (findChars needle.toList text.toList).isSome

/-- `str::ends_with`. -/
def endsWith (text suffix : String) : Bool := suffix.toList.isSuffixOf text.toList

/-- `str::starts_with`. -/
def startsWith (text start : String) : Bool := start.toList.isPrefixOf text.toList

/-! ## Hashes, fingerprints and similarity -/

section

variable [Externals]

/-- `prompt_hash`. -/
def promptHash (prompt : String) : String := lowerHex (Externals.sha256 (asBytes prompt)).bytes

/-- `fingerprint`. -/
def fingerprint (content : String) : String :=
  let found := tokens (fun c => !Externals.isAlphanumeric c) content
  String.intercalate " " (dedup (sortTexts (found.map toAsciiLowercase)))

end

/-- `similarity`. -/
def similarity (left right : String) : Rat :=
  let leftTokens := splitWhitespace left
  let rightTokens := splitWhitespace right
  if leftTokens.isEmpty || rightTokens.isEmpty then 0
  else
    let intersection := leftTokens.countP fun token => rightTokens.contains token
    let union := leftTokens.length + rightTokens.length - intersection
    (intersection : Rat) / (union : Rat)

/-- `truncate_with_ellipsis`. -/
def truncateWithEllipsis (value : String) (maxChars : Nat) : String :=
  if value.toList.length ≤ maxChars then value
  else String.ofList (value.toList.take (maxChars - 3)) ++ "..."

/-- `non_empty_or_default`. -/
def nonEmptyOrDefault (value fallback : String) : String :=
  if trim value = "" then trim fallback else trim value

/-- `preferred_title`. -/
def preferredTitle (primary fallback : String) : String :=
  truncateWithEllipsis (nonEmptyOrDefault primary fallback) 80

/-! ## What a text mentions -/

/-- `extract_artifacts`. -/
def extractArtifacts (content : String) : List String :=
  let trimmed := (splitWhitespace content).map fun token =>
    String.ofList (trimChars (",.;:()[]\x7b\x7d<>\"'".toList.contains ·) token.toList)
  let artifacts := trimmed.filter fun token =>
    startsWith token "http://" || startsWith token "https://" || token.toList.contains '/' ||
      [".rs", ".md", ".json", ".yaml", ".yml", ".toml", ".go", ".ts", ".js", ".proto"].any
        (endsWith token)
  dedup (sortTexts artifacts)

/-- Order of pairs of texts. -/
def pairLe (left right : String × String) : Bool :=
  left.1 < right.1 || (left.1 == right.1 && left.2 ≤ right.2)

/-- `extract_environment_mentions`. -/
def extractEnvironmentMentions (content : String) : List (String × String) :=
  let lower := toAsciiLowercase content
  let named := [(" production ", "deployment", "production"), (" prod ", "deployment", "prod"),
    (" staging ", "deployment", "staging"), (" stage ", "deployment", "stage"),
    (" development ", "deployment", "development"), (" dev ", "deployment", "dev"),
    (" remote ", "place", "remote"), (" office ", "place", "office"),
    (" home ", "place", "home")].filterMap fun (needle, subtype, title) =>
      if containsText lower needle then some (subtype, title) else none
  let titled := [("project ", "project"), ("team ", "team")].filterMap fun (start, subtype) =>
    (findChars start.toList lower.toList).bind fun index =>
      let behind := String.ofList (content.toList.drop (index + start.toList.length))
      let remainder := String.intercalate " " ((splitWhitespace behind).take 3)
      if remainder = "" then none else some (subtype, remainder)
  dedup ((named ++ titled).insertionSort fun left right => pairLe left right)

/-- `extract_after_case_insensitive`. -/
def extractAfterCaseInsensitive (content marker : String) : Option String :=
  let lower := toAsciiLowercase content
  (findChars (toAsciiLowercase marker).toList lower.toList).bind fun index =>
    let behind := content.toList.drop (index + marker.toList.length)
    let value := trimChars (fun c => c == '.' || c == ':') (trimChars isWhitespace behind)
    if value = [] then none else some (String.ofList value)

/-- `extract_task_summary`. -/
def extractTaskSummary (content : String) : Option String :=
  match ["remind me to ", "remember to ", "need to ", "needs to ", "please ", "todo: ", "todo ",
      "must "].findSome? (extractAfterCaseInsensitive content) with
  | some value => some (truncateWithEllipsis value 180)
  | none =>
      let trimmed := trim content
      if !endsWith trimmed "?" && ["implement", "create", "fix", "update", "build", "memorize"].any
          (containsText (toAsciiLowercase trimmed)) then
        some (truncateWithEllipsis trimmed 180)
      else none

/-- `extract_assistant_commitment`. -/
def extractAssistantCommitment (content : String) : Option String :=
  (["i will ", "i'll ", "next step is to ", "i can "].findSome?
    (extractAfterCaseInsensitive content)).map fun value => truncateWithEllipsis value 180

/-- `task_priority_from_text`. -/
def taskPriorityFromText (content : String) : String :=
  let lower := toAsciiLowercase content
  if containsText lower "urgent" || containsText lower "asap" then "urgent"
  else if containsText lower "high priority" || containsText lower "important" then "high"
  else if containsText lower "low priority" then "low"
  else "normal"

/-- How long after a text its task is due, `parse_due_at`. -/
def dueAfter (content : String) : Option Int :=
  let lower := toAsciiLowercase content
  if containsText lower "tomorrow" then some day
  else if containsText lower "today" then some (12 * hour)
  else if containsText lower "next week" then some (7 * day)
  else none

/-- `priority_weight`. -/
def priorityWeight (priority : String) : Rat :=
  if priority = "urgent" then 1
  else if priority = "high" then 4 / 5
  else if priority = "low" then 1 / 4
  else 1 / 2

/-! ## Scopes and links -/

section

variable [Externals]

/-- `scope_matches`. -/
def scopeMatches (recordScopeJson queryScopeJson : String) : Bool :=
  if trim queryScopeJson = "" || trim queryScopeJson = "\x7b\x7d" then true
  else
    let query := (Externals.jsonParse queryScopeJson).getD .null
    let record := (Externals.jsonParse recordScopeJson).getD .null
    match query.asObject?, record.asObject? with
    | some queryObject, some _ =>
        queryObject.all fun (key, value) =>
          match record.get? key with
          | some found => found.same value
          | none => false
    | _, _ => false

/-- `parse_link_ids`. -/
def parseLinkIds (linksJson : String) : List String :=
  match (Externals.jsonParse linksJson).getD .null with
  | .arr items => items.filterMap fun item =>
      match item with
      | .str value => some value
      | .obj _ => (item.get? "id").bind Json.asStr?
      | _ => none
  | .obj members => members.flatMap fun (_, value) =>
      match value with
      | .arr items => items.filterMap Json.asStr?
      | .str value => [value]
      | _ => []
  | _ => []

/-- `infer_session_type`. -/
def inferSessionType (message : MessageEnvelope) : String :=
  let channelType := (Externals.jsonParse message.metadataJson).bind fun metadata =>
    ((metadata.get? "channel_type").bind Json.asStr?) <|>
      ((metadata.get? "chat_type").bind Json.asStr?)
  match channelType with
  | some channelType =>
      if ["group", "supergroup", "channel", "room"].contains channelType then "group" else "direct"
  | none =>
      if message.connector = "desktop" then "direct"
      else if message.channelId = message.sender then "direct"
      else "group"

end

/-! ## Checks -/

/-- `validate_entity_kind`. -/
def validateEntityKind (kind : String) : Except String Unit :=
  if ["person", "environment", "artifact", "task"].contains kind then .ok ()
  else .error s!"unsupported brain entity kind {kind}"

/-- `validate_environment_subtype`. -/
def validateEnvironmentSubtype (subtype : String) : Except String Unit :=
  if ["runtime", "workspace", "deployment", "project", "team", "place"].contains subtype then .ok ()
  else .error s!"unsupported brain environment subtype {subtype}"

/-- `validate_task_status`. -/
def validateTaskStatus (status : String) : Except String Unit :=
  if ["open", "in_progress", "blocked", "done", "cancelled"].contains status then .ok ()
  else .error s!"unsupported brain task status {status}"

/-- `validate_relation_kind`. -/
def validateRelationKind (kind : String) : Except String Unit :=
  if ["knows", "owns", "belongs_to", "runs_in", "about", "assigned_to", "depends_on",
      "blocked_by", "mentioned_with"].contains kind then .ok ()
  else .error s!"unsupported brain relation kind {kind}"

/-- `normalize_forget_target_kind`. -/
def normalizeForgetTargetKind (kind : String) : String :=
  if ["person", "environment", "artifact", ""].contains kind then "entity" else kind

end OpenPinch
