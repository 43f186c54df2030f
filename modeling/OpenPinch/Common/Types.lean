import OpenPinch.Lib.SortedMap

/-!
# Records and configuration

The requests, records and configuration sections that the engine works with.
Configuration fields that no modelled function reads are left out.
-/

namespace OpenPinch

/-- An instant, `DateTime<Utc>`, in nanoseconds since the epoch. -/
abbrev Instant := Int

/-- One hour. -/
def hour : Int := 3600000000000

/-- One day. -/
def day : Int := 24 * hour

/-! ## Messages, sessions and pairings -/

structure MessageEnvelope where
  connector : String
  channelId : String
  sender : String
  body : String
  metadataJson : String
deriving DecidableEq, Repr

structure OutboundMessage where
  connector : String
  channelId : String
  sender : String
  body : String
  metadataJson : String
  sessionId : String
deriving DecidableEq, Repr

structure SessionRecord where
  id : String
  connector : String
  channelId : String
  participant : String
  sessionType : String
  title : String
  status : String
  replyMode : String
  queueMode : String
  modelProfile : String
  mentionOnly : Bool
  pendingPairing : Bool
  lastMessagePreview : String
  messageCount : Nat
  createdAt : Instant
  updatedAt : Instant
deriving DecidableEq, Repr

structure SessionMessageRecord where
  id : String
  sessionId : String
  connector : String
  role : String
  sender : String
  body : String
  metadataJson : String
  createdAt : Instant
deriving DecidableEq, Repr

structure SessionListQuery where
  connector : Option String
  status : Option String
  includeArchived : Bool
  limit : Nat
deriving DecidableEq, Repr

structure SessionDetailQuery where
  sessionId : String
  limit : Nat
deriving DecidableEq, Repr

structure SessionDetail where
  session : SessionRecord
  messages : List SessionMessageRecord
deriving DecidableEq, Repr

structure SessionPruneRequestRecord where
  olderThanHours : Nat
  archiveOnly : Bool
deriving DecidableEq, Repr

structure PairingRecord where
  id : String
  connector : String
  channelId : String
  sender : String
  sessionId : String
  status : String
  reason : String
  createdAt : Instant
  updatedAt : Instant
deriving DecidableEq, Repr

structure PairingListQuery where
  status : Option String
  connector : Option String
  limit : Nat
deriving DecidableEq, Repr

structure PairingUpdate where
  pairingId : String
  action : String
  note : String
deriving DecidableEq, Repr

structure OutboundMessageResult where
  accepted : Bool
  messageId : String
  sessionId : String
  status : String
  detail : String
deriving DecidableEq, Repr

structure InboundMessageResult where
  accepted : Bool
  messageId : String
  sessionId : String
  pairingId : String
  deliveryState : String
  reply : String
deriving DecidableEq, Repr

/-! ## Memory, audit, queue and tools -/

structure MemoryRecord where
  key : String
  nameSpace : String
  content : String
  metadataJson : String
  score : Rat
  createdAt : Instant
deriving DecidableEq, Repr

structure MemoryQuery where
  nameSpace : String
  query : String
  limit : Nat
  filterJson : String
deriving DecidableEq, Repr

structure AuditEvent where
  id : String
  category : String
  severity : String
  summary : String
  anomalyScore : Rat
  payloadJson : String
  createdAt : Instant
deriving DecidableEq, Repr

inductive QueuePriority where
  | interactive
  | connector
  | autonomy
  | background
deriving DecidableEq, Repr

/-- `QueuePriority::as_str`. -/
def QueuePriority.asStr : QueuePriority → String
  | .interactive => "interactive"
  | .connector => "connector"
  | .autonomy => "autonomy"
  | .background => "background"

structure QueueTask where
  taskId : String
  taskType : String
  target : String
  argumentsJson : String
  priority : QueuePriority
deriving DecidableEq, Repr

structure ScheduleRequest where
  jobId : String
  cron : String
  tool : String
  argumentsJson : String
deriving DecidableEq, Repr

structure ToolCall where
  target : String
  argumentsJson : String
  allowNetwork : Bool
  priority : QueuePriority
deriving DecidableEq, Repr

structure ToolOutcome where
  success : Bool
  summary : String
  dataJson : String
  error : String
  logs : List String
deriving DecidableEq, Repr

/-! ## The brain -/

structure BrainRemember where
  kind : String
  subtype : String
  title : String
  content : String
  importance : Rat
  scopeJson : String
  linksJson : String
  sourceRef : String
deriving DecidableEq, Repr

structure BrainRecallQuery where
  query : String
  scopeJson : String
  limit : Nat
  includeArchived : Bool
deriving DecidableEq, Repr

structure BrainSuggestQuery where
  scopeJson : String
  limit : Nat
deriving DecidableEq, Repr

structure BrainTaskListQuery where
  scopeJson : String
  statuses : List String
  priorities : List String
  dueBefore : Option Instant
  limit : Nat
deriving DecidableEq, Repr

structure BrainTaskUpdate where
  taskId : String
  status : String
  priority : String
  dueAt : Option Instant
  summary : String
  linksJson : String
  sourceRef : String
deriving DecidableEq, Repr

structure BrainForget where
  targetKind : String
  targetId : String
  mode : String
  reason : String
deriving DecidableEq, Repr

structure BrainEntityRecord where
  id : String
  kind : String
  subtype : String
  title : String
  content : String
  scopeJson : String
  linksJson : String
  salience : Rat
  confidence : Rat
  archived : Bool
  createdAt : Instant
  updatedAt : Instant
deriving DecidableEq, Repr

structure BrainFactRecord where
  id : String
  entityId : String
  content : String
  scopeJson : String
  salience : Rat
  confidence : Rat
  archived : Bool
  createdAt : Instant
  updatedAt : Instant
deriving DecidableEq, Repr

structure BrainRelationRecord where
  id : String
  kind : String
  fromId : String
  toId : String
  metadataJson : String
  confidence : Rat
  createdAt : Instant
  updatedAt : Instant
deriving DecidableEq, Repr

structure BrainTaskRecord where
  id : String
  title : String
  summary : String
  status : String
  priority : String
  dueAt : Option Instant
  scopeJson : String
  linksJson : String
  salience : Rat
  confidence : Rat
  archived : Bool
  createdAt : Instant
  updatedAt : Instant
deriving DecidableEq, Repr

structure BrainSuggestionRecord where
  id : String
  taskId : String
  summary : String
  reason : String
  score : Rat
  contextJson : String
deriving DecidableEq, Repr

structure BrainRecallResult where
  summary : String
  entities : List BrainEntityRecord
  facts : List BrainFactRecord
  relations : List BrainRelationRecord
  tasks : List BrainTaskRecord
deriving DecidableEq, Repr

structure BrainSuggestResult where
  summary : String
  suggestions : List BrainSuggestionRecord
deriving DecidableEq, Repr

structure BrainTaskListResult where
  summary : String
  tasks : List BrainTaskRecord
deriving DecidableEq, Repr

structure BrainRememberResult where
  stored : Bool
  entity : Option BrainEntityRecord
  task : Option BrainTaskRecord
  digest : String
deriving DecidableEq, Repr

structure BrainForgetResult where
  forgotten : Bool
  mode : String
  targetId : String
deriving DecidableEq, Repr

/-! ## Configuration -/

structure ConnectorConfig where
  allowlist : List String := []
  pairDm : Bool := false
  mentionOnly : Bool := false
deriving DecidableEq, Repr, Inhabited

structure RoutingConfig where
  autoPairDm : Bool
  mentionOnlyInGroups : Bool
  mentionNames : List String
deriving DecidableEq, Repr

structure SessionsConfig where
  defaultReplyMode : String
  defaultQueueMode : String
deriving DecidableEq, Repr

structure BrainConfig where
  enabled : Bool
  autoIngestMessages : Bool
  autoIngestToolResults : Bool
  autoIngestAssistantCommitments : Bool
  inlineSuggestionsInReplies : Bool
  maxInlineSuggestions : Nat
  contextBudgetChars : Nat
  archiveDecayDays : Int
  staleTaskHours : Int
deriving DecidableEq, Repr

structure OrchestrationConfig where
  providerOrder : List String
  semanticCacheEnabled : Bool
  prefixCacheEnabled : Bool
  exactCacheEnabled : Bool
  speculativeEnabled : Bool
deriving DecidableEq, Repr

structure ModelProviderConfig where
  kind : String
  draftModel : String
  speculativeEnabled : Bool
  enabled : Bool
deriving DecidableEq, Repr

structure ModelProfileConfig where
  providerOrder : List String
deriving DecidableEq, Repr

structure ModelFailoverConfig where
  defaultProfile : String
deriving DecidableEq, Repr

/-- The part of `AppConfig` that the engine reads while it handles messages. -/
structure AppConfig where
  orchestration : OrchestrationConfig
  brain : BrainConfig
  sessions : SessionsConfig
  routing : RoutingConfig
  connectors : Lib.SortedMap String ConnectorConfig
  models : Lib.SortedMap String ModelProviderConfig
  modelProfiles : Lib.SortedMap String ModelProfileConfig
  modelFailover : ModelFailoverConfig

/-- The configuration of a connector, `connectors.get(name).cloned().unwrap_or_default()`. -/
def AppConfig.connector (config : AppConfig) (name : String) : ConnectorConfig :=
  (config.connectors.get? name).getD default

end OpenPinch
