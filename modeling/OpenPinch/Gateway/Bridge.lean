import OpenPinch.Gateway.Schema

/-!
# The bridge to the engine

Each method of `Client` fills a request with its arguments, calls the engine and
collects its result from the response.  A record of the program is kept as its
fields by name.  The results of a method that returns several are named as the
callers name them.
-/

namespace OpenPinch.Gateway

open Lib.Proto (Conforms Form Table)
open Pb (Message schema)

/-! ## Records -/

/-- The records of `QueryMemory`. -/
def decodeMemoryRecord : Table where
  type := "MemoryRecord"
  copies := [⟨"key", .string, "Key"⟩, ⟨"namespace", .string, "Namespace"⟩,
    ⟨"content", .string, "Content"⟩, ⟨"metadata_json", .string, "MetadataJSON"⟩,
    ⟨"score", .double, "Score"⟩, ⟨"created_at", .string, "CreatedAt"⟩]

/-- The events of `ExportAudit`. -/
def decodeAuditEvent : Table where
  type := "AuditEvent"
  copies := [⟨"id", .string, "ID"⟩, ⟨"category", .string, "Category"⟩,
    ⟨"severity", .string, "Severity"⟩, ⟨"summary", .string, "Summary"⟩,
    ⟨"anomaly_score", .double, "AnomalyScore"⟩, ⟨"payload_json", .string, "PayloadJSON"⟩,
    ⟨"created_at", .string, "CreatedAt"⟩]

/-- `decodeSessionRecord`. -/
def decodeSessionRecord : Table where
  type := "SessionRecord"
  copies := [⟨"id", .string, "ID"⟩, ⟨"connector", .string, "Connector"⟩,
    ⟨"channel_id", .string, "ChannelID"⟩, ⟨"participant", .string, "Participant"⟩,
    ⟨"session_type", .string, "SessionType"⟩, ⟨"title", .string, "Title"⟩,
    ⟨"status", .string, "Status"⟩, ⟨"reply_mode", .string, "ReplyMode"⟩,
    ⟨"queue_mode", .string, "QueueMode"⟩, ⟨"model_profile", .string, "ModelProfile"⟩,
    ⟨"mention_only", .bool, "MentionOnly"⟩, ⟨"pending_pairing", .bool, "PendingPairing"⟩,
    ⟨"last_message_preview", .string, "LastMessagePreview"⟩,
    ⟨"message_count", .uint32, "MessageCount"⟩, ⟨"created_at", .string, "CreatedAt"⟩,
    ⟨"updated_at", .string, "UpdatedAt"⟩]

/-- `decodeSessionMessage`. -/
def decodeSessionMessage : Table where
  type := "SessionMessage"
  copies := [⟨"id", .string, "ID"⟩, ⟨"session_id", .string, "SessionID"⟩,
    ⟨"connector", .string, "Connector"⟩, ⟨"role", .string, "Role"⟩, ⟨"sender", .string, "Sender"⟩,
    ⟨"body", .string, "Body"⟩, ⟨"metadata_json", .string, "MetadataJSON"⟩,
    ⟨"created_at", .string, "CreatedAt"⟩]

/-- `decodePairingRecord`. -/
def decodePairingRecord : Table where
  type := "PairingRecord"
  copies := [⟨"id", .string, "ID"⟩, ⟨"connector", .string, "Connector"⟩,
    ⟨"channel_id", .string, "ChannelID"⟩, ⟨"sender", .string, "Sender"⟩,
    ⟨"session_id", .string, "SessionID"⟩, ⟨"status", .string, "Status"⟩,
    ⟨"reason", .string, "Reason"⟩, ⟨"created_at", .string, "CreatedAt"⟩,
    ⟨"updated_at", .string, "UpdatedAt"⟩]

/-- `decodeDoctorFinding`. -/
def decodeDoctorFinding : Table where
  type := "DoctorFinding"
  copies := [⟨"id", .string, "ID"⟩, ⟨"component", .string, "Component"⟩,
    ⟨"severity", .string, "Severity"⟩, ⟨"status", .string, "Status"⟩,
    ⟨"summary", .string, "Summary"⟩, ⟨"detail", .string, "Detail"⟩]

/-- `decodeModelProfile`. -/
def decodeModelProfile : Table where
  type := "ModelProfile"
  copies := [⟨"name", .string, "Name"⟩, ⟨"provider_order", .strings, "ProviderOrder"⟩,
    ⟨"mode", .string, "Mode"⟩, ⟨"timeout_seconds", .uint32, "TimeoutSeconds"⟩,
    ⟨"retry_budget", .uint32, "RetryBudget"⟩, ⟨"hosted", .bool, "Hosted"⟩,
    ⟨"auth_mode", .string, "AuthMode"⟩, ⟨"default_profile", .bool, "DefaultProfile"⟩]

/-- `decodeBrainEntity`. -/
def decodeBrainEntity : Table where
  type := "BrainEntity"
  copies := [⟨"id", .string, "ID"⟩, ⟨"kind", .string, "Kind"⟩, ⟨"subtype", .string, "Subtype"⟩,
    ⟨"title", .string, "Title"⟩, ⟨"content", .string, "Content"⟩,
    ⟨"scope_json", .string, "ScopeJSON"⟩, ⟨"links_json", .string, "LinksJSON"⟩,
    ⟨"salience", .double, "Salience"⟩, ⟨"confidence", .double, "Confidence"⟩,
    ⟨"archived", .bool, "Archived"⟩, ⟨"created_at", .string, "CreatedAt"⟩,
    ⟨"updated_at", .string, "UpdatedAt"⟩]

/-- `decodeBrainFact`. -/
def decodeBrainFact : Table where
  type := "BrainFact"
  copies := [⟨"id", .string, "ID"⟩, ⟨"entity_id", .string, "EntityID"⟩,
    ⟨"content", .string, "Content"⟩, ⟨"scope_json", .string, "ScopeJSON"⟩,
    ⟨"salience", .double, "Salience"⟩, ⟨"confidence", .double, "Confidence"⟩,
    ⟨"archived", .bool, "Archived"⟩, ⟨"created_at", .string, "CreatedAt"⟩,
    ⟨"updated_at", .string, "UpdatedAt"⟩]

/-- `decodeBrainRelation`. -/
def decodeBrainRelation : Table where
  type := "BrainRelation"
  copies := [⟨"id", .string, "ID"⟩, ⟨"kind", .string, "Kind"⟩, ⟨"from_id", .string, "FromID"⟩,
    ⟨"to_id", .string, "ToID"⟩, ⟨"metadata_json", .string, "MetadataJSON"⟩,
    ⟨"confidence", .double, "Confidence"⟩, ⟨"created_at", .string, "CreatedAt"⟩,
    ⟨"updated_at", .string, "UpdatedAt"⟩]

/-- `decodeBrainTask`. -/
def decodeBrainTask : Table where
  type := "BrainTask"
  copies := [⟨"id", .string, "ID"⟩, ⟨"title", .string, "Title"⟩, ⟨"summary", .string, "Summary"⟩,
    ⟨"status", .string, "Status"⟩, ⟨"priority", .string, "Priority"⟩, ⟨"due_at", .string, "DueAt"⟩,
    ⟨"scope_json", .string, "ScopeJSON"⟩, ⟨"links_json", .string, "LinksJSON"⟩,
    ⟨"salience", .double, "Salience"⟩, ⟨"confidence", .double, "Confidence"⟩,
    ⟨"archived", .bool, "Archived"⟩, ⟨"created_at", .string, "CreatedAt"⟩,
    ⟨"updated_at", .string, "UpdatedAt"⟩]

/-- `decodeBrainSuggestion`. -/
def decodeBrainSuggestion : Table where
  type := "BrainSuggestion"
  copies := [⟨"id", .string, "ID"⟩, ⟨"task_id", .string, "TaskID"⟩, ⟨"summary", .string, "Summary"⟩,
    ⟨"reason", .string, "Reason"⟩, ⟨"score", .double, "Score"⟩,
    ⟨"context_json", .string, "ContextJSON"⟩]

/-! ## Calls -/

/-- A method of `Client`.  The bridge can refuse a response that has no value in some
field. -/
structure EngineCall where
  method : String
  request : Message → Option Message
  response : String
  refuses : Message → Option String := fun _ => none
  result : Message → Option Message

/-- The error of a response without a message in the field. -/
def missing (field error : String) (response : Message) : Option String :=
  match response.get field with
  | some (.message none) => some error
  | _ => none

namespace Client

/-- `RunTool`, with `decodeExecuteResult`. -/
def runTool : EngineCall where
  method := "/openpinch.v1.EngineRuntimeService/RunTool"
  request := Form.fill schema ⟨"openpinch.v1.EngineToolRequest", [],
    [.copy "target" .string "tool", .copy "argumentsJSON" .string "arguments_json",
      .copy "allowNetwork" .bool "allow_network", .copy "priority" .string "priority"]⟩
  response := "openpinch.v1.ExecuteResponse"
  result := Form.collect ⟨"ExecuteResult", [],
    [.copy "success" .bool "Success", .copy "summary" .string "Summary",
      .copy "data_json" .string "DataJSON", .copy "error" .string "Error",
      .copy "logs" .strings "Logs"]⟩

/-- The message inside of the request of `DeliverMessage`. -/
def innerMessage : Table where
  type := "openpinch.v1.SubmitMessageRequest"
  copies := [⟨"Connector", .string, "connector"⟩, ⟨"ChannelID", .string, "channel_id"⟩,
    ⟨"Sender", .string, "sender"⟩, ⟨"Body", .string, "body"⟩,
    ⟨"MetadataJSON", .string, "metadata_json"⟩]

/-- `DeliverMessage`, of a `Message`. -/
def deliverMessage : EngineCall where
  method := "/openpinch.v1.EngineRuntimeService/DeliverMessage"
  request message := do
    let inner ← innerMessage.fill schema message
    let request ← schema.newMessage "openpinch.v1.EngineMessageRequest"
    request.set schema "message" (.message (some inner))
  response := "openpinch.v1.SubmitMessageResponse"
  result := Form.collect ⟨"MessageResult", [],
    [.copy "accepted" .bool "Accepted", .copy "message_id" .string "MessageID",
      .copy "reply" .string "Reply", .copy "session_id" .string "SessionID",
      .copy "pairing_id" .string "PairingID", .copy "delivery_state" .string "DeliveryState"]⟩

/-- `QueryMemory`. -/
def queryMemory : EngineCall where
  method := "/openpinch.v1.EngineRuntimeService/QueryMemory"
  request := Form.fill schema ⟨"openpinch.v1.MemoryQueryRequest", [],
    [.copy "namespace" .string "namespace", .copy "query" .string "query",
      .copy "limit" .uint32 "limit", .copy "filterJSON" .string "filter_json"]⟩
  response := "openpinch.v1.MemoryQueryResponse"
  result := Form.collect ⟨"", [],
    [.children "records" decodeMemoryRecord "records", .copy "backend" .string "backend"]⟩

/-- `UpsertMemory`. -/
def upsertMemory : EngineCall where
  method := "/openpinch.v1.EngineRuntimeService/UpsertMemory"
  request := Form.fill schema ⟨"openpinch.v1.MemoryUpsertRequest", [],
    [.copy "namespace" .string "namespace", .copy "key" .string "key",
      .copy "content" .string "content", .copy "metadataJSON" .string "metadata_json"]⟩
  response := "openpinch.v1.MemoryUpsertResponse"
  result := Form.collect ⟨"", [],
    [.copy "stored" .bool "stored", .copy "backend" .string "backend",
      .copy "digest" .string "digest"]⟩

/-- `ListSessions`, with `decodeSessions`. -/
def listSessions : EngineCall where
  method := "/openpinch.v1.EngineRuntimeService/ListSessions"
  request := Form.fill schema ⟨"openpinch.v1.SessionListRequest", [],
    [.copy "connector" .string "connector", .copy "status" .string "status",
      .copy "includeArchived" .bool "include_archived", .copy "limit" .uint32 "limit"]⟩
  response := "openpinch.v1.SessionListResponse"
  result := Form.collect ⟨"", [],
    [.children "sessions" decodeSessionRecord "sessions", .copy "summary" .string "summary"]⟩

/-- `GetSession`, with `decodeSessionMessages`. -/
def getSession : EngineCall where
  method := "/openpinch.v1.EngineRuntimeService/GetSession"
  request := Form.fill schema ⟨"openpinch.v1.SessionRequest", [],
    [.copy "sessionID" .string "session_id", .copy "limit" .uint32 "limit"]⟩
  response := "openpinch.v1.SessionResponse"
  result := Form.collect ⟨"SessionDetail", [],
    [.child "session" decodeSessionRecord "Session",
      .children "messages" decodeSessionMessage "Messages"]⟩

/-- `PruneSessions`. -/
def pruneSessions : EngineCall where
  method := "/openpinch.v1.EngineRuntimeService/PruneSessions"
  request := Form.fill schema ⟨"openpinch.v1.SessionPruneRequest", [],
    [.copy "olderThanHours" .uint32 "older_than_hours",
      .copy "archiveOnly" .bool "archive_only"]⟩
  response := "openpinch.v1.SessionPruneResponse"
  result := Form.collect ⟨"", [], [.copy "pruned" .uint32 "pruned"]⟩

/-- `ListPairings`, with `decodePairings`. -/
def listPairings : EngineCall where
  method := "/openpinch.v1.EngineRuntimeService/ListPairings"
  request := Form.fill schema ⟨"openpinch.v1.PairingListRequest", [],
    [.copy "status" .string "status", .copy "connector" .string "connector",
      .copy "limit" .uint32 "limit"]⟩
  response := "openpinch.v1.PairingListResponse"
  result := Form.collect ⟨"", [], [.children "pairings" decodePairingRecord "pairings"]⟩

/-- `UpdatePairing`. -/
def updatePairing : EngineCall where
  method := "/openpinch.v1.EngineRuntimeService/UpdatePairing"
  request := Form.fill schema ⟨"openpinch.v1.PairingUpdateRequest", [],
    [.copy "pairingID" .string "pairing_id", .copy "action" .string "action",
      .copy "note" .string "note"]⟩
  response := "openpinch.v1.PairingUpdateResponse"
  refuses := missing "pairing" "pairing update response missing pairing"
  result := Form.collect ⟨"", [], [.child "pairing" decodePairingRecord "pairing"]⟩

/-- `GetDoctorReport`, with `decodeDoctorFindings`. -/
def getDoctorReport : EngineCall where
  method := "/openpinch.v1.EngineRuntimeService/GetDoctorReport"
  request := Form.fill schema ⟨"openpinch.v1.DoctorReportRequest", [],
    [.copy "includeConnectors" .bool "include_connectors",
      .copy "includeModels" .bool "include_models", .copy "includeDesktop" .bool "include_web",
      .copy "includeDesktop" .bool "include_desktop"]⟩
  response := "openpinch.v1.DoctorReportResponse"
  result := Form.collect ⟨"DoctorReport", [],
    [.copy "status" .string "Status", .children "findings" decodeDoctorFinding "Findings"]⟩

/-- `ListModelProfiles`, with `decodeModelProfiles`. -/
def listModelProfiles : EngineCall where
  method := "/openpinch.v1.EngineRuntimeService/ListModelProfiles"
  request := Form.fill schema ⟨"openpinch.v1.Empty", [], []⟩
  response := "openpinch.v1.ModelProfileListResponse"
  result := Form.collect ⟨"", [], [.children "profiles" decodeModelProfile "profiles"]⟩

/-- `RememberBrain`. -/
def rememberBrain : EngineCall where
  method := "/openpinch.v1.EngineRuntimeService/RememberBrain"
  request := Form.fill schema ⟨"openpinch.v1.BrainRememberRequest", [],
    [.copy "kind" .string "kind", .copy "subtype" .string "subtype",
      .copy "title" .string "title", .copy "content" .string "content",
      .copy "importance" .double "importance", .copy "scopeJSON" .string "scope_json",
      .copy "linksJSON" .string "links_json", .copy "sourceRef" .string "source_ref"]⟩
  response := "openpinch.v1.BrainRememberResponse"
  result := Form.collect ⟨"BrainRememberResult", [],
    [.copy "stored" .bool "Stored", .copy "digest" .string "Digest",
      .child "entity" decodeBrainEntity "Entity", .child "task" decodeBrainTask "Task"]⟩

/-- `RecallBrain`, with `decodeBrainEntities`, `decodeBrainFacts`,
`decodeBrainRelations` and `decodeBrainTasks`. -/
def recallBrain : EngineCall where
  method := "/openpinch.v1.EngineRuntimeService/RecallBrain"
  request := Form.fill schema ⟨"openpinch.v1.BrainRecallRequest", [],
    [.copy "query" .string "query", .copy "scopeJSON" .string "scope_json",
      .copy "limit" .uint32 "limit", .copy "includeArchived" .bool "include_archived"]⟩
  response := "openpinch.v1.BrainRecallResponse"
  result := Form.collect ⟨"BrainRecallResult", [],
    [.copy "summary" .string "Summary", .children "entities" decodeBrainEntity "Entities",
      .children "facts" decodeBrainFact "Facts",
      .children "relations" decodeBrainRelation "Relations",
      .children "tasks" decodeBrainTask "Tasks"]⟩

/-- `SuggestBrain`, with `decodeBrainSuggestions`. -/
def suggestBrain : EngineCall where
  method := "/openpinch.v1.EngineRuntimeService/SuggestBrain"
  request := Form.fill schema ⟨"openpinch.v1.BrainSuggestRequest", [],
    [.copy "scopeJSON" .string "scope_json", .copy "limit" .uint32 "limit"]⟩
  response := "openpinch.v1.BrainSuggestResponse"
  result := Form.collect ⟨"BrainSuggestResult", [],
    [.copy "summary" .string "Summary",
      .children "suggestions" decodeBrainSuggestion "Suggestions"]⟩

/-- `ListBrainTasks`. -/
def listBrainTasks : EngineCall where
  method := "/openpinch.v1.EngineRuntimeService/ListBrainTasks"
  request := Form.fill schema ⟨"openpinch.v1.BrainTaskListRequest", [],
    [.copy "scopeJSON" .string "scope_json", .copy "statuses" .strings "statuses",
      .copy "priorities" .strings "priorities", .copy "dueBefore" .string "due_before",
      .copy "limit" .uint32 "limit"]⟩
  response := "openpinch.v1.BrainTaskListResponse"
  result := Form.collect ⟨"BrainTaskListResult", [],
    [.copy "summary" .string "Summary", .children "tasks" decodeBrainTask "Tasks"]⟩

/-- `UpdateBrainTask`. -/
def updateBrainTask : EngineCall where
  method := "/openpinch.v1.EngineRuntimeService/UpdateBrainTask"
  request := Form.fill schema ⟨"openpinch.v1.BrainTaskUpdateRequest", [],
    [.copy "taskID" .string "task_id", .copy "status" .string "status",
      .copy "priority" .string "priority", .copy "dueAt" .string "due_at",
      .copy "summary" .string "summary", .copy "linksJSON" .string "links_json",
      .copy "sourceRef" .string "source_ref"]⟩
  response := "openpinch.v1.BrainTaskUpdateResponse"
  refuses := missing "task" "brain task update response missing task"
  result := Form.collect ⟨"", [], [.child "task" decodeBrainTask "task"]⟩

/-- `ForgetBrain`. -/
def forgetBrain : EngineCall where
  method := "/openpinch.v1.EngineRuntimeService/ForgetBrain"
  request := Form.fill schema ⟨"openpinch.v1.BrainForgetRequest", [],
    [.copy "targetKind" .string "target_kind", .copy "targetID" .string "target_id",
      .copy "mode" .string "mode", .copy "reason" .string "reason"]⟩
  response := "openpinch.v1.BrainForgetResponse"
  result := Form.collect ⟨"BrainForgetResult", [],
    [.copy "forgotten" .bool "Forgotten", .copy "mode" .string "Mode",
      .copy "target_id" .string "TargetID"]⟩

/-- `AttestSession`. -/
def attestSession : EngineCall where
  method := "/openpinch.v1.EngineRuntimeService/AttestSession"
  request := Form.fill schema ⟨"openpinch.v1.AttestationRequest", [],
    [.copy "subject" .string "subject", .copy "nonce" .string "nonce",
      .copy "includeHardware" .bool "include_hardware"]⟩
  response := "openpinch.v1.AttestationResponse"
  result := Form.collect ⟨"AttestationResult", [],
    [.copy "status" .string "Status", .copy "subject" .string "Subject",
      .copy "platform" .string "Platform", .copy "hardware_backed" .bool "HardwareBacked",
      .copy "nonce" .string "Nonce", .copy "public_key" .string "PublicKey",
      .copy "measurements" .stringMap "Measurements"]⟩

/-- `ExportAudit`. -/
def exportAudit : EngineCall where
  method := "/openpinch.v1.EngineRuntimeService/ExportAudit"
  request := Form.fill schema ⟨"openpinch.v1.AuditExportRequest", [],
    [.copy "sink" .string "sink", .copy "limit" .uint32 "limit"]⟩
  response := "openpinch.v1.AuditExportResponse"
  result := Form.collect ⟨"", [],
    [.children "events" decodeAuditEvent "events", .copy "format" .string "format"]⟩

/-- `QueueTask`. -/
def queueTask : EngineCall where
  method := "/openpinch.v1.EngineRuntimeService/QueueTask"
  request := Form.fill schema ⟨"openpinch.v1.QueueTaskRequest", [],
    [.copy "taskID" .string "task_id", .copy "taskType" .string "task_type",
      .copy "target" .string "target", .copy "argumentsJSON" .string "arguments_json",
      .copy "priority" .string "priority"]⟩
  response := "openpinch.v1.QueueTaskResponse"
  result := Form.collect ⟨"QueueReceipt", [],
    [.copy "accepted" .bool "Accepted", .copy "task_id" .string "TaskID",
      .copy "queue" .string "Queue", .copy "message" .string "Message"]⟩

/-- `GetPolicyReport`. -/
def getPolicyReport : EngineCall where
  method := "/openpinch.v1.EngineRuntimeService/GetPolicyReport"
  request := Form.fill schema ⟨"openpinch.v1.PolicyReportRequest", [],
    [.copy "subject" .string "subject", .copy "capability" .string "capability"]⟩
  response := "openpinch.v1.PolicyReportResponse"
  result := Form.collect ⟨"PolicyReport", [],
    [.copy "subject" .string "Subject",
      .copy "allowed_capabilities" .strings "AllowedCapabilities",
      .copy "denied_capabilities" .strings "DeniedCapabilities",
      .copy "source" .string "Source"]⟩

/-- The messages of a request of `RunAgentProtocol`. -/
def agentMessage : Table where
  type := "openpinch.v1.AgentMessage"
  copies := [⟨"Sender", .string, "sender"⟩, ⟨"Recipient", .string, "recipient"⟩,
    ⟨"Body", .string, "body"⟩, ⟨"MetadataJSON", .string, "metadata_json"⟩,
    ⟨"EncryptedBody", .string, "encrypted_body"⟩]

/-- `RunAgentProtocol`. -/
def runAgentProtocol : EngineCall where
  method := "/openpinch.v1.EngineRuntimeService/RunAgentProtocol"
  request := Form.fill schema ⟨"openpinch.v1.AgentProtocolRequest", [],
    [.copy "protocolID" .string "protocol_id", .copy "initiator" .string "initiator",
      .copy "policyScope" .string "policy_scope", .children "messages" agentMessage "messages"]⟩
  response := "openpinch.v1.AgentProtocolResponse"
  result := Form.collect ⟨"AgentProtocolResult", [],
    [.copy "accepted" .bool "Accepted", .copy "protocol_id" .string "ProtocolID",
      .copy "transcript_json" .string "TranscriptJSON", .copy "findings" .strings "Findings"]⟩

end Client

/-! ## The engine -/

/-- The methods of `EngineRuntimeService` that the gateway calls, with the types of
their requests and responses. -/
def engineRuntimeService : List (String × String × String) :=
  [("RunTool", "EngineToolRequest", "ExecuteResponse"),
    ("DeliverMessage", "EngineMessageRequest", "SubmitMessageResponse"),
    ("QueryMemory", "MemoryQueryRequest", "MemoryQueryResponse"),
    ("UpsertMemory", "MemoryUpsertRequest", "MemoryUpsertResponse"),
    ("ListSessions", "SessionListRequest", "SessionListResponse"),
    ("GetSession", "SessionRequest", "SessionResponse"),
    ("PruneSessions", "SessionPruneRequest", "SessionPruneResponse"),
    ("ListPairings", "PairingListRequest", "PairingListResponse"),
    ("UpdatePairing", "PairingUpdateRequest", "PairingUpdateResponse"),
    ("GetDoctorReport", "DoctorReportRequest", "DoctorReportResponse"),
    ("ListModelProfiles", "Empty", "ModelProfileListResponse"),
    ("RememberBrain", "BrainRememberRequest", "BrainRememberResponse"),
    ("RecallBrain", "BrainRecallRequest", "BrainRecallResponse"),
    ("SuggestBrain", "BrainSuggestRequest", "BrainSuggestResponse"),
    ("ListBrainTasks", "BrainTaskListRequest", "BrainTaskListResponse"),
    ("UpdateBrainTask", "BrainTaskUpdateRequest", "BrainTaskUpdateResponse"),
    ("ForgetBrain", "BrainForgetRequest", "BrainForgetResponse"),
    ("RunAgentProtocol", "AgentProtocolRequest", "AgentProtocolResponse"),
    ("AttestSession", "AttestationRequest", "AttestationResponse"),
    ("ExportAudit", "AuditExportRequest", "AuditExportResponse"),
    ("QueueTask", "QueueTaskRequest", "QueueTaskResponse"),
    ("GetPolicyReport", "PolicyReportRequest", "PolicyReportResponse")]

/-- The engine behind its socket.  In a state it answers a method with a message of
the type of its responses, or with the text of an error. -/
structure Engine (σ : Type) where
  respond : String → Message → σ → Except String Message × σ
  typed : ∀ rpc ∈ engineRuntimeService, ∀ {request s response s'},
    respond ("/openpinch.v1.EngineRuntimeService/" ++ rpc.1) request s = (.ok response, s') →
      Conforms schema ("openpinch.v1." ++ rpc.2.2) response

instance (σ : Type) : Inhabited (Engine σ) where
  default :=
    { respond := fun _ _ s => (.error "rpc error: code = Unavailable", s)
      typed := fun _ _ _ _ _ _ h => by cases h }

/-- The call, with the `invoke` in it. -/
def EngineCall.run {σ : Type} (engine : Engine σ) (call : EngineCall) (arguments : Message)
    (s : σ) : Option (Except String Message × σ) :=
  (call.request arguments).bind fun request =>
    match engine.respond call.method request s with
    | (.error text, s') => some (.error text, s')
    | (.ok response, s') =>
        match call.refuses response with
        | some text => some (.error text, s')
        | none => (call.result response).map fun result => (.ok result, s')

end OpenPinch.Gateway
