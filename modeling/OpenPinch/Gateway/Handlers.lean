import OpenPinch.Gateway.Bridge

/-!
# The handlers of the gateway

A unary handler reads arguments from the request, makes a call over the bridge and
fills a response with the result.  Some handlers publish what happened to the
desktop.
-/

namespace OpenPinch.Gateway

open Lib.Proto (Form Table)
open Pb (Message schema)

/-! ## Messages of the responses -/

/-- `protoAuditEventMessage`. -/
def protoAuditEventMessage : Table where
  type := "openpinch.v1.AuditEvent"
  copies := [⟨"ID", .string, "id"⟩, ⟨"Category", .string, "category"⟩,
    ⟨"Severity", .string, "severity"⟩, ⟨"Summary", .string, "summary"⟩,
    ⟨"AnomalyScore", .double, "anomaly_score"⟩, ⟨"PayloadJSON", .string, "payload_json"⟩,
    ⟨"CreatedAt", .string, "created_at"⟩]

/-- `protoMemoryRecordMessage`. -/
def protoMemoryRecordMessage : Table where
  type := "openpinch.v1.MemoryRecord"
  copies := [⟨"Key", .string, "key"⟩, ⟨"Namespace", .string, "namespace"⟩,
    ⟨"Content", .string, "content"⟩, ⟨"MetadataJSON", .string, "metadata_json"⟩,
    ⟨"Score", .double, "score"⟩, ⟨"CreatedAt", .string, "created_at"⟩]

/-- `protoSessionRecordMessage`. -/
def protoSessionRecordMessage : Table where
  type := "openpinch.v1.SessionRecord"
  copies := [⟨"ID", .string, "id"⟩, ⟨"Connector", .string, "connector"⟩,
    ⟨"ChannelID", .string, "channel_id"⟩, ⟨"Participant", .string, "participant"⟩,
    ⟨"SessionType", .string, "session_type"⟩, ⟨"Title", .string, "title"⟩,
    ⟨"Status", .string, "status"⟩, ⟨"ReplyMode", .string, "reply_mode"⟩,
    ⟨"QueueMode", .string, "queue_mode"⟩, ⟨"ModelProfile", .string, "model_profile"⟩,
    ⟨"MentionOnly", .bool, "mention_only"⟩, ⟨"PendingPairing", .bool, "pending_pairing"⟩,
    ⟨"LastMessagePreview", .string, "last_message_preview"⟩,
    ⟨"MessageCount", .uint32, "message_count"⟩, ⟨"CreatedAt", .string, "created_at"⟩,
    ⟨"UpdatedAt", .string, "updated_at"⟩]

/-- `protoSessionMessageMessage`. -/
def protoSessionMessageMessage : Table where
  type := "openpinch.v1.SessionMessage"
  copies := [⟨"ID", .string, "id"⟩, ⟨"SessionID", .string, "session_id"⟩,
    ⟨"Connector", .string, "connector"⟩, ⟨"Role", .string, "role"⟩, ⟨"Sender", .string, "sender"⟩,
    ⟨"Body", .string, "body"⟩, ⟨"MetadataJSON", .string, "metadata_json"⟩,
    ⟨"CreatedAt", .string, "created_at"⟩]

/-- `protoPairingRecordMessage`. -/
def protoPairingRecordMessage : Table where
  type := "openpinch.v1.PairingRecord"
  copies := [⟨"ID", .string, "id"⟩, ⟨"Connector", .string, "connector"⟩,
    ⟨"ChannelID", .string, "channel_id"⟩, ⟨"Sender", .string, "sender"⟩,
    ⟨"SessionID", .string, "session_id"⟩, ⟨"Status", .string, "status"⟩,
    ⟨"Reason", .string, "reason"⟩, ⟨"CreatedAt", .string, "created_at"⟩,
    ⟨"UpdatedAt", .string, "updated_at"⟩]

/-- `protoDoctorFindingMessage`. -/
def protoDoctorFindingMessage : Table where
  type := "openpinch.v1.DoctorFinding"
  copies := [⟨"ID", .string, "id"⟩, ⟨"Component", .string, "component"⟩,
    ⟨"Severity", .string, "severity"⟩, ⟨"Status", .string, "status"⟩,
    ⟨"Summary", .string, "summary"⟩, ⟨"Detail", .string, "detail"⟩]

/-- `protoModelProfileMessage`. -/
def protoModelProfileMessage : Table where
  type := "openpinch.v1.ModelProfile"
  copies := [⟨"Name", .string, "name"⟩, ⟨"ProviderOrder", .strings, "provider_order"⟩,
    ⟨"Mode", .string, "mode"⟩, ⟨"TimeoutSeconds", .uint32, "timeout_seconds"⟩,
    ⟨"RetryBudget", .uint32, "retry_budget"⟩, ⟨"Hosted", .bool, "hosted"⟩,
    ⟨"AuthMode", .string, "auth_mode"⟩, ⟨"DefaultProfile", .bool, "default_profile"⟩]

/-- `protoBrainEntityMessage`. -/
def protoBrainEntityMessage : Table where
  type := "openpinch.v1.BrainEntity"
  copies := [⟨"ID", .string, "id"⟩, ⟨"Kind", .string, "kind"⟩, ⟨"Subtype", .string, "subtype"⟩,
    ⟨"Title", .string, "title"⟩, ⟨"Content", .string, "content"⟩,
    ⟨"ScopeJSON", .string, "scope_json"⟩, ⟨"LinksJSON", .string, "links_json"⟩,
    ⟨"Salience", .double, "salience"⟩, ⟨"Confidence", .double, "confidence"⟩,
    ⟨"Archived", .bool, "archived"⟩, ⟨"CreatedAt", .string, "created_at"⟩,
    ⟨"UpdatedAt", .string, "updated_at"⟩]

/-- `protoBrainFactMessage`. -/
def protoBrainFactMessage : Table where
  type := "openpinch.v1.BrainFact"
  copies := [⟨"ID", .string, "id"⟩, ⟨"EntityID", .string, "entity_id"⟩,
    ⟨"Content", .string, "content"⟩, ⟨"ScopeJSON", .string, "scope_json"⟩,
    ⟨"Salience", .double, "salience"⟩, ⟨"Confidence", .double, "confidence"⟩,
    ⟨"Archived", .bool, "archived"⟩, ⟨"CreatedAt", .string, "created_at"⟩,
    ⟨"UpdatedAt", .string, "updated_at"⟩]

/-- `protoBrainRelationMessage`. -/
def protoBrainRelationMessage : Table where
  type := "openpinch.v1.BrainRelation"
  copies := [⟨"ID", .string, "id"⟩, ⟨"Kind", .string, "kind"⟩, ⟨"FromID", .string, "from_id"⟩,
    ⟨"ToID", .string, "to_id"⟩, ⟨"MetadataJSON", .string, "metadata_json"⟩,
    ⟨"Confidence", .double, "confidence"⟩, ⟨"CreatedAt", .string, "created_at"⟩,
    ⟨"UpdatedAt", .string, "updated_at"⟩]

/-- `protoBrainTaskMessage`. -/
def protoBrainTaskMessage : Table where
  type := "openpinch.v1.BrainTask"
  copies := [⟨"ID", .string, "id"⟩, ⟨"Title", .string, "title"⟩, ⟨"Summary", .string, "summary"⟩,
    ⟨"Status", .string, "status"⟩, ⟨"Priority", .string, "priority"⟩, ⟨"DueAt", .string, "due_at"⟩,
    ⟨"ScopeJSON", .string, "scope_json"⟩, ⟨"LinksJSON", .string, "links_json"⟩,
    ⟨"Salience", .double, "salience"⟩, ⟨"Confidence", .double, "confidence"⟩,
    ⟨"Archived", .bool, "archived"⟩, ⟨"CreatedAt", .string, "created_at"⟩,
    ⟨"UpdatedAt", .string, "updated_at"⟩]

/-- `protoBrainSuggestionMessage`. -/
def protoBrainSuggestionMessage : Table where
  type := "openpinch.v1.BrainSuggestion"
  copies := [⟨"ID", .string, "id"⟩, ⟨"TaskID", .string, "task_id"⟩, ⟨"Summary", .string, "summary"⟩,
    ⟨"Reason", .string, "reason"⟩, ⟨"Score", .double, "score"⟩,
    ⟨"ContextJSON", .string, "context_json"⟩]

/-! ## Handlers -/

/-- An event that is published, with its payload. -/
structure Published where
  eventType : String
  payload : Message

/-- A unary method of `Service` that calls the engine.  Its errors are statuses
`Internal`. -/
structure Handler where
  request : String
  arguments : Message → Option Message
  call : EngineCall
  failure : String
  response : Message → Option Message
  publish : Message → Message → Option (List Published) := fun _ _ => some []

namespace Service

/-- `Execute`, with `executeResultMessage`. -/
def execute : Handler where
  request := "openpinch.v1.ExecuteRequest"
  arguments := Form.collect ⟨"", [],
    [.copy "target" .string "target", .copy "arguments_json" .string "argumentsJSON",
      .copy "allow_network" .bool "allowNetwork", .copy "priority" .string "priority"]⟩
  call := Client.runTool
  failure := "execute tool: "
  response := Form.fill schema ⟨"openpinch.v1.ExecuteResponse", [],
    [.copy "Success" .bool "success", .copy "Summary" .string "summary",
      .copy "DataJSON" .string "data_json", .copy "Error" .string "error",
      .copy "Logs" .strings "logs"]⟩

/-- `SubmitMessage`. -/
def submitMessage : Handler where
  request := "openpinch.v1.SubmitMessageRequest"
  arguments := Table.collect ⟨"Message",
    [⟨"connector", .string, "Connector"⟩, ⟨"channel_id", .string, "ChannelID"⟩,
      ⟨"sender", .string, "Sender"⟩, ⟨"body", .string, "Body"⟩,
      ⟨"metadata_json", .string, "MetadataJSON"⟩]⟩
  call := Client.deliverMessage
  failure := "deliver message: "
  response := Form.fill schema ⟨"openpinch.v1.SubmitMessageResponse", [],
    [.copy "Accepted" .bool "accepted", .copy "MessageID" .string "message_id",
      .copy "Reply" .string "reply", .copy "SessionID" .string "session_id",
      .copy "PairingID" .string "pairing_id", .copy "DeliveryState" .string "delivery_state"]⟩
  publish request result := do
    let connector ← request.read "connector" .string
    let channelId ← request.read "channel_id" .string
    let sender ← request.read "sender" .string
    let body ← request.read "body" .string
    let reply ← result.read "Reply" .string
    let sessionId ← result.read "SessionID" .string
    let deliveryState ← result.read "DeliveryState" .string
    let inbound := ⟨"message.inbound", "", [("connector", connector), ("channel_id", channelId),
      ("sender", sender), ("body", body), ("session_id", sessionId),
      ("delivery_state", deliveryState)]⟩
    return inbound :: match reply with
      | .string "" => []
      | _ => [⟨"message.reply", "", [("connector", connector), ("channel_id", channelId),
          ("body", reply), ("session_id", sessionId)]⟩]

/-- `AttestSession`. -/
def attestSession : Handler where
  request := "openpinch.v1.AttestationRequest"
  arguments := Form.collect ⟨"", [],
    [.copy "subject" .string "subject", .copy "nonce" .string "nonce",
      .copy "include_hardware" .bool "includeHardware"]⟩
  call := Client.attestSession
  failure := "attest session: "
  response := Form.fill schema ⟨"openpinch.v1.AttestationResponse", [],
    [.copy "Status" .string "status", .copy "Subject" .string "subject",
      .copy "Platform" .string "platform", .copy "HardwareBacked" .bool "hardware_backed",
      .copy "Nonce" .string "nonce", .copy "PublicKey" .string "public_key",
      .copy "Measurements" .stringMap "measurements"]⟩

/-- `ExportAudit`. -/
def exportAudit : Handler where
  request := "openpinch.v1.AuditExportRequest"
  arguments := Form.collect ⟨"", [],
    [.copy "sink" .string "sink", .copy "limit" .uint32 "limit"]⟩
  call := Client.exportAudit
  failure := "export audit: "
  response := Form.fill schema ⟨"openpinch.v1.AuditExportResponse", [("exported", .bool true)],
    [.copy "format" .string "format", .children "events" protoAuditEventMessage "events"]⟩

/-- `QueryMemory`. -/
def queryMemory : Handler where
  request := "openpinch.v1.MemoryQueryRequest"
  arguments := Form.collect ⟨"", [],
    [.copy "namespace" .string "namespace", .copy "query" .string "query",
      .copy "limit" .uint32 "limit", .copy "filter_json" .string "filterJSON"]⟩
  call := Client.queryMemory
  failure := "query memory: "
  response := Form.fill schema ⟨"openpinch.v1.MemoryQueryResponse", [],
    [.copy "backend" .string "backend", .children "records" protoMemoryRecordMessage "records"]⟩

/-- `UpsertMemory`. -/
def upsertMemory : Handler where
  request := "openpinch.v1.MemoryUpsertRequest"
  arguments := Form.collect ⟨"", [],
    [.copy "namespace" .string "namespace", .copy "key" .string "key",
      .copy "content" .string "content", .copy "metadata_json" .string "metadataJSON"]⟩
  call := Client.upsertMemory
  failure := "upsert memory: "
  response := Form.fill schema ⟨"openpinch.v1.MemoryUpsertResponse", [],
    [.copy "stored" .bool "stored", .copy "backend" .string "backend",
      .copy "digest" .string "digest"]⟩

/-- `ListSessions`. -/
def listSessions : Handler where
  request := "openpinch.v1.SessionListRequest"
  arguments := Form.collect ⟨"", [],
    [.copy "connector" .string "connector", .copy "status" .string "status",
      .copy "include_archived" .bool "includeArchived", .copy "limit" .uint32 "limit"]⟩
  call := Client.listSessions
  failure := "list sessions: "
  response := Form.fill schema ⟨"openpinch.v1.SessionListResponse", [],
    [.copy "summary" .string "summary",
      .children "sessions" protoSessionRecordMessage "sessions"]⟩

/-- `GetSession`. -/
def getSession : Handler where
  request := "openpinch.v1.SessionRequest"
  arguments := Form.collect ⟨"", [],
    [.copy "session_id" .string "sessionID", .copy "limit" .uint32 "limit"]⟩
  call := Client.getSession
  failure := "get session: "
  response := Form.fill schema ⟨"openpinch.v1.SessionResponse", [],
    [.child "Session" protoSessionRecordMessage "session",
      .children "Messages" protoSessionMessageMessage "messages"]⟩

/-- `PruneSessions`. -/
def pruneSessions : Handler where
  request := "openpinch.v1.SessionPruneRequest"
  arguments := Form.collect ⟨"", [],
    [.copy "older_than_hours" .uint32 "olderThanHours",
      .copy "archive_only" .bool "archiveOnly"]⟩
  call := Client.pruneSessions
  failure := "prune sessions: "
  response := Form.fill schema ⟨"openpinch.v1.SessionPruneResponse", [],
    [.copy "pruned" .uint32 "pruned"]⟩
  publish _ result := do
    let pruned ← result.read "pruned" .uint32
    return [⟨"session.pruned", "", [("pruned", pruned)]⟩]

/-- `ListPairings`. -/
def listPairings : Handler where
  request := "openpinch.v1.PairingListRequest"
  arguments := Form.collect ⟨"", [],
    [.copy "status" .string "status", .copy "connector" .string "connector",
      .copy "limit" .uint32 "limit"]⟩
  call := Client.listPairings
  failure := "list pairings: "
  response := Form.fill schema ⟨"openpinch.v1.PairingListResponse", [],
    [.children "pairings" protoPairingRecordMessage "pairings"]⟩

/-- `UpdatePairing`. -/
def updatePairing : Handler where
  request := "openpinch.v1.PairingUpdateRequest"
  arguments := Form.collect ⟨"", [],
    [.copy "pairing_id" .string "pairingID", .copy "action" .string "action",
      .copy "note" .string "note"]⟩
  call := Client.updatePairing
  failure := "update pairing: "
  response := Form.fill schema ⟨"openpinch.v1.PairingUpdateResponse", [("updated", .bool true)],
    [.child "pairing" protoPairingRecordMessage "pairing"]⟩
  publish _ result :=
    match result.get "pairing" with
    | some (.message (some pairing)) => some [⟨"pairing.updated", pairing⟩]
    | _ => none

/-- `GetDoctorReport`. -/
def getDoctorReport : Handler where
  request := "openpinch.v1.DoctorReportRequest"
  arguments request :=
    match request.get "include_connectors", request.get "include_models",
      request.get "include_desktop", request.get "include_web" with
    | some (.bool connectors), some (.bool models), some (.bool desktop), some (.bool web) =>
        some ⟨"", [("includeConnectors", .bool connectors), ("includeModels", .bool models),
          ("includeDesktop", .bool (desktop || web))]⟩
    | _, _, _, _ => none
  call := Client.getDoctorReport
  failure := "get doctor report: "
  response := Form.fill schema ⟨"openpinch.v1.DoctorReportResponse", [],
    [.copy "Status" .string "status",
      .children "Findings" protoDoctorFindingMessage "findings"]⟩

/-- `ListModelProfiles`. -/
def listModelProfiles : Handler where
  request := "openpinch.v1.Empty"
  arguments := Form.collect ⟨"", [], []⟩
  call := Client.listModelProfiles
  failure := "list model profiles: "
  response := Form.fill schema ⟨"openpinch.v1.ModelProfileListResponse", [],
    [.children "profiles" protoModelProfileMessage "profiles"]⟩

/-- `RememberBrain`. -/
def rememberBrain : Handler where
  request := "openpinch.v1.BrainRememberRequest"
  arguments := Form.collect ⟨"", [],
    [.copy "kind" .string "kind", .copy "subtype" .string "subtype",
      .copy "title" .string "title", .copy "content" .string "content",
      .copy "importance" .double "importance", .copy "scope_json" .string "scopeJSON",
      .copy "links_json" .string "linksJSON", .copy "source_ref" .string "sourceRef"]⟩
  call := Client.rememberBrain
  failure := "remember brain: "
  response := Form.fill schema ⟨"openpinch.v1.BrainRememberResponse", [],
    [.copy "Stored" .bool "stored", .copy "Digest" .string "digest",
      .child "Entity" protoBrainEntityMessage "entity",
      .child "Task" protoBrainTaskMessage "task"]⟩

/-- `RecallBrain`, with `appendBrainEntities`, `appendBrainFacts`,
`appendBrainRelations` and `appendBrainTasks`. -/
def recallBrain : Handler where
  request := "openpinch.v1.BrainRecallRequest"
  arguments := Form.collect ⟨"", [],
    [.copy "query" .string "query", .copy "scope_json" .string "scopeJSON",
      .copy "limit" .uint32 "limit", .copy "include_archived" .bool "includeArchived"]⟩
  call := Client.recallBrain
  failure := "recall brain: "
  response := Form.fill schema ⟨"openpinch.v1.BrainRecallResponse", [],
    [.copy "Summary" .string "summary", .children "Entities" protoBrainEntityMessage "entities",
      .children "Facts" protoBrainFactMessage "facts",
      .children "Relations" protoBrainRelationMessage "relations",
      .children "Tasks" protoBrainTaskMessage "tasks"]⟩

/-- `SuggestBrain`. -/
def suggestBrain : Handler where
  request := "openpinch.v1.BrainSuggestRequest"
  arguments := Form.collect ⟨"", [],
    [.copy "scope_json" .string "scopeJSON", .copy "limit" .uint32 "limit"]⟩
  call := Client.suggestBrain
  failure := "suggest brain: "
  response := Form.fill schema ⟨"openpinch.v1.BrainSuggestResponse", [],
    [.copy "Summary" .string "summary",
      .children "Suggestions" protoBrainSuggestionMessage "suggestions"]⟩

/-- `ListBrainTasks`. -/
def listBrainTasks : Handler where
  request := "openpinch.v1.BrainTaskListRequest"
  arguments := Form.collect ⟨"", [],
    [.copy "scope_json" .string "scopeJSON", .copy "statuses" .strings "statuses",
      .copy "priorities" .strings "priorities", .copy "due_before" .string "dueBefore",
      .copy "limit" .uint32 "limit"]⟩
  call := Client.listBrainTasks
  failure := "list brain tasks: "
  response := Form.fill schema ⟨"openpinch.v1.BrainTaskListResponse", [],
    [.copy "Summary" .string "summary", .children "Tasks" protoBrainTaskMessage "tasks"]⟩

/-- `UpdateBrainTask`. -/
def updateBrainTask : Handler where
  request := "openpinch.v1.BrainTaskUpdateRequest"
  arguments := Form.collect ⟨"", [],
    [.copy "task_id" .string "taskID", .copy "status" .string "status",
      .copy "priority" .string "priority", .copy "due_at" .string "dueAt",
      .copy "summary" .string "summary", .copy "links_json" .string "linksJSON",
      .copy "source_ref" .string "sourceRef"]⟩
  call := Client.updateBrainTask
  failure := "update brain task: "
  response := Form.fill schema ⟨"openpinch.v1.BrainTaskUpdateResponse",
    [("updated", .bool true)], [.child "task" protoBrainTaskMessage "task"]⟩

/-- `ForgetBrain`. -/
def forgetBrain : Handler where
  request := "openpinch.v1.BrainForgetRequest"
  arguments := Form.collect ⟨"", [],
    [.copy "target_kind" .string "targetKind", .copy "target_id" .string "targetID",
      .copy "mode" .string "mode", .copy "reason" .string "reason"]⟩
  call := Client.forgetBrain
  failure := "forget brain: "
  response := Form.fill schema ⟨"openpinch.v1.BrainForgetResponse", [],
    [.copy "Forgotten" .bool "forgotten", .copy "Mode" .string "mode",
      .copy "TargetID" .string "target_id"]⟩

/-- The messages of a request of `RunAgentProtocol`. -/
def agentMessage : Table where
  type := "AgentMessage"
  copies := [⟨"sender", .string, "Sender"⟩, ⟨"recipient", .string, "Recipient"⟩,
    ⟨"body", .string, "Body"⟩, ⟨"metadata_json", .string, "MetadataJSON"⟩,
    ⟨"encrypted_body", .string, "EncryptedBody"⟩]

/-- `RunAgentProtocol`. -/
def runAgentProtocol : Handler where
  request := "openpinch.v1.AgentProtocolRequest"
  arguments := Form.collect ⟨"", [],
    [.children "messages" agentMessage "messages", .copy "protocol_id" .string "protocolID",
      .copy "initiator" .string "initiator", .copy "policy_scope" .string "policyScope"]⟩
  call := Client.runAgentProtocol
  failure := "run agent protocol: "
  response := Form.fill schema ⟨"openpinch.v1.AgentProtocolResponse", [],
    [.copy "Accepted" .bool "accepted", .copy "ProtocolID" .string "protocol_id",
      .copy "TranscriptJSON" .string "transcript_json", .copy "Findings" .strings "findings"]⟩

/-- `QueueTask`. -/
def queueTask : Handler where
  request := "openpinch.v1.QueueTaskRequest"
  arguments := Form.collect ⟨"", [],
    [.copy "task_id" .string "taskID", .copy "task_type" .string "taskType",
      .copy "target" .string "target", .copy "arguments_json" .string "argumentsJSON",
      .copy "priority" .string "priority"]⟩
  call := Client.queueTask
  failure := "queue task: "
  response := Form.fill schema ⟨"openpinch.v1.QueueTaskResponse", [],
    [.copy "Accepted" .bool "accepted", .copy "TaskID" .string "task_id",
      .copy "Queue" .string "queue", .copy "Message" .string "message"]⟩

/-- `GetPolicyReport`. -/
def getPolicyReport : Handler where
  request := "openpinch.v1.PolicyReportRequest"
  arguments := Form.collect ⟨"", [],
    [.copy "subject" .string "subject", .copy "capability" .string "capability"]⟩
  call := Client.getPolicyReport
  failure := "get policy report: "
  response := Form.fill schema ⟨"openpinch.v1.PolicyReportResponse", [],
    [.copy "Subject" .string "subject",
      .copy "AllowedCapabilities" .strings "allowed_capabilities",
      .copy "DeniedCapabilities" .strings "denied_capabilities",
      .copy "Source" .string "source"]⟩

end Service

/-- What the handler answers, what it publishes, and the engine after it. -/
def Handler.serve {σ : Type} (engine : Engine σ) (handler : Handler) (request : Message) (s : σ) :
    Option (Except String Message × List Published × σ) :=
  ((handler.arguments request).bind fun arguments => handler.call.run engine arguments s).bind
    fun outcome =>
      match outcome with
      | (.error text, s') => some (.error (handler.failure ++ text), [], s')
      | (.ok result, s') =>
          (handler.response result).bind fun response =>
            (handler.publish request result).map fun events => (.ok response, events, s')

end OpenPinch.Gateway
