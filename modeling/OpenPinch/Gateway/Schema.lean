import OpenPinch.Lib.Proto
import OpenPinch.Lib.Toml

/-!
# The messages of the two services

The types of `openpinch.proto`, as far as the gateway passes them on between its
clients and the engine.
-/

namespace OpenPinch.Pb

open Lib (F64)
open Lib.Proto (MessageType Schema)

instance : Zero F64 := ⟨⟨0⟩⟩

abbrev Value := Lib.Proto.Value F64

abbrev Message := Lib.Proto.Message F64

/-! ## Types -/

def empty : MessageType where
  name := "openpinch.v1.Empty"
  fields := []

def executeRequest : MessageType where
  name := "openpinch.v1.ExecuteRequest"
  fields := [⟨"target", .string⟩, ⟨"arguments_json", .string⟩, ⟨"allow_network", .bool⟩,
    ⟨"priority", .string⟩]

def executeResponse : MessageType where
  name := "openpinch.v1.ExecuteResponse"
  fields := [⟨"success", .bool⟩, ⟨"summary", .string⟩, ⟨"data_json", .string⟩, ⟨"error", .string⟩,
    ⟨"logs", .strings⟩]

def submitMessageRequest : MessageType where
  name := "openpinch.v1.SubmitMessageRequest"
  fields := [⟨"connector", .string⟩, ⟨"channel_id", .string⟩, ⟨"sender", .string⟩,
    ⟨"body", .string⟩, ⟨"metadata_json", .string⟩]

def submitMessageResponse : MessageType where
  name := "openpinch.v1.SubmitMessageResponse"
  fields := [⟨"accepted", .bool⟩, ⟨"message_id", .string⟩, ⟨"reply", .string⟩,
    ⟨"session_id", .string⟩, ⟨"pairing_id", .string⟩, ⟨"delivery_state", .string⟩]

def engineMessageRequest : MessageType where
  name := "openpinch.v1.EngineMessageRequest"
  fields := [⟨"message", .message "openpinch.v1.SubmitMessageRequest"⟩]

def engineToolRequest : MessageType where
  name := "openpinch.v1.EngineToolRequest"
  fields := [⟨"tool", .string⟩, ⟨"arguments_json", .string⟩, ⟨"allow_network", .bool⟩,
    ⟨"priority", .string⟩]

def attestationRequest : MessageType where
  name := "openpinch.v1.AttestationRequest"
  fields := [⟨"subject", .string⟩, ⟨"nonce", .string⟩, ⟨"include_hardware", .bool⟩]

def attestationResponse : MessageType where
  name := "openpinch.v1.AttestationResponse"
  fields := [⟨"status", .string⟩, ⟨"subject", .string⟩, ⟨"platform", .string⟩,
    ⟨"hardware_backed", .bool⟩, ⟨"nonce", .string⟩, ⟨"public_key", .string⟩,
    ⟨"measurements", .stringMap⟩]

def auditEvent : MessageType where
  name := "openpinch.v1.AuditEvent"
  fields := [⟨"id", .string⟩, ⟨"category", .string⟩, ⟨"severity", .string⟩, ⟨"summary", .string⟩,
    ⟨"anomaly_score", .double⟩, ⟨"payload_json", .string⟩, ⟨"created_at", .string⟩]

def auditExportRequest : MessageType where
  name := "openpinch.v1.AuditExportRequest"
  fields := [⟨"sink", .string⟩, ⟨"limit", .uint32⟩]

def auditExportResponse : MessageType where
  name := "openpinch.v1.AuditExportResponse"
  fields := [⟨"exported", .bool⟩, ⟨"format", .string⟩,
    ⟨"events", .messages "openpinch.v1.AuditEvent"⟩]

def memoryQueryRequest : MessageType where
  name := "openpinch.v1.MemoryQueryRequest"
  fields := [⟨"namespace", .string⟩, ⟨"query", .string⟩, ⟨"limit", .uint32⟩,
    ⟨"filter_json", .string⟩]

def memoryRecord : MessageType where
  name := "openpinch.v1.MemoryRecord"
  fields := [⟨"key", .string⟩, ⟨"namespace", .string⟩, ⟨"content", .string⟩,
    ⟨"metadata_json", .string⟩, ⟨"score", .double⟩, ⟨"created_at", .string⟩]

def memoryQueryResponse : MessageType where
  name := "openpinch.v1.MemoryQueryResponse"
  fields := [⟨"records", .messages "openpinch.v1.MemoryRecord"⟩, ⟨"backend", .string⟩]

def memoryUpsertRequest : MessageType where
  name := "openpinch.v1.MemoryUpsertRequest"
  fields := [⟨"namespace", .string⟩, ⟨"key", .string⟩, ⟨"content", .string⟩,
    ⟨"metadata_json", .string⟩]

def memoryUpsertResponse : MessageType where
  name := "openpinch.v1.MemoryUpsertResponse"
  fields := [⟨"stored", .bool⟩, ⟨"backend", .string⟩, ⟨"digest", .string⟩]

def sessionRecord : MessageType where
  name := "openpinch.v1.SessionRecord"
  fields := [⟨"id", .string⟩, ⟨"connector", .string⟩, ⟨"channel_id", .string⟩,
    ⟨"participant", .string⟩, ⟨"session_type", .string⟩, ⟨"title", .string⟩, ⟨"status", .string⟩,
    ⟨"reply_mode", .string⟩, ⟨"queue_mode", .string⟩, ⟨"model_profile", .string⟩,
    ⟨"mention_only", .bool⟩, ⟨"pending_pairing", .bool⟩, ⟨"last_message_preview", .string⟩,
    ⟨"message_count", .uint32⟩, ⟨"created_at", .string⟩, ⟨"updated_at", .string⟩]

def sessionMessage : MessageType where
  name := "openpinch.v1.SessionMessage"
  fields := [⟨"id", .string⟩, ⟨"session_id", .string⟩, ⟨"connector", .string⟩, ⟨"role", .string⟩,
    ⟨"sender", .string⟩, ⟨"body", .string⟩, ⟨"metadata_json", .string⟩, ⟨"created_at", .string⟩]

def sessionListRequest : MessageType where
  name := "openpinch.v1.SessionListRequest"
  fields := [⟨"connector", .string⟩, ⟨"status", .string⟩, ⟨"include_archived", .bool⟩,
    ⟨"limit", .uint32⟩]

def sessionListResponse : MessageType where
  name := "openpinch.v1.SessionListResponse"
  fields := [⟨"summary", .string⟩, ⟨"sessions", .messages "openpinch.v1.SessionRecord"⟩]

def sessionRequest : MessageType where
  name := "openpinch.v1.SessionRequest"
  fields := [⟨"session_id", .string⟩, ⟨"limit", .uint32⟩]

def sessionResponse : MessageType where
  name := "openpinch.v1.SessionResponse"
  fields := [⟨"session", .message "openpinch.v1.SessionRecord"⟩,
    ⟨"messages", .messages "openpinch.v1.SessionMessage"⟩]

def sessionPruneRequest : MessageType where
  name := "openpinch.v1.SessionPruneRequest"
  fields := [⟨"older_than_hours", .uint32⟩, ⟨"archive_only", .bool⟩]

def sessionPruneResponse : MessageType where
  name := "openpinch.v1.SessionPruneResponse"
  fields := [⟨"pruned", .uint32⟩]

def pairingRecord : MessageType where
  name := "openpinch.v1.PairingRecord"
  fields := [⟨"id", .string⟩, ⟨"connector", .string⟩, ⟨"channel_id", .string⟩, ⟨"sender", .string⟩,
    ⟨"session_id", .string⟩, ⟨"status", .string⟩, ⟨"reason", .string⟩, ⟨"created_at", .string⟩,
    ⟨"updated_at", .string⟩]

def pairingListRequest : MessageType where
  name := "openpinch.v1.PairingListRequest"
  fields := [⟨"status", .string⟩, ⟨"connector", .string⟩, ⟨"limit", .uint32⟩]

def pairingListResponse : MessageType where
  name := "openpinch.v1.PairingListResponse"
  fields := [⟨"pairings", .messages "openpinch.v1.PairingRecord"⟩]

def pairingUpdateRequest : MessageType where
  name := "openpinch.v1.PairingUpdateRequest"
  fields := [⟨"pairing_id", .string⟩, ⟨"action", .string⟩, ⟨"note", .string⟩]

def pairingUpdateResponse : MessageType where
  name := "openpinch.v1.PairingUpdateResponse"
  fields := [⟨"updated", .bool⟩, ⟨"pairing", .message "openpinch.v1.PairingRecord"⟩]

def doctorReportRequest : MessageType where
  name := "openpinch.v1.DoctorReportRequest"
  fields := [⟨"include_connectors", .bool⟩, ⟨"include_models", .bool⟩, ⟨"include_web", .bool⟩,
    ⟨"include_desktop", .bool⟩]

def doctorFinding : MessageType where
  name := "openpinch.v1.DoctorFinding"
  fields := [⟨"id", .string⟩, ⟨"component", .string⟩, ⟨"severity", .string⟩, ⟨"status", .string⟩,
    ⟨"summary", .string⟩, ⟨"detail", .string⟩]

def doctorReportResponse : MessageType where
  name := "openpinch.v1.DoctorReportResponse"
  fields := [⟨"status", .string⟩, ⟨"findings", .messages "openpinch.v1.DoctorFinding"⟩]

def modelProfile : MessageType where
  name := "openpinch.v1.ModelProfile"
  fields := [⟨"name", .string⟩, ⟨"provider_order", .strings⟩, ⟨"mode", .string⟩,
    ⟨"timeout_seconds", .uint32⟩, ⟨"retry_budget", .uint32⟩, ⟨"hosted", .bool⟩,
    ⟨"auth_mode", .string⟩, ⟨"default_profile", .bool⟩]

def modelProfileListResponse : MessageType where
  name := "openpinch.v1.ModelProfileListResponse"
  fields := [⟨"profiles", .messages "openpinch.v1.ModelProfile"⟩]

def brainRememberRequest : MessageType where
  name := "openpinch.v1.BrainRememberRequest"
  fields := [⟨"kind", .string⟩, ⟨"subtype", .string⟩, ⟨"title", .string⟩, ⟨"content", .string⟩,
    ⟨"importance", .double⟩, ⟨"scope_json", .string⟩, ⟨"links_json", .string⟩,
    ⟨"source_ref", .string⟩]

def brainEntity : MessageType where
  name := "openpinch.v1.BrainEntity"
  fields := [⟨"id", .string⟩, ⟨"kind", .string⟩, ⟨"subtype", .string⟩, ⟨"title", .string⟩,
    ⟨"content", .string⟩, ⟨"scope_json", .string⟩, ⟨"links_json", .string⟩, ⟨"salience", .double⟩,
    ⟨"confidence", .double⟩, ⟨"archived", .bool⟩, ⟨"created_at", .string⟩, ⟨"updated_at", .string⟩]

def brainFact : MessageType where
  name := "openpinch.v1.BrainFact"
  fields := [⟨"id", .string⟩, ⟨"entity_id", .string⟩, ⟨"content", .string⟩, ⟨"scope_json", .string⟩,
    ⟨"salience", .double⟩, ⟨"confidence", .double⟩, ⟨"archived", .bool⟩, ⟨"created_at", .string⟩,
    ⟨"updated_at", .string⟩]

def brainRelation : MessageType where
  name := "openpinch.v1.BrainRelation"
  fields := [⟨"id", .string⟩, ⟨"kind", .string⟩, ⟨"from_id", .string⟩, ⟨"to_id", .string⟩,
    ⟨"metadata_json", .string⟩, ⟨"confidence", .double⟩, ⟨"created_at", .string⟩,
    ⟨"updated_at", .string⟩]

def brainTask : MessageType where
  name := "openpinch.v1.BrainTask"
  fields := [⟨"id", .string⟩, ⟨"title", .string⟩, ⟨"summary", .string⟩, ⟨"status", .string⟩,
    ⟨"priority", .string⟩, ⟨"due_at", .string⟩, ⟨"scope_json", .string⟩, ⟨"links_json", .string⟩,
    ⟨"salience", .double⟩, ⟨"confidence", .double⟩, ⟨"archived", .bool⟩, ⟨"created_at", .string⟩,
    ⟨"updated_at", .string⟩]

def brainRememberResponse : MessageType where
  name := "openpinch.v1.BrainRememberResponse"
  fields := [⟨"stored", .bool⟩, ⟨"entity", .message "openpinch.v1.BrainEntity"⟩,
    ⟨"task", .message "openpinch.v1.BrainTask"⟩, ⟨"digest", .string⟩]

def brainRecallRequest : MessageType where
  name := "openpinch.v1.BrainRecallRequest"
  fields := [⟨"query", .string⟩, ⟨"scope_json", .string⟩, ⟨"limit", .uint32⟩,
    ⟨"include_archived", .bool⟩]

def brainRecallResponse : MessageType where
  name := "openpinch.v1.BrainRecallResponse"
  fields := [⟨"summary", .string⟩, ⟨"entities", .messages "openpinch.v1.BrainEntity"⟩,
    ⟨"facts", .messages "openpinch.v1.BrainFact"⟩,
    ⟨"relations", .messages "openpinch.v1.BrainRelation"⟩,
    ⟨"tasks", .messages "openpinch.v1.BrainTask"⟩]

def brainSuggestRequest : MessageType where
  name := "openpinch.v1.BrainSuggestRequest"
  fields := [⟨"scope_json", .string⟩, ⟨"limit", .uint32⟩]

def brainSuggestion : MessageType where
  name := "openpinch.v1.BrainSuggestion"
  fields := [⟨"id", .string⟩, ⟨"task_id", .string⟩, ⟨"summary", .string⟩, ⟨"reason", .string⟩,
    ⟨"score", .double⟩, ⟨"context_json", .string⟩]

def brainSuggestResponse : MessageType where
  name := "openpinch.v1.BrainSuggestResponse"
  fields := [⟨"summary", .string⟩, ⟨"suggestions", .messages "openpinch.v1.BrainSuggestion"⟩]

def brainTaskListRequest : MessageType where
  name := "openpinch.v1.BrainTaskListRequest"
  fields := [⟨"scope_json", .string⟩, ⟨"statuses", .strings⟩, ⟨"priorities", .strings⟩,
    ⟨"due_before", .string⟩, ⟨"limit", .uint32⟩]

def brainTaskListResponse : MessageType where
  name := "openpinch.v1.BrainTaskListResponse"
  fields := [⟨"summary", .string⟩, ⟨"tasks", .messages "openpinch.v1.BrainTask"⟩]

def brainTaskUpdateRequest : MessageType where
  name := "openpinch.v1.BrainTaskUpdateRequest"
  fields := [⟨"task_id", .string⟩, ⟨"status", .string⟩, ⟨"priority", .string⟩, ⟨"due_at", .string⟩,
    ⟨"summary", .string⟩, ⟨"links_json", .string⟩, ⟨"source_ref", .string⟩]

def brainTaskUpdateResponse : MessageType where
  name := "openpinch.v1.BrainTaskUpdateResponse"
  fields := [⟨"updated", .bool⟩, ⟨"task", .message "openpinch.v1.BrainTask"⟩]

def brainForgetRequest : MessageType where
  name := "openpinch.v1.BrainForgetRequest"
  fields := [⟨"target_kind", .string⟩, ⟨"target_id", .string⟩, ⟨"mode", .string⟩,
    ⟨"reason", .string⟩]

def brainForgetResponse : MessageType where
  name := "openpinch.v1.BrainForgetResponse"
  fields := [⟨"forgotten", .bool⟩, ⟨"mode", .string⟩, ⟨"target_id", .string⟩]

def agentMessage : MessageType where
  name := "openpinch.v1.AgentMessage"
  fields := [⟨"sender", .string⟩, ⟨"recipient", .string⟩, ⟨"body", .string⟩,
    ⟨"metadata_json", .string⟩, ⟨"encrypted_body", .string⟩]

def agentProtocolRequest : MessageType where
  name := "openpinch.v1.AgentProtocolRequest"
  fields := [⟨"protocol_id", .string⟩, ⟨"initiator", .string⟩,
    ⟨"messages", .messages "openpinch.v1.AgentMessage"⟩, ⟨"policy_scope", .string⟩]

def agentProtocolResponse : MessageType where
  name := "openpinch.v1.AgentProtocolResponse"
  fields := [⟨"accepted", .bool⟩, ⟨"protocol_id", .string⟩, ⟨"transcript_json", .string⟩,
    ⟨"findings", .strings⟩]

def queueTaskRequest : MessageType where
  name := "openpinch.v1.QueueTaskRequest"
  fields := [⟨"task_id", .string⟩, ⟨"task_type", .string⟩, ⟨"target", .string⟩,
    ⟨"arguments_json", .string⟩, ⟨"priority", .string⟩]

def queueTaskResponse : MessageType where
  name := "openpinch.v1.QueueTaskResponse"
  fields := [⟨"accepted", .bool⟩, ⟨"task_id", .string⟩, ⟨"queue", .string⟩, ⟨"message", .string⟩]

def policyReportRequest : MessageType where
  name := "openpinch.v1.PolicyReportRequest"
  fields := [⟨"subject", .string⟩, ⟨"capability", .string⟩]

def policyReportResponse : MessageType where
  name := "openpinch.v1.PolicyReportResponse"
  fields := [⟨"subject", .string⟩, ⟨"allowed_capabilities", .strings⟩,
    ⟨"denied_capabilities", .strings⟩, ⟨"source", .string⟩]

/-- `Load`. -/
def schema : Schema :=
  [empty, executeRequest, executeResponse, submitMessageRequest, submitMessageResponse,
    engineMessageRequest, engineToolRequest, attestationRequest, attestationResponse, auditEvent,
    auditExportRequest, auditExportResponse, memoryQueryRequest, memoryRecord, memoryQueryResponse,
    memoryUpsertRequest, memoryUpsertResponse, sessionRecord, sessionMessage, sessionListRequest,
    sessionListResponse, sessionRequest, sessionResponse, sessionPruneRequest, sessionPruneResponse,
    pairingRecord, pairingListRequest, pairingListResponse, pairingUpdateRequest,
    pairingUpdateResponse, doctorReportRequest, doctorFinding, doctorReportResponse, modelProfile,
    modelProfileListResponse, brainRememberRequest, brainEntity, brainFact, brainRelation,
    brainTask, brainRememberResponse, brainRecallRequest, brainRecallResponse, brainSuggestRequest,
    brainSuggestion, brainSuggestResponse, brainTaskListRequest, brainTaskListResponse,
    brainTaskUpdateRequest, brainTaskUpdateResponse, brainForgetRequest, brainForgetResponse,
    agentMessage, agentProtocolRequest, agentProtocolResponse, queueTaskRequest, queueTaskResponse,
    policyReportRequest, policyReportResponse]

end OpenPinch.Pb
