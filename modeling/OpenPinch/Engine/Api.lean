import OpenPinch.Engine.LockDiscipline
import OpenPinch.Engine.Runtime

/-!
# The interface of the engine

The operations that the engine offers besides those on conversations: memory,
the brain with its audit events, attestation, the export of the audit trail and
agent protocols.  `ApiCall` lists all of them, with what the queue and a restart
do to the database.

`QuietParts` says that what a call does besides its records has a property which
sequences keep, and `RuntimeParts` that its records have it too.  Then every call
has it.
-/

namespace OpenPinch

/-- `AttestationReport`. -/
structure AttestationReport where
  status : String
  subject : String
  platform : String
  hardwareBacked : Bool
  nonce : String
  publicKey : String
  measurements : List (String × String)
deriving DecidableEq, Repr

/-- The section `siem` of the configuration. -/
structure SiemConfig where
  enabled : Bool
  ocsfFile : String
deriving DecidableEq, Repr

/-- What an attestation is about: three files, each with its content if it can be
read, the public key of the session, and the hardware. -/
structure Attester where
  requireHardware : Bool
  hardwareAvailable : Bool
  platform : String
  publicKey : String
  configFile : Option Bytes
  policyFile : Option Bytes
  keyFile : Option Bytes

variable [Externals]

/-- `hash_if_exists`, of what a file holds. -/
def hashIfExists (content : Option Bytes) : Option String :=
  content.map fun bytes => lowerHex (Externals.sha256 bytes).bytes

/-- `EncryptionManager::attest`.  The measurements are in the order of their names. -/
def Attester.attest (attester : Attester) (subject nonce : String) (includeHardware : Bool) :
    AttestationReport where
  status :=
    if includeHardware && attester.requireHardware && !attester.hardwareAvailable then
      "hardware-unavailable"
    else if includeHardware && attester.hardwareAvailable then "hardware-backed"
    else "software-attested"
  subject := subject
  platform := attester.platform
  hardwareBacked := includeHardware && attester.hardwareAvailable
  nonce := nonce
  publicKey := attester.publicKey
  measurements :=
    [("config_sha256", (hashIfExists attester.configFile).getD "missing"),
      ("key_sha256", (hashIfExists attester.keyFile).getD "missing"),
      ("policy_sha256", (hashIfExists attester.policyFile).getD "missing")]

/-- A report as `serde_json` writes it. -/
def AttestationReport.toJson (report : AttestationReport) : Json :=
  .obj [("status", .str report.status), ("subject", .str report.subject),
    ("platform", .str report.platform), ("hardware_backed", .bool report.hardwareBacked),
    ("nonce", .str report.nonce), ("public_key", .str report.publicKey),
    ("measurements", .obj (report.measurements.map fun entry => (entry.1, .str entry.2)))]

/-- An event as `serde_json` writes it. -/
def AuditEvent.toJson (event : AuditEvent) : Json :=
  .obj [("id", .str event.id), ("category", .str event.category),
    ("severity", .str event.severity), ("summary", .str event.summary),
    ("anomaly_score", .num event.anomalyScore), ("payload_json", .str event.payloadJson),
    ("created_at", .str (stamp event.createdAt))]

namespace EngineRuntime

variable (runtime : EngineRuntime)

/-- `EngineRuntime::record_audit`, of a payload that is a text already. -/
def recordAuditText (category severity summary : String) (anomalyScore : Rat)
    (payloadJson : String) : EngineOp Unit := do
  let uuid ← EngineOp.newUuid
  let now ← EngineOp.now
  StateStore.recordAudit
    { id := s!"audit-{uuid}"
      category := category
      severity := severity
      summary := summary
      anomalyScore := anomalyScore
      payloadJson := payloadJson
      createdAt := now }

/-! ## Memory -/

/-- `EngineRuntime::query_memory`, less the name of the backend. -/
def queryMemory (query : MemoryQuery) : EngineOp (List MemoryRecord) :=
  StateStore.queryMemory query runtime.encryption

/-- `EngineRuntime::upsert_memory`. -/
def upsertMemory (nameSpace key content metadataJson : String) : EngineOp String := do
  let digest ← StateStore.upsertMemory nameSpace key content metadataJson runtime.encryption
  recordAudit "memory.upsert" "info" "vector memory record stored" (1 / 20)
    (.obj [("digest", .str digest), ("key", .str key), ("namespace", .str nameSpace)])
  return digest

/-! ## The brain -/

/-- `EngineRuntime::remember_brain`. -/
def rememberBrain (request : BrainRemember) : EngineOp BrainRememberResult := do
  let result ← runtime.brain.remember request
  recordAudit "brain.remember" "info" "brain record stored" (1 / 20)
    (.obj [("digest", .str result.digest)])
  return result

/-- `EngineRuntime::update_brain_task`. -/
def updateBrainTask (request : BrainTaskUpdate) : EngineOp BrainTaskRecord := do
  let task ← runtime.brain.updateTaskRecord request
  recordAudit "brain.task" "info" "brain task updated" (1 / 20)
    (.obj [("status", .str task.status), ("task_id", .str task.id)])
  return task

/-- `EngineRuntime::forget_brain`. -/
def forgetBrain (request : BrainForget) : EngineOp BrainForgetResult := do
  let result ← runtime.brain.forget request
  recordAudit "brain.forget" "info" "brain record forgotten" (2 / 25)
    (.obj [("mode", .str result.mode), ("target_id", .str result.targetId)])
  return result

/-! ## Attestation, audit and protocols -/

/-- `EngineRuntime::attest_session`. -/
def attestSession (attester : Attester) (subject nonce : String) (includeHardware : Bool) :
    EngineOp AttestationReport := do
  let report := attester.attest subject nonce includeHardware
  recordAuditText "security.attestation" "info" "session attested"
    (if report.hardwareBacked then 3 / 100 else 9 / 50) (Externals.jsonText report.toJson)
  return report

/-- `EngineRuntime::export_audit`.  `write` is the outcome of writing a payload to
the configured file. -/
def exportAudit (siem : SiemConfig) (write : String → Except String Unit) (sink : String)
    (limit : Nat) : EngineOp (List AuditEvent) := do
  let events ← StateStore.listAudit limit
  if sink = "ocsf-file" ∧ siem.enabled = true ∧ siem.ocsfFile ≠ "" then
    EngineOp.ofExcept (write (Externals.jsonPretty (.arr (events.map AuditEvent.toJson))))
    return events
  else return events

/-- `EngineRuntime::run_agent_protocol`.  `nonces` gives the nonce drawn for each
message. -/
def runAgentProtocol (config : EncryptionConfig) (nonces : Nat → Nonce)
    (request : ProtocolRunRequest) : EngineOp ProtocolRunResult := do
  let result := validateProtocol request runtime.encryption config nonces
  StateStore.recordProtocolRun result
  recordAuditText "agent.protocol" (if result.accepted then "info" else "warning")
    s!"protocol {request.protocolId} executed" (if result.accepted then 2 / 25 else 37 / 50)
    result.transcriptJson
  return result

/-- `EngineRuntime::execute_tool`, of a call with this outcome. -/
def executeTool (call : ToolCall) (outcome : ToolOutcome) : EngineOp ToolOutcome :=
  if outcome.success then do
    EngineOp.ignore (runtime.brain.ingestToolResult call outcome)
    return outcome
  else return outcome

end EngineRuntime

/-! ## Calls -/

/-- The calls of the engine. -/
inductive ApiCall where
  | deliverMessage (message : MessageEnvelope)
  | recordOutboundMessage (request : OutboundMessage)
  | listSessions (query : SessionListQuery)
  | getSession (query : SessionDetailQuery)
  | pruneSessions (request : SessionPruneRequestRecord)
  | listPairings (query : PairingListQuery)
  | updatePairing (request : PairingUpdate)
  | queryMemory (query : MemoryQuery)
  | upsertMemory (nameSpace key content metadataJson : String)
  | rememberBrain (request : BrainRemember)
  | recallBrain (query : BrainRecallQuery)
  | suggestBrain (query : BrainSuggestQuery)
  | listBrainTasks (query : BrainTaskListQuery)
  | updateBrainTask (request : BrainTaskUpdate)
  | forgetBrain (request : BrainForget)
  | attestSession (attester : Attester) (subject nonce : String) (includeHardware : Bool)
  | exportAudit (siem : SiemConfig) (write : String → Except String Unit) (sink : String)
      (limit : Nat)
  | runAgentProtocol (config : EncryptionConfig) (nonces : Nat → Nonce)
      (request : ProtocolRunRequest)
  | executeTool (call : ToolCall) (outcome : ToolOutcome)
  | schedules
  /-- The queue stores a task. -/
  | storeQueueTask (task : QueueTask) (status : String)
  /-- The queue sets the status of a task. -/
  | updateQueueStatus (taskId status : String)
  /-- The engine starts again on the same database. -/
  | restart (workspacePath workspaceTitle os : String)

namespace ApiCall

/-- What a call returns. -/
def Result : ApiCall → Type
  | deliverMessage _ => InboundMessageResult
  | recordOutboundMessage _ => OutboundMessageResult
  | listSessions _ => List SessionRecord
  | getSession _ => SessionDetail
  | pruneSessions _ => Nat
  | listPairings _ => List PairingRecord
  | updatePairing _ => PairingRecord
  | queryMemory _ => List MemoryRecord
  | upsertMemory _ _ _ _ => String
  | rememberBrain _ => BrainRememberResult
  | recallBrain _ => BrainRecallResult
  | suggestBrain _ => BrainSuggestResult
  | listBrainTasks _ => BrainTaskListResult
  | updateBrainTask _ => BrainTaskRecord
  | forgetBrain _ => BrainForgetResult
  | attestSession _ _ _ _ => AttestationReport
  | exportAudit _ _ _ _ => List AuditEvent
  | runAgentProtocol _ _ _ => ProtocolRunResult
  | executeTool _ _ => ToolOutcome
  | schedules => List ScheduleRequest
  | storeQueueTask _ _ => Unit
  | updateQueueStatus _ _ => Unit
  | restart _ _ _ => BrainManager

/-- The operation of a call. -/
def op (runtime : EngineRuntime) : (call : ApiCall) → EngineOp call.Result
  | deliverMessage message => runtime.handleMessage message
  | recordOutboundMessage request => runtime.recordOutboundMessage request
  | listSessions query => StateStore.listSessions query
  | getSession query => StateStore.getSessionDetail query
  | pruneSessions request => EngineRuntime.pruneSessions request
  | listPairings query => StateStore.listPairings query
  | updatePairing request => EngineRuntime.updatePairing request
  | queryMemory query => runtime.queryMemory query
  | upsertMemory nameSpace key content metadataJson =>
      runtime.upsertMemory nameSpace key content metadataJson
  | rememberBrain request => runtime.rememberBrain request
  | recallBrain query => runtime.brain.recall query
  | suggestBrain query => runtime.brain.suggest query
  | listBrainTasks query => runtime.brain.listTaskRecords query
  | updateBrainTask request => runtime.updateBrainTask request
  | forgetBrain request => runtime.forgetBrain request
  | attestSession attester subject nonce includeHardware =>
      EngineRuntime.attestSession attester subject nonce includeHardware
  | exportAudit siem write sink limit => EngineRuntime.exportAudit siem write sink limit
  | runAgentProtocol config nonces request => runtime.runAgentProtocol config nonces request
  | executeTool call outcome => runtime.executeTool call outcome
  | schedules => StateStore.listJobs
  | storeQueueTask task status => StateStore.storeQueueTask task status
  | updateQueueStatus taskId status => StateStore.updateQueueStatus taskId status
  | restart workspacePath workspaceTitle os =>
      BrainManager.create runtime.brain.config runtime.encryption workspacePath workspaceTitle os

/-- The thread of a call. -/
def thread (runtime : EngineRuntime) (call : ApiCall) : Lib.Prog Event World Unit :=
  Lib.Prog.bind (call.op runtime) fun _ => .ret ()

end ApiCall

/-! ## What calls are made of -/

/-- The operations on what is recorded of messages and events. -/
def StoreCall.isLog : StoreCall → Bool
  | .recordMessage _ => true
  | .recordSessionMessage _ _ _ _ _ _ => true
  | .pruneSessions _ => true
  | .recordAudit _ => true
  | _ => false

/-- The other operations of the store, the parts of the brain and the requests to
providers have a property that sequences keep. -/
structure QuietParts (C : (α : Type) → EngineOp α → Prop) : Prop
    extends EngineOp.Closed C where
  newUuid : C String EngineOp.newUuid
  now : C Instant EngineOp.now
  store : ∀ call : StoreCall, call.isLog = false → C call.Result call.op
  brain : ∀ manager : BrainManager, manager.Parts C
  forget : ∀ (manager : BrainManager) (request : BrainForget),
    C BrainForgetResult (manager.forget request)
  ask : ∀ name prompt, C (Except String String) (ProviderRegistry.ask name prompt)
  emit : ∀ e, C Unit (EngineOp.emit e)

/-- So do the records. -/
structure RuntimeParts (C : (α : Type) → EngineOp α → Prop) : Prop extends QuietParts C where
  log : ∀ call : StoreCall, call.isLog = true → C call.Result call.op

namespace QuietParts

variable {C : (α : Type) → EngineOp α → Prop}

omit [Externals] in
theorem whenEnabled {α : Type} {enabled : Bool} {p q : EngineOp α} (hp : C α p) (hq : C α q) :
    C α (if enabled then p else q) := by
  cases enabled with
  | true => exact hp
  | false => exact hq

variable (h : QuietParts C)

include h

/-! ### The orchestrator -/

theorem generate (name prompt : String) : C String (ProviderRegistry.generate name prompt) := by
  refine h.bind (h.ask name prompt) fun answer => ?_
  cases answer with
  | ok response => exact h.bind (h.emit _) fun _ => h.pure _
  | error message => exact h.fail _

theorem routeFrom (models : Lib.SortedMap String ModelProviderConfig) (prompt : String)
    (errors order : List String) :
    C (String × String) (ProviderRegistry.routeFrom models prompt errors order) := by
  induction order generalizing errors with
  | nil =>
      unfold ProviderRegistry.routeFrom
      split
      · exact h.fail _
      · exact h.fail _
  | cons name rest ih =>
      unfold ProviderRegistry.routeFrom
      split
      · refine h.bind (h.attempt (h.generate name prompt)) fun answer => ?_
        cases answer with
        | ok response => exact h.pure _
        | error message => exact ih _
      · exact ih errors

theorem generateWithProvider (models : Lib.SortedMap String ModelProviderConfig)
    (provider prompt : String) :
    C String (ProviderRegistry.generateWithProvider models provider prompt) := by
  unfold ProviderRegistry.generateWithProvider
  cases ProviderRegistry.get? models provider with
  | none => exact h.fail _
  | some config =>
      dsimp only
      split
      · exact h.generate provider prompt
      · exact h.fail _

variable (orchestrator : Orchestrator)

theorem generateLive (route : List String) (prompt : String) :
    C OrchestrationResult (orchestrator.generateLive route prompt) := by
  unfold Orchestrator.generateLive
  cases (if orchestrator.config.orchestration.speculativeEnabled then
    orchestrator.draftProvider route else none) with
  | some draftName =>
      refine h.bind (h.attempt (h.generateWithProvider _ _ _)) fun draft => ?_
      refine h.bind (h.attempt (h.routeFrom _ _ _ _)) fun target => ?_
      cases target with
      | ok found => exact h.pure _
      | error message =>
          cases draft with
          | ok response => exact h.pure _
          | error _ => exact h.fail _
  | none => exact h.bind (h.routeFrom _ _ _ _) fun found => h.pure _

theorem semanticTier (prompt : String) :
    C (Option OrchestrationResult) (orchestrator.semanticTier prompt) := by
  refine whenEnabled (h.bind (h.store (.queryMemory _ _) rfl) fun cached => ?_) (h.pure _)
  cases List.head? (α := MemoryRecord) cached with
  | none => exact h.pure _
  | some entry =>
      dsimp only
      split
      · exact h.pure _
      · exact h.pure _

theorem generateWithRoute (prompt : String) (priority : QueuePriority) (route : List String) :
    C OrchestrationResult (orchestrator.generateWithRoute prompt priority route) := by
  refine h.bind (whenEnabled (h.bind (h.store (.cacheExactGet _) rfl) fun _ => h.pure _)
    (h.pure _)) fun exact => ?_
  cases exact with
  | some result => exact h.pure _
  | none =>
      refine h.bind (whenEnabled (h.bind (h.store (.cachePrefixGet _) rfl) fun _ => h.pure _)
        (h.pure _)) fun found => ?_
      cases found with
      | some result => exact h.pure _
      | none =>
          refine h.bind (h.semanticTier orchestrator prompt) fun found => ?_
          cases found with
          | some result => exact h.pure _
          | none =>
              refine h.bind (h.generateLive orchestrator _ prompt) fun result => ?_
              refine h.bind (whenEnabled (h.store (.cacheExactPut _ _ _) rfl) (h.pure _)) fun _ => ?_
              refine h.bind (whenEnabled (h.bind (h.orPanic _) fun _ =>
                h.store (.cachePrefixPut _ _ _) rfl) (h.pure _)) fun _ => ?_
              exact h.bind (whenEnabled (h.ignore (h.store (.upsertMemory _ _ _ _ _) rfl))
                (h.pure _)) fun _ => h.pure _

/-! ### Messages and tools -/

variable (runtime : EngineRuntime)

theorem replyText (message : MessageEnvelope) (response : String) :
    C String (runtime.replyText message response) := by
  refine whenEnabled (h.bind (h.attempt ?_) fun _ => h.pure _) (h.pure _)
  exact (h.brain runtime.brain).inlineSuggestions _ _

theorem ensurePairingIfRequired (session : SessionRecord) (message : MessageEnvelope) :
    C (Option String) (runtime.ensurePairingIfRequired session message) := by
  have hclear : C Unit (StateStore.clearSessionPendingPairing session.id) :=
    h.store (.clearSessionPendingPairing session.id) rfl
  unfold EngineRuntime.ensurePairingIfRequired
  split
  · exact h.pure _
  · split
    · exact h.bind hclear fun _ => h.pure _
    · refine h.bind (h.store (.pairingIsApproved _ _ _) rfl) fun approved => ?_
      refine whenEnabled (h.bind hclear fun _ => h.pure _) ?_
      refine h.bind (h.store (.ensurePairing _ _ _ _ _) rfl) fun _ => ?_
      exact h.bind (h.store (.setSessionPendingPairing _ _) rfl) fun _ => h.pure _

theorem outboundSession (request : OutboundMessage) :
    C SessionRecord (runtime.outboundSession request) := by
  unfold EngineRuntime.outboundSession
  split
  · exact h.store (.resolveSessionForOutbound _ _ _ _) rfl
  · exact h.store (.sessionById _) rfl

theorem executeTool (call : ToolCall) (outcome : ToolOutcome) :
    C ToolOutcome (runtime.executeTool call outcome) :=
  whenEnabled (h.bind (h.ignore ((h.brain runtime.brain).ingestToolResult _ _)) fun _ =>
    h.pure _) (h.pure _)

theorem exportAudit (siem : SiemConfig) (write : String → Except String Unit) (sink : String)
    (limit : Nat) : C (List AuditEvent) (EngineRuntime.exportAudit siem write sink limit) := by
  refine h.bind (h.store (.listAudit limit) rfl) fun events => ?_
  split
  · exact h.bind (h.ofExcept _) fun _ => h.pure _
  · exact h.pure _

end QuietParts

namespace RuntimeParts

variable {C : (α : Type) → EngineOp α → Prop} (h : RuntimeParts C)

include h

theorem storeCall (call : StoreCall) : C call.Result call.op := by
  cases hlog : call.isLog with
  | true => exact h.log call hlog
  | false => exact h.store call hlog

/-! ### Messages -/

theorem recordAuditText (category severity summary : String) (anomalyScore : Rat)
    (payloadJson : String) :
    C Unit (EngineRuntime.recordAuditText category severity summary anomalyScore payloadJson) :=
  h.bind h.newUuid fun _ => h.bind h.now fun _ => h.storeCall (.recordAudit _)

theorem recordAudit (category severity summary : String) (anomalyScore : Rat) (payload : Json) :
    C Unit (EngineRuntime.recordAudit category severity summary anomalyScore payload) :=
  h.recordAuditText _ _ _ _ _

variable (runtime : EngineRuntime)

theorem answerMessage (session : SessionRecord) (message : MessageEnvelope) (messageId : String) :
    C InboundMessageResult (runtime.answerMessage session message messageId) := by
  refine h.bind (h.attempt ((h.brain runtime.brain).buildContextPack _ _)) fun packed => ?_
  refine h.bind (h.emit _) fun _ => ?_
  refine h.bind (h.attempt (h.generateWithRoute _ _ _ _)) fun generated => ?_
  cases generated with
  | ok result =>
      refine h.bind (h.emit _) fun _ => ?_
      refine h.bind (h.ignore ((h.brain runtime.brain).ingestAssistantReply _ _)) fun _ => ?_
      refine h.bind (h.replyText runtime _ _) fun _ => ?_
      refine h.bind (h.storeCall (.recordSessionMessage _ _ _ _ _ _)) fun _ => ?_
      exact h.bind (h.recordAudit _ _ _ _ _) fun _ => h.pure _
  | error error => exact h.bind (h.recordAudit _ _ _ _ _) fun _ => h.pure _

theorem gateMessage (session : SessionRecord) (message : MessageEnvelope) (messageId : String) :
    C InboundMessageResult (runtime.gateMessage session message messageId) := by
  refine h.bind (h.ensurePairingIfRequired runtime session message) fun pairing => ?_
  cases pairing with
  | some pairingId => exact h.bind (h.recordAudit _ _ _ _ _) fun _ => h.pure _
  | none => exact QuietParts.whenEnabled (h.pure _) (h.answerMessage runtime _ _ _)

theorem handleMessage (message : MessageEnvelope) :
    C InboundMessageResult (runtime.handleMessage message) := by
  refine h.bind (h.storeCall (.recordMessage message)) fun _ => ?_
  refine h.bind (h.storeCall (.resolveSessionForInbound _ _ _)) fun session => ?_
  refine h.bind (h.storeCall (.recordSessionMessage _ _ _ _ _ _)) fun messageId => ?_
  refine h.bind (h.ignore ((h.brain runtime.brain).ingestMessage message)) fun _ => ?_
  exact h.gateMessage runtime _ _ _

/-! ### Calls -/

/-- Every call has the property. -/
theorem call (call : ApiCall) : C call.Result (call.op runtime) := by
  have hbrain := h.brain runtime.brain
  cases call with
  | deliverMessage message => exact h.handleMessage runtime message
  | recordOutboundMessage request =>
      refine h.bind (h.outboundSession runtime request) fun session => ?_
      exact h.bind (h.storeCall (.recordSessionMessage _ _ _ _ _ _)) fun _ => h.pure _
  | listSessions query => exact h.storeCall (.listSessions query)
  | getSession query => exact h.storeCall (.getSessionDetail query)
  | pruneSessions request => exact h.storeCall (.pruneSessions request)
  | listPairings query => exact h.storeCall (.listPairings query)
  | updatePairing request =>
      refine h.bind (h.storeCall (.updatePairing request)) fun pairing => ?_
      exact h.bind (h.recordAudit _ _ _ _ _) fun _ => h.pure _
  | queryMemory query => exact h.storeCall (.queryMemory query _)
  | upsertMemory nameSpace key content metadataJson =>
      refine h.bind (h.storeCall (.upsertMemory _ _ _ _ _)) fun digest => ?_
      exact h.bind (h.recordAudit _ _ _ _ _) fun _ => h.pure _
  | rememberBrain request =>
      refine h.bind (hbrain.remember request) fun result => ?_
      exact h.bind (h.recordAudit _ _ _ _ _) fun _ => h.pure _
  | recallBrain query => exact hbrain.recallRecords query
  | suggestBrain query => exact hbrain.suggest query
  | listBrainTasks query => exact hbrain.listTaskRecords query
  | updateBrainTask request =>
      refine h.bind (hbrain.updateTaskRecord request) fun task => ?_
      exact h.bind (h.recordAudit _ _ _ _ _) fun _ => h.pure _
  | forgetBrain request =>
      refine h.bind (h.forget runtime.brain request) fun result => ?_
      exact h.bind (h.recordAudit _ _ _ _ _) fun _ => h.pure _
  | attestSession attester subject nonce includeHardware =>
      exact h.bind (h.recordAuditText _ _ _ _ _) fun _ => h.pure _
  | exportAudit siem write sink limit => exact h.exportAudit siem write sink limit
  | runAgentProtocol config nonces request =>
      refine h.bind (h.storeCall (.recordProtocolRun _)) fun _ => ?_
      exact h.bind (h.recordAuditText _ _ _ _ _) fun _ => h.pure _
  | executeTool call outcome => exact h.executeTool runtime call outcome
  | schedules => exact h.storeCall .listJobs
  | storeQueueTask task status => exact h.storeCall (.storeQueueTask task status)
  | updateQueueStatus taskId status => exact h.storeCall (.updateQueueStatus taskId status)
  | restart workspacePath workspaceTitle os =>
      exact BrainManager.Parts.create h.toClosed (fun manager _ => h.brain manager) _ _ _ _

end RuntimeParts

end OpenPinch
