import OpenPinch.Engine.BrainRules

/-!
# The lock of the store

Every operation of the store and of the brain runs alone from a free lock.
`ensure_pairing` asks for the lock of the connection while it holds it, once its
insert is accepted, and so waits for itself.  All the others return with the
lock free (`returns_unlocked_iff`).
-/

namespace OpenPinch

open Lib (Op)
open Lib.Prog (Keeps)

/-! ## Operations -/

/-- The operations of `StateStore`. -/
inductive StoreCall where
  | recordMessage (message : MessageEnvelope)
  | listJobs
  | cacheExactGet (promptHash : String)
  | cacheExactPut (promptHash provider response : String)
  | cachePrefixGet (prompt : String)
  | cachePrefixPut (key provider response : String)
  | upsertMemory (nameSpace key content metadataJson : String) (encryption : EncryptionManager)
  | queryMemory (query : MemoryQuery) (encryption : EncryptionManager)
  | recordAudit (event : AuditEvent)
  | listAudit (limit : Nat)
  | storeQueueTask (task : QueueTask) (status : String)
  | updateQueueStatus (taskId status : String)
  | recordProtocolRun (result : ProtocolRunResult)
  | resolveSessionForInbound (message : MessageEnvelope) (config : AppConfig)
      (defaultModelProfile : String)
  | resolveSessionForOutbound (connector channelId sender : String) (config : AppConfig)
  | resolveSessionInternal (connectorName channelId participant sessionType : String)
      (config : AppConfig) (defaultModelProfile : String)
  | sessionById (sessionId : String)
  | recordSessionMessage (sessionId connector role sender body metadataJson : String)
  | listSessions (query : SessionListQuery)
  | getSessionDetail (query : SessionDetailQuery)
  | pruneSessions (request : SessionPruneRequestRecord)
  | listPairings (query : PairingListQuery)
  | ensurePairing (connectorName channelId sender sessionId reason : String)
  | pairingForTarget (connectorName channelId sender : String)
  | updatePairing (request : PairingUpdate)
  | pairingIsApproved (connectorName channelId sender : String)
  | setSessionPendingPairing (sessionId : String) (value : Bool)
  | clearSessionPendingPairing (sessionId : String)

/-- The operations of `BrainManager`. -/
inductive BrainCall where
  | create (config : BrainConfig) (encryption : EncryptionManager)
      (workspacePath workspaceTitle os : String)
  | remember (request : BrainRemember)
  | recallRecords (query : BrainRecallQuery)
  | suggest (query : BrainSuggestQuery)
  | listTaskRecords (query : BrainTaskListQuery)
  | updateTaskRecord (request : BrainTaskUpdate)
  | forget (request : BrainForget)
  | ingestMessage (message : MessageEnvelope)
  | ingestToolResult (call : ToolCall) (outcome : ToolOutcome)
  | ingestAssistantReply (message : MessageEnvelope) (reply : String)
  | buildContextPack (query scopeJson : String)
  | inlineSuggestions (scopeJson : String) (limit : Nat)
  | ensureBaselineContext (workspacePath workspaceTitle os : String)
  | applyRetention
  | recordIngest (sourceRef sourceKind fingerprintValue targetJson : String)
  | upsertEntity (input : EntityUpsert)
  | upsertFact (input : FactUpsert)
  | upsertRelation (kind fromId toId metadataJson : String) (confidence : Rat) (archived : Bool)
  | upsertTask (input : TaskUpsert)
  | upsertOrMergeTask (input : TaskUpsert)
  | linkRecord (recordId recordKind linksJson sourceRef : String)
  | listEntities (includeArchived : Bool)
  | listFacts (includeArchived : Bool)
  | listRelations (includeArchived : Bool)
  | listTasks (includeArchived : Bool)
  | findSimilarTask (summary scopeJson : String)
  | findRelatedToolTask (target summary : String)
  | queryProjectionHits (nameSpace query : String) (limit : Nat)
  | upsertProjection (nameSpace key content metadataJson : String)
  | deleteProjection (nameSpace key : String)

/-- An operation of the store, or one of a brain. -/
inductive Operation where
  | store (call : StoreCall)
  | brain (manager : BrainManager) (call : BrainCall)

/-- What an operation of the store returns. -/
def StoreCall.Result : StoreCall → Type
  | .recordMessage _ => Unit
  | .listJobs => List ScheduleRequest
  | .cacheExactGet _ => Option (String × String)
  | .cacheExactPut _ _ _ => Unit
  | .cachePrefixGet _ => Option (String × String)
  | .cachePrefixPut _ _ _ => Unit
  | .upsertMemory _ _ _ _ _ => String
  | .queryMemory _ _ => List MemoryRecord
  | .recordAudit _ => Unit
  | .listAudit _ => List AuditEvent
  | .storeQueueTask _ _ => Unit
  | .updateQueueStatus _ _ => Unit
  | .recordProtocolRun _ => Unit
  | .resolveSessionForInbound _ _ _ => SessionRecord
  | .resolveSessionForOutbound _ _ _ _ => SessionRecord
  | .resolveSessionInternal _ _ _ _ _ _ => SessionRecord
  | .sessionById _ => SessionRecord
  | .recordSessionMessage _ _ _ _ _ _ => String
  | .listSessions _ => List SessionRecord
  | .getSessionDetail _ => SessionDetail
  | .pruneSessions _ => Nat
  | .listPairings _ => List PairingRecord
  | .ensurePairing _ _ _ _ _ => PairingRecord
  | .pairingForTarget _ _ _ => PairingRecord
  | .updatePairing _ => PairingRecord
  | .pairingIsApproved _ _ _ => Bool
  | .setSessionPendingPairing _ _ => Unit
  | .clearSessionPendingPairing _ => Unit

/-- What an operation of the brain returns. -/
def BrainCall.Result : BrainCall → Type
  | .create _ _ _ _ _ => BrainManager
  | .remember _ => BrainRememberResult
  | .recallRecords _ => BrainRecallResult
  | .suggest _ => BrainSuggestResult
  | .listTaskRecords _ => BrainTaskListResult
  | .updateTaskRecord _ => BrainTaskRecord
  | .forget _ => BrainForgetResult
  | .ingestMessage _ => Unit
  | .ingestToolResult _ _ => Unit
  | .ingestAssistantReply _ _ => Unit
  | .buildContextPack _ _ => String
  | .inlineSuggestions _ _ => List BrainSuggestionRecord
  | .ensureBaselineContext _ _ _ => Unit
  | .applyRetention => Unit
  | .recordIngest _ _ _ _ => Unit
  | .upsertEntity _ => BrainEntityRecord
  | .upsertFact _ => BrainFactRecord
  | .upsertRelation _ _ _ _ _ _ => BrainRelationRecord
  | .upsertTask _ => BrainTaskRecord
  | .upsertOrMergeTask _ => BrainTaskRecord
  | .linkRecord _ _ _ _ => Unit
  | .listEntities _ => List BrainEntityRecord
  | .listFacts _ => List BrainFactRecord
  | .listRelations _ => List BrainRelationRecord
  | .listTasks _ => List BrainTaskRecord
  | .findSimilarTask _ _ => Option BrainTaskRecord
  | .findRelatedToolTask _ _ => Option BrainTaskRecord
  | .queryProjectionHits _ _ _ => List String
  | .upsertProjection _ _ _ _ => Unit
  | .deleteProjection _ _ => Unit

def Operation.Result : Operation → Type
  | .store call => call.Result
  | .brain _ call => call.Result

/-- The database accepts the insert of `ensure_pairing` for a target: it refuses
no statement, and the new identifier is not that of another pairing. -/
def World.acceptsPairing (w : World) (target : Target) : Bool :=
  !w.around.refuses w.around.statements &&
    (w.conversations.pairings.any (·.target == target) ||
      !w.conversations.pairings.any (·.pairingId == s!"pairing-{w.around.uuid w.around.uuids}"))

/-- The operation is an `ensure_pairing` whose insert is accepted. -/
def Operation.insertsPairing (w : World) : Operation → Bool
  | .store (.ensurePairing connectorName channelId sender _ _) =>
      w.acceptsPairing ⟨connectorName, channelId, sender⟩
  | _ => false

section

variable [Externals]

/-- The operation of a call on the store. -/
def StoreCall.op : (call : StoreCall) → EngineOp call.Result
  | .recordMessage message => StateStore.recordMessage message
  | .listJobs => StateStore.listJobs
  | .cacheExactGet promptHash => StateStore.cacheExactGet promptHash
  | .cacheExactPut promptHash provider response =>
      StateStore.cacheExactPut promptHash provider response
  | .cachePrefixGet prompt => StateStore.cachePrefixGet prompt
  | .cachePrefixPut key provider response => StateStore.cachePrefixPut key provider response
  | .upsertMemory nameSpace key content metadataJson encryption =>
      StateStore.upsertMemory nameSpace key content metadataJson encryption
  | .queryMemory query encryption => StateStore.queryMemory query encryption
  | .recordAudit event => StateStore.recordAudit event
  | .listAudit limit => StateStore.listAudit limit
  | .storeQueueTask task status => StateStore.storeQueueTask task status
  | .updateQueueStatus taskId status => StateStore.updateQueueStatus taskId status
  | .recordProtocolRun result => StateStore.recordProtocolRun result
  | .resolveSessionForInbound message config defaultModelProfile =>
      StateStore.resolveSessionForInbound message config defaultModelProfile
  | .resolveSessionForOutbound connector channelId sender config =>
      StateStore.resolveSessionForOutbound connector channelId sender config
  | .resolveSessionInternal connectorName channelId participant sessionType config
      defaultModelProfile =>
      StateStore.resolveSessionInternal connectorName channelId participant sessionType config
        defaultModelProfile
  | .sessionById sessionId => StateStore.sessionById sessionId
  | .recordSessionMessage sessionId connector role sender body metadataJson =>
      StateStore.recordSessionMessage sessionId connector role sender body metadataJson
  | .listSessions query => StateStore.listSessions query
  | .getSessionDetail query => StateStore.getSessionDetail query
  | .pruneSessions request => StateStore.pruneSessions request
  | .listPairings query => StateStore.listPairings query
  | .ensurePairing connectorName channelId sender sessionId reason =>
      StateStore.ensurePairing connectorName channelId sender sessionId reason
  | .pairingForTarget connectorName channelId sender =>
      StateStore.pairingForTarget connectorName channelId sender
  | .updatePairing request => StateStore.updatePairing request
  | .pairingIsApproved connectorName channelId sender =>
      StateStore.pairingIsApproved connectorName channelId sender
  | .setSessionPendingPairing sessionId value =>
      StateStore.setSessionPendingPairing sessionId value
  | .clearSessionPendingPairing sessionId => StateStore.clearSessionPendingPairing sessionId

/-- The operation of a call on a brain. -/
def BrainCall.op (manager : BrainManager) : (call : BrainCall) → EngineOp call.Result
  | .create config encryption workspacePath workspaceTitle os =>
      BrainManager.create config encryption workspacePath workspaceTitle os
  | .remember request => manager.remember request
  | .recallRecords query => manager.recall query
  | .suggest query => manager.suggest query
  | .listTaskRecords query => manager.listTaskRecords query
  | .updateTaskRecord request => manager.updateTaskRecord request
  | .forget request => manager.forget request
  | .ingestMessage message => manager.ingestMessage message
  | .ingestToolResult call outcome => manager.ingestToolResult call outcome
  | .ingestAssistantReply message reply => manager.ingestAssistantReply message reply
  | .buildContextPack query scopeJson => manager.buildContextPack query scopeJson
  | .inlineSuggestions scopeJson limit => manager.inlineSuggestions scopeJson limit
  | .ensureBaselineContext workspacePath workspaceTitle os =>
      manager.ensureBaselineContext workspacePath workspaceTitle os
  | .applyRetention => manager.applyRetention
  | .recordIngest sourceRef sourceKind fingerprintValue targetJson =>
      BrainManager.recordIngest sourceRef sourceKind fingerprintValue targetJson
  | .upsertEntity input => manager.upsertEntity input
  | .upsertFact input => manager.upsertFact input
  | .upsertRelation kind fromId toId metadataJson confidence archived =>
      BrainManager.upsertRelation kind fromId toId metadataJson confidence archived
  | .upsertTask input => manager.upsertTask input
  | .upsertOrMergeTask input => manager.upsertOrMergeTask input
  | .linkRecord recordId recordKind linksJson sourceRef =>
      BrainManager.linkRecord recordId recordKind linksJson sourceRef
  | .listEntities includeArchived => manager.listEntities includeArchived
  | .listFacts includeArchived => manager.listFacts includeArchived
  | .listRelations includeArchived => BrainManager.listRelations includeArchived
  | .listTasks includeArchived => manager.listTasks includeArchived
  | .findSimilarTask summary scopeJson => manager.findSimilarTask summary scopeJson
  | .findRelatedToolTask target summary => manager.findRelatedToolTask target summary
  | .queryProjectionHits nameSpace query limit =>
      manager.queryProjectionHits nameSpace query limit
  | .upsertProjection nameSpace key content metadataJson =>
      manager.upsertProjection nameSpace key content metadataJson
  | .deleteProjection nameSpace key => BrainManager.deleteProjection nameSpace key

/-- The encryption that a call works under. -/
def BrainCall.encryption (manager : BrainManager) : BrainCall → EncryptionManager
  | .create _ encryption _ _ _ => encryption
  | _ => manager.encryption

/-- The calls that are not made of the parts of the other operations. -/
def BrainCall.isApart : BrainCall → Bool
  | .forget _ => true
  | .upsertProjection _ _ _ _ => true
  | .deleteProjection _ _ => true
  | _ => false

/-- A property of the parts is one of every call, given those apart. -/
theorem BrainCall.closed {C : (α : Type) → EngineOp α → Prop} {manager : BrainManager}
    {call : BrainCall} (hclosed : EngineOp.Closed C)
    (h : ∀ other : BrainManager, other.encryption = call.encryption manager → other.Parts C)
    (hapart : call.isApart = true → C call.Result (call.op manager)) :
    C call.Result (call.op manager) := by
  cases call with
  | create config encryption workspacePath workspaceTitle os =>
      exact BrainManager.Parts.create hclosed h _ _ _ _
  | remember request => exact (h manager rfl).remember _
  | recallRecords query => exact (h manager rfl).recallRecords _
  | suggest query => exact (h manager rfl).suggest _
  | listTaskRecords query => exact (h manager rfl).listTaskRecords _
  | updateTaskRecord request => exact (h manager rfl).updateTaskRecord _
  | forget request => exact hapart rfl
  | ingestMessage message => exact (h manager rfl).ingestMessage _
  | ingestToolResult call outcome => exact (h manager rfl).ingestToolResult _ _
  | ingestAssistantReply message reply => exact (h manager rfl).ingestAssistantReply _ _
  | buildContextPack query scopeJson => exact (h manager rfl).buildContextPack _ _
  | inlineSuggestions scopeJson limit => exact (h manager rfl).inlineSuggestions _ _
  | ensureBaselineContext workspacePath workspaceTitle os =>
      exact (h manager rfl).ensureBaselineContext _ _ _
  | applyRetention => exact (h manager rfl).retain
  | recordIngest sourceRef sourceKind fingerprintValue targetJson =>
      exact (h manager rfl).recordIngest _ _ _ _
  | upsertEntity input => exact (h manager rfl).upsertEntity _
  | upsertFact input => exact (h manager rfl).upsertFact _
  | upsertRelation kind fromId toId metadataJson confidence archived =>
      exact (h manager rfl).upsertRelation _ _ _ _ _ _
  | upsertTask input => exact (h manager rfl).upsertTask _
  | upsertOrMergeTask input => exact (h manager rfl).upsertOrMergeTask _
  | linkRecord recordId recordKind linksJson sourceRef => exact (h manager rfl).linkRecord _ _ _ _
  | listEntities includeArchived => exact (h manager rfl).listEntities _
  | listFacts includeArchived => exact (h manager rfl).listFacts _
  | listRelations includeArchived => exact (h manager rfl).listRelations _
  | listTasks includeArchived => exact (h manager rfl).listTasks _
  | findSimilarTask summary scopeJson => exact (h manager rfl).findSimilarTask _ _
  | findRelatedToolTask target summary => exact (h manager rfl).findRelatedToolTask _ _
  | queryProjectionHits nameSpace query limit => exact (h manager rfl).queryProjectionHits _ _ _
  | upsertProjection nameSpace key content metadataJson => exact hapart rfl
  | deleteProjection nameSpace key => exact hapart rfl

def Operation.op : (operation : Operation) → EngineOp operation.Result
  | .store call => call.op
  | .brain manager call => call.op manager

end

/-! ## The discipline -/

/-- A program that gives the lock back, whatever its actions do. -/
def Disciplined {α : Type} (p : EngineOp α) : Prop := Keeps (fun _ _ => True) false false p

theorem Disciplined.of_keeps {α : Type} {P : Event → (World → World) → Prop} {p : EngineOp α}
    (h : Keeps P false false p) : Disciplined p :=
  h.mono fun _ _ _ => trivial

theorem disciplined_guarded {τ α : Type} (v : View τ) (m : Stmt τ α) :
    Disciplined (EngineOp.guarded v m) :=
  Op.keeps_guarded trivial

theorem BrainCall.disciplined [Externals] (manager : BrainManager) (call : BrainCall) :
    Disciplined (call.op manager) := by
  refine .of_keeps (BrainCall.closed (C := fun _ p => Keeps Aside false false p)
    (EngineOp.closed_keeps Aside false) (fun manager _ => manager.parts_keep) fun hapart => ?_)
  cases call with
  | forget request => exact manager.keeps_forget _
  | upsertProjection nameSpace key content metadataJson =>
      exact manager.keeps_upsertProjection _ _ _ _
  | deleteProjection nameSpace key => exact BrainManager.keeps_deleteProjection _ _
  | _ => cases hapart

/-- An operation of the store other than `ensure_pairing` keeps the discipline. -/
theorem StoreCall.disciplined [Externals] (call : StoreCall)
    (other : ∀ connectorName channelId sender sessionId reason,
      call ≠ .ensurePairing connectorName channelId sender sessionId reason) :
    Disciplined call.op := by
  cases call with
  | ensurePairing connectorName channelId sender sessionId reason =>
      exact absurd rfl (other connectorName channelId sender sessionId reason)
  | recordMessage message => exact .of_keeps (StateStore.keeps_recordMessage _)
  | listJobs => exact .of_keeps StateStore.keeps_listJobs
  | cacheExactGet promptHash => exact disciplined_guarded _ _
  | cacheExactPut promptHash provider response => exact disciplined_guarded _ _
  | cachePrefixGet prompt => exact disciplined_guarded _ _
  | cachePrefixPut key provider response => exact disciplined_guarded _ _
  | upsertMemory nameSpace key content metadataJson encryption =>
      exact .of_keeps (StateStore.keeps_upsertMemory _ _ _ _ _)
  | queryMemory query encryption => exact .of_keeps (StateStore.keeps_queryMemory _ _)
  | recordAudit event => exact .of_keeps (StateStore.keeps_recordAudit _)
  | listAudit limit => exact .of_keeps (StateStore.keeps_listAudit _)
  | storeQueueTask task status =>
      exact .of_keeps (StateStore.keeps_storeQueueTask _ _)
  | updateQueueStatus taskId status =>
      exact .of_keeps (StateStore.keeps_updateQueueStatus _ _)
  | recordProtocolRun result =>
      exact .of_keeps (StateStore.keeps_recordProtocolRun _)
  | resolveSessionForInbound message config defaultModelProfile =>
      exact .of_keeps (StateStore.keeps_resolveSessionForInbound _ _ _)
  | resolveSessionForOutbound connector channelId sender config =>
      exact .of_keeps (StateStore.keeps_resolveSessionForOutbound _ _ _ _)
  | resolveSessionInternal connectorName channelId participant sessionType config
      defaultModelProfile =>
      exact disciplined_guarded _ _
  | sessionById sessionId => exact .of_keeps (StateStore.keeps_sessionById _)
  | recordSessionMessage sessionId connector role sender body metadataJson =>
      exact .of_keeps (StateStore.keeps_recordSessionMessage _ _ _ _ _ _)
  | listSessions query => exact .of_keeps (StateStore.keeps_listSessions _)
  | getSessionDetail query => exact .of_keeps (StateStore.keeps_getSessionDetail _)
  | pruneSessions request => exact .of_keeps (StateStore.keeps_pruneSessions _)
  | listPairings query => exact .of_keeps (StateStore.keeps_listPairings _)
  | pairingForTarget connectorName channelId sender =>
      exact .of_keeps (StateStore.keeps_pairingForTarget _ _ _)
  | updatePairing request => exact .of_keeps (StateStore.keeps_updatePairing _)
  | pairingIsApproved connectorName channelId sender =>
      exact .of_keeps (StateStore.keeps_pairingIsApproved _ _ _)
  | setSessionPendingPairing sessionId value =>
      exact .of_keeps (StateStore.keeps_setSessionPendingPairing _ _)
  | clearSessionPendingPairing sessionId =>
      exact .of_keeps (StateStore.keeps_setSessionPendingPairing _ _)

/-! ## The exception -/

/-- The insert of `ensure_pairing` succeeds when the database accepts it. -/
theorem result_ensurePairingStmt (row : PairingRow) (around : Surroundings)
    (t : Conversations) :
    Op.result (StateStore.ensurePairingStmt row) (around, t) = .ok () ↔
      around.refuses around.statements = false ∧
        (t.pairings.any (·.target == row.target) = true ∨
          t.pairings.any (·.pairingId == row.pairingId) = false) := by
  unfold StateStore.ensurePairingStmt Lib.Table.upsert
  rw [Stmt.result_insert]
  cases around.refuses around.statements <;>
    cases t.pairings.any (·.target == row.target) <;>
      cases t.pairings.any (·.pairingId == row.pairingId) <;> simp

/-- The row that `ensure_pairing` inserts for a target. -/
def pendingRow (w : World) (connectorName channelId sender sessionId reason : String) :
    PairingRow where
  pairingId := s!"pairing-{w.around.uuid w.around.uuids}"
  connector := connectorName
  channelId := channelId
  sender := sender
  sessionId := sessionId
  status := "pending"
  reason := reason
  note := ""
  createdAt := w.around.clock w.around.ticks
  updatedAt := w.around.clock w.around.ticks

/-- The world in which `ensure_pairing` inserts its row. -/
def World.atInsert (w : World) : World :=
  { w with around := { w.around with ticks := w.around.ticks + 1, uuids := w.around.uuids + 1 } }

/-- `ensure_pairing` alone waits for itself once its insert is done.  Without the
insert it returns the error and the lock. -/
theorem alone_ensurePairing_eq (connectorName channelId sender sessionId reason : String)
    (w : World) :
    let insert := View.conversations.run (StateStore.ensurePairingStmt
      (pendingRow w connectorName channelId sender sessionId reason))
    (StateStore.ensurePairing connectorName channelId sender sessionId reason).alone false w =
      match Op.result insert w.atInsert with
      | .ok _ => .deadlock (Op.after insert w.atInsert)
      | .error e => .done (.error e) false (Op.after insert w.atInsert) := by
  intro insert
  refine (Op.alone_holding (Event.pairingUpsert ⟨connectorName, channelId, sender⟩) insert _
    w.atInsert).trans ?_
  cases Op.result insert w.atInsert <;> rfl

theorem alone_ensurePairing (connectorName channelId sender sessionId reason : String)
    (w : World) :
    (∃ r w', (StateStore.ensurePairing connectorName channelId sender sessionId reason).alone
      false w = .done r false w') ↔
        w.acceptsPairing ⟨connectorName, channelId, sender⟩ = false := by
  let row := pendingRow w connectorName channelId sender sessionId reason
  let insert := View.conversations.run (StateStore.ensurePairingStmt row)
  have accepts : Op.result insert w.atInsert = .ok () ↔
      w.acceptsPairing ⟨connectorName, channelId, sender⟩ = true := by
    rw [View.result_run]
    refine (result_ensurePairingStmt row _ _).trans ?_
    simp only [World.acceptsPairing, Bool.and_eq_true, Bool.or_eq_true, Bool.not_eq_true']
    exact Iff.rfl
  have run := alone_ensurePairing_eq connectorName channelId sender sessionId reason w
  dsimp only at run
  rw [run, ← Bool.not_eq_true, ← accepts]
  cases hresult : Op.result insert w.atInsert with
  | ok a => exact iff_of_false nofun fun refused => refused rfl
  | error e => exact iff_of_true ⟨_, _, rfl⟩ nofun

/-! ## The result -/

/-- Run alone from a free lock, an operation returns with the lock free exactly
when it is no `ensure_pairing` that inserts its row. -/
theorem returns_unlocked_iff [Externals] (operation : Operation) (w : World) :
    (∃ r w', operation.op.alone false w = .done r false w') ↔
      operation.insertsPairing w = false := by
  cases operation with
  | brain manager call =>
      exact iff_of_true ⟨_, _, (BrainCall.disciplined manager call).alone w⟩ rfl
  | store call =>
      by_cases hensure : ∃ connectorName channelId sender sessionId reason,
          call = .ensurePairing connectorName channelId sender sessionId reason
      · obtain ⟨connectorName, channelId, sender, sessionId, reason, rfl⟩ := hensure
        exact alone_ensurePairing connectorName channelId sender sessionId reason w
      · have keeps : Disciplined call.op := call.disciplined
          fun connectorName channelId sender sessionId reason h =>
            hensure ⟨connectorName, channelId, sender, sessionId, reason, h⟩
        refine iff_of_true ⟨_, _, keeps.alone w⟩ ?_
        cases call with
        | ensurePairing connectorName channelId sender sessionId reason =>
            exact absurd ⟨_, _, _, _, _, rfl⟩ hensure
        | _ => rfl

/-- In a database without rows the first pairing waits for itself. -/
theorem returns_unlocked_fails :
    ¬ ∀ (operation : Operation) (w : World),
      ∃ r w', (@Operation.op referenceExternals operation).alone false w = .done r false w' := by
  intro h
  have first := h (.store (.ensurePairing "telegram" "7" "7" "session-0"
    "direct message not yet paired")) (World.fresh countingSurroundings fun _ => .ok "")
  have accepted := (alone_ensurePairing "telegram" "7" "7" "session-0"
    "direct message not yet paired" (World.fresh countingSurroundings fun _ => .ok "")).mp first
  exact absurd accepted (by decide)

end OpenPinch
