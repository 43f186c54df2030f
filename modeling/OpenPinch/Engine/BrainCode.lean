import OpenPinch.Engine.BrainManager
import OpenPinch.Engine.Rules

/-!
# What the operations of the brain are made of

The operations of `BrainManager` are sequences of a few parts: the upserts, the
lists, a search, retention, and the projections of suggestions.  `Parts` says
that each part has a property which sequences keep, and then every operation but
`forget` has it.
-/

namespace OpenPinch

variable {C : (α : Type) → EngineOp α → Prop}

theorem EngineOp.Closed.requireEnabled (h : EngineOp.Closed C) (manager : BrainManager) :
    C Unit manager.requireEnabled := by
  unfold BrainManager.requireEnabled
  split
  · exact h.pure ()
  · exact h.fail _

theorem EngineOp.Closed.parseDueAt (h : EngineOp.Closed C) (hnow : C Instant EngineOp.now)
    (content : String) : C (Option Instant) (parseDueAt content) := by
  unfold OpenPinch.parseDueAt
  cases dueAfter content with
  | none => exact h.pure none
  | some duration => exact h.bind hnow fun _ => h.bind (h.orPanic _) fun due => h.pure (some due)

namespace BrainManager

variable [Externals]

/-- The parts that read, and what they do besides: retention and suggestions. -/
structure Reading (manager : BrainManager) (C : (α : Type) → EngineOp α → Prop) : Prop
    extends EngineOp.Closed C where
  now : C Instant EngineOp.now
  listEntities : ∀ includeArchived,
    C (List BrainEntityRecord) (manager.listEntities includeArchived)
  listFacts : ∀ includeArchived, C (List BrainFactRecord) (manager.listFacts includeArchived)
  listRelations : ∀ includeArchived,
    C (List BrainRelationRecord) (listRelations includeArchived)
  listTasks : ∀ includeArchived, C (List BrainTaskRecord) (manager.listTasks includeArchived)
  queryProjectionHits : ∀ nameSpace query limit,
    C (List String) (manager.queryProjectionHits nameSpace query limit)
  projectSuggestion : ∀ key content metadataJson,
    C Unit (manager.upsertProjection "brain-suggestions" key content metadataJson)
  retain : C Unit manager.applyRetention

namespace Reading

variable {manager : BrainManager} (h : manager.Reading C)

include h

theorem findSimilarTask (summary scopeJson : String) :
    C (Option BrainTaskRecord) (manager.findSimilarTask summary scopeJson) := by
  refine h.bind (h.attempt (h.listTasks false)) fun tasks => ?_
  cases tasks with
  | ok tasks => exact h.pure _
  | error message => exact h.pure none

theorem findRelatedToolTask (target summary : String) :
    C (Option BrainTaskRecord) (manager.findRelatedToolTask target summary) := by
  refine h.bind (h.attempt (h.listTasks false)) fun tasks => ?_
  cases tasks with
  | ok tasks => exact h.pure _
  | error message => exact h.pure none

theorem recallRecords (query : BrainRecallQuery) :
    C BrainRecallResult (manager.recall query) := by
  unfold BrainManager.recall
  refine h.bind (h.requireEnabled manager) fun _ => ?_
  refine h.bind h.retain fun _ => ?_
  refine h.bind (h.listEntities _) fun _ => ?_
  refine h.bind (h.listFacts _) fun _ => ?_
  refine h.bind (h.listTasks _) fun _ => ?_
  refine h.bind (h.listRelations _) fun _ => ?_
  refine h.bind (h.queryProjectionHits _ _ _) fun _ => ?_
  refine h.bind (h.queryProjectionHits _ _ _) fun _ => ?_
  exact h.bind (h.queryProjectionHits _ _ _) fun _ => h.pure _

theorem suggest (query : BrainSuggestQuery) : C BrainSuggestResult (manager.suggest query) := by
  unfold BrainManager.suggest
  refine h.bind (h.requireEnabled manager) fun _ => ?_
  refine h.bind h.retain fun _ => ?_
  refine h.bind (h.listTasks _) fun _ => ?_
  refine h.bind (h.listEntities _) fun _ => ?_
  refine h.bind h.now fun _ => h.bind (h.orPanic _) fun _ => ?_
  refine h.bind (h.each (fun _ => ?_) _) fun _ => h.pure _
  exact h.ignore (h.projectSuggestion _ _ _)

theorem listTaskRecords (query : BrainTaskListQuery) :
    C BrainTaskListResult (manager.listTaskRecords query) := by
  unfold BrainManager.listTaskRecords
  refine h.bind (h.requireEnabled manager) fun _ => ?_
  refine h.bind h.retain fun _ => ?_
  exact h.bind (h.listTasks _) fun _ => h.pure _

theorem buildContextPack (query scopeJson : String) :
    C String (manager.buildContextPack query scopeJson) := by
  unfold BrainManager.buildContextPack
  split
  · exact h.pure ""
  · refine h.bind (h.recallRecords _) fun _ => ?_
    exact h.bind (h.suggest _) fun _ => h.pure _

theorem inlineSuggestions (scopeJson : String) (limit : Nat) :
    C (List BrainSuggestionRecord) (manager.inlineSuggestions scopeJson limit) :=
  h.bind (h.suggest _) fun _ => h.pure _

end Reading

/-- The parts of the operations have a property that sequences keep. -/
structure Parts (manager : BrainManager) (C : (α : Type) → EngineOp α → Prop) : Prop
    extends EngineOp.Closed C where
  now : C Instant EngineOp.now
  upsertEntity : ∀ input, C BrainEntityRecord (manager.upsertEntity input)
  upsertFact : ∀ input, C BrainFactRecord (manager.upsertFact input)
  upsertTask : ∀ input, C BrainTaskRecord (manager.upsertTask input)
  upsertRelation : ∀ kind fromId toId metadataJson confidence archived,
    C BrainRelationRecord (upsertRelation kind fromId toId metadataJson confidence archived)
  recordIngest : ∀ sourceRef sourceKind fingerprintValue targetJson,
    C Unit (recordIngest sourceRef sourceKind fingerprintValue targetJson)
  listEntities : ∀ includeArchived,
    C (List BrainEntityRecord) (manager.listEntities includeArchived)
  listFacts : ∀ includeArchived, C (List BrainFactRecord) (manager.listFacts includeArchived)
  listRelations : ∀ includeArchived,
    C (List BrainRelationRecord) (listRelations includeArchived)
  listTasks : ∀ includeArchived, C (List BrainTaskRecord) (manager.listTasks includeArchived)
  queryProjectionHits : ∀ nameSpace query limit,
    C (List String) (manager.queryProjectionHits nameSpace query limit)
  projectSuggestion : ∀ key content metadataJson,
    C Unit (manager.upsertProjection "brain-suggestions" key content metadataJson)
  retain : C Unit manager.applyRetention

namespace Parts

variable {manager : BrainManager} (h : manager.Parts C)

include h

theorem reading : manager.Reading C where
  toClosed := h.toClosed
  now := h.now
  listEntities := h.listEntities
  listFacts := h.listFacts
  listRelations := h.listRelations
  listTasks := h.listTasks
  queryProjectionHits := h.queryProjectionHits
  projectSuggestion := h.projectSuggestion
  retain := h.retain

/-! ## Similar tasks and links -/

theorem parseDueAt (content : String) : C (Option Instant) (parseDueAt content) :=
  h.toClosed.parseDueAt h.now content

theorem findSimilarTask (summary scopeJson : String) :
    C (Option BrainTaskRecord) (manager.findSimilarTask summary scopeJson) :=
  h.reading.findSimilarTask summary scopeJson

theorem findRelatedToolTask (target summary : String) :
    C (Option BrainTaskRecord) (manager.findRelatedToolTask target summary) :=
  h.reading.findRelatedToolTask target summary

theorem upsertOrMergeTask (input : TaskUpsert) :
    C BrainTaskRecord (manager.upsertOrMergeTask input) := by
  unfold BrainManager.upsertOrMergeTask
  cases input.taskId with
  | some taskId => exact h.upsertTask _
  | none => exact h.bind (h.findSimilarTask _ _) fun _ => h.upsertTask _

theorem linkRecord (recordId recordKind linksJson sourceRef : String) :
    C Unit (linkRecord recordId recordKind linksJson sourceRef) :=
  h.each (fun _ => h.bind (h.upsertRelation _ _ _ _ _ _) fun _ => h.pure ()) _

/-! ## The public operations -/

theorem remember (request : BrainRemember) : C BrainRememberResult (manager.remember request) := by
  unfold BrainManager.remember
  refine h.bind (h.requireEnabled manager) fun _ => ?_
  refine h.bind h.retain fun _ => ?_
  split
  · refine h.bind (h.parseDueAt _) fun _ => ?_
    refine h.bind (h.upsertOrMergeTask _) fun _ => ?_
    exact h.bind (h.recordIngest _ _ _ _) fun _ => h.pure _
  · refine h.bind (h.ofExcept _) fun _ => ?_
    refine h.bind (h.upsertEntity _) fun _ => ?_
    refine h.bind (h.upsertFact _) fun _ => ?_
    refine h.bind (h.linkRecord _ _ _ _) fun _ => ?_
    exact h.bind (h.recordIngest _ _ _ _) fun _ => h.pure _

theorem recallRecords (query : BrainRecallQuery) :
    C BrainRecallResult (manager.recall query) :=
  h.reading.recallRecords query

theorem suggest (query : BrainSuggestQuery) : C BrainSuggestResult (manager.suggest query) :=
  h.reading.suggest query

theorem listTaskRecords (query : BrainTaskListQuery) :
    C BrainTaskListResult (manager.listTaskRecords query) :=
  h.reading.listTaskRecords query

theorem updateTaskRecord (request : BrainTaskUpdate) :
    C BrainTaskRecord (manager.updateTaskRecord request) := by
  unfold BrainManager.updateTaskRecord
  refine h.bind (h.requireEnabled manager) fun _ => ?_
  refine h.bind (h.ofExcept _) fun _ => ?_
  refine h.bind (h.listTasks _) fun _ => ?_
  refine h.bind (h.upsertTask _) fun _ => ?_
  exact h.bind (h.linkRecord _ _ _ _) fun _ => h.pure _

/-! ## Ingestion -/

theorem ingestMention (contactId sourceRef : String) (confidence : Rat) (input : EntityUpsert) :
    C String (manager.ingestMention contactId sourceRef confidence input) :=
  h.bind (h.upsertEntity _) fun _ => h.bind (h.upsertRelation _ _ _ _ _ _) fun _ => h.pure _

theorem ingestTask (message : MessageEnvelope) (contactId scopeJson sourceRef : String)
    (linkedIds : List String) :
    C (List String) (manager.ingestTask message contactId scopeJson sourceRef linkedIds) := by
  unfold BrainManager.ingestTask
  cases extractTaskSummary message.body with
  | none => exact h.pure _
  | some summary =>
      refine h.bind (h.parseDueAt _) fun _ => ?_
      refine h.bind (h.upsertOrMergeTask _) fun _ => ?_
      refine h.bind (h.upsertRelation _ _ _ _ _ _) fun _ => ?_
      exact h.bind (h.upsertRelation _ _ _ _ _ _) fun _ => h.pure _

theorem ingestContact (message : MessageEnvelope) : C String (manager.ingestContact message) := by
  unfold BrainManager.ingestContact
  refine h.bind (h.upsertEntity _) fun _ => ?_
  refine h.bind (h.upsertRelation _ _ _ _ _ _) fun _ => ?_
  refine h.bind (h.upsertRelation _ _ _ _ _ _) fun _ => ?_
  exact h.bind (h.upsertFact _) fun _ => h.pure _

theorem ingestMentions (message : MessageEnvelope) (contactId : String) :
    C (List String) (manager.ingestMentions message contactId) := by
  unfold BrainManager.ingestMentions
  refine h.bind (h.collect (fun artifact => ?_) _) fun artifacts => ?_
  · exact h.ingestMention _ _ _ _
  refine h.bind (h.collect (fun mention => ?_) _) fun environments => h.pure _
  exact h.ingestMention _ _ _ _

theorem ingestMessage (message : MessageEnvelope) : C Unit (manager.ingestMessage message) := by
  unfold BrainManager.ingestMessage
  split
  · exact h.pure ()
  · refine h.bind (h.ingestContact _) fun _ => ?_
    refine h.bind (h.ingestMentions _ _) fun _ => ?_
    exact h.bind (h.ingestTask _ _ _ _ _) fun _ => h.recordIngest _ _ _ _

theorem finishTask (sourceRef : String) (task : Option BrainTaskRecord) :
    C Unit (manager.finishTask sourceRef task) := by
  cases task with
  | none => exact h.pure ()
  | some task => exact h.bind (h.upsertTask _) fun _ => h.pure ()

theorem ingestToolResult (call : ToolCall) (outcome : ToolOutcome) :
    C Unit (manager.ingestToolResult call outcome) := by
  unfold BrainManager.ingestToolResult
  split
  · exact h.pure ()
  · refine h.bind (h.upsertEntity _) fun _ => ?_
    refine h.bind (h.upsertFact _) fun _ => ?_
    refine h.bind (h.upsertFact _) fun _ => ?_
    refine h.bind (h.findRelatedToolTask _ _) fun _ => ?_
    exact h.bind (h.finishTask _ _) fun _ => h.recordIngest _ _ _ _

theorem ingestAssistantReply (message : MessageEnvelope) (reply : String) :
    C Unit (manager.ingestAssistantReply message reply) := by
  unfold BrainManager.ingestAssistantReply
  split
  · exact h.pure ()
  · cases extractAssistantCommitment reply with
    | none => exact h.pure ()
    | some summary =>
        refine h.bind (h.parseDueAt _) fun _ => ?_
        refine h.bind (h.upsertOrMergeTask _) fun _ => ?_
        exact h.bind (h.upsertRelation _ _ _ _ _ _) fun _ => h.recordIngest _ _ _ _

/-! ## Context -/

theorem buildContextPack (query scopeJson : String) :
    C String (manager.buildContextPack query scopeJson) :=
  h.reading.buildContextPack query scopeJson

theorem inlineSuggestions (scopeJson : String) (limit : Nat) :
    C (List BrainSuggestionRecord) (manager.inlineSuggestions scopeJson limit) :=
  h.reading.inlineSuggestions scopeJson limit

theorem ensureBaselineContext (workspacePath workspaceTitle os : String) :
    C Unit (manager.ensureBaselineContext workspacePath workspaceTitle os) := by
  unfold BrainManager.ensureBaselineContext
  refine h.bind (h.upsertEntity _) fun _ => ?_
  refine h.bind (h.upsertEntity _) fun _ => ?_
  refine h.bind (h.upsertEntity _) fun _ => ?_
  refine h.bind (h.upsertEntity _) fun _ => ?_
  refine h.bind (h.upsertRelation _ _ _ _ _ _) fun _ => ?_
  refine h.bind (h.upsertRelation _ _ _ _ _ _) fun _ => ?_
  exact h.bind (h.upsertRelation _ _ _ _ _ _) fun _ => h.pure ()

end Parts

/-- A brain starts with a manager under the encryption it is given. -/
theorem Parts.create {encryption : EncryptionManager} (hclosed : EngineOp.Closed C)
    (h : ∀ manager : BrainManager, manager.encryption = encryption → manager.Parts C)
    (config : BrainConfig) (workspacePath workspaceTitle os : String) :
    C BrainManager (create config encryption workspacePath workspaceTitle os) :=
  hclosed.bind ((h _ (by rfl)).ensureBaselineContext _ _ _) fun _ => hclosed.pure _

end BrainManager

end OpenPinch
