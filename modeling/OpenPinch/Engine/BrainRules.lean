import OpenPinch.Engine.BrainCode
import OpenPinch.Engine.StoreRules

/-!
# What the brain does

Every operation of the brain keeps the lock and stays aside: conversations,
reply caches and providers are left as they are, whatever else happens in the
tables of the brain and in the vector memory.
-/

namespace OpenPinch

open Lib.Op (keeps_bind keeps_pure)
open Lib.Prog (Keeps)
open EngineOp (keeps_ignore keeps_ofExcept keeps_orPanic keeps_now keeps_brain keeps_vectorMemory)

namespace BrainManager

variable [Externals] (manager : BrainManager)

/-! ## Upserts -/

theorem keeps_encryptPayload (fields values : List String) :
    Keeps Aside false false (manager.encryptPayload fields values) :=
  keeps_bind (StateStore.keeps_encrypt _ _) fun _ => keeps_pure _

theorem keeps_upsertProjection (nameSpace key content metadataJson : String) :
    Keeps Aside false false (manager.upsertProjection nameSpace key content metadataJson) :=
  keeps_bind (StateStore.keeps_upsertMemory _ _ _ _ _) fun _ => keeps_pure _

omit [Externals] in
theorem keeps_deleteProjection (nameSpace key : String) :
    Keeps Aside false false (deleteProjection nameSpace key) :=
  keeps_vectorMemory _

theorem keeps_queryProjectionHits (nameSpace query : String) (limit : Nat) :
    Keeps Aside false false (manager.queryProjectionHits nameSpace query limit) :=
  keeps_bind (StateStore.keeps_queryMemory _ _) fun _ => keeps_pure _

theorem keeps_upsertEntity (input : EntityUpsert) :
    Keeps Aside false false (manager.upsertEntity input) := by
  unfold upsertEntity
  refine keeps_bind (keeps_ofExcept _) fun _ => ?_
  refine keeps_bind (manager.keeps_encryptPayload _ _) fun _ => ?_
  refine keeps_bind keeps_now fun _ => keeps_bind (keeps_brain _) fun _ => ?_
  exact keeps_bind (manager.keeps_upsertProjection _ _ _ _) fun _ => keeps_pure _

theorem keeps_upsertFact (input : FactUpsert) :
    Keeps Aside false false (manager.upsertFact input) := by
  unfold upsertFact
  refine keeps_bind (manager.keeps_encryptPayload _ _) fun _ => ?_
  refine keeps_bind keeps_now fun _ => keeps_bind (keeps_brain _) fun _ => ?_
  exact keeps_bind (manager.keeps_upsertProjection _ _ _ _) fun _ => keeps_pure _

theorem keeps_upsertRelation (kind fromId toId metadataJson : String) (confidence : Rat)
    (archived : Bool) :
    Keeps Aside false false (upsertRelation kind fromId toId metadataJson confidence archived) :=
  keeps_bind (keeps_ofExcept _) fun _ => keeps_bind keeps_now fun _ =>
    keeps_bind (keeps_brain _) fun _ => keeps_pure _

theorem keeps_upsertTask (input : TaskUpsert) :
    Keeps Aside false false (manager.upsertTask input) := by
  unfold upsertTask
  refine keeps_bind (keeps_ofExcept _) fun _ => ?_
  refine keeps_bind (manager.keeps_encryptPayload _ _) fun _ => ?_
  refine keeps_bind keeps_now fun _ => keeps_bind (keeps_brain _) fun _ => ?_
  refine keeps_bind (manager.keeps_upsertProjection _ _ _ _) fun _ => ?_
  exact keeps_bind (manager.keeps_upsertProjection _ _ _ _) fun _ => keeps_pure _

omit [Externals] in
theorem keeps_recordIngest (sourceRef sourceKind fingerprintValue targetJson : String) :
    Keeps Aside false false (recordIngest sourceRef sourceKind fingerprintValue targetJson) :=
  keeps_brain _

/-! ## Lists and searches -/

theorem keeps_listEntities (includeArchived : Bool) :
    Keeps Aside false false (manager.listEntities includeArchived) :=
  keeps_brain _

theorem keeps_listFacts (includeArchived : Bool) :
    Keeps Aside false false (manager.listFacts includeArchived) :=
  keeps_brain _

theorem keeps_listRelations (includeArchived : Bool) :
    Keeps Aside false false (listRelations includeArchived) :=
  keeps_brain _

theorem keeps_listTasks (includeArchived : Bool) :
    Keeps Aside false false (manager.listTasks includeArchived) :=
  keeps_brain _

theorem keeps_applyRetention : Keeps Aside false false manager.applyRetention :=
  keeps_bind keeps_now fun _ => keeps_bind (keeps_orPanic _) fun _ =>
    keeps_bind (keeps_orPanic _) fun _ => keeps_brain _

/-- The parts of the operations keep the lock and stay aside. -/
theorem parts_keep : manager.Parts fun _ p => Keeps Aside false false p where
  toClosed := EngineOp.closed_keeps Aside false
  now := keeps_now
  upsertEntity := manager.keeps_upsertEntity
  upsertFact := manager.keeps_upsertFact
  upsertTask := manager.keeps_upsertTask
  upsertRelation := keeps_upsertRelation
  recordIngest := keeps_recordIngest
  listEntities := manager.keeps_listEntities
  listFacts := manager.keeps_listFacts
  listRelations := keeps_listRelations
  listTasks := manager.keeps_listTasks
  queryProjectionHits := manager.keeps_queryProjectionHits
  projectSuggestion := manager.keeps_upsertProjection "brain-suggestions"
  retain := manager.keeps_applyRetention

theorem keeps_ingestMessage (message : MessageEnvelope) :
    Keeps Aside false false (manager.ingestMessage message) :=
  manager.parts_keep.ingestMessage message

theorem keeps_ingestAssistantReply (message : MessageEnvelope) (reply : String) :
    Keeps Aside false false (manager.ingestAssistantReply message reply) :=
  manager.parts_keep.ingestAssistantReply message reply

theorem keeps_buildContextPack (query scopeJson : String) :
    Keeps Aside false false (manager.buildContextPack query scopeJson) :=
  manager.parts_keep.buildContextPack query scopeJson

theorem keeps_inlineSuggestions (scopeJson : String) (limit : Nat) :
    Keeps Aside false false (manager.inlineSuggestions scopeJson limit) :=
  manager.parts_keep.inlineSuggestions scopeJson limit

/-! ## Forgetting -/

omit [Externals] in
theorem keeps_dropProjections (mode targetId : String) :
    Keeps Aside false false (dropProjections mode targetId) := by
  unfold dropProjections
  split
  · refine keeps_bind (keeps_ignore (keeps_deleteProjection _ _)) fun _ => ?_
    refine keeps_bind (keeps_ignore (keeps_deleteProjection _ _)) fun _ => ?_
    refine keeps_bind (keeps_ignore (keeps_deleteProjection _ _)) fun _ => ?_
    exact keeps_ignore (keeps_deleteProjection _ _)
  · exact keeps_pure _

omit [Externals] in
theorem keeps_forget (request : BrainForget) :
    Keeps Aside false false (manager.forget request) := by
  unfold forget
  refine keeps_bind ((EngineOp.closed_keeps Aside false).requireEnabled manager) fun _ => ?_
  refine keeps_bind (keeps_brain _) fun _ => ?_
  exact keeps_bind (keeps_dropProjections _ _) fun _ => keeps_pure _

end BrainManager

end OpenPinch
