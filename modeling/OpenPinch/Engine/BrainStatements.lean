import OpenPinch.Engine.BrainKeys

/-!
# The statements of the brain

Below its parts an operation of the brain is made of single statements, each
under the lock: a selection, an upsert of a row that passed its checks, the
archiving of old rows, and the reads and writes of the vector memory.
`Statements` says that each of them has a property which sequences keep, and then
the parts have it, and `forget` too.
-/

namespace OpenPinch

open Lib (Table.upsertOn)

variable {C : (α : Type) → EngineOp α → Prop}

/-- A check, and what comes after it where it is passed. -/
theorem EngineOp.Closed.check (h : EngineOp.Closed C) {α : Type} {checked : Except String Unit}
    {p : EngineOp α} (hp : checked = .ok () → C α p) :
    C α (EngineOp.ofExcept checked >>= fun _ => p) := by
  cases checked with
  | ok _ => exact h.bind (h.pure ()) fun _ => hp rfl
  | error message => exact h.fail _

namespace BrainManager

variable [Externals]

/-- The statements of the operations have a property that sequences keep. -/
structure Statements (manager : BrainManager) (C : (α : Type) → EngineOp α → Prop) : Prop
    extends EngineOp.Closed C where
  now : C Instant EngineOp.now
  nonce : C Nonce EngineOp.newNonce
  project : ∀ nameSpace key content metadataJson,
    C String (StateStore.upsertMemory nameSpace key content metadataJson manager.encryption)
  search : ∀ query, C (List MemoryRecord) (StateStore.queryMemory query manager.encryption)
  select : ∀ {ρ β : Type} (f : BrainTables → List ρ) (g : List ρ → Except String β),
    C β (EngineOp.guarded .brain (Stmt.select f >>= fun rows => Stmt.ofExcept (g rows)))
  entity : ∀ row : EntityRow, validateEntity row.entityKind row.subtype = .ok () →
    C Unit (EngineOp.guarded .brain (Stmt.execute fun t =>
      { t with entities := Table.upsertOn EntityRow.entityId
                (fun old => { row with createdAt := old.createdAt }) row t.entities }))
  fact : ∀ row : FactRow, C Unit (EngineOp.guarded .brain (Stmt.execute fun t =>
    { t with facts := Table.upsertOn FactRow.factId
              (fun old => { row with createdAt := old.createdAt }) row t.facts }))
  task : ∀ row : TaskRow, validateTaskStatus row.status = .ok () →
    C Unit (EngineOp.guarded .brain (Stmt.execute fun t =>
      { t with tasks := Table.upsertOn TaskRow.taskId
                (fun old => { row with createdAt := old.createdAt }) row t.tasks }))
  relation : ∀ row : RelationRow, row.Digested → validateRelationKind row.relationKind = .ok () →
    C Unit (EngineOp.guarded .brain (Stmt.insert fun t =>
      (upsertRelationRows row t.relations).map fun rows => { t with relations := rows }))
  recordIngest : ∀ sourceRef sourceKind fingerprintValue targetJson,
    C Unit (recordIngest sourceRef sourceKind fingerprintValue targetJson)
  retain : C Unit manager.applyRetention

namespace Statements

variable {manager : BrainManager} (h : manager.Statements C)

include h

theorem encryptPayload (fields values : List String) :
    C String (manager.encryptPayload fields values) :=
  h.bind (h.bind h.nonce fun _ => h.ofExcept _) fun _ => h.pure _

theorem upsertProjection (nameSpace key content metadataJson : String) :
    C Unit (manager.upsertProjection nameSpace key content metadataJson) :=
  h.bind (h.project _ _ _ _) fun _ => h.pure ()

theorem upsertEntity (input : EntityUpsert) :
    C BrainEntityRecord (manager.upsertEntity input) := by
  unfold BrainManager.upsertEntity
  refine h.toClosed.check fun hvalid => ?_
  refine h.bind (h.encryptPayload _ _) fun blobJson => h.bind h.now fun now => ?_
  refine h.bind (h.entity _ hvalid) fun _ => ?_
  exact h.bind (h.upsertProjection _ _ _ _) fun _ => h.pure _

theorem upsertFact (input : FactUpsert) : C BrainFactRecord (manager.upsertFact input) := by
  unfold BrainManager.upsertFact
  refine h.bind (h.encryptPayload _ _) fun blobJson => h.bind h.now fun now => ?_
  refine h.bind (h.fact _) fun _ => ?_
  exact h.bind (h.upsertProjection _ _ _ _) fun _ => h.pure _

theorem upsertTask (input : TaskUpsert) : C BrainTaskRecord (manager.upsertTask input) := by
  unfold BrainManager.upsertTask
  refine h.toClosed.check fun hstatus => ?_
  refine h.bind (h.encryptPayload _ _) fun blobJson => h.bind h.now fun now => ?_
  refine h.bind (h.task _ hstatus) fun _ => ?_
  refine h.bind (h.upsertProjection _ _ _ _) fun _ => ?_
  exact h.bind (h.upsertProjection _ _ _ _) fun _ => h.pure _

theorem upsertRelation (kind fromId toId metadataJson : String) (confidence : Rat)
    (archived : Bool) : C BrainRelationRecord
      (upsertRelation kind fromId toId metadataJson confidence archived) := by
  unfold BrainManager.upsertRelation
  refine h.toClosed.check fun hkind => h.bind h.now fun now => ?_
  exact h.bind (h.relation
    (relationRow kind fromId toId metadataJson confidence archived now) rfl hkind) fun _ => h.pure _

/-- The parts have the property. -/
theorem parts : manager.Parts C where
  toClosed := h.toClosed
  now := h.now
  upsertEntity := h.upsertEntity
  upsertFact := h.upsertFact
  upsertTask := h.upsertTask
  upsertRelation := h.upsertRelation
  recordIngest := h.recordIngest
  listEntities _ := h.select _ _
  listFacts _ := h.select _ _
  listRelations _ := h.select _ fun rows => .ok (rows.map relationRecord)
  listTasks _ := h.select _ _
  queryProjectionHits _ _ _ := h.bind (h.search _) fun _ => h.pure _
  projectSuggestion := h.upsertProjection "brain-suggestions"
  retain := h.retain

theorem dropProjections (mode targetId : String)
    (hproject : ∀ nameSpace key, C Unit (deleteProjection nameSpace key)) :
    C Unit (dropProjections mode targetId) := by
  unfold BrainManager.dropProjections
  split
  · refine h.bind (h.ignore (hproject _ _)) fun _ => ?_
    refine h.bind (h.ignore (hproject _ _)) fun _ => ?_
    exact h.bind (h.ignore (hproject _ _)) fun _ => h.ignore (hproject _ _)
  · exact h.pure ()

/-- `forget` has it when its statement and the deletion of a projection do. -/
theorem forget (request : BrainForget)
    (hstmt : ∀ targetKind mode targetId,
      C Unit (EngineOp.guarded .brain (forgetStmt targetKind mode targetId)))
    (hproject : ∀ nameSpace key, C Unit (deleteProjection nameSpace key)) :
    C BrainForgetResult (manager.forget request) := by
  unfold BrainManager.forget
  refine h.bind (h.requireEnabled manager) fun _ => h.bind (hstmt _ _ _) fun _ => ?_
  exact h.bind (h.dropProjections _ _ hproject) fun _ => h.pure _

end Statements

end BrainManager

end OpenPinch
