import OpenPinch.Engine.StateStore

/-!
# The tables of the brain

The private operations of `BrainManager`: encrypted payloads, the upserts with
their projections into the vector memory, and the lists.  The lock is released
after each upsert and before its projection.
-/

namespace OpenPinch

variable [Externals]

/-! ## Texts -/

/-- `default_source_ref`. -/
def defaultSourceRef (sourceRef seed label : String) : String :=
  let digest := promptHash seed
  if sourceRef = "" then s!"{label}:{digest}" else sourceRef

/-- `entity_projection`. -/
def entityProjection (record : BrainEntityRecord) : String :=
  s!"{record.kind} {record.subtype} {record.title} {record.content} {record.scopeJson}"

/-- `fact_projection`. -/
def factProjection (record : BrainFactRecord) : String := s!"{record.content} {record.scopeJson}"

/-- The format `{:?}` of an optional instant. -/
def debugDueAt (dueAt : Option Instant) : String :=
  match dueAt with
  | some instant => s!"Some({Externals.debugInstant instant})"
  | none => "None"

/-- `task_projection`. -/
def taskProjection (record : BrainTaskRecord) : String :=
  s!"{record.title} {record.summary} {record.status} {record.priority} {debugDueAt record.dueAt}"

/-- `parse_due_at`. -/
def parseDueAt (content : String) : EngineOp (Option Instant) :=
  match dueAfter content with
  | none => return none
  | some duration => do
      let now ← EngineOp.now
      let due ← EngineOp.orPanic (shift now duration)
      return some due

/-! ## The manager and its inputs -/

/-- `BrainInner`, less the store and the paths. -/
structure BrainManager where
  config : BrainConfig
  encryption : EncryptionManager
  ownerId : String
  runtimeEnvId : String
  workspaceEnvId : String
  projectEnvId : String

structure EntityUpsert where
  entityId : String
  kind : String
  subtype : String
  title : String
  content : String
  scopeJson : String
  linksJson : String
  salience : Rat
  confidence : Rat
  sourceRef : String

structure FactUpsert where
  factId : String
  entityId : String
  content : String
  scopeJson : String
  salience : Rat
  confidence : Rat
  sourceRef : String

structure TaskUpsert where
  taskId : Option String
  title : String
  summary : String
  status : String
  priority : String
  dueAt : Option Instant
  scopeJson : String
  linksJson : String
  salience : Rat
  confidence : Rat
  sourceRef : String

namespace BrainManager

open Lib (Table.updateWhere Table.deleteWhere Table.upsert Table.upsertOn Table.descending)

variable (manager : BrainManager)

/-! ## Payloads -/

/-- The fields of `BrainEntityPayload`, `BrainFactPayload` and `BrainTaskPayload`. -/
def entityFields : List String := ["title", "content", "scope_json", "links_json", "source_ref"]

def factFields : List String := ["content", "scope_json", "source_ref"]

def taskFields : List String := ["title", "summary", "scope_json", "links_json", "source_ref"]

/-- `BrainManager::encrypt_payload`, of a payload with these fields and values. -/
def encryptPayload (fields values : List String) : EngineOp String := do
  let blob ← manager.encryption.encrypt
    (Externals.jsonText (.obj (fields.zip (values.map .str))))
  return Externals.jsonText blob.toJson

/-- `BrainManager::decrypt_payload`: the values of the fields. -/
def decryptPayload (fields : List String) (blobJson : String) : Except String (List String) := do
  match EncryptedBlob.ofJson? blobJson with
  | none => .error "failed to decode encrypted brain payload"
  | some blob =>
      match manager.encryption.decryptText blob with
      | .error _ => .error "failed to decrypt brain payload"
      | .ok plaintext =>
          match ((Externals.jsonParse plaintext).bind (Json.fields? fields)).bind
              fun values => values.mapM Json.asStr? with
          | some values => .ok values
          | none => .error "failed to decode brain payload"

/-! ## Projections -/

/-- `BrainManager::upsert_projection`. -/
def upsertProjection (nameSpace key content metadataJson : String) : EngineOp Unit := do
  let _ ← StateStore.upsertMemory nameSpace key content metadataJson manager.encryption
  return ()

/-- `BrainManager::delete_projection`. -/
def deleteProjection (nameSpace key : String) : EngineOp Unit :=
  EngineOp.guarded .vectorMemory (Stmt.execute
    (Table.deleteWhere fun row => row.nameSpace == nameSpace && row.key == key))

/-- `BrainManager::query_projection_hits`: the keys of the hits. -/
def queryProjectionHits (nameSpace query : String) (limit : Nat) : EngineOp (List String) := do
  let records ← StateStore.queryMemory ⟨nameSpace, query, max limit 1, "{}"⟩ manager.encryption
  return records.map MemoryRecord.key

/-! ## Upserts -/

/-- The checks of `upsert_entity`. -/
def validateEntity (kind subtype : String) : Except String Unit := do
  validateEntityKind kind
  if kind = "environment" ∧ subtype ≠ "" then validateEnvironmentSubtype subtype

/-- `BrainManager::upsert_entity`. -/
def upsertEntity (input : EntityUpsert) : EngineOp BrainEntityRecord := do
  EngineOp.ofExcept (validateEntity input.kind input.subtype)
  let encryptedBlobJson ← manager.encryptPayload entityFields
    [input.title, input.content, input.scopeJson, input.linksJson, input.sourceRef]
  let now ← EngineOp.now
  let row : EntityRow :=
    { entityId := input.entityId
      entityKind := input.kind
      subtype := input.subtype
      encryptedBlobJson := encryptedBlobJson
      salience := input.salience
      confidence := input.confidence
      fingerprint := fingerprint s!"{input.title} {input.content} {input.scopeJson}"
      archived := false
      sourceRef := input.sourceRef
      createdAt := now
      updatedAt := now }
  let change (old : EntityRow) : EntityRow := { row with createdAt := old.createdAt }
  EngineOp.guarded .brain (Stmt.execute fun t =>
    { t with entities := Table.upsertOn EntityRow.entityId change row t.entities })
  let record : BrainEntityRecord :=
    { id := input.entityId
      kind := input.kind
      subtype := input.subtype
      title := input.title
      content := input.content
      scopeJson := input.scopeJson
      linksJson := input.linksJson
      salience := input.salience
      confidence := input.confidence
      archived := false
      createdAt := now
      updatedAt := now }
  manager.upsertProjection "brain-entities" record.id (entityProjection record)
    (Externals.jsonText (.obj [("kind", .str record.kind), ("subtype", .str record.subtype)]))
  return record

/-- `BrainManager::upsert_fact`. -/
def upsertFact (input : FactUpsert) : EngineOp BrainFactRecord := do
  let encryptedBlobJson ← manager.encryptPayload factFields
    [input.content, input.scopeJson, input.sourceRef]
  let now ← EngineOp.now
  let row : FactRow :=
    { factId := input.factId
      entityId := input.entityId
      encryptedBlobJson := encryptedBlobJson
      salience := input.salience
      confidence := input.confidence
      fingerprint := fingerprint input.content
      archived := false
      sourceRef := input.sourceRef
      createdAt := now
      updatedAt := now }
  let change (old : FactRow) : FactRow := { row with createdAt := old.createdAt }
  EngineOp.guarded .brain (Stmt.execute fun t =>
    { t with facts := Table.upsertOn FactRow.factId change row t.facts })
  let record : BrainFactRecord :=
    { id := input.factId
      entityId := input.entityId
      content := input.content
      scopeJson := input.scopeJson
      salience := input.salience
      confidence := input.confidence
      archived := false
      createdAt := now
      updatedAt := now }
  manager.upsertProjection "brain-facts" record.id (factProjection record)
    (Externals.jsonText (.obj [("entity_id", .str record.entityId)]))
  return record

/-- `BrainManager::upsert_relation`. -/
def upsertRelation (kind fromId toId metadataJson : String) (confidence : Rat)
    (archived : Bool) : EngineOp BrainRelationRecord := do
  EngineOp.ofExcept (validateRelationKind kind)
  let digest := promptHash s!"{kind}:{fromId}:{toId}"
  let relationId := s!"relation:{digest}"
  let now ← EngineOp.now
  let row : RelationRow :=
    { relationId := relationId
      relationKind := kind
      fromEntityId := fromId
      toEntityId := toId
      metadataJson := metadataJson
      confidence := confidence
      archived := archived
      createdAt := now
      updatedAt := now }
  let target (other : RelationRow) : Bool := other.relationKind == kind &&
    other.fromEntityId == fromId && other.toEntityId == toId
  let change (old : RelationRow) : RelationRow :=
    { old with
      metadataJson := metadataJson
      confidence := confidence
      archived := archived
      updatedAt := now }
  EngineOp.guarded .brain (Stmt.insert fun t =>
    (Table.upsert (·.relationId == relationId) target change row t.relations).map fun rows =>
      { t with relations := rows })
  return ⟨relationId, kind, fromId, toId, metadataJson, confidence, now, now⟩

/-- The identifier of a task by its summary and scope. -/
def taskIdOf (summary scopeJson : String) : String :=
  let digest := promptHash s!"{summary}:{scopeJson}"
  s!"task:{digest}"

/-- `BrainManager::upsert_task`. -/
def upsertTask (input : TaskUpsert) : EngineOp BrainTaskRecord := do
  let taskId := input.taskId.getD (taskIdOf input.summary input.scopeJson)
  EngineOp.ofExcept (validateTaskStatus input.status)
  let encryptedBlobJson ← manager.encryptPayload taskFields
    [input.title, input.summary, input.scopeJson, input.linksJson, input.sourceRef]
  let now ← EngineOp.now
  let row : TaskRow :=
    { taskId := taskId
      status := input.status
      priority := input.priority
      dueAt := input.dueAt
      encryptedBlobJson := encryptedBlobJson
      salience := input.salience
      confidence := input.confidence
      fingerprint := fingerprint s!"{input.title} {input.summary}"
      archived := false
      sourceRef := input.sourceRef
      createdAt := now
      updatedAt := now }
  let change (old : TaskRow) : TaskRow := { row with createdAt := old.createdAt }
  EngineOp.guarded .brain (Stmt.execute fun t =>
    { t with tasks := Table.upsertOn TaskRow.taskId change row t.tasks })
  let record : BrainTaskRecord :=
    { id := taskId
      title := input.title
      summary := input.summary
      status := input.status
      priority := input.priority
      dueAt := input.dueAt
      scopeJson := input.scopeJson
      linksJson := input.linksJson
      salience := input.salience
      confidence := input.confidence
      archived := false
      createdAt := now
      updatedAt := now }
  manager.upsertProjection "brain-tasks" record.id (taskProjection record)
    (Externals.jsonText (.obj [("priority", .str record.priority), ("status", .str record.status)]))
  manager.upsertProjection "brain-suggestions" s!"suggestion:{record.id}"
    s!"{record.summary} {record.priority}"
    (Externals.jsonText (.obj [("status", .str record.status), ("task_id", .str record.id)]))
  return record

/-- `BrainManager::record_ingest`. -/
def recordIngest (sourceRef sourceKind fingerprintValue targetJson : String) : EngineOp Unit :=
  EngineOp.guarded .brain do
    let now ← Stmt.now
    let row : IngestRow := ⟨sourceRef, sourceKind, fingerprintValue, targetJson, now⟩
    Stmt.execute fun t =>
      { t with ingestLog := Table.upsertOn IngestRow.sourceRef (fun _ => row) row t.ingestLog }

/-! ## Lists -/

/-- The newest rows of a table, at most 512, less the archived ones. -/
def newest {ρ : Type} (updatedAt : ρ → Instant) (archived : ρ → Bool) (includeArchived : Bool)
    (rows : List ρ) : List ρ :=
  ((Table.descending (fun row => stamp (updatedAt row)) rows).take 512).filter fun row =>
    includeArchived || !archived row

/-- The record of an entity row. -/
def entityRecord (row : EntityRow) : Except String BrainEntityRecord := do
  match ← manager.decryptPayload entityFields row.encryptedBlobJson with
  | [title, content, scopeJson, linksJson, _] =>
      return { id := row.entityId, kind := row.entityKind, subtype := row.subtype, title, content,
               scopeJson, linksJson, salience := row.salience, confidence := row.confidence,
               archived := row.archived, createdAt := row.createdAt, updatedAt := row.updatedAt }
  | _ => .error "failed to decode brain payload"

/-- The record of a fact row. -/
def factRecord (row : FactRow) : Except String BrainFactRecord := do
  match ← manager.decryptPayload factFields row.encryptedBlobJson with
  | [content, scopeJson, _] =>
      return { id := row.factId, entityId := row.entityId, content, scopeJson,
               salience := row.salience, confidence := row.confidence, archived := row.archived,
               createdAt := row.createdAt, updatedAt := row.updatedAt }
  | _ => .error "failed to decode brain payload"

/-- The record of a relation row. -/
def relationRecord (row : RelationRow) : BrainRelationRecord where
  id := row.relationId
  kind := row.relationKind
  fromId := row.fromEntityId
  toId := row.toEntityId
  metadataJson := row.metadataJson
  confidence := row.confidence
  createdAt := row.createdAt
  updatedAt := row.updatedAt

/-- The record of a task row. -/
def taskRecord (row : TaskRow) : Except String BrainTaskRecord := do
  match ← manager.decryptPayload taskFields row.encryptedBlobJson with
  | [title, summary, scopeJson, linksJson, _] =>
      return { id := row.taskId, title, summary, status := row.status, priority := row.priority,
               dueAt := row.dueAt, scopeJson, linksJson, salience := row.salience,
               confidence := row.confidence, archived := row.archived, createdAt := row.createdAt,
               updatedAt := row.updatedAt }
  | _ => .error "failed to decode brain payload"

/-- `BrainManager::list_entities`. -/
def listEntities (includeArchived : Bool) : EngineOp (List BrainEntityRecord) :=
  EngineOp.guarded .brain do
    let rows ← Stmt.select fun t =>
      newest EntityRow.updatedAt EntityRow.archived includeArchived t.entities
    Stmt.ofExcept (rows.mapM manager.entityRecord)

/-- `BrainManager::list_facts`. -/
def listFacts (includeArchived : Bool) : EngineOp (List BrainFactRecord) :=
  EngineOp.guarded .brain do
    let rows ← Stmt.select fun t =>
      newest FactRow.updatedAt FactRow.archived includeArchived t.facts
    Stmt.ofExcept (rows.mapM manager.factRecord)

/-- `BrainManager::list_relations`. -/
def listRelations (includeArchived : Bool) : EngineOp (List BrainRelationRecord) :=
  EngineOp.guarded .brain do
    let rows ← Stmt.select fun t =>
      newest RelationRow.updatedAt RelationRow.archived includeArchived t.relations
    return rows.map relationRecord

/-- `BrainManager::list_tasks`. -/
def listTasks (includeArchived : Bool) : EngineOp (List BrainTaskRecord) :=
  EngineOp.guarded .brain do
    let rows ← Stmt.select fun t =>
      newest TaskRow.updatedAt TaskRow.archived includeArchived t.tasks
    Stmt.ofExcept (rows.mapM manager.taskRecord)

/-! ## Similar tasks and links -/

/-- `Iterator::max_by` on scores: the last of the greatest. -/
def bestScored {α : Type} : List (α × Rat) → Option (α × Rat)
  | [] => none
  | entry :: rest =>
      match bestScored rest with
      | none => some entry
      | some best => if best.2 < entry.2 then some entry else some best

/-- `BrainManager::find_similar_task`. -/
def findSimilarTask (summary scopeJson : String) : EngineOp (Option BrainTaskRecord) := do
  let target := fingerprint summary
  match ← EngineOp.attempt (manager.listTasks false) with
  | .error _ => return none
  | .ok tasks =>
      let scored := (tasks.filter fun task => scopeMatches task.scopeJson scopeJson).filterMap
        fun task =>
          let score := similarity target (fingerprint task.summary)
          if 18 / 25 ≤ score then some (task, score) else none
      return (bestScored scored).map Prod.fst

/-- The states of a task that is not finished. -/
def isOpenStatus (status : String) : Bool :=
  status == "open" || status == "in_progress" || status == "blocked"

/-- `BrainManager::find_related_tool_task`. -/
def findRelatedToolTask (target summary : String) : EngineOp (Option BrainTaskRecord) := do
  let targetLower := toAsciiLowercase target
  match ← EngineOp.attempt (manager.listTasks false) with
  | .error _ => return none
  | .ok tasks => return tasks.find? fun task =>
      isOpenStatus task.status &&
        (containsText (toAsciiLowercase task.summary) targetLower ||
          containsText (toAsciiLowercase task.title) targetLower ||
          18 / 25 ≤ similarity (fingerprint summary) (fingerprint task.summary))

/-- `BrainManager::upsert_or_merge_task`. -/
def upsertOrMergeTask (input : TaskUpsert) : EngineOp BrainTaskRecord := do
  let targetId ←
    match input.taskId with
    | some taskId => pure taskId
    | none => do
        let similar ← manager.findSimilarTask input.summary input.scopeJson
        pure ((similar.map BrainTaskRecord.id).getD (taskIdOf input.summary input.scopeJson))
  manager.upsertTask { input with taskId := some targetId }

/-- The metadata `{ "source_ref": … }` of a relation. -/
def sourceRefJson (sourceRef : String) : String :=
  Externals.jsonText (.obj [("source_ref", .str sourceRef)])

/-- `BrainManager::link_record`. -/
def linkRecord (recordId recordKind linksJson sourceRef : String) : EngineOp Unit :=
  Lib.Op.each (fun linkedId => do
    let relationKind := if recordKind = "task" then "about" else "mentioned_with"
    let _ ← upsertRelation relationKind recordId linkedId (sourceRefJson sourceRef) (37 / 50) false
    return ()) (parseLinkIds linksJson)

/-- The entities that are archived for their age. -/
def decayEntities (cutoff now : Instant) : List EntityRow → List EntityRow :=
  Table.updateWhere
    (fun row => !row.archived && row.salience < 7 / 20 && stamp row.updatedAt < stamp cutoff)
    (fun row => { row with archived := true, updatedAt := now })

def decayFacts (cutoff now : Instant) : List FactRow → List FactRow :=
  Table.updateWhere
    (fun row => !row.archived && row.salience < 7 / 20 && stamp row.updatedAt < stamp cutoff)
    (fun row => { row with archived := true, updatedAt := now })

/-- A task decays only when it is finished, and from a higher salience. -/
def decayTasks (cutoff now : Instant) : List TaskRow → List TaskRow :=
  Table.updateWhere
    (fun row => !row.archived && row.salience < 1 / 2 &&
      (row.status == "done" || row.status == "cancelled") && stamp row.updatedAt < stamp cutoff)
    (fun row => { row with archived := true, updatedAt := now })

/-- `BrainManager::apply_retention`. -/
def applyRetention : EngineOp Unit := do
  let now ← EngineOp.now
  let age ← EngineOp.orPanic (secondsDuration (manager.config.archiveDecayDays * 86400))
  let cutoff ← EngineOp.orPanic (shift now (-age))
  EngineOp.guarded .brain do
    let now ← Stmt.now
    Stmt.execute fun t => { t with entities := decayEntities cutoff now t.entities }
    let now ← Stmt.now
    Stmt.execute fun t => { t with facts := decayFacts cutoff now t.facts }
    let now ← Stmt.now
    Stmt.execute fun t => { t with tasks := decayTasks cutoff now t.tasks }

end BrainManager

end OpenPinch
