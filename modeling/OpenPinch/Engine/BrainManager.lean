import Mathlib.Algebra.Order.Ring.Unbundled.Rat
import OpenPinch.Engine.BrainTables

/-!
# The brain

The operations of `BrainManager` that the engine calls: what is remembered,
recalled, suggested and forgotten, and what is ingested from messages, tool
results and replies.
-/

namespace OpenPinch

variable [Externals]

/-- The texts `{}` and `[]` in place of an empty one. -/
def objectOrDefault (text : String) : String := if text = "" then "\x7b\x7d" else text

def arrayOrDefault (text : String) : String := if text = "" then "[]" else text

/-- `build_recall_summary`. -/
def buildRecallSummary (entities : List BrainEntityRecord) (facts : List BrainFactRecord)
    (tasks : List BrainTaskRecord) : String :=
  let count (n : Nat) (what : String) : List String := if n = 0 then [] else [s!"{n} {what}"]
  let parts := count entities.length "entities" ++ count facts.length "facts" ++
    count tasks.length "tasks"
  let joined := String.intercalate ", " parts
  if parts.isEmpty then "no relevant brain context found" else s!"matched {joined}"

/-- `suggestion_reason`. -/
def suggestionReason (task : BrainTaskRecord) (stale : Bool) (dueBonus blockedBonus : Rat) :
    String :=
  if 0 < blockedBonus then "task is blocked and needs attention"
  else if 7 / 20 ≤ dueBonus then "task is overdue"
  else if 0 < dueBonus then "task is due soon"
  else if stale then "task has gone stale"
  else s!"{task.priority} priority task"

namespace BrainManager

open Lib (Op.each Table.updateWhere Table.deleteWhere Table.descending)

variable (manager : BrainManager)

/-- What a disabled brain answers. -/
def requireEnabled : EngineOp Unit :=
  if manager.config.enabled then return () else EngineOp.fail "brain is disabled"

/-! ## Remember -/

/-- `BrainManager::remember`. -/
def remember (request : BrainRemember) : EngineOp BrainRememberResult := do
  manager.requireEnabled
  manager.applyRetention
  let sourceRef := defaultSourceRef request.sourceRef
    s!"{request.kind}:{request.subtype}:{request.title}:{request.content}" "remember"
  let digest := promptHash
    s!"{request.kind}:{request.subtype}:{request.title}:{request.content}:{sourceRef}"
  if request.kind = "task" then
    let dueAt ← parseDueAt request.content
    let task ← manager.upsertOrMergeTask
      { taskId := none
        title := preferredTitle request.title request.content
        summary := nonEmptyOrDefault request.content request.title
        status := "open"
        priority := taskPriorityFromText request.content
        dueAt := dueAt
        scopeJson := objectOrDefault request.scopeJson
        linksJson := request.linksJson
        salience := max request.importance (9 / 20)
        confidence := 23 / 25
        sourceRef := defaultSourceRef sourceRef request.title "task" }
    recordIngest sourceRef "remember" digest (Externals.jsonText (.obj [("task_id", .str task.id)]))
    return ⟨true, none, some task, digest⟩
  else
    EngineOp.ofExcept (validateEntity request.kind request.subtype)
    let scopeJson := objectOrDefault request.scopeJson
    let linksJson := arrayOrDefault request.linksJson
    let titleDigest := promptHash s!"{request.title}:{scopeJson}"
    let entity ← manager.upsertEntity
      { entityId := s!"{request.kind}:{request.subtype}:{titleDigest}"
        kind := request.kind
        subtype := request.subtype
        title := preferredTitle request.title request.content
        content := request.content
        scopeJson := scopeJson
        linksJson := linksJson
        salience := max request.importance (2 / 5)
        confidence := 19 / 20
        sourceRef := sourceRef }
    let factDigest := promptHash s!"{sourceRef}:{request.content}"
    let _ ← manager.upsertFact
      { factId := s!"fact:{entity.id}:{factDigest}"
        entityId := entity.id
        content := request.content
        scopeJson := scopeJson
        salience := max request.importance (7 / 20)
        confidence := 9 / 10
        sourceRef := sourceRef }
    linkRecord entity.id request.kind linksJson sourceRef
    recordIngest sourceRef "remember" digest
      (Externals.jsonText (.obj [("entity_id", .str entity.id)]))
    return ⟨true, some entity, none, digest⟩

/-! ## Recall -/

/-- What a recall has selected so far. -/
structure Recalled where
  entities : List BrainEntityRecord
  facts : List BrainFactRecord
  tasks : List BrainTaskRecord
  selectedIds : List String

/-- An entity is added unless it is there or there are enough. -/
def Recalled.addEntity (limit : Nat) (found : Recalled) (entity : Option BrainEntityRecord) :
    Recalled :=
  match entity with
  | none => found
  | some entity =>
      if !found.entities.any (·.id == entity.id) && found.entities.length < limit then
        { found with entities := found.entities ++ [entity] }
      else found

/-- The loops of `recall` over the hits and the relations. -/
def recallHits (query : BrainRecallQuery) (limit : Nat) (entities : List BrainEntityRecord)
    (facts : List BrainFactRecord) (tasks : List BrainTaskRecord)
    (relations : List BrainRelationRecord) (entityHits factHits taskHits : List String) :
    Recalled :=
  let entityAt (id : String) := entities.reverse.find? (·.id == id)
  let onEntity (found : Recalled) (key : String) : Recalled :=
    match entityAt key with
    | some entity =>
        if found.entities.length < limit && scopeMatches entity.scopeJson query.scopeJson then
          { found with
            entities := found.entities ++ [entity]
            selectedIds := found.selectedIds ++ [entity.id] }
        else found
    | none => found
  let onFact (found : Recalled) (key : String) : Recalled :=
    match facts.reverse.find? (·.id == key) with
    | some fact =>
        if found.facts.length < limit && scopeMatches fact.scopeJson query.scopeJson then
          Recalled.addEntity limit
            { found with
              facts := found.facts ++ [fact]
              selectedIds := found.selectedIds ++ [fact.entityId] } (entityAt fact.entityId)
        else found
    | none => found
  let onTask (found : Recalled) (key : String) : Recalled :=
    match tasks.reverse.find? (·.id == key) with
    | some task =>
        if found.tasks.length < limit && scopeMatches task.scopeJson query.scopeJson then
          { found with
            tasks := found.tasks ++ [task]
            selectedIds := found.selectedIds ++ task.id :: parseLinkIds task.linksJson }
        else found
    | none => found
  let onRelation (found : Recalled) (relation : BrainRelationRecord) : Recalled :=
    if found.selectedIds.contains relation.fromId || found.selectedIds.contains relation.toId then
      Recalled.addEntity limit (Recalled.addEntity limit found (entityAt relation.fromId))
        (entityAt relation.toId)
    else found
  let found := entityHits.foldl onEntity ⟨[], [], [], []⟩
  let found := factHits.foldl onFact found
  let found := taskHits.foldl onTask found
  relations.foldl onRelation found

/-- `BrainManager::recall`. -/
def «recall» (query : BrainRecallQuery) : EngineOp BrainRecallResult := do
  manager.requireEnabled
  manager.applyRetention
  let limit := max query.limit 1
  let entities ← manager.listEntities query.includeArchived
  let facts ← manager.listFacts query.includeArchived
  let tasks ← manager.listTasks false
  let relations ← listRelations query.includeArchived
  let entityHits ← manager.queryProjectionHits "brain-entities" query.query (limit * 3)
  let factHits ← manager.queryProjectionHits "brain-facts" query.query (limit * 3)
  let taskHits ← manager.queryProjectionHits "brain-tasks" query.query (limit * 3)
  let found := recallHits query limit entities facts tasks relations entityHits factHits taskHits
  let matched := relations.filter fun relation =>
    found.selectedIds.contains relation.fromId || found.selectedIds.contains relation.toId
  return { summary := buildRecallSummary found.entities found.facts found.tasks
           entities := found.entities
           facts := found.facts
           relations := matched.take (limit * 2)
           tasks := found.tasks }

/-! ## Suggest -/

/-- The bonus of a task that is overdue or due within a day.  The sum of the
instant and a day may leave the calendar. -/
def dueBonus (now : Instant) (dueAt : Option Instant) : Option Rat :=
  match dueAt with
  | none => some 0
  | some due =>
      if due ≤ now then some (7 / 20)
      else (shift now (24 * hour)).map fun soon => if due ≤ soon then 1 / 5 else 0

/-- The suggestion that a task makes. -/
def suggestion (entities : List BrainEntityRecord) (now : Instant) (task : BrainTaskRecord) :
    Option BrainSuggestionRecord :=
  let stale : Bool := manager.config.staleTaskHours ≤ (now - task.updatedAt).tdiv hour
  (dueBonus now task.dueAt).map fun dueBonus =>
    let staleBonus : Rat := if stale then 1 / 10 else 0
    let blockedBonus : Rat := if task.status = "blocked" then 3 / 20 else 0
    let linkedTitles := (parseLinkIds task.linksJson).filterMap fun id =>
      (entities.reverse.find? (·.id == id)).map BrainEntityRecord.title
    let dueAt := (task.dueAt.map fun due => Json.str (stamp due)).getD .null
    { id := s!"suggestion:{task.id}"
      taskId := task.id
      summary := task.summary
      reason := suggestionReason task stale dueBonus blockedBonus
      score := task.salience * (2 / 5) + task.confidence * (1 / 5) +
        priorityWeight task.priority * (1 / 4) + dueBonus + staleBonus + blockedBonus
      contextJson := Externals.jsonText (.obj
        [("due_at", dueAt), ("linked_entities", .arr (linkedTitles.map .str)),
          ("priority", .str task.priority), ("task_status", .str task.status)]) }

/-- `BrainManager::suggest`. -/
def suggest (query : BrainSuggestQuery) : EngineOp BrainSuggestResult := do
  manager.requireEnabled
  manager.applyRetention
  let limit := max query.limit 1
  let listed ← manager.listTasks false
  let tasks := listed.filter fun task =>
    isOpenStatus task.status && scopeMatches task.scopeJson query.scopeJson
  let entities ← manager.listEntities false
  let now ← EngineOp.now
  let suggestions ← EngineOp.orPanic (tasks.mapM (manager.suggestion entities now))
  let suggestions := (Table.descending BrainSuggestionRecord.score suggestions).take limit
  Op.each (fun suggestion => EngineOp.ignore (manager.upsertProjection "brain-suggestions"
    suggestion.id s!"{suggestion.summary} {suggestion.reason} {suggestion.contextJson}"
    (Externals.jsonText (.obj
      [("score", .num suggestion.score), ("task_id", .str suggestion.taskId)])))) suggestions
  return ⟨s!"{suggestions.length} next actions suggested", suggestions⟩

/-! ## Tasks -/

/-- `BrainManager::list_task_records`. -/
def listTaskRecords (query : BrainTaskListQuery) : EngineOp BrainTaskListResult := do
  manager.requireEnabled
  manager.applyRetention
  let limit := max query.limit 1
  let listed ← manager.listTasks false
  let matched := listed.filter fun task =>
    scopeMatches task.scopeJson query.scopeJson &&
      (query.statuses.isEmpty || query.statuses.contains task.status) &&
      (query.priorities.isEmpty || query.priorities.contains task.priority) &&
      query.dueBefore.all fun dueBefore => task.dueAt.any fun due => due ≤ dueBefore
  let tasks := (Table.descending BrainTaskRecord.updatedAt matched).take limit
  return ⟨s!"{tasks.length} tasks matched", tasks⟩

/-- `BrainManager::update_task_record`. -/
def updateTaskRecord (request : BrainTaskUpdate) : EngineOp BrainTaskRecord := do
  manager.requireEnabled
  EngineOp.ofExcept (validateTaskStatus request.status)
  let priority := if request.priority = "" then "normal" else request.priority
  let digest := promptHash request.summary
  let taskId := if request.taskId = "" then s!"task:{digest}" else request.taskId
  let listed ← manager.listTasks true
  let existing := listed.find? (·.id == taskId)
  let scopeJson := (existing.map BrainTaskRecord.scopeJson).getD "\x7b\x7d"
  let linksJson := if request.linksJson = "" then
    (existing.map BrainTaskRecord.linksJson).getD "[]" else request.linksJson
  let summary := nonEmptyOrDefault request.summary
    ((existing.map BrainTaskRecord.summary).getD taskId)
  let task ← manager.upsertTask
    { taskId := some taskId
      title := preferredTitle summary summary
      summary := summary
      status := request.status
      priority := priority
      dueAt := request.dueAt <|> existing.bind BrainTaskRecord.dueAt
      scopeJson := scopeJson
      linksJson := linksJson
      salience := 4 / 5
      confidence := 19 / 20
      sourceRef := defaultSourceRef request.sourceRef taskId "task-update" }
  linkRecord task.id "task" linksJson (defaultSourceRef request.sourceRef task.id "task-update")
  return task

/-! ## Forget -/

/-- The relations of an entity or a task. -/
def touches (id : String) (row : RelationRow) : Bool :=
  row.fromEntityId == id || row.toEntityId == id

/-- The statements of `forget` under the lock. -/
def forgetStmt (targetKind mode targetId : String) : Stmt BrainTables Unit := do
  let archiveEntities (now : Instant) (t : BrainTables) : BrainTables :=
    { t with entities := Table.updateWhere (·.entityId == targetId)
              (fun row => { row with archived := true, updatedAt := now }) t.entities }
  let archiveFacts (test : FactRow → Bool) (now : Instant) (t : BrainTables) : BrainTables :=
    { t with facts := Table.updateWhere test
              (fun row => { row with archived := true, updatedAt := now }) t.facts }
  let archiveRelations (test : RelationRow → Bool) (now : Instant) (t : BrainTables) :
      BrainTables :=
    { t with relations := Table.updateWhere test
              (fun row => { row with archived := true, updatedAt := now }) t.relations }
  let archiveTasks (now : Instant) (t : BrainTables) : BrainTables :=
    { t with tasks := Table.updateWhere (·.taskId == targetId)
              (fun row => { row with archived := true, updatedAt := now }) t.tasks }
  let deleteFacts (test : FactRow → Bool) (t : BrainTables) : BrainTables :=
    { t with facts := Table.deleteWhere test t.facts }
  let deleteRelations (test : RelationRow → Bool) (t : BrainTables) : BrainTables :=
    { t with relations := Table.deleteWhere test t.relations }
  match targetKind, mode with
  | "entity", "archive" => do
      Stmt.execute (archiveEntities (← Stmt.now))
      Stmt.execute (archiveFacts (·.entityId == targetId) (← Stmt.now))
      Stmt.execute (archiveRelations (touches targetId) (← Stmt.now))
  | "task", "archive" => Stmt.execute (archiveTasks (← Stmt.now))
  | "fact", "archive" => Stmt.execute (archiveFacts (·.factId == targetId) (← Stmt.now))
  | "relation", "archive" =>
      Stmt.execute (archiveRelations (·.relationId == targetId) (← Stmt.now))
  | "entity", "delete" => do
      Stmt.execute (deleteFacts (·.entityId == targetId))
      Stmt.execute (deleteRelations (touches targetId))
      Stmt.execute fun t =>
        { t with entities := Table.deleteWhere (·.entityId == targetId) t.entities }
  | "task", "delete" => do
      Stmt.execute fun t => { t with tasks := Table.deleteWhere (·.taskId == targetId) t.tasks }
      Stmt.execute (deleteRelations (touches targetId))
  | "fact", "delete" => Stmt.execute (deleteFacts (·.factId == targetId))
  | "relation", "delete" => Stmt.execute (deleteRelations (·.relationId == targetId))
  | _, _ => Stmt.fail s!"unsupported forget mode {mode} for {targetKind}"

/-- The projections of a deleted target go.  Errors are dropped. -/
def dropProjections (mode targetId : String) : EngineOp Unit :=
  if mode = "delete" then do
    EngineOp.ignore (deleteProjection "brain-entities" targetId)
    EngineOp.ignore (deleteProjection "brain-facts" targetId)
    EngineOp.ignore (deleteProjection "brain-tasks" targetId)
    EngineOp.ignore (deleteProjection "brain-suggestions" s!"suggestion:{targetId}")
  else return ()

/-- `BrainManager::forget`.  The lock is released before the projections go. -/
def forget (request : BrainForget) : EngineOp BrainForgetResult := do
  manager.requireEnabled
  let mode := if request.mode = "" then "archive" else request.mode
  let targetKind := normalizeForgetTargetKind request.targetKind
  EngineOp.guarded .brain (forgetStmt targetKind mode request.targetId)
  dropProjections mode request.targetId
  return ⟨true, mode, request.targetId⟩

/-! ## Ingestion -/

/-- `BrainManager::scope_for_message`. -/
def scopeForMessage (message : MessageEnvelope) : String :=
  Externals.jsonText (.obj [("channel_id", .str message.channelId),
    ("connector", .str message.connector), ("sender", .str message.sender)])

/-- An entity that a message mentions, linked to the contact. -/
def ingestMention (contactId sourceRef : String) (confidence : Rat) (input : EntityUpsert) :
    EngineOp String := do
  let entity ← manager.upsertEntity input
  let _ ← upsertRelation "mentioned_with" contactId entity.id (sourceRefJson sourceRef) confidence
    false
  return entity.id

/-- An artifact in a message, with its input. -/
def artifactInput (message : MessageEnvelope) (scopeJson sourceRef artifact : String) :
    EntityUpsert :=
  let digest := promptHash artifact
  { entityId := s!"artifact:{digest}"
    kind := "artifact"
    subtype := "reference"
    title := artifact
    content := s!"Referenced in inbound {message.connector} message"
    scopeJson := scopeJson
    linksJson := "[]"
    salience := 14 / 25
    confidence := 17 / 20
    sourceRef := sourceRef }

/-- An environment that a message mentions, with its input. -/
def environmentInput (scopeJson sourceRef : String) (mention : String × String) : EntityUpsert :=
  let digest := promptHash mention.2
  { entityId := s!"environment:{mention.1}:{digest}"
    kind := "environment"
    subtype := mention.1
    title := mention.2
    content := s!"Mentioned {mention.1} context"
    scopeJson := scopeJson
    linksJson := "[]"
    salience := 13 / 25
    confidence := 39 / 50
    sourceRef := sourceRef }

/-- The task in a message, with its relations.  Its identifier joins the links. -/
def ingestTask (message : MessageEnvelope) (contactId scopeJson sourceRef : String)
    (linkedIds : List String) : EngineOp (List String) :=
  match extractTaskSummary message.body with
  | none => return linkedIds
  | some summary => do
      let dueAt ← parseDueAt message.body
      let task ← manager.upsertOrMergeTask
        { taskId := none
          title := preferredTitle summary summary
          summary := summary
          status := "open"
          priority := taskPriorityFromText message.body
          dueAt := dueAt
          scopeJson := scopeJson
          linksJson := Externals.jsonText (.arr (linkedIds.map .str))
          salience := 21 / 25
          confidence := 22 / 25
          sourceRef := sourceRef }
      let _ ← upsertRelation "assigned_to" task.id manager.ownerId (sourceRefJson sourceRef)
        (43 / 50) false
      let _ ← upsertRelation "about" task.id contactId (sourceRefJson sourceRef) (39 / 50) false
      return linkedIds ++ [task.id]

/-- The reference to a message. -/
def messageSourceRef (message : MessageEnvelope) : String :=
  let sender := promptHash message.sender
  let body := promptHash message.body
  s!"message:{message.connector}:{message.channelId}:{sender}:{body}"

/-- The sender of a message as a contact. -/
def contactInput (message : MessageEnvelope) : EntityUpsert :=
  let digest := promptHash message.sender
  { entityId := s!"person:contact:{message.connector}:{digest}"
    kind := "person"
    subtype := "contact"
    title := message.sender
    content := s!"Observed through {message.connector} in channel {message.channelId}"
    scopeJson := scopeForMessage message
    linksJson := "[]"
    salience := 29 / 50
    confidence := 24 / 25
    sourceRef := messageSourceRef message }

/-- The contact of a message with its relations, and the body as a fact. -/
def ingestContact (message : MessageEnvelope) : EngineOp String := do
  let sourceRef := messageSourceRef message
  let contact ← manager.upsertEntity (contactInput message)
  let _ ← upsertRelation "knows" manager.ownerId contact.id
    (Externals.jsonText (.obj [("channel_id", .str message.channelId),
      ("connector", .str message.connector)])) (23 / 25) false
  let _ ← upsertRelation "mentioned_with" contact.id manager.workspaceEnvId
    (sourceRefJson sourceRef) (13 / 20) false
  let digest := promptHash sourceRef
  let _ ← manager.upsertFact
    { factId := s!"fact:{contact.id}:{digest}"
      entityId := contact.id
      content := message.body
      scopeJson := scopeForMessage message
      salience := 31 / 50
      confidence := 21 / 25
      sourceRef := sourceRef }
  return contact.id

/-- The artifacts and then the environments that a message mentions. -/
def ingestMentions (message : MessageEnvelope) (contactId : String) : EngineOp (List String) := do
  let sourceRef := messageSourceRef message
  let scopeJson := scopeForMessage message
  let artifacts ← Lib.Op.collect (fun artifact => manager.ingestMention contactId sourceRef
    (37 / 50) (artifactInput message scopeJson sourceRef artifact))
    (extractArtifacts message.body)
  let environments ← Lib.Op.collect (fun mention => manager.ingestMention contactId sourceRef
    (7 / 10) (environmentInput scopeJson sourceRef mention))
    (extractEnvironmentMentions message.body)
  return artifacts ++ environments

/-- `BrainManager::ingest_message`. -/
def ingestMessage (message : MessageEnvelope) : EngineOp Unit := do
  if !manager.config.enabled || !manager.config.autoIngestMessages then return ()
  else
    let contactId ← manager.ingestContact message
    let mentioned ← manager.ingestMentions message contactId
    let linkedIds ← manager.ingestTask message contactId (scopeForMessage message)
      (messageSourceRef message) (contactId :: mentioned)
    recordIngest (messageSourceRef message) "message" (fingerprint message.body)
      (Externals.jsonText (.obj [("linked_ids", .arr (linkedIds.map .str))]))

/-- A task that a tool result finishes. -/
def finishTask (sourceRef : String) (task : Option BrainTaskRecord) : EngineOp Unit :=
  match task with
  | none => return ()
  | some task => do
      let _ ← manager.upsertTask
        { taskId := some task.id
          title := task.title
          summary := task.summary
          status := "done"
          priority := task.priority
          dueAt := task.dueAt
          scopeJson := task.scopeJson
          linksJson := task.linksJson
          salience := task.salience
          confidence := 24 / 25
          sourceRef := sourceRef }
      return ()

/-- `BrainManager::ingest_tool_result`. -/
def ingestToolResult (call : ToolCall) (outcome : ToolOutcome) : EngineOp Unit := do
  if !manager.config.enabled || !manager.config.autoIngestToolResults || !outcome.success then
    return ()
  else
    let outcomeDigest := promptHash s!"{outcome.summary}:{outcome.dataJson}"
    let sourceRef := s!"tool:{call.target}:{outcomeDigest}"
    let scopeJson := Externals.jsonText (.obj [("priority", .str call.priority.asStr),
      ("source", .str "tool"), ("target", .str call.target)])
    let resultSummary := nonEmptyOrDefault outcome.summary call.target
    let targetDigest := promptHash call.target
    let artifact ← manager.upsertEntity
      { entityId := s!"artifact:tool:{targetDigest}"
        kind := "artifact"
        subtype := "tool-result"
        title := call.target
        content := s!"Successful tool execution: {resultSummary}"
        scopeJson := scopeJson
        linksJson := "[]"
        salience := 17 / 25
        confidence := 23 / 25
        sourceRef := sourceRef }
    let sourceDigest := promptHash sourceRef
    let _ ← manager.upsertFact
      { factId := s!"fact:{artifact.id}:{sourceDigest}"
        entityId := artifact.id
        content := truncateWithEllipsis s!"{resultSummary} {outcome.dataJson}" 400
        scopeJson := scopeJson
        salience := 7 / 10
        confidence := 9 / 10
        sourceRef := sourceRef }
    let _ ← manager.upsertFact
      { factId := s!"fact:{manager.workspaceEnvId}:{targetDigest}"
        entityId := manager.workspaceEnvId
        content := s!"Tool {call.target} succeeded with {resultSummary}"
        scopeJson := scopeJson
        salience := 29 / 50
        confidence := 43 / 50
        sourceRef := sourceRef }
    let task ← manager.findRelatedToolTask call.target resultSummary
    manager.finishTask sourceRef task
    recordIngest sourceRef "tool" (fingerprint s!"{outcome.summary} {outcome.dataJson}")
      (Externals.jsonText (.obj [("artifact_id", .str artifact.id)]))

/-- `BrainManager::ingest_assistant_reply`. -/
def ingestAssistantReply (message : MessageEnvelope) (reply : String) : EngineOp Unit := do
  if !manager.config.enabled || !manager.config.autoIngestAssistantCommitments then return ()
  else
    let digest := promptHash reply
    let sourceRef := s!"assistant:{message.connector}:{message.channelId}:{digest}"
    let scopeJson := scopeForMessage message
    match extractAssistantCommitment reply with
    | none => return ()
    | some summary => do
        let dueAt ← parseDueAt reply
        let task ← manager.upsertOrMergeTask
          { taskId := none
            title := preferredTitle summary reply
            summary := summary
            status := "in_progress"
            priority := taskPriorityFromText reply
            dueAt := dueAt
            scopeJson := scopeJson
            linksJson := Externals.jsonText (.arr [.str manager.ownerId])
            salience := 37 / 50
            confidence := 18 / 25
            sourceRef := sourceRef }
        let _ ← upsertRelation "assigned_to" task.id manager.ownerId (sourceRefJson sourceRef)
          (39 / 50) false
        recordIngest sourceRef "assistant" (fingerprint reply)
          (Externals.jsonText (.obj [("task_id", .str task.id)]))

/-! ## Context -/

/-- `BrainManager::build_context_pack`. -/
def buildContextPack (query scopeJson : String) : EngineOp String := do
  if !manager.config.enabled then return ""
  else
    let recalled ← manager.recall ⟨query, scopeJson, 3, false⟩
    let suggested ← manager.suggest ⟨scopeJson, manager.config.maxInlineSuggestions⟩
    let summary := if recalled.summary = "" then [] else [s!"summary: {recalled.summary}"]
    let entities := (recalled.entities.take 2).map fun entity =>
      s!"entity: {entity.title} ({entity.kind}) - {entity.content}"
    let tasks := (recalled.tasks.take 2).map fun task =>
      s!"task: {task.summary} [{task.status} / {task.priority}]"
    let suggestions := (suggested.suggestions.take manager.config.maxInlineSuggestions).map
      fun suggestion => s!"suggestion: {suggestion.summary} ({suggestion.reason})"
    let content := String.intercalate "\n" (summary ++ entities ++ tasks ++ suggestions)
    return if manager.config.contextBudgetChars < content.utf8ByteSize then
      truncateWithEllipsis content manager.config.contextBudgetChars else content

/-- `BrainManager::inline_suggestions`. -/
def inlineSuggestions (scopeJson : String) (limit : Nat) :
    EngineOp (List BrainSuggestionRecord) := do
  let suggested ← manager.suggest ⟨scopeJson, limit⟩
  return (suggested.suggestions.filter fun suggestion => 11 / 20 ≤ suggestion.score).take limit

/-! ## Creation -/

/-- The entity of the baseline context with this content. -/
def baselineInput (entityId kind subtype title content scopeJson : String)
    (salience confidence : Rat) : EntityUpsert where
  entityId := entityId
  kind := kind
  subtype := subtype
  title := title
  content := content
  scopeJson := scopeJson
  linksJson := "[]"
  salience := salience
  confidence := confidence
  sourceRef := "brain:baseline"

/-- `BrainManager::ensure_baseline_context`, in a workspace with this path and
name on this operating system. -/
def ensureBaselineContext (workspacePath workspaceTitle os : String) : EngineOp Unit := do
  let runtimeScope := Externals.jsonText (.obj [("os", .str os), ("scope", .str "runtime")])
  let workspaceScope := Externals.jsonText (.obj [("path", .str workspacePath),
    ("scope", .str "workspace")])
  let projectScope := Externals.jsonText (.obj [("scope", .str "project"),
    ("workspace", .str workspaceTitle)])
  let _ ← manager.upsertEntity (baselineInput manager.ownerId "person" "owner" "Local Owner"
    "Primary local OpenPinch operator" "\x7b\x7d" (19 / 20) (99 / 100))
  let _ ← manager.upsertEntity (baselineInput manager.runtimeEnvId "environment" "runtime"
    s!"{os} runtime" s!"OpenPinch runtime on {os}" runtimeScope (41 / 50) (49 / 50))
  let _ ← manager.upsertEntity (baselineInput manager.workspaceEnvId "environment" "workspace"
    workspaceTitle s!"Workspace rooted at {workspacePath}" workspaceScope (21 / 25) (49 / 50))
  let _ ← manager.upsertEntity (baselineInput manager.projectEnvId "environment" "project"
    workspaceTitle s!"Project context for {workspaceTitle}" projectScope (4 / 5) (47 / 50))
  let metadata := sourceRefJson "brain:baseline"
  let _ ← upsertRelation "owns" manager.ownerId manager.workspaceEnvId metadata (24 / 25) false
  let _ ← upsertRelation "belongs_to" manager.workspaceEnvId manager.projectEnvId metadata
    (47 / 50) false
  let _ ← upsertRelation "runs_in" manager.projectEnvId manager.runtimeEnvId metadata (93 / 100)
    false
  return ()

/-- `BrainManager::new`, in a workspace with this path and name on this operating
system. -/
def create (config : BrainConfig) (encryption : EncryptionManager)
    (workspacePath workspaceTitle os : String) : EngineOp BrainManager := do
  let workspaceDigest := promptHash workspacePath
  let projectDigest := promptHash workspaceTitle
  let manager : BrainManager :=
    { config := config
      encryption := encryption
      ownerId := "person:owner:local"
      runtimeEnvId := s!"environment:runtime:{os}"
      workspaceEnvId := s!"environment:workspace:{workspaceDigest}"
      projectEnvId := s!"environment:project:{projectDigest}" }
  manager.ensureBaselineContext workspacePath workspaceTitle os
  return manager

end BrainManager

end OpenPinch
