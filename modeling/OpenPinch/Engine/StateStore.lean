import OpenPinch.Engine.Protocol
import OpenPinch.Engine.Text
import OpenPinch.Engine.World
import OpenPinch.Lib.Like

/-!
# The state store

The operations of `StateStore`.  Each acquisition of the connection is one
statement under the lock, and what the source does before it stands before it.
Timestamps are compared as the texts they are stored as.
-/

namespace OpenPinch

variable [Externals]

/-! ## Rows and records -/

/-- `session_record_from_row`. -/
def sessionRecordFromRow (row : SessionRow) : SessionRecord where
  id := row.sessionId
  connector := row.connector
  channelId := row.channelId
  participant := row.participant
  sessionType := row.sessionType
  title := row.title
  status := row.status
  replyMode := row.replyMode
  queueMode := row.queueMode
  modelProfile := row.modelProfile
  mentionOnly := row.mentionOnly
  pendingPairing := row.pendingPairing
  lastMessagePreview := row.lastMessagePreview
  messageCount := row.messageCount % 2 ^ 32
  createdAt := row.createdAt
  updatedAt := row.updatedAt

/-- `session_message_from_row`. -/
def sessionMessageFromRow (row : SessionMessageRow) : SessionMessageRecord where
  id := row.messageId
  sessionId := row.sessionId
  connector := row.connector
  role := row.role
  sender := row.sender
  body := row.body
  metadataJson := row.metadataJson
  createdAt := row.createdAt

/-- `pairing_record_from_row`. -/
def pairingRecordFromRow (row : PairingRow) : PairingRecord where
  id := row.pairingId
  connector := row.connector
  channelId := row.channelId
  sender := row.sender
  sessionId := row.sessionId
  status := row.status
  reason := row.reason
  createdAt := row.createdAt
  updatedAt := row.updatedAt

/-- The row of a session that is about to be inserted. -/
def SessionRecord.row (session : SessionRecord) : SessionRow where
  sessionId := session.id
  connector := session.connector
  channelId := session.channelId
  participant := session.participant
  sessionType := session.sessionType
  title := session.title
  status := session.status
  replyMode := session.replyMode
  queueMode := session.queueMode
  modelProfile := session.modelProfile
  mentionOnly := session.mentionOnly
  pendingPairing := session.pendingPairing
  archived := false
  lastMessagePreview := session.lastMessagePreview
  messageCount := session.messageCount
  createdAt := session.createdAt
  updatedAt := session.updatedAt

/-- The row of a session in the columns of the unique key. -/
def SessionRow.isAt (row : SessionRow) (connector channelId participant : String) : Bool :=
  row.connector == connector && row.channelId == channelId && row.participant == participant

/-- The target of a pairing row. -/
def PairingRow.target (row : PairingRow) : Target :=
  ⟨row.connector, row.channelId, row.sender⟩

/-- `serde_json::from_str::<EncryptedBlob>`. -/
def EncryptedBlob.ofJson? (text : String) : Option EncryptedBlob :=
  match (Externals.jsonParse text).bind (Json.fields? ["nonce", "ciphertext"]) with
  | some [.str nonce, .str ciphertext] => some ⟨nonce, ciphertext⟩
  | _ => none

/-- An instant as it is stored. -/
def stamp (instant : Instant) : String := Externals.toRfc3339 instant

/-- `EncryptionManager::encrypt_text`, with a nonce from the surroundings. -/
def EncryptionManager.encrypt (encryption : EncryptionManager) (plaintext : String) :
    EngineOp EncryptedBlob := do
  let nonce ← EngineOp.newNonce
  EngineOp.ofExcept (encryption.encryptText nonce plaintext)

namespace StateStore

open Lib (Table.updateWhere Table.deleteWhere Table.insert Table.upsert Table.upsertOn
  Table.ascending Table.descending Table.limit)

/-! ## Messages and jobs -/

/-- `StateStore::record_message`. -/
def recordMessage (message : MessageEnvelope) : EngineOp Unit :=
  EngineOp.guarded .conversations do
    let now ← Stmt.now
    let row : MessageRow :=
      { connector := message.connector
        channelId := message.channelId
        sender := message.sender
        body := message.body
        metadataJson := message.metadataJson
        createdAt := now }
    Stmt.execute fun t => { t with messages := t.messages ++ [row] }

/-- `StateStore::list_jobs`. -/
def listJobs : EngineOp (List ScheduleRequest) :=
  EngineOp.guarded .ledger do
    let rows ← Stmt.select fun t => Table.ascending (fun row => stamp row.createdAt) t.jobs
    return rows.map fun row => ⟨row.jobId, row.cron, row.tool, row.argumentsJson⟩

/-! ## Reply caches -/

/-- The reply under a key. -/
def cacheGet (rows : List CacheRow) (key : String) : Option (String × String) :=
  (rows.find? fun row => row.key == key).map fun row => (row.provider, row.response)

/-- `StateStore::cache_exact_get`. -/
def cacheExactGet (promptHash : String) : EngineOp (Option (String × String)) :=
  EngineOp.guarded .caches (Stmt.select fun t => cacheGet t.promptCache promptHash)

/-- `StateStore::cache_exact_put`. -/
def cacheExactPut (promptHash provider response : String) : EngineOp Unit :=
  EngineOp.guarded .caches do
    let now ← Stmt.now
    let row : CacheRow := ⟨promptHash, provider, response, now⟩
    Stmt.execute fun t =>
      { t with promptCache := Table.upsertOn CacheRow.key (fun _ => row) row t.promptCache }

/-- The condition `?1 like prefix || '%'`. -/
def prefixMatches (prompt : String) (row : CacheRow) : Bool :=
  Lib.Like.like (Lib.Like.cText (row.key.toList ++ ['%'])) (Lib.Like.cText prompt.toList)

/-- The row that the lookup of a prompt finds: of the matching rows, the first
in descending order of length. -/
def prefixGet (rows : List CacheRow) (prompt : String) : Option (String × String) :=
  (Table.descending (fun row => (Lib.Like.cText row.key.toList).length)
    (rows.filter (prefixMatches prompt))).head?.map fun row => (row.provider, row.response)

/-- `StateStore::cache_prefix_get`. -/
def cachePrefixGet (prompt : String) : EngineOp (Option (String × String)) :=
  EngineOp.guarded .caches (Stmt.select fun t => prefixGet t.prefixCache prompt)

/-- `StateStore::cache_prefix_put`. -/
def cachePrefixPut (key provider response : String) : EngineOp Unit :=
  EngineOp.guarded .caches do
    let now ← Stmt.now
    let row : CacheRow := ⟨key, provider, response, now⟩
    Stmt.execute fun t =>
      { t with prefixCache := Table.upsertOn CacheRow.key (fun _ => row) row t.prefixCache }

/-! ## Vector memory -/

/-- `StateStore::upsert_memory`. -/
def upsertMemory (nameSpace key content metadataJson : String) (encryption : EncryptionManager) :
    EngineOp String := do
  let blob ← encryption.encrypt content
  let digest := promptHash content
  EngineOp.guarded .vectorMemory do
    let now ← Stmt.now
    let row : VectorMemoryRow :=
      { nameSpace := nameSpace
        key := key
        encryptedBlobJson := Externals.jsonText blob.toJson
        metadataJson := metadataJson
        fingerprint := fingerprint content
        createdAt := now }
    Stmt.execute (Table.upsertOn (fun old => (old.nameSpace, old.key)) (fun _ => row) row)
    return digest

/-- The record of a row, with its score. -/
def memoryRecord (encryption : EncryptionManager) (queryFingerprint : String)
    (row : VectorMemoryRow) : Except String MemoryRecord := do
  let score := similarity queryFingerprint row.fingerprint
  match EncryptedBlob.ofJson? row.encryptedBlobJson with
  | none => .error "failed to decode encrypted memory blob"
  | some blob =>
      let content ← encryption.decryptText blob
      return ⟨row.key, row.nameSpace, content, row.metadataJson, score, row.createdAt⟩

/-- `StateStore::query_memory`. -/
def queryMemory (query : MemoryQuery) (encryption : EncryptionManager) :
    EngineOp (List MemoryRecord) :=
  EngineOp.guarded .vectorMemory do
    let rows ← Stmt.select fun t =>
      (Table.descending (fun row => stamp row.createdAt)
        (t.filter (·.nameSpace == query.nameSpace))).take 256
    let records ← Stmt.ofExcept (rows.mapM (memoryRecord encryption (fingerprint query.query)))
    return (Table.descending MemoryRecord.score records).take (max query.limit 1)

/-! ## Audit, queue and protocols -/

/-- `StateStore::record_audit`. -/
def recordAudit (event : AuditEvent) : EngineOp Unit :=
  EngineOp.guarded .ledger do
    let row : AuditRow :=
      { id := event.id
        category := event.category
        severity := event.severity
        summary := event.summary
        anomalyScore := event.anomalyScore
        payloadJson := event.payloadJson
        createdAt := event.createdAt }
    Stmt.insert fun t => (Table.insert (·.id == row.id) row t.auditEvents).map fun rows =>
      { t with auditEvents := rows }

/-- `StateStore::list_audit`. -/
def listAudit (limit : Nat) : EngineOp (List AuditEvent) :=
  EngineOp.guarded .ledger do
    let rows ← Stmt.select fun t =>
      Table.limit limit (Table.descending (fun row => stamp row.createdAt) t.auditEvents)
    return rows.map fun row =>
      ⟨row.id, row.category, row.severity, row.summary, row.anomalyScore, row.payloadJson,
        row.createdAt⟩

/-- `StateStore::store_queue_task`. -/
def storeQueueTask (task : QueueTask) (status : String) : EngineOp Unit := do
  let now ← EngineOp.now
  EngineOp.guarded .ledger do
    let row : QueueTaskRow :=
      { taskId := task.taskId
        taskType := task.taskType
        target := task.target
        argumentsJson := task.argumentsJson
        priority := task.priority.asStr
        status := status
        createdAt := now
        updatedAt := now }
    let change (old : QueueTaskRow) : QueueTaskRow := { row with createdAt := old.createdAt }
    Stmt.execute fun t =>
      { t with queueTasks := Table.upsertOn QueueTaskRow.taskId change row t.queueTasks }

/-- `StateStore::update_queue_status`. -/
def updateQueueStatus (taskId status : String) : EngineOp Unit :=
  EngineOp.guarded .ledger do
    let now ← Stmt.now
    let change (row : QueueTaskRow) : QueueTaskRow :=
      { row with status := status, updatedAt := now }
    Stmt.execute fun t =>
      { t with queueTasks := Table.updateWhere (·.taskId == taskId) change t.queueTasks }

/-- `StateStore::record_protocol_run`. -/
def recordProtocolRun (result : ProtocolRunResult) : EngineOp Unit :=
  EngineOp.guarded .ledger do
    let now ← Stmt.now
    let row : ProtocolRunRow :=
      { protocolId := result.protocolId
        transcriptJson := result.transcriptJson
        findingsJson := Externals.jsonText (.arr (result.findings.map .str))
        createdAt := now }
    Stmt.execute fun t => { t with protocolRuns := t.protocolRuns ++ [row] }

/-! ## Sessions -/

/-- The session that is inserted when there is none. -/
def newSession (config : AppConfig) (connectorName channelId participant sessionType
    defaultModelProfile uuid : String) (now : Instant) : SessionRecord where
  id := s!"session-{uuid}"
  connector := connectorName
  channelId := channelId
  participant := participant
  sessionType := sessionType
  title := if sessionType = "group" then s!"{connectorName}:{channelId}" else participant
  status := "active"
  replyMode := config.sessions.defaultReplyMode
  queueMode := config.sessions.defaultQueueMode
  modelProfile := defaultModelProfile
  mentionOnly := sessionType == "group" &&
    (config.routing.mentionOnlyInGroups || (config.connector connectorName).mentionOnly)
  pendingPairing := false
  lastMessagePreview := ""
  messageCount := 0
  createdAt := now
  updatedAt := now

/-- The body of `resolve_session_internal`. -/
def resolveSessionStmt (connectorName channelId participant sessionType : String)
    (config : AppConfig) (defaultModelProfile : String) : Stmt Conversations SessionRecord := do
  let found ← Stmt.select fun t =>
    t.sessions.find? fun row => row.isAt connectorName channelId participant
  match found with
  | some row => return sessionRecordFromRow row
  | none =>
      let now ← Stmt.now
      let uuid ← Stmt.newUuid
      let session := newSession config connectorName channelId participant sessionType
        defaultModelProfile uuid now
      Stmt.insert fun t =>
        (Table.insert (fun row => row.sessionId == session.id ||
          row.isAt connectorName channelId participant) session.row t.sessions).map fun rows =>
          { t with sessions := rows }
      return session

/-- `StateStore::resolve_session_internal`. -/
def resolveSessionInternal (connectorName channelId participant sessionType : String)
    (config : AppConfig) (defaultModelProfile : String) : EngineOp SessionRecord :=
  EngineOp.guarded .conversations
    (resolveSessionStmt connectorName channelId participant sessionType config defaultModelProfile)

/-- Who a session of a message is with: the channel in a group, else the sender. -/
def inboundParticipant (message : MessageEnvelope) : String :=
  if inferSessionType message = "group" then message.channelId else message.sender

/-- `StateStore::resolve_session_for_inbound`. -/
def resolveSessionForInbound (message : MessageEnvelope) (config : AppConfig)
    (defaultModelProfile : String) : EngineOp SessionRecord :=
  resolveSessionInternal message.connector message.channelId (inboundParticipant message)
    (inferSessionType message) config defaultModelProfile

/-- `StateStore::resolve_session_for_outbound`.  The lock is released before the
second statement. -/
def resolveSessionForOutbound (connector channelId sender : String) (config : AppConfig) :
    EngineOp SessionRecord := do
  let found ← EngineOp.guarded .conversations (Stmt.select fun t =>
    (Table.descending (fun row => stamp row.updatedAt) (t.sessions.filter fun row =>
      row.connector == connector && row.channelId == channelId && !row.archived)).head?)
  match found with
  | some row => return sessionRecordFromRow row
  | none =>
      resolveSessionInternal connector channelId (if sender = "" then channelId else sender)
        "direct" config config.modelFailover.defaultProfile

/-- `StateStore::session_by_id`. -/
def sessionById (sessionId : String) : EngineOp SessionRecord :=
  EngineOp.guarded .conversations do
    let found ← Stmt.select fun t => t.sessions.find? (·.sessionId == sessionId)
    match found with
    | some row => return sessionRecordFromRow row
    | none => Stmt.fail s!"session {sessionId} not found"

/-- `StateStore::record_session_message`. -/
def recordSessionMessage (sessionId connector role sender body metadataJson : String) :
    EngineOp String := do
  let uuid ← EngineOp.newUuid
  let messageId := s!"session-message-{uuid}"
  let now ← EngineOp.now
  let preview := truncateWithEllipsis body 120
  EngineOp.guarded .conversations do
    let row : SessionMessageRow :=
      { messageId := messageId
        sessionId := sessionId
        connector := connector
        role := role
        sender := sender
        body := body
        metadataJson := metadataJson
        createdAt := now }
    Stmt.insert fun t =>
      (Table.insert (·.messageId == messageId) row t.sessionMessages).map fun rows =>
        { t with sessionMessages := rows }
    let change (row : SessionRow) : SessionRow :=
      { row with
        lastMessagePreview := preview
        messageCount := row.messageCount + 1
        status := "active"
        updatedAt := now }
    Stmt.execute fun t =>
      { t with sessions := Table.updateWhere (·.sessionId == sessionId) change t.sessions }
    return messageId

/-- `StateStore::list_sessions`. -/
def listSessions (query : SessionListQuery) : EngineOp (List SessionRecord) :=
  EngineOp.guarded .conversations do
    let rows ← Stmt.select fun t =>
      (Table.descending (fun row => stamp row.updatedAt) t.sessions).take 512
    let sessions := (rows.map sessionRecordFromRow).filter fun session =>
      (query.includeArchived || session.status != "archived") &&
        query.connector.all (· == session.connector) && query.status.all (· == session.status)
    return sessions.take (max query.limit 1)

/-- `StateStore::get_session_detail`. -/
def getSessionDetail (query : SessionDetailQuery) : EngineOp SessionDetail := do
  let session ← sessionById query.sessionId
  EngineOp.guarded .conversations do
    let rows ← Stmt.select fun t =>
      Table.limit (max query.limit 1) (Table.descending (fun row => stamp row.createdAt)
        (t.sessionMessages.filter (·.sessionId == query.sessionId)))
    return ⟨session, (rows.map sessionMessageFromRow).reverse⟩

/-- The session was last updated before the threshold. -/
def isOlder (threshold : Instant) (row : SessionRow) : Bool :=
  stamp row.updatedAt < stamp threshold

/-- Old sessions are archived. -/
def archiveSessionsStmt (threshold : Instant) : Stmt Conversations Nat := do
  let now ← Stmt.now
  let stale (row : SessionRow) : Bool := isOlder threshold row && row.status != "archived"
  let change (row : SessionRow) : SessionRow :=
    { row with status := "archived", archived := true, updatedAt := now }
  Stmt.sql fun t => .ok (t.sessions.countP stale,
    { t with sessions := Table.updateWhere stale change t.sessions })

/-- Old sessions are deleted, after their messages. -/
def deleteSessionsStmt (threshold : Instant) : Stmt Conversations Nat := do
  let gone (t : Conversations) (message : SessionMessageRow) : Bool :=
    t.sessions.any fun row => row.sessionId == message.sessionId && isOlder threshold row
  Stmt.execute fun t =>
    { t with sessionMessages := Table.deleteWhere (gone t) t.sessionMessages }
  Stmt.sql fun t => .ok (t.sessions.countP (isOlder threshold),
    { t with sessions := Table.deleteWhere (isOlder threshold) t.sessions })

/-- `StateStore::prune_sessions`. -/
def pruneSessions (request : SessionPruneRequestRecord) : EngineOp Nat := do
  let now ← EngineOp.now
  let threshold ← EngineOp.orPanic (shift now (-(max request.olderThanHours 1 * hour)))
  let changed ← EngineOp.guarded .conversations
    (if request.archiveOnly then archiveSessionsStmt threshold else deleteSessionsStmt threshold)
  return changed % 2 ^ 32

/-! ## Pairings -/

/-- `StateStore::list_pairings`. -/
def listPairings (query : PairingListQuery) : EngineOp (List PairingRecord) :=
  EngineOp.guarded .conversations do
    let rows ← Stmt.select fun t =>
      (Table.descending (fun row => stamp row.updatedAt) t.pairings).take 512
    let pairings := (rows.map pairingRecordFromRow).filter fun pairing =>
      query.status.all (· == pairing.status) && query.connector.all (· == pairing.connector)
    return pairings.take (max query.limit 1)

/-- The body of `pairing_for_target`. -/
def pairingForTargetStmt (target : Target) : Stmt Conversations PairingRecord := do
  let found ← Stmt.select fun t => t.pairings.find? (·.target == target)
  match found with
  | some row => return pairingRecordFromRow row
  | none =>
      Stmt.fail s!"pairing not found for {target.connector}:{target.channelId}:{target.sender}"

/-- `StateStore::pairing_for_target`. -/
def pairingForTarget (connectorName channelId sender : String) : EngineOp PairingRecord :=
  EngineOp.guarded .conversations (pairingForTargetStmt ⟨connectorName, channelId, sender⟩)

/-- The statement of `ensure_pairing`: a row that is pending, in place of the one
of the same target. -/
def ensurePairingStmt (row : PairingRow) : Stmt Conversations Unit :=
  let change (old : PairingRow) : PairingRow :=
    { old with
      sessionId := row.sessionId
      status := row.status
      reason := row.reason
      updatedAt := row.updatedAt }
  Stmt.insert fun t =>
    (Table.upsert (·.pairingId == row.pairingId) (·.target == row.target) change row
      t.pairings).map fun rows => { t with pairings := rows }

/-- `StateStore::ensure_pairing`.  The connection is still held when
`pairing_for_target` asks for it. -/
def ensurePairing (connectorName channelId sender sessionId reason : String) :
    EngineOp PairingRecord := do
  let now ← EngineOp.now
  let uuid ← EngineOp.newUuid
  let row : PairingRow :=
    { pairingId := s!"pairing-{uuid}"
      connector := connectorName
      channelId := channelId
      sender := sender
      sessionId := sessionId
      status := "pending"
      reason := reason
      note := ""
      createdAt := now
      updatedAt := now }
  EngineOp.holding (.pairingUpsert row.target) .conversations (ensurePairingStmt row) fun _ =>
    pairingForTarget connectorName channelId sender

/-- The status that an action asks for. -/
def requestedStatus (action : String) : String :=
  if action = "approve" ∨ action = "approved" then "approved"
  else if action = "revoke" ∨ action = "revoked" then "revoked"
  else if action = "pending" then "pending"
  else action

/-- `update sessions set pending_pairing = ?2, updated_at = ?3`. -/
def setPendingPairing (sessionId : String) (value : Bool) (now : Instant) (t : Conversations) :
    Conversations :=
  let change (row : SessionRow) : SessionRow :=
    { row with pendingPairing := value, updatedAt := now }
  { t with sessions := Table.updateWhere (·.sessionId == sessionId) change t.sessions }

/-- The pairing that was updated, and the flag of its session. -/
def updatePairingRest (pairingId status : String) : Stmt Conversations PairingRecord := do
  let found ← Stmt.select fun t => t.pairings.find? (·.pairingId == pairingId)
  match found with
  | none => Stmt.fail s!"pairing {pairingId} not found"
  | some row =>
      let pairing := pairingRecordFromRow row
      let now ← Stmt.now
      Stmt.execute (setPendingPairing pairing.sessionId (status == "pending") now)
      return pairing

/-- The body of `update_pairing`. -/
def updatePairingStmt (pairingId status note : String) (now : Instant) :
    Stmt Conversations PairingRecord := do
  let change (row : PairingRow) : PairingRow :=
    { row with status := status, note := note, updatedAt := now }
  Stmt.execute fun t =>
    { t with pairings := Table.updateWhere (·.pairingId == pairingId) change t.pairings }
  updatePairingRest pairingId status

/-- `StateStore::update_pairing`. -/
def updatePairing (request : PairingUpdate) : EngineOp PairingRecord := do
  let status := requestedStatus request.action
  let now ← EngineOp.now
  EngineOp.guardedAs (.pairingUpdate request.pairingId status) .conversations
    (updatePairingStmt request.pairingId status request.note now)

/-- `StateStore::pairing_is_approved`.  Any error reads as not approved. -/
def pairingIsApproved (connectorName channelId sender : String) : EngineOp Bool := do
  let target : Target := ⟨connectorName, channelId, sender⟩
  let pairing ← EngineOp.attempt
    (EngineOp.guardedAs (.approvalCheck target) .conversations (pairingForTargetStmt target))
  match pairing with
  | .ok record => return record.status == "approved"
  | .error _ => return false

/-- `StateStore::set_session_pending_pairing`. -/
def setSessionPendingPairing (sessionId : String) (value : Bool) : EngineOp Unit :=
  EngineOp.guarded .conversations do
    let now ← Stmt.now
    Stmt.execute (setPendingPairing sessionId value now)

/-- `StateStore::clear_session_pending_pairing`. -/
def clearSessionPendingPairing (sessionId : String) : EngineOp Unit :=
  setSessionPendingPairing sessionId false

end StateStore

end OpenPinch
