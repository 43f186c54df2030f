import OpenPinch.Engine.BrainStatements
import OpenPinch.Engine.Resolutions
import OpenPinch.Lib.History

/-!
# How the database evolves

For each group of tables, what is true of it after every statement, and what of
its rows is never lost.  Primary and unique keys stay distinct, and the brain holds
only rows that passed its checks.  Messages, audit events and runs of protocols
are only added.  A row that may be updated keeps the columns it was inserted with,
its `origin`.  Sessions and their messages may be deleted, and those that are left
stay in order.

`logs` says whether the statement may touch what is recorded of messages and
events: where it may not, the messages, the transcripts and the audit trail stay.
-/

namespace OpenPinch

open Lib (Op Table.updateWhere Table.deleteWhere Table.insert Table.upsert Table.upsertOn
  Table.Extends Table.Renews Table.mem_updateWhere Table.mem_deleteWhere Table.nodup_updateWhere
  Table.nodup_deleteWhere Table.nodup_insert Table.nodup_upsert Table.nodup_upsertOn
  Table.mem_of_mem_upsertOn Table.upsert_eq_some)
open Lib.Op (after)
open Stmt (Respects respects_bind respects_now respects_newUuid respects_execute respects_insert
  respects_pure respects_fail respects_sql respects_select)

/-! ## Conversations -/

/-- The columns of a session that no statement updates. -/
def SessionRow.origin (row : SessionRow) : SessionRow :=
  { row with
    status := ""
    pendingPairing := false
    archived := false
    lastMessagePreview := ""
    messageCount := 0
    updatedAt := 0 }

/-- The columns of a pairing that no statement updates. -/
def PairingRow.origin (row : PairingRow) : String × Target × Instant :=
  (row.pairingId, row.target, row.createdAt)

/-- The primary and unique keys of the tables about conversations. -/
structure Conversations.Keyed (t : Conversations) : Prop where
  sessions : (t.sessions.map SessionRow.sessionId).Nodup
  places : t.PlacesUnique
  messages : (t.sessionMessages.map SessionMessageRow.messageId).Nodup
  pairings : (t.pairings.map PairingRow.pairingId).Nodup
  targets : (t.pairings.map PairingRow.target).Nodup

structure Conversations.Evolves (logs : Prop) (t t' : Conversations) : Prop where
  keyed : t.Keyed → t'.Keyed
  recorded : logs ∨ t'.messages = t.messages ∧ t'.sessionMessages = t.sessionMessages
  messages : Table.Extends id t.messages t'.messages
  sessions : Table.Renews SessionRow.origin t.sessions t'.sessions
  sessionMessages : Table.Renews id t.sessionMessages t'.sessionMessages
  pairings : Table.Extends PairingRow.origin t.pairings t'.pairings

namespace Conversations.Evolves

variable {logs : Prop}

theorem refl (t : Conversations) : Evolves logs t t where
  keyed := id
  recorded := Or.inr ⟨rfl, rfl⟩
  messages := .refl _ _
  sessions := .refl _ _
  sessionMessages := .refl _ _
  pairings := .refl _ _

theorem trans (t t' t'' : Conversations) (h : Evolves logs t t') (h' : Evolves logs t' t'') :
    Evolves logs t t'' where
  keyed := h'.keyed ∘ h.keyed
  recorded := by
    rcases h.recorded with hlogs | ⟨hmessages, hchats⟩
    · exact Or.inl hlogs
    · exact h'.recorded.imp id fun hsame => ⟨hsame.1.trans hmessages, hsame.2.trans hchats⟩
  messages := h.messages.trans h'.messages
  sessions := h.sessions.trans h'.sessions
  sessionMessages := h.sessionMessages.trans h'.sessionMessages
  pairings := h.pairings.trans h'.pairings

variable {t : Conversations}

/-- Other rows of sessions. -/
theorem of_sessions {rows : List SessionRow}
    (hkeys : t.Keyed → (rows.map SessionRow.sessionId).Nodup ∧ (rows.map SessionRow.place).Nodup)
    (hrows : Table.Renews SessionRow.origin t.sessions rows) :
    Evolves logs t { t with sessions := rows } :=
  { refl t with
    keyed := fun ht => ⟨(hkeys ht).1, (hkeys ht).2, ht.messages, ht.pairings, ht.targets⟩
    sessions := hrows }

theorem of_updateSessions {test : SessionRow → Bool} {change : SessionRow → SessionRow}
    (h : ∀ row, (change row).origin = row.origin) :
    Evolves logs t { t with sessions := Table.updateWhere test change t.sessions } := by
  have hid : ∀ row, (change row).sessionId = row.sessionId := fun row =>
    show (change row).origin.sessionId = row.origin.sessionId by rw [h row]
  have hplace : ∀ row, (change row).place = row.place := fun row =>
    show (change row).origin.place = row.origin.place by rw [h row]
  refine of_sessions (fun ht => ?_) (Table.Extends.updateWhere (fun row _ => h row) _).renews
  exact ⟨Table.nodup_updateWhere ht.sessions hid, Table.nodup_updateWhere ht.places hplace⟩

theorem of_sessionMessages (hlogs : logs) {rows : List SessionMessageRow}
    (hkeys : t.Keyed → (rows.map SessionMessageRow.messageId).Nodup)
    (hrows : Table.Renews id t.sessionMessages rows) :
    Evolves logs t { t with sessionMessages := rows } :=
  { (refl t : Evolves logs t t) with
    recorded := Or.inl hlogs
    keyed := fun ht => ⟨ht.sessions, ht.places, hkeys ht, ht.pairings, ht.targets⟩
    sessionMessages := hrows }

theorem of_pairings {rows : List PairingRow}
    (hkeys : t.Keyed → (rows.map PairingRow.pairingId).Nodup ∧ (rows.map PairingRow.target).Nodup)
    (hrows : Table.Extends PairingRow.origin t.pairings rows) :
    Evolves logs t { t with pairings := rows } :=
  { refl t with
    keyed := fun ht => ⟨ht.sessions, ht.places, ht.messages, (hkeys ht).1, (hkeys ht).2⟩
    pairings := hrows }

end Conversations.Evolves

namespace StateStore

open Conversations (Evolves)

variable {logs : Prop}

theorem evolves_recordMessage (hlogs : logs) (message : MessageEnvelope) :
    (do
      let now ← Stmt.now
      Stmt.execute fun t => { t with messages := t.messages ++
        [⟨message.connector, message.channelId, message.sender, message.body,
          message.metadataJson, now⟩] } : Stmt Conversations Unit).Respects (Evolves logs) := by
  refine respects_bind Evolves.trans (respects_now Evolves.refl) fun now => ?_
  refine respects_execute Evolves.refl fun t => ?_
  exact { (Evolves.refl t : Evolves logs t t) with
    recorded := Or.inl hlogs
    keyed := fun ht => ⟨ht.sessions, ht.places, ht.messages, ht.pairings, ht.targets⟩
    messages := .append _ _ _ }

theorem evolves_resolveSessionStmt (connectorName channelId participant sessionType : String)
    (config : AppConfig) (defaultModelProfile : String) :
    (resolveSessionStmt connectorName channelId participant sessionType config
      defaultModelProfile).Respects (Evolves logs) := by
  refine respects_bind Evolves.trans (respects_select Evolves.refl _) fun found => ?_
  cases found with
  | some row => exact respects_pure Evolves.refl _
  | none =>
      refine respects_bind Evolves.trans (respects_now Evolves.refl) fun now => ?_
      refine respects_bind Evolves.trans (respects_newUuid Evolves.refl) fun uuid => ?_
      refine respects_bind Evolves.trans ?_ fun _ => respects_pure Evolves.refl _
      refine respects_insert Evolves.refl fun t t' hinsert => ?_
      obtain ⟨rows, hrows, rfl⟩ := Option.map_eq_some_iff.mp hinsert
      refine .of_sessions (fun ht => ?_) (Table.Extends.insert hrows).renews
      constructor
      · refine Table.nodup_insert ht.sessions (fun other hsame => ?_) hrows
        simp only [hsame, SessionRecord.row, BEq.rfl, Bool.true_or]
      · refine Table.nodup_insert ht.places (fun other hsame => ?_) hrows
        have hat : other.isAt connectorName channelId participant = true :=
          SessionRow.isAt_iff.mpr hsame
        rw [hat, Bool.or_true]

theorem evolves_recordSessionMessageStmt (hlogs : logs) (row : SessionMessageRow) (preview : String) :
    (recordSessionMessageStmt row preview).Respects (Evolves logs) := by
  refine respects_bind Evolves.trans (respects_insert Evolves.refl fun t t' hinsert => ?_)
    fun _ => ?_
  · obtain ⟨rows, hrows, rfl⟩ := Option.map_eq_some_iff.mp hinsert
    refine .of_sessionMessages hlogs (fun ht => ?_) (Table.Extends.insert hrows).renews
    exact Table.nodup_insert ht.messages (fun other hsame => by simp [hsame]) hrows
  · refine respects_bind Evolves.trans ?_ fun _ => respects_pure Evolves.refl _
    exact respects_execute Evolves.refl fun t => .of_updateSessions fun _ => by rfl

theorem evolves_setPendingPairing (sessionId : String) (value : Bool) (now : Instant)
    (t : Conversations) : Evolves logs t (setPendingPairing sessionId value now t) :=
  .of_updateSessions fun _ => by rfl

variable [Externals] in
theorem evolves_archiveSessionsStmt (threshold : Instant) :
    (archiveSessionsStmt threshold).Respects (Evolves logs) := by
  refine respects_bind Evolves.trans (respects_now Evolves.refl) fun now => ?_
  refine respects_sql Evolves.refl fun t changed t' hchange => ?_
  cases hchange
  exact .of_updateSessions fun _ => by rfl

variable [Externals] in
theorem evolves_deleteSessionsStmt (hlogs : logs) (threshold : Instant) :
    (deleteSessionsStmt threshold).Respects (Evolves logs) := by
  refine respects_bind Evolves.trans (respects_execute Evolves.refl fun t => ?_) fun _ => ?_
  · exact .of_sessionMessages hlogs (fun ht => Table.nodup_deleteWhere ht.messages _) (.deleteWhere _ _)
  · refine respects_sql Evolves.refl fun t changed t' hchange => ?_
    cases hchange
    refine .of_sessions (fun ht => ?_) (.deleteWhere _ _)
    exact ⟨Table.nodup_deleteWhere ht.sessions _, Table.nodup_deleteWhere ht.places _⟩

theorem evolves_ensurePairingStmt (row : PairingRow) :
    (ensurePairingStmt row).Respects (Evolves logs) := by
  refine respects_insert Evolves.refl fun t t' hupsert => ?_
  obtain ⟨rows, hrows, rfl⟩ := Option.map_eq_some_iff.mp hupsert
  refine .of_pairings (fun ht => ?_) (Table.Extends.upsert (fun _ => by rfl) hrows)
  constructor
  · exact Table.nodup_upsert ht.pairings (fun _ => by rfl) (fun other hsame => by simp [hsame]) hrows
  · exact Table.nodup_upsert ht.targets (fun _ => by rfl) (fun other hsame => by simp [hsame]) hrows

theorem evolves_updatePairingStmt (pairingId status note : String) (now : Instant) :
    (updatePairingStmt pairingId status note now).Respects (Evolves logs) := by
  refine respects_bind Evolves.trans (respects_execute Evolves.refl fun t => ?_) fun _ => ?_
  · refine .of_pairings (fun ht => ?_) (Table.Extends.updateWhere (fun _ _ => by rfl) _)
    exact ⟨Table.nodup_updateWhere ht.pairings fun _ => by rfl,
      Table.nodup_updateWhere ht.targets fun _ => by rfl⟩
  · refine respects_bind Evolves.trans (respects_select Evolves.refl _) fun found => ?_
    cases found with
    | none => exact respects_fail Evolves.refl _
    | some row =>
        refine respects_bind Evolves.trans (respects_now Evolves.refl) fun later => ?_
        refine respects_bind Evolves.trans ?_ fun _ => respects_pure Evolves.refl _
        exact respects_execute Evolves.refl (evolves_setPendingPairing _ _ later)

end StateStore

/-! ## Reply caches and memory -/

/-- The keys of the caches. -/
structure Caches.Keyed (t : Caches) : Prop where
  prompts : (t.promptCache.map CacheRow.key).Nodup
  heads : (t.prefixCache.map CacheRow.key).Nodup

structure Caches.Evolves (t t' : Caches) : Prop where
  keyed : t.Keyed → t'.Keyed
  prompts : Table.Extends CacheRow.key t.promptCache t'.promptCache
  heads : Table.Extends CacheRow.key t.prefixCache t'.prefixCache

namespace Caches.Evolves

theorem refl (t : Caches) : t.Evolves t := ⟨id, .refl _ _, .refl _ _⟩

theorem trans (t t' t'' : Caches) (h : t.Evolves t') (h' : t'.Evolves t'') : t.Evolves t'' where
  keyed := h'.keyed ∘ h.keyed
  prompts := h.prompts.trans h'.prompts
  heads := h.heads.trans h'.heads

/-- A reply that is put under a key. -/
theorem of_upsert (keys : List CacheRow) (row : CacheRow) :
    ((keys.map CacheRow.key).Nodup →
        ((Table.upsertOn CacheRow.key (fun _ => row) row keys).map CacheRow.key).Nodup) ∧
      Table.Extends CacheRow.key keys (Table.upsertOn CacheRow.key (fun _ => row) row keys) :=
  ⟨Table.nodup_upsertOn fun _ => rfl, .upsertOn (fun _ hkey => (eq_of_beq hkey).symm) keys⟩

end Caches.Evolves

/-- The key of a row of the vector memory. -/
def VectorMemoryRow.place (row : VectorMemoryRow) : String × String := (row.nameSpace, row.key)

/-- The keys of the vector memory stay distinct.  Rows may be replaced under their
keys and deleted. -/
structure MemoryEvolves (rows rows' : List VectorMemoryRow) : Prop where
  keyed : (rows.map VectorMemoryRow.place).Nodup → (rows'.map VectorMemoryRow.place).Nodup
  rows : Table.Renews VectorMemoryRow.place rows rows'

theorem MemoryEvolves.refl (rows : List VectorMemoryRow) : MemoryEvolves rows rows :=
  ⟨id, .refl _ _⟩

theorem MemoryEvolves.trans (rows rows' rows'' : List VectorMemoryRow)
    (h : MemoryEvolves rows rows') (h' : MemoryEvolves rows' rows'') : MemoryEvolves rows rows'' :=
  ⟨h'.keyed ∘ h.keyed, h.rows.trans h'.rows⟩

/-- A row that is put under its key. -/
theorem MemoryEvolves.of_upsert (row : VectorMemoryRow) (rows : List VectorMemoryRow) :
    MemoryEvolves rows (Table.upsertOn VectorMemoryRow.place (fun _ => row) row rows) :=
  ⟨Table.nodup_upsertOn fun _ => rfl,
    (Table.Extends.upsertOn (fun _ hkey => (eq_of_beq hkey).symm) rows).renews⟩

theorem MemoryEvolves.of_delete (test : VectorMemoryRow → Bool) (rows : List VectorMemoryRow) :
    MemoryEvolves rows (Table.deleteWhere test rows) :=
  ⟨fun hrows => Table.nodup_deleteWhere hrows test, .deleteWhere test rows⟩

/-! ## The ledger -/

/-- The columns of a queued task that no statement updates. -/
def QueueTaskRow.origin (row : QueueTaskRow) : String × Instant := (row.taskId, row.createdAt)

/-- The primary keys of the ledger. -/
structure Ledger.Keyed (t : Ledger) : Prop where
  auditEvents : (t.auditEvents.map AuditRow.id).Nodup
  queueTasks : (t.queueTasks.map QueueTaskRow.taskId).Nodup

structure Ledger.Evolves (logs : Prop) (t t' : Ledger) : Prop where
  keyed : t.Keyed → t'.Keyed
  recorded : logs ∨ t'.auditEvents = t.auditEvents
  jobs : t'.jobs = t.jobs
  auditEvents : Table.Extends id t.auditEvents t'.auditEvents
  queueTasks : Table.Extends QueueTaskRow.origin t.queueTasks t'.queueTasks
  protocolRuns : Table.Extends id t.protocolRuns t'.protocolRuns

namespace Ledger.Evolves

variable {logs : Prop}

theorem refl (t : Ledger) : Evolves logs t t :=
  ⟨id, Or.inr rfl, rfl, .refl _ _, .refl _ _, .refl _ _⟩

theorem trans (t t' t'' : Ledger) (h : Evolves logs t t') (h' : Evolves logs t' t'') :
    Evolves logs t t'' where
  keyed := h'.keyed ∘ h.keyed
  recorded := by
    rcases h.recorded with hlogs | hsame
    · exact Or.inl hlogs
    · exact h'.recorded.imp id fun hsame' => hsame'.trans hsame
  jobs := h'.jobs.trans h.jobs
  auditEvents := h.auditEvents.trans h'.auditEvents
  queueTasks := h.queueTasks.trans h'.queueTasks
  protocolRuns := h.protocolRuns.trans h'.protocolRuns

variable {t : Ledger}

theorem of_insertAudit (hlogs : logs) {row : AuditRow} {rows : List AuditRow}
    (h : Table.insert (·.id == row.id) row t.auditEvents = some rows) :
    Evolves logs t { t with auditEvents := rows } :=
  { (refl t : Evolves logs t t) with
    recorded := Or.inl hlogs
    keyed := fun ht =>
      ⟨Table.nodup_insert ht.auditEvents (fun _ hsame => beq_iff_eq.mpr hsame) h, ht.queueTasks⟩
    auditEvents := .insert h }

theorem of_upsertTask (row : QueueTaskRow) :
    Evolves logs t { t with
      queueTasks := Table.upsertOn QueueTaskRow.taskId
        (fun old => { row with createdAt := old.createdAt }) row t.queueTasks } :=
  { refl t with
    keyed := fun ht => ⟨ht.auditEvents, Table.nodup_upsertOn (fun _ => by rfl) ht.queueTasks⟩
    queueTasks := .upsertOn (fun old hid => congrArg (·, old.createdAt) (eq_of_beq hid).symm) _ }

theorem of_updateTasks {test : QueueTaskRow → Bool} {change : QueueTaskRow → QueueTaskRow}
    (h : ∀ row, (change row).origin = row.origin) :
    Evolves logs t { t with queueTasks := Table.updateWhere test change t.queueTasks } :=
  { refl t with
    keyed := fun ht => ⟨ht.auditEvents,
      Table.nodup_updateWhere ht.queueTasks fun row => congrArg Prod.fst (h row)⟩
    queueTasks := .updateWhere (fun row _ => h row) _ }

theorem of_protocolRun (row : ProtocolRunRow) :
    Evolves logs t { t with protocolRuns := t.protocolRuns ++ [row] } :=
  { refl t with
    keyed := fun ht => ⟨ht.auditEvents, ht.queueTasks⟩
    protocolRuns := .append _ _ _ }

end Ledger.Evolves

/-! ## The brain -/

/-- The columns of a row of the brain that no statement updates. -/
def EntityRow.origin (row : EntityRow) : String × Instant := (row.entityId, row.createdAt)

def FactRow.origin (row : FactRow) : String × Instant := (row.factId, row.createdAt)

def TaskRow.origin (row : TaskRow) : String × Instant := (row.taskId, row.createdAt)

def RelationRow.origin (row : RelationRow) : String × (String × String × String) × Instant :=
  (row.relationId, row.triple, row.createdAt)

section

variable [Externals]

/-- The tables of the brain are keyed, and each row has passed its checks. -/
structure BrainTables.Sound (t : BrainTables) : Prop extends t.WellKeyed where
  triples : (t.relations.map RelationRow.triple).Nodup
  sources : (t.ingestLog.map IngestRow.sourceRef).Nodup
  entityKinds : ∀ row ∈ t.entities,
    BrainManager.validateEntity row.entityKind row.subtype = .ok ()
  taskStatuses : ∀ row ∈ t.tasks, validateTaskStatus row.status = .ok ()
  relationKinds : ∀ row ∈ t.relations, validateRelationKind row.relationKind = .ok ()

structure BrainTables.Evolves (t t' : BrainTables) : Prop where
  sound : t.Sound → t'.Sound
  entities : Table.Renews EntityRow.origin t.entities t'.entities
  facts : Table.Renews FactRow.origin t.facts t'.facts
  relations : Table.Renews RelationRow.origin t.relations t'.relations
  tasks : Table.Renews TaskRow.origin t.tasks t'.tasks
  ingestLog : Table.Extends IngestRow.sourceRef t.ingestLog t'.ingestLog

namespace BrainTables.Evolves

theorem refl (t : BrainTables) : t.Evolves t :=
  ⟨id, .refl _ _, .refl _ _, .refl _ _, .refl _ _, .refl _ _⟩

theorem trans (t t' t'' : BrainTables) (h : t.Evolves t') (h' : t'.Evolves t'') :
    t.Evolves t'' where
  sound := h'.sound ∘ h.sound
  entities := h.entities.trans h'.entities
  facts := h.facts.trans h'.facts
  relations := h.relations.trans h'.relations
  tasks := h.tasks.trans h'.tasks
  ingestLog := h.ingestLog.trans h'.ingestLog

variable {t : BrainTables}

theorem of_entities {rows : List EntityRow}
    (hkeys : t.Sound → (rows.map EntityRow.entityId).Nodup)
    (hkinds : t.Sound → ∀ row ∈ rows,
      BrainManager.validateEntity row.entityKind row.subtype = .ok ())
    (hrows : Table.Renews EntityRow.origin t.entities rows) :
    t.Evolves { t with entities := rows } :=
  { refl t with
    sound := fun ht => ⟨⟨⟨hkeys ht, ht.facts, ht.relations, ht.tasks⟩, ht.digested⟩, ht.triples,
      ht.sources, hkinds ht, ht.taskStatuses, ht.relationKinds⟩
    entities := hrows }

theorem of_facts {rows : List FactRow} (hkeys : t.Sound → (rows.map FactRow.factId).Nodup)
    (hrows : Table.Renews FactRow.origin t.facts rows) : t.Evolves { t with facts := rows } :=
  { refl t with
    sound := fun ht => ⟨⟨⟨ht.entities, hkeys ht, ht.relations, ht.tasks⟩, ht.digested⟩,
      ht.triples, ht.sources, ht.entityKinds, ht.taskStatuses, ht.relationKinds⟩
    facts := hrows }

theorem of_tasks {rows : List TaskRow} (hkeys : t.Sound → (rows.map TaskRow.taskId).Nodup)
    (hstatuses : t.Sound → ∀ row ∈ rows, validateTaskStatus row.status = .ok ())
    (hrows : Table.Renews TaskRow.origin t.tasks rows) : t.Evolves { t with tasks := rows } :=
  { refl t with
    sound := fun ht => ⟨⟨⟨ht.entities, ht.facts, ht.relations, hkeys ht⟩, ht.digested⟩,
      ht.triples, ht.sources, ht.entityKinds, hstatuses ht, ht.relationKinds⟩
    tasks := hrows }

theorem of_relations {rows : List RelationRow}
    (hkeys : t.Sound → (rows.map RelationRow.relationId).Nodup)
    (hrows : ∀ row ∈ rows, row.Digested ∧ validateRelationKind row.relationKind = .ok () ∨
      ∃ old ∈ t.relations, old.relationId = row.relationId ∧ old.triple = row.triple)
    (hrenews : Table.Renews RelationRow.origin t.relations rows) :
    t.Evolves { t with relations := rows } := by
  refine { refl t with sound := fun ht => ?_, relations := hrenews }
  have hall : ∀ row ∈ rows, row.Digested ∧ validateRelationKind row.relationKind = .ok () := by
    intro row hrow
    rcases hrows row hrow with hnew | ⟨old, hold, hid, htriple⟩
    · exact hnew
    · obtain ⟨hkind, hends⟩ := Prod.mk.inj htriple
      obtain ⟨hfrom, hto⟩ := Prod.mk.inj hends
      refine ⟨?_, hkind ▸ ht.relationKinds old hold⟩
      rw [RelationRow.Digested, ← hid, ← hkind, ← hfrom, ← hto]
      exact ht.digested old hold
  -- rows with one triple have one digest
  have htriples : (rows.map RelationRow.triple).Nodup := by
    refine List.Nodup.map_on (fun row hrow other hother htriple => ?_) (hkeys ht).of_map
    refine List.inj_on_of_nodup_map (hkeys ht) hrow hother ?_
    obtain ⟨hkind, hends⟩ := Prod.mk.inj htriple
    obtain ⟨hfrom, hto⟩ := Prod.mk.inj hends
    rw [(hall row hrow).1, (hall other hother).1, hkind, hfrom, hto]
  exact ⟨⟨⟨ht.entities, ht.facts, hkeys ht, ht.tasks⟩, fun row hrow => (hall row hrow).1⟩,
    htriples, ht.sources, ht.entityKinds, ht.taskStatuses, fun row hrow => (hall row hrow).2⟩

/-! ### Updates and deletions -/

theorem of_updateEntities {test : EntityRow → Bool} {change : EntityRow → EntityRow}
    (h : ∀ row, (change row).origin = row.origin ∧ (change row).entityKind = row.entityKind ∧
      (change row).subtype = row.subtype) :
    t.Evolves { t with entities := Table.updateWhere test change t.entities } := by
  refine of_entities (fun ht => ?_) (fun ht row hrow => ?_)
    (Table.Extends.updateWhere (fun row _ => (h row).1) _).renews
  · exact Table.nodup_updateWhere ht.entities fun row => congrArg Prod.fst (h row).1
  · obtain ⟨old, hold, rfl⟩ := Table.mem_updateWhere.mp hrow
    split
    · rw [(h old).2.1, (h old).2.2]
      exact ht.entityKinds old hold
    · exact ht.entityKinds old hold

theorem of_updateFacts {test : FactRow → Bool} {change : FactRow → FactRow}
    (h : ∀ row, (change row).origin = row.origin) :
    t.Evolves { t with facts := Table.updateWhere test change t.facts } :=
  of_facts (fun ht => Table.nodup_updateWhere ht.facts fun row => congrArg Prod.fst (h row))
    (Table.Extends.updateWhere (fun row _ => h row) _).renews

theorem of_updateTasks {test : TaskRow → Bool} {change : TaskRow → TaskRow}
    (h : ∀ row, (change row).origin = row.origin ∧ (change row).status = row.status) :
    t.Evolves { t with tasks := Table.updateWhere test change t.tasks } := by
  refine of_tasks (fun ht => ?_) (fun ht row hrow => ?_)
    (Table.Extends.updateWhere (fun row _ => (h row).1) _).renews
  · exact Table.nodup_updateWhere ht.tasks fun row => congrArg Prod.fst (h row).1
  · obtain ⟨old, hold, rfl⟩ := Table.mem_updateWhere.mp hrow
    split
    · rw [(h old).2]
      exact ht.taskStatuses old hold
    · exact ht.taskStatuses old hold

theorem of_updateRelations {test : RelationRow → Bool} {change : RelationRow → RelationRow}
    (h : ∀ row, (change row).origin = row.origin) :
    t.Evolves { t with relations := Table.updateWhere test change t.relations } := by
  refine of_relations (fun ht => ?_) (fun row hrow => Or.inr ?_)
    (Table.Extends.updateWhere (fun row _ => h row) _).renews
  · exact Table.nodup_updateWhere ht.relations fun row => congrArg Prod.fst (h row)
  · obtain ⟨old, hold, rfl⟩ := Table.mem_updateWhere.mp hrow
    refine ⟨old, hold, ?_⟩
    split
    · exact ⟨(congrArg Prod.fst (h old)).symm, (congrArg (·.2.1) (h old)).symm⟩
    · exact ⟨rfl, rfl⟩

theorem of_deleteFacts (test : FactRow → Bool) :
    t.Evolves { t with facts := Table.deleteWhere test t.facts } :=
  of_facts (fun ht => Table.nodup_deleteWhere ht.facts test) (.deleteWhere _ _)

theorem of_deleteRelations (test : RelationRow → Bool) :
    t.Evolves { t with relations := Table.deleteWhere test t.relations } := by
  refine of_relations (fun ht => Table.nodup_deleteWhere ht.relations test)
    (fun row hrow => Or.inr ?_) (.deleteWhere _ _)
  exact ⟨row, (Table.mem_deleteWhere.mp hrow).1, rfl, rfl⟩

/-! ### Upserts -/

theorem of_upsertEntity {row : EntityRow}
    (hkind : BrainManager.validateEntity row.entityKind row.subtype = .ok ()) :
    t.Evolves { t with
      entities := Table.upsertOn EntityRow.entityId
        (fun old => { row with createdAt := old.createdAt }) row t.entities } := by
  refine of_entities (fun ht => Table.nodup_upsertOn (fun _ => by rfl) ht.entities)
    (fun ht other hother => ?_) (Table.Extends.upsertOn (fun old hid => ?_) _).renews
  · rcases Table.mem_of_mem_upsertOn hother with hold | ⟨old, -, rfl⟩ | rfl
    · exact ht.entityKinds other hold
    · exact hkind
    · exact hkind
  · exact congrArg (·, old.createdAt) (eq_of_beq hid).symm

theorem of_upsertFact (row : FactRow) :
    t.Evolves { t with
      facts := Table.upsertOn FactRow.factId
        (fun old => { row with createdAt := old.createdAt }) row t.facts } :=
  of_facts (fun ht => Table.nodup_upsertOn (fun _ => by rfl) ht.facts)
    (Table.Extends.upsertOn (fun old hid =>
      congrArg (·, old.createdAt) (eq_of_beq hid).symm) _).renews

theorem of_upsertTask {row : TaskRow} (hstatus : validateTaskStatus row.status = .ok ()) :
    t.Evolves { t with
      tasks := Table.upsertOn TaskRow.taskId
        (fun old => { row with createdAt := old.createdAt }) row t.tasks } := by
  refine of_tasks (fun ht => Table.nodup_upsertOn (fun _ => by rfl) ht.tasks)
    (fun ht other hother => ?_) (Table.Extends.upsertOn (fun old hid => ?_) _).renews
  · rcases Table.mem_of_mem_upsertOn hother with hold | ⟨old, -, rfl⟩ | rfl
    · exact ht.taskStatuses other hold
    · exact hstatus
    · exact hstatus
  · exact congrArg (·, old.createdAt) (eq_of_beq hid).symm

theorem of_upsertRelation {row : RelationRow} (hdigested : row.Digested)
    (hkind : validateRelationKind row.relationKind = .ok ()) {rows : List RelationRow}
    (h : upsertRelationRows row t.relations = some rows) :
    t.Evolves { t with relations := rows } := by
  rcases Table.upsert_eq_some.mp h with ⟨-, rfl⟩ | ⟨-, hfree, rfl⟩
  · exact of_updateRelations fun _ => by rfl
  · refine of_relations (fun ht => ?_) (fun other hother => ?_) (Table.Extends.append _ _ _).renews
    · refine Lib.Table.nodup_append_singleton ht.relations fun other hother hsame => ?_
      exact List.any_eq_false.mp hfree other hother (beq_iff_eq.mpr hsame)
    · rcases List.mem_append.mp hother with hold | hnew
      · exact Or.inr ⟨other, hold, rfl, rfl⟩
      · cases List.mem_singleton.mp hnew
        exact Or.inl ⟨hdigested, hkind⟩

theorem of_upsertIngest (row : IngestRow) :
    t.Evolves { t with
      ingestLog := Table.upsertOn IngestRow.sourceRef (fun _ => row) row t.ingestLog } :=
  { refl t with
    sound := fun ht => ⟨⟨⟨ht.entities, ht.facts, ht.relations, ht.tasks⟩, ht.digested⟩,
      ht.triples, Table.nodup_upsertOn (fun _ => by rfl) ht.sources, ht.entityKinds, ht.taskStatuses,
      ht.relationKinds⟩
    ingestLog := .upsertOn (fun _ hsource => (eq_of_beq hsource).symm) _ }

end BrainTables.Evolves

end

end OpenPinch
