import OpenPinch.Engine.BrainWrites
import OpenPinch.Engine.RecallScope

/-!
# What a message overwrites

`ingest_message` writes rows under identifiers that it derives from the texts of
the message.  That of a task depends on the scope, those of the contact, of
artifacts and of environments do not, so that a message may overwrite rows of
other scopes.  `writtenKeys` are the identifiers, and `Separate` says that no row
out of the scope of the message has one of them.
-/

namespace OpenPinch

open Lib (Op wp Table.mem_map_upsertOn_of_ne Table.of_mem_map_upsertOn Table.mem_of_mapM_ok
  Table.ok_of_bind)
open Lib.Op (Leads Yields yields_pure)

/-! ## Entries -/

/-- What a row of the brain says: its texts by their names, its source and its flag. -/
structure Entry where
  id : String
  texts : List (String × String)
  sourceRef : String
  archived : Bool

/-- The scope among the texts. -/
def Entry.scopeJson? (entry : Entry) : Option String := entry.texts.lookup "scope_json"

namespace BrainManager

variable [Externals] (manager : BrainManager)

/-- The texts of a stored payload.  None when it is not read. -/
def storedTexts (fields : List String) (blobJson : String) : List (String × String) :=
  match manager.decryptPayload fields blobJson with
  | .ok values => fields.zip values
  | .error _ => []

def entityEntry (row : EntityRow) : Entry :=
  ⟨row.entityId, manager.storedTexts entityFields row.encryptedBlobJson, row.sourceRef,
    row.archived⟩

def factEntry (row : FactRow) : Entry :=
  ⟨row.factId, manager.storedTexts factFields row.encryptedBlobJson, row.sourceRef, row.archived⟩

def taskEntry (row : TaskRow) : Entry :=
  ⟨row.taskId, manager.storedTexts taskFields row.encryptedBlobJson, row.sourceRef, row.archived⟩

/-- The entries of a table. -/
def entries (t : BrainTables) : BrainTable → List Entry
  | .entities => t.entities.map manager.entityEntry
  | .facts => t.facts.map manager.factEntry
  | .tasks => t.tasks.map manager.taskEntry

end BrainManager

/-! ## Scopes -/

section

variable [Externals]

/-- The stored scope does not match that of the message. -/
def Entry.Foreign (message : MessageEnvelope) (entry : Entry) : Prop :=
  ∃ scopeJson, entry.scopeJson? = some scopeJson ∧
    scopeMatches scopeJson (BrainManager.scopeForMessage message) = false

namespace BrainManager

variable (manager : BrainManager) (message : MessageEnvelope)

/-- Each entry out of the scope of the message is there afterwards. -/
def Unaltered (t t' : BrainTables) : Prop :=
  ∀ table, ∀ entry ∈ manager.entries t table, entry.Foreign message →
    entry ∈ manager.entries t' table

/-- The task that `find_similar_task` finds among the rows. -/
def similarTask (summary scopeJson : String) (rows : List TaskRow) : Option BrainTaskRecord :=
  match (newest TaskRow.updatedAt TaskRow.archived false rows).mapM manager.taskRecord with
  | .error _ => none
  | .ok tasks =>
      let scored := (tasks.filter fun task => scopeMatches task.scopeJson scopeJson).filterMap
        fun task =>
          let score := similarity (fingerprint summary) (fingerprint task.summary)
          if 18 / 25 ≤ score then some (task, score) else none
      (bestScored scored).map Prod.fst

/-- The identifier of the body as a fact. -/
def bodyFactId : String :=
  let digest := promptHash (messageSourceRef message)
  s!"fact:{(contactInput message).entityId}:{digest}"

/-- The inputs of the artifacts and environments that a message mentions. -/
def mentionInputs : List EntityUpsert :=
  (extractArtifacts message.body).map (artifactInput message (scopeForMessage message)
      (messageSourceRef message)) ++
    (extractEnvironmentMentions message.body).map (environmentInput (scopeForMessage message)
      (messageSourceRef message))

/-- The identifier of the task in a message, unless a similar one in the scope is updated
instead. -/
def taskKeys (rows : List TaskRow) : List (BrainTable × String) :=
  match extractTaskSummary message.body with
  | none => []
  | some summary =>
      match manager.similarTask summary (scopeForMessage message) rows with
      | some _ => []
      | none => [(.tasks, taskIdOf summary (scopeForMessage message))]

/-- The identifiers that `ingest_message` writes where the database refuses nothing. -/
def writtenKeys (t : BrainTables) : List (BrainTable × String) :=
  if !manager.config.enabled || !manager.config.autoIngestMessages then []
  else
    (.entities, (contactInput message).entityId) :: (.facts, bodyFactId message) ::
      (mentionInputs message).map (fun input => (.entities, input.entityId)) ++
      manager.taskKeys message t.tasks

/-- No entry out of the scope of the message has an identifier that is written.  Where the
database refuses statements, the list of tasks may be one, and a task is written as if there
were none. -/
structure Separate (w : World) : Prop where
  written : ∀ key ∈ manager.writtenKeys message w.brain, ∀ entry ∈ manager.entries w.brain key.1,
    entry.Foreign message → entry.id ≠ key.2
  refused : (∃ n, w.around.refuses n = true) → ∀ summary,
    extractTaskSummary message.body = some summary → ∀ entry ∈ manager.entries w.brain .tasks,
      entry.Foreign message → entry.id ≠ taskIdOf summary (scopeForMessage message)

open EngineOp (Relates closed_relates relates_now)

variable {manager message}

/-! ## Rows out of scope stay -/

/-- What entries out of scope the first tables have and the second ones still have, the third
ones have as well, and the same tasks as the second. -/
structure Spares (manager : BrainManager) (message : MessageEnvelope) (start t t' : BrainTables) :
    Prop where
  unaltered : manager.Unaltered message start t → manager.Unaltered message start t'
  tasks : t'.tasks = t.tasks

section

variable {start : BrainTables}

theorem Spares.refl (t : BrainTables) : manager.Spares message start t t := ⟨id, rfl⟩

theorem Spares.trans (t t' t'' : BrainTables) (h : manager.Spares message start t t')
    (h' : manager.Spares message start t' t'') : manager.Spares message start t t'' :=
  ⟨fun hstart => h'.unaltered (h.unaltered hstart), h'.tasks.trans h.tasks⟩

/-- An upsert in one table spares the entries out of scope that have other identifiers. -/
theorem unaltered_upsertOn {ρ : Type} {table : BrainTable} (key : ρ → String) (entryOf : ρ → Entry)
    (hid : ∀ row, (entryOf row).id = key row) {change : ρ → ρ} {new : ρ} {rows : List ρ}
    {t t' : BrainTables} (hrows : manager.entries t table = rows.map entryOf)
    (hrows' : manager.entries t' table = (Lib.Table.upsertOn key change new rows).map entryOf)
    (hother : ∀ other, other ≠ table → manager.entries t' other = manager.entries t other)
    (hseparate : ∀ entry ∈ manager.entries start table, entry.Foreign message →
      entry.id ≠ key new) (hstart : manager.Unaltered message start t) :
    manager.Unaltered message start t' := by
  intro other entry hentry hforeign
  have hbefore := hstart other entry hentry hforeign
  by_cases htable : other = table
  · subst htable
    rw [hrows']
    rw [hrows] at hbefore
    refine Table.mem_map_upsertOn_of_ne hbefore fun row hrow heq => hseparate _ hentry hforeign ?_
    rw [← hrow, hid]
    exact heq
  · rw [hother other htable]
    exact hbefore

theorem spares_upsertEntity {input : EntityUpsert}
    (h : ∀ entry ∈ manager.entries start .entities, entry.Foreign message →
      entry.id ≠ input.entityId) :
    Relates (manager.Spares message start) (manager.upsertEntity input) := by
  refine manager.relates_upsertEntity Spares.refl fun t new hnew => ⟨?_, rfl⟩
  refine unaltered_upsertOn EntityRow.entityId manager.entityEntry (fun _ => rfl) rfl rfl
    (fun other hne => ?_) fun entry hentry hforeign => hnew ▸ h entry hentry hforeign
  cases other with
  | entities => exact absurd rfl hne
  | _ => rfl

theorem spares_upsertFact {input : FactUpsert}
    (h : ∀ entry ∈ manager.entries start .facts, entry.Foreign message →
      entry.id ≠ input.factId) :
    Relates (manager.Spares message start) (manager.upsertFact input) := by
  refine manager.relates_upsertFact Spares.refl fun t new hnew _ => ⟨?_, rfl⟩
  refine unaltered_upsertOn FactRow.factId manager.factEntry (fun _ => rfl) rfl rfl
    (fun other hne => ?_) fun entry hentry hforeign => hnew ▸ h entry hentry hforeign
  cases other with
  | facts => exact absurd rfl hne
  | _ => rfl

theorem spares_upsertRelation (kind fromId toId metadataJson : String) (confidence : Rat)
    (archived : Bool) :
    Relates (manager.Spares message start)
      (upsertRelation kind fromId toId metadataJson confidence archived) :=
  relates_upsertRelation Spares.refl fun _ _ _ => ⟨id, rfl⟩

/-- The world still has the entries out of scope, and its tasks. -/
structure Intact (manager : BrainManager) (message : MessageEnvelope) (w w' : World) : Prop where
  unaltered : manager.Unaltered message w.brain w'.brain
  tasks : w'.brain.tasks = w.brain.tasks
  later : Stmt.Later w.around w'.around

theorem Intact.next {w w' w'' : World} (h : manager.Intact message w w')
    (hlater : Stmt.Later w'.around w''.around)
    (hspares : manager.Spares message w.brain w'.brain w''.brain) :
    manager.Intact message w w'' :=
  ⟨hspares.unaltered h.unaltered, hspares.tasks.trans h.tasks, h.later.trans hlater⟩

theorem yields_of_spares {α : Type} {w : World} {p : EngineOp α} {Q : α → Prop}
    (h : Relates (manager.Spares message w.brain) p)
    (hvalue : ∀ w', manager.Intact message w w' → ∀ a, (Lib.Prog.eval p w').1 = .ok a → Q a) :
    Yields (manager.Intact message w) p Q := by
  intro w' hw'
  obtain ⟨hlater, hspares⟩ := h.eval Spares.refl Spares.trans w'
  exact ⟨hw'.next hlater hspares, hvalue w' hw'⟩

theorem maintains_of_spares {α : Type} {w : World} {p : EngineOp α}
    (h : Relates (manager.Spares message w.brain) p) :
    Yields (manager.Intact message w) p fun _ => True :=
  yields_of_spares h fun _ _ _ _ => trivial

end

/-- The contact of a message. -/
theorem yields_ingestContact {w : World}
    (hcontact : ∀ entry ∈ manager.entries w.brain .entities, entry.Foreign message →
      entry.id ≠ (contactInput message).entityId)
    (hfact : ∀ entry ∈ manager.entries w.brain .facts, entry.Foreign message →
      entry.id ≠ bodyFactId message) :
    Yields (manager.Intact message w) (manager.ingestContact message)
      (· = (contactInput message).entityId) := by
  have hrelation (kind fromId toId metadataJson : String) (confidence : Rat) :
      Yields (manager.Intact message w)
        (upsertRelation kind fromId toId metadataJson confidence false) fun _ => True :=
    maintains_of_spares (spares_upsertRelation _ _ _ _ _ _)
  refine (yields_of_spares (spares_upsertEntity hcontact) fun w' _ record hrecord =>
    (wp_upsertEntity _ w' record hrecord).1).bind fun contact hcontact => ?_
  refine (hrelation _ _ _ _ _).bind fun _ _ => (hrelation _ _ _ _ _).bind fun _ _ => ?_
  refine (maintains_of_spares (spares_upsertFact fun entry hentry hforeign => ?_)).bind
    fun _ _ => yields_pure hcontact
  have hother := hfact entry hentry hforeign
  rwa [hcontact]

/-- The artifacts and the environments. -/
theorem spares_ingestMentions {start : BrainTables} {contactId : String}
    (h : ∀ input ∈ mentionInputs message, ∀ entry ∈ manager.entries start .entities,
      entry.Foreign message → entry.id ≠ input.entityId) :
    Relates (manager.Spares message start) (manager.ingestMentions message contactId) := by
  have hclosed := closed_relates (manager.Spares message start)
  have hmention : ∀ input ∈ mentionInputs message, ∀ confidence,
      Relates (manager.Spares message start)
        (manager.ingestMention contactId (messageSourceRef message) confidence input) := by
    intro input hinput confidence
    refine hclosed.bind (spares_upsertEntity (h input hinput)) fun entity => ?_
    exact hclosed.bind (spares_upsertRelation _ _ _ _ _ _) fun _ => hclosed.pure _
  refine hclosed.bind (hclosed.collect_mem fun artifact hartifact => ?_) fun artifacts => ?_
  · exact hmention _ (List.mem_append_left _ (List.mem_map_of_mem hartifact)) _
  refine hclosed.bind (hclosed.collect_mem fun mention hmentioned => ?_) fun _ => hclosed.pure _
  exact hmention _ (List.mem_append_right _ (List.mem_map_of_mem hmentioned)) _

/-! ## The task of a message -/

omit [Externals] in
/-- The best entry is one of them. -/
theorem mem_of_bestScored {α : Type} {scored : List (α × Rat)} {best : α × Rat}
    (h : bestScored scored = some best) : best ∈ scored := by
  induction scored generalizing best with
  | nil => cases h
  | cons entry rest ih =>
      unfold bestScored at h
      cases hrest : bestScored rest with
      | none =>
          rw [hrest] at h
          cases h
          exact List.mem_cons_self
      | some other =>
          rw [hrest] at h
          dsimp only at h
          split at h
          · cases h
            exact List.mem_cons_self
          · cases h
            exact List.mem_cons_of_mem _ (ih hrest)

/-- The record of a task has the identifier and the scope of its entry. -/
theorem taskRecord_entry {row : TaskRow} {record : BrainTaskRecord}
    (h : manager.taskRecord row = .ok record) :
    record.id = row.taskId ∧ (manager.taskEntry row).scopeJson? = some record.scopeJson := by
  obtain ⟨values, hvalues, h⟩ := Table.ok_of_bind h
  split at h
  · cases h
    refine ⟨rfl, ?_⟩
    rw [Entry.scopeJson?, taskEntry, storedTexts, hvalues]
    rfl
  · cases h

/-- A similar task is one of the rows, in the scope. -/
theorem similarTask_some {summary scopeJson : String} {rows : List TaskRow}
    {task : BrainTaskRecord} (h : manager.similarTask summary scopeJson rows = some task) :
    ∃ row ∈ rows, manager.taskRecord row = .ok task ∧
      scopeMatches task.scopeJson scopeJson = true := by
  unfold similarTask at h
  split at h
  · cases h
  · rename_i tasks htasks
    obtain ⟨⟨best, score⟩, hbest, rfl⟩ := Option.map_eq_some_iff.mp h
    obtain ⟨other, hother, hscored⟩ := List.mem_filterMap.mp (mem_of_bestScored hbest)
    obtain ⟨hlisted, hscope⟩ := List.mem_filter.mp hother
    obtain ⟨row, hrow, hrecord⟩ := Table.mem_of_mapM_ok htasks hlisted
    dsimp only at hscored
    split at hscored
    · cases hscored
      have hlive := (List.mem_filter.mp hrow).1
      exact ⟨row, (List.mem_insertionSort _).mp (List.mem_of_mem_take hlive), hrecord, hscope⟩
    · cases hscored

/-- No other task has the identifier of a similar one. -/
theorem ne_similarTask {summary : String} {t : BrainTables} {task : BrainTaskRecord}
    (hkey : (t.tasks.map TaskRow.taskId).Nodup)
    (h : manager.similarTask summary (scopeForMessage message) t.tasks = some task) :
    ∀ entry ∈ manager.entries t .tasks, entry.Foreign message → entry.id ≠ task.id := by
  rintro entry hentry ⟨scopeJson, hscope, hforeign⟩ hid
  obtain ⟨row, hrow, hrecord, hmatches⟩ := similarTask_some h
  obtain ⟨other, hother, rfl⟩ := List.mem_map.mp hentry
  obtain ⟨htask, hentryScope⟩ := taskRecord_entry hrecord
  cases List.inj_on_of_nodup_map hkey hother hrow (hid.trans htask)
  cases hscope.symm.trans hentryScope
  rw [hmatches] at hforeign
  cases hforeign

/-- The task that the search finds: none where its statement is refused. -/
def foundTask (summary scopeJson : String) (w : World) : Option BrainTaskRecord :=
  if w.around.refuses w.around.statements then none
  else manager.similarTask summary scopeJson w.brain.tasks

/-- The search sends one statement and returns what it finds. -/
theorem wp_findSimilarTask (summary scopeJson : String) (w : World) :
    wp (manager.findSimilarTask summary scopeJson) (fun _ r w' =>
      r = .ok (manager.foundTask summary scopeJson w) ∧
        w' = { w with around := Stmt.sent w.around }) [] w := by
  have hlast (similar : Option BrainTaskRecord) (labels : List Event)
      (h : manager.foundTask summary scopeJson w = similar) :
      wp (pure similar : EngineOp (Option BrainTaskRecord)) (fun _ r w' =>
        r = .ok (manager.foundTask summary scopeJson w) ∧
          w' = { w with around := Stmt.sent w.around }) labels
        { w with around := Stmt.sent w.around } :=
    Op.wp_pure ⟨congrArg Except.ok h.symm, rfl⟩
  unfold findSimilarTask
  refine Op.wp_bind (EngineOp.wp_attempt (Op.wp_guarded ?_))
  rw [View.result_run, View.after_run, Stmt.result_bind, Stmt.result_select,
    Stmt.after_select_bind]
  by_cases hrefused : w.around.refuses w.around.statements = true
  · rw [if_pos hrefused, if_pos hrefused]
    exact hlast none [] (by rw [foundTask, if_pos hrefused])
  · rw [if_neg hrefused, if_neg hrefused]
    have hfound : manager.foundTask summary scopeJson w =
        manager.similarTask summary scopeJson w.brain.tasks := by rw [foundTask, if_neg hrefused]
    cases htasks : (newest TaskRow.updatedAt TaskRow.archived false w.brain.tasks).mapM
        manager.taskRecord with
    | error message =>
        simp only [View.brain, htasks]
        exact hlast _ [] (by rw [hfound, similarTask, htasks])
    | ok tasks =>
        simp only [View.brain, htasks]
        exact hlast _ [] (by rw [hfound, similarTask, htasks])

/-- It is the similar task, or the statement is refused. -/
theorem similar_of_found {summary scopeJson : String} {w : World}
    {similar : Option BrainTaskRecord}
    (h : ((manager.findSimilarTask summary scopeJson).eval w).1 = .ok similar) :
    similar = manager.similarTask summary scopeJson w.brain.tasks ∨
      similar = none ∧ w.around.refuses w.around.statements = true := by
  have hfound := Except.ok.inj (h.symm.trans (wp_findSimilarTask summary scopeJson w).1)
  rw [hfound, foundTask]
  split
  · rename_i hrefused
    exact Or.inr ⟨rfl, hrefused⟩
  · exact Or.inl rfl

theorem upsertOrMergeTask_eq {input : TaskUpsert} (h : input.taskId = none) :
    manager.upsertOrMergeTask input =
      manager.findSimilarTask input.summary input.scopeJson >>= fun similar =>
        manager.upsertTask { input with
          taskId := some ((similar.map BrainTaskRecord.id).getD
            (taskIdOf input.summary input.scopeJson)) } := by
  unfold upsertOrMergeTask
  rw [h]
  simp only [pure_bind]

/-- What comes after the search writes the task that it leads to. -/
theorem unaltered_upsertTask {start : BrainTables} {input : TaskUpsert} {taskId : String}
    (hid : input.taskId = some taskId)
    (h : ∀ entry ∈ manager.entries start .tasks, entry.Foreign message → entry.id ≠ taskId) :
    Relates (fun t t' => manager.Unaltered message start t → manager.Unaltered message start t')
      (manager.upsertTask input) := by
  refine manager.relates_upsertTask (fun _ => id) fun t new hnew => ?_
  rw [hid, Option.getD_some] at hnew
  refine unaltered_upsertOn TaskRow.taskId manager.taskEntry (fun _ => rfl) rfl rfl
    (fun other hne => ?_) fun entry hentry hforeign => hnew ▸ h entry hentry hforeign
  cases other with
  | tasks => exact absurd rfl hne
  | _ => rfl

/-- A task that is found or made is not that of an entry out of scope. -/
theorem ne_target {w : World} (hkey : (w.brain.tasks.map TaskRow.taskId).Nodup)
    (hseparate : ∀ key ∈ manager.taskKeys message w.brain.tasks,
      ∀ entry ∈ manager.entries w.brain key.1, entry.Foreign message → entry.id ≠ key.2)
    (hrefused : (∃ n, w.around.refuses n = true) → ∀ summary,
      extractTaskSummary message.body = some summary → ∀ entry ∈ manager.entries w.brain .tasks,
        entry.Foreign message → entry.id ≠ taskIdOf summary (scopeForMessage message))
    {summary : String} (hsummary : extractTaskSummary message.body = some summary)
    {similar : Option BrainTaskRecord}
    (h : similar = manager.similarTask summary (scopeForMessage message) w.brain.tasks ∨
      similar = none ∧ ∃ n, w.around.refuses n = true) :
    ∀ entry ∈ manager.entries w.brain .tasks, entry.Foreign message →
      entry.id ≠ (similar.map BrainTaskRecord.id).getD
        (taskIdOf summary (scopeForMessage message)) := by
  rcases h with h | ⟨rfl, hsome⟩
  · cases similar with
    | some task => exact ne_similarTask hkey h.symm
    | none =>
        refine hseparate (.tasks, taskIdOf summary (scopeForMessage message)) ?_
        rw [taskKeys, hsummary]
        simp only [← h, List.mem_singleton]
  · exact hrefused hsome summary hsummary

/-- The task that a message asks for, under an identifier. -/
def taskInput (message : MessageEnvelope) (summary : String) (dueAt : Option Instant)
    (linkedIds : List String) (taskId : Option String) : TaskUpsert where
  taskId := taskId
  title := preferredTitle summary summary
  summary := summary
  status := "open"
  priority := taskPriorityFromText message.body
  dueAt := dueAt
  scopeJson := scopeForMessage message
  linksJson := Externals.jsonText (.arr (linkedIds.map .str))
  salience := 21 / 25
  confidence := 22 / 25
  sourceRef := messageSourceRef message

/-- The upsert of the task and its relations. -/
def writeTask (manager : BrainManager) (message : MessageEnvelope) (contactId : String)
    (linkedIds : List String) (input : TaskUpsert) : EngineOp (List String) := do
  let task ← manager.upsertTask input
  let _ ← upsertRelation "assigned_to" task.id manager.ownerId
    (sourceRefJson (messageSourceRef message)) (43 / 50) false
  let _ ← upsertRelation "about" task.id contactId (sourceRefJson (messageSourceRef message))
    (39 / 50) false
  return linkedIds ++ [task.id]

/-- The search for a similar task, and the upsert of that one or a new one. -/
def mergeTask (manager : BrainManager) (message : MessageEnvelope) (contactId : String)
    (linkedIds : List String) (summary : String) (dueAt : Option Instant) :
    EngineOp (List String) := do
  let similar ← manager.findSimilarTask summary (scopeForMessage message)
  writeTask manager message contactId linkedIds (taskInput message summary dueAt linkedIds
    (some ((similar.map BrainTaskRecord.id).getD (taskIdOf summary (scopeForMessage message)))))

theorem ingestTask_some {summary contactId : String} {linkedIds : List String}
    (h : extractTaskSummary message.body = some summary) :
    manager.ingestTask message contactId (scopeForMessage message) (messageSourceRef message)
        linkedIds =
      parseDueAt message.body >>= manager.mergeTask message contactId linkedIds summary := by
  unfold ingestTask
  rw [h]
  refine congrArg (parseDueAt message.body >>= ·) (funext fun dueAt => ?_)
  rw [upsertOrMergeTask_eq rfl, bind_assoc]
  simp only [mergeTask, writeTask, taskInput]

/-- The entries out of scope are there. -/
def Kept (manager : BrainManager) (message : MessageEnvelope) (start : BrainTables) (w : World) :
    Prop :=
  manager.Unaltered message start w.brain

theorem leads_of_relates {α : Type} {start : BrainTables} {p : EngineOp α}
    (h : Relates (fun t t' =>
      manager.Unaltered message start t → manager.Unaltered message start t') p) :
    Leads (manager.Kept message start) (manager.Kept message start) p :=
  fun w hw => (h.eval (fun _ => id) (fun _ _ _ h h' hstart => h' (h hstart)) w).2 hw

theorem leads_writeTask {start : BrainTables} {contactId taskId : String}
    {linkedIds : List String} {input : TaskUpsert} (hid : input.taskId = some taskId)
    (h : ∀ entry ∈ manager.entries start .tasks, entry.Foreign message → entry.id ≠ taskId) :
    Leads (manager.Kept message start) (manager.Kept message start)
      (manager.writeTask message contactId linkedIds input) := by
  have hclosed := closed_relates fun t t' =>
    manager.Unaltered message start t → manager.Unaltered message start t'
  have hrelation (kind fromId toId metadataJson : String) (confidence : Rat) :
      Relates (fun t t' =>
          manager.Unaltered message start t → manager.Unaltered message start t')
        (upsertRelation kind fromId toId metadataJson confidence false) :=
    relates_upsertRelation (fun _ => id) fun _ _ _ => id
  refine leads_of_relates (hclosed.bind (unaltered_upsertTask hid h) fun task => ?_)
  exact hclosed.bind (hrelation _ _ _ _ _) fun _ => hclosed.bind (hrelation _ _ _ _ _) fun _ =>
    hclosed.pure _

/-- The search in a world that is intact. -/
theorem yields_findSimilarTask (w : World) (summary : String) :
    Yields (manager.Intact message w) (manager.findSimilarTask summary (scopeForMessage message))
      fun similar =>
        similar = manager.similarTask summary (scopeForMessage message) w.brain.tasks ∨
          similar = none ∧ ∃ n, w.around.refuses n = true := by
  refine yields_of_spares
    (manager.relates_findSimilarTask Spares.refl Spares.trans _ _) fun w' hw' similar hsimilar => ?_
  rcases similar_of_found hsimilar with hfound | ⟨hnone, hrefused⟩
  · exact Or.inl (hfound.trans (by rw [hw'.tasks]))
  · exact Or.inr ⟨hnone, _, hw'.later.refuses ▸ hrefused⟩

/-- The task of a message leaves the entries out of scope. -/
theorem leads_ingestTask {w : World} {contactId : String} {linkedIds : List String}
    (hkey : (w.brain.tasks.map TaskRow.taskId).Nodup)
    (hseparate : ∀ key ∈ manager.taskKeys message w.brain.tasks,
      ∀ entry ∈ manager.entries w.brain key.1, entry.Foreign message → entry.id ≠ key.2)
    (hrefused : (∃ n, w.around.refuses n = true) → ∀ summary,
      extractTaskSummary message.body = some summary → ∀ entry ∈ manager.entries w.brain .tasks,
        entry.Foreign message → entry.id ≠ taskIdOf summary (scopeForMessage message)) :
    Leads (manager.Intact message w) (manager.Kept message w.brain) (manager.ingestTask message
      contactId (scopeForMessage message) (messageSourceRef message) linkedIds) := by
  cases hsummary : extractTaskSummary message.body with
  | none =>
      unfold ingestTask
      rw [hsummary]
      exact fun _ => Intact.unaltered
  | some summary =>
      rw [ingestTask_some hsummary]
      have hdue := ((closed_relates (manager.Spares message w.brain)).parseDueAt
        (relates_now Spares.refl)) message.body
      refine (maintains_of_spares hdue).leads (fun _ => Intact.unaltered) fun dueAt _ => ?_
      refine (yields_findSimilarTask w summary).leads (fun _ => Intact.unaltered)
        fun similar hsimilar w' hw' => ?_
      exact leads_writeTask rfl (ne_target hkey hseparate hrefused hsummary hsimilar) w'
        hw'.unaltered

/-- Where no entry out of scope has an identifier that is written, all of them stay. -/
theorem leads_ingestMessage {w : World} (hkey : (w.brain.tasks.map TaskRow.taskId).Nodup)
    (hseparate : manager.Separate message w) :
    Leads (manager.Intact message w) (manager.Kept message w.brain)
      (manager.ingestMessage message) := by
  cases hingests : !manager.config.enabled || !manager.config.autoIngestMessages with
  | true =>
      rw [ingestMessage, if_pos hingests]
      exact fun _ => Intact.unaltered
  | false =>
      have hwritten := hseparate.written
      rw [writtenKeys, if_neg (Bool.eq_false_iff.mp hingests)] at hwritten
      simp only [List.cons_append, List.mem_cons, List.mem_append, forall_eq_or_imp] at hwritten
      obtain ⟨hcontact, hfact, hrest⟩ := hwritten
      have hmentions : ∀ input ∈ mentionInputs message,
          ∀ entry ∈ manager.entries w.brain .entities, entry.Foreign message →
            entry.id ≠ input.entityId := fun input hinput =>
        hrest (.entities, input.entityId) (Or.inl (List.mem_map_of_mem hinput))
      rw [ingestMessage, if_neg (Bool.eq_false_iff.mp hingests)]
      refine (yields_ingestContact hcontact hfact).leads (fun _ => Intact.unaltered)
        fun contactId _ => ?_
      refine (maintains_of_spares (spares_ingestMentions hmentions)).leads
        (fun _ => Intact.unaltered) fun mentioned _ => ?_
      refine (leads_ingestTask hkey (fun key htask => hrest key (Or.inr htask))
        hseparate.refused).bind fun linkedIds => leads_of_relates ?_
      exact relates_recordIngest (fun _ => id) (fun _ _ _ h h' hstart => h' (h hstart))
        (fun _ _ => id) _ _ _ _

/-! ## What is written is in the scope -/

/-- The scope of a message matches itself. -/
theorem scopeMatches_self (json : JsonLaws) (message : MessageEnvelope) :
    scopeMatches (scopeForMessage message) (scopeForMessage message) = true := by
  have htext : scopeForMessage message = Externals.jsonText (Json.texts
      [("channel_id", message.channelId), ("connector", message.connector),
        ("sender", message.sender)]) := rfl
  obtain ⟨found, hparse, hperm⟩ := json.read_texts [("channel_id", message.channelId),
    ("connector", message.connector), ("sender", message.sender)] (by simp)
  rw [← htext] at hparse
  have hnames : (found.map Prod.fst).Nodup := (hperm.map Prod.fst).nodup_iff.mpr (by simp)
  unfold scopeMatches
  split
  · rfl
  · simp only [hparse, Option.getD_some, Json.asObject?, List.all_eq_true]
    rintro ⟨name, value⟩ hmember
    have htexts := hperm.mem_iff.mp hmember
    simp only [List.map_cons, List.map_nil, List.mem_cons, Prod.mk.injEq, List.not_mem_nil,
      or_false] at htexts
    simp only [Json.get?_perm (List.Perm.refl found) hnames hmember]
    rcases htexts with ⟨-, rfl⟩ | ⟨-, rfl⟩ | ⟨-, rfl⟩ <;> simp [Json.same]

/-- The texts of a payload are read back. -/
theorem storedTexts_stores (json : JsonLaws) (laws : AeadLaws) {fields values : List String}
    {blobJson : String} (h : manager.Stores fields values blobJson) (hfields : fields.Nodup)
    (hlength : values.length = fields.length) :
    manager.storedTexts fields blobJson = fields.zip values := by
  obtain ⟨nonce, blob, hblob, rfl⟩ := h
  rw [storedTexts, decryptPayload_stored json laws hfields hlength hblob]

/-- The entries with one of the identifiers have the scope of the message. -/
def Claims (manager : BrainManager) (message : MessageEnvelope) (keys : List (BrainTable × String))
    (t : BrainTables) : Prop :=
  ∀ key ∈ keys, ∀ entry ∈ manager.entries t key.1, entry.id = key.2 →
    entry.scopeJson? = some (scopeForMessage message)

/-- An entry is in the scope of the message, or it was there under another identifier. -/
def Overwrites (manager : BrainManager) (message : MessageEnvelope) (key : BrainTable × String)
    (t t' : BrainTables) : Prop :=
  ∀ table, ∀ entry ∈ manager.entries t' table,
    entry.scopeJson? = some (scopeForMessage message) ∨
      (table, entry.id) ≠ key ∧ entry ∈ manager.entries t table

theorem Overwrites.claims {key : BrainTable × String} {t t' : BrainTables}
    (h : manager.Overwrites message key t t') {keys : List (BrainTable × String)}
    (hkeys : manager.Claims message keys t) : manager.Claims message (keys ++ [key]) t' := by
  intro other hother entry hentry hid
  rcases h other.1 entry hentry with hscope | ⟨hne, hbefore⟩
  · exact hscope
  · rcases List.mem_append.mp hother with hold | hnew
    · exact hkeys other hold entry hbefore hid
    · cases List.mem_singleton.mp hnew
      exact (hne (Prod.ext rfl hid)).elim

/-- An upsert in one table overwrites the entry with its identifier. -/
theorem overwrites_upsertOn {ρ : Type} {table : BrainTable} (key : ρ → String) (entryOf : ρ → Entry)
    (hid : ∀ row, (entryOf row).id = key row) {change : ρ → ρ} {new : ρ} {rows : List ρ}
    {t t' : BrainTables} (hrows : manager.entries t table = rows.map entryOf)
    (hrows' : manager.entries t' table = (Lib.Table.upsertOn key change new rows).map entryOf)
    (hother : ∀ other, other ≠ table → manager.entries t' other = manager.entries t other)
    (hnew : (entryOf new).scopeJson? = some (scopeForMessage message))
    (hchange : ∀ old, (entryOf (change old)).scopeJson? = some (scopeForMessage message))
    {id : String} (hkey : key new = id) : manager.Overwrites message (table, id) t t' := by
  subst hkey
  intro other entry hentry
  by_cases htable : other = table
  · subst htable
    rw [hrows'] at hentry
    rw [hrows]
    refine (Table.of_mem_map_upsertOn
      (P := fun entry => entry.scopeJson? = some (scopeForMessage message))
      hnew hchange hentry).imp_right ?_
    rintro ⟨row, hrow, hne, rfl⟩
    exact ⟨fun heq => hne ((hid row).symm.trans (congrArg Prod.snd heq)),
      List.mem_map_of_mem hrow⟩
  · rw [hother other htable] at hentry
    exact Or.inr ⟨fun heq => htable (congrArg Prod.fst heq), hentry⟩

theorem overwrites_upsertEntity (json : JsonLaws) (laws : AeadLaws) {input : EntityUpsert}
    (hscope : input.scopeJson = scopeForMessage message) {w : World} {record : BrainEntityRecord}
    (h : ((manager.upsertEntity input).eval w).1 = .ok record) :
    manager.Overwrites message (.entities, input.entityId) w.brain
      ((manager.upsertEntity input).eval w).2.brain := by
  obtain ⟨-, blobJson, now, hstores, hbrain⟩ := wp_upsertEntity input w record h
  have htexts := storedTexts_stores json laws hstores (by decide) rfl
  have hnew : ∀ row : EntityRow, row.encryptedBlobJson = blobJson →
      (manager.entityEntry row).scopeJson? = some (scopeForMessage message) := by
    intro row hrow
    rw [Entry.scopeJson?, entityEntry, hrow, htexts, ← hscope]
    rfl
  rw [hbrain]
  refine overwrites_upsertOn EntityRow.entityId manager.entityEntry (fun _ => rfl) rfl rfl
    (fun other hne => ?_) ?_ (fun old => ?_) rfl
  · cases other with
    | entities => exact absurd rfl hne
    | _ => rfl
  · exact hnew _ rfl
  · exact hnew _ rfl

theorem overwrites_upsertFact (json : JsonLaws) (laws : AeadLaws) {input : FactUpsert}
    (hscope : input.scopeJson = scopeForMessage message) {w : World} {record : BrainFactRecord}
    (h : ((manager.upsertFact input).eval w).1 = .ok record) :
    manager.Overwrites message (.facts, input.factId) w.brain
      ((manager.upsertFact input).eval w).2.brain := by
  obtain ⟨-, blobJson, now, hstores, hbrain⟩ := wp_upsertFact input w record h
  have htexts := storedTexts_stores json laws hstores (by decide) rfl
  have hnew : ∀ row : FactRow, row.encryptedBlobJson = blobJson →
      (manager.factEntry row).scopeJson? = some (scopeForMessage message) := by
    intro row hrow
    rw [Entry.scopeJson?, factEntry, hrow, htexts, ← hscope]
    rfl
  rw [hbrain]
  refine overwrites_upsertOn FactRow.factId manager.factEntry (fun _ => rfl) rfl rfl
    (fun other hne => ?_) ?_ (fun old => ?_) rfl
  · cases other with
    | facts => exact absurd rfl hne
    | _ => rfl
  · exact hnew _ rfl
  · exact hnew _ rfl

theorem overwrites_upsertTask (json : JsonLaws) (laws : AeadLaws) {input : TaskUpsert}
    {taskId : String} (hid : input.taskId = some taskId)
    (hscope : input.scopeJson = scopeForMessage message) {w : World} {record : BrainTaskRecord}
    (h : ((manager.upsertTask input).eval w).1 = .ok record) :
    manager.Overwrites message (.tasks, taskId) w.brain
      ((manager.upsertTask input).eval w).2.brain := by
  obtain ⟨hwritten, -⟩ := @wp_upsertTask _ manager _ _ hid w
  obtain ⟨-, blobJson, hstores, hbrain⟩ := hwritten record h
  have htexts := storedTexts_stores json laws hstores (by decide) rfl
  have hnew : ∀ row : TaskRow, row.encryptedBlobJson = blobJson →
      (manager.taskEntry row).scopeJson? = some (scopeForMessage message) := by
    intro row hrow
    rw [Entry.scopeJson?, taskEntry, hrow, htexts, ← hscope]
    rfl
  rw [hbrain]
  refine overwrites_upsertOn TaskRow.taskId manager.taskEntry (fun _ => rfl) rfl rfl
    (fun other hne => ?_) ?_ (fun old => ?_) rfl
  · cases other with
    | tasks => exact absurd rfl hne
    | _ => rfl
  · exact hnew _ rfl
  · exact hnew _ rfl

/-! ## Runs that return -/

/-- A run that returns adds claims to those before it. -/
def Adds {α : Type} (manager : BrainManager) (message : MessageEnvelope)
    (added : List (BrainTable × String)) (p : EngineOp α) (Q : α → Prop) : Prop :=
  ∀ keys w a, manager.Claims message keys w.brain → (Lib.Prog.eval p w).1 = .ok a →
    manager.Claims message (keys ++ added) (Lib.Prog.eval p w).2.brain ∧ Q a

section

variable {α β : Type} {Q : α → Prop}

theorem Adds.bind {R : β → Prop} {added more : List (BrainTable × String)} {p : EngineOp α}
    {f : α → EngineOp β} (hp : manager.Adds message added p Q)
    (hf : ∀ a, Q a → manager.Adds message more (f a) R) :
    manager.Adds message (added ++ more) (p >>= f : EngineOp β) R := by
  intro keys w b hkeys hb
  obtain ⟨a, ha, hb⟩ := Op.bind_ok.mp hb
  obtain ⟨hclaims, hQ⟩ := hp keys w a hkeys ha
  rw [Op.eval_bind_ok ha, ← List.append_assoc]
  exact hf a hQ _ _ b hclaims hb

theorem adds_pure {a : α} (h : Q a) : manager.Adds message [] (pure a : EngineOp α) Q := by
  intro keys w b hkeys hb
  cases hb
  rw [List.append_nil]
  exact ⟨hkeys, h⟩

theorem SameRows.entries {t t' : BrainTables} (h : SameRows t t') (table : BrainTable) :
    manager.entries t' table = manager.entries t table := by
  cases table with
  | entities => exact congrArg (List.map manager.entityEntry) h.entities
  | facts => exact congrArg (List.map manager.factEntry) h.facts
  | tasks => exact congrArg (List.map manager.taskEntry) h.tasks

theorem SameRows.claims {t t' : BrainTables} (h : SameRows t t')
    {keys : List (BrainTable × String)} (hkeys : manager.Claims message keys t) :
    manager.Claims message keys t' := by
  intro key hkey entry hentry
  rw [h.entries] at hentry
  exact hkeys key hkey entry hentry

theorem adds_of_same {p : EngineOp α} (h : Relates SameRows p) :
    manager.Adds message [] p fun _ => True := by
  intro keys w a hkeys _
  rw [List.append_nil]
  exact ⟨(h.eval SameRows.refl SameRows.trans w).2.claims hkeys, trivial⟩

theorem adds_collect {key : α → BrainTable × String} {f : α → EngineOp β} {as : List α}
    (hf : ∀ a ∈ as, manager.Adds message [key a] (f a) fun _ => True) :
    manager.Adds message (as.map key) (Op.collect f as) fun _ => True := by
  induction as with
  | nil => exact adds_pure trivial
  | cons a as ih =>
      have hrest := ih fun other hother => hf other (List.mem_cons_of_mem _ hother)
      have hall := (hf a List.mem_cons_self).bind fun b _ => hrest.bind fun bs _ =>
        adds_pure (a := b :: bs) (Q := fun _ => True) trivial
      rwa [List.append_nil] at hall

end

section

variable (json : JsonLaws) (laws : AeadLaws)

include json laws

theorem adds_upsertEntity {input : EntityUpsert}
    (hscope : input.scopeJson = scopeForMessage message) :
    manager.Adds message [(.entities, input.entityId)] (manager.upsertEntity input)
      (·.id = input.entityId) :=
  fun _ w record hkeys h => ⟨(overwrites_upsertEntity json laws hscope h).claims hkeys,
    (wp_upsertEntity input w record h).1⟩

theorem adds_upsertFact {input : FactUpsert}
    (hscope : input.scopeJson = scopeForMessage message) :
    manager.Adds message [(.facts, input.factId)] (manager.upsertFact input) fun _ => True :=
  fun _ _ _ hkeys h => ⟨(overwrites_upsertFact json laws hscope h).claims hkeys, trivial⟩

theorem adds_upsertTask {input : TaskUpsert} {taskId : String} (hid : input.taskId = some taskId)
    (hscope : input.scopeJson = scopeForMessage message) :
    manager.Adds message [(.tasks, taskId)] (manager.upsertTask input) fun _ => True :=
  fun _ _ _ hkeys h => ⟨(overwrites_upsertTask json laws hid hscope h).claims hkeys, trivial⟩

omit json laws in
theorem adds_upsertRelation (kind fromId toId metadataJson : String) (confidence : Rat)
    (archived : Bool) :
    manager.Adds message []
      (upsertRelation kind fromId toId metadataJson confidence archived) fun _ => True :=
  adds_of_same (relates_upsertRelation SameRows.refl fun _ _ _ => ⟨rfl, rfl, rfl⟩)

theorem adds_ingestContact :
    manager.Adds message [(.entities, (contactInput message).entityId),
      (.facts, bodyFactId message)] (manager.ingestContact message) fun _ => True := by
  refine (adds_upsertEntity json laws rfl).bind fun contact hcontact => ?_
  refine (adds_upsertRelation _ _ _ _ _ _).bind fun _ _ => ?_
  refine (adds_upsertRelation _ _ _ _ _ _).bind fun _ _ => ?_
  rw [bodyFactId, ← hcontact]
  exact (adds_upsertFact json laws rfl).bind fun _ _ => adds_pure trivial

theorem adds_ingestMentions (contactId : String) :
    manager.Adds message ((mentionInputs message).map fun input => (.entities, input.entityId))
      (manager.ingestMentions message contactId) fun _ => True := by
  have hmention (confidence : Rat) (input : EntityUpsert)
      (hscope : input.scopeJson = scopeForMessage message) :
      manager.Adds message [(.entities, input.entityId)]
        (manager.ingestMention contactId (messageSourceRef message) confidence input)
        fun _ => True :=
    (adds_upsertEntity json laws hscope).bind fun _ _ =>
      (adds_upsertRelation _ _ _ _ _ _).bind fun _ _ => adds_pure trivial
  rw [mentionInputs, List.map_append, List.map_map, List.map_map]
  refine (adds_collect fun artifact _ => hmention _ _ rfl).bind fun artifacts _ => ?_
  rw [← List.append_nil (List.map _ (extractEnvironmentMentions message.body))]
  exact (adds_collect fun mention _ => hmention _ _ rfl).bind fun _ _ => adds_pure trivial

theorem adds_writeTask {contactId taskId : String} {linkedIds : List String} {input : TaskUpsert}
    (hid : input.taskId = some taskId) (hscope : input.scopeJson = scopeForMessage message) :
    manager.Adds message [(.tasks, taskId)]
      (manager.writeTask message contactId linkedIds input) fun _ => True :=
  (adds_upsertTask json laws hid hscope).bind fun _ _ =>
    (adds_upsertRelation _ _ _ _ _ _).bind fun _ _ =>
      (adds_upsertRelation _ _ _ _ _ _).bind fun _ _ => adds_pure trivial

end

/-- Fewer claims. -/
theorem Claims.left {keys more : List (BrainTable × String)} {t : BrainTables}
    (h : manager.Claims message (keys ++ more) t) : manager.Claims message keys t :=
  fun key hkey => h key (List.mem_append_left _ hkey)

/-- Where the database refuses nothing the task that is written has the scope. -/
theorem claims_ingestTask (json : JsonLaws) (laws : AeadLaws) {contactId : String}
    {linkedIds found : List String} {keys : List (BrainTable × String)} {w : World}
    (haccepts : ∀ n, w.around.refuses n = false) (hkeys : manager.Claims message keys w.brain)
    (h : (Lib.Prog.eval (manager.ingestTask message contactId (scopeForMessage message)
      (messageSourceRef message) linkedIds) w).1 = .ok found) :
    manager.Claims message (keys ++ manager.taskKeys message w.brain.tasks)
      (Lib.Prog.eval (manager.ingestTask message contactId (scopeForMessage message)
        (messageSourceRef message) linkedIds) w).2.brain := by
  cases hsummary : extractTaskSummary message.body with
  | none =>
      rw [taskKeys, hsummary, List.append_nil, ingestTask, hsummary]
      exact hkeys
  | some summary =>
      rw [ingestTask_some hsummary] at h ⊢
      obtain ⟨dueAt, hdue, h⟩ := Op.bind_ok.mp h
      rw [Op.eval_bind_ok hdue]
      obtain ⟨hlater, hsame⟩ := ((closed_relates SameRows).parseDueAt
        (relates_now SameRows.refl) message.body).eval SameRows.refl SameRows.trans w
      unfold mergeTask at h ⊢
      obtain ⟨similar, hsimilar, h⟩ := Op.bind_ok.mp h
      rw [Op.eval_bind_ok hsimilar]
      have hsearched := (manager.relates_findSimilarTask SameRows.refl SameRows.trans summary
        (scopeForMessage message)).eval SameRows.refl SameRows.trans
          (Lib.Prog.eval (parseDueAt message.body) w).2
      have hwritten := (adds_writeTask json laws rfl rfl keys _ found
        (hsearched.2.claims (hsame.claims hkeys)) h).1
      rcases similar_of_found hsimilar with hfound | ⟨-, hrefused⟩
      · rw [hsame.tasks] at hfound
        rw [taskKeys, hsummary]
        simp only [← hfound]
        cases similar with
        | some task =>
            rw [List.append_nil]
            exact hwritten.left
        | none => exact hwritten
      · rw [hlater.refuses, haccepts] at hrefused
        cases hrefused

/-- The same tasks. -/
structure SameTasks (t t' : BrainTables) : Prop where
  tasks : t'.tasks = t.tasks

omit [Externals] in
theorem SameTasks.refl (t : BrainTables) : SameTasks t t := ⟨rfl⟩

omit [Externals] in
theorem SameTasks.trans (t t' t'' : BrainTables) (h : SameTasks t t') (h' : SameTasks t' t'') :
    SameTasks t t'' :=
  ⟨h'.tasks.trans h.tasks⟩

theorem sameTasks_upsertEntity (input : EntityUpsert) :
    Relates SameTasks (manager.upsertEntity input) :=
  manager.relates_upsertEntity SameTasks.refl fun _ _ _ => ⟨rfl⟩

theorem sameTasks_upsertRelation (kind fromId toId metadataJson : String) (confidence : Rat)
    (archived : Bool) :
    Relates SameTasks (upsertRelation kind fromId toId metadataJson confidence archived) :=
  relates_upsertRelation SameTasks.refl fun _ _ _ => ⟨rfl⟩

/-- The contact and the mentions leave the tasks. -/
theorem sameTasks_ingestContact (manager : BrainManager) (message : MessageEnvelope) :
    Relates SameTasks (manager.ingestContact message) := by
  have hclosed := closed_relates SameTasks
  refine hclosed.bind (sameTasks_upsertEntity _) fun _ => ?_
  refine hclosed.bind (sameTasks_upsertRelation _ _ _ _ _ _) fun _ => ?_
  refine hclosed.bind (sameTasks_upsertRelation _ _ _ _ _ _) fun _ => ?_
  exact hclosed.bind (manager.relates_upsertFact SameTasks.refl fun _ _ _ _ => ⟨rfl⟩) fun _ =>
    hclosed.pure _

theorem sameTasks_ingestMentions (manager : BrainManager) (message : MessageEnvelope)
    (contactId : String) : Relates SameTasks (manager.ingestMentions message contactId) := by
  have hclosed := closed_relates SameTasks
  have hmention (confidence : Rat) (input : EntityUpsert) : Relates SameTasks
      (manager.ingestMention contactId (messageSourceRef message) confidence input) :=
    hclosed.bind (sameTasks_upsertEntity _) fun _ =>
      hclosed.bind (sameTasks_upsertRelation _ _ _ _ _ _) fun _ => hclosed.pure _
  exact hclosed.bind (hclosed.collect (fun _ => hmention _ _) _) fun _ =>
    hclosed.bind (hclosed.collect (fun _ => hmention _ _) _) fun _ => hclosed.pure _

/-- What a run of `ingest_message` writes that returns. -/
theorem claims_ingestMessage (json : JsonLaws) (laws : AeadLaws) {w : World}
    (haccepts : ∀ n, w.around.refuses n = false)
    (h : ((manager.ingestMessage message).eval w).1 = .ok ()) :
    manager.Claims message (manager.writtenKeys message w.brain)
      ((manager.ingestMessage message).eval w).2.brain := by
  cases hingests : !manager.config.enabled || !manager.config.autoIngestMessages with
  | true =>
      rw [writtenKeys, if_pos hingests]
      exact fun _ hkey => absurd hkey List.not_mem_nil
  | false =>
      rw [writtenKeys, if_neg (Bool.eq_false_iff.mp hingests)]
      rw [ingestMessage, if_neg (Bool.eq_false_iff.mp hingests)] at h ⊢
      obtain ⟨contactId, hcontact, h⟩ := Op.bind_ok.mp h
      rw [Op.eval_bind_ok hcontact]
      obtain ⟨mentioned, hmentioned, h⟩ := Op.bind_ok.mp h
      rw [Op.eval_bind_ok hmentioned]
      obtain ⟨linkedIds, htask, h⟩ := Op.bind_ok.mp h
      rw [Op.eval_bind_ok htask]
      have hfirst := (manager.sameTasks_ingestContact message).eval SameTasks.refl
        SameTasks.trans w
      have hsecond := (manager.sameTasks_ingestMentions message contactId).eval SameTasks.refl
        SameTasks.trans (Lib.Prog.eval (manager.ingestContact message) w).2
      have hclaims := (adds_ingestContact json laws [] w contactId
        (fun _ hkey => absurd hkey List.not_mem_nil) hcontact).1
      have hclaims := (adds_ingestMentions json laws contactId _ _ mentioned hclaims hmentioned).1
      have haccepts' : ∀ n, (Lib.Prog.eval (manager.ingestMentions message contactId)
          (Lib.Prog.eval (manager.ingestContact message) w).2).2.around.refuses n = false := by
        intro n
        rw [hsecond.1.refuses, hfirst.1.refuses, haccepts]
      have hclaims := claims_ingestTask json laws haccepts' hclaims htask
      rw [hsecond.2.tasks, hfirst.2.tasks] at hclaims
      have hrecord := relates_recordIngest SameRows.refl SameRows.trans
        (fun _ _ => ⟨rfl, rfl, rfl⟩) (messageSourceRef message) "message"
        (fingerprint message.body)
        (Externals.jsonText (.obj [("linked_ids", .arr (linkedIds.map .str))]))
      exact (hrecord.eval SameRows.refl SameRows.trans _).2.claims hclaims

end BrainManager

/-- `ingest_message` leaves every entity, fact and task out of the scope of the message as it
is where none of them has an identifier that is written, and in a run that returns, with a
database that refuses nothing, only there. -/
theorem ingestMessage_unaltered {manager : BrainManager} {message : MessageEnvelope} {w : World}
    (hkey : (w.brain.tasks.map TaskRow.taskId).Nodup) :
    (manager.Separate message w →
        manager.Unaltered message w.brain ((manager.ingestMessage message).eval w).2.brain) ∧
      (JsonLaws → AeadLaws → (∀ n, w.around.refuses n = false) →
        ((manager.ingestMessage message).eval w).1 = .ok () →
          (manager.Unaltered message w.brain ((manager.ingestMessage message).eval w).2.brain ↔
            manager.Separate message w)) := by
  have hspared : manager.Separate message w →
      manager.Unaltered message w.brain ((manager.ingestMessage message).eval w).2.brain :=
    fun hseparate => BrainManager.leads_ingestMessage hkey hseparate w
      ⟨fun _ _ h _ => h, rfl, Stmt.Later.refl _⟩
  refine ⟨hspared, fun json laws haccepts hok => ⟨fun hunaltered => ?_, hspared⟩⟩
  refine ⟨fun key hwritten entry hentry hforeign hid => ?_, fun ⟨n, hn⟩ => ?_⟩
  · have hafter := hunaltered key.1 entry hentry hforeign
    have hclaimed := BrainManager.claims_ingestMessage json laws haccepts hok key hwritten entry
      hafter hid
    obtain ⟨scopeJson, hscope, hmatches⟩ := hforeign
    cases hscope.symm.trans hclaimed
    rw [BrainManager.scopeMatches_self json] at hmatches
    cases hmatches
  · rw [haccepts] at hn
    cases hn

end

/-! ## A message in another channel -/

section

variable [Externals]

/-- The scope in the texts of an entity. -/
theorem scopeJson?_entityEntry {manager : BrainManager} {row : EntityRow}
    {texts : List (String × String)}
    (h : manager.storedTexts BrainManager.entityFields row.encryptedBlobJson = texts) :
    (manager.entityEntry row).scopeJson? = texts.lookup "scope_json" := by
  rw [Entry.scopeJson?, BrainManager.entityEntry, h]

/-- The identifier of a contact has a separator. -/
theorem separator_mem_contactId (message : MessageEnvelope) :
    ':' ∈ (BrainManager.contactInput message).entityId.toList := by
  have htext (connector digest : String) :
      ':' ∈ (s!"person:contact:{connector}:{digest}").toList := by
    simp [toString]
  exact htext message.connector (promptHash message.sender)

/-- So has that of a body. -/
theorem separator_mem_bodyFactId (message : MessageEnvelope) :
    ':' ∈ (BrainManager.bodyFactId message).toList := by
  have htext (contactId digest : String) : ':' ∈ (s!"fact:{contactId}:{digest}").toList := by
    simp [toString]
  exact htext _ (promptHash (BrainManager.messageSourceRef message))

end

/-- A message in channel 1. -/
def greetingMessage : MessageEnvelope := ⟨"t", "1", "7", "hi", "{}"⟩

/-- The identifier of its sender as a contact. -/
def greetingContactId : String :=
  (@BrainManager.contactInput jsonExternals greetingMessage).entityId

/-- The sender was seen in channel 2. -/
def seenWorld : World :=
  { contactWorld (channelScope "2") with
    brain := ⟨[{ contactRow (channelScope "2") with entityId := greetingContactId }], [], [], [],
      []⟩ }

/-- What is stored of the contact. -/
theorem storedTexts_contact (scopeJson : String) :
    @BrainManager.storedTexts jsonExternals plainBrain BrainManager.entityFields
      (contactRow scopeJson).encryptedBlobJson =
        BrainManager.entityFields.zip ["alice", "seen", scopeJson, "[]", "message"] := by
  have hpayload : @BrainManager.decryptPayload jsonExternals plainBrain BrainManager.entityFields
      (contactRow scopeJson).encryptedBlobJson =
        .ok ["alice", "seen", scopeJson, "[]", "message"] :=
    decryptPayload_storedPlain rfl (by decide) rfl
  unfold BrainManager.storedTexts
  rw [hpayload]

/-- The contact in channel 2 as an entry. -/
theorem foreign_contact (id : String) :
    @Entry.Foreign jsonExternals greetingMessage (@BrainManager.entityEntry jsonExternals plainBrain
      { contactRow (channelScope "2") with entityId := id }) := by
  have hlookup (scopeJson : String) : (BrainManager.entityFields.zip
      ["alice", "seen", scopeJson, "[]", "message"]).lookup "scope_json" = some scopeJson := by
    simp [BrainManager.entityFields, List.lookup_cons]
  have hstored := @scopeJson?_entityEntry jsonExternals plainBrain
    { contactRow (channelScope "2") with entityId := id } _ (storedTexts_contact (channelScope "2"))
  exact ⟨channelScope "2", hstored.trans (hlookup _), by decide +kernel⟩

/-- The identifiers of the greeting have separators. -/
theorem separator_mem_greetingKey {t : BrainTables} {key : BrainTable × String}
    (h : key ∈ @BrainManager.writtenKeys jsonExternals plainBrain greetingMessage t) :
    ':' ∈ key.2.toList := by
  have hartifacts : extractArtifacts greetingMessage.body = [] := by decide
  have hmentions : extractEnvironmentMentions greetingMessage.body = [] := by decide
  have htask : extractTaskSummary greetingMessage.body = none := by decide
  unfold BrainManager.writtenKeys BrainManager.mentionInputs BrainManager.taskKeys at h
  rw [hartifacts, hmentions, htask, if_neg (by decide)] at h
  simp only [List.map_nil, List.append_nil, List.mem_cons, List.not_mem_nil, or_false] at h
  rcases h with rfl | rfl
  · exact @separator_mem_contactId jsonExternals greetingMessage
  · exact @separator_mem_bodyFactId jsonExternals greetingMessage

/-- Where the contacts of channel 2 have other identifiers, the message leaves them. -/
theorem ingestMessage_unaltered_contact :
    @BrainManager.Unaltered jsonExternals plainBrain greetingMessage
      (contactWorld (channelScope "2")).brain
      ((@BrainManager.ingestMessage jsonExternals plainBrain greetingMessage).eval
        (contactWorld (channelScope "2"))).2.brain := by
  refine (@ingestMessage_unaltered jsonExternals plainBrain greetingMessage
    (contactWorld (channelScope "2")) List.nodup_nil).1
      (@BrainManager.Separate.mk jsonExternals _ _ _ ?_ ?_)
  · rintro ⟨table, id⟩ hkey entry hentry - rfl
    have hseparator := separator_mem_greetingKey hkey
    cases table with
    | entities =>
        cases List.mem_singleton.mp hentry
        exact absurd hseparator (by decide)
    | facts =>
        cases List.mem_singleton.mp hentry
        exact absurd hseparator (by decide)
    | tasks => cases hentry
  · rintro ⟨n, hn⟩
    cases hn

/-- The greeting writes its sender as a contact. -/
theorem greetingContactId_mem (t : BrainTables) : (BrainTable.entities, greetingContactId) ∈
    @BrainManager.writtenKeys jsonExternals plainBrain greetingMessage t := by
  unfold BrainManager.writtenKeys
  rw [if_neg (by decide)]
  exact List.mem_cons_self

/-- A contact that was seen in channel 2 is overwritten in channel 1. -/
theorem ingestMessage_unaltered_fails :
    ¬ ∀ [Externals] (manager : BrainManager) (message : MessageEnvelope) (w : World),
      (w.brain.tasks.map TaskRow.taskId).Nodup →
        manager.Unaltered message w.brain ((manager.ingestMessage message).eval w).2.brain := by
  intro h
  have hok : ((@BrainManager.ingestMessage jsonExternals plainBrain greetingMessage).eval
      seenWorld).1 = .ok () := by
    decide +kernel
  have hforeign := foreign_contact greetingContactId
  have hafter := @h jsonExternals plainBrain greetingMessage seenWorld List.nodup_nil .entities _
    (List.mem_singleton.mpr rfl) hforeign
  have hclaims := @BrainManager.claims_ingestMessage jsonExternals plainBrain greetingMessage
    json_laws json_aeadLaws seenWorld (fun _ => rfl) hok
  have hscope := hclaims (.entities, greetingContactId) (greetingContactId_mem _) _ hafter rfl
  obtain ⟨scopeJson, hstored, hmatches⟩ := hforeign
  cases hstored.symm.trans hscope
  rw [@BrainManager.scopeMatches_self jsonExternals json_laws] at hmatches
  cases hmatches

end OpenPinch
