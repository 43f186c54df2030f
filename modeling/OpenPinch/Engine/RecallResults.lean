import OpenPinch.Engine.BrainForgotten
import OpenPinch.Engine.Retention

/-!
# What a recall returns

A recall that answers has read the tables that retention leaves and the search
index, and `Recollection.Of` says what it has read.  From there its answer is
well formed: no list is too long or has an identifier twice, nothing archived is
returned unless the query asks for it, facts and tasks are in the scope, and each
relation ends at something that was selected.
-/

namespace OpenPinch

open Lib (Op Table.descending Table.perm_descending Table.mem_of_mapM_ok Table.map_of_mapM_ok
  Table.ok_of_bind Table.map_updateWhere)
open Lib.Op (Returns returns_pure returns_of_fact)
open Lib.Selection (prefix_foldl_insertNew mem_of_mem_foldl_insertNew length_foldl_insertNew
  nodup_foldl_insertNew nodup_filterMap_find)

section

variable [Externals]

/-! ## What is read -/

/-- The recollection is of these tables and this search index. -/
structure Recollection.Of (read : Recollection) (manager : BrainManager)
    (query : BrainRecallQuery) (t : BrainTables) (rows : List VectorMemoryRow) : Prop where
  entities : (BrainManager.newest EntityRow.updatedAt EntityRow.archived query.includeArchived
    t.entities).mapM manager.entityRecord = .ok read.entities
  facts : (BrainManager.newest FactRow.updatedAt FactRow.archived query.includeArchived
    t.facts).mapM manager.factRecord = .ok read.facts
  tasks : (BrainManager.newest TaskRow.updatedAt TaskRow.archived false
    t.tasks).mapM manager.taskRecord = .ok read.tasks
  relations : read.relations = (BrainManager.newest RelationRow.updatedAt RelationRow.archived
    query.includeArchived t.relations).map BrainManager.relationRecord
  entityHits : manager.hits "brain-entities" query.query (max query.limit 1 * 3) rows =
    .ok read.entityHits
  factHits : manager.hits "brain-facts" query.query (max query.limit 1 * 3) rows =
    .ok read.factHits
  taskHits : manager.hits "brain-tasks" query.query (max query.limit 1 * 3) rows =
    .ok read.taskHits

namespace BrainManager

variable (manager : BrainManager) (query : BrainRecallQuery)

/-- The world has these tables and this search index. -/
def Has (t : BrainTables) (rows : List VectorMemoryRow) (w : World) : Prop :=
  w.brain = t ∧ w.vectorMemory = rows

variable {t : BrainTables} {rows : List VectorMemoryRow}

omit [Externals] in
/-- An error or a value as a statement. -/
theorem ofExcept_ok {τ α : Type} {r : Except String α} {s : Surroundings × τ} {a : α}
    (h : Lib.Op.result (Stmt.ofExcept r) s = .ok a) : r = .ok a := by
  cases r with
  | ok b => exact congrArg Except.ok (Except.ok.inj h)
  | error message => cases h

omit [Externals] in
/-- A list that returns is that of the records of the tables. -/
theorem returns_list {ρ β : Type} (f : BrainTables → List ρ) (g : List ρ → Except String β) :
    Returns (Has t rows) (EngineOp.guarded .brain do
      let found ← Stmt.select f
      Stmt.ofExcept (g found)) fun b w => Has t rows w ∧ g (f t) = .ok b := by
  have hreads : (Stmt.select f >>= fun found => Stmt.ofExcept (g found)).Respects Eq :=
    Stmt.respects_bind (R := Eq) (fun _ _ _ => Eq.trans) (Stmt.respects_select (fun _ => rfl) f)
      fun found => Stmt.respects_ofExcept (fun _ => rfl) (g found)
  rintro w b ⟨rfl, rfl⟩ hb
  refine EngineOp.returns_guarded (Q := fun b w' => Has w.brain w.vectorMemory w' ∧
    g (f w.brain) = .ok b) (fun b hb => ⟨⟨?_, rfl⟩, ?_⟩) w b rfl hb
  · exact (hreads (w.around, w.brain)).symm
  · obtain ⟨found, hfound, hb⟩ := Stmt.result_bind_ok hb
    cases Stmt.select_ok hfound
    exact ofExcept_ok hb

/-- The hits of a search that returns. -/
theorem returns_queryProjectionHits (nameSpace text : String) (limit : Nat) :
    Returns (Has t rows) (manager.queryProjectionHits nameSpace text limit) fun keys w =>
      Has t rows w ∧ manager.hits nameSpace text limit rows = .ok keys := by
  refine Returns.bind (Q := fun records w => Has t rows w ∧
    manager.hits nameSpace text limit rows = .ok (records.map MemoryRecord.key)) ?_
    fun records => returns_pure fun w hw => hw
  rintro w records ⟨rfl, rfl⟩ hrecords
  refine EngineOp.returns_guarded (Q := fun records w' => Has w.brain w.vectorMemory w' ∧
    manager.hits nameSpace text limit w.vectorMemory = .ok (records.map MemoryRecord.key))
    (fun records hrecords => ⟨⟨rfl, ?_⟩, ?_⟩) w records rfl hrecords
  · refine (Stmt.respects_bind (R := Eq) (fun _ _ _ => Eq.trans)
      (Stmt.respects_select (fun _ => rfl) _) (fun found => ?_)
      (w.around, View.vectorMemory.get w)).symm
    exact Stmt.respects_bind (R := Eq) (fun _ _ _ => Eq.trans)
      (Stmt.respects_ofExcept (fun _ => rfl) _)
      fun found => Stmt.respects_pure (fun _ => rfl) _
  · obtain ⟨found, hfound, hrecords⟩ := Stmt.result_bind_ok hrecords
    cases Stmt.select_ok hfound
    obtain ⟨all, hall, hrecords⟩ := Stmt.result_bind_ok hrecords
    cases hrecords
    rw [hits, show w.vectorMemory = View.vectorMemory.get w from rfl, ofExcept_ok hall]
    rfl

/-- What a recall reads. -/
theorem readRecall_of {w : World} {read : Recollection}
    (h : ((manager.readRecall query).eval w).1 = .ok read) :
    read.Of manager query (manager.retained w.around w.brain) w.vectorMemory := by
  have hany {α : Type} {p : EngineOp α} (hp : ∀ w, (p.eval w).2 = w) :
      Returns (· = w) p fun _ => (· = w) := by
    rintro _ a rfl -
    exact hp _
  refine Returns.bind (P := (· = w)) (R := fun read _ => read.Of manager query
    (manager.retained w.around w.brain) w.vectorMemory) (hany fun w => ?_) (fun _ => ?_)
    w read rfl h
  · unfold requireEnabled
    split <;> rfl
  refine (manager.returns_applyRetention w).bind fun _ => ?_
  refine (returns_list _ _).bind fun entities => returns_of_fact fun hentities => ?_
  refine (returns_list _ _).bind fun facts => returns_of_fact fun hfacts => ?_
  refine (returns_list _ _).bind fun tasks => returns_of_fact fun htasks => ?_
  refine (returns_list _ fun found => .ok (found.map relationRecord)).bind fun relations =>
    returns_of_fact fun hrelations => ?_
  refine (manager.returns_queryProjectionHits _ _ _).bind fun entityHits =>
    returns_of_fact fun hentityHits => ?_
  refine (manager.returns_queryProjectionHits _ _ _).bind fun factHits =>
    returns_of_fact fun hfactHits => ?_
  refine (manager.returns_queryProjectionHits _ _ _).bind fun taskHits =>
    returns_of_fact fun htaskHits => returns_pure fun _ _ => ?_
  exact ⟨hentities, hfacts, htasks, (Except.ok.inj hrelations).symm, hentityHits, hfactHits,
    htaskHits⟩

/-! ## Keys -/

/-- The newest rows have different keys. -/
theorem nodup_newest {ρ : Type} {updatedAt : ρ → Instant} {archived : ρ → Bool}
    {includeArchived : Bool} {key : ρ → String} {found : List ρ} (h : (found.map key).Nodup) :
    ((newest updatedAt archived includeArchived found).map key).Nodup := by
  have hall : ((Table.descending (fun row => stamp (updatedAt row)) found).map key).Nodup :=
    ((Table.perm_descending _ found).map key).nodup_iff.mpr h
  exact hall.sublist ((List.filter_sublist.trans (List.take_sublist _ _)).map key)

/-- The key of a record of the search index. -/
theorem memoryRecord_key {encryption : EncryptionManager} {queryFingerprint : String}
    {row : VectorMemoryRow} {record : MemoryRecord}
    (h : StateStore.memoryRecord encryption queryFingerprint row = .ok record) :
    record.key = row.key := by
  unfold StateStore.memoryRecord at h
  cases hblob : EncryptedBlob.ofJson? row.encryptedBlobJson with
  | none =>
      rw [hblob] at h
      cases h
  | some blob =>
      rw [hblob] at h
      obtain ⟨content, -, h⟩ := Table.ok_of_bind h
      cases h
      rfl

/-- The hits of a search have different keys. -/
theorem nodup_hits {nameSpace text : String} {limit : Nat} {keys : List String}
    (hrows : (rows.map VectorMemoryRow.address).Nodup)
    (h : manager.hits nameSpace text limit rows = .ok keys) : keys.Nodup := by
  obtain ⟨records, hrecords, h⟩ := Table.ok_of_bind h
  cases h
  have hnames : ((rows.filter (·.nameSpace == nameSpace)).map VectorMemoryRow.key).Nodup := by
    have haddresses := hrows.sublist
      ((List.filter_sublist (p := (·.nameSpace == nameSpace))).map VectorMemoryRow.address)
    refine List.Nodup.of_map (fun key => (nameSpace, key)) ?_
    rw [List.map_map]
    refine (congrArg List.Nodup (List.map_congr_left fun row hrow => ?_)).mpr haddresses
    have hname : row.nameSpace = nameSpace := by simpa using (List.mem_filter.mp hrow).2
    exact Prod.ext hname.symm rfl
  have hkeys : (records.map MemoryRecord.key).Nodup := by
    rw [Table.map_of_mapM_ok (fun row record => memoryRecord_key) hrecords]
    exact (((Table.perm_descending _ _).map _).nodup_iff.mpr hnames).sublist
      ((List.take_sublist _ _).map _)
  exact (((Table.perm_descending _ records).map _).nodup_iff.mpr hkeys).sublist
    ((List.take_sublist _ _).map _)

/-- Retention keeps the keys. -/
theorem keyed_retained (around : Surroundings) {t : BrainTables} (h : t.Keyed) :
    (manager.retained around t).Keyed where
  entities := by
    refine (congrArg List.Nodup (Table.map_updateWhere (fun row => ?_) t.entities)).mpr h.entities
    rfl
  facts := by
    refine (congrArg List.Nodup (Table.map_updateWhere (fun row => ?_) t.facts)).mpr h.facts
    rfl
  relations := h.relations
  tasks := by
    refine (congrArg List.Nodup (Table.map_updateWhere (fun row => ?_) t.tasks)).mpr h.tasks
    rfl

end BrainManager

/-! ## Answers -/

/-- An identifier whose relations are in the answer: that of a hit on an entity in the scope,
of the owner of a fact, of a task or of what a task links. -/
def BrainRecallResult.Selects (answer : BrainRecallResult) (query : BrainRecallQuery)
    (hits : List String) (id : String) : Prop :=
  (id ∈ hits ∧ ∃ entity ∈ answer.entities, entity.id = id ∧
      scopeMatches entity.scopeJson query.scopeJson = true) ∨
    (∃ fact ∈ answer.facts, fact.entityId = id) ∨
      ∃ task ∈ answer.tasks, task.id = id ∨ id ∈ parseLinkIds task.linksJson

/-- What an answer from these tables and these hits on entities is like. -/
structure BrainRecallResult.WellFormed (answer : BrainRecallResult) (manager : BrainManager)
    (query : BrainRecallQuery) (t : BrainTables) (hits : List String) : Prop where
  entities_le : answer.entities.length ≤ max query.limit 1
  facts_le : answer.facts.length ≤ max query.limit 1
  tasks_le : answer.tasks.length ≤ max query.limit 1
  relations_le : answer.relations.length ≤ 2 * max query.limit 1
  entities_nodup : (answer.entities.map BrainEntityRecord.id).Nodup
  facts_nodup : (answer.facts.map BrainFactRecord.id).Nodup
  tasks_nodup : (answer.tasks.map BrainTaskRecord.id).Nodup
  relations_nodup : (answer.relations.map BrainRelationRecord.id).Nodup
  entities_live : query.includeArchived = false → ∀ entity ∈ answer.entities,
    ∃ row ∈ t.entities, row.archived = false ∧ manager.entityRecord row = .ok entity
  facts_live : query.includeArchived = false → ∀ fact ∈ answer.facts,
    ∃ row ∈ t.facts, row.archived = false ∧ manager.factRecord row = .ok fact
  tasks_live : ∀ task ∈ answer.tasks,
    ∃ row ∈ t.tasks, row.archived = false ∧ manager.taskRecord row = .ok task
  relations_live : query.includeArchived = false → ∀ relation ∈ answer.relations,
    ∃ row ∈ t.relations, row.archived = false ∧ BrainManager.relationRecord row = relation
  facts_inScope : ∀ fact ∈ answer.facts, scopeMatches fact.scopeJson query.scopeJson = true
  tasks_inScope : ∀ task ∈ answer.tasks, scopeMatches task.scopeJson query.scopeJson = true
  touched : ∀ relation ∈ answer.relations, answer.Selects query hits relation.fromId ∨
    answer.Selects query hits relation.toId

namespace Recollection

variable (read : Recollection) (query : BrainRecallQuery)

omit [Externals] in
theorem factAt_id {id : String} {fact : BrainFactRecord} (h : read.factAt id = some fact) :
    fact.id = id := by
  simpa using List.find?_some h

omit [Externals] in
theorem taskAt_id {id : String} {task : BrainTaskRecord} (h : read.taskAt id = some task) :
    task.id = id := by
  simpa using List.find?_some h

/-- An identifier that is selected. -/
theorem selects_of_mem {id : String} (h : id ∈ read.selectedIds query) :
    (read.result query).Selects query read.entityHits id := by
  rw [result_eq]
  rcases List.mem_append.mp h with hpicked | htask
  · rcases List.mem_append.mp hpicked with hid | hid
    · obtain ⟨entity, hentity, rfl⟩ := List.mem_map.mp hid
      obtain ⟨hhit, hscope⟩ := List.mem_filter.mp (List.mem_of_mem_take hentity)
      obtain ⟨key, hkey, hat⟩ := List.mem_filterMap.mp hhit
      refine Or.inl ⟨entityAt_id hat ▸ hkey, entity, ?_, rfl, hscope⟩
      exact (prefix_foldl_insertNew _ _).subset hentity
    · obtain ⟨fact, hfact, rfl⟩ := List.mem_map.mp hid
      exact Or.inr (Or.inl ⟨fact, hfact, rfl⟩)
  · obtain ⟨task, htask, hid⟩ := List.mem_flatMap.mp htask
    refine Or.inr (Or.inr ⟨task, htask, ?_⟩)
    exact (List.mem_cons.mp hid).imp Eq.symm (fun hlink => hlink)

/-- An answer from keyed tables and different hits is well formed. -/
theorem Of.wellFormed {read : Recollection} {query : BrainRecallQuery} {manager : BrainManager}
    {t : BrainTables} {rows : List VectorMemoryRow} (h : read.Of manager query t rows)
    (hkeys : t.Keyed) (hindex : (rows.map VectorMemoryRow.address).Nodup) :
    (read.result query).WellFormed manager query t read.entityHits := by
  have hentityHits := BrainManager.nodup_hits manager hindex h.entityHits
  have hpicked : ((read.pickedEntities query).map BrainEntityRecord.id).Nodup :=
    (nodup_filterMap_find (fun _ _ => entityAt_id) hentityHits).sublist
      (((List.take_sublist _ _).trans List.filter_sublist).map _)
  have hlength : (read.pickedEntities query).length ≤ max query.limit 1 :=
    List.length_take_le _ _
  have hselects : ∀ id ∈ read.selectedIds query,
      (read.result query).Selects query read.entityHits id := fun _ => read.selects_of_mem query
  rw [result_eq] at hselects ⊢
  refine
    { entities_le := ?_
      facts_le := List.length_take_le _ _
      tasks_le := List.length_take_le _ _
      relations_le := (List.length_take_le _ _).trans (Nat.mul_comm _ _).le
      entities_nodup := nodup_foldl_insertNew hpicked _
      facts_nodup := ?_
      tasks_nodup := ?_
      relations_nodup := ?_
      entities_live := fun hlive entity hentity => ?_
      facts_live := fun hlive fact hfact => ?_
      tasks_live := fun task htask => ?_
      relations_live := fun hlive relation hrelation => ?_
      facts_inScope := fun fact hfact => (List.mem_filter.mp (List.mem_of_mem_take hfact)).2
      tasks_inScope := fun task htask => (List.mem_filter.mp (List.mem_of_mem_take htask)).2
      touched := fun relation hrelation => ?_ }
  · exact (length_foldl_insertNew hlength _).trans_le (Nat.min_le_left _ _)
  · exact (nodup_filterMap_find (fun _ _ => read.factAt_id)
      (BrainManager.nodup_hits manager hindex h.factHits)).sublist
        (((List.take_sublist _ _).trans List.filter_sublist).map _)
  · exact (nodup_filterMap_find (fun _ _ => read.taskAt_id)
      (BrainManager.nodup_hits manager hindex h.taskHits)).sublist
        (((List.take_sublist _ _).trans List.filter_sublist).map _)
  · have hnewest : (read.relations.map BrainRelationRecord.id).Nodup := by
      rw [h.relations, List.map_map]
      exact BrainManager.nodup_newest hkeys.relations
    exact hnewest.sublist (((List.take_sublist _ _).trans List.filter_sublist).map _)
  · have hread : entity ∈ read.entities := by
      rcases mem_of_mem_foldl_insertNew hentity with hpicked | hcandidate
      · exact mem_of_picked hpicked
      · exact mem_of_entityAt (read.entityAt_candidate query hcandidate)
    obtain ⟨row, hrow, hrecord⟩ := Table.mem_of_mapM_ok h.entities hread
    rw [hlive] at hrow
    obtain ⟨hrow, harchived⟩ := BrainManager.mem_newest hrow
    exact ⟨row, hrow, harchived, hrecord⟩
  · obtain ⟨row, hrow, hrecord⟩ := Table.mem_of_mapM_ok h.facts (mem_of_pickedFact hfact)
    rw [hlive] at hrow
    obtain ⟨hrow, harchived⟩ := BrainManager.mem_newest hrow
    exact ⟨row, hrow, harchived, hrecord⟩
  · obtain ⟨row, hrow, hrecord⟩ := Table.mem_of_mapM_ok h.tasks (mem_of_pickedTask htask)
    obtain ⟨hrow, harchived⟩ := BrainManager.mem_newest hrow
    exact ⟨row, hrow, harchived, hrecord⟩
  · have hread := (List.mem_filter.mp (List.mem_of_mem_take hrelation)).1
    rw [h.relations, hlive] at hread
    obtain ⟨row, hrow, hrecord⟩ := List.mem_map.mp hread
    obtain ⟨hrow, harchived⟩ := BrainManager.mem_newest hrow
    exact ⟨row, hrow, harchived, hrecord⟩
  · have htouched := (List.mem_filter.mp (List.mem_of_mem_take hrelation)).2
    simp only [Bool.or_eq_true, List.contains_iff_mem] at htouched
    exact htouched.imp (hselects _) (hselects _)

end Recollection

/-- Every answer of a recall is well formed. -/
theorem recall_wellFormed {manager : BrainManager} {query : BrainRecallQuery} {w : World}
    {answer : BrainRecallResult} (hkeys : w.brain.Keyed)
    (hindex : (w.vectorMemory.map VectorMemoryRow.address).Nodup)
    (h : ((manager.recall query).eval w).1 = .ok answer) :
    ∃ hits, manager.hits "brain-entities" query.query (max query.limit 1 * 3) w.vectorMemory =
        .ok hits ∧
      answer.WellFormed manager query (manager.retained w.around w.brain) hits := by
  obtain ⟨read, hread, rfl⟩ := (manager.recall_ok query).mp h
  have hof := manager.readRecall_of query hread
  exact ⟨read.entityHits, hof.entityHits, hof.wellFormed (manager.keyed_retained _ hkeys) hindex⟩

end

/-! ## A contact and a task about it -/

/-- The task, with what it links. -/
def linkedTaskRow : TaskRow :=
  { aboutTaskRow false with
    encryptedBlobJson := storedPlain BrainManager.taskFields
      ["call", "call alice", channelScope "1", "[\"contact\"]", "message"] }

/-- The record of the row. -/
def linkedTaskRecord : BrainTaskRecord where
  id := "task"
  title := "call"
  summary := "call alice"
  status := "open"
  priority := "normal"
  dueAt := none
  scopeJson := channelScope "1"
  linksJson := "[\"contact\"]"
  salience := 1
  confidence := 1
  archived := false
  createdAt := 0
  updatedAt := 0

/-- The contact and what it wrote, the task, and what is archived or about others. -/
def linkedWorld : World :=
  { contactWorld (channelScope "1") with
    brain :=
      ⟨[contactRow (channelScope "1"),
          { contactRow (channelScope "1") with entityId := "former", archived := true }],
        [contactFactRow (channelScope "1"),
          { contactFactRow (channelScope "1") with factId := "retracted", archived := true }],
        [aboutRelationRow, { aboutRelationRow with relationId := "ended", archived := true },
          { aboutRelationRow with
            relationId := "others", fromEntityId := "bob", toEntityId := "eve" }],
        [linkedTaskRow, { linkedTaskRow with taskId := "done", archived := true }], []⟩
    vectorMemory := [contactFactProjection,
      { contactFactProjection with nameSpace := "brain-entities", key := "contact" },
      { contactFactProjection with nameSpace := "brain-tasks", key := "task" }] }

/-- What a recall reads there. -/
def linkedRecollection : Recollection where
  entities := [contactRecord (channelScope "1")]
  facts := [contactFactRecord (channelScope "1")]
  tasks := [linkedTaskRecord]
  relations := [BrainManager.relationRecord aboutRelationRow,
    BrainManager.relationRecord { aboutRelationRow with
      relationId := "others", fromEntityId := "bob", toEntityId := "eve" }]
  entityHits := ["contact"]
  factHits := ["fact"]
  taskHits := ["task"]

theorem taskRecord_linked :
    @BrainManager.taskRecord jsonExternals plainBrain linkedTaskRow = .ok linkedTaskRecord := by
  have hpayload : @BrainManager.decryptPayload jsonExternals plainBrain BrainManager.taskFields
      linkedTaskRow.encryptedBlobJson =
        .ok ["call", "call alice", channelScope "1", "[\"contact\"]", "message"] :=
    decryptPayload_storedPlain rfl (by decide) rfl
  unfold BrainManager.taskRecord
  rw [hpayload]
  rfl

theorem keyed_linked : linkedWorld.brain.Keyed where
  entities := by decide
  facts := by decide
  relations := by decide
  tasks := by decide

theorem lasting_linked : @BrainManager.Lasting jsonExternals linkedWorld.brain := by
  have hsalient : ¬ (1 : Rat) < 7 / 20 ∧ ¬ (1 : Rat) < 2⁻¹ := by decide +kernel
  have hentities : ∀ row ∈ linkedWorld.brain.entities, row.salience = 1 := by decide +kernel
  have hfacts : ∀ row ∈ linkedWorld.brain.facts, row.salience = 1 := by decide +kernel
  have htasks : ∀ row ∈ linkedWorld.brain.tasks, row.salience = 1 := by decide +kernel
  refine @BrainManager.Lasting.mk jsonExternals _ (fun cutoff now => ?_) (fun cutoff now => ?_)
    fun cutoff now => ?_
  · exact Lib.Table.updateWhere_of_none fun row hrow => by simp [hentities row hrow, hsalient]
  · exact Lib.Table.updateWhere_of_none fun row hrow => by simp [hfacts row hrow, hsalient]
  · exact Lib.Table.updateWhere_of_none fun row hrow => by simp [htasks row hrow, hsalient]

theorem hits_linked (nameSpace : String)
    (h : nameSpace ∈ ["brain-entities", "brain-facts", "brain-tasks"]) :
    @BrainManager.hits jsonExternals plainBrain nameSpace "hi" 9 linkedWorld.vectorMemory =
      .ok (if nameSpace = "brain-facts" then ["fact"]
        else if nameSpace = "brain-tasks" then ["task"] else ["contact"]) := by
  revert nameSpace
  decide +kernel

theorem readRecall_linked :
    ((@BrainManager.readRecall jsonExternals plainBrain channelQuery).eval linkedWorld).1 =
      .ok linkedRecollection := by
  have hcutoff : shift (countingSurroundings.clock countingSurroundings.ticks)
      (-2592000000000000) = some (-2592000000000000) := by
    decide
  have htasks : [linkedTaskRow].mapM (@BrainManager.taskRecord jsonExternals plainBrain) =
      .ok [linkedTaskRecord] := by
    rw [List.mapM_cons, taskRecord_linked]
    rfl
  exact @BrainManager.readRecall_ok jsonExternals plainBrain channelQuery linkedWorld _ _
    linkedRecollection rfl (fun _ => rfl) lasting_linked retention_contact hcutoff
    (entityRecords_contact _) (factRecords_contact _) htasks rfl (hits_linked _ (by simp))
    (hits_linked _ (by simp)) (hits_linked _ (by simp))

/-- A recall finds the contact, the fact, the task and the relation between them. -/
theorem linked_result :
    let answer := @Recollection.result jsonExternals linkedRecollection channelQuery
    (answer.entities.map BrainEntityRecord.id, answer.facts.map BrainFactRecord.id,
      answer.tasks.map BrainTaskRecord.id, answer.relations.map BrainRelationRecord.id) =
        (["contact"], ["fact"], ["task"], ["relation"]) := by
  rw [@Recollection.result_eq jsonExternals]
  decide +kernel

theorem recall_wellFormed_linked :
    ∃ answer hits,
      (answer.entities.map BrainEntityRecord.id, answer.facts.map BrainFactRecord.id,
        answer.tasks.map BrainTaskRecord.id, answer.relations.map BrainRelationRecord.id) =
          (["contact"], ["fact"], ["task"], ["relation"]) ∧
      @BrainRecallResult.WellFormed jsonExternals answer plainBrain channelQuery
        (@BrainManager.retained jsonExternals plainBrain countingSurroundings
          linkedWorld.brain) hits := by
  have hrecall := (@BrainManager.recall_ok jsonExternals plainBrain channelQuery _ _).mpr
    ⟨_, readRecall_linked, rfl⟩
  obtain ⟨hits, -, hwellFormed⟩ := @recall_wellFormed jsonExternals plainBrain channelQuery _ _
    keyed_linked (by decide) hrecall
  exact ⟨_, hits, linked_result, hwellFormed⟩

end OpenPinch
