import OpenPinch.Common.JsonText
import OpenPinch.Engine.BrainForget
import OpenPinch.Engine.BrainPayload
import OpenPinch.Lib.Selection

/-!
# What a recall selects

`recall` reads four lists and three searches and selects from what it has read.
`Recollection` is what it reads, and `found_eq` says what the loops select from it:
hits in the scope of the query, and then owners of facts and ends of relations,
for which the scope is not asked.  `Recollection.Confined` says when that shows.
-/

namespace OpenPinch

open Lib (Op wp Table.descending Table.updateWhere_of_none)
open Lib.Selection (Passes insertNew within wherever foldl_within foldl_wherever
  forall_foldl_insertNew)
open BrainManager (Recalled recallHits)

/-- What a recall reads: the records and the keys of the hits. -/
structure Recollection where
  entities : List BrainEntityRecord
  facts : List BrainFactRecord
  tasks : List BrainTaskRecord
  relations : List BrainRelationRecord
  entityHits : List String
  factHits : List String
  taskHits : List String

namespace Recollection

/-! ## What is read -/

variable (read : Recollection)

/-- The last record with this identifier. -/
def entityAt (id : String) : Option BrainEntityRecord := read.entities.reverse.find? (·.id == id)

def factAt (id : String) : Option BrainFactRecord := read.facts.reverse.find? (·.id == id)

def taskAt (id : String) : Option BrainTaskRecord := read.tasks.reverse.find? (·.id == id)

theorem entityAt_id {read : Recollection} {id : String} {entity : BrainEntityRecord}
    (h : read.entityAt id = some entity) : entity.id = id := by
  have := List.find?_some h
  simpa using this

end Recollection

/-! ## Hits and ends -/

namespace BrainManager.Recalled

variable (limit : Nat)

theorem addEntity_eq (found : Recalled) (entity : Option BrainEntityRecord) :
    found.addEntity limit entity =
      { found with
        entities := entity.toList.foldl (insertNew BrainEntityRecord.id limit)
          found.entities } := by
  cases entity with
  | none => rfl
  | some entity =>
      show (if _ then _ else _) = _
      simp only [Option.toList_some, List.foldl_cons, List.foldl_nil, insertNew]
      split <;> rfl

/-- A hit on an entity. -/
def withEntity (found : Recalled) (entity : BrainEntityRecord) : Recalled :=
  { found with
    entities := found.entities ++ [entity]
    selectedIds := found.selectedIds ++ [entity.id] }

/-- A hit on a fact, with its owner. -/
def withFact (entityAt : String → Option BrainEntityRecord) (found : Recalled)
    (fact : BrainFactRecord) : Recalled :=
  addEntity limit
    { found with
      facts := found.facts ++ [fact]
      selectedIds := found.selectedIds ++ [fact.entityId] } (entityAt fact.entityId)

/-- The ends of a relation. -/
def withEnds (entityAt : String → Option BrainEntityRecord) (found : Recalled)
    (relation : BrainRelationRecord) : Recalled :=
  addEntity limit (addEntity limit found (entityAt relation.fromId)) (entityAt relation.toId)

theorem foldl_withEntity (entities : List BrainEntityRecord) (found : Recalled) :
    entities.foldl withEntity found =
      { found with
        entities := found.entities ++ entities
        selectedIds := found.selectedIds ++ entities.map BrainEntityRecord.id } := by
  induction entities generalizing found with
  | nil => simp
  | cons entity entities ih => simp [ih, withEntity]

theorem foldl_withFact (entityAt : String → Option BrainEntityRecord)
    (facts : List BrainFactRecord) (found : Recalled) :
    facts.foldl (withFact limit entityAt) found =
      { found with
        entities := (facts.flatMap fun fact => (entityAt fact.entityId).toList).foldl
          (insertNew BrainEntityRecord.id limit) found.entities
        facts := found.facts ++ facts
        selectedIds := found.selectedIds ++ facts.map BrainFactRecord.entityId } := by
  induction facts generalizing found with
  | nil => simp
  | cons fact facts ih => simp [ih, withFact, addEntity_eq]

theorem foldl_withEnds (entityAt : String → Option BrainEntityRecord)
    (relations : List BrainRelationRecord) (found : Recalled) :
    relations.foldl (withEnds limit entityAt) found =
      { found with
        entities := (relations.flatMap fun relation =>
            (entityAt relation.fromId).toList ++ (entityAt relation.toId).toList).foldl
          (insertNew BrainEntityRecord.id limit) found.entities } := by
  induction relations generalizing found with
  | nil => simp
  | cons relation relations ih => simp [ih, withEnds, addEntity_eq]

end BrainManager.Recalled

section

variable [Externals]

namespace BrainManager.Recalled

/-- A hit on a task, with what it links. -/
def withTask (found : Recalled) (task : BrainTaskRecord) : Recalled :=
  { found with
    tasks := found.tasks ++ [task]
    selectedIds := found.selectedIds ++ task.id :: parseLinkIds task.linksJson }

theorem foldl_withTask (tasks : List BrainTaskRecord) (found : Recalled) :
    tasks.foldl withTask found =
      { found with
        tasks := found.tasks ++ tasks
        selectedIds := found.selectedIds ++
          tasks.flatMap fun task => task.id :: parseLinkIds task.linksJson } := by
  induction tasks generalizing found with
  | nil => simp
  | cons task tasks ih => simp [ih, withTask]

end BrainManager.Recalled

namespace Recollection

variable (read : Recollection) (query : BrainRecallQuery)

/-! ## What is selected -/

/-- The hits in scope, up to the limit. -/
def pickedEntities : List BrainEntityRecord :=
  ((read.entityHits.filterMap read.entityAt).filter
    fun entity => scopeMatches entity.scopeJson query.scopeJson).take (max query.limit 1)

def pickedFacts : List BrainFactRecord :=
  ((read.factHits.filterMap read.factAt).filter
    fun fact => scopeMatches fact.scopeJson query.scopeJson).take (max query.limit 1)

def pickedTasks : List BrainTaskRecord :=
  ((read.taskHits.filterMap read.taskAt).filter
    fun task => scopeMatches task.scopeJson query.scopeJson).take (max query.limit 1)

/-- The identifiers whose relations are followed. -/
def selectedIds : List String :=
  (read.pickedEntities query).map BrainEntityRecord.id ++
    (read.pickedFacts query).map BrainFactRecord.entityId ++
    (read.pickedTasks query).flatMap fun task => task.id :: parseLinkIds task.linksJson

/-- The relations of a selected identifier. -/
def touched : List BrainRelationRecord :=
  read.relations.filter fun relation => (read.selectedIds query).contains relation.fromId ||
    (read.selectedIds query).contains relation.toId

/-- The owners of the facts and the ends of the relations, in the order in which
they are added. -/
def candidates : List BrainEntityRecord :=
  (read.pickedFacts query).flatMap (fun fact => (read.entityAt fact.entityId).toList) ++
    (read.touched query).flatMap fun relation =>
      (read.entityAt relation.fromId).toList ++ (read.entityAt relation.toId).toList

/-- What `recallHits` selects from it. -/
def found : Recalled :=
  recallHits query (max query.limit 1) read.entities read.facts read.tasks read.relations
    read.entityHits read.factHits read.taskHits

/-- What `recall` answers. -/
def result : BrainRecallResult :=
  let found := read.found query
  let matched := read.relations.filter fun relation =>
    found.selectedIds.contains relation.fromId || found.selectedIds.contains relation.toId
  { summary := buildRecallSummary found.entities found.facts found.tasks
    entities := found.entities
    facts := found.facts
    relations := matched.take (max query.limit 1 * 2)
    tasks := found.tasks }

end Recollection

namespace Recollection

variable (read : Recollection) (query : BrainRecallQuery)

/-- What the loops select. -/
theorem found_eq :
    read.found query =
      { entities := (read.candidates query).foldl
          (insertNew BrainEntityRecord.id (max query.limit 1))
          (read.pickedEntities query)
        facts := read.pickedFacts query
        tasks := read.pickedTasks query
        selectedIds := read.selectedIds query } := by
  have hloops : read.found query =
      read.relations.foldl (wherever Recalled.selectedIds
          (fun ids relation => ids.contains relation.fromId || ids.contains relation.toId)
          (Recalled.withEnds (max query.limit 1) read.entityAt))
        (read.taskHits.foldl (within (max query.limit 1) read.taskAt
            (fun task => scopeMatches task.scopeJson query.scopeJson)
            (fun found => found.tasks.length) Recalled.withTask)
          (read.factHits.foldl (within (max query.limit 1) read.factAt
              (fun fact => scopeMatches fact.scopeJson query.scopeJson)
              (fun found => found.facts.length)
              (Recalled.withFact (max query.limit 1) read.entityAt))
            (read.entityHits.foldl (within (max query.limit 1) read.entityAt
              (fun entity => scopeMatches entity.scopeJson query.scopeJson)
              (fun found => found.entities.length) Recalled.withEntity) ⟨[], [], [], []⟩))) := by
    unfold found recallHits
    dsimp only
    congr 1
    congr 1
    · funext found key
      unfold within taskAt
      cases read.tasks.reverse.find? (·.id == key) <;> rfl
    congr 1
    · funext found key
      unfold within factAt
      cases read.facts.reverse.find? (·.id == key) <;> rfl
    congr 1
    funext found key
    unfold within entityAt
    cases read.entities.reverse.find? (·.id == key) <;> rfl
  rw [hloops,
    foldl_within (fun found : Recalled => found.entities.length) Recalled.withEntity
      fun _ _ => by simp [Recalled.withEntity],
    Recalled.foldl_withEntity,
    foldl_within (fun found : Recalled => found.facts.length) (Recalled.withFact _ _)
      fun _ _ => by simp [Recalled.withFact, Recalled.addEntity_eq],
    Recalled.foldl_withFact,
    foldl_within (fun found : Recalled => found.tasks.length) Recalled.withTask
      fun _ _ => by simp [Recalled.withTask],
    Recalled.foldl_withTask,
    foldl_wherever Recalled.selectedIds (Recalled.withEnds _ _)
      fun _ _ => by simp [Recalled.withEnds, Recalled.addEntity_eq],
    Recalled.foldl_withEnds]
  simp [candidates, touched, selectedIds, pickedEntities, pickedFacts, pickedTasks]

/-- What `recall` answers, by what was read. -/
theorem result_eq :
    read.result query =
      let entities := (read.candidates query).foldl
        (insertNew BrainEntityRecord.id (max query.limit 1)) (read.pickedEntities query)
      { summary := buildRecallSummary entities (read.pickedFacts query) (read.pickedTasks query)
        entities
        facts := read.pickedFacts query
        relations := (read.touched query).take (max query.limit 1 * 2)
        tasks := read.pickedTasks query } := by
  unfold result
  rw [found_eq]
  rfl

/-! ## Scopes -/

/-- Among the owners and ends none is out of scope, or the selection is full before
the first that is. -/
def Confined : Prop :=
  Passes BrainEntityRecord.id (max query.limit 1)
    (fun entity => scopeMatches entity.scopeJson query.scopeJson) (read.pickedEntities query)
    (read.candidates query)

instance : Decidable (read.Confined query) := inferInstanceAs (Decidable (Passes _ _ _ _ _))

theorem entityAt_picked {entity : BrainEntityRecord} (h : entity ∈ read.pickedEntities query) :
    read.entityAt entity.id = some entity ∧
      scopeMatches entity.scopeJson query.scopeJson = true := by
  obtain ⟨hfound, hscope⟩ := List.mem_filter.mp (List.mem_of_mem_take h)
  obtain ⟨key, -, hkey⟩ := List.mem_filterMap.mp hfound
  exact ⟨entityAt_id hkey ▸ hkey, hscope⟩

theorem entityAt_candidate {entity : BrainEntityRecord} (h : entity ∈ read.candidates query) :
    read.entityAt entity.id = some entity := by
  have hat : ∀ {id : String}, entity ∈ (read.entityAt id).toList →
      read.entityAt entity.id = some entity := by
    intro id hid
    have hid := Option.mem_toList.mp hid
    exact entityAt_id hid ▸ hid
  rcases List.mem_append.mp h with howner | hend
  · obtain ⟨fact, -, hfact⟩ := List.mem_flatMap.mp howner
    exact hat hfact
  · obtain ⟨relation, -, hrelation⟩ := List.mem_flatMap.mp hend
    exact (List.mem_append.mp hrelation).elim hat hat

end Recollection

/-- Each record is in the scope. -/
structure BrainRecallResult.InScope (result : BrainRecallResult) (scopeJson : String) : Prop where
  entities : ∀ entity ∈ result.entities, scopeMatches entity.scopeJson scopeJson = true
  facts : ∀ fact ∈ result.facts, scopeMatches fact.scopeJson scopeJson = true
  tasks : ∀ task ∈ result.tasks, scopeMatches task.scopeJson scopeJson = true

namespace Recollection

variable (read : Recollection) (query : BrainRecallQuery)

/-- Facts and tasks are in scope, and entities when what is read is confined. -/
theorem inScope_result :
    (read.result query).InScope query.scopeJson ↔ read.Confined query := by
  have hlength : (read.pickedEntities query).length ≤ max query.limit 1 :=
    List.length_take_le _ _
  have hiff : (∀ entity ∈ (read.candidates query).foldl
      (insertNew BrainEntityRecord.id (max query.limit 1)) (read.pickedEntities query),
        scopeMatches entity.scopeJson query.scopeJson = true) ↔ read.Confined query :=
    forall_foldl_insertNew read.entityAt
      (fun entity => scopeMatches entity.scopeJson query.scopeJson) hlength
      (fun entity hentity => (read.entityAt_picked query hentity).1)
      (fun entity hentity => (read.entityAt_picked query hentity).2)
      (fun entity hentity => read.entityAt_candidate query hentity)
  have hfacts : ∀ fact ∈ read.pickedFacts query,
      scopeMatches fact.scopeJson query.scopeJson = true := by
    intro fact hfact
    exact (List.mem_filter.mp (List.mem_of_mem_take hfact)).2
  have htasks : ∀ task ∈ read.pickedTasks query,
      scopeMatches task.scopeJson query.scopeJson = true := by
    intro task htask
    exact (List.mem_filter.mp (List.mem_of_mem_take htask)).2
  rw [result_eq]
  constructor
  · intro h
    exact hiff.mp h.entities
  · intro h
    exact ⟨hiff.mpr h, hfacts, htasks⟩

end Recollection

/-! ## Recall -/

namespace BrainManager

variable (manager : BrainManager) (query : BrainRecallQuery)

/-- The reading part of `recall`. -/
def readRecall : EngineOp Recollection := do
  manager.requireEnabled
  manager.applyRetention
  let limit := max query.limit 1
  let entities ← manager.listEntities query.includeArchived
  let facts ← manager.listFacts query.includeArchived
  let tasks ← manager.listTasks false
  let relations ← listRelations query.includeArchived
  let entityHits ← manager.queryProjectionHits "brain-entities" query.query (limit * 3)
  let factHits ← manager.queryProjectionHits "brain-facts" query.query (limit * 3)
  let taskHits ← manager.queryProjectionHits "brain-tasks" query.query (limit * 3)
  return ⟨entities, facts, tasks, relations, entityHits, factHits, taskHits⟩

theorem recall_eq : manager.recall query =
    manager.readRecall query >>= fun read => pure (read.result query) := by
  simp only [«recall», readRecall, bind_assoc, pure_bind]
  rfl

/-- A recall that answers has read what it answers from. -/
theorem recall_ok {w : World} {result : BrainRecallResult} :
    ((manager.recall query).eval w).1 = .ok result ↔
      ∃ read, ((manager.readRecall query).eval w).1 = .ok read ∧ result = read.result query := by
  have hpure (read : Recollection) (w : World) :
      (Lib.Prog.eval (pure (read.result query) : EngineOp BrainRecallResult) w).1 = .ok result ↔
        result = read.result query :=
    ⟨fun h => (Except.ok.inj h).symm, fun h => congrArg Except.ok h.symm⟩
  rw [recall_eq, Lib.Op.bind_ok]
  simp only [hpure]

/-- What a recall reads in this world is confined. -/
def Confines (w : World) : Prop :=
  ∀ read, ((manager.readRecall query).eval w).1 = .ok read → read.Confined query

end BrainManager

/-! ## Reading -/

namespace BrainManager

variable (manager : BrainManager)

omit [Externals] in
theorem wp_requireEnabled {post : List Event → Except Fault Unit → World → Prop}
    {labels : List Event} {w : World} (henabled : manager.config.enabled = true)
    (h : post labels (.ok ()) w) : wp manager.requireEnabled post labels w := by
  unfold requireEnabled
  rw [henabled]
  exact Op.wp_pure h

/-- A later world with the same records, in which the database refuses nothing. -/
structure Still (w w' : World) : Prop where
  brain : w'.brain = w.brain
  vectorMemory : w'.vectorMemory = w.vectorMemory
  accepts : ∀ n, w'.around.refuses n = false

/-- No row decays, whatever the time. -/
structure Lasting (t : BrainTables) : Prop where
  entities : ∀ cutoff now, decayEntities cutoff now t.entities = t.entities
  facts : ∀ cutoff now, decayFacts cutoff now t.facts = t.facts
  tasks : ∀ cutoff now, decayTasks cutoff now t.tasks = t.tasks

/-- The surroundings after a look at the clock and a statement. -/
def later (around : Surroundings) : Surroundings :=
  Stmt.sent { around with ticks := around.ticks + 1 }

omit [Externals] in
/-- An update at the time of the clock that changes nothing. -/
theorem run_unchanged {f : Instant → BrainTables → BrainTables} {around : Surroundings}
    {t : BrainTables} (haccepted : around.refuses around.statements = false)
    (hf : ∀ now, f now t = t) :
    (Stmt.now >>= fun now => Stmt.execute (f now)) (around, t) = .ok () (later around, t) := by
  refine (Stmt.run_bind rfl).trans ((Stmt.run_execute haccepted).trans ?_)
  rw [hf]
  rfl

omit [Externals] in
theorem run_unchanged_bind {β : Type} {f : Instant → BrainTables → BrainTables}
    {m : Stmt BrainTables β} {around : Surroundings} {t : BrainTables}
    (haccepted : around.refuses around.statements = false) (hf : ∀ now, f now t = t) :
    (Stmt.now >>= fun now => Stmt.execute (f now) >>= fun _ => m) (around, t) =
      m (later around, t) := by
  refine (Stmt.run_bind rfl).trans ((Stmt.run_bind (Stmt.run_execute haccepted)).trans ?_)
  rw [hf]
  rfl

/-- Retention where the database refuses nothing and no row decays. -/
theorem wp_applyRetention {post : List Event → Except Fault Unit → World → Prop}
    {labels : List Event} {w : World} {age : Int} {cutoff : Instant}
    (haccepts : ∀ n, w.around.refuses n = false) (hlasting : Lasting w.brain)
    (hage : secondsDuration (manager.config.archiveDecayDays * 86400) = some age)
    (hcutoff : shift (w.around.clock w.around.ticks) (-age) = some cutoff)
    (h : ∀ labels w', Still w w' → post labels (.ok ()) w') :
    wp manager.applyRetention post labels w := by
  unfold applyRetention
  refine Op.wp_bind (EngineOp.wp_now (Op.andThen_ok ?_))
  rw [hage]
  refine Op.wp_bind (Op.wp_pure (Op.andThen_ok ?_))
  rw [hcutoff]
  refine Op.wp_bind (Op.wp_pure (Op.andThen_ok ?_))
  have hentities (now : Instant) :
      { w.brain with entities := decayEntities cutoff now w.brain.entities } = w.brain := by
    rw [hlasting.entities]
  have hfacts (now : Instant) :
      { w.brain with facts := decayFacts cutoff now w.brain.facts } = w.brain := by
    rw [hlasting.facts]
  have htasks (now : Instant) :
      { w.brain with tasks := decayTasks cutoff now w.brain.tasks } = w.brain := by
    rw [hlasting.tasks]
  refine EngineOp.wp_guarded ((run_unchanged_bind ?_ hentities).trans <|
    (run_unchanged_bind ?_ hfacts).trans <| run_unchanged ?_ htasks)
    (h _ _ ⟨rfl, rfl, ?_⟩)
  · exact haccepts _
  · exact haccepts _
  · exact haccepts _
  · exact haccepts

/-- The keys of the hits among these rows. -/
def hits (nameSpace query : String) (limit : Nat) (rows : List VectorMemoryRow) :
    Except String (List String) := do
  let records ← ((Table.descending (fun row => stamp row.createdAt)
    (rows.filter (·.nameSpace == nameSpace))).take 256).mapM
      (StateStore.memoryRecord manager.encryption (fingerprint query))
  return ((Table.descending MemoryRecord.score records).take (max (max limit 1) 1)).map
    MemoryRecord.key

omit [Externals] in
/-- A list of records. -/
theorem wp_selection {α γ : Type} {f : BrainTables → γ} {m : γ → Except String α} {a : α}
    {post : List Event → Except Fault α → World → Prop} {labels : List Event} {w w' : World}
    (hstill : Still w w') (hm : m (f w.brain) = .ok a)
    (h : ∀ labels w'', Still w w'' → post labels (.ok a) w'') :
    wp (EngineOp.guarded .brain (Stmt.select f >>= fun rows => Stmt.ofExcept (m rows))) post
      labels w' := by
  rw [← hstill.brain] at hm
  exact EngineOp.wp_guarded_select (hstill.accepts _) hm
    (h _ _ ⟨hstill.brain, hstill.vectorMemory, hstill.accepts⟩)

theorem wp_listRelations {includeArchived : Bool}
    {post : List Event → Except Fault (List BrainRelationRecord) → World → Prop}
    {labels : List Event} {w w' : World} (hstill : Still w w')
    (h : ∀ labels w'', Still w w'' → post labels (.ok ((newest RelationRow.updatedAt
      RelationRow.archived includeArchived w.brain.relations).map relationRecord)) w'') :
    wp (listRelations includeArchived) post labels w' := by
  rw [← hstill.brain] at h
  exact EngineOp.wp_guarded (Stmt.run_bind (Stmt.run_select (hstill.accepts _)))
    (h _ _ ⟨hstill.brain, hstill.vectorMemory, hstill.accepts⟩)

theorem wp_queryProjectionHits {nameSpace query : String} {limit : Nat} {keys : List String}
    {post : List Event → Except Fault (List String) → World → Prop} {labels : List Event}
    {w w' : World} (hstill : Still w w')
    (hhits : manager.hits nameSpace query limit w.vectorMemory = .ok keys)
    (h : ∀ labels w'', Still w w'' → post labels (.ok keys) w'') :
    wp (manager.queryProjectionHits nameSpace query limit) post labels w' := by
  rw [← hstill.vectorMemory] at hhits
  unfold hits at hhits
  cases hrecords : ((Table.descending (fun row => stamp row.createdAt)
    (w'.vectorMemory.filter (·.nameSpace == nameSpace))).take 256).mapM
      (StateStore.memoryRecord manager.encryption (fingerprint query)) with
  | error message =>
      rw [hrecords] at hhits
      cases hhits
  | ok records =>
      rw [hrecords] at hhits
      cases hhits
      have hnext : Still w { w' with around := Stmt.sent w'.around } :=
        ⟨hstill.brain, hstill.vectorMemory, hstill.accepts⟩
      refine Op.wp_bind (EngineOp.wp_guarded ((Stmt.run_bind (Stmt.run_select
        (hstill.accepts _))).trans ?_) (Op.andThen_ok (Op.wp_pure (h _ _ hnext))))
      exact Stmt.run_bind (congrArg (fun read => Stmt.ofExcept read _) hrecords)

/-- Where the database refuses nothing and no row decays, a recall reads the records
of the newest rows and the hits. -/
theorem readRecall_ok {query : BrainRecallQuery} {w : World} {age : Int} {cutoff : Instant}
    {read : Recollection} (henabled : manager.config.enabled = true)
    (haccepts : ∀ n, w.around.refuses n = false) (hlasting : Lasting w.brain)
    (hage : secondsDuration (manager.config.archiveDecayDays * 86400) = some age)
    (hcutoff : shift (w.around.clock w.around.ticks) (-age) = some cutoff)
    (hentities : (newest EntityRow.updatedAt EntityRow.archived query.includeArchived
      w.brain.entities).mapM manager.entityRecord = .ok read.entities)
    (hfacts : (newest FactRow.updatedAt FactRow.archived query.includeArchived
      w.brain.facts).mapM manager.factRecord = .ok read.facts)
    (htasks : (newest TaskRow.updatedAt TaskRow.archived false w.brain.tasks).mapM
      manager.taskRecord = .ok read.tasks)
    (hrelations : (newest RelationRow.updatedAt RelationRow.archived query.includeArchived
      w.brain.relations).map relationRecord = read.relations)
    (hentityHits : manager.hits "brain-entities" query.query (max query.limit 1 * 3)
      w.vectorMemory = .ok read.entityHits)
    (hfactHits : manager.hits "brain-facts" query.query (max query.limit 1 * 3)
      w.vectorMemory = .ok read.factHits)
    (htaskHits : manager.hits "brain-tasks" query.query (max query.limit 1 * 3)
      w.vectorMemory = .ok read.taskHits) :
    ((manager.readRecall query).eval w).1 = .ok read := by
  have hread : wp (manager.readRecall query) (fun _ r _ => r = .ok read) [] w := by
    unfold readRecall
    refine Op.wp_bind (manager.wp_requireEnabled henabled (Op.andThen_ok ?_))
    refine Op.wp_bind (manager.wp_applyRetention haccepts hlasting hage hcutoff
      fun labels w' hstill => Op.andThen_ok ?_)
    refine Op.wp_bind (wp_selection hstill hentities fun labels w' hstill => Op.andThen_ok ?_)
    refine Op.wp_bind (wp_selection hstill hfacts fun labels w' hstill => Op.andThen_ok ?_)
    refine Op.wp_bind (wp_selection hstill htasks fun labels w' hstill => Op.andThen_ok ?_)
    refine Op.wp_bind (wp_listRelations hstill fun labels w' hstill => Op.andThen_ok ?_)
    refine Op.wp_bind (manager.wp_queryProjectionHits hstill hentityHits
      fun labels w' hstill => Op.andThen_ok ?_)
    refine Op.wp_bind (manager.wp_queryProjectionHits hstill hfactHits
      fun labels w' hstill => Op.andThen_ok ?_)
    refine Op.wp_bind (manager.wp_queryProjectionHits hstill htaskHits
      fun labels w' hstill => Op.andThen_ok (Op.wp_pure ?_))
    cases read
    cases hrelations
    rfl
  exact hread

end BrainManager

/-- Every record of a recall is in the scope of the query exactly when what it reads
is confined. -/
theorem recall_inScope {manager : BrainManager} {query : BrainRecallQuery} {w : World}
    {result : BrainRecallResult} (h : ((manager.recall query).eval w).1 = .ok result) :
    result.InScope query.scopeJson ↔ manager.Confines query w := by
  obtain ⟨read, hread, rfl⟩ := (manager.recall_ok query).mp h
  rw [read.inScope_result query]
  constructor
  · intro hconfined other hother
    cases hread.symm.trans hother
    exact hconfined
  · intro hconfines
    exact hconfines read hread

end

/-! ## A contact of two channels -/

/-- The scope of a channel. -/
def channelScope (channel : String) : String := "\x7b\"channel_id\":\"" ++ channel ++ "\"\x7d"

/-- A contact, last seen in a scope. -/
def contactRow (scopeJson : String) : EntityRow where
  entityId := "contact"
  entityKind := "person"
  subtype := "contact"
  encryptedBlobJson :=
    storedPlain BrainManager.entityFields ["alice", "seen", scopeJson, "[]", "message"]
  salience := 1
  confidence := 1
  fingerprint := "alice"
  archived := false
  sourceRef := "message"
  createdAt := 0
  updatedAt := 0

/-- What the contact wrote in a channel. -/
def contactFactRow (scopeJson : String) : FactRow where
  factId := "fact"
  entityId := "contact"
  encryptedBlobJson := storedPlain BrainManager.factFields ["hi", scopeJson, "message"]
  salience := 1
  confidence := 1
  fingerprint := "hi"
  archived := false
  sourceRef := "message"
  createdAt := 0
  updatedAt := 0

/-- The projection of the fact. -/
def contactFactProjection : VectorMemoryRow where
  nameSpace := "brain-facts"
  key := "fact"
  encryptedBlobJson := "\x7b\"nonce\":\"\",\"ciphertext\":\"\"\x7d"
  metadataJson := ""
  fingerprint := "hi"
  createdAt := 0

/-- A contact wrote in channel 1, and was last seen in a scope. -/
def contactWorld (scopeJson : String) : World :=
  { World.fresh countingSurroundings fun _ => .ok "" with
    brain := ⟨[contactRow scopeJson], [contactFactRow (channelScope "1")], [], [], []⟩
    vectorMemory := [contactFactProjection] }

/-- A recall in channel 1. -/
def channelQuery : BrainRecallQuery := ⟨"hi", channelScope "1", 3, false⟩

/-- The records of the rows. -/
def contactRecord (scopeJson : String) : BrainEntityRecord where
  id := "contact"
  kind := "person"
  subtype := "contact"
  title := "alice"
  content := "seen"
  scopeJson := scopeJson
  linksJson := "[]"
  salience := 1
  confidence := 1
  archived := false
  createdAt := 0
  updatedAt := 0

def contactFactRecord (scopeJson : String) : BrainFactRecord where
  id := "fact"
  entityId := "contact"
  content := "hi"
  scopeJson := scopeJson
  salience := 1
  confidence := 1
  archived := false
  createdAt := 0
  updatedAt := 0

/-- What it reads. -/
def contactRecollection (scopeJson : String) : Recollection where
  entities := [contactRecord scopeJson]
  facts := [contactFactRecord (channelScope "1")]
  tasks := []
  relations := []
  entityHits := []
  factHits := ["fact"]
  taskHits := []

theorem entityRecord_contact (scopeJson : String) :
    @BrainManager.entityRecord jsonExternals plainBrain (contactRow scopeJson) =
      .ok (contactRecord scopeJson) := by
  have hpayload : @BrainManager.decryptPayload jsonExternals plainBrain BrainManager.entityFields
      (contactRow scopeJson).encryptedBlobJson =
        .ok ["alice", "seen", scopeJson, "[]", "message"] :=
    decryptPayload_storedPlain rfl (by decide) rfl
  unfold BrainManager.entityRecord
  rw [hpayload]
  rfl

theorem factRecord_contact (scopeJson : String) :
    @BrainManager.factRecord jsonExternals plainBrain (contactFactRow scopeJson) =
      .ok (contactFactRecord scopeJson) := by
  have hpayload : @BrainManager.decryptPayload jsonExternals plainBrain BrainManager.factFields
      (contactFactRow scopeJson).encryptedBlobJson = .ok ["hi", scopeJson, "message"] :=
    decryptPayload_storedPlain rfl (by decide) rfl
  unfold BrainManager.factRecord
  rw [hpayload]
  rfl

/-- The fact is the only hit. -/
theorem hits_contact (nameSpace : String)
    (h : nameSpace ∈ ["brain-entities", "brain-facts", "brain-tasks"]) :
    @BrainManager.hits jsonExternals plainBrain nameSpace "hi" 9 [contactFactProjection] =
      .ok (if nameSpace = "brain-facts" then ["fact"] else []) := by
  revert nameSpace
  decide +kernel

theorem lasting_contact (scopeJson : String) :
    @BrainManager.Lasting jsonExternals (contactWorld scopeJson).brain := by
  have hsalient : ¬ (1 : Rat) < 7 / 20 := by decide +kernel
  refine @BrainManager.Lasting.mk jsonExternals _ (fun cutoff now => ?_) (fun cutoff now => ?_)
    fun cutoff now => rfl
  · refine Table.updateWhere_of_none fun row hrow => ?_
    rw [List.mem_singleton.mp hrow]
    simp [contactRow, hsalient]
  · refine Table.updateWhere_of_none fun row hrow => ?_
    rw [List.mem_singleton.mp hrow]
    simp [contactFactRow, hsalient]

theorem entityRecords_contact (scopeJson : String) :
    [contactRow scopeJson].mapM (@BrainManager.entityRecord jsonExternals plainBrain) =
      .ok [contactRecord scopeJson] := by
  rw [List.mapM_cons, entityRecord_contact]
  rfl

theorem factRecords_contact (scopeJson : String) :
    [contactFactRow scopeJson].mapM (@BrainManager.factRecord jsonExternals plainBrain) =
      .ok [contactFactRecord scopeJson] := by
  rw [List.mapM_cons, factRecord_contact]
  rfl

/-- Retention after 30 days. -/
theorem retention_contact :
    secondsDuration (plainBrain.config.archiveDecayDays * 86400) = some 2592000000000000 := by
  decide

theorem readRecall_contact (scopeJson : String) :
    ((@BrainManager.readRecall jsonExternals plainBrain channelQuery).eval
      (contactWorld scopeJson)).1 = .ok (contactRecollection scopeJson) := by
  have hcutoff : shift (countingSurroundings.clock countingSurroundings.ticks)
      (-2592000000000000) = some (-2592000000000000) := by
    decide
  exact @BrainManager.readRecall_ok jsonExternals plainBrain channelQuery
    (contactWorld scopeJson) _ _ (contactRecollection scopeJson) rfl (fun _ => rfl)
    (lasting_contact scopeJson) retention_contact hcutoff (entityRecords_contact scopeJson)
    (factRecords_contact _) rfl rfl (hits_contact _ (by simp)) (hits_contact _ (by simp))
    (hits_contact _ (by simp))

/-- The contact is confined when it was last seen in channel 1. -/
theorem confined_contact :
    @Recollection.Confined jsonExternals (contactRecollection (channelScope "1")) channelQuery ∧
      ¬ @Recollection.Confined jsonExternals (contactRecollection (channelScope "2"))
        channelQuery := by
  decide +kernel

theorem recall_contact (scopeJson : String) :
    ((@BrainManager.recall jsonExternals plainBrain channelQuery).eval
      (contactWorld scopeJson)).1 =
        .ok (@Recollection.result jsonExternals (contactRecollection scopeJson) channelQuery) :=
  (@BrainManager.recall_ok jsonExternals plainBrain channelQuery _ _).mpr
    ⟨_, readRecall_contact scopeJson, rfl⟩

/-- A contact that was last seen in channel 1 is recalled there with its fact. -/
theorem recall_inScope_contact :
    ∃ result, ((@BrainManager.recall jsonExternals plainBrain channelQuery).eval
        (contactWorld (channelScope "1"))).1 = .ok result ∧
      @BrainRecallResult.InScope jsonExternals result (channelScope "1") := by
  refine ⟨_, recall_contact _, (@recall_inScope jsonExternals plainBrain channelQuery _ _
    (recall_contact _)).mpr fun read hread => ?_⟩
  cases hread.symm.trans (readRecall_contact (channelScope "1"))
  exact confined_contact.1

/-- One that was last seen in channel 2 is recalled in channel 1 as well. -/
theorem recall_inScope_fails :
    ¬ ∀ [Externals] (manager : BrainManager) (query : BrainRecallQuery) (w : World)
        (result : BrainRecallResult), ((manager.recall query).eval w).1 = .ok result →
          result.InScope query.scopeJson := by
  intro h
  have hscope := @h jsonExternals plainBrain channelQuery (contactWorld (channelScope "2")) _
    (recall_contact (channelScope "2"))
  exact confined_contact.2 ((@Recollection.inScope_result jsonExternals _ channelQuery).mp hscope)

end OpenPinch
