import OpenPinch.Engine.BrainFrames
import OpenPinch.Engine.RecallScope
import OpenPinch.Engine.StoreFailures
import OpenPinch.Lib.Transition

/-!
# What is forgotten stays away

`forget` archives or deletes rows.  What a recall without the archive can return
are records of live rows, so an identifier is forgotten when no live row
mentions it, and stays so until an operation leaves one that does.
`BrainTables.Severs` says when `forget` reaches all of them: archiving a task
leaves its relations, and neither kind looks at the rows of the other.
-/

namespace OpenPinch

open Lib (Op System wp Table.updateWhere Table.deleteWhere Table.filter_updateWhere
  Table.filter_deleteWhere Table.mem_of_mem_updateWhere Table.mem_of_mem_upsertOn
  Table.mem_deleteWhere Table.mem_of_mapM_ok Table.ok_of_bind)
open Lib.Op (Yields result yields_of_maintains yields_pure)
open Lib.Prog (Maintains)
open Lib.Selection (mem_of_mem_foldl_insertNew)

/-! ## Live rows -/

/-- The live rows that mention an identifier. -/
structure Mentions where
  entities : List EntityRow
  facts : List FactRow
  relations : List RelationRow
  tasks : List TaskRow

namespace Mentions

/-- No row. -/
def none : Mentions := ⟨[], [], [], []⟩

/-- The rows are among others. -/
structure Within (m m' : Mentions) : Prop where
  entities : m.entities ⊆ m'.entities
  facts : m.facts ⊆ m'.facts
  relations : m.relations ⊆ m'.relations
  tasks : m.tasks ⊆ m'.tasks

theorem Within.refl (m : Mentions) : m.Within m :=
  ⟨List.Subset.refl _, List.Subset.refl _, List.Subset.refl _, List.Subset.refl _⟩

theorem Within.trans {m m' m'' : Mentions} (h : m.Within m') (h' : m'.Within m'') :
    m.Within m'' :=
  ⟨List.Subset.trans h.entities h'.entities, List.Subset.trans h.facts h'.facts,
    List.Subset.trans h.relations h'.relations, List.Subset.trans h.tasks h'.tasks⟩

theorem eq_none_of_within {m : Mentions} (h : m.Within none) : m = none := by
  obtain ⟨entities, facts, relations, tasks⟩ := m
  cases List.subset_nil.mp h.entities
  cases List.subset_nil.mp h.facts
  cases List.subset_nil.mp h.relations
  cases List.subset_nil.mp h.tasks
  rfl

end Mentions

/-- The live rows with the identifier, those of its facts and those of its relations. -/
def BrainTables.mentions (t : BrainTables) (id : String) : Mentions where
  entities := t.entities.filter fun row => !row.archived && row.entityId == id
  facts := t.facts.filter fun row => !row.archived && (row.factId == id || row.entityId == id)
  relations := t.relations.filter fun row => !row.archived && BrainManager.touches id row
  tasks := t.tasks.filter fun row => !row.archived && row.taskId == id

/-- No live row mentions the identifier. -/
def BrainTables.Forgotten (t : BrainTables) (id : String) : Prop := t.mentions id = Mentions.none

/-- No live row that mentions an identifier is new. -/
def Unwritten (id : String) (t t' : BrainTables) : Prop := (t'.mentions id).Within (t.mentions id)

theorem Unwritten.refl {id : String} (t : BrainTables) : Unwritten id t t := Mentions.Within.refl _

theorem Unwritten.trans {id : String} (t t' t'' : BrainTables) (h : Unwritten id t t')
    (h' : Unwritten id t' t'') : Unwritten id t t'' :=
  Mentions.Within.trans h' h

theorem Unwritten.forgotten {id : String} {t t' : BrainTables} (h : Unwritten id t t')
    (ht : t.Forgotten id) : t'.Forgotten id := by
  unfold Unwritten at h
  rw [ht] at h
  exact Mentions.eq_none_of_within h

/-! ## What forgetting reaches -/

/-- `forget` reaches every live row that mentions the identifier: none is of the other
kind, and a task that is archived has no relation. -/
structure BrainTables.Severs (t : BrainTables) (targetKind mode targetId : String) : Prop where
  entity : targetKind = "entity" → (t.mentions targetId).tasks = [] ∧
    ∀ row ∈ (t.mentions targetId).facts, row.entityId = targetId
  task : targetKind = "task" → (t.mentions targetId).entities = [] ∧
    (t.mentions targetId).facts = []
  relations : targetKind = "task" → mode = "archive" → (t.mentions targetId).relations = []

open Stmt (performs_fail performs_now performs_execute performs_bind) in
theorem performs_forgetStmt (targetKind mode targetId : String)
    (s : Surroundings × BrainTables) :
    (BrainManager.forgetStmt targetKind mode targetId).Performs
      (forgetUpdates (fun n => s.1.clock (s.1.ticks + n)) targetKind mode targetId) s := by
  rcases BrainManager.forgetStmt_cases targetKind mode targetId with
    ⟨rfl | rfl | rfl | rfl, rfl | rfl⟩ | ⟨message, hfail⟩
  · refine performs_now (performs_bind (performs_now ?_))
    exact performs_bind (performs_now performs_execute)
  · exact performs_bind (performs_bind performs_execute)
  · exact performs_now performs_execute
  · exact performs_bind performs_execute
  · exact performs_now performs_execute
  · exact performs_execute
  · exact performs_now performs_execute
  · exact performs_execute
  · rw [hfail]
    exact performs_fail message

/-! ## What is left of the mentions -/

section

variable (t : BrainTables) (clock : Nat → Instant) (id : String)

/-- Of an entity the facts stay that it does not own, and the tasks. -/
theorem mentions_entity {mode : String} (h : mode = "archive" ∨ mode = "delete") :
    (applyAll (forgetUpdates clock "entity" mode id) t).mentions id =
      ⟨[], (t.mentions id).facts.filter (!·.entityId == id), [], (t.mentions id).tasks⟩ := by
  have hfacts : (t.mentions id).facts.filter (!·.entityId == id) = t.facts.filter fun row =>
      (!row.archived && (row.factId == id || row.entityId == id)) && !row.entityId == id := by
    rw [BrainTables.mentions, List.filter_filter]
    exact List.filter_congr fun row _ => Bool.and_comm _ _
  rw [hfacts]
  rcases h with rfl | rfl
  · simp only [BrainTables.mentions, applyAll, forgetUpdates, List.foldl_cons, List.foldl_nil]
    simp [Table.filter_updateWhere]
  · simp only [BrainTables.mentions, applyAll, forgetUpdates, List.foldl_cons, List.foldl_nil]
    simp [Table.filter_deleteWhere]

theorem mentions_task_archive :
    (applyAll (forgetUpdates clock "task" "archive" id) t).mentions id =
      { t.mentions id with tasks := [] } := by
  simp only [BrainTables.mentions, applyAll, forgetUpdates, List.foldl_cons, List.foldl_nil]
  simp [Table.filter_updateWhere]

theorem mentions_task_delete :
    (applyAll (forgetUpdates clock "task" "delete" id) t).mentions id =
      { t.mentions id with relations := [], tasks := [] } := by
  simp only [BrainTables.mentions, applyAll, forgetUpdates, List.foldl_cons, List.foldl_nil]
  simp [Table.filter_deleteWhere]

/-- Nothing is left when `forget` reaches all mentions. -/
theorem forgotten_iff_severs {targetKind mode : String}
    (hkind : targetKind = "entity" ∨ targetKind = "task")
    (hmode : mode = "archive" ∨ mode = "delete") :
    (applyAll (forgetUpdates clock targetKind mode id) t).Forgotten id ↔
      t.Severs targetKind mode id := by
  unfold BrainTables.Forgotten
  rcases hkind with rfl | rfl
  · rw [mentions_entity t clock id hmode, Mentions.none, Mentions.mk.injEq,
      List.filter_eq_nil_iff]
    constructor
    · rintro ⟨-, hfacts, -, htasks⟩
      exact ⟨fun _ => ⟨htasks, fun row hrow => by simpa using hfacts row hrow⟩, by simp, by simp⟩
    · intro h
      obtain ⟨htasks, hfacts⟩ := h.entity rfl
      exact ⟨rfl, fun row hrow => by simpa using hfacts row hrow, rfl, htasks⟩
  · rcases hmode with rfl | rfl
    · rw [mentions_task_archive, Mentions.none, Mentions.mk.injEq]
      constructor
      · rintro ⟨hentities, hfacts, hrelations, -⟩
        exact ⟨by simp, fun _ => ⟨hentities, hfacts⟩, fun _ _ => hrelations⟩
      · intro h
        exact ⟨(h.task rfl).1, (h.task rfl).2, h.relations rfl rfl, rfl⟩
    · rw [mentions_task_delete, Mentions.none, Mentions.mk.injEq]
      constructor
      · rintro ⟨hentities, hfacts, -, -⟩
        exact ⟨by simp, fun _ => ⟨hentities, hfacts⟩, by simp⟩
      · intro h
        exact ⟨(h.task rfl).1, (h.task rfl).2, rfl, rfl⟩

end

/-! ## Forget -/

namespace BrainManager

open EngineOp (Relates closed_relates relates_brain)
open Stmt (Preserves preserves_bind preserves_now preserves_execute preserves_fail)

/-- The modes of `forget` that succeed. -/
theorem forgetStmt_mode {targetKind mode targetId : String} {s : Surroundings × BrainTables}
    {u : Unit} (h : result (forgetStmt targetKind mode targetId) s = .ok u) :
    mode = "archive" ∨ mode = "delete" := by
  unfold forgetStmt at h
  split at h
  · exact Or.inl rfl
  · exact Or.inl rfl
  · exact Or.inl rfl
  · exact Or.inl rfl
  · exact Or.inr rfl
  · exact Or.inr rfl
  · exact Or.inr rfl
  · exact Or.inr rfl
  · cases h

variable (manager : BrainManager)

/-- A `forget` that returns has made its updates. -/
theorem wp_forget_performs (request : BrainForget) (w : World) :
    wp (manager.forget request) (fun _ r w' => ∀ value, r = .ok value →
      ((if request.mode = "" then "archive" else request.mode) = "archive" ∨
        (if request.mode = "" then "archive" else request.mode) = "delete") ∧
      w'.brain = applyAll (forgetUpdates (fun n => w.around.clock (w.around.ticks + n))
        (normalizeForgetTargetKind request.targetKind)
        (if request.mode = "" then "archive" else request.mode) request.targetId) w.brain)
      [] w := by
  unfold forget requireEnabled
  split
  · refine Op.wp_bind (Op.wp_pure (Op.andThen_ok (Op.wp_bind (Op.wp_guarded ?_))))
    rw [View.result_run, View.after_run]
    cases hresult : result (forgetStmt (normalizeForgetTargetKind request.targetKind)
        (if request.mode = "" then "archive" else request.mode) request.targetId)
        (w.around, View.brain.get w) with
    | error e => exact fun _ hvalue => nomatch hvalue
    | ok u =>
        have hmade := performs_forgetStmt _ _ _ (w.around, w.brain) u hresult
        refine Op.andThen_ok (Op.wp_bind ((relates_dropProjections (R := Eq) (fun _ => rfl)
          _ _).wp_any (fun _ => rfl) (fun _ _ _ => Eq.trans) ?_))
        rintro labels (fault | _) w' - hbrain
        · exact fun _ hvalue => nomatch hvalue
        · refine Op.andThen_ok (Op.wp_pure fun _ _ => ⟨forgetStmt_mode hresult, ?_⟩)
          exact hbrain.symm.trans hmade
  · exact Op.wp_bind (Op.wp_fail fun _ hvalue => nomatch hvalue)

end BrainManager

/-! ## Operations that leave an identifier alone -/

section

variable {id : String} {t : BrainTables}

theorem unwritten_entities {rows : List EntityRow}
    (h : ∀ row ∈ rows, row.archived = false → row.entityId = id → row ∈ t.entities) :
    Unwritten id t { t with entities := rows } := by
  refine ⟨fun row hrow => ?_, List.Subset.refl _, List.Subset.refl _, List.Subset.refl _⟩
  obtain ⟨hrow, hkept⟩ := List.mem_filter.mp hrow
  have hmention : row.archived = false ∧ row.entityId = id := by simpa using hkept
  exact List.mem_filter.mpr ⟨h row hrow hmention.1 hmention.2, hkept⟩

theorem unwritten_facts {rows : List FactRow}
    (h : ∀ row ∈ rows, row.archived = false → row.factId = id ∨ row.entityId = id →
      row ∈ t.facts) :
    Unwritten id t { t with facts := rows } := by
  refine ⟨List.Subset.refl _, fun row hrow => ?_, List.Subset.refl _, List.Subset.refl _⟩
  obtain ⟨hrow, hkept⟩ := List.mem_filter.mp hrow
  have hmention : row.archived = false ∧ (row.factId = id ∨ row.entityId = id) := by
    simpa using hkept
  exact List.mem_filter.mpr ⟨h row hrow hmention.1 hmention.2, hkept⟩

theorem unwritten_relations {rows : List RelationRow}
    (h : ∀ row ∈ rows, row.archived = false → row.fromEntityId = id ∨ row.toEntityId = id →
      row ∈ t.relations) :
    Unwritten id t { t with relations := rows } := by
  refine ⟨List.Subset.refl _, List.Subset.refl _, fun row hrow => ?_, List.Subset.refl _⟩
  obtain ⟨hrow, hkept⟩ := List.mem_filter.mp hrow
  have hmention : row.archived = false ∧ (row.fromEntityId = id ∨ row.toEntityId = id) := by
    simpa [BrainManager.touches] using hkept
  exact List.mem_filter.mpr ⟨h row hrow hmention.1 hmention.2, hkept⟩

theorem unwritten_tasks {rows : List TaskRow}
    (h : ∀ row ∈ rows, row.archived = false → row.taskId = id → row ∈ t.tasks) :
    Unwritten id t { t with tasks := rows } := by
  refine ⟨List.Subset.refl _, List.Subset.refl _, List.Subset.refl _, fun row hrow => ?_⟩
  obtain ⟨hrow, hkept⟩ := List.mem_filter.mp hrow
  have hmention : row.archived = false ∧ row.taskId = id := by simpa using hkept
  exact List.mem_filter.mpr ⟨h row hrow hmention.1 hmention.2, hkept⟩

theorem unwritten_archived_entities (test : EntityRow → Bool) (now : Instant) :
    Unwritten id t { t with
      entities := Table.updateWhere test
        (fun row => { row with archived := true, updatedAt := now }) t.entities } :=
  unwritten_entities fun _ hrow hlive _ =>
    Table.mem_of_mem_updateWhere (P := fun row => row.archived = false) (by simp) hrow hlive

theorem unwritten_archived_facts (test : FactRow → Bool) (now : Instant) :
    Unwritten id t { t with
      facts := Table.updateWhere test
        (fun row => { row with archived := true, updatedAt := now }) t.facts } :=
  unwritten_facts fun _ hrow hlive _ =>
    Table.mem_of_mem_updateWhere (P := fun row => row.archived = false) (by simp) hrow hlive

theorem unwritten_archived_relations (test : RelationRow → Bool) (now : Instant) :
    Unwritten id t { t with
      relations := Table.updateWhere test
        (fun row => { row with archived := true, updatedAt := now }) t.relations } :=
  unwritten_relations fun _ hrow hlive _ =>
    Table.mem_of_mem_updateWhere (P := fun row => row.archived = false) (by simp) hrow hlive

theorem unwritten_archived_tasks (test : TaskRow → Bool) (now : Instant) :
    Unwritten id t { t with
      tasks := Table.updateWhere test
        (fun row => { row with archived := true, updatedAt := now }) t.tasks } :=
  unwritten_tasks fun _ hrow hlive _ =>
    Table.mem_of_mem_updateWhere (P := fun row => row.archived = false) (by simp) hrow hlive

end

namespace BrainManager

open EngineOp (Relates closed_relates relates_brain)
open Stmt (Preserves preserves_bind preserves_now preserves_execute preserves_fail)

variable {id : String}

/-- Retention only archives. -/
theorem retains_unwritten [Externals] (id : String) : Retains (Unwritten id) where
  refl := Unwritten.refl
  trans := Unwritten.trans
  entities _ _ now := unwritten_archived_entities _ now
  facts _ _ now := unwritten_archived_facts _ now
  tasks _ _ now := unwritten_archived_tasks _ now

/-- `forget` only archives and deletes. -/
theorem unwritten_forgetStmt (targetKind mode targetId : String) :
    (forgetStmt targetKind mode targetId).Preserves (Unwritten id) := by
  have hnow {f : Instant → BrainTables → BrainTables} (hf : ∀ now t, Unwritten id t (f now t)) :
      (Stmt.now >>= fun now => Stmt.execute (f now)).Preserves (Unwritten id) :=
    preserves_bind Unwritten.trans (preserves_now Unwritten.refl) fun now =>
      preserves_execute Unwritten.refl (hf now)
  have hdelete {f : BrainTables → BrainTables} (hf : ∀ t, Unwritten id t (f t)) :
      (Stmt.execute f).Preserves (Unwritten id) :=
    preserves_execute Unwritten.refl hf
  have hfacts (test : FactRow → Bool) (t : BrainTables) :
      Unwritten id t { t with facts := Table.deleteWhere test t.facts } :=
    unwritten_facts fun row hrow _ _ => (Table.mem_deleteWhere.mp hrow).1
  have hrelations (test : RelationRow → Bool) (t : BrainTables) :
      Unwritten id t { t with relations := Table.deleteWhere test t.relations } :=
    unwritten_relations fun row hrow _ _ => (Table.mem_deleteWhere.mp hrow).1
  unfold forgetStmt
  split
  · refine preserves_bind Unwritten.trans (preserves_now Unwritten.refl) fun now =>
      preserves_bind Unwritten.trans (hdelete fun _ => unwritten_archived_entities _ now)
        fun _ => ?_
    refine preserves_bind Unwritten.trans (preserves_now Unwritten.refl) fun now =>
      preserves_bind Unwritten.trans (hdelete fun _ => unwritten_archived_facts _ now) fun _ => ?_
    exact hnow fun now _ => unwritten_archived_relations _ now
  · exact hnow fun now _ => unwritten_archived_tasks _ now
  · exact hnow fun now _ => unwritten_archived_facts _ now
  · exact hnow fun now _ => unwritten_archived_relations _ now
  · refine preserves_bind Unwritten.trans (hdelete (hfacts _)) fun _ => ?_
    refine preserves_bind Unwritten.trans (hdelete (hrelations _)) fun _ => hdelete fun t => ?_
    exact unwritten_entities fun row hrow _ _ => (Table.mem_deleteWhere.mp hrow).1
  · refine preserves_bind Unwritten.trans (hdelete fun t => ?_) fun _ => hdelete (hrelations _)
    exact unwritten_tasks fun row hrow _ _ => (Table.mem_deleteWhere.mp hrow).1
  · exact hdelete (hfacts _)
  · exact hdelete (hrelations _)
  · exact preserves_fail Unwritten.refl _

theorem unwritten_forget (manager : BrainManager) (request : BrainForget) :
    Relates (Unwritten id) (manager.forget request) := by
  refine (closed_relates _).bind ((closed_relates _).requireEnabled manager) fun _ => ?_
  refine (closed_relates _).bind (relates_brain (unwritten_forgetStmt _ _ _)) fun _ => ?_
  exact (closed_relates _).bind (relates_dropProjections Unwritten.refl _ _) fun _ =>
    (closed_relates _).pure _

/-! ### Upserts under other identifiers -/

section

variable [Externals] (manager : BrainManager)

theorem unwritten_upsertEntity {input : EntityUpsert} (h : input.entityId ≠ id) :
    Relates (Unwritten id) (manager.upsertEntity input) := by
  refine manager.relates_upsertEntity Unwritten.refl fun t new hnew => ?_
  refine unwritten_entities fun row hrow _ hid => ?_
  rcases Table.mem_of_mem_upsertOn hrow with hbefore | ⟨old, -, rfl⟩ | rfl
  · exact hbefore
  · exact absurd (hnew.symm.trans hid) h
  · exact absurd (hnew.symm.trans hid) h

theorem unwritten_upsertFact {input : FactUpsert} (h : input.factId ≠ id)
    (hentity : input.entityId ≠ id) : Relates (Unwritten id) (manager.upsertFact input) := by
  refine manager.relates_upsertFact Unwritten.refl fun t new hnew hnewEntity => ?_
  have hother : ¬ (new.factId = id ∨ new.entityId = id) := by
    rw [hnew, hnewEntity]
    exact not_or.mpr ⟨h, hentity⟩
  refine unwritten_facts fun row hrow _ hid => ?_
  rcases Table.mem_of_mem_upsertOn hrow with hbefore | ⟨old, -, rfl⟩ | rfl
  · exact hbefore
  · exact absurd hid hother
  · exact absurd hid hother

theorem unwritten_upsertTask {input : TaskUpsert}
    (h : input.taskId.getD (taskIdOf input.summary input.scopeJson) ≠ id) :
    Relates (Unwritten id) (manager.upsertTask input) := by
  refine manager.relates_upsertTask Unwritten.refl fun t new hnew => ?_
  refine unwritten_tasks fun row hrow _ hid => ?_
  rcases Table.mem_of_mem_upsertOn hrow with hbefore | ⟨old, -, rfl⟩ | rfl
  · exact hbefore
  · exact absurd (hnew.symm.trans hid) h
  · exact absurd (hnew.symm.trans hid) h

theorem unwritten_upsertRelation {kind fromId toId metadataJson : String} {confidence : Rat}
    {archived : Bool} (hfrom : fromId ≠ id) (hto : toId ≠ id) :
    Relates (Unwritten id)
      (upsertRelation kind fromId toId metadataJson confidence archived) := by
  refine relates_upsertRelation Unwritten.refl fun t rows hrows => ?_
  refine unwritten_relations fun row hrow _ hid => ?_
  rcases hrows row hrow with hbefore | ⟨rfl, rfl⟩
  · exact hbefore
  · exact absurd hid (not_or.mpr ⟨hfrom, hto⟩)

end

end BrainManager

/-! ## Recall -/

/-- No record with the identifier, none that it owns and no relation that ends there. -/
structure Recollection.Omits (read : Recollection) (id : String) : Prop where
  entities : ∀ entity ∈ read.entities, entity.id ≠ id
  facts : ∀ fact ∈ read.facts, fact.id ≠ id ∧ fact.entityId ≠ id
  relations : ∀ relation ∈ read.relations, relation.fromId ≠ id ∧ relation.toId ≠ id
  tasks : ∀ task ∈ read.tasks, task.id ≠ id

/-- The same of an answer. -/
structure BrainRecallResult.Omits (answer : BrainRecallResult) (id : String) : Prop where
  entities : ∀ entity ∈ answer.entities, entity.id ≠ id
  facts : ∀ fact ∈ answer.facts, fact.id ≠ id ∧ fact.entityId ≠ id
  relations : ∀ relation ∈ answer.relations, relation.fromId ≠ id ∧ relation.toId ≠ id
  tasks : ∀ task ∈ answer.tasks, task.id ≠ id

namespace Recollection

variable {read : Recollection}

theorem mem_of_entityAt {key : String} {entity : BrainEntityRecord}
    (h : read.entityAt key = some entity) : entity ∈ read.entities :=
  List.mem_reverse.mp (List.mem_of_find?_eq_some h)

variable [Externals] {query : BrainRecallQuery}

theorem mem_of_picked {entity : BrainEntityRecord} (h : entity ∈ read.pickedEntities query) :
    entity ∈ read.entities :=
  mem_of_entityAt (read.entityAt_picked query h).1

theorem mem_of_pickedFact {fact : BrainFactRecord} (h : fact ∈ read.pickedFacts query) :
    fact ∈ read.facts := by
  have hhit := (List.mem_filter.mp (List.mem_of_mem_take h)).1
  obtain ⟨key, -, hkey⟩ := List.mem_filterMap.mp hhit
  exact List.mem_reverse.mp (List.mem_of_find?_eq_some hkey)

theorem mem_of_pickedTask {task : BrainTaskRecord} (h : task ∈ read.pickedTasks query) :
    task ∈ read.tasks := by
  have hhit := (List.mem_filter.mp (List.mem_of_mem_take h)).1
  obtain ⟨key, -, hkey⟩ := List.mem_filterMap.mp hhit
  exact List.mem_reverse.mp (List.mem_of_find?_eq_some hkey)

/-- An answer is selected from what is read. -/
theorem Omits.answer {id : String} (h : read.Omits id) (query : BrainRecallQuery) :
    (read.result query).Omits id := by
  rw [result_eq]
  refine ⟨fun entity hentity => ?_, fun fact hfact => ?_, fun relation hrelation => ?_,
    fun task htask => ?_⟩
  · rcases mem_of_mem_foldl_insertNew hentity with hpicked | hcandidate
    · exact h.entities entity (mem_of_picked hpicked)
    · exact h.entities entity (mem_of_entityAt (read.entityAt_candidate query hcandidate))
  · exact h.facts fact (mem_of_pickedFact hfact)
  · have htouched := (List.mem_filter.mp (List.mem_of_mem_take hrelation)).1
    exact h.relations relation htouched
  · exact h.tasks task (mem_of_pickedTask htask)

end Recollection

namespace BrainTables.Forgotten

variable {t : BrainTables} {id : String} (h : t.Forgotten id)

include h

theorem entity {row : EntityRow} (hrow : row ∈ t.entities) (hlive : row.archived = false) :
    row.entityId ≠ id := by
  have hnone := List.filter_eq_nil_iff.mp (congrArg Mentions.entities h) row hrow
  simpa [hlive] using hnone

theorem fact {row : FactRow} (hrow : row ∈ t.facts) (hlive : row.archived = false) :
    row.factId ≠ id ∧ row.entityId ≠ id := by
  have hnone := List.filter_eq_nil_iff.mp (congrArg Mentions.facts h) row hrow
  simpa [hlive] using hnone

theorem relation {row : RelationRow} (hrow : row ∈ t.relations) (hlive : row.archived = false) :
    row.fromEntityId ≠ id ∧ row.toEntityId ≠ id := by
  have hnone := List.filter_eq_nil_iff.mp (congrArg Mentions.relations h) row hrow
  simpa [hlive, BrainManager.touches] using hnone

theorem task {row : TaskRow} (hrow : row ∈ t.tasks) (hlive : row.archived = false) :
    row.taskId ≠ id := by
  have hnone := List.filter_eq_nil_iff.mp (congrArg Mentions.tasks h) row hrow
  simpa [hlive] using hnone

end BrainTables.Forgotten

namespace BrainManager

open EngineOp (Relates relates_brain)
open Stmt (preserves_bind preserves_pure preserves_select)

variable [Externals] (manager : BrainManager) {id : String}

/-- Without the archive the newest rows are live. -/
theorem mem_newest {ρ : Type} {updatedAt : ρ → Instant} {archived : ρ → Bool} {rows : List ρ}
    {row : ρ} (h : row ∈ newest updatedAt archived false rows) :
    row ∈ rows ∧ archived row = false := by
  obtain ⟨hrow, hlive⟩ := List.mem_filter.mp h
  exact ⟨(List.mem_insertionSort _).mp (List.mem_of_mem_take hrow), by simpa using hlive⟩

theorem entityRecord_id {row : EntityRow} {record : BrainEntityRecord}
    (h : manager.entityRecord row = .ok record) : record.id = row.entityId := by
  obtain ⟨values, -, h⟩ := Table.ok_of_bind h
  split at h
  · cases h
    rfl
  · cases h

theorem factRecord_ids {row : FactRow} {record : BrainFactRecord}
    (h : manager.factRecord row = .ok record) :
    record.id = row.factId ∧ record.entityId = row.entityId := by
  obtain ⟨values, -, h⟩ := Table.ok_of_bind h
  split at h
  · cases h
    exact ⟨rfl, rfl⟩
  · cases h

theorem taskRecord_id {row : TaskRow} {record : BrainTaskRecord}
    (h : manager.taskRecord row = .ok record) : record.id = row.taskId := by
  obtain ⟨values, -, h⟩ := Table.ok_of_bind h
  split at h
  · cases h
    rfl
  · cases h

/-- No live row mentions the identifier. -/
def Away (id : String) (w : World) : Prop := w.brain.Forgotten id

omit [Externals] in
theorem maintains_away {α : Type} {p : EngineOp α} (h : Relates (Unwritten id) p) :
    Maintains (Away id) p :=
  fun w hw => (h.eval Unwritten.refl Unwritten.trans w).2.forgotten hw

omit [Externals] in
/-- The records of a list have the property that those of live rows have. -/
theorem yields_list {ρ β : Type} {f : BrainTables → List ρ} {g : ρ → Except String β}
    {Q : β → Prop} (h : ∀ t, t.Forgotten id → ∀ row ∈ f t, ∀ b, g row = .ok b → Q b) :
    Yields (Away id) (EngineOp.guarded .brain do
      let rows ← Stmt.select f
      Stmt.ofExcept (rows.mapM g)) fun bs => ∀ b ∈ bs, Q b := by
  intro w hw
  refine ⟨maintains_away (relates_list Unwritten.refl Unwritten.trans f _) w hw,
    fun bs hbs b hb => ?_⟩
  have hbs := (View.result_run View.brain _ w).symm.trans hbs
  obtain ⟨rows, hrows, hbs⟩ := Stmt.result_bind_ok hbs
  cases Stmt.select_ok hrows
  cases hmap : (f w.brain).mapM g with
  | error message =>
      rw [View.brain, hmap] at hbs
      cases hbs
  | ok records =>
      rw [View.brain, hmap] at hbs
      cases hbs
      obtain ⟨row, hrow, hg⟩ := Table.mem_of_mapM_ok hmap hb
      exact h w.brain hw row hrow b hg

theorem yields_listRelations :
    Yields (Away id) (listRelations false) fun relations =>
      ∀ relation ∈ relations, relation.fromId ≠ id ∧ relation.toId ≠ id := by
  have hreads : Relates (Unwritten id) (listRelations false) :=
    relates_brain (preserves_bind Unwritten.trans
      (preserves_select Unwritten.refl _) fun _ => preserves_pure Unwritten.refl _)
  intro w hw
  refine ⟨maintains_away hreads w hw, fun relations hrelations relation hrelation => ?_⟩
  have hrelations := (View.result_run View.brain _ w).symm.trans hrelations
  obtain ⟨rows, hrows, hrelations⟩ := Stmt.result_bind_ok hrelations
  cases Stmt.select_ok hrows
  cases hrelations
  obtain ⟨row, hrow, rfl⟩ := List.mem_map.mp hrelation
  obtain ⟨hrow, hlive⟩ := mem_newest hrow
  exact hw.relation hrow hlive

/-- A recall without the archive reads nothing of a forgotten identifier. -/
theorem yields_readRecall {query : BrainRecallQuery} (h : query.includeArchived = false) :
    Yields (Away id) (manager.readRecall query) (·.Omits id) := by
  have hreading := manager.reading_relates (retains_unwritten id)
  unfold readRecall
  rw [h]
  refine (yields_of_maintains (maintains_away (hreading.requireEnabled manager))).bind
    fun _ _ => ?_
  refine (yields_of_maintains (maintains_away hreading.retain)).bind fun _ _ => ?_
  refine (yields_list (Q := fun entity : BrainEntityRecord => entity.id ≠ id) ?_).bind
    fun entities hentities => ?_
  · intro t ht row hrow record hrecord
    obtain ⟨hrow, hlive⟩ := mem_newest hrow
    rw [manager.entityRecord_id hrecord]
    exact ht.entity hrow hlive
  refine (yields_list (Q := fun fact : BrainFactRecord => fact.id ≠ id ∧ fact.entityId ≠ id)
    ?_).bind fun facts hfacts => ?_
  · intro t ht row hrow record hrecord
    obtain ⟨hrow, hlive⟩ := mem_newest hrow
    rw [(manager.factRecord_ids hrecord).1, (manager.factRecord_ids hrecord).2]
    exact ht.fact hrow hlive
  refine (yields_list (Q := fun task : BrainTaskRecord => task.id ≠ id) ?_).bind
    fun tasks htasks => ?_
  · intro t ht row hrow record hrecord
    obtain ⟨hrow, hlive⟩ := mem_newest hrow
    rw [manager.taskRecord_id hrecord]
    exact ht.task hrow hlive
  refine yields_listRelations.bind fun relations hrelations => ?_
  have hsearch := fun nameSpace =>
    yields_of_maintains (maintains_away (hreading.queryProjectionHits nameSpace query.query
      (max query.limit 1 * 3)))
  refine (hsearch "brain-entities").bind fun _ _ => ?_
  refine (hsearch "brain-facts").bind fun _ _ => ?_
  refine (hsearch "brain-tasks").bind fun _ _ => yields_pure ?_
  exact ⟨hentities, hfacts, hrelations, htasks⟩

end BrainManager

/-! ## Runs after a forget -/

/-- The runs of operations that write no live row with the identifier. -/
def unwriting (id : String) : System World (Lib.Prog Event World Unit) :=
  .ofStep (fun _ => True) (fun w p => Unwritten id w.brain (p.eval w).2.brain)
    fun w p => some (p.eval w).2

theorem away_unwriting {id : String} {w w' : World}
    {operations : List (Lib.Prog Event World Unit)} (h : (unwriting id).Run w operations w')
    (hw : w.brain.Forgotten id) : w'.brain.Forgotten id := by
  refine h.preserves (P := fun w => w.brain.Forgotten id) (fun w p w' hstep hw => ?_) hw
  obtain ⟨hallowed, hnext⟩ := hstep
  cases hnext
  exact hallowed.forgotten hw

/-- A write to the brain. -/
inductive BrainWrite where
  | entity (input : EntityUpsert)
  | fact (input : FactUpsert)
  | task (input : TaskUpsert)
  | relation (kind fromId toId metadataJson : String) (confidence : Rat) (archived : Bool)
  | forget (request : BrainForget)

namespace BrainWrite

/-- The write is of rows that do not mention the identifier.  What `forget` reaches
does not matter. -/
def Elsewhere [Externals] (id : String) : BrainWrite → Prop
  | entity input => input.entityId ≠ id
  | fact input => input.factId ≠ id ∧ input.entityId ≠ id
  | task input => input.taskId.getD (BrainManager.taskIdOf input.summary input.scopeJson) ≠ id
  | relation _ fromId toId _ _ _ => fromId ≠ id ∧ toId ≠ id
  | forget _ => True

/-- The call, less what it returns. -/
def run [Externals] (manager : BrainManager) : BrainWrite → Lib.Prog Event World Unit
  | entity input => EngineOp.dropResult (manager.upsertEntity input)
  | fact input => EngineOp.dropResult (manager.upsertFact input)
  | task input => EngineOp.dropResult (manager.upsertTask input)
  | relation kind fromId toId metadataJson confidence archived =>
      EngineOp.dropResult
        (BrainManager.upsertRelation kind fromId toId metadataJson confidence archived)
  | forget request => EngineOp.dropResult (manager.forget request)

/-- Writes of other identifiers are allowed after a forget. -/
theorem unwriting_step [Externals] (manager : BrainManager) {id : String} {write : BrainWrite}
    (h : write.Elsewhere id) (w : World) :
    (unwriting id).step w (write.run manager) ((write.run manager).eval w).2 := by
  refine ⟨?_, rfl⟩
  have hcall : ∀ {α : Type} {p : EngineOp α}, EngineOp.Relates (Unwritten id) p →
      Unwritten id w.brain ((EngineOp.dropResult p).eval w).2.brain := by
    intro α p hp
    rw [EngineOp.eval_dropResult]
    exact (hp.eval Unwritten.refl Unwritten.trans w).2
  cases write with
  | entity input => exact hcall (manager.unwritten_upsertEntity h)
  | fact input => exact hcall (manager.unwritten_upsertFact h.1 h.2)
  | task input => exact hcall (manager.unwritten_upsertTask h)
  | relation kind fromId toId metadataJson confidence archived =>
      exact hcall (BrainManager.unwritten_upsertRelation h.1 h.2)
  | forget request => exact hcall (BrainManager.unwritten_forget manager request)

end BrainWrite

/-- After `forget` of an entity or a task no live row mentions its identifier exactly
when it reached all that did, and then no recall without the archive returns one until
the identifier is written again. -/
theorem forgotten_recall [Externals] {manager : BrainManager} {request : BrainForget}
    {w : World} {value : BrainForgetResult}
    (hkind : normalizeForgetTargetKind request.targetKind = "entity" ∨
      normalizeForgetTargetKind request.targetKind = "task")
    (h : ((manager.forget request).eval w).1 = .ok value) :
    let severed := w.brain.Severs (normalizeForgetTargetKind request.targetKind)
      (if request.mode = "" then "archive" else request.mode) request.targetId
    (((manager.forget request).eval w).2.brain.Forgotten request.targetId ↔ severed) ∧
      (severed → ∀ operations w', (unwriting request.targetId).Run
          ((manager.forget request).eval w).2 operations w' →
        ∀ (reader : BrainManager) (query : BrainRecallQuery) (answer : BrainRecallResult),
          query.includeArchived = false → ((reader.recall query).eval w').1 = .ok answer →
            answer.Omits request.targetId) := by
  have hforget : wp (manager.forget request) (fun _ r w' => ∀ value, r = .ok value → _) [] w :=
    manager.wp_forget_performs request w
  obtain ⟨hmode, hbrain⟩ := hforget value h
  have hiff := forgotten_iff_severs w.brain (fun n => w.around.clock (w.around.ticks + n))
    request.targetId hkind hmode
  rw [← hbrain] at hiff
  refine ⟨hiff, fun hsevered operations w' hrun reader query answer hquery hanswer => ?_⟩
  have haway := away_unwriting hrun (hiff.mpr hsevered)
  obtain ⟨read, hread, rfl⟩ := (reader.recall_ok query).mp hanswer
  exact ((reader.yields_readRecall hquery w' haway).2 read hread).answer query

/-! ## A contact that is forgotten -/

/-- The contact is archived, with what it wrote. -/
def archiveContact : BrainForget := ⟨"person", "contact", "archive", ""⟩

/-- The world then. -/
def withoutContact : World :=
  { contactWorld (channelScope "1") with
    around := { countingSurroundings with ticks := 3, statements := 3 }
    brain := ⟨[{ contactRow (channelScope "1") with archived := true }],
      [{ contactFactRow (channelScope "1") with archived := true, updatedAt := 1000000000 }],
      [], [], []⟩ }

theorem forget_contact : (plainBrain.forget archiveContact).eval (contactWorld (channelScope "1")) =
    (.ok ⟨true, "archive", "contact"⟩, withoutContact) := by
  rfl

theorem severs_contact :
    (contactWorld (channelScope "1")).brain.Severs "entity" "archive" "contact" where
  entity _ := ⟨rfl, fun row hrow => by
    obtain rfl := List.mem_singleton.mp (List.mem_filter.mp hrow).1
    rfl⟩
  task h := by simp at h
  relations h := by simp at h

/-- Two writes that do not mention the contact. -/
def otherWrites : List BrainWrite :=
  [.forget ⟨"fact", "greeting", "archive", ""⟩, .relation "knows" "alice" "bob" "\x7b\x7d" 1 false]

/-- What the second one writes. -/
def acquaintanceRow : RelationRow where
  relationId := "relation:" ++ @promptHash jsonExternals "knows:alice:bob"
  relationKind := "knows"
  fromEntityId := "alice"
  toEntityId := "bob"
  metadataJson := "\x7b\x7d"
  confidence := 1
  archived := false
  createdAt := 4000000000
  updatedAt := 4000000000

/-- The world after them. -/
def afterWrites : World :=
  { withoutContact with
    around := { countingSurroundings with ticks := 5, statements := 5 }
    brain := { withoutContact.brain with relations := [acquaintanceRow] } }

theorem run_otherWrites :
    (unwriting "contact").Run withoutContact
      (otherWrites.map (@BrainWrite.run jsonExternals plainBrain)) afterWrites := by
  have hforget := @BrainWrite.unwriting_step jsonExternals plainBrain "contact"
    (.forget ⟨"fact", "greeting", "archive", ""⟩) trivial withoutContact
  refine .cons hforget (.single ?_)
  have hrelation := @BrainWrite.unwriting_step jsonExternals plainBrain "contact"
    (.relation "knows" "alice" "bob" "\x7b\x7d" 1 false) ⟨by decide, by decide⟩
  exact hrelation _

theorem readRecall_afterWrites :
    ((@BrainManager.readRecall jsonExternals plainBrain channelQuery).eval afterWrites).1 =
      .ok ⟨[], [], [], [BrainManager.relationRecord acquaintanceRow], [], ["fact"], []⟩ := by
  have hcutoff : shift (countingSurroundings.clock 5) (-2592000000000000) =
      some (-2591995000000000) := by
    decide
  exact @BrainManager.readRecall_ok jsonExternals plainBrain channelQuery afterWrites _ _
    ⟨[], [], [], [BrainManager.relationRecord acquaintanceRow], [], ["fact"], []⟩ rfl
    (fun _ => rfl)
    (@BrainManager.Lasting.mk jsonExternals _ (fun _ _ => rfl) (fun _ _ => rfl) fun _ _ => rfl)
    retention_contact hcutoff rfl rfl rfl rfl (hits_contact _ (by simp))
    (hits_contact _ (by simp)) (hits_contact _ (by simp))

/-- A recall that answers after the contact is forgotten and others are written omits it. -/
theorem forgotten_recall_contact :
    ∃ answer, ((@BrainManager.recall jsonExternals plainBrain channelQuery).eval
        afterWrites).1 = .ok answer ∧ answer.Omits "contact" := by
  have hok : ((plainBrain.forget archiveContact).eval (contactWorld (channelScope "1"))).1 =
      .ok ⟨true, "archive", "contact"⟩ := by
    rw [forget_contact]
  have hrun : (unwriting "contact").Run
      ((plainBrain.forget archiveContact).eval (contactWorld (channelScope "1"))).2
        (otherWrites.map (@BrainWrite.run jsonExternals plainBrain)) afterWrites := by
    rw [forget_contact]
    exact run_otherWrites
  have hrecall := (@BrainManager.recall_ok jsonExternals plainBrain channelQuery _ _).mpr
    ⟨_, readRecall_afterWrites, rfl⟩
  exact ⟨_, hrecall, (@forgotten_recall jsonExternals plainBrain archiveContact _ _
    (Or.inl rfl) hok).2 severs_contact _ afterWrites hrun plainBrain channelQuery _ rfl hrecall⟩

/-! ## A task about a contact -/

/-- A task, archived or not. -/
def aboutTaskRow (archived : Bool) : TaskRow where
  taskId := "task"
  status := "open"
  priority := "normal"
  dueAt := none
  encryptedBlobJson := ""
  salience := 1
  confidence := 1
  fingerprint := "call"
  archived := archived
  sourceRef := "message"
  createdAt := 0
  updatedAt := 0

/-- The task is about the contact. -/
def aboutRelationRow : RelationRow where
  relationId := "relation"
  relationKind := "about"
  fromEntityId := "task"
  toEntityId := "contact"
  metadataJson := "\x7b\x7d"
  confidence := 1
  archived := false
  createdAt := 0
  updatedAt := 0

/-- The world of the contact, and the task about it, at some time. -/
def aboutWorld (archived : Bool) (ticks statements : Nat) : World :=
  { contactWorld (channelScope "1") with
    around := { countingSurroundings with ticks := ticks, statements := statements }
    brain := ⟨[contactRow (channelScope "1")], [contactFactRow (channelScope "1")],
      [aboutRelationRow], [aboutTaskRow archived], []⟩ }

/-- The task is archived. -/
def archiveTask : BrainForget := ⟨"task", "task", "archive", ""⟩

theorem forget_about : (plainBrain.forget archiveTask).eval (aboutWorld false 0 0) =
    (.ok ⟨true, "archive", "task"⟩, aboutWorld true 1 1) := by
  rfl

/-- What a recall reads then. -/
def aboutRecollection : Recollection :=
  { contactRecollection (channelScope "1") with
    relations := [BrainManager.relationRecord aboutRelationRow] }

theorem lasting_about : @BrainManager.Lasting jsonExternals (aboutWorld true 1 1).brain :=
  have h := lasting_contact (channelScope "1")
  @BrainManager.Lasting.mk jsonExternals _ (@h.entities) (@h.facts) fun _ _ => rfl

theorem readRecall_about :
    ((@BrainManager.readRecall jsonExternals plainBrain channelQuery).eval
      (aboutWorld true 1 1)).1 = .ok aboutRecollection := by
  have hcutoff : shift (countingSurroundings.clock 1) (-2592000000000000) =
      some (-2591999000000000) := by
    decide +kernel
  exact @BrainManager.readRecall_ok jsonExternals plainBrain channelQuery
    (aboutWorld true 1 1) _ _ aboutRecollection rfl (fun _ => rfl) lasting_about
    retention_contact hcutoff (entityRecords_contact _) (factRecords_contact _) rfl rfl
    (hits_contact _ (by simp)) (hits_contact _ (by simp)) (hits_contact _ (by simp))

/-- A recall in channel 1 still has the relation. -/
theorem touched_about :
    BrainManager.relationRecord aboutRelationRow ∈
      (@Recollection.result jsonExternals aboutRecollection channelQuery).relations := by
  rw [@Recollection.result_eq jsonExternals]
  decide +kernel

/-- After a task is archived, a recall has its relations. -/
theorem forgotten_recall_fails :
    ¬ ∀ [Externals] (manager : BrainManager) (request : BrainForget) (w w' : World)
        (value : BrainForgetResult) (query : BrainRecallQuery) (answer : BrainRecallResult),
      (normalizeForgetTargetKind request.targetKind = "entity" ∨
          normalizeForgetTargetKind request.targetKind = "task") →
        (manager.forget request).eval w = (.ok value, w') → query.includeArchived = false →
          ((manager.recall query).eval w').1 = .ok answer → answer.Omits request.targetId := by
  intro h
  have hrecall : ((@BrainManager.recall jsonExternals plainBrain channelQuery).eval
      (aboutWorld true 1 1)).1 =
        .ok (@Recollection.result jsonExternals aboutRecollection channelQuery) :=
    (@BrainManager.recall_ok jsonExternals plainBrain channelQuery _ _).mpr
      ⟨_, readRecall_about, rfl⟩
  have homits := @h jsonExternals plainBrain archiveTask _ _ _ channelQuery _ (Or.inr rfl)
    forget_about rfl hrecall
  exact (homits.relations _ touched_about).1 rfl

end OpenPinch
