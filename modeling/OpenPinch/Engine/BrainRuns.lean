import OpenPinch.Engine.BrainForget
import OpenPinch.Engine.BrainFrames

/-!
# Runs of the brain

The operations of brains one after the other, on a database that is empty at
first and may refuse any statement.  Every state they reach is keyed: the rows
are told apart by their identifiers, and a relation is stored under the digest
of its kind and its ends.
-/

namespace OpenPinch

open Lib (System Table.updateWhere Table.deleteWhere Table.map_updateWhere Table.mem_updateWhere
  Table.nodup_deleteWhere Table.nodup_upsertOn Table.upsert_eq_some Table.mem_deleteWhere)

/-! ## Keyed tables -/

section

variable [Externals]

/-- The identifier of a relation. -/
def relationIdOf (kind fromId toId : String) : String :=
  let digest := promptHash s!"{kind}:{fromId}:{toId}"
  s!"relation:{digest}"

/-- What the unique constraint of the relations is on. -/
def RelationRow.triple (row : RelationRow) : String × String × String :=
  (row.relationKind, row.fromEntityId, row.toEntityId)

/-- The relation is stored under the digest of its kind and its ends. -/
def RelationRow.Digested (row : RelationRow) : Prop :=
  row.relationId = relationIdOf row.relationKind row.fromEntityId row.toEntityId

/-- The primary keys of the tables of the brain. -/
structure BrainTables.Keyed (t : BrainTables) : Prop where
  entities : (t.entities.map EntityRow.entityId).Nodup
  facts : (t.facts.map FactRow.factId).Nodup
  relations : (t.relations.map RelationRow.relationId).Nodup
  tasks : (t.tasks.map TaskRow.taskId).Nodup

/-- With the relations under their digests. -/
structure BrainTables.WellKeyed (t : BrainTables) : Prop extends t.Keyed where
  digested : ∀ row ∈ t.relations, row.Digested

/-- The tables stay keyed. -/
def StaysKeyed (t t' : BrainTables) : Prop := t.WellKeyed → t'.WellKeyed

theorem StaysKeyed.refl (t : BrainTables) : StaysKeyed t t := id

theorem StaysKeyed.trans (t t' t'' : BrainTables) (h : StaysKeyed t t') (h' : StaysKeyed t' t'') :
    StaysKeyed t t'' :=
  fun ht => h' (h ht)

variable {t : BrainTables}

theorem staysKeyed_entities {rows : List EntityRow}
    (h : (t.entities.map EntityRow.entityId).Nodup → (rows.map EntityRow.entityId).Nodup) :
    StaysKeyed t { t with entities := rows } :=
  fun ht => ⟨⟨h ht.entities, ht.facts, ht.relations, ht.tasks⟩, ht.digested⟩

theorem staysKeyed_facts {rows : List FactRow}
    (h : (t.facts.map FactRow.factId).Nodup → (rows.map FactRow.factId).Nodup) :
    StaysKeyed t { t with facts := rows } :=
  fun ht => ⟨⟨ht.entities, h ht.facts, ht.relations, ht.tasks⟩, ht.digested⟩

theorem staysKeyed_tasks {rows : List TaskRow}
    (h : (t.tasks.map TaskRow.taskId).Nodup → (rows.map TaskRow.taskId).Nodup) :
    StaysKeyed t { t with tasks := rows } :=
  fun ht => ⟨⟨ht.entities, ht.facts, ht.relations, h ht.tasks⟩, ht.digested⟩

theorem staysKeyed_relations {rows : List RelationRow}
    (h : (t.relations.map RelationRow.relationId).Nodup →
      (rows.map RelationRow.relationId).Nodup)
    (hdigested : (∀ row ∈ t.relations, row.Digested) → ∀ row ∈ rows, row.Digested) :
    StaysKeyed t { t with relations := rows } :=
  fun ht => ⟨⟨ht.entities, ht.facts, h ht.relations, ht.tasks⟩, hdigested ht.digested⟩

/-! ### Updates and deletions -/

theorem staysKeyed_updateEntities {test : EntityRow → Bool} {change : EntityRow → EntityRow}
    (h : ∀ row, (change row).entityId = row.entityId) :
    StaysKeyed t { t with entities := Table.updateWhere test change t.entities } :=
  staysKeyed_entities fun ht => by rwa [Table.map_updateWhere h]

theorem staysKeyed_updateFacts {test : FactRow → Bool} {change : FactRow → FactRow}
    (h : ∀ row, (change row).factId = row.factId) :
    StaysKeyed t { t with facts := Table.updateWhere test change t.facts } :=
  staysKeyed_facts fun ht => by rwa [Table.map_updateWhere h]

theorem staysKeyed_updateTasks {test : TaskRow → Bool} {change : TaskRow → TaskRow}
    (h : ∀ row, (change row).taskId = row.taskId) :
    StaysKeyed t { t with tasks := Table.updateWhere test change t.tasks } :=
  staysKeyed_tasks fun ht => by rwa [Table.map_updateWhere h]

theorem staysKeyed_updateRelations {test : RelationRow → Bool}
    {change : RelationRow → RelationRow}
    (h : ∀ row, (change row).relationId = row.relationId ∧ (change row).triple = row.triple) :
    StaysKeyed t { t with relations := Table.updateWhere test change t.relations } := by
  refine staysKeyed_relations (fun ht => ?_) fun ht row hrow => ?_
  · rwa [Table.map_updateWhere fun row => (h row).1]
  · obtain ⟨old, hold, rfl⟩ := Table.mem_updateWhere.mp hrow
    split
    · obtain ⟨hid, htriple⟩ := h old
      obtain ⟨hkind, hends⟩ := Prod.mk.inj htriple
      obtain ⟨hfrom, hto⟩ := Prod.mk.inj hends
      rw [RelationRow.Digested, hid, hkind, hfrom, hto]
      exact ht old hold
    · exact ht old hold

theorem staysKeyed_deleteFacts (test : FactRow → Bool) :
    StaysKeyed t { t with facts := Table.deleteWhere test t.facts } :=
  staysKeyed_facts fun ht => Table.nodup_deleteWhere ht test

theorem staysKeyed_deleteRelations (test : RelationRow → Bool) :
    StaysKeyed t { t with relations := Table.deleteWhere test t.relations } :=
  staysKeyed_relations (fun ht => Table.nodup_deleteWhere ht test) fun ht row hrow =>
    ht row (Table.mem_deleteWhere.mp hrow).1

end

/-! ## Operations -/

namespace BrainManager

open EngineOp (Relates closed_relates relates_now relates_brain)
open Stmt (Preserves preserves_bind preserves_now preserves_execute preserves_insert
  preserves_fail)

section

variable [Externals]

theorem retains_keyed : Retains StaysKeyed where
  refl := StaysKeyed.refl
  trans := StaysKeyed.trans
  entities _ _ _ := staysKeyed_updateEntities fun _ => rfl
  facts _ _ _ := staysKeyed_updateFacts fun _ => rfl
  tasks _ _ _ := staysKeyed_updateTasks fun _ => rfl

theorem relates_upsertRelation_keyed (kind fromId toId metadataJson : String) (confidence : Rat)
    (archived : Bool) :
    Relates StaysKeyed (upsertRelation kind fromId toId metadataJson confidence archived) := by
  have hclosed := closed_relates StaysKeyed
  refine hclosed.bind (hclosed.ofExcept _) fun _ => ?_
  refine hclosed.bind (relates_now StaysKeyed.refl) fun now => ?_
  refine hclosed.bind (relates_brain (preserves_insert StaysKeyed.refl fun t t' hupsert => ?_))
    fun _ => hclosed.pure _
  obtain ⟨rows, hrows, rfl⟩ := Option.map_eq_some_iff.mp hupsert
  rcases Table.upsert_eq_some.mp hrows with ⟨-, rfl⟩ | ⟨-, hfree, rfl⟩
  · exact staysKeyed_updateRelations fun _ => ⟨rfl, rfl⟩
  · refine staysKeyed_relations (fun ht => ?_) fun ht row hrow => ?_
    · rw [List.map_append, List.map_singleton]
      refine ht.append (List.nodup_singleton _) fun id hid hnew => ?_
      obtain ⟨row, hrow, rfl⟩ := List.mem_map.mp hid
      have hclash := List.any_eq_false.mp hfree row hrow
      exact hclash (beq_iff_eq.mpr (List.mem_singleton.mp hnew))
    · rcases List.mem_append.mp hrow with hbefore | hnew
      · exact ht row hbefore
      · cases List.mem_singleton.mp hnew
        rfl

/-- The parts of the operations keep the tables keyed. -/
theorem parts_keyed (manager : BrainManager) : manager.Parts fun _ p => Relates StaysKeyed p where
  toClosed := closed_relates StaysKeyed
  now := relates_now StaysKeyed.refl
  upsertEntity _ := manager.relates_upsertEntity StaysKeyed.refl fun _ _ _ =>
    staysKeyed_entities (Table.nodup_upsertOn fun _ => by rfl)
  upsertFact _ := manager.relates_upsertFact StaysKeyed.refl fun _ _ _ _ =>
    staysKeyed_facts (Table.nodup_upsertOn fun _ => by rfl)
  upsertTask _ := manager.relates_upsertTask StaysKeyed.refl fun _ _ _ =>
    staysKeyed_tasks (Table.nodup_upsertOn fun _ => by rfl)
  upsertRelation := relates_upsertRelation_keyed
  recordIngest := relates_recordIngest StaysKeyed.refl StaysKeyed.trans fun _ _ ht =>
    ⟨⟨ht.entities, ht.facts, ht.relations, ht.tasks⟩, ht.digested⟩
  listEntities := (manager.reading_relates retains_keyed).listEntities
  listFacts := (manager.reading_relates retains_keyed).listFacts
  listRelations := (manager.reading_relates retains_keyed).listRelations
  listTasks := (manager.reading_relates retains_keyed).listTasks
  queryProjectionHits := (manager.reading_relates retains_keyed).queryProjectionHits
  projectSuggestion := (manager.reading_relates retains_keyed).projectSuggestion
  retain := (manager.reading_relates retains_keyed).retain

theorem keyed_forgetStmt (targetKind mode targetId : String) :
    (forgetStmt targetKind mode targetId).Preserves StaysKeyed := by
  have hstep {f : BrainTables → BrainTables} (hf : ∀ t, StaysKeyed t (f t)) :
      (Stmt.execute f).Preserves StaysKeyed :=
    preserves_execute StaysKeyed.refl hf
  have htimed {m : Instant → Stmt BrainTables Unit} (hm : ∀ now, (m now).Preserves StaysKeyed) :
      (Stmt.now >>= m).Preserves StaysKeyed :=
    preserves_bind StaysKeyed.trans (preserves_now StaysKeyed.refl) hm
  unfold forgetStmt
  split
  · refine htimed fun now => preserves_bind StaysKeyed.trans (hstep fun t => ?_) fun _ => ?_
    · exact staysKeyed_updateEntities fun _ => rfl
    refine htimed fun now => preserves_bind StaysKeyed.trans (hstep fun t => ?_) fun _ => ?_
    · exact staysKeyed_updateFacts fun _ => rfl
    exact htimed fun now => hstep fun t => staysKeyed_updateRelations fun _ => ⟨rfl, rfl⟩
  · exact htimed fun now => hstep fun t => staysKeyed_updateTasks fun _ => rfl
  · exact htimed fun now => hstep fun t => staysKeyed_updateFacts fun _ => rfl
  · exact htimed fun now => hstep fun t => staysKeyed_updateRelations fun _ => ⟨rfl, rfl⟩
  · refine preserves_bind StaysKeyed.trans (hstep fun t => staysKeyed_deleteFacts _) fun _ => ?_
    refine preserves_bind StaysKeyed.trans (hstep fun t => staysKeyed_deleteRelations _) fun _ => ?_
    exact hstep fun t => staysKeyed_entities fun ht => Table.nodup_deleteWhere ht _
  · refine preserves_bind StaysKeyed.trans (hstep fun t => ?_) fun _ => ?_
    · exact staysKeyed_tasks fun ht => Table.nodup_deleteWhere ht _
    exact hstep fun t => staysKeyed_deleteRelations _
  · exact hstep fun t => staysKeyed_deleteFacts _
  · exact hstep fun t => staysKeyed_deleteRelations _
  · exact preserves_fail StaysKeyed.refl _

theorem keyed_forget (manager : BrainManager) (request : BrainForget) :
    Relates StaysKeyed (manager.forget request) := by
  have hclosed := closed_relates StaysKeyed
  refine hclosed.bind (hclosed.requireEnabled manager) fun _ => ?_
  refine hclosed.bind (relates_brain (keyed_forgetStmt _ _ _)) fun _ => ?_
  exact hclosed.bind (relates_dropProjections StaysKeyed.refl _ _) fun _ => hclosed.pure _

end

end BrainManager

/-! ## Runs -/

section

variable [Externals]

open EngineOp (Relates closed_relates)

theorem BrainCall.keyed (manager : BrainManager) (call : BrainCall) :
    Relates StaysKeyed (call.op manager) := by
  refine BrainCall.closed (C := fun _ p => Relates StaysKeyed p) (closed_relates _)
    (fun other _ => other.parts_keyed) fun hapart => ?_
  cases call with
  | forget request => exact manager.keyed_forget request
  | upsertProjection nameSpace key content metadataJson =>
      exact manager.relates_upsertProjection StaysKeyed.refl _ _ _ _
  | deleteProjection nameSpace key =>
      exact BrainManager.relates_deleteProjection StaysKeyed.refl _ _
  | _ => cases hapart

/-- The tables of a new database. -/
def BrainTables.empty : BrainTables := ⟨[], [], [], [], []⟩

/-- The operations of brains, one after the other, from tables without rows. -/
def brainRuns : System World BrainStep :=
  System.ofStep (fun w => w.brain = BrainTables.empty) (fun _ _ => True) BrainStep.next?

/-- Every state that the operations reach is keyed. -/
theorem keyed_reachable {w : World} (h : brainRuns.Reachable w) : w.brain.WellKeyed := by
  refine h.invariant (P := fun w => w.brain.WellKeyed) (fun w hempty => ?_) ?_
  · rw [hempty]
    exact ⟨⟨List.nodup_nil, List.nodup_nil, List.nodup_nil, List.nodup_nil⟩, nofun⟩
  · rintro w step w' ⟨-, hnext⟩ hw
    unfold BrainStep.next? at hnext
    split at hnext
    · cases hnext
    · cases hnext
      exact ((BrainCall.keyed step.manager step.call).eval StaysKeyed.refl StaysKeyed.trans
        (w.refusing step.refused)).2 hw

end

end OpenPinch
