import OpenPinch.Engine.BrainRuns

/-!
# Relations that take the identifier of another

The identifier of a relation is the digest of its kind and its ends, joined by
colons, while the conflict clause of the upsert is on the three of them.
Identifiers have colons themselves, so two relations may have the same joined
text, and then the second one violates the primary key.
-/

namespace OpenPinch

open Lib (Op System wp Table.upsert Table.upsert_eq_some)

section

variable [Externals]

/-- No other relation in the tables has the digest of this one. -/
def BrainTables.Admits (t : BrainTables) (kind fromId toId : String) : Prop :=
  ∀ row ∈ t.relations,
    relationIdOf row.relationKind row.fromEntityId row.toEntityId = relationIdOf kind fromId toId →
      row.triple = (kind, fromId, toId)

/-- The row of a relation. -/
def relationRow (kind fromId toId metadataJson : String) (confidence : Rat) (archived : Bool)
    (now : Instant) : RelationRow where
  relationId := relationIdOf kind fromId toId
  relationKind := kind
  fromEntityId := fromId
  toEntityId := toId
  metadataJson := metadataJson
  confidence := confidence
  archived := archived
  createdAt := now
  updatedAt := now

/-- The relations after an upsert.  None when it violates a constraint. -/
def upsertRelationRows (row : RelationRow) (rows : List RelationRow) : Option (List RelationRow) :=
  let target (other : RelationRow) : Bool := other.relationKind == row.relationKind &&
    other.fromEntityId == row.fromEntityId && other.toEntityId == row.toEntityId
  let change (old : RelationRow) : RelationRow :=
    { old with
      metadataJson := row.metadataJson
      confidence := row.confidence
      archived := row.archived
      updatedAt := row.updatedAt }
  Table.upsert (·.relationId == row.relationId) target change row rows

omit [Externals] in
/-- The target of an upsert is the relation itself. -/
theorem RelationRow.isTarget_iff {row other : RelationRow} :
    (other.relationKind == row.relationKind && other.fromEntityId == row.fromEntityId &&
      other.toEntityId == row.toEntityId) = true ↔ other.triple = row.triple := by
  simp [RelationRow.triple, and_assoc]

/-- A digested row has the identifier of its triple. -/
theorem RelationRow.Digested.id_eq {row other : RelationRow} (h : row.Digested)
    (hother : other.Digested) (htriple : row.triple = other.triple) :
    row.relationId = other.relationId := by
  obtain ⟨hkind, hends⟩ := Prod.mk.inj htriple
  obtain ⟨hfrom, hto⟩ := Prod.mk.inj hends
  rw [h, hother, hkind, hfrom, hto]

/-- In keyed tables an upsert finds no conflict exactly when they admit the relation. -/
theorem BrainTables.WellKeyed.admits_iff {t : BrainTables} {row : RelationRow} (ht : t.WellKeyed)
    (hrow : row.Digested) :
    (∃ rows, upsertRelationRows row t.relations = some rows) ↔
      t.Admits row.relationKind row.fromEntityId row.toEntityId := by
  simp only [upsertRelationRows, Table.upsert_eq_some]
  constructor
  · rintro ⟨rows, ⟨hany, -⟩ | ⟨-, hfree, -⟩⟩ other hother hdigest
    · -- the relation is there, and the identifier is its own
      obtain ⟨own, hown, htarget⟩ := List.any_eq_true.mp hany
      have htriple := RelationRow.isTarget_iff.mp htarget
      have hid : own.relationId = row.relationId := (ht.digested own hown).id_eq hrow htriple
      have hsame : other.relationId = own.relationId :=
        ((ht.digested other hother).trans (hdigest.trans hrow.symm)).trans hid.symm
      rw [List.inj_on_of_nodup_map ht.relations hother hown hsame]
      exact htriple
    · have hid : other.relationId = row.relationId :=
        (ht.digested other hother).trans (hdigest.trans hrow.symm)
      exact absurd (beq_iff_eq.mpr hid) (List.any_eq_false.mp hfree other hother)
  · intro h
    cases hany : t.relations.any fun other => other.relationKind == row.relationKind &&
        other.fromEntityId == row.fromEntityId && other.toEntityId == row.toEntityId with
    | true => exact ⟨_, Or.inl ⟨rfl, rfl⟩⟩
    | false =>
        refine ⟨_, Or.inr ⟨rfl, List.any_eq_false.mpr fun other hother hclash => ?_, rfl⟩⟩
        have hdigest := (ht.digested other hother).symm.trans ((eq_of_beq hclash).trans hrow)
        exact List.any_eq_false.mp hany other hother
          (RelationRow.isTarget_iff.mpr (h other hother hdigest))

/-- The upsert of a relation of a known kind. -/
theorem upsertRelation_eq {kind fromId toId metadataJson : String} {confidence : Rat}
    {archived : Bool} (hkind : validateRelationKind kind = .ok ()) :
    BrainManager.upsertRelation kind fromId toId metadataJson confidence archived = (do
      let now ← EngineOp.now
      EngineOp.guarded .brain (Stmt.insert fun t =>
        (upsertRelationRows (relationRow kind fromId toId metadataJson confidence archived now)
          t.relations).map fun rows => { t with relations := rows })
      return ⟨relationIdOf kind fromId toId, kind, fromId, toId, metadataJson, confidence, now,
        now⟩) := by
  unfold BrainManager.upsertRelation
  rw [hkind]
  rfl

/-- An upsert that the database accepts succeeds when the row finds no conflict. -/
theorem wp_upsertRelation {kind : String} (hkind : validateRelationKind kind = .ok ())
    (fromId toId metadataJson : String) (confidence : Rat) (archived : Bool) {w : World}
    (haccepted : w.around.refuses w.around.statements = false) :
    wp (BrainManager.upsertRelation kind fromId toId metadataJson confidence archived)
      (fun _ r _ => (∃ record, r = .ok record) ↔
        ∃ rows, upsertRelationRows (relationRow kind fromId toId metadataJson confidence archived
          (w.around.clock w.around.ticks)) w.brain.relations = some rows) [] w := by
  rw [upsertRelation_eq hkind]
  refine Op.wp_bind (EngineOp.wp_now (Op.andThen_ok (Op.wp_bind (Op.wp_guarded ?_))))
  rw [View.result_run, Stmt.result_insert]
  cases hrows : upsertRelationRows (relationRow kind fromId toId metadataJson confidence archived
      (w.around.clock w.around.ticks)) w.brain.relations with
  | none => simp [haccepted, View.brain, hrows, Op.andThen]
  | some rows =>
      simp only [haccepted, View.brain, hrows, Bool.false_eq_true, if_false, Option.map_some]
      exact Op.andThen_ok (Op.wp_pure (iff_of_true ⟨_, rfl⟩ ⟨rows, rfl⟩))

/-- In every state that the operations reach, the upsert of a relation succeeds exactly when no
other relation has its digest. -/
theorem relation_upserts {w : World} (h : brainRuns.Reachable w) {kind : String}
    (hkind : validateRelationKind kind = .ok ()) (fromId toId metadataJson : String)
    (confidence : Rat) (archived : Bool)
    (haccepted : w.around.refuses w.around.statements = false) :
    (∃ record, ((BrainManager.upsertRelation kind fromId toId metadataJson confidence
        archived).eval w).1 = .ok record) ↔ w.brain.Admits kind fromId toId := by
  exact (wp_upsertRelation hkind fromId toId metadataJson confidence archived haccepted).trans
    ((keyed_reachable h).admits_iff (by rfl))

end

/-! ## Nested identifiers -/

/-- A task that is linked to an identifier with a colon. -/
def nestedTask : BrainTaskUpdate where
  taskId := "a"
  status := "open"
  priority := ""
  dueAt := none
  summary := ""
  linksJson := "[\"b:c\"]"
  sourceRef := ""

/-- The world after the task is stored. -/
theorem nested_reachable :
    ∃ w, (@brainRuns jsonExternals).Reachable w ∧
      w.brain.relations.map RelationRow.triple = [("about", "a", "b:c")] ∧
        w.around.refuses w.around.statements = false := by
  have hrun : (System.play (@BrainStep.next? jsonExternals) (fun _ _ => true)
      [plainStep (.updateTaskRecord nestedTask)]
      (World.fresh countingSurroundings fun _ => .ok "")).map (fun w =>
        (w.brain.relations.map RelationRow.triple, w.around.refuses w.around.statements)) =
      some ([("about", "a", "b:c")], false) := by
    decide +kernel
  obtain ⟨w, hw, hleft⟩ := Option.map_eq_some_iff.mp hrun
  obtain ⟨htriples, haccepted⟩ := Prod.mk.inj hleft
  exact ⟨w, System.reachable_of_play (fun _ _ _ _ => trivial) rfl hw, htriples, haccepted⟩

theorem relation_upserts_nested :
    ∃ w, (@brainRuns jsonExternals).Reachable w ∧ ∃ record,
      ((@BrainManager.upsertRelation jsonExternals "about" "a" "b:c" "" 1 false).eval w).1 =
        .ok record := by
  obtain ⟨w, hw, htriples, haccepted⟩ := nested_reachable
  refine ⟨w, hw, (@relation_upserts jsonExternals w hw "about" rfl "a" "b:c" "" 1 false
    haccepted).mpr fun row hrow _ => ?_⟩
  have htriple := List.mem_map_of_mem (f := RelationRow.triple) hrow
  rwa [htriples, List.mem_singleton] at htriple

/-- The task `a` is about `b:c`.  Then no relation says that `a:b` is about `c`. -/
theorem relation_upserts_fails :
    ¬ ∀ [Externals] (w : World), brainRuns.Reachable w →
      ∀ kind fromId toId metadataJson confidence archived, validateRelationKind kind = .ok () →
        w.around.refuses w.around.statements = false →
          ∃ record, ((BrainManager.upsertRelation kind fromId toId metadataJson confidence
            archived).eval w).1 = .ok record := by
  intro h
  obtain ⟨w, hw, htriples, haccepted⟩ := nested_reachable
  have hok := @h jsonExternals w hw "about" "a:b" "c" "" 1 false rfl haccepted
  have hfree := (@wp_upsertRelation jsonExternals "about" rfl "a:b" "c" "" 1 false w haccepted).mp
    hok
  have hadmits := (@BrainTables.WellKeyed.admits_iff jsonExternals w.brain _
    (@keyed_reachable jsonExternals w hw) (by rfl)).mp hfree
  obtain ⟨row, hrow, htriple⟩ := List.mem_map.mp (htriples ▸ List.mem_singleton.mpr rfl :
    ("about", "a", "b:c") ∈ w.brain.relations.map RelationRow.triple)
  have hother := hadmits row hrow (by
    obtain ⟨hkind, hends⟩ := Prod.mk.inj htriple
    obtain ⟨hfrom, hto⟩ := Prod.mk.inj hends
    rw [hkind, hfrom, hto]
    rfl)
  rw [htriple] at hother
  have hends : "a" = "a:b" := (Prod.mk.inj (Prod.mk.inj hother).2).1
  exact absurd hends (by decide)

end OpenPinch
