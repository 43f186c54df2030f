import OpenPinch.Engine.BrainCode

/-!
# What the brain does to its tables

An operation relates the tables of the brain before and after it when each of its
statements does.  The operations that read do so for every relation that
retention respects, and an upsert if the relation allows a row under the
identifier it writes.
-/

namespace OpenPinch

open Lib (Op wp Table.mem_updateWhere Table.upsert Table.upsertOn)
open Lib.Prog (Acts)
open Stmt (Later Preserves preserves_bind preserves_pure preserves_ofExcept preserves_now
  preserves_select preserves_execute preserves_insert)

namespace EngineOp

variable {α : Type} {R : BrainTables → BrainTables → Prop}

/-- Each action relates the tables of the brain before and after it, and leaves
later surroundings. -/
def Relates (R : BrainTables → BrainTables → Prop) (p : EngineOp α) : Prop :=
  Acts (fun _ g => ∀ w : World, Later w.around (g w).around ∧ R w.brain (g w).brain) p

theorem closed_relates (R : BrainTables → BrainTables → Prop) : Closed fun _ p => Relates R p :=
  closed_acts _

theorem Relates.eval {p : EngineOp α} (hrefl : ∀ t, R t t)
    (htrans : ∀ t t' t'', R t t' → R t' t'' → R t t'') (h : Relates R p) (w : World) :
    Later w.around (Lib.Prog.eval p w).2.around ∧ R w.brain (Lib.Prog.eval p w).2.brain :=
  Acts.eval (R := fun w w' : World => Later w.around w'.around ∧ R w.brain w'.brain)
    (fun w => ⟨Later.refl w.around, hrefl w.brain⟩)
    (fun _ _ _ h h' => ⟨h.1.trans h'.1, htrans _ _ _ h.2 h'.2⟩) (fun _ _ h => h) h w

/-- A run of the operation, whatever it returns. -/
theorem Relates.wp_any {p : EngineOp α} (hrefl : ∀ t, R t t)
    (htrans : ∀ t t' t'', R t t' → R t' t'' → R t t'') (h : Relates R p)
    {post : List Event → Except Fault α → World → Prop} {labels : List Event} {w : World}
    (hpost : ∀ labels r w', Later w.around w'.around → R w.brain w'.brain → post labels r w') :
    wp p post labels w :=
  hpost _ _ _ (h.eval hrefl htrans w).1 (h.eval hrefl htrans w).2

theorem relates_outside (hrefl : ∀ t, R t t) {m : Stmt Unit α} (hm : m.Advances) :
    Relates R (outside m) := by
  refine Op.acts_stmt fun w => ?_
  rw [View.after_run]
  exact ⟨hm (w.around, ()), hrefl w.brain⟩

theorem relates_now (hrefl : ∀ t, R t t) : Relates R now :=
  relates_outside hrefl Stmt.advances_now

theorem relates_brain {m : Stmt BrainTables α} (hm : m.Preserves R) :
    Relates R (guarded .brain m) := by
  refine .lock (.act (fun w => ?_) fun _ => .unlock .ret)
  rw [View.after_run]
  exact ⟨hm.advances (w.around, w.brain), hm.respects (w.around, w.brain)⟩

theorem relates_vectorMemory (hrefl : ∀ t, R t t) {m : Stmt (List VectorMemoryRow) α}
    (hm : m.Advances) : Relates R (guarded .vectorMemory m) := by
  refine .lock (.act (fun w => ?_) fun _ => .unlock .ret)
  rw [View.after_run]
  exact ⟨hm (w.around, w.vectorMemory), hrefl w.brain⟩

end EngineOp

namespace BrainManager

open EngineOp (Relates closed_relates relates_outside relates_now relates_brain
  relates_vectorMemory)

variable [Externals] (manager : BrainManager) {R : BrainTables → BrainTables → Prop}

/-! ## Projections and searches -/

theorem relates_encrypt (hrefl : ∀ t, R t t) (text : String) :
    Relates R (manager.encryption.encrypt text) :=
  (closed_relates R).bind (relates_outside hrefl Stmt.advances_newNonce) fun _ =>
    (closed_relates R).ofExcept _

theorem relates_encryptPayload (hrefl : ∀ t, R t t) (fields values : List String) :
    Relates R (manager.encryptPayload fields values) :=
  (closed_relates R).bind (manager.relates_encrypt hrefl _) fun _ => (closed_relates R).pure _

theorem relates_upsertProjection (hrefl : ∀ t, R t t)
    (nameSpace key content metadataJson : String) :
    Relates R (manager.upsertProjection nameSpace key content metadataJson) := by
  have hclosed := closed_relates R
  refine hclosed.bind (hclosed.bind (manager.relates_encrypt hrefl _) fun blob => ?_) fun _ =>
    hclosed.pure ()
  refine relates_vectorMemory hrefl (Stmt.advances_bind Stmt.advances_now fun now => ?_)
  exact Stmt.advances_bind (Stmt.advances_sql _) fun _ => Stmt.advances_pure _

omit [Externals] in
theorem relates_deleteProjection (hrefl : ∀ t, R t t) (nameSpace key : String) :
    Relates R (deleteProjection nameSpace key) :=
  relates_vectorMemory hrefl (Stmt.advances_sql _)

omit [Externals] in
theorem relates_dropProjections (hrefl : ∀ t, R t t) (mode targetId : String) :
    Relates R (dropProjections mode targetId) := by
  have hdrop := fun nameSpace key =>
    (closed_relates R).ignore (relates_deleteProjection hrefl nameSpace key)
  unfold dropProjections
  split
  · refine (closed_relates R).bind (hdrop _ _) fun _ => ?_
    refine (closed_relates R).bind (hdrop _ _) fun _ => ?_
    exact (closed_relates R).bind (hdrop _ _) fun _ => hdrop _ _
  · exact (closed_relates R).pure ()

theorem relates_queryProjectionHits (hrefl : ∀ t, R t t) (nameSpace query : String)
    (limit : Nat) : Relates R (manager.queryProjectionHits nameSpace query limit) := by
  refine (closed_relates R).bind (relates_vectorMemory hrefl ?_) fun _ =>
    (closed_relates R).pure _
  refine Stmt.advances_bind (Stmt.advances_sql _) fun _ => ?_
  exact Stmt.advances_bind (Stmt.advances_ofExcept _) fun _ => Stmt.advances_pure _

/-! ## Operations that read -/

/-- Retention respects a relation. -/
structure Retains (R : BrainTables → BrainTables → Prop) : Prop where
  refl : ∀ t, R t t
  trans : ∀ t t' t'', R t t' → R t' t'' → R t t''
  entities : ∀ t cutoff now, R t { t with entities := decayEntities cutoff now t.entities }
  facts : ∀ t cutoff now, R t { t with facts := decayFacts cutoff now t.facts }
  tasks : ∀ t cutoff now, R t { t with tasks := decayTasks cutoff now t.tasks }

omit [Externals] in
theorem relates_list {ρ β : Type} (hrefl : ∀ t, R t t)
    (htrans : ∀ t t' t'', R t t' → R t' t'' → R t t'') (f : BrainTables → List ρ)
    (g : List ρ → Except String β) :
    Relates R (EngineOp.guarded .brain do
      let rows ← Stmt.select f
      Stmt.ofExcept (g rows)) :=
  relates_brain (preserves_bind htrans (preserves_select hrefl f) fun rows =>
    preserves_ofExcept hrefl (g rows))

theorem relates_findSimilarTask (hrefl : ∀ t, R t t)
    (htrans : ∀ t t' t'', R t t' → R t' t'' → R t t'') (summary scopeJson : String) :
    Relates R (manager.findSimilarTask summary scopeJson) := by
  have hclosed := closed_relates R
  refine hclosed.bind (hclosed.attempt (relates_list hrefl htrans _ _)) fun listed => ?_
  cases listed with
  | error message => exact hclosed.pure none
  | ok tasks => exact hclosed.pure _

theorem relates_applyRetention (h : Retains R) : Relates R manager.applyRetention := by
  have hclosed := closed_relates R
  refine hclosed.bind (relates_now h.refl) fun now => ?_
  refine hclosed.bind (hclosed.orPanic _) fun age => ?_
  refine hclosed.bind (hclosed.orPanic _) fun cutoff => relates_brain ?_
  refine preserves_bind h.trans (preserves_now h.refl) fun now => ?_
  refine preserves_bind h.trans (preserves_execute h.refl fun t => ?_) fun _ => ?_
  · exact h.entities t cutoff now
  refine preserves_bind h.trans (preserves_now h.refl) fun now => ?_
  refine preserves_bind h.trans (preserves_execute h.refl fun t => ?_) fun _ => ?_
  · exact h.facts t cutoff now
  refine preserves_bind h.trans (preserves_now h.refl) fun now => ?_
  exact preserves_execute h.refl fun t => h.tasks t cutoff now

/-- The operations that read do to the tables what retention does. -/
theorem reading_relates (h : Retains R) : manager.Reading fun _ p => Relates R p where
  toClosed := closed_relates R
  now := relates_now h.refl
  listEntities _ := relates_list h.refl h.trans _ _
  listFacts _ := relates_list h.refl h.trans _ _
  listRelations _ := relates_brain (preserves_bind h.trans (preserves_select h.refl _) fun _ =>
    preserves_pure h.refl _)
  listTasks _ := relates_list h.refl h.trans _ _
  queryProjectionHits := manager.relates_queryProjectionHits h.refl
  projectSuggestion := manager.relates_upsertProjection h.refl "brain-suggestions"
  retain := manager.relates_applyRetention h

/-! ## Upserts -/

theorem relates_upsertEntity (hrefl : ∀ t, R t t) {input : EntityUpsert}
    (h : ∀ (t : BrainTables) (row : EntityRow), row.entityId = input.entityId →
      R t { t with
        entities := Table.upsertOn EntityRow.entityId
          (fun old => { row with createdAt := old.createdAt }) row t.entities }) :
    Relates R (manager.upsertEntity input) := by
  have hclosed := closed_relates R
  unfold upsertEntity
  refine hclosed.bind (hclosed.ofExcept _) fun _ => ?_
  refine hclosed.bind (manager.relates_encryptPayload hrefl _ _) fun blobJson => ?_
  refine hclosed.bind (relates_now hrefl) fun now => ?_
  refine hclosed.bind (relates_brain (preserves_execute hrefl fun t => h t _ rfl)) fun _ => ?_
  exact hclosed.bind (manager.relates_upsertProjection hrefl _ _ _ _) fun _ => hclosed.pure _

theorem relates_upsertFact (hrefl : ∀ t, R t t) {input : FactUpsert}
    (h : ∀ (t : BrainTables) (row : FactRow), row.factId = input.factId →
      row.entityId = input.entityId →
      R t { t with
        facts := Table.upsertOn FactRow.factId
          (fun old => { row with createdAt := old.createdAt }) row t.facts }) :
    Relates R (manager.upsertFact input) := by
  have hclosed := closed_relates R
  unfold upsertFact
  refine hclosed.bind (manager.relates_encryptPayload hrefl _ _) fun blobJson => ?_
  refine hclosed.bind (relates_now hrefl) fun now => ?_
  refine hclosed.bind (relates_brain (preserves_execute hrefl fun t => h t _ rfl rfl)) fun _ => ?_
  exact hclosed.bind (manager.relates_upsertProjection hrefl _ _ _ _) fun _ => hclosed.pure _

theorem relates_upsertTask (hrefl : ∀ t, R t t) {input : TaskUpsert}
    (h : ∀ (t : BrainTables) (row : TaskRow),
      row.taskId = input.taskId.getD (taskIdOf input.summary input.scopeJson) →
      R t { t with
        tasks := Table.upsertOn TaskRow.taskId
          (fun old => { row with createdAt := old.createdAt }) row t.tasks }) :
    Relates R (manager.upsertTask input) := by
  have hclosed := closed_relates R
  unfold upsertTask
  refine hclosed.bind (hclosed.ofExcept _) fun _ => ?_
  refine hclosed.bind (manager.relates_encryptPayload hrefl _ _) fun blobJson => ?_
  refine hclosed.bind (relates_now hrefl) fun now => ?_
  refine hclosed.bind (relates_brain (preserves_execute hrefl fun t => h t _ rfl)) fun _ => ?_
  refine hclosed.bind (manager.relates_upsertProjection hrefl _ _ _ _) fun _ => ?_
  exact hclosed.bind (manager.relates_upsertProjection hrefl _ _ _ _) fun _ => hclosed.pure _

/-- A relation is new or updated only between the ends that are given. -/
theorem relates_upsertRelation (hrefl : ∀ t, R t t) {kind fromId toId metadataJson : String}
    {confidence : Rat} {archived : Bool}
    (h : ∀ (t : BrainTables) (rows : List RelationRow),
      (∀ row ∈ rows, row ∈ t.relations ∨ row.fromEntityId = fromId ∧ row.toEntityId = toId) →
      R t { t with relations := rows }) :
    Relates R (upsertRelation kind fromId toId metadataJson confidence archived) := by
  have hclosed := closed_relates R
  refine hclosed.bind (hclosed.ofExcept _) fun _ => ?_
  refine hclosed.bind (relates_now hrefl) fun now => ?_
  refine hclosed.bind (relates_brain (preserves_insert hrefl fun t t' hupsert => ?_)) fun _ =>
    hclosed.pure _
  obtain ⟨rows, hrows, rfl⟩ := Option.map_eq_some_iff.mp hupsert
  refine h t rows fun row hrow => ?_
  unfold Table.upsert at hrows
  split at hrows
  · cases hrows
    obtain ⟨old, hold, rfl⟩ := Table.mem_updateWhere.mp hrow
    split
    · rename_i htarget
      simp only [Bool.and_eq_true, beq_iff_eq] at htarget
      exact Or.inr ⟨htarget.1.2, htarget.2⟩
    · exact Or.inl hold
  · split at hrows
    · cases hrows
    · cases hrows
      rcases List.mem_append.mp hrow with hbefore | hnew
      · exact Or.inl hbefore
      · cases List.mem_singleton.mp hnew
        exact Or.inr ⟨rfl, rfl⟩

omit [Externals] in
theorem relates_recordIngest (hrefl : ∀ t, R t t)
    (htrans : ∀ t t' t'', R t t' → R t' t'' → R t t'')
    (h : ∀ (t : BrainTables) (rows : List IngestRow), R t { t with ingestLog := rows })
    (sourceRef sourceKind fingerprintValue targetJson : String) :
    Relates R (recordIngest sourceRef sourceKind fingerprintValue targetJson) := by
  refine relates_brain (preserves_bind htrans (preserves_now hrefl) fun now => ?_)
  exact preserves_execute hrefl fun t => h t _

end BrainManager

end OpenPinch
