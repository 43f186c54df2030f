import OpenPinch.Engine.LockDiscipline
import OpenPinch.Lib.Transition

/-!
# The search index of the brain

Entities, facts and tasks are rows of their own tables and, under the same
identifiers, rows of the vector memory in three namespaces.
`World.IndexMatches` says that the two agree, and `Indexed` adds what the
database still refuses.

Every upsert writes first the one and then the other, so the operations maintain
`Indexed` as long as the database does not refuse the second of two statements.
`forget` deletes the projections of its target only, whatever rows it deletes.
-/

namespace OpenPinch

open Lib (Op Prog wp Table.upsertOn Table.updateWhere Table.map_updateWhere Table.mem_map_upsertOn)
open Lib.Prog (Acts Maintains)

/-! ## Tables and namespaces -/

/-- The tables with a namespace in the vector memory. -/
inductive BrainTable where
  | entities
  | facts
  | tasks
deriving DecidableEq, Repr

/-- The namespace of a table. -/
def BrainTable.nameSpace : BrainTable → String
  | .entities => "brain-entities"
  | .facts => "brain-facts"
  | .tasks => "brain-tasks"

theorem BrainTable.nameSpace_injective {table other : BrainTable}
    (h : table.nameSpace = other.nameSpace) : table = other := by
  cases table <;> cases other <;> first | rfl | exact absurd h (by decide)

theorem BrainTable.nameSpace_ne_suggestions (table : BrainTable) :
    table.nameSpace ≠ "brain-suggestions" := by
  cases table <;> decide

/-- The identifiers in a table. -/
def BrainTables.ids (t : BrainTables) : BrainTable → List String
  | .entities => t.entities.map EntityRow.entityId
  | .facts => t.facts.map FactRow.factId
  | .tasks => t.tasks.map TaskRow.taskId

/-- Namespace and key of a row. -/
def VectorMemoryRow.address (row : VectorMemoryRow) : String × String := (row.nameSpace, row.key)

/-- The keys in the namespaces are the identifiers in the tables. -/
def World.IndexMatches (w : World) : Prop :=
  ∀ table key, (table.nameSpace, key) ∈ w.vectorMemory.map VectorMemoryRow.address ↔
    key ∈ w.brain.ids table

/-- Once the database accepts a statement it accepts those that follow. -/
def Surroundings.Steady (around : Surroundings) : Prop :=
  ∀ n m, around.statements ≤ n → n ≤ m → around.refuses n = false → around.refuses m = false

/-- The index matches, in steady surroundings. -/
structure World.Indexed (w : World) : Prop where
  steady : w.around.Steady
  matched : w.IndexMatches

theorem Surroundings.Steady.later {around around' : Surroundings} (h : around.Steady)
    (hlater : Stmt.Later around around') : around'.Steady := by
  intro n m hn hm haccepted
  rw [hlater.refuses] at haccepted ⊢
  exact h n m (Nat.le_trans hlater.statements hn) hm haccepted

/-- A statement that the database accepts is followed by accepted ones. -/
theorem Surroundings.Steady.accepts {around around' : Surroundings} (h : around.Steady)
    (haccepted : around.refuses around.statements = false) (hlater : Stmt.Later around around') :
    around'.refuses around'.statements = false := by
  rw [hlater.refuses]
  exact h _ _ (Nat.le_refl _) hlater.statements haccepted

/-! ## Statements that leave the index alone -/

/-- The identifiers are the same. -/
def SameIds (t t' : BrainTables) : Prop := ∀ table, t'.ids table = t.ids table

theorem SameIds.refl (t : BrainTables) : SameIds t t := fun _ => rfl

theorem SameIds.trans (t t' t'' : BrainTables) (h : SameIds t t') (h' : SameIds t' t'') :
    SameIds t t'' :=
  fun table => (h' table).trans (h table)

theorem sameIds_entities {test : EntityRow → Bool} {change : EntityRow → EntityRow}
    (h : ∀ row, (change row).entityId = row.entityId) (t : BrainTables) :
    SameIds t { t with entities := Table.updateWhere test change t.entities } := by
  intro table
  cases table with
  | entities => exact Table.map_updateWhere h t.entities
  | _ => rfl

theorem sameIds_facts {test : FactRow → Bool} {change : FactRow → FactRow}
    (h : ∀ row, (change row).factId = row.factId) (t : BrainTables) :
    SameIds t { t with facts := Table.updateWhere test change t.facts } := by
  intro table
  cases table with
  | facts => exact Table.map_updateWhere h t.facts
  | _ => rfl

theorem sameIds_tasks {test : TaskRow → Bool} {change : TaskRow → TaskRow}
    (h : ∀ row, (change row).taskId = row.taskId) (t : BrainTables) :
    SameIds t { t with tasks := Table.updateWhere test change t.tasks } := by
  intro table
  cases table with
  | tasks => exact Table.map_updateWhere h t.tasks
  | _ => rfl

/-- The keys in the namespaces of the brain are the same. -/
def SameKeys (rows rows' : List VectorMemoryRow) : Prop :=
  ∀ (table : BrainTable) (key : String),
    (table.nameSpace, key) ∈ rows'.map VectorMemoryRow.address ↔
      (table.nameSpace, key) ∈ rows.map VectorMemoryRow.address

theorem SameKeys.refl (rows : List VectorMemoryRow) : SameKeys rows rows := fun _ _ => Iff.rfl

theorem SameKeys.trans (rows rows' rows'' : List VectorMemoryRow) (h : SameKeys rows rows')
    (h' : SameKeys rows' rows'') : SameKeys rows rows'' :=
  fun table key => (h' table key).trans (h table key)

theorem World.Indexed.update {w w' : World} (h : w.Indexed)
    (hlater : Stmt.Later w.around w'.around) (hids : SameIds w.brain w'.brain)
    (hkeys : SameKeys w.vectorMemory w'.vectorMemory) : w'.Indexed where
  steady := h.steady.later hlater
  matched table key := by
    rw [hkeys table key, hids table]
    exact h.matched table key

/-- An upsert in another namespace. -/
theorem sameKeys_upsertOn {row : VectorMemoryRow}
    (h : ∀ table : BrainTable, table.nameSpace ≠ row.nameSpace) (rows : List VectorMemoryRow) :
    SameKeys rows (Table.upsertOn VectorMemoryRow.address (fun _ => row) row rows) := by
  intro table key
  rw [Table.mem_map_upsertOn fun _ => rfl]
  constructor
  · rintro (hbefore | hrow)
    · exact hbefore
    · exact absurd (congrArg Prod.fst hrow) (h table)
  · exact Or.inl

section

variable {α : Type}

/-- Operations whose every action maintains the index. -/
def Inert (p : EngineOp α) : Prop := Acts (fun _ g => ∀ w : World, w.Indexed → (g w).Indexed) p

theorem inert_outside {m : Stmt Unit α} (hm : m.Advances) : Inert (EngineOp.outside m) := by
  refine Op.acts_stmt fun w hw => hw.update ?_ ?_ ?_
  · rw [View.after_run]
    exact hm (w.around, ())
  · rw [View.after_run]
    exact SameIds.refl w.brain
  · rw [View.after_run]
    exact SameKeys.refl w.vectorMemory

theorem inert_brain {m : Stmt BrainTables α} (hm : m.Preserves SameIds) :
    Inert (EngineOp.guarded .brain m) := by
  refine .lock (.act (fun w hw => hw.update ?_ ?_ ?_) fun _ => .unlock .ret)
  · rw [View.after_run]
    exact hm.advances (w.around, w.brain)
  · rw [View.after_run]
    exact hm.respects (w.around, w.brain)
  · rw [View.after_run]
    exact SameKeys.refl w.vectorMemory

theorem inert_vectorMemory {m : Stmt (List VectorMemoryRow) α} (hm : m.Preserves SameKeys) :
    Inert (EngineOp.guarded .vectorMemory m) := by
  refine .lock (.act (fun w hw => hw.update ?_ ?_ ?_) fun _ => .unlock .ret)
  · rw [View.after_run]
    exact hm.advances (w.around, w.vectorMemory)
  · rw [View.after_run]
    exact SameIds.refl w.brain
  · rw [View.after_run]
    exact hm.respects (w.around, w.vectorMemory)

/-- The lists of the brain. -/
theorem inert_list {ρ β : Type} (f : BrainTables → List ρ) (g : List ρ → Except String β) :
    Inert (EngineOp.guarded .brain do
      let rows ← Stmt.select f
      Stmt.ofExcept (g rows)) :=
  inert_brain (Stmt.preserves_bind SameIds.trans (Stmt.preserves_select SameIds.refl f)
    fun rows => Stmt.preserves_ofExcept SameIds.refl (g rows))

/-! ## The parts of the operations -/

theorem maintains_of_inert {p : EngineOp α} (h : Inert p) : Maintains World.Indexed p :=
  Acts.maintains h

theorem closed_indexed : EngineOp.Closed fun _ p => Maintains World.Indexed p :=
  EngineOp.closed_maintains World.Indexed

theorem maintains_now : Maintains World.Indexed EngineOp.now :=
  maintains_of_inert (inert_outside Stmt.advances_now)

end

/-- The encryption fails on no text. -/
def EncryptionManager.Encrypts [Externals] (encryption : EncryptionManager) : Prop :=
  ∀ nonce text, ∃ blob, encryption.encryptText nonce text = .ok blob

namespace BrainManager

open Stmt (preserves_bind preserves_pure preserves_ofExcept preserves_now preserves_select
  preserves_execute preserves_insert)

variable [Externals] (manager : BrainManager)

theorem maintains_encryptPayload (fields values : List String) :
    Maintains World.Indexed (manager.encryptPayload fields values) := by
  refine closed_indexed.bind (closed_indexed.bind ?_ fun nonce => closed_indexed.ofExcept _)
    fun blob => closed_indexed.pure _
  exact maintains_of_inert (inert_outside Stmt.advances_newNonce)

theorem maintains_upsertProjection {nameSpace : String}
    (h : ∀ table : BrainTable, table.nameSpace ≠ nameSpace) (key content metadataJson : String) :
    Maintains World.Indexed (manager.upsertProjection nameSpace key content metadataJson) := by
  refine closed_indexed.bind (closed_indexed.bind ?_ fun blob => ?_) fun _ =>
    closed_indexed.pure ()
  · refine closed_indexed.bind ?_ fun nonce => closed_indexed.ofExcept _
    exact maintains_of_inert (inert_outside Stmt.advances_newNonce)
  · refine maintains_of_inert (inert_vectorMemory ?_)
    refine preserves_bind SameKeys.trans (preserves_now SameKeys.refl) fun now => ?_
    refine preserves_bind SameKeys.trans (preserves_execute SameKeys.refl ?_) fun _ =>
      preserves_pure SameKeys.refl _
    exact sameKeys_upsertOn h

theorem maintains_upsertRelation (kind fromId toId metadataJson : String) (confidence : Rat)
    (archived : Bool) :
    Maintains World.Indexed
      (upsertRelation kind fromId toId metadataJson confidence archived) := by
  refine closed_indexed.bind (closed_indexed.ofExcept _) fun _ => ?_
  refine closed_indexed.bind maintains_now fun now => ?_
  refine closed_indexed.bind (maintains_of_inert (inert_brain ?_)) fun _ =>
    closed_indexed.pure _
  refine preserves_insert SameIds.refl fun t t' h => ?_
  obtain ⟨rows, -, rfl⟩ := Option.map_eq_some_iff.mp h
  exact SameIds.refl t

omit [Externals] in
theorem maintains_recordIngest (sourceRef sourceKind fingerprintValue targetJson : String) :
    Maintains World.Indexed (recordIngest sourceRef sourceKind fingerprintValue targetJson) := by
  refine maintains_of_inert (inert_brain ?_)
  refine preserves_bind SameIds.trans (preserves_now SameIds.refl) fun now => ?_
  exact preserves_execute SameIds.refl fun t => SameIds.refl t

theorem maintains_applyRetention : Maintains World.Indexed manager.applyRetention := by
  refine closed_indexed.bind maintains_now fun now => ?_
  refine closed_indexed.bind (closed_indexed.orPanic _) fun age => ?_
  refine closed_indexed.bind (closed_indexed.orPanic _) fun cutoff => ?_
  refine maintains_of_inert (inert_brain ?_)
  refine preserves_bind SameIds.trans (preserves_now SameIds.refl) fun now => ?_
  refine preserves_bind SameIds.trans (preserves_execute SameIds.refl fun t => ?_) fun _ => ?_
  · exact sameIds_entities (fun _ => by rfl) t
  refine preserves_bind SameIds.trans (preserves_now SameIds.refl) fun now => ?_
  refine preserves_bind SameIds.trans (preserves_execute SameIds.refl fun t => ?_) fun _ => ?_
  · exact sameIds_facts (fun _ => by rfl) t
  refine preserves_bind SameIds.trans (preserves_now SameIds.refl) fun now => ?_
  exact preserves_execute SameIds.refl fun t => sameIds_tasks (fun _ => by rfl) t

/-! ## Writing a row and its projection -/

theorem wp_upsertProjection (hencrypts : manager.encryption.Encrypts)
    {nameSpace key content metadataJson : String}
    {post : List Event → Except Fault Unit → World → Prop} {labels : List Event} {w : World}
    (haccepted : w.around.refuses w.around.statements = false)
    (h : ∀ labels (row : VectorMemoryRow) around, row.address = (nameSpace, key) →
      Stmt.Later w.around around → post labels (.ok ())
        { w with
          around := around
          vectorMemory := Table.upsertOn VectorMemoryRow.address (fun _ => row) row
            w.vectorMemory }) :
    wp (manager.upsertProjection nameSpace key content metadataJson) post labels w := by
  obtain ⟨blob, hblob⟩ := hencrypts (w.around.nonce w.around.nonces) content
  refine Op.wp_bind (Op.wp_bind (Op.wp_bind (Op.wp_stmt (Op.andThen_ok ?_))))
  rw [hblob]
  refine Op.wp_pure (Op.andThen_ok ?_)
  refine EngineOp.wp_guarded ((Stmt.run_bind rfl).trans
    (Stmt.run_bind (Stmt.run_execute haccepted))) (Op.andThen_ok (Op.wp_pure ?_))
  exact h _ _ _ rfl ⟨rfl, Nat.le_succ _, rfl, Nat.le_succ _⟩

/-- A statement that adds one identifier to a table, and the projection under the
same key, before an operation that maintains the index. -/
theorem maintains_write {α : Type} (hencrypts : manager.encryption.Encrypts) (table : BrainTable)
    {key content metadataJson : String} {f : BrainTables → BrainTables} {rest : EngineOp α}
    (hf : ∀ t other id, id ∈ (f t).ids other ↔ id ∈ t.ids other ∨ other = table ∧ id = key)
    (hrest : Maintains World.Indexed rest) :
    Maintains World.Indexed ((do
      EngineOp.guarded .brain (Stmt.execute f)
      manager.upsertProjection table.nameSpace key content metadataJson
      rest) : EngineOp α) := by
  intro w hw
  show wp _ (fun _ _ w => w.Indexed) [] w
  cases hrefused : w.around.refuses w.around.statements with
  | true =>
      refine Op.wp_bind (EngineOp.wp_guarded_error (Stmt.run_execute_refused hrefused) ?_)
      exact hw.update (Stmt.later_sent w.around) (SameIds.refl _) (SameKeys.refl _)
  | false =>
      refine Op.wp_bind (EngineOp.wp_guarded (Stmt.run_execute hrefused) (Op.andThen_ok ?_))
      have hnext := hw.steady.accepts hrefused (Stmt.later_sent w.around)
      refine Op.wp_bind (manager.wp_upsertProjection hencrypts hnext
        fun labels row around haddress hlater => Op.andThen_ok (hrest _ ⟨?_, ?_⟩))
      · exact hw.steady.later ((Stmt.later_sent w.around).trans hlater)
      · intro other id
        show (other.nameSpace, id) ∈ (Table.upsertOn VectorMemoryRow.address (fun _ => row) row
          w.vectorMemory).map VectorMemoryRow.address ↔ id ∈ (f w.brain).ids other
        rw [Table.mem_map_upsertOn fun _ => rfl, haddress, hf, hw.matched other id, Prod.mk.injEq]
        constructor
        · rintro (hbefore | ⟨hname, hid⟩)
          · exact Or.inl hbefore
          · exact Or.inr ⟨BrainTable.nameSpace_injective hname, hid⟩
        · rintro (hbefore | ⟨rfl, hid⟩)
          · exact Or.inl hbefore
          · exact Or.inr ⟨rfl, hid⟩

theorem maintains_upsertEntity (hencrypts : manager.encryption.Encrypts) (input : EntityUpsert) :
    Maintains World.Indexed (manager.upsertEntity input) := by
  refine closed_indexed.bind (closed_indexed.ofExcept _) fun _ => ?_
  refine closed_indexed.bind (manager.maintains_encryptPayload _ _) fun blobJson => ?_
  refine closed_indexed.bind maintains_now fun now => ?_
  refine manager.maintains_write hencrypts .entities (fun t other id => ?_)
    (closed_indexed.pure _)
  cases other with
  | entities => exact (Table.mem_map_upsertOn fun _ => by rfl).trans (by simp [BrainTables.ids])
  | _ => simp [BrainTables.ids]

theorem maintains_upsertFact (hencrypts : manager.encryption.Encrypts) (input : FactUpsert) :
    Maintains World.Indexed (manager.upsertFact input) := by
  refine closed_indexed.bind (manager.maintains_encryptPayload _ _) fun blobJson => ?_
  refine closed_indexed.bind maintains_now fun now => ?_
  refine manager.maintains_write hencrypts .facts (fun t other id => ?_) (closed_indexed.pure _)
  cases other with
  | facts => exact (Table.mem_map_upsertOn fun _ => by rfl).trans (by simp [BrainTables.ids])
  | _ => simp [BrainTables.ids]

theorem maintains_upsertTask (hencrypts : manager.encryption.Encrypts) (input : TaskUpsert) :
    Maintains World.Indexed (manager.upsertTask input) := by
  refine closed_indexed.bind (closed_indexed.ofExcept _) fun _ => ?_
  refine closed_indexed.bind (manager.maintains_encryptPayload _ _) fun blobJson => ?_
  refine closed_indexed.bind maintains_now fun now => ?_
  refine manager.maintains_write hencrypts .tasks (fun t other id => ?_)
    (closed_indexed.bind ?_ fun _ => closed_indexed.pure _)
  · cases other with
    | tasks => exact (Table.mem_map_upsertOn fun _ => by rfl).trans (by simp [BrainTables.ids])
    | _ => simp [BrainTables.ids]
  · exact manager.maintains_upsertProjection BrainTable.nameSpace_ne_suggestions _ _ _

/-- The parts of the operations maintain the index. -/
theorem parts_indexed (hencrypts : manager.encryption.Encrypts) :
    manager.Parts fun _ p => Maintains World.Indexed p where
  toClosed := closed_indexed
  now := maintains_now
  upsertEntity := manager.maintains_upsertEntity hencrypts
  upsertFact := manager.maintains_upsertFact hencrypts
  upsertTask := manager.maintains_upsertTask hencrypts
  upsertRelation := maintains_upsertRelation
  recordIngest := maintains_recordIngest
  listEntities includeArchived := maintains_of_inert (inert_list _ _)
  listFacts includeArchived := maintains_of_inert (inert_list _ _)
  listRelations includeArchived := maintains_of_inert <| inert_brain <|
    preserves_bind SameIds.trans (preserves_select SameIds.refl _) fun _ =>
      preserves_pure SameIds.refl _
  listTasks includeArchived := maintains_of_inert (inert_list _ _)
  queryProjectionHits nameSpace query limit := by
    refine closed_indexed.bind (maintains_of_inert (inert_vectorMemory ?_)) fun _ =>
      closed_indexed.pure _
    refine preserves_bind SameKeys.trans (preserves_select SameKeys.refl _) fun rows => ?_
    exact preserves_bind SameKeys.trans (preserves_ofExcept SameKeys.refl _) fun records =>
      preserves_pure SameKeys.refl _
  projectSuggestion :=
    manager.maintains_upsertProjection BrainTable.nameSpace_ne_suggestions
  retain := manager.maintains_applyRetention

end BrainManager

end OpenPinch
