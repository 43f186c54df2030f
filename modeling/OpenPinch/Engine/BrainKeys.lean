import OpenPinch.Engine.BrainScopes
import OpenPinch.Engine.RelationKeys
import OpenPinch.Engine.Suggestions

/-!
# The keys of the brain

A row of the brain is told apart by its identifier, a relation by its kind and its
ends, and an entry of the log by its source.  `Writes` says of an operation which
keys it adds to the tables, and that it only fails when a key is missing: once all
of them are there, it returns again and adds nothing.
-/

namespace OpenPinch

open Lib (Op wp Table.upsertOn Table.mem_map_upsertOn Table.map_updateWhere Table.upsert_eq_some)
open Lib.Op (Returns returns_pure returns_fail result)

/-! ## Keys -/

/-- What tells a row of the brain apart. -/
inductive BrainKey where
  | entity (id : String)
  | fact (id : String)
  | task (id : String)
  | relation (kind fromId toId : String)
  | source (sourceRef : String)
deriving DecidableEq, Repr

/-- A row of the tables has the key. -/
def BrainTables.Contains (t : BrainTables) : BrainKey → Prop
  | .entity id => id ∈ t.entities.map EntityRow.entityId
  | .fact id => id ∈ t.facts.map FactRow.factId
  | .task id => id ∈ t.tasks.map TaskRow.taskId
  | .relation kind fromId toId => (kind, fromId, toId) ∈ t.relations.map RelationRow.triple
  | .source sourceRef => sourceRef ∈ t.ingestLog.map IngestRow.sourceRef

/-- The second tables have these keys and those of the first. -/
def Gains (keys : List BrainKey) (t t' : BrainTables) : Prop :=
  ∀ key, t'.Contains key ↔ t.Contains key ∨ key ∈ keys

/-- The same keys. -/
theorem gains_same {t t' : BrainTables} (h : t' = t) : Gains [] t t' := by
  intro key
  rw [h, or_iff_left List.not_mem_nil]

theorem Gains.trans {keys more : List BrainKey} {t t' t'' : BrainTables} (h : Gains keys t t')
    (h' : Gains more t' t'') : Gains (keys ++ more) t t'' := by
  intro key
  rw [h' key, h key, List.mem_append, or_assoc]

/-- Keys that were there are no gain. -/
theorem Gains.none {keys : List BrainKey} {t t' : BrainTables} (h : Gains keys t t')
    (hkeys : ∀ key ∈ keys, t.Contains key) (key : BrainKey) : t'.Contains key ↔ t.Contains key :=
  (h key).trans (or_iff_left_of_imp (hkeys key))

/-! ## Looks at the clock -/

namespace EngineOp

variable {α β : Type}

/-- A run that returns has looked at the clock so many times. -/
def Looks (k : Nat) (p : EngineOp α) : Prop :=
  ∀ clock n, Returns (World.ClockAt clock n) p fun _ => World.ClockAt clock (n + k)

theorem looks_pure (a : α) : Looks 0 (pure a : EngineOp α) := fun _ _ => returns_pure fun _ => id

theorem Looks.bind {k m : Nat} {p : EngineOp α} {f : α → EngineOp β} (hp : Looks k p)
    (hf : ∀ a, Looks m (f a)) : Looks (k + m) (p >>= f) := by
  intro clock n
  rw [← Nat.add_assoc]
  exact (hp clock n).bind fun a => hf a clock (n + k)

theorem looks_ofExcept (r : Except String α) : Looks 0 (ofExcept r) := by
  cases r with
  | ok a => exact looks_pure a
  | error message => exact fun _ _ => returns_fail _

theorem looks_now : Looks 1 now := by
  rintro clock n w a ⟨rfl, rfl⟩ -
  exact ⟨rfl, rfl⟩

theorem looks_newNonce : Looks 0 newNonce := fun _ _ _ _ hw _ => hw

theorem looks_brain {k : Nat} {m : Stmt BrainTables α} (h : m.Looks k) :
    Looks k (guarded .brain m) :=
  fun _ _ => BrainManager.reads_brain h

theorem looks_vectorMemory {k : Nat} {m : Stmt (List VectorMemoryRow) α} (h : m.Looks k) :
    Looks k (guarded .vectorMemory m) := by
  rintro clock n w a ⟨hclock, hticks⟩ ha
  refine returns_guarded (Q := fun _ => World.ClockAt clock (n + k)) (fun b hb => ?_) w a rfl ha
  obtain ⟨hclock', hticks'⟩ := h _ b hb
  exact ⟨hclock'.trans hclock, hticks'.trans (congrArg (· + k) hticks)⟩

end EngineOp

namespace BrainManager

open EngineOp (Looks looks_pure looks_ofExcept looks_now looks_newNonce looks_brain
  looks_vectorMemory Succeeds succeeds_pure succeeds_now succeeds_execute succeeds_of_wp)

variable [Externals] {manager : BrainManager}

theorem looks_encrypt (text : String) : Looks 0 (manager.encryption.encrypt text) :=
  looks_newNonce.bind fun _ => looks_ofExcept _

theorem looks_encryptPayload (fields values : List String) :
    Looks 0 (manager.encryptPayload fields values) :=
  (looks_encrypt _).bind fun _ => looks_pure _

theorem looks_upsertProjection (nameSpace key content metadataJson : String) :
    Looks 1 (manager.upsertProjection nameSpace key content metadataJson) := by
  refine Looks.bind (m := 0) (Looks.bind (m := 1) (looks_encrypt _) fun blob => ?_) fun _ =>
    looks_pure ()
  refine looks_vectorMemory (Stmt.looks_bind (k := 0) Stmt.looks_now fun now => ?_)
  exact Stmt.looks_bind (k := 0) (Stmt.looks_sql _) fun _ => Stmt.looks_pure _

theorem looks_upsertEntity (input : EntityUpsert) : Looks 2 (manager.upsertEntity input) := by
  unfold upsertEntity
  refine Looks.bind (m := 2) (looks_ofExcept _) fun _ => ?_
  refine Looks.bind (m := 2) (looks_encryptPayload _ _) fun blobJson => ?_
  refine Looks.bind (m := 1) looks_now fun now => ?_
  refine Looks.bind (m := 1) (looks_brain (Stmt.looks_sql _)) fun _ => ?_
  exact Looks.bind (m := 0) (looks_upsertProjection _ _ _ _) fun _ => looks_pure _

theorem looks_upsertFact (input : FactUpsert) : Looks 2 (manager.upsertFact input) := by
  unfold upsertFact
  refine Looks.bind (m := 2) (looks_encryptPayload _ _) fun blobJson => ?_
  refine Looks.bind (m := 1) looks_now fun now => ?_
  refine Looks.bind (m := 1) (looks_brain (Stmt.looks_sql _)) fun _ => ?_
  exact Looks.bind (m := 0) (looks_upsertProjection _ _ _ _) fun _ => looks_pure _

theorem looks_upsertTask (input : TaskUpsert) : Looks 3 (manager.upsertTask input) := by
  unfold upsertTask
  refine Looks.bind (m := 3) (looks_ofExcept _) fun _ => ?_
  refine Looks.bind (m := 3) (looks_encryptPayload _ _) fun blobJson => ?_
  refine Looks.bind (m := 2) looks_now fun now => ?_
  refine Looks.bind (m := 2) (looks_brain (Stmt.looks_sql _)) fun _ => ?_
  refine Looks.bind (m := 1) (looks_upsertProjection _ _ _ _) fun _ => ?_
  exact Looks.bind (m := 0) (looks_upsertProjection _ _ _ _) fun _ => looks_pure _

theorem looks_upsertRelation (kind fromId toId metadataJson : String) (confidence : Rat)
    (archived : Bool) :
    Looks 1 (upsertRelation kind fromId toId metadataJson confidence archived) := by
  unfold upsertRelation
  refine Looks.bind (m := 1) (looks_ofExcept _) fun _ => ?_
  refine Looks.bind (m := 0) looks_now fun now => ?_
  exact Looks.bind (m := 0) (looks_brain (Stmt.looks_sql _)) fun _ => looks_pure _

omit [Externals] in
theorem looks_recordIngest (sourceRef sourceKind fingerprintValue targetJson : String) :
    Looks 1 (recordIngest sourceRef sourceKind fingerprintValue targetJson) :=
  looks_brain (Stmt.looks_bind Stmt.looks_now fun _ => Stmt.looks_sql _)

end BrainManager

/-! ## Operations that return again -/

theorem World.AcceptsAll.later {w w' : World} (h : w.AcceptsAll)
    (hlater : Stmt.Later w.around w'.around) : w'.AcceptsAll :=
  fun n => (congrFun hlater.refuses n).trans (h n)

/-- The second world has the keys of the first and these, and the clock has been looked at so
many times. -/
structure World.Gained (keys : List BrainKey) (looks : Nat) (w w' : World) : Prop where
  gains : Gains keys w.brain w'.brain
  clock : w'.around.clock = w.around.clock
  ticks : w'.around.ticks = w.around.ticks + looks

theorem World.Gained.trans {keys more : List BrainKey} {k m : Nat} {w w' w'' : World}
    (h : w.Gained keys k w') (h' : w'.Gained more m w'') : w.Gained (keys ++ more) (k + m) w'' where
  gains := h.gains.trans h'.gains
  clock := h'.clock.trans h.clock
  ticks := by rw [h'.ticks, h.ticks, Nat.add_assoc]

namespace EngineOp

variable {α β : Type}

theorem Looks.gained {keys : List BrainKey} {k : Nat} {p : EngineOp α} (h : Looks k p) {w : World}
    {a : α} (ha : (Lib.Prog.eval p w).1 = .ok a)
    (hgains : Gains keys w.brain (Lib.Prog.eval p w).2.brain) :
    w.Gained keys k (Lib.Prog.eval p w).2 :=
  ⟨hgains, (h _ _ w a ⟨rfl, rfl⟩ ha).1, (h _ _ w a ⟨rfl, rfl⟩ ha).2⟩

/-- A run that returns adds the keys, and where they are there a run returns. -/
structure Writes (keys : List BrainKey) (looks : Nat) (p : EngineOp α) (Q : α → Prop) : Prop where
  written : ∀ w a, (Lib.Prog.eval p w).1 = .ok a → Q a ∧ w.Gained keys looks (Lib.Prog.eval p w).2
  again : ∀ w : World, w.AcceptsAll → (∀ key ∈ keys, w.brain.Contains key) →
    ∃ a, (Lib.Prog.eval p w).1 = .ok a ∧ (Lib.Prog.eval p w).2.AcceptsAll

variable {keys more : List BrainKey} {k m : Nat} {Q : α → Prop} {R : β → Prop}

theorem writes_pure {a : α} (h : Q a) : Writes [] 0 (pure a : EngineOp α) Q where
  written w b hb := by
    cases hb
    exact ⟨h, gains_same rfl, rfl, rfl⟩
  again w hw _ := ⟨a, rfl, hw⟩

theorem Writes.bind {p : EngineOp α} {f : α → EngineOp β} (hp : Writes keys k p Q)
    (hf : ∀ a, Q a → Writes more m (f a) R) : Writes (keys ++ more) (k + m) (p >>= f) R where
  written w b hb := by
    obtain ⟨a, ha, hb⟩ := Op.bind_ok.mp hb
    obtain ⟨hQ, hgained⟩ := hp.written w a ha
    rw [Op.eval_bind_ok ha]
    obtain ⟨hR, hgained'⟩ := (hf a hQ).written _ b hb
    exact ⟨hR, hgained.trans hgained'⟩
  again w hw hkeys := by
    obtain ⟨a, ha, hw'⟩ := hp.again w hw fun key hkey => hkeys key (List.mem_append_left _ hkey)
    obtain ⟨hQ, hgained⟩ := hp.written w a ha
    rw [Op.eval_bind_ok ha]
    exact (hf a hQ).again _ hw' fun key hkey =>
      (hgained.gains key).mpr (Or.inl (hkeys key (List.mem_append_right _ hkey)))

/-- One operation for each item of a list. -/
theorem writes_collect {keys : α → List BrainKey} {f : α → EngineOp β} {as : List α}
    (hf : ∀ a ∈ as, Writes (keys a) k (f a) fun _ => True) :
    Writes (as.flatMap keys) (k * as.length) (Op.collect f as) fun _ => True := by
  induction as with
  | nil => exact writes_pure trivial
  | cons a as ih =>
      have hrest := ih fun other hother => hf other (List.mem_cons_of_mem _ hother)
      rw [List.flatMap_cons, List.length_cons, Nat.mul_succ, Nat.add_comm,
        ← List.append_nil (as.flatMap keys)]
      exact (hf a List.mem_cons_self).bind fun b _ => hrest.bind fun bs _ => writes_pure trivial

/-- An operation that returns wherever the database refuses nothing. -/
theorem Succeeds.writes {p : EngineOp α} (h : Succeeds p) (hlooks : Looks k p)
    (hgains : ∀ w a, (Lib.Prog.eval p w).1 = .ok a →
      Q a ∧ Gains keys w.brain (Lib.Prog.eval p w).2.brain) : Writes keys k p Q where
  written w a ha := ⟨(hgains w a ha).1, hlooks.gained ha (hgains w a ha).2⟩
  again w hw _ := h w hw

end EngineOp

namespace BrainManager

open EngineOp (Writes writes_pure writes_collect Succeeds succeeds_pure succeeds_now
  succeeds_execute succeeds_of_wp)

variable [Externals] {manager : BrainManager}

/-! ## The upserts -/

theorem succeeds_upsertEntity (hencrypts : manager.encryption.Encrypts) {input : EntityUpsert}
    (hvalid : validateEntity input.kind input.subtype = .ok ()) :
    Succeeds (manager.upsertEntity input) := by
  unfold upsertEntity
  rw [hvalid]
  refine (succeeds_pure ()).bind fun _ => ?_
  refine (succeeds_encryptPayload hencrypts _ _).bind fun blobJson => ?_
  refine succeeds_now.bind fun now => (succeeds_execute _).bind fun _ => ?_
  exact (succeeds_upsertProjection hencrypts _ _ _ _).bind fun _ => succeeds_pure _

theorem succeeds_upsertFact (hencrypts : manager.encryption.Encrypts) (input : FactUpsert) :
    Succeeds (manager.upsertFact input) := by
  unfold upsertFact
  refine (succeeds_encryptPayload hencrypts _ _).bind fun blobJson => ?_
  refine succeeds_now.bind fun now => (succeeds_execute _).bind fun _ => ?_
  exact (succeeds_upsertProjection hencrypts _ _ _ _).bind fun _ => succeeds_pure _

theorem writes_upsertEntity (hencrypts : manager.encryption.Encrypts) {input : EntityUpsert}
    (hvalid : validateEntity input.kind input.subtype = .ok ()) :
    Writes [.entity input.entityId] 2 (manager.upsertEntity input) (·.id = input.entityId) := by
  refine (succeeds_upsertEntity hencrypts hvalid).writes (looks_upsertEntity input)
    fun w record hrecord => ?_
  obtain ⟨hid, blobJson, now, -, hbrain⟩ := wp_upsertEntity input w record hrecord
  refine ⟨hid, fun key => ?_⟩
  rw [hbrain]
  cases key <;> simp [BrainTables.Contains, Table.mem_map_upsertOn, entityRow]

theorem writes_upsertFact (hencrypts : manager.encryption.Encrypts) (input : FactUpsert) :
    Writes [.fact input.factId] 2 (manager.upsertFact input) fun _ => True := by
  refine (succeeds_upsertFact hencrypts input).writes (looks_upsertFact input)
    fun w record hrecord => ?_
  obtain ⟨hid, blobJson, now, -, hbrain⟩ := wp_upsertFact input w record hrecord
  refine ⟨trivial, fun key => ?_⟩
  rw [hbrain]
  cases key <;> simp [BrainTables.Contains, Table.mem_map_upsertOn, factRow]

theorem writes_upsertTask (hencrypts : manager.encryption.Encrypts) {input : TaskUpsert}
    {taskId : String} (hid : input.taskId = some taskId)
    (hstatus : validateTaskStatus input.status = .ok ()) :
    Writes [.task taskId] 3 (manager.upsertTask input) (·.id = taskId) := by
  refine (succeeds_upsertTask hencrypts hstatus).writes (looks_upsertTask input)
    fun w record hrecord => ?_
  obtain ⟨hrecordId, blobJson, -, hbrain⟩ := (@wp_upsertTask _ manager _ _ hid w).1 record hrecord
  refine ⟨hrecordId, fun key => ?_⟩
  rw [hbrain]
  cases key <;> simp [BrainTables.Contains, Table.mem_map_upsertOn, taskRow]

omit [Externals] in
/-- The triples after the upsert of a relation. -/
theorem mem_upsertRelationRows {row : RelationRow} {rows rows' : List RelationRow}
    (h : upsertRelationRows row rows = some rows') (triple : String × String × String) :
    triple ∈ rows'.map RelationRow.triple ↔
      triple ∈ rows.map RelationRow.triple ∨ triple = row.triple := by
  rcases Table.upsert_eq_some.mp h with ⟨hfound, rfl⟩ | ⟨-, -, rfl⟩
  · obtain ⟨old, hold, htarget⟩ := List.any_eq_true.mp hfound
    have htriple := RelationRow.isTarget_iff.mp htarget
    rw [Table.map_updateWhere fun _ => by rfl]
    refine (or_iff_left_of_imp fun heq => ?_).symm
    rw [heq, ← htriple]
    exact List.mem_map_of_mem hold
  · simp

omit [Externals] in
/-- The upsert of a relation that is there finds no conflict. -/
theorem upsertRelationRows_of_mem {row : RelationRow} {rows : List RelationRow}
    (h : row.triple ∈ rows.map RelationRow.triple) :
    ∃ rows', upsertRelationRows row rows = some rows' := by
  obtain ⟨old, hold, htriple⟩ := List.mem_map.mp h
  refine ⟨_, Table.upsert_eq_some.mpr (Or.inl ⟨?_, rfl⟩)⟩
  exact List.any_eq_true.mpr ⟨old, hold, RelationRow.isTarget_iff.mpr htriple⟩

/-- An upsert of a relation that returns has found no conflict. -/
theorem wp_upsertRelation_rows {kind : String} (hkind : validateRelationKind kind = .ok ())
    (fromId toId metadataJson : String) (confidence : Rat) (archived : Bool) (w : World) :
    wp (upsertRelation kind fromId toId metadataJson confidence archived) (fun _ r w' =>
      ∀ record, r = .ok record → ∃ now rows, upsertRelationRows
          (relationRow kind fromId toId metadataJson confidence archived now) w.brain.relations =
            some rows ∧ w'.brain = { w.brain with relations := rows }) [] w := by
  rw [upsertRelation_eq hkind]
  refine Op.wp_bind (EngineOp.wp_now (Op.andThen_ok (Op.wp_bind (Op.wp_guarded ?_))))
  rw [View.result_run, View.after_run]
  cases hresult : result (Stmt.insert fun t : BrainTables => (upsertRelationRows
      (relationRow kind fromId toId metadataJson confidence archived
        (w.around.clock w.around.ticks)) t.relations).map fun rows => { t with relations := rows })
      ({ w.around with ticks := w.around.ticks + 1 }, w.brain) with
  | error e =>
      rw [View.brain, hresult]
      rintro _ ⟨⟩
  | ok u =>
      have hinserted := Stmt.insert_ok hresult
      obtain ⟨rows, hrows, hbrain⟩ := Option.map_eq_some_iff.mp hinserted
      rw [View.brain, hresult]
      exact Op.andThen_ok (Op.wp_pure fun _ _ => ⟨_, rows, hrows, hbrain.symm⟩)

theorem writes_upsertRelation {kind : String} (hkind : validateRelationKind kind = .ok ())
    (fromId toId metadataJson : String) (confidence : Rat) (archived : Bool) :
    Writes [.relation kind fromId toId] 1
      (upsertRelation kind fromId toId metadataJson confidence archived) fun _ => True where
  written w record hrecord := by
    refine ⟨trivial, (looks_upsertRelation kind fromId toId metadataJson confidence
      archived).gained hrecord fun key => ?_⟩
    obtain ⟨now, rows, hrows, hbrain⟩ := wp_upsertRelation_rows hkind fromId toId metadataJson
      confidence archived w record hrecord
    rw [hbrain]
    cases key with
    | relation kind' fromId' toId' =>
        refine (mem_upsertRelationRows hrows _).trans (or_congr_right ?_)
        simp [RelationRow.triple, relationRow]
    | _ => simp [BrainTables.Contains]
  again w hw hkeys := by
    have hlater := ((sameRows_upsertRelation kind fromId toId metadataJson confidence
      archived).eval SameRows.refl SameRows.trans w).1
    obtain ⟨record, hrecord⟩ := (wp_upsertRelation hkind fromId toId metadataJson confidence
      archived (hw _)).mpr (upsertRelationRows_of_mem (hkeys _ List.mem_cons_self))
    exact ⟨record, hrecord, hw.later hlater⟩

omit [Externals] in
theorem succeeds_recordIngest (sourceRef sourceKind fingerprintValue targetJson : String) :
    Succeeds (recordIngest sourceRef sourceKind fingerprintValue targetJson) :=
  succeeds_of_wp fun _ hw => EngineOp.wp_guarded
    ((Stmt.run_bind rfl).trans (Stmt.run_execute (hw _))) ⟨(), rfl, hw⟩

omit [Externals] in
theorem writes_recordIngest (sourceRef sourceKind fingerprintValue targetJson : String) :
    Writes [.source sourceRef] 1 (recordIngest sourceRef sourceKind fingerprintValue targetJson)
      fun _ => True := by
  have hrun (w : World) : wp (recordIngest sourceRef sourceKind fingerprintValue targetJson)
      (fun _ r w' => ∀ u, r = .ok u → ∃ row : IngestRow, row.sourceRef = sourceRef ∧
        w'.brain = { w.brain with
          ingestLog := Table.upsertOn IngestRow.sourceRef (fun _ => row) row
            w.brain.ingestLog }) [] w := by
    cases hrefused : w.around.refuses w.around.statements with
    | true =>
        exact EngineOp.wp_guarded_error
          ((Stmt.run_bind rfl).trans (Stmt.run_execute_refused hrefused)) fun _ h => nomatch h
    | false =>
        exact EngineOp.wp_guarded ((Stmt.run_bind rfl).trans (Stmt.run_execute hrefused))
          fun _ _ => ⟨_, rfl, rfl⟩
  refine (succeeds_recordIngest _ _ _ _).writes (looks_recordIngest _ _ _ _)
    fun w u hu => ⟨trivial, fun key => ?_⟩
  obtain ⟨row, rfl, hbrain⟩ := hrun w u hu
  rw [hbrain]
  cases key <;> simp [BrainTables.Contains, Table.mem_map_upsertOn]

end BrainManager

end OpenPinch
