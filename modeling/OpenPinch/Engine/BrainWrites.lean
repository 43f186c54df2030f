import OpenPinch.Engine.BrainFrames
import OpenPinch.Engine.BrainIndex

/-!
# What the upserts write

An upsert of an entity, a fact or a task that returns has encrypted the texts of
its input and put a row with them under its identifier.
-/

namespace OpenPinch

open Lib (Op wp Table.upsertOn)
open EngineOp (Relates closed_relates)

/-- The world after a nonce is drawn. -/
def World.drawn (w : World) : World :=
  { w with around := { w.around with nonces := w.around.nonces + 1 } }

namespace BrainManager

variable [Externals] {manager : BrainManager}

/-! ## Payloads -/

/-- The text under which a payload is stored. -/
def Stores (manager : BrainManager) (fields values : List String) (blobJson : String) : Prop :=
  ∃ nonce blob, manager.encryption.encryptText nonce
      (Externals.jsonText (.obj (fields.zip (values.map .str)))) = .ok blob ∧
    blobJson = Externals.jsonText blob.toJson

/-- A payload that is encrypted takes a nonce and nothing else. -/
theorem wp_encryptPayload {fields values : List String}
    {post : List Event → Except Fault String → World → Prop} {labels : List Event} {w : World}
    (hfails : ∀ labels e, post labels (.error e) w.drawn)
    (h : ∀ labels blobJson, manager.Stores fields values blobJson →
      post labels (.ok blobJson) w.drawn) :
    wp (manager.encryptPayload fields values) post labels w := by
  refine Op.wp_bind (Op.wp_bind (Op.wp_stmt (Op.andThen_ok ?_)))
  cases hblob : manager.encryption.encryptText (w.around.nonce w.around.nonces)
      (Externals.jsonText (.obj (fields.zip (values.map .str)))) with
  | error message => exact Op.wp_fail (hfails _ _)
  | ok blob => exact Op.wp_pure (Op.andThen_ok (Op.wp_pure (h _ _ ⟨_, blob, hblob, rfl⟩)))

/-! ## Rows -/

omit [Externals] in
/-- An update of the brain, and what comes after it without another one.  An error
comes before the update or after it. -/
theorem wp_write {α : Type} {f : BrainTables → BrainTables} {rest : EngineOp α} {a : α}
    {labels : List Event} {w : World} (hrest : Relates Eq rest)
    (hvalue : ∀ w b, (Lib.Prog.eval rest w).1 = .ok b → b = a) :
    wp (EngineOp.guarded .brain (Stmt.execute f) >>= fun _ => rest : EngineOp α)
      (fun _ r w' => (∀ b, r = .ok b → b = a ∧ w'.brain = f w.brain) ∧
        (w'.brain = w.brain ∨ w'.brain = f w.brain)) labels w := by
  cases hrefused : w.around.refuses w.around.statements with
  | true =>
      exact Op.wp_bind (EngineOp.wp_guarded_error (Stmt.run_execute_refused hrefused)
        ⟨nofun, Or.inl rfl⟩)
  | false =>
      refine Op.wp_bind (EngineOp.wp_guarded (Stmt.run_execute hrefused) (Op.andThen_ok ?_))
      have hafter := (hrest.eval (fun _ => rfl) (fun _ _ _ => Eq.trans)
        { w with around := Stmt.sent w.around, brain := f w.brain }).2.symm
      exact ⟨fun b hb => ⟨hvalue _ b hb, hafter⟩, Or.inr hafter⟩

omit [Externals] in
/-- The value behind a composition. -/
theorem value_of_bind_pure {α β : Type} {p : EngineOp α} {a b : β} {w : World}
    (h : (Lib.Prog.eval (p >>= fun _ => pure a : EngineOp β) w).1 = .ok b) : b = a := by
  obtain ⟨_, -, h⟩ := Op.bind_ok.mp h
  exact (Except.ok.inj h).symm

/-- The row of an input, with its payload and a time. -/
def entityRow (input : EntityUpsert) (blobJson : String) (now : Instant) : EntityRow where
  entityId := input.entityId
  entityKind := input.kind
  subtype := input.subtype
  encryptedBlobJson := blobJson
  salience := input.salience
  confidence := input.confidence
  fingerprint := fingerprint s!"{input.title} {input.content} {input.scopeJson}"
  archived := false
  sourceRef := input.sourceRef
  createdAt := now
  updatedAt := now

def factRow (input : FactUpsert) (blobJson : String) (now : Instant) : FactRow where
  factId := input.factId
  entityId := input.entityId
  encryptedBlobJson := blobJson
  salience := input.salience
  confidence := input.confidence
  fingerprint := fingerprint input.content
  archived := false
  sourceRef := input.sourceRef
  createdAt := now
  updatedAt := now

def taskRow (taskId : String) (input : TaskUpsert) (blobJson : String) (now : Instant) :
    TaskRow where
  taskId := taskId
  status := input.status
  priority := input.priority
  dueAt := input.dueAt
  encryptedBlobJson := blobJson
  salience := input.salience
  confidence := input.confidence
  fingerprint := fingerprint s!"{input.title} {input.summary}"
  archived := false
  sourceRef := input.sourceRef
  createdAt := now
  updatedAt := now

/-- An upsert of an entity that returns has written its row. -/
theorem wp_upsertEntity (input : EntityUpsert) (w : World) :
    wp (manager.upsertEntity input) (fun _ r w' => ∀ record, r = .ok record →
      record.id = input.entityId ∧ ∃ blobJson now, manager.Stores entityFields
          [input.title, input.content, input.scopeJson, input.linksJson, input.sourceRef]
          blobJson ∧
        w'.brain = { w.brain with
          entities := Table.upsertOn EntityRow.entityId
            (fun old => { entityRow input blobJson now with createdAt := old.createdAt })
            (entityRow input blobJson now) w.brain.entities }) [] w := by
  unfold upsertEntity
  cases validateEntity input.kind input.subtype with
  | error message => exact Op.wp_bind (Op.wp_fail fun _ hr => nomatch hr)
  | ok u =>
      refine Op.wp_bind (Op.wp_pure (Op.andThen_ok (Op.wp_bind (wp_encryptPayload
        (fun _ _ _ hr => nomatch hr) fun labels blobJson hstores => ?_))))
      refine Op.andThen_ok (Op.wp_bind (EngineOp.wp_now (Op.andThen_ok ?_)))
      refine Lib.wp_mono (wp_write ?_ fun w b => value_of_bind_pure) ?_
      · exact (closed_relates Eq).bind (manager.relates_upsertProjection (fun _ => rfl) _ _ _ _)
          fun _ => (closed_relates Eq).pure _
      · rintro labels r w'' ⟨hwritten, -⟩ record hrecord
        obtain ⟨rfl, hafter⟩ := hwritten record hrecord
        exact ⟨rfl, blobJson, w.around.clock w.around.ticks, hstores, hafter⟩

/-- So has one of a fact. -/
theorem wp_upsertFact (input : FactUpsert) (w : World) :
    wp (manager.upsertFact input) (fun _ r w' => ∀ record, r = .ok record →
      record.id = input.factId ∧ ∃ blobJson now, manager.Stores factFields
          [input.content, input.scopeJson, input.sourceRef] blobJson ∧
        w'.brain = { w.brain with
          facts := Table.upsertOn FactRow.factId
            (fun old => { factRow input blobJson now with createdAt := old.createdAt })
            (factRow input blobJson now) w.brain.facts }) [] w := by
  unfold upsertFact
  refine Op.wp_bind (wp_encryptPayload (fun _ _ _ hr => nomatch hr)
    fun labels blobJson hstores => ?_)
  refine Op.andThen_ok (Op.wp_bind (EngineOp.wp_now (Op.andThen_ok ?_)))
  refine Lib.wp_mono (wp_write ?_ fun w b => value_of_bind_pure) ?_
  · exact (closed_relates Eq).bind (manager.relates_upsertProjection (fun _ => rfl) _ _ _ _)
      fun _ => (closed_relates Eq).pure _
  · rintro labels r w'' ⟨hwritten, -⟩ record hrecord
    obtain ⟨rfl, hafter⟩ := hwritten record hrecord
    exact ⟨rfl, blobJson, w.around.clock w.around.ticks, hstores, hafter⟩

/-- The row of a task has been written at an instant, with its payload. -/
def WritesTask (manager : BrainManager) (taskId : String) (input : TaskUpsert) (now : Instant)
    (t t' : BrainTables) : Prop :=
  ∃ blobJson, manager.Stores taskFields
      [input.title, input.summary, input.scopeJson, input.linksJson, input.sourceRef] blobJson ∧
    t' = { t with
      tasks := Table.upsertOn TaskRow.taskId
        (fun old => { taskRow taskId input blobJson now with createdAt := old.createdAt })
        (taskRow taskId input blobJson now) t.tasks }

/-- And one of a task.  One that fails has written it or not. -/
theorem wp_upsertTask {input : TaskUpsert} {taskId : String} (hid : input.taskId = some taskId)
    (w : World) :
    wp (manager.upsertTask input) (fun _ r w' =>
      (∀ record, r = .ok record → record.id = taskId ∧
        manager.WritesTask taskId input (w.around.clock w.around.ticks) w.brain w'.brain) ∧
      (w'.brain = w.brain ∨
        manager.WritesTask taskId input (w.around.clock w.around.ticks) w.brain w'.brain))
      [] w := by
  unfold upsertTask
  rw [hid]
  cases validateTaskStatus input.status with
  | error message => exact Op.wp_bind (Op.wp_fail ⟨nofun, Or.inl rfl⟩)
  | ok u =>
      refine Op.wp_bind (Op.wp_pure (Op.andThen_ok (Op.wp_bind (wp_encryptPayload
        (fun _ _ => ⟨nofun, Or.inl rfl⟩) fun labels blobJson hstores => ?_))))
      refine Op.andThen_ok (Op.wp_bind (EngineOp.wp_now (Op.andThen_ok ?_)))
      refine Lib.wp_mono (wp_write ?_ fun w b hb =>
        value_of_bind_pure (Op.bind_ok.mp hb).choose_spec.2) ?_
      · refine (closed_relates Eq).bind
          (manager.relates_upsertProjection (fun _ => rfl) _ _ _ _) fun _ => ?_
        exact (closed_relates Eq).bind (manager.relates_upsertProjection (fun _ => rfl) _ _ _ _)
          fun _ => (closed_relates Eq).pure _
      · rintro labels r w' ⟨hvalue, hafter⟩
        refine ⟨fun record hrecord => ?_,
          hafter.imp id fun hwritten => ⟨blobJson, hstores, hwritten⟩⟩
        obtain ⟨rfl, hwritten⟩ := hvalue record hrecord
        exact ⟨rfl, blobJson, hstores, hwritten⟩

/-! ## Relations and the log -/

/-- The same entities, facts and tasks. -/
structure SameRows (t t' : BrainTables) : Prop where
  entities : t'.entities = t.entities
  facts : t'.facts = t.facts
  tasks : t'.tasks = t.tasks

omit [Externals] in
theorem SameRows.refl (t : BrainTables) : SameRows t t := ⟨rfl, rfl, rfl⟩

omit [Externals] in
theorem SameRows.trans (t t' t'' : BrainTables) (h : SameRows t t') (h' : SameRows t' t'') :
    SameRows t t'' :=
  ⟨h'.entities.trans h.entities, h'.facts.trans h.facts, h'.tasks.trans h.tasks⟩

theorem sameRows_upsertRelation (kind fromId toId metadataJson : String) (confidence : Rat)
    (archived : Bool) :
    Relates SameRows (upsertRelation kind fromId toId metadataJson confidence archived) :=
  relates_upsertRelation SameRows.refl fun _ _ _ => ⟨rfl, rfl, rfl⟩

theorem sameRows_linkRecord (recordId recordKind linksJson sourceRef : String) :
    Relates SameRows (linkRecord recordId recordKind linksJson sourceRef) :=
  (closed_relates SameRows).each (fun _ => (closed_relates SameRows).bind
    (sameRows_upsertRelation _ _ _ _ _ _) fun _ => (closed_relates SameRows).pure ()) _

omit [Externals] in
theorem sameRows_recordIngest (sourceRef sourceKind fingerprintValue targetJson : String) :
    Relates SameRows (recordIngest sourceRef sourceKind fingerprintValue targetJson) :=
  relates_recordIngest SameRows.refl SameRows.trans (fun _ _ => ⟨rfl, rfl, rfl⟩) _ _ _ _

end BrainManager

/-! ## Operations that return -/

/-- The database refuses nothing. -/
def World.AcceptsAll (w : World) : Prop := ∀ n, w.around.refuses n = false

namespace EngineOp

variable {α β : Type}

/-- The operation returns where the database refuses nothing. -/
def Succeeds (p : EngineOp α) : Prop :=
  ∀ w : World, w.AcceptsAll → ∃ a, (Lib.Prog.eval p w).1 = .ok a ∧ (Lib.Prog.eval p w).2.AcceptsAll

theorem succeeds_of_wp {p : EngineOp α} (h : ∀ w : World, w.AcceptsAll →
    wp p (fun _ r w' => ∃ a, r = .ok a ∧ w'.AcceptsAll) [] w) : Succeeds p := h

theorem Succeeds.wp {p : EngineOp α} (h : Succeeds p)
    {post : List Event → Except Fault α → World → Prop} {labels : List Event} {w : World}
    (hw : w.AcceptsAll) (hpost : ∀ labels a w', w'.AcceptsAll → post labels (.ok a) w') :
    wp p post labels w := by
  obtain ⟨a, ha, hw'⟩ := h w hw
  show post _ (Lib.Prog.eval p w).1 _
  rw [ha]
  exact hpost _ a _ hw'

theorem succeeds_pure (a : α) : Succeeds (Pure.pure a : EngineOp α) := fun _ hw => ⟨a, rfl, hw⟩

theorem Succeeds.bind {p : EngineOp α} {f : α → EngineOp β} (hp : Succeeds p)
    (hf : ∀ a, Succeeds (f a)) : Succeeds (p >>= f) :=
  succeeds_of_wp fun _ hw => Op.wp_bind (hp.wp hw fun _ a _ hw' => Op.andThen_ok
    ((hf a).wp hw' fun _ b _ hw'' => ⟨b, rfl, hw''⟩))

theorem Succeeds.ignore {p : EngineOp α} (hp : Succeeds p) : Succeeds (ignore p) :=
  succeeds_of_wp fun _ hw => wp_ignore (hp.wp hw fun _ _ _ hw' => ⟨nofun, (), rfl, hw'⟩)

theorem Succeeds.each {f : α → EngineOp Unit} (hf : ∀ a, Succeeds (f a)) (as : List α) :
    Succeeds (Op.each f as) := by
  induction as with
  | nil => exact succeeds_pure ()
  | cons a as ih => exact (hf a).bind fun _ => ih

theorem succeeds_now : Succeeds now := fun _ hw => ⟨_, rfl, hw⟩

theorem succeeds_execute (f : BrainTables → BrainTables) :
    Succeeds (guarded .brain (Stmt.execute f)) :=
  succeeds_of_wp fun _ hw => wp_guarded (Stmt.run_execute (hw _)) ⟨(), rfl, hw⟩

end EngineOp

namespace BrainManager

open EngineOp (Succeeds succeeds_pure succeeds_of_wp succeeds_now succeeds_execute)

variable [Externals] {manager : BrainManager}

theorem succeeds_upsertProjection (hencrypts : manager.encryption.Encrypts)
    (nameSpace key content metadataJson : String) :
    Succeeds (manager.upsertProjection nameSpace key content metadataJson) :=
  succeeds_of_wp fun _ hw => manager.wp_upsertProjection hencrypts (hw _)
    fun _ _ _ _ hlater => ⟨(), rfl, fun n => (congrFun hlater.refuses n).trans (hw n)⟩

theorem succeeds_encryptPayload (hencrypts : manager.encryption.Encrypts)
    (fields values : List String) : Succeeds (manager.encryptPayload fields values) := by
  intro w hw
  obtain ⟨blob, hblob⟩ := hencrypts (w.around.nonce w.around.nonces)
    (Externals.jsonText (.obj (fields.zip (values.map .str))))
  have hrun : wp (manager.encryptPayload fields values)
      (fun _ r w' => ∃ a, r = .ok a ∧ w'.AcceptsAll) [] w := by
    refine Op.wp_bind (Op.wp_bind (Op.wp_stmt (Op.andThen_ok ?_)))
    rw [hblob]
    exact Op.wp_pure (Op.andThen_ok (Op.wp_pure ⟨_, rfl, hw⟩))
  exact hrun

/-- An upsert of a task with a known status returns. -/
theorem succeeds_upsertTask (hencrypts : manager.encryption.Encrypts) {input : TaskUpsert}
    (hstatus : validateTaskStatus input.status = .ok ()) : Succeeds (manager.upsertTask input) := by
  unfold upsertTask
  rw [hstatus]
  refine (succeeds_pure ()).bind fun _ => ?_
  refine (succeeds_encryptPayload hencrypts _ _).bind fun blobJson => ?_
  refine succeeds_now.bind fun now => (succeeds_execute _).bind fun _ => ?_
  refine (succeeds_upsertProjection hencrypts _ _ _ _).bind fun _ => ?_
  exact (succeeds_upsertProjection hencrypts _ _ _ _).bind fun _ => succeeds_pure _

end BrainManager

end OpenPinch
