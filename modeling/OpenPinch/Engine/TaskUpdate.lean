import OpenPinch.Engine.Suggestions

/-!
# What an update of a task keeps

`update_task_record` reads what the request leaves out from the task with the
identifier among the 512 newest rows, and writes the whole row.  A task behind
these rows loses its scope, its links and its due date, and a summary loses the
blanks around it.
-/

namespace OpenPinch

open Lib (Op wp Table.mem_descending Table.mem_of_mapM_ok Table.exists_of_mapM_ok
  Table.mapM_ok_of_forall Table.of_mem_upsertOn Table.exists_mem_upsertOn)

/-- What an update may leave alone: the scope, the summary, the links and the due date. -/
def BrainTaskRecord.kept (task : BrainTaskRecord) : String × String × String × Option Instant :=
  (task.scopeJson, task.summary, task.linksJson, task.dueAt)

/-- The same of what is written. -/
def TaskUpsert.kept (input : TaskUpsert) : String × String × String × Option Instant :=
  (input.scopeJson, input.summary, input.linksJson, input.dueAt)

section

variable [Externals]

/-- The identifier of the task that is updated. -/
def BrainTaskUpdate.target (request : BrainTaskUpdate) : String :=
  if request.taskId = "" then s!"task:{promptHash request.summary}" else request.taskId

/-- What is written when this task has been found. -/
def BrainTaskUpdate.input (request : BrainTaskUpdate) (existing : Option BrainTaskRecord) :
    TaskUpsert :=
  let summary := nonEmptyOrDefault request.summary
    ((existing.map BrainTaskRecord.summary).getD request.target)
  { taskId := some request.target
    title := preferredTitle summary summary
    summary := summary
    status := request.status
    priority := if request.priority = "" then "normal" else request.priority
    dueAt := request.dueAt <|> existing.bind BrainTaskRecord.dueAt
    scopeJson := (existing.map BrainTaskRecord.scopeJson).getD "\x7b\x7d"
    linksJson := if request.linksJson = "" then
      (existing.map BrainTaskRecord.linksJson).getD "[]" else request.linksJson
    salience := 4 / 5
    confidence := 19 / 20
    sourceRef := defaultSourceRef request.sourceRef request.target "task-update" }

namespace BrainManager

variable {manager : BrainManager} {request : BrainTaskUpdate}

omit [Externals] in
/-- A list that fails, or that is of the records of the rows. -/
theorem wp_list {ρ β : Type} {f : BrainTables → List ρ} {g : List ρ → Except String β}
    {post : List Event → Except Fault β → World → Prop} {labels : List Event} {w : World}
    (hfails : ∀ labels e w', w'.brain = w.brain → post labels (.error e) w')
    (h : ∀ labels b w', g (f w.brain) = .ok b → w'.brain = w.brain → post labels (.ok b) w') :
    wp (EngineOp.guarded .brain do
      let found ← Stmt.select f
      Stmt.ofExcept (g found)) post labels w := by
  have hbrain := ((relates_list (fun _ => rfl) (fun _ _ _ => Eq.trans) f g).eval
    (fun _ => rfl) (fun _ _ _ => Eq.trans) w).2.symm
  have hvalue := @returns_list w.brain w.vectorMemory ρ β f g w
  show post _ (Lib.Prog.eval _ w).1 (Lib.Prog.eval _ w).2
  cases hrun : (Lib.Prog.eval (EngineOp.guarded .brain do
      let found ← Stmt.select f
      Stmt.ofExcept (g found)) w).1 with
  | error e => exact hfails _ _ _ hbrain
  | ok b => exact h _ _ _ (hvalue b ⟨rfl, rfl⟩ hrun).2 hbrain

/-- The updates that the run makes, with the task that has been found. -/
def Updates (manager : BrainManager) (request : BrainTaskUpdate) (t t' : BrainTables) : Prop :=
  ∃ listed written now, (newest TaskRow.updatedAt TaskRow.archived true t.tasks).mapM
      manager.taskRecord = .ok listed ∧
    manager.WritesTask request.target
      (request.input (listed.find? (·.id == request.target))) now t written ∧
    SameRows written t'

/-- An update that returns has written the task, and one that fails has or has not. -/
theorem wp_updateTaskRecord (w : World) :
    wp (manager.updateTaskRecord request) (fun _ r w' =>
      (∀ task, r = .ok task → manager.Updates request w.brain w'.brain) ∧
      (w'.brain = w.brain ∨ manager.Updates request w.brain w'.brain)) [] w := by
  unfold updateTaskRecord requireEnabled
  cases manager.config.enabled with
  | false => exact Op.wp_bind (Op.wp_fail ⟨nofun, Or.inl rfl⟩)
  | true =>
      refine Op.wp_bind (Op.wp_pure (Op.andThen_ok ?_))
      cases validateTaskStatus request.status with
      | error message => exact Op.wp_bind (Op.wp_fail ⟨nofun, Or.inl rfl⟩)
      | ok u =>
          refine Op.wp_bind (Op.wp_pure (Op.andThen_ok (Op.wp_bind (wp_list
            (fun _ _ _ hbrain => ⟨nofun, Or.inl hbrain⟩)
            fun labels listed w' hlisted hbrain => Op.andThen_ok ?_))))
          refine Op.wp_bind (Lib.wp_frame (Lib.wp_mono (@wp_upsertTask _ manager
            (request.input (listed.find? (·.id == request.target))) _ rfl w') ?_))
          rw [hbrain]
          rintro labels (e | task) w'' ⟨hvalue, hafter⟩
          · exact ⟨nofun, hafter.imp_right fun hwritten =>
              ⟨listed, _, _, hlisted, hwritten, SameRows.refl _⟩⟩
          · refine Op.andThen_ok (Op.wp_bind ((sameRows_linkRecord _ _ _ _).wp_any SameRows.refl
              SameRows.trans fun labels r w''' _ hsame => ?_))
            have hupdates : manager.Updates request w.brain w'''.brain :=
              ⟨listed, _, _, hlisted, (hvalue task rfl).2, hsame⟩
            cases r with
            | error e => exact ⟨nofun, Or.inr hupdates⟩
            | ok u => exact Op.andThen_ok (Op.wp_pure ⟨fun _ _ => hupdates, Or.inr hupdates⟩)

/-! ## The row that is written -/

/-- The rows of the task have these texts and this due date. -/
def Keeps (manager : BrainManager) (id : String)
    (kept : String × String × String × Option Instant) (t : BrainTables) : Prop :=
  ∀ row ∈ t.tasks, row.taskId = id → ∃ task, manager.taskRecord row = .ok task ∧ task.kept = kept

/-- A payload that is stored is read back. -/
theorem taskRecord_stores (json : JsonLaws) (laws : AeadLaws) {input : TaskUpsert}
    {blobJson : String} (hstores : manager.Stores taskFields
      [input.title, input.summary, input.scopeJson, input.linksJson, input.sourceRef] blobJson)
    {row : TaskRow} (hblob : row.encryptedBlobJson = blobJson) (hdue : row.dueAt = input.dueAt) :
    ∃ task, manager.taskRecord row = .ok task ∧ task.kept = input.kept := by
  obtain ⟨nonce, blob, hencrypted, rfl⟩ := hstores
  have hpayload : manager.decryptPayload taskFields (Externals.jsonText blob.toJson) =
      .ok [input.title, input.summary, input.scopeJson, input.linksJson, input.sourceRef] :=
    decryptPayload_stored json laws (by decide) rfl hencrypted
  unfold taskRecord
  rw [hblob, hpayload]
  refine ⟨_, rfl, ?_⟩
  rw [BrainTaskRecord.kept, TaskUpsert.kept, hdue]

theorem keeps_writesTask (json : JsonLaws) (laws : AeadLaws) {taskId : String}
    {input : TaskUpsert} {now : Instant} {t t' : BrainTables}
    (h : manager.WritesTask taskId input now t t') :
    manager.Keeps taskId input.kept t' := by
  obtain ⟨blobJson, hstores, rfl⟩ := h
  intro row hrow hid
  rcases Table.of_mem_upsertOn hrow with rfl | ⟨old, rfl⟩ | ⟨hne, -⟩
  · exact taskRecord_stores json laws hstores rfl rfl
  · exact taskRecord_stores json laws hstores rfl rfl
  · exact absurd hid hne

/-- The row keeps what it had exactly when that is written. -/
theorem keeps_updates_iff (json : JsonLaws) (laws : AeadLaws) {taskId : String}
    {input : TaskUpsert} {now : Instant} {t t' : BrainTables}
    (h : manager.WritesTask taskId input now t t')
    (kept : String × String × String × Option Instant) :
    manager.Keeps taskId kept t' ↔ input.kept = kept := by
  have hkeeps := keeps_writesTask json laws h
  refine ⟨fun hkept => ?_, fun heq => heq ▸ hkeeps⟩
  obtain ⟨blobJson, -, rfl⟩ := h
  obtain ⟨row, hrow, hnew⟩ := Table.exists_mem_upsertOn TaskRow.taskId
    (fun old => { taskRow taskId input blobJson now with createdAt := old.createdAt })
    (taskRow taskId input blobJson now) t.tasks
  have hid : row.taskId = taskId := by
    rcases hnew with rfl | ⟨old, rfl⟩ <;> rfl
  obtain ⟨task, htask, hinput⟩ := hkeeps row hrow hid
  obtain ⟨task', htask', hbefore⟩ := hkept row hrow hid
  cases htask.symm.trans htask'
  exact hinput.symm.trans hbefore

/-! ## The task that is found -/

/-- The task is found when its row is listed, and only then. -/
theorem find_listed {rows : List TaskRow} (hkeys : (rows.map TaskRow.taskId).Nodup)
    {listed : List BrainTaskRecord} (hlisted : (newest TaskRow.updatedAt TaskRow.archived true
      rows).mapM manager.taskRecord = .ok listed)
    {row : TaskRow} {record : BrainTaskRecord} (hrow : row ∈ rows)
    (hrecord : manager.taskRecord row = .ok record) :
    listed.find? (·.id == row.taskId) =
      if row ∈ newest TaskRow.updatedAt TaskRow.archived true rows then some record else none := by
  have hfound : ∀ task, listed.find? (·.id == row.taskId) = some task →
      row ∈ newest TaskRow.updatedAt TaskRow.archived true rows ∧ task = record := by
    intro task htask
    obtain ⟨other, hother, hread⟩ :=
      Table.mem_of_mapM_ok hlisted (List.mem_of_find?_eq_some htask)
    have hid : other.taskId = row.taskId := by
      rw [← manager.taskRecord_id hread]
      simpa using List.find?_some htask
    have hmem : other ∈ rows :=
      Table.mem_descending.mp (List.mem_of_mem_take (List.mem_filter.mp hother).1)
    cases List.inj_on_of_nodup_map hkeys hmem hrow hid
    exact ⟨hother, Except.ok.inj (hread.symm.trans hrecord)⟩
  split
  · rename_i hin
    obtain ⟨task, htask, hread⟩ := Table.exists_of_mapM_ok hlisted hin
    cases hread.symm.trans hrecord
    cases hfind : listed.find? (·.id == row.taskId) with
    | none =>
        have hnone := List.find?_eq_none.mp hfind record htask
        simp [manager.taskRecord_id hrecord] at hnone
    | some other => rw [(hfound other hfind).2]
  · rename_i hout
    cases hfind : listed.find? (·.id == row.taskId) with
    | none => rfl
    | some other => exact absurd (hfound other hfind).1 hout

/-- The row is listed and its summary has no blanks around it, or the task is as the
defaults are. -/
def Found (request : BrainTaskUpdate) (rows : List TaskRow) (row : TaskRow)
    (record : BrainTaskRecord) : Prop :=
  if row ∈ newest TaskRow.updatedAt TaskRow.archived true rows then
    trim record.summary = record.summary
  else record.kept = ("\x7b\x7d", trim request.target, "[]", none)

theorem kept_input_iff (hsummary : trim request.summary = "") (hlinks : request.linksJson = "")
    (hdue : request.dueAt = none) {rows : List TaskRow} {row : TaskRow}
    {record : BrainTaskRecord} :
    (request.input (if row ∈ newest TaskRow.updatedAt TaskRow.archived true rows then some record
        else none)).kept = record.kept ↔ Found request rows row record := by
  unfold Found
  split
  · simp [BrainTaskUpdate.input, TaskUpsert.kept, BrainTaskRecord.kept, nonEmptyOrDefault,
      hsummary, hlinks, hdue]
  · rw [eq_comm]
    simp [BrainTaskUpdate.input, TaskUpsert.kept, nonEmptyOrDefault, hsummary, hlinks, hdue]

end BrainManager

/-- An update whose summary, links and due date are empty keeps what the task has exactly
where the task is found. -/
theorem BrainManager.keeps_iff_found (json : JsonLaws) (laws : AeadLaws) {manager : BrainManager}
    {request : BrainTaskUpdate} {t t' : BrainTables} {row : TaskRow} {record : BrainTaskRecord}
    (hkeys : (t.tasks.map TaskRow.taskId).Nodup) (hrow : row ∈ t.tasks)
    (hid : row.taskId = request.target) (hrecord : manager.taskRecord row = .ok record)
    (hsummary : trim request.summary = "") (hlinks : request.linksJson = "")
    (hdue : request.dueAt = none) (h : manager.Updates request t t') :
    manager.Keeps request.target record.kept t' ↔ Found request t.tasks row record := by
  obtain ⟨listed, written, now, hlisted, hwritten, hsame⟩ := h
  rw [← hid, find_listed hkeys hlisted hrow hrecord, hid] at hwritten
  rw [Keeps, hsame.tasks]
  exact (keeps_updates_iff json laws hwritten record.kept).trans
    (kept_input_iff hsummary hlinks hdue)

/-- Whatever the update returns, a task that is found is kept, and when it returns a task only
such a one is. -/
theorem updateTaskRecord_keeps (json : JsonLaws) (laws : AeadLaws) {manager : BrainManager}
    {request : BrainTaskUpdate} {w : World} {row : TaskRow} {record : BrainTaskRecord}
    (hkeys : (w.brain.tasks.map TaskRow.taskId).Nodup) (hrow : row ∈ w.brain.tasks)
    (hid : row.taskId = request.target) (hrecord : manager.taskRecord row = .ok record)
    (hsummary : trim request.summary = "") (hlinks : request.linksJson = "")
    (hdue : request.dueAt = none) :
    (BrainManager.Found request w.brain.tasks row record →
      manager.Keeps request.target record.kept
        ((manager.updateTaskRecord request).eval w).2.brain) ∧
    ∀ task, ((manager.updateTaskRecord request).eval w).1 = .ok task →
      (manager.Keeps request.target record.kept
          ((manager.updateTaskRecord request).eval w).2.brain ↔
        BrainManager.Found request w.brain.tasks row record) := by
  have hiff {t : BrainTables} (h : manager.Updates request w.brain t) :=
    BrainManager.keeps_iff_found json laws hkeys hrow hid hrecord hsummary hlinks hdue h
  obtain ⟨hvalue, hafter⟩ := @BrainManager.wp_updateTaskRecord _ manager request w
  refine ⟨fun hfound => ?_, fun task htask => hiff (hvalue task htask)⟩
  rcases hafter with hbefore | hupdates
  · intro other hother hotherId
    rw [hbefore] at hother
    cases List.inj_on_of_nodup_map hkeys hother hrow (hotherId.trans hid.symm)
    exact ⟨record, hrecord, rfl⟩
  · exact (hiff hupdates).mpr hfound

/-! ## Updates that return -/

/-- Where the database refuses nothing and the rows are read, an update to a known status
returns when there are no links to record. -/
theorem BrainManager.updateTaskRecord_ok {manager : BrainManager} {request : BrainTaskUpdate}
    {w : World} {listed : List BrainTaskRecord} (henabled : manager.config.enabled = true)
    (hencrypts : manager.encryption.Encrypts) (haccepts : w.AcceptsAll)
    (hstatus : validateTaskStatus request.status = .ok ())
    (hlisted : (newest TaskRow.updatedAt TaskRow.archived true w.brain.tasks).mapM
      manager.taskRecord = .ok listed)
    (hlinks : parseLinkIds
      (request.input (listed.find? (·.id == request.target))).linksJson = []) :
    ∃ task, ((manager.updateTaskRecord request).eval w).1 = .ok task := by
  have hrun : wp (manager.updateTaskRecord request) (fun _ r _ => ∃ task, r = .ok task) [] w := by
    refine Op.wp_bind (manager.wp_requireEnabled henabled (Op.andThen_ok ?_))
    rw [hstatus]
    refine Op.wp_bind (Op.wp_pure (Op.andThen_ok ?_))
    refine Op.wp_bind (wp_selection ⟨rfl, rfl, haccepts⟩ hlisted
      fun labels w' hstill => Op.andThen_ok ?_)
    refine Op.wp_bind ((succeeds_upsertTask hencrypts hstatus).wp hstill.accepts
      fun labels task w' hw' => Op.andThen_ok ?_)
    show wp (linkRecord task.id "task" (request.input
      (listed.find? (·.id == request.target))).linksJson _ >>= fun _ => pure task :
        EngineOp BrainTaskRecord) _ labels w'
    rw [linkRecord, hlinks]
    exact Op.wp_bind (Op.wp_pure (Op.andThen_ok (Op.wp_pure ⟨task, rfl⟩)))
  exact hrun

end

/-! ## A task behind 512 others -/

/-- The open task is done. -/
def doneUpdate : BrainTaskUpdate := ⟨"open", "done", "", none, "", "", ""⟩

theorem target_done : @BrainTaskUpdate.target jsonExternals doneUpdate = openTask.taskId := rfl

theorem taskRecord_archived (n : Nat) :
    ∃ record, @BrainManager.taskRecord jsonExternals plainBrain (archivedTask n) = .ok record ∧
      record.id = String.ofList (List.replicate n 'a') := by
  have hpayload : @BrainManager.decryptPayload jsonExternals plainBrain BrainManager.taskFields
      (archivedTask n).encryptedBlobJson = .ok ["call", "call", "\x7b\x7d", "[]", "message"] :=
    decryptPayload_storedPlain rfl (by decide) rfl
  unfold BrainManager.taskRecord
  rw [hpayload]
  exact ⟨_, rfl, rfl⟩

theorem mem_newest_archive {n : Nat} {row : TaskRow} :
    row ∈ @BrainManager.newest jsonExternals _ TaskRow.updatedAt TaskRow.archived true
      (archiveRows n) ↔ row ∈ (archiveRows n).take 512 := by
  unfold BrainManager.newest
  rw [descending_archive]
  simp

/-- The update returns, whether the open task is listed or not. -/
theorem updateTaskRecord_archive (n : Nat) :
    ∃ task, ((@BrainManager.updateTaskRecord jsonExternals plainBrain doneUpdate).eval
      (archiveWorld n)).1 = .ok task := by
  have hread : ∀ row ∈ @BrainManager.newest jsonExternals _ TaskRow.updatedAt TaskRow.archived
      true (archiveRows n), ∃ task, @BrainManager.taskRecord jsonExternals plainBrain row =
        .ok task := by
    intro row hrow
    rcases mem_archiveRows (List.mem_of_mem_take (mem_newest_archive.mp hrow)) with ⟨k, rfl⟩ | rfl
    · obtain ⟨task, htask, -⟩ := taskRecord_archived k
      exact ⟨task, htask⟩
    · exact ⟨_, taskRecord_open⟩
  obtain ⟨listed, hlisted⟩ := Table.mapM_ok_of_forall hread
  refine @BrainManager.updateTaskRecord_ok jsonExternals plainBrain doneUpdate (archiveWorld n)
    listed rfl encrypts_plain (fun _ => rfl) rfl hlisted ?_
  have hopen : openTask ∈ archiveRows n :=
    List.mem_append_right _ (List.mem_singleton.mpr rfl)
  have hfind := @BrainManager.find_listed jsonExternals plainBrain _ (nodup_archive n) _ hlisted _ _
    hopen taskRecord_open
  rw [target_done, hfind]
  split
  · decide
  · decide

/-- Among the newest rows the open task keeps its scope. -/
theorem updateTaskRecord_keeps_open :
    (∃ task, ((@BrainManager.updateTaskRecord jsonExternals plainBrain doneUpdate).eval
        (archiveWorld 0)).1 = .ok task) ∧
      @BrainManager.Keeps jsonExternals plainBrain "open" openRecord.kept
        ((@BrainManager.updateTaskRecord jsonExternals plainBrain doneUpdate).eval
          (archiveWorld 0)).2.brain := by
  have hkept := (@updateTaskRecord_keeps jsonExternals json_laws json_aeadLaws plainBrain
    doneUpdate (archiveWorld 0) openTask openRecord (nodup_archive 0)
    (List.mem_singleton.mpr rfl) target_done.symm taskRecord_open (by decide) rfl rfl).1
  rw [target_done] at hkept
  have hin : openTask ∈ @BrainManager.newest jsonExternals _ TaskRow.updatedAt TaskRow.archived
      true (archiveWorld 0).brain.tasks := mem_newest_archive.mpr (List.mem_singleton.mpr rfl)
  refine ⟨updateTaskRecord_archive 0, hkept ?_⟩
  unfold BrainManager.Found
  rw [if_pos hin]
  decide

/-- Behind 512 archived tasks it loses it. -/
theorem updateTaskRecord_keeps_fails :
    ¬ ∀ [Externals], JsonLaws → AeadLaws → ∀ (manager : BrainManager) (request : BrainTaskUpdate)
        (w : World) (row : TaskRow) (record : BrainTaskRecord),
      (w.brain.tasks.map TaskRow.taskId).Nodup → row ∈ w.brain.tasks →
        row.taskId = request.target → manager.taskRecord row = .ok record →
          request.summary = "" → request.linksJson = "" → request.dueAt = none →
            (∃ task, ((manager.updateTaskRecord request).eval w).1 = .ok task) →
              manager.Keeps request.target record.kept
                ((manager.updateTaskRecord request).eval w).2.brain := by
  intro h
  have hopen : openTask ∈ archiveRows 512 :=
    List.mem_append_right _ (List.mem_singleton.mpr rfl)
  have hrun := updateTaskRecord_archive 512
  have hkept := @h jsonExternals json_laws json_aeadLaws plainBrain doneUpdate (archiveWorld 512)
    openTask openRecord (nodup_archive 512) hopen target_done.symm taskRecord_open rfl rfl rfl hrun
  obtain ⟨task, htask⟩ := hrun
  obtain ⟨hvalue, -⟩ :=
    @BrainManager.wp_updateTaskRecord jsonExternals plainBrain doneUpdate (archiveWorld 512)
  have hsummary : trim doneUpdate.summary = "" := by decide
  have hiff := @BrainManager.keeps_iff_found jsonExternals json_laws json_aeadLaws plainBrain
    doneUpdate (archiveWorld 512).brain _ openTask openRecord (nodup_archive 512) hopen
    target_done.symm taskRecord_open hsummary rfl rfl (hvalue task htask)
  have hout : openTask ∉ @BrainManager.newest jsonExternals _ TaskRow.updatedAt TaskRow.archived
      true (archiveWorld 512).brain.tasks := by
    intro hin
    have hrow := mem_newest_archive.mp hin
    rw [archiveRows, List.take_left' (by simp)] at hrow
    obtain ⟨k, -, hk⟩ := List.mem_map.mp hrow
    cases congrArg TaskRow.updatedAt hk
  rw [hiff] at hkept
  unfold BrainManager.Found at hkept
  rw [if_neg hout] at hkept
  exact absurd hkept (by decide)

end OpenPinch
