import OpenPinch.Engine.BrainScopes
import OpenPinch.Engine.Suggestions

/-!
# Which scopes a merge overwrites

`upsert_or_merge_task` without an identifier overwrites the similar task that it
finds, scope and all.  A task is found in any scope that has the members of that
of the call, so a call without a scope takes over the task of a channel.
-/

namespace OpenPinch

open Lib (Op wp Table.mem_upsertOn_of_ne)

section

variable [Externals]

/-- The scopes are the same text or the same object. -/
def sameScope (scopeJson other : String) : Bool :=
  scopeJson == other ||
    match Externals.jsonParse scopeJson, Externals.jsonParse other with
    | some (.obj members), some (.obj others) => Json.same (.obj members) (.obj others)
    | _, _ => false

namespace BrainManager

variable {manager : BrainManager} {input : TaskUpsert}

/-- The stored scope of the row, where it is read, is that of the input. -/
def HasScope (manager : BrainManager) (input : TaskUpsert) (row : TaskRow) : Prop :=
  ∀ scopeJson, (manager.taskEntry row).scopeJson? = some scopeJson →
    sameScope scopeJson input.scopeJson = true

/-- The task that is found has the scope of the input.  Where none is found, a row with the
identifier of a new task has it. -/
def MergesWithin (manager : BrainManager) (input : TaskUpsert) (w : World) : Prop :=
  match manager.foundTask input.summary input.scopeJson w with
  | some task => sameScope task.scopeJson input.scopeJson = true
  | none => ∀ row ∈ w.brain.tasks, row.taskId = taskIdOf input.summary input.scopeJson →
      manager.HasScope input row

/-- The identifier of the task that is written. -/
def mergedId (manager : BrainManager) (input : TaskUpsert) (w : World) : String :=
  ((manager.foundTask input.summary input.scopeJson w).map BrainTaskRecord.id).getD
    (taskIdOf input.summary input.scopeJson)

/-- A merge that returns has written the task, and one that fails has or has not. -/
theorem wp_upsertOrMergeTask (hnone : input.taskId = none) (w : World) :
    wp (manager.upsertOrMergeTask input) (fun _ r w' =>
      (∀ task, r = .ok task → task.id = manager.mergedId input w) ∧
      (w'.brain = w.brain ∨ manager.WritesTask (manager.mergedId input w)
        { input with taskId := some (manager.mergedId input w) } (w.around.clock w.around.ticks)
        w.brain w'.brain)) [] w := by
  rw [upsertOrMergeTask_eq hnone]
  refine Op.wp_bind (Lib.wp_mono (wp_findSimilarTask input.summary input.scopeJson w) ?_)
  rintro labels r w' ⟨rfl, rfl⟩
  refine Op.andThen_ok (Lib.wp_frame (Lib.wp_mono (@wp_upsertTask _ manager
    { input with taskId := some (manager.mergedId input w) } _ rfl
    { w with around := Stmt.sent w.around }) ?_))
  rintro labels r w' ⟨hvalue, hafter⟩
  exact ⟨fun task htask => (hvalue task htask).1, hafter⟩

/-- The only task that is listed is found when it is in the scope and similar. -/
theorem foundTask_single {summary scopeJson : String} {w : World} {task : BrainTaskRecord}
    (haccepted : w.around.refuses w.around.statements = false)
    (hlisted : (newest TaskRow.updatedAt TaskRow.archived false w.brain.tasks).mapM
      manager.taskRecord = .ok [task])
    (hscope : scopeMatches task.scopeJson scopeJson = true)
    (hsimilar : 18 / 25 ≤ similarity (fingerprint summary) (fingerprint task.summary)) :
    manager.foundTask summary scopeJson w = some task := by
  unfold foundTask similarTask
  rw [hlisted]
  simp [haccepted, hscope, hsimilar, bestScored]

theorem mergesWithin_of_found {w : World} {task : BrainTaskRecord}
    (h : manager.foundTask input.summary input.scopeJson w = some task) :
    manager.MergesWithin input w ↔ sameScope task.scopeJson input.scopeJson = true := by
  unfold MergesWithin
  rw [h]

/-- A found task is that of a row under its identifier. -/
theorem row_of_found {summary scopeJson : String} {w : World} {task : BrainTaskRecord}
    (h : manager.foundTask summary scopeJson w = some task) :
    ∃ row ∈ w.brain.tasks, row.taskId = task.id ∧
      (manager.taskEntry row).scopeJson? = some task.scopeJson := by
  unfold foundTask at h
  split at h
  · cases h
  · obtain ⟨row, hrow, hrecord, -⟩ := similarTask_some h
    obtain ⟨hid, hscope⟩ := taskRecord_entry hrecord
    exact ⟨row, hrow, hid.symm, hscope⟩

/-- The rows with the identifier that is written have the scope of the input exactly when
the merge is within it. -/
theorem hasScope_iff {w : World} (hkeys : (w.brain.tasks.map TaskRow.taskId).Nodup) :
    (∀ row ∈ w.brain.tasks, row.taskId = manager.mergedId input w → manager.HasScope input row) ↔
      manager.MergesWithin input w := by
  unfold MergesWithin mergedId
  cases hfound : manager.foundTask input.summary input.scopeJson w with
  | none => exact Iff.rfl
  | some task =>
      obtain ⟨row, hrow, hid, hscope⟩ := row_of_found hfound
      constructor
      · intro h
        exact h row hrow hid _ hscope
      · intro h other hother hotherId scopeJson hotherScope
        cases List.inj_on_of_nodup_map hkeys hother hrow (hotherId.trans hid.symm)
        cases hotherScope.symm.trans hscope
        exact h

/-- A merge with a known status returns. -/
theorem succeeds_upsertOrMergeTask (hencrypts : manager.encryption.Encrypts)
    (hstatus : validateTaskStatus input.status = .ok ()) (hnone : input.taskId = none) :
    EngineOp.Succeeds (manager.upsertOrMergeTask input) := by
  rw [upsertOrMergeTask_eq hnone]
  refine EngineOp.Succeeds.bind (fun w hw => ?_) fun similar =>
    succeeds_upsertTask hencrypts hstatus
  have hlater := ((manager.relates_findSimilarTask (fun _ => rfl) (fun _ _ _ => Eq.trans)
    input.summary input.scopeJson).eval (fun _ => rfl) (fun _ _ _ => Eq.trans) w).1
  exact ⟨_, (wp_findSimilarTask input.summary input.scopeJson w).1,
    fun n => (congrFun hlater.refuses n).trans (hw n)⟩

end BrainManager

/-- A merge within a scope overwrites no task of another one, whatever it returns.  When it
returns a task, only a merge within the scope has left the others alone. -/
theorem upsertOrMergeTask_withinScope {manager : BrainManager} {input : TaskUpsert} {w : World}
    (hkeys : (w.brain.tasks.map TaskRow.taskId).Nodup) (hnone : input.taskId = none) :
    (manager.MergesWithin input w → ∀ row ∈ w.brain.tasks,
      row ∉ ((manager.upsertOrMergeTask input).eval w).2.brain.tasks →
        manager.HasScope input row) ∧
    ∀ task, ((manager.upsertOrMergeTask input).eval w).1 = .ok task →
      ((∀ row ∈ w.brain.tasks, row.taskId = task.id → manager.HasScope input row) ↔
        manager.MergesWithin input w) := by
  obtain ⟨hvalue, hafter⟩ := @BrainManager.wp_upsertOrMergeTask _ manager input hnone w
  refine ⟨fun hwithin row hrow hgone => ?_, fun task htask => ?_⟩
  · rcases hafter with hbefore | ⟨blobJson, -, hwritten⟩
    · rw [hbefore] at hgone
      exact absurd hrow hgone
    · refine (BrainManager.hasScope_iff hkeys).mpr hwithin row hrow ?_
      by_contra hne
      refine hgone ?_
      rw [hwritten]
      exact Table.mem_upsertOn_of_ne hrow hne
  · rw [hvalue task htask]
    exact BrainManager.hasScope_iff hkeys

end

/-! ## A task of a channel -/

/-- The task is asked for in a scope. -/
def payInput (scopeJson : String) : TaskUpsert where
  taskId := none
  title := "pay"
  summary := "pay"
  status := "open"
  priority := "normal"
  dueAt := none
  scopeJson := scopeJson
  linksJson := "[]"
  salience := 1
  confidence := 1
  sourceRef := "remember"

/-- The task of channel 1 is found from the channel and without a scope. -/
theorem foundTask_open {scopeJson : String} (h : scopeJson = channelScope "1" ∨
      scopeJson = "\x7b\x7d") :
    @BrainManager.foundTask jsonExternals plainBrain "pay" scopeJson (archiveWorld 0) =
      some openRecord := by
  have htasks : (@BrainManager.newest jsonExternals _ TaskRow.updatedAt TaskRow.archived false
      (archiveWorld 0).brain.tasks).mapM (@BrainManager.taskRecord jsonExternals plainBrain) =
        .ok [openRecord] := by
    rw [show @BrainManager.newest jsonExternals _ TaskRow.updatedAt TaskRow.archived false
      (archiveWorld 0).brain.tasks = [openTask] from rfl, List.mapM_cons, taskRecord_open]
    rfl
  refine @BrainManager.foundTask_single jsonExternals plainBrain _ _ _ _ rfl htasks ?_ ?_
  · rcases h with rfl | rfl <;> decide +kernel
  · decide +kernel

theorem upsertOrMergeTask_pay (scopeJson : String) :
    ∃ task, ((@BrainManager.upsertOrMergeTask jsonExternals plainBrain (payInput scopeJson)).eval
      (archiveWorld 0)).1 = .ok task := by
  obtain ⟨task, htask, -⟩ := @BrainManager.succeeds_upsertOrMergeTask jsonExternals plainBrain
    (payInput scopeJson) encrypts_plain rfl rfl (archiveWorld 0) fun _ => rfl
  exact ⟨task, htask⟩

/-- From the channel the task is within its scope. -/
theorem upsertOrMergeTask_withinScope_pay :
    ∃ task, ((@BrainManager.upsertOrMergeTask jsonExternals plainBrain
        (payInput (channelScope "1"))).eval (archiveWorld 0)).1 = .ok task ∧
      ∀ row ∈ (archiveWorld 0).brain.tasks, row.taskId = task.id →
        @BrainManager.HasScope jsonExternals plainBrain (payInput (channelScope "1")) row := by
  obtain ⟨task, htask⟩ := upsertOrMergeTask_pay (channelScope "1")
  have hfound := @BrainManager.mergesWithin_of_found jsonExternals plainBrain
    (payInput (channelScope "1")) _ _ (foundTask_open (Or.inl rfl))
  have hiff := (@upsertOrMergeTask_withinScope jsonExternals plainBrain
    (payInput (channelScope "1")) (archiveWorld 0) (List.nodup_singleton _) rfl).2 task htask
  refine ⟨task, htask, ?_⟩
  rw [hiff, hfound]
  decide

/-- Without a scope the task of the channel is overwritten. -/
theorem upsertOrMergeTask_withinScope_fails :
    ¬ ∀ [Externals] (manager : BrainManager) (input : TaskUpsert) (w : World)
        (task : BrainTaskRecord), (w.brain.tasks.map TaskRow.taskId).Nodup →
      input.taskId = none → ((manager.upsertOrMergeTask input).eval w).1 = .ok task →
        ∀ row ∈ w.brain.tasks, row.taskId = task.id → manager.HasScope input row := by
  intro h
  obtain ⟨task, htask⟩ := upsertOrMergeTask_pay "\x7b\x7d"
  have hscopes := @h jsonExternals plainBrain (payInput "\x7b\x7d") (archiveWorld 0) task
    (List.nodup_singleton _) rfl htask
  have hid := (@BrainManager.wp_upsertOrMergeTask jsonExternals plainBrain
    (payInput "\x7b\x7d") rfl (archiveWorld 0)).1 task htask
  have hiff := @BrainManager.hasScope_iff jsonExternals plainBrain (payInput "\x7b\x7d")
    (archiveWorld 0) (List.nodup_singleton _)
  have hfound := @BrainManager.mergesWithin_of_found jsonExternals plainBrain
    (payInput "\x7b\x7d") _ _ (foundTask_open (Or.inr rfl))
  rw [hid, hiff, hfound] at hscopes
  exact absurd hscopes (by decide +kernel)

end OpenPinch
