import OpenPinch.Engine.BrainKeys
import OpenPinch.Engine.Retention
import OpenPinch.Engine.TaskMerge

/-!
# Notes of tasks

What `remember` stores when it is asked for a task: where nothing is refused, the
tables after retention with the row of the task, and an entry of the log.
-/

namespace OpenPinch

open Lib (Op wp Table.map_updateWhere)

namespace BrainManager

section

variable [Externals] {manager : BrainManager}

/-- Retention keeps the keys. -/
theorem gains_retained (around : Surroundings) (t : BrainTables) :
    Gains [] t (manager.retained around t) := by
  intro key
  rw [or_iff_left List.not_mem_nil]
  cases key with
  | entity id => exact iff_of_eq (congrArg (id ∈ ·) (Table.map_updateWhere (fun _ => by rfl) _))
  | fact id => exact iff_of_eq (congrArg (id ∈ ·) (Table.map_updateWhere (fun _ => by rfl) _))
  | task id => exact iff_of_eq (congrArg (id ∈ ·) (Table.map_updateWhere (fun _ => by rfl) _))
  | _ => exact Iff.rfl

/-- Retention returns where its cutoff is in the calendar. -/
theorem applyRetention_ok {w : World} (hw : w.AcceptsAll) {age : Int} {cutoff : Instant}
    (hage : secondsDuration (manager.config.archiveDecayDays * 86400) = some age)
    (hcutoff : shift (w.around.clock w.around.ticks) (-age) = some cutoff) :
    (manager.applyRetention.eval w).1 = .ok () ∧ (manager.applyRetention.eval w).2.AcceptsAll ∧
      w.Gained [] 4 (manager.applyRetention.eval w).2 := by
  have hrun : wp manager.applyRetention (fun _ r w' => r = .ok () ∧ w'.AcceptsAll ∧
      w'.around.clock = w.around.clock ∧ w'.around.ticks = w.around.ticks + 4) [] w := by
    unfold applyRetention
    refine Op.wp_bind (EngineOp.wp_now (Op.andThen_ok ?_))
    rw [hage]
    refine Op.wp_bind (Op.wp_pure (Op.andThen_ok ?_))
    rw [hcutoff]
    refine Op.wp_bind (Op.wp_pure (Op.andThen_ok ?_))
    refine EngineOp.wp_guarded (((Stmt.run_bind rfl).trans (Stmt.run_bind (Stmt.run_execute
      (hw _)))).trans (((Stmt.run_bind rfl).trans (Stmt.run_bind (Stmt.run_execute
        (hw _)))).trans ((Stmt.run_bind rfl).trans (Stmt.run_execute (hw _))))) ⟨rfl, hw, rfl, rfl⟩
  obtain ⟨hok, haccepts, hclock, hticks⟩ := hrun
  have hretained := (manager.returns_applyRetention w w () rfl hok).1
  refine ⟨hok, haccepts, ?_, hclock, hticks⟩
  rw [hretained]
  exact gains_retained w.around w.brain

/-- The source of a note. -/
def noteSource (request : BrainRemember) : String :=
  defaultSourceRef request.sourceRef
    s!"{request.kind}:{request.subtype}:{request.title}:{request.content}" "remember"

/-- The task of a note without a due date. -/
def noteInput (request : BrainRemember) : TaskUpsert :=
  { taskId := none
    title := preferredTitle request.title request.content
    summary := nonEmptyOrDefault request.content request.title
    status := "open"
    priority := taskPriorityFromText request.content
    dueAt := none
    scopeJson := objectOrDefault request.scopeJson
    linksJson := request.linksJson
    salience := max request.importance (9 / 20)
    confidence := 23 / 25
    sourceRef := defaultSourceRef (noteSource request) request.title "task" }

/-- The digest of a note. -/
def noteDigest (request : BrainRemember) : String :=
  let sourceRef := noteSource request
  promptHash s!"{request.kind}:{request.subtype}:{request.title}:{request.content}:{sourceRef}"

/-- What is left of `remember` for a task without a due date. -/
theorem remember_task {request : BrainRemember} (hkind : request.kind = "task")
    (hdue : dueAfter request.content = none) (henabled : manager.config.enabled = true) :
    manager.remember request = (do
      manager.applyRetention
      let task ← manager.upsertOrMergeTask (noteInput request)
      recordIngest (noteSource request) "remember" (noteDigest request)
        (Externals.jsonText (.obj [("task_id", .str task.id)]))
      return ⟨true, none, some task, noteDigest request⟩) := by
  have hdate : parseDueAt request.content = pure none := by
    unfold parseDueAt
    rw [hdue]
  have henables : manager.requireEnabled = pure () := if_pos henabled
  unfold remember
  rw [henables, pure_bind, if_pos hkind, hdate]
  rfl

/-- A merge that returns has written the task. -/
theorem writes_upsertOrMergeTask (hencrypts : manager.encryption.Encrypts) {input : TaskUpsert}
    (hnone : input.taskId = none) (hstatus : validateTaskStatus input.status = .ok ()) {w : World}
    (hw : w.AcceptsAll) :
    ∃ task, ((manager.upsertOrMergeTask input).eval w).1 = .ok task ∧
      ((manager.upsertOrMergeTask input).eval w).2.AcceptsAll ∧
      manager.WritesTask (manager.mergedId input w)
        { input with taskId := some (manager.mergedId input w) } (w.around.clock w.around.ticks)
        w.brain ((manager.upsertOrMergeTask input).eval w).2.brain ∧
      w.Gained [.task (manager.mergedId input w)] 3
        ((manager.upsertOrMergeTask input).eval w).2 := by
  obtain ⟨hsimilar, hsent⟩ := wp_findSimilarTask input.summary input.scopeJson w
  have haccepts : World.AcceptsAll { w with around := Stmt.sent w.around } := hw
  rw [upsertOrMergeTask_eq hnone, Op.eval_bind_ok hsimilar, hsent]
  obtain ⟨task, htask, hafter⟩ := @succeeds_upsertTask _ manager hencrypts { input with
    taskId := some (manager.mergedId input w) } hstatus _ haccepts
  have hgained := ((@writes_upsertTask _ manager hencrypts { input with
    taskId := some (manager.mergedId input w) } _ rfl hstatus).written _ task htask).2
  exact ⟨task, htask, hafter, ((@wp_upsertTask _ manager _ _ rfl _).1 task htask).2,
    hgained.gains, hgained.clock, hgained.ticks⟩

/-- Where nothing is refused, a note of a task is stored. -/
theorem remembered_task {request : BrainRemember} (hkind : request.kind = "task")
    (hdue : dueAfter request.content = none) (henabled : manager.config.enabled = true)
    (hencrypts : manager.encryption.Encrypts) {w : World} (hw : w.AcceptsAll) {age : Int}
    {cutoff : Instant}
    (hage : secondsDuration (manager.config.archiveDecayDays * 86400) = some age)
    (hcutoff : shift (w.around.clock w.around.ticks) (-age) = some cutoff) :
    ∃ kept t, kept.brain = manager.retained w.around w.brain ∧ kept.AcceptsAll ∧
      manager.WritesTask (manager.mergedId (noteInput request) kept) { noteInput request with
        taskId := some (manager.mergedId (noteInput request) kept) }
          (w.around.clock (w.around.ticks + 4)) kept.brain t ∧
      ((manager.remember request).eval w).2.brain.tasks = t.tasks ∧
      w.Gained [.task (manager.mergedId (noteInput request) kept), .source (noteSource request)] 8
        ((manager.remember request).eval w).2 := by
  obtain ⟨hretains, haccepts, hkept⟩ := manager.applyRetention_ok hw hage hcutoff
  have hretained := (manager.returns_applyRetention w w () rfl hretains).1
  rw [remember_task hkind hdue henabled, Op.eval_bind_ok hretains]
  generalize (Lib.Prog.eval manager.applyRetention w).2 = kept at haccepts hretained hkept
  obtain ⟨task, htask, hafter, hwrites, hgained⟩ :=
    @writes_upsertOrMergeTask _ manager hencrypts (noteInput request) rfl rfl _ haccepts
  rw [Op.eval_bind_ok htask]
  generalize (Lib.Prog.eval (manager.upsertOrMergeTask (noteInput request)) kept).2 = merged
    at hafter hwrites hgained
  obtain ⟨u, hu, -⟩ := succeeds_recordIngest (noteSource request) "remember" (noteDigest request)
    (Externals.jsonText (.obj [("task_id", .str task.id)])) merged hafter
  have hlogged := ((writes_recordIngest _ _ _ _).written merged u hu).2
  have hsame := ((sameRows_recordIngest (noteSource request) "remember" (noteDigest request)
    (Externals.jsonText (.obj [("task_id", .str task.id)]))).eval SameRows.refl SameRows.trans
      merged).2.tasks
  rw [Op.eval_bind_ok hu]
  rw [hkept.clock, hkept.ticks] at hwrites
  exact ⟨kept, merged.brain, hretained, haccepts, hwrites, hsame,
    (hkept.trans hgained).trans hlogged⟩

end

end BrainManager

end OpenPinch
