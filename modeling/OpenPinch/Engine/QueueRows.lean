import OpenPinch.Engine.QueueWorker
import OpenPinch.Engine.Rules

/-!
# The rows of the queue

There is one row for each task id.  A call writes its status `queued`, and the
thread of the task `running` and at last `completed` or `failed`.

The rows tell which tasks are live as long as ids are not used again while a task
with the id is live, the database accepts the final status, and the engine starts
again only when no row is `queued` or `running` (`rows_truthful`).
-/

namespace OpenPinch

open Lib.Op (after result)

/-! ## Statements -/

namespace StateStore

/-- An update of the ledger, which the database may refuse. -/
theorem execute_ledger (f : Ledger → Ledger) (w : World) :
    result (View.ledger.run (Stmt.execute f)) w =
        (if w.around.refuses w.around.statements then .error (.error "database error")
        else .ok ()) ∧
      (after (View.ledger.run (Stmt.execute f)) w).ledger =
        if w.around.refuses w.around.statements then w.ledger else f w.ledger := by
  rw [View.result_run, View.after_run]
  exact ⟨Stmt.result_sql _ _, Stmt.after_sql _ _⟩

/-- The row that `store_queue_task` inserts. -/
def queueTaskRow (task : QueueTask) (status : String) (now : Instant) : QueueTaskRow where
  taskId := task.taskId
  taskType := task.taskType
  target := task.target
  argumentsJson := task.argumentsJson
  priority := task.priority.asStr
  status := status
  createdAt := now
  updatedAt := now

/-- The rows after `store_queue_task`. -/
def storedRows (task : QueueTask) (status : String) (now : Instant) (t : Ledger) : Ledger :=
  let row := queueTaskRow task status now
  let change (old : QueueTaskRow) : QueueTaskRow := { row with createdAt := old.createdAt }
  { t with queueTasks := Lib.Table.upsertOn QueueTaskRow.taskId change row t.queueTasks }

/-- `store_queue_task` is one update of the ledger, after a look at the clock. -/
theorem eval_storeQueueTask (task : QueueTask) (status : String) (w : World) :
    ∃ late : World, late.ledger = w.ledger ∧
      ∃ now, (storeQueueTask task status).eval w =
        (result (View.ledger.run (Stmt.execute (storedRows task status now))) late,
          after (View.ledger.run (Stmt.execute (storedRows task status now))) late) :=
  ⟨after (View.none.run Stmt.now) w, rfl, w.around.clock w.around.ticks, rfl⟩

/-- A row after `store_queue_task` is the one of the task or one of another task. -/
theorem rows_of_storeQueueTask {task : QueueTask} {status : String} {w w' : World}
    (h : (storeQueueTask task status).eval w = (.ok (), w')) :
    ∀ row ∈ w'.ledger.queueTasks, (row.taskId = task.taskId ∧ row.status = status) ∨
      (row.taskId ≠ task.taskId ∧ row ∈ w.ledger.queueTasks) := by
  obtain ⟨late, hlate, now, heval⟩ := eval_storeQueueTask task status w
  obtain ⟨hresult, hafter⟩ := execute_ledger (storedRows task status now) late
  obtain ⟨hok, rfl⟩ := Prod.mk.inj (heval.symm.trans h)
  rw [hok] at hresult
  split at hresult
  · cases hresult
  · rename_i haccepted
    rw [if_neg haccepted, hlate] at hafter
    intro row hrow
    rw [hafter] at hrow
    rcases Lib.Table.of_mem_upsertOn hrow with rfl | ⟨old, rfl⟩ | hother
    · exact Or.inl ⟨rfl, rfl⟩
    · exact Or.inl ⟨rfl, rfl⟩
    · exact Or.inr hother

/-- When `store_queue_task` fails, the rows stay. -/
theorem rows_of_storeQueueTask_error {task : QueueTask} {status : String} {w w' : World}
    {fault : Fault} (h : (storeQueueTask task status).eval w = (.error fault, w')) :
    w'.ledger.queueTasks = w.ledger.queueTasks := by
  obtain ⟨late, hlate, now, heval⟩ := eval_storeQueueTask task status w
  obtain ⟨hresult, hafter⟩ := execute_ledger (storedRows task status now) late
  obtain ⟨hfail, rfl⟩ := Prod.mk.inj (heval.symm.trans h)
  rw [hfail] at hresult
  split at hresult
  · rename_i hrefused
    rw [hafter, if_pos hrefused, hlate]
  · cases hresult

/-- The rows after `update_queue_status`. -/
def updatedRows (taskId status : String) (now : Instant) (t : Ledger) : Ledger :=
  let change (row : QueueTaskRow) : QueueTaskRow := { row with status := status, updatedAt := now }
  { t with queueTasks := Lib.Table.updateWhere (·.taskId == taskId) change t.queueTasks }

/-- `update_queue_status` is one update of the ledger. -/
theorem ledger_updateQueueStatus (taskId status : String) (w : World) :
    ((updateQueueStatus taskId status).eval w).2.ledger =
      if w.around.refuses w.around.statements then w.ledger
      else updatedRows taskId status (w.around.clock w.around.ticks) w.ledger := by
  let update := Stmt.now >>= fun now => Stmt.execute (updatedRows taskId status now)
  show (after (View.ledger.run update) w).ledger = _
  rw [View.after_run]
  show (after update (w.around, w.ledger)).2 = _
  rw [Stmt.after_now_bind]
  exact Stmt.after_sql _ _

/-- A row after `update_queue_status` has the status, or is one from before.  When
the database accepts the update, every row of the task has the status. -/
theorem rows_of_updateQueueStatus {taskId status : String} {w : World} {row : QueueTaskRow}
    (h : row ∈ ((updateQueueStatus taskId status).eval w).2.ledger.queueTasks) :
    (row.taskId = taskId ∧ row.status = status) ∨
      (row ∈ w.ledger.queueTasks ∧
        (w.around.refuses w.around.statements = false → row.taskId ≠ taskId)) := by
  rw [ledger_updateQueueStatus] at h
  split at h
  · rename_i hrefused
    exact Or.inr ⟨h, fun haccepted => by rw [haccepted] at hrefused; cases hrefused⟩
  · obtain ⟨old, hold, rfl⟩ := Lib.Table.mem_updateWhere.mp h
    split
    · rename_i hkey
      exact Or.inl ⟨beq_iff_eq.mp hkey, rfl⟩
    · rename_i hkey
      exact Or.inr ⟨hold, fun _ => by simpa using hkey⟩

end StateStore

/-! ## The register -/

/-- The task is not done yet, by its status. -/
def IsPending (status : String) : Prop := status = "queued" ∨ status = "running"

/-- The task is done, by its status. -/
def IsFinal (status : String) : Prop := status = "completed" ∨ status = "failed"

theorem IsFinal.not_pending {status : String} (h : IsFinal status) : ¬ IsPending status := by
  rintro (rfl | rfl)
  · exact absurd h (by simp [IsFinal])
  · exact absurd h (by simp [IsFinal])

/-- How many entries of the queue have an id, and the rows. -/
structure Register where
  entries : String → Nat
  rows : List QueueTaskRow

namespace Register

/-- What a step does to entries and rows. -/
inductive Step (r r' : Register) : Prop where
  | keep (hentries : ∀ id, r'.entries id = r.entries id) (hrows : r'.rows = r.rows)
  | enter (id : String) (free : r.entries id = 0)
      (hentries : ∀ other, r'.entries other = r.entries other + if id = other then 1 else 0)
      (hrows : ∀ row ∈ r'.rows, (row.taskId = id ∧ row.status = "queued") ∨
        (row.taskId ≠ id ∧ row ∈ r.rows))
  | mark (id : String) (live : 0 < r.entries id)
      (hentries : ∀ other, r'.entries other = r.entries other)
      (hrows : ∀ row ∈ r'.rows, (row.taskId = id ∧ row.status = "running") ∨ row ∈ r.rows)
  | finish (id status : String) (final : IsFinal status)
      (hentries : ∀ other, r'.entries other + (if id = other then 1 else 0) = r.entries other)
      (hrows : ∀ row ∈ r'.rows, (row.taskId = id ∧ row.status = status) ∨
        (row.taskId ≠ id ∧ row ∈ r.rows))
  | reset (none : ∀ row ∈ r.rows, ¬ IsPending row.status)
      (hentries : ∀ id, r'.entries id = 0) (hrows : r'.rows = r.rows)

/-- An id has one entry at most, and the status of its row says whether it does. -/
structure Truthful (r : Register) : Prop where
  unique : ∀ id, r.entries id ≤ 1
  pending : ∀ row ∈ r.rows, IsPending row.status → 0 < r.entries row.taskId
  final : ∀ row ∈ r.rows, IsFinal row.status → r.entries row.taskId = 0

theorem Truthful.step {r r' : Register} (h : Step r r') (hr : r.Truthful) : r'.Truthful := by
  cases h with
  | keep hentries hrows =>
      refine ⟨fun id => ?_, fun row hrow hpending => ?_, fun row hrow hfinal => ?_⟩
      · rw [hentries]
        exact hr.unique id
      · rw [hentries]
        exact hr.pending row (hrows ▸ hrow) hpending
      · rw [hentries]
        exact hr.final row (hrows ▸ hrow) hfinal
  | enter id free hentries hrows =>
      refine ⟨fun other => ?_, fun row hrow hpending => ?_, fun row hrow hfinal => ?_⟩
      · rw [hentries]
        split
        · rename_i hid
          rw [← hid, free]
        · exact hr.unique other
      · rw [hentries]
        rcases hrows row hrow with ⟨hid, -⟩ | ⟨-, hold⟩
        · rw [if_pos hid.symm]
          exact Nat.succ_pos _
        · exact Nat.lt_of_lt_of_le (hr.pending row hold hpending) (Nat.le_add_right _ _)
      · rcases hrows row hrow with ⟨-, hqueued⟩ | ⟨hid, hold⟩
        · exact absurd (Or.inl hqueued) hfinal.not_pending
        · rw [hentries, if_neg fun h => hid h.symm]
          exact hr.final row hold hfinal
  | mark id live hentries hrows =>
      refine ⟨fun other => ?_, fun row hrow hpending => ?_, fun row hrow hfinal => ?_⟩
      · rw [hentries]
        exact hr.unique other
      · rw [hentries]
        rcases hrows row hrow with ⟨hid, -⟩ | hold
        · rw [hid]
          exact live
        · exact hr.pending row hold hpending
      · rcases hrows row hrow with ⟨-, hrunning⟩ | hold
        · exact absurd (Or.inr hrunning) hfinal.not_pending
        · rw [hentries]
          exact hr.final row hold hfinal
  | finish id status final hentries hrows =>
      refine ⟨fun other => ?_, fun row hrow hpending => ?_, fun row hrow hfinal => ?_⟩
      · have hcount := hentries other
        have hone := hr.unique other
        omega
      · rcases hrows row hrow with ⟨-, hstatus⟩ | ⟨hid, hold⟩
        · rw [hstatus] at hpending
          exact absurd hpending final.not_pending
        · have hcount := hentries row.taskId
          rw [if_neg fun h => hid h.symm] at hcount
          have hlive := hr.pending row hold hpending
          omega
      · have hcount := hentries row.taskId
        rcases hrows row hrow with ⟨hid, -⟩ | ⟨-, hold⟩
        · rw [if_pos hid.symm] at hcount
          have hone := hr.unique row.taskId
          omega
        · have hzero := hr.final row hold hfinal
          omega
  | reset none hentries hrows =>
      refine ⟨fun id => ?_, fun row hrow hpending => ?_, fun row hrow hfinal => ?_⟩
      · rw [hentries]
        exact Nat.zero_le 1
      · exact absurd hpending (none row (hrows ▸ hrow))
      · exact hentries row.taskId

end Register

/-! ## Entries -/

/-- The final status of the task is not written. -/
def TaskPoint.isLive : TaskPoint → Bool
  | .starting => true
  | .executing => true
  | .ingesting _ => true
  | .finishing _ => true
  | _ => false

/-- The thread is about to write the final status. -/
def TaskPoint.isFinishing : TaskPoint → Bool
  | .finishing _ => true
  | _ => false

/-- The call has stored its task and not pushed it yet. -/
def EnqueuePoint.isStored : EnqueuePoint → Bool
  | .push => true
  | _ => false

/-- The thread runs a task with the id. -/
def TaskRun.isEntry (id : String) (run : TaskRun) : Bool :=
  run.point.isLive && run.task.taskId == id

/-- The call is about to push a task with the id. -/
def EnqueueCall.isEntry (id : String) (call : EnqueueCall) : Bool :=
  call.point.isStored && call.task.taskId == id

namespace QueueState

variable (s : QueueState)

/-- The tasks with an id that are live, or whose call is about to push them. -/
def entries (id : String) : Nat :=
  s.pending.tasks.countP (·.taskId == id) + s.worker.task?.toList.countP (·.taskId == id) +
    s.tasks.countP (TaskRun.isEntry id) + s.enqueues.countP (EnqueueCall.isEntry id)

def register : Register := ⟨s.entries, s.world.ledger.queueTasks⟩

/-- A task with the id is in a bucket, or in the hands of the worker, or its thread
has not written the final status. -/
def Live (id : String) : Prop :=
  (∃ task ∈ s.pending.tasks, task.taskId = id) ∨ (∃ task ∈ s.worker.task?, task.taskId = id) ∨
    ∃ run ∈ s.tasks, run.point.isLive = true ∧ run.task.taskId = id

/-- The status of a row says whether its task is live. -/
structure RowsTruthful : Prop where
  pending : ∀ row ∈ s.world.ledger.queueTasks, IsPending row.status → s.Live row.taskId
  final : ∀ row ∈ s.world.ledger.queueTasks, IsFinal row.status → ¬ s.Live row.taskId

/-- A call stores a task only when no task with its id is live or on its way, the
database accepts a final status, and the engine starts again only when no row is
queued or running. -/
structure KeepsRows (e : QueueEvent) : Prop where
  fresh : ∀ task ∈ s.taskAt? .store e, s.entries task.taskId = 0
  accepted : (s.taskPoint? e).any TaskPoint.isFinishing = true →
    s.world.around.refuses s.world.around.statements = false
  settled : e.isRestart = true → ∀ row ∈ s.world.ledger.queueTasks, ¬ IsPending row.status

end QueueState

section

variable {manager : QueueManager} {s s' : QueueState} {e : QueueEvent}

theorem entries_setEnqueue {caller : Nat} {before : EnqueueCall}
    (here : s.enqueues[caller]? = some before) (after : EnqueueCall) (id : String) :
    (s.setEnqueue caller after).entries id + (if before.isEntry id then 1 else 0) =
      s.entries id + if after.isEntry id then 1 else 0 := by
  have hcount := Lib.Threads.countP_set (EnqueueCall.isEntry id) after here
  simp only [QueueState.entries, QueueState.setEnqueue]
  omega

theorem entries_setTask {runner : Nat} {before : TaskRun}
    (here : s.tasks[runner]? = some before) (after : TaskRun) (id : String) :
    (s.setTask runner after).entries id + (if before.isEntry id then 1 else 0) =
      s.entries id + if after.isEntry id then 1 else 0 := by
  have hcount := Lib.Threads.countP_set (TaskRun.isEntry id) after here
  simp only [QueueState.entries, QueueState.setTask]
  omega

/-- A step of a call that is no entry and does not become one. -/
theorem entries_setEnqueue_same {caller : Nat} {before after : EnqueueCall}
    (here : s.enqueues[caller]? = some before) (hbefore : before.point.isStored = false)
    (hafter : after.point.isStored = false) (id : String) :
    (s.setEnqueue caller after).entries id = s.entries id := by
  have hcount := entries_setEnqueue here after id
  simpa [EnqueueCall.isEntry, hbefore, hafter] using hcount

/-- A step of a thread that does not change whether the task is live. -/
theorem entries_setTask_same {runner : Nat} {task : QueueTask} {before after : TaskPoint}
    (here : s.tasks[runner]? = some ⟨task, before⟩) (hsame : after.isLive = before.isLive)
    (id : String) : (s.setTask runner ⟨task, after⟩).entries id = s.entries id := by
  have hcount := entries_setTask here ⟨task, after⟩ id
  simp only [TaskRun.isEntry, hsame] at hcount
  exact Nat.add_right_cancel hcount

/-- Every step of the queue that keeps the rows is one of the register. -/
theorem register_step (h : QueueStep manager s e s') (hkeeps : s.KeepsRows e)
    (helsewhere : ∀ world, e = .elsewhere world →
      world.ledger.queueTasks = s.world.ledger.queueTasks) :
    Register.Step s.register s'.register := by
  cases h with
  | called task =>
      refine .keep (fun id => ?_) rfl
      simp [QueueState.register, QueueState.entries, EnqueueCall.isEntry, EnqueuePoint.isStored]
  | refused here full => exact .keep (entries_setEnqueue_same here rfl rfl) rfl
  | admitted here room => exact .keep (entries_setEnqueue_same here rfl rfl) rfl
  | @stored caller task world here ran =>
      let t : QueueState := { s with world := world }
      have hhere : t.enqueues[caller]? = some ⟨task, .store⟩ := here
      refine .enter task.taskId (hkeeps.fresh task ?_) (fun other => ?_)
        (StateStore.rows_of_storeQueueTask ran)
      · simp [QueueState.taskAt?, here]
      · have hcount := entries_setEnqueue hhere ⟨task, .push⟩ other
        simp [EnqueueCall.isEntry, EnqueuePoint.isStored] at hcount
        exact hcount
  | @unstored caller task world fault here ran =>
      let t : QueueState := { s with world := world }
      have hhere : t.enqueues[caller]? = some ⟨task, .store⟩ := here
      exact .keep (entries_setEnqueue_same hhere rfl rfl)
        (StateStore.rows_of_storeQueueTask_error ran)
  | @pushed caller task here =>
      let t : QueueState := { s with pending := s.pending.push task }
      have hhere : t.enqueues[caller]? = some ⟨task, .push⟩ := here
      refine .keep (fun id => ?_) rfl
      have hcount := entries_setEnqueue hhere ⟨task, .count⟩ id
      have hpush := (s.pending.tasks_push task).countP_eq (·.taskId == id)
      simp only [EnqueueCall.isEntry, EnqueuePoint.isStored, Bool.true_and,
        Bool.false_and] at hcount
      rw [List.countP_cons] at hpush
      show (t.setEnqueue caller ⟨task, .count⟩).entries id = s.entries id
      have ht : t.entries id = s.entries id + if task.taskId == id then 1 else 0 := by
        simp only [QueueState.entries, t, hpush]
        omega
      simp only [Bool.false_eq_true, ↓reduceIte, Nat.add_zero] at hcount
      omega
  | @counted caller task here =>
      let t : QueueState := { s with queueDepth := s.queueDepth + 1 }
      have hhere : t.enqueues[caller]? = some ⟨task, .count⟩ := here
      exact .keep (entries_setEnqueue_same hhere rfl rfl) rfl
  | @woke caller task here waits =>
      let t : QueueState := { s with worker := .draining }
      have hhere : t.enqueues[caller]? = some ⟨task, .notify⟩ := here
      refine .keep (fun id => (entries_setEnqueue_same hhere rfl rfl id).trans ?_) rfl
      simp [t, QueueState.register, QueueState.entries, waits, WorkerPoint.task?]
  | @noted caller task here awake =>
      let t : QueueState := { s with notified := true }
      have hhere : t.enqueues[caller]? = some ⟨task, .notify⟩ := here
      exact .keep (entries_setEnqueue_same hhere rfl rfl) rfl
  | passed idle permit =>
      refine .keep (fun id => ?_) rfl
      simp [QueueState.register, QueueState.entries, idle, WorkerPoint.task?]
  | parked idle none =>
      refine .keep (fun id => ?_) rfl
      simp [QueueState.register, QueueState.entries, idle, WorkerPoint.task?]
  | @took task rest drains first =>
      refine .keep (fun id => ?_) rfl
      simp [QueueState.register, QueueState.entries, drains, WorkerPoint.task?,
        QueueBuckets.tasks_of_pop? first, List.countP_cons]
  | drained drains nothing =>
      refine .keep (fun id => ?_) rfl
      simp [QueueState.register, QueueState.entries, drains, WorkerPoint.task?]
  | @granted task left acquires permits =>
      refine .keep (fun id => ?_) rfl
      simp [QueueState.register, QueueState.entries, acquires, WorkerPoint.task?,
        TaskRun.isEntry, TaskPoint.isLive, List.countP_cons]
      omega
  | @started runner task here =>
      let t := s.updateStatus task.taskId "running"
      have hhere : t.tasks[runner]? = some ⟨task, .starting⟩ := here
      refine .mark task.taskId ?_ (entries_setTask_same hhere rfl) fun row hrow => ?_
      · have hpos : 0 < s.tasks.countP (TaskRun.isEntry task.taskId) :=
          Lib.Threads.countP_pos here (by simp [TaskRun.isEntry, TaskPoint.isLive])
        show 0 < s.entries task.taskId
        simp only [QueueState.entries]
        omega
      · rcases StateStore.rows_of_updateQueueStatus hrow with hmarked | ⟨hold, -⟩
        · exact Or.inl hmarked
        · exact Or.inr hold
  | succeeded here success => exact .keep (entries_setTask_same here rfl) rfl
  | failed here failure => exact .keep (entries_setTask_same here rfl) rfl
  | ingested here => exact .keep (entries_setTask_same here rfl) rfl
  | @finished runner task outcome here =>
      let status := if outcome.success then "completed" else "failed"
      let t := s.updateStatus task.taskId status
      have hhere : t.tasks[runner]? = some ⟨task, .finishing outcome⟩ := here
      have haccepted := hkeeps.accepted
        (by simp [QueueState.taskPoint?, here, TaskPoint.isFinishing])
      have hfinal : IsFinal status := by
        cases hsuccess : outcome.success with
        | true => simp [status, hsuccess, IsFinal]
        | false => simp [status, hsuccess, IsFinal]
      refine .finish task.taskId status hfinal (fun other => ?_) fun row hrow => ?_
      · have hcount := entries_setTask hhere ⟨task, .auditing⟩ other
        simp [TaskRun.isEntry, TaskPoint.isLive] at hcount
        exact hcount
      · rcases StateStore.rows_of_updateQueueStatus hrow with hdone | ⟨hold, hother⟩
        · exact Or.inl hdone
        · exact Or.inr ⟨hother haccepted, hold⟩
  | audited here => exact .keep (entries_setTask_same here rfl) rfl
  | @uncounted runner task here =>
      let t : QueueState := { s with queueDepth := s.queueDepth - 1 }
      have hhere : t.tasks[runner]? = some ⟨task, .uncounting⟩ := here
      exact .keep (entries_setTask_same hhere rfl) rfl
  | @released runner task here =>
      let t : QueueState := { s with inflight := s.inflight + 1 }
      have hhere : t.tasks[runner]? = some ⟨task, .releasing⟩ := here
      exact .keep (entries_setTask_same hhere rfl) rfl
  | elsewhere world => exact .keep (fun _ => rfl) (helsewhere world rfl)
  | restarted => exact .reset (hkeeps.settled rfl) (fun _ => rfl) rfl

/-- While no call is about to push, the entries with an id are the live tasks. -/
theorem entries_pos_iff (hquiet : ∀ call ∈ s.enqueues, call.point.isStored = false) (id : String) :
    0 < s.entries id ↔ s.Live id := by
  have hcalls : s.enqueues.countP (EnqueueCall.isEntry id) = 0 := by
    refine List.countP_eq_zero.mpr fun call hcall => ?_
    simp [EnqueueCall.isEntry, hquiet call hcall]
  have hpending : 0 < s.pending.tasks.countP (·.taskId == id) ↔
      ∃ task ∈ s.pending.tasks, task.taskId = id := by
    simp [List.countP_pos_iff]
  have hheld : 0 < s.worker.task?.toList.countP (·.taskId == id) ↔
      ∃ task ∈ s.worker.task?, task.taskId = id := by
    simp [List.countP_pos_iff]
  have hruns : 0 < s.tasks.countP (TaskRun.isEntry id) ↔
      ∃ run ∈ s.tasks, run.point.isLive = true ∧ run.task.taskId = id := by
    simp [List.countP_pos_iff, TaskRun.isEntry]
  rw [QueueState.Live, ← hpending, ← hheld, ← hruns, QueueState.entries, hcalls]
  omega

variable [Externals] [SkillExternals] [PackExternals]

/-- While no call of `enqueue` is in progress, the status of each row says whether
its task is live, over all interleavings and starts of the engine on a database
that was empty at first, as long as the steps keep the rows. -/
theorem rows_truthful (manager : QueueManager)
    (h : (manager.system (fun world => world.ledger.queueTasks = [])
      fun s e => s.KeepsRows e).Reachable s)
    (hquiet : ∀ call ∈ s.enqueues, ∃ r, call.point = .returned r) : s.RowsTruthful := by
  have htruthful : s.register.Truthful := by
    refine h.invariant (P := fun s : QueueState => s.register.Truthful) ?_ ?_
    · rintro _ ⟨world, hempty, rfl⟩
      have hnone : ∀ row, row ∉ world.ledger.queueTasks := by simp [hempty]
      exact ⟨fun _ => Nat.zero_le 1, fun row hrow => absurd hrow (hnone row),
        fun row hrow => absurd hrow (hnone row)⟩
    · rintro s e s' ⟨⟨hkeeps, hpossible⟩, hnext⟩ hs
      refine hs.step (register_step (QueueStep.of_step? hnext) hkeeps ?_)
      rintro world rfl
      exact hpossible
  have hunstored : ∀ call ∈ s.enqueues, call.point.isStored = false := by
    intro call hcall
    obtain ⟨r, hreturned⟩ := hquiet call hcall
    rw [hreturned]
    rfl
  constructor
  · intro row hrow hpending
    exact (entries_pos_iff hunstored row.taskId).mp (htruthful.pending row hrow hpending)
  · intro row hrow hfinal hlive
    have hpos := (entries_pos_iff hunstored row.taskId).mpr hlive
    have hzero : s.entries row.taskId = 0 := htruthful.final row hrow hfinal
    omega

end

/-! ### An id that is used twice -/

/-- Two calls with one id, of which the worker runs the first to its end. -/
def twice : List QueueEvent :=
  crowd 2 ++ [.worker, .worker, .worker, .run 0, .executed 0 plainOutcome, .run 0]

/-- The rows, the tasks that wait, and whether all calls have returned. -/
def rowsAndTasks (s : QueueState) : List (String × String) × List QueueTask × Bool :=
  (s.world.ledger.queueTasks.map fun row => (row.taskId, row.status), s.pending.tasks,
    s.enqueues.all fun call => match call.point with | .returned _ => true | _ => false)

theorem returned_of_rowsAndTasks {s : QueueState} (h : (rowsAndTasks s).2.2 = true) :
    ∀ call ∈ s.enqueues, ∃ r, call.point = .returned r := by
  intro call hcall
  have hreturned := List.all_eq_true.mp h call hcall
  split at hreturned
  · exact ⟨_, ‹_›⟩
  · cases hreturned

theorem referenceWorld_rows : referenceWorld.ledger.queueTasks = [] := rfl

/-- The first task is failed and the second one waits. -/
theorem rows_truthful_fails :
    ¬ ∀ [Externals] [SkillExternals] [PackExternals] (manager : QueueManager) (s : QueueState),
      (manager.system (fun world => world.ledger.queueTasks = []) fun _ _ => True).Reachable s →
        (∀ call ∈ s.enqueues, ∃ r, call.point = .returned r) → s.RowsTruthful := by
  intro h
  have hrun : (smallRun (fun _ _ => true) twice).map rowsAndTasks =
      some ([("task", "failed")], [plainTask], true) := by
    decide
  obtain ⟨s, hs, hfound⟩ := Option.map_eq_some_iff.mp hrun
  obtain ⟨hrows, hwaiting⟩ := Prod.mk.inj hfound
  obtain ⟨hwaiting, hreturned⟩ := Prod.mk.inj hwaiting
  have hrow : ("task", "failed") ∈
      s.world.ledger.queueTasks.map fun row => (row.taskId, row.status) := by
    simp [hrows]
  obtain ⟨row, hmem, heq⟩ := List.mem_map.mp hrow
  obtain ⟨hid, hstatus⟩ := Prod.mk.inj heq
  have htruthful := @h jsonExternals noSkillExternals noPackExternals smallQueue s
    (reachable_of_smallRun referenceWorld_rows (fun _ _ _ => trivial) hs)
    (returned_of_rowsAndTasks hreturned)
  refine htruthful.final row hmem (Or.inr hstatus) (Or.inl ⟨plainTask, ?_, hid.symm⟩)
  simp [hwaiting]

instance : DecidablePred IsPending := fun status =>
  inferInstanceAs (Decidable (status = "queued" ∨ status = "running"))

instance (s : QueueState) (e : QueueEvent) : Decidable (s.KeepsRows e) :=
  decidable_of_iff ((∀ task ∈ s.taskAt? .store e, s.entries task.taskId = 0) ∧
      ((s.taskPoint? e).any TaskPoint.isFinishing = true →
        s.world.around.refuses s.world.around.statements = false) ∧
      (e.isRestart = true → ∀ row ∈ s.world.ledger.queueTasks, ¬ IsPending row.status))
    ⟨fun ⟨fresh, accepted, settled⟩ => ⟨fresh, accepted, settled⟩,
      fun ⟨fresh, accepted, settled⟩ => ⟨fresh, accepted, settled⟩⟩

/-- An id that is used again once its task is done, and a start of the engine in
between. -/
def again : List QueueEvent :=
  crowd 1 ++ [.worker, .worker, .worker, .run 0, .executed 0 plainOutcome, .run 0, .restart] ++
    crowd 1

theorem rows_truthful_again :
    ∃ s, smallRun (fun s e => decide (s.KeepsRows e)) again = some s ∧
      rowsAndTasks s = ([("task", "queued")], [plainTask], true) ∧ s.RowsTruthful := by
  have hrun : (smallRun (fun s e => decide (s.KeepsRows e)) again).map rowsAndTasks =
      some ([("task", "queued")], [plainTask], true) := by
    decide
  obtain ⟨s, hs, hfound⟩ := Option.map_eq_some_iff.mp hrun
  have hreturned : (rowsAndTasks s).2.2 = true := by rw [hfound]
  exact ⟨s, hs, hfound, @rows_truthful s jsonExternals noSkillExternals noPackExternals
    smallQueue (reachable_of_smallRun referenceWorld_rows (fun _ _ => of_decide_eq_true) hs)
    (returned_of_rowsAndTasks hreturned)⟩

end OpenPinch
