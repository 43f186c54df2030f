import OpenPinch.Engine.Queue
import OpenPinch.Lib.Threads

/-!
# What the queue does

The buckets as one list, sorted by priority.  `QueueStep` lists what a step can
do, and `QueueStep.of_step?` that there is nothing else.  The counts of calls and
tasks by where they stand are the measures of the results about the queue.
-/

namespace OpenPinch

/-! ## Buckets -/

/-- The place of a priority in the order in which buckets are looked at. -/
def QueuePriority.rank : QueuePriority → Nat
  | .interactive => 0
  | .connector => 1
  | .autonomy => 2
  | .background => 3

namespace QueueBuckets

@[simp] theorem tasks_empty : empty.tasks = [] := rfl

/-- A push adds one task. -/
theorem tasks_push (buckets : QueueBuckets) (task : QueueTask) :
    (buckets.push task).tasks.Perm (task :: buckets.tasks) := by
  unfold push
  split
  · simp only [tasks, List.map_append, List.map_cons, List.map_nil, List.append_assoc]
    exact List.perm_middle
  · simp only [tasks, List.map_append, List.map_cons, List.map_nil, List.append_assoc]
    rw [← List.append_assoc, ← List.append_assoc (buckets.interactive.map Subtype.val)]
    exact List.perm_middle
  · simp only [tasks, List.map_append, List.map_cons, List.map_nil, List.append_assoc]
    simp only [← List.append_assoc]
    rw [List.append_assoc _ [task]]
    exact List.perm_middle
  · simp only [tasks, List.map_append, List.map_cons, List.map_nil]
    rw [← List.append_assoc]
    exact List.perm_append_singleton _ _

/-- A task that is taken is the first one. -/
theorem tasks_of_pop? {buckets rest : QueueBuckets} {task : QueueTask}
    (h : buckets.pop? = some (task, rest)) : buckets.tasks = task :: rest.tasks := by
  unfold pop? at h
  split at h <;> cases h <;> rfl

/-- Nothing comes out of the buckets only when all of them are empty. -/
theorem eq_empty_of_pop?_none {buckets : QueueBuckets} (h : buckets.pop? = none) :
    buckets = ⟨[], [], [], []⟩ := by
  unfold pop? at h
  split at h
  · cases h
  · cases h
  · cases h
  · cases h
  · rfl

/-- Nothing is taken when nothing waits. -/
theorem tasks_of_pop?_none {buckets : QueueBuckets} (h : buckets.pop? = none) :
    buckets.tasks = [] := by
  rw [eq_empty_of_pop?_none h]
  rfl

theorem rank_of_mem {priority : QueuePriority} {bucket : QueueBucket priority}
    {task : QueueTask} (h : task ∈ bucket.map Subtype.val) : task.priority = priority := by
  obtain ⟨entry, -, rfl⟩ := List.mem_map.mp h
  exact entry.2

/-- Waiting tasks are in the order of their priorities. -/
theorem tasks_sorted (buckets : QueueBuckets) :
    buckets.tasks.Pairwise fun first later => first.priority.rank ≤ later.priority.rank := by
  have hbucket : ∀ {priority : QueuePriority} (bucket : QueueBucket priority),
      (bucket.map Subtype.val).Pairwise fun first later =>
        first.priority.rank ≤ later.priority.rank := by
    intro priority bucket
    refine List.pairwise_of_forall_mem_list fun first hfirst later hlater => ?_
    rw [rank_of_mem hfirst, rank_of_mem hlater]
  simp only [tasks, List.pairwise_append, List.mem_append, or_imp, forall_and]
  refine ⟨⟨⟨hbucket _, hbucket _, ?_⟩, hbucket _, ?_, ?_⟩, hbucket _, ⟨?_, ?_⟩, ?_⟩
  all_goals
    intro first hfirst later hlater
    rw [rank_of_mem hfirst, rank_of_mem hlater]
    decide

end QueueBuckets

/-! ## Steps -/

/-- What a step can do. -/
inductive QueueStep (manager : QueueManager) (s : QueueState) : QueueEvent → QueueState → Prop where
  | called (task : QueueTask) :
      QueueStep manager s (.call task) { s with enqueues := s.enqueues ++ [⟨task, .check⟩] }
  | refused {caller : Nat} {task : QueueTask} (here : s.enqueues[caller]? = some ⟨task, .check⟩)
      (full : manager.maxPending ≤ s.queueDepth.toNat) :
      QueueStep manager s (.enqueue caller)
        (s.setEnqueue caller ⟨task, .returned (.error (.error "queue is full"))⟩)
  | admitted {caller : Nat} {task : QueueTask} (here : s.enqueues[caller]? = some ⟨task, .check⟩)
      (room : s.queueDepth.toNat < manager.maxPending) :
      QueueStep manager s (.enqueue caller) (s.setEnqueue caller ⟨task, .store⟩)
  | stored {caller : Nat} {task : QueueTask} {world : World}
      (here : s.enqueues[caller]? = some ⟨task, .store⟩)
      (ran : (StateStore.storeQueueTask task "queued").eval s.world = (.ok (), world)) :
      QueueStep manager s (.enqueue caller)
        ({ s with world := world }.setEnqueue caller ⟨task, .push⟩)
  | unstored {caller : Nat} {task : QueueTask} {world : World} {fault : Fault}
      (here : s.enqueues[caller]? = some ⟨task, .store⟩)
      (ran : (StateStore.storeQueueTask task "queued").eval s.world = (.error fault, world)) :
      QueueStep manager s (.enqueue caller)
        ({ s with world := world }.setEnqueue caller ⟨task, .returned (.error fault)⟩)
  | pushed {caller : Nat} {task : QueueTask} (here : s.enqueues[caller]? = some ⟨task, .push⟩) :
      QueueStep manager s (.enqueue caller)
        ({ s with pending := s.pending.push task }.setEnqueue caller ⟨task, .count⟩)
  | counted {caller : Nat} {task : QueueTask} (here : s.enqueues[caller]? = some ⟨task, .count⟩) :
      QueueStep manager s (.enqueue caller)
        ({ s with queueDepth := s.queueDepth + 1 }.setEnqueue caller ⟨task, .notify⟩)
  | woke {caller : Nat} {task : QueueTask} (here : s.enqueues[caller]? = some ⟨task, .notify⟩)
      (waits : s.worker = .parked) :
      QueueStep manager s (.enqueue caller)
        ({ s with worker := .draining }.setEnqueue caller
          ⟨task, .returned (.ok (QueueManager.receipt task))⟩)
  | noted {caller : Nat} {task : QueueTask} (here : s.enqueues[caller]? = some ⟨task, .notify⟩)
      (awake : s.worker ≠ .parked) :
      QueueStep manager s (.enqueue caller)
        ({ s with notified := true }.setEnqueue caller
          ⟨task, .returned (.ok (QueueManager.receipt task))⟩)
  | passed (idle : s.worker = .idle) (permit : s.notified = true) :
      QueueStep manager s .worker { s with worker := .draining, notified := false }
  | parked (idle : s.worker = .idle) (none : s.notified = false) :
      QueueStep manager s .worker { s with worker := .parked }
  | took {task : QueueTask} {rest : QueueBuckets} (drains : s.worker = .draining)
      (first : s.pending.pop? = some (task, rest)) :
      QueueStep manager s .worker { s with worker := .acquiring task, pending := rest }
  | drained (drains : s.worker = .draining) (nothing : s.pending.pop? = none) :
      QueueStep manager s .worker { s with worker := .idle }
  | granted {task : QueueTask} {left : Nat} (acquires : s.worker = .acquiring task)
      (permits : s.inflight = left + 1) :
      QueueStep manager s .worker
        { s with worker := .draining, inflight := left, tasks := s.tasks ++ [⟨task, .starting⟩] }
  | started {runner : Nat} {task : QueueTask} (here : s.tasks[runner]? = some ⟨task, .starting⟩) :
      QueueStep manager s (.run runner)
        ((s.updateStatus task.taskId "running").setTask runner ⟨task, .executing⟩)
  | succeeded {runner : Nat} {task : QueueTask} {outcome : ToolOutcome}
      (here : s.tasks[runner]? = some ⟨task, .executing⟩) (success : outcome.success = true) :
      QueueStep manager s (.executed runner outcome) (s.setTask runner ⟨task, .ingesting outcome⟩)
  | failed {runner : Nat} {task : QueueTask} {outcome : ToolOutcome}
      (here : s.tasks[runner]? = some ⟨task, .executing⟩) (failure : outcome.success = false) :
      QueueStep manager s (.executed runner outcome) (s.setTask runner ⟨task, .finishing outcome⟩)
  | ingested {runner : Nat} {task : QueueTask} {outcome : ToolOutcome}
      (here : s.tasks[runner]? = some ⟨task, .ingesting outcome⟩) :
      QueueStep manager s (.run runner) (s.setTask runner ⟨task, .finishing outcome⟩)
  | finished {runner : Nat} {task : QueueTask} {outcome : ToolOutcome}
      (here : s.tasks[runner]? = some ⟨task, .finishing outcome⟩) :
      QueueStep manager s (.run runner)
        ((s.updateStatus task.taskId (if outcome.success then "completed" else "failed")).setTask
          runner ⟨task, .auditing⟩)
  | audited {runner : Nat} {task : QueueTask} (here : s.tasks[runner]? = some ⟨task, .auditing⟩) :
      QueueStep manager s (.run runner) (s.setTask runner ⟨task, .uncounting⟩)
  | uncounted {runner : Nat} {task : QueueTask}
      (here : s.tasks[runner]? = some ⟨task, .uncounting⟩) :
      QueueStep manager s (.run runner)
        ({ s with queueDepth := s.queueDepth - 1 }.setTask runner ⟨task, .releasing⟩)
  | released {runner : Nat} {task : QueueTask} (here : s.tasks[runner]? = some ⟨task, .releasing⟩) :
      QueueStep manager s (.run runner)
        ({ s with inflight := s.inflight + 1 }.setTask runner ⟨task, .ended⟩)
  | elsewhere (world : World) : QueueStep manager s (.elsewhere world) { s with world := world }
  | restarted : QueueStep manager s .restart (manager.start s.world)

namespace QueueStep

variable {manager : QueueManager} {s s' : QueueState}

theorem of_stepEnqueue {caller : Nat} {call : EnqueueCall} (here : s.enqueues[caller]? = some call)
    (h : manager.stepEnqueue s caller call = some s') :
    QueueStep manager s (.enqueue caller) s' := by
  obtain ⟨task, point⟩ := call
  cases point with
  | check =>
      simp only [QueueManager.stepEnqueue] at h
      split at h
      · cases h
        exact .refused here ‹_›
      · cases h
        exact .admitted here (Nat.lt_of_not_le ‹_›)
  | store =>
      simp only [QueueManager.stepEnqueue] at h
      split at h
      · cases h
        exact .stored here ‹_›
      · cases h
        exact .unstored here ‹_›
  | push =>
      cases h
      exact .pushed here
  | count =>
      cases h
      exact .counted here
  | notify =>
      simp only [QueueManager.stepEnqueue, QueueState.notifyOne] at h
      cases h
      split
      · exact .woke here ‹_›
      · exact .noted here ‹_›
  | returned result => cases h

theorem of_stepWorker (h : s.stepWorker = some s') : QueueStep manager s .worker s' := by
  unfold QueueState.stepWorker at h
  cases hworker : s.worker with
  | idle =>
      simp only [hworker] at h
      split at h
      · cases h
        exact .passed hworker ‹_›
      · cases h
        exact .parked hworker (Bool.eq_false_iff.mpr ‹_›)
  | parked => simp [hworker] at h
  | draining =>
      simp only [hworker] at h
      split at h
      · cases h
        exact .took hworker ‹_›
      · cases h
        exact .drained hworker ‹_›
  | acquiring task =>
      simp only [hworker] at h
      split at h
      · cases h
      · cases h
        exact .granted hworker ‹_›

theorem of_stepTask {runner : Nat} {run : TaskRun} (here : s.tasks[runner]? = some run)
    (h : s.stepTask runner run = some s') : QueueStep manager s (.run runner) s' := by
  obtain ⟨task, point⟩ := run
  cases point with
  | starting =>
      cases h
      exact .started here
  | executing => cases h
  | ingesting outcome =>
      cases h
      exact .ingested here
  | finishing outcome =>
      cases h
      exact .finished here
  | auditing =>
      cases h
      exact .audited here
  | uncounting =>
      cases h
      exact .uncounted here
  | releasing =>
      cases h
      exact .released here
  | ended => cases h

/-- A step does one of these. -/
theorem of_step? {e : QueueEvent} (h : manager.step? s e = some s') : QueueStep manager s e s' := by
  cases e with
  | call task =>
      cases h
      exact .called task
  | enqueue caller =>
      simp only [QueueManager.step?] at h
      split at h
      · exact of_stepEnqueue ‹_› h
      · cases h
  | worker => exact of_stepWorker h
  | run runner =>
      simp only [QueueManager.step?] at h
      split at h
      · exact of_stepTask ‹_› h
      · cases h
  | executed runner outcome =>
      simp only [QueueManager.step?] at h
      split at h
      · split at h
        · cases h
          exact .succeeded ‹_› ‹_›
        · cases h
          exact .failed ‹_› (Bool.eq_false_iff.mpr ‹_›)
      · cases h
  | elsewhere world =>
      cases h
      exact .elsewhere world
  | restart =>
      cases h
      exact .restarted

end QueueStep

end OpenPinch
