import Mathlib.Data.BitVec
import OpenPinch.Engine.QueueDepth
import OpenPinch.Engine.QueueWorker
import OpenPinch.Lib.Weights

/-!
# The balance of the queue

What the calls have put into the queue is what waits in its buckets, what the worker
holds and what has been started, task by task.  Each permit is in the semaphore or
with a thread, and the depth is what was counted less what was uncounted, in 64 bits.
Every step keeps the balance (`balanced_step`).

So no task is lost or started twice, and no more tasks run than there are permits
(`tasks_accounted`).

The statements on the database wait for the mutex of the store, which other operations
of the engine take and give back.  When the mutex is free and nothing in the queue can
go on, every task that was accepted has been run to its end, and the queue is as it was
at the start (`queue_settled`).
-/

namespace OpenPinch

open Lib (System)
open Lib.Threads (map_set_same weight weight_concat weight_congr weight_ite weight_set
  weight_set_same weight_singletons)

/-! ## Weights -/

/-- The call has pushed its task. -/
def EnqueuePoint.isPushed : EnqueuePoint → Bool
  | .count => true
  | .notify => true
  | .returned (.ok _) => true
  | _ => false

/-- The call has raised the depth. -/
def EnqueuePoint.isCounted : EnqueuePoint → Bool
  | .notify => true
  | .returned (.ok _) => true
  | _ => false

/-- The thread holds a permit. -/
def TaskPoint.isRunning : TaskPoint → Bool
  | .ended => false
  | _ => true

namespace EnqueueCall

def pushed (call : EnqueueCall) : Multiset QueueTask :=
  if call.point.isPushed then {call.task} else 0

def counted (call : EnqueueCall) : BitVec 64 := if call.point.isCounted then 1 else 0

end EnqueueCall

namespace TaskRun

def permits (run : TaskRun) : Nat := if run.point.isRunning then 1 else 0

def uncounted (run : TaskRun) : BitVec 64 := if run.point.isUnfinished then 0 else 1

end TaskRun

namespace QueueState

variable (s : QueueState)

/-- The tasks that calls have pushed. -/
def accepted : List QueueTask :=
  (s.enqueues.filter fun call => call.point.isPushed).map EnqueueCall.task

/-- The tasks that were started, the one that the worker holds, and those that wait. -/
def present : List QueueTask :=
  s.tasks.map TaskRun.task ++ s.worker.task?.toList ++ s.pending.tasks

/-- The threads that hold a permit. -/
def running : Nat := s.tasks.countP fun run => run.point.isRunning

end QueueState

/-- The state of the queue is balanced. -/
structure QueueState.Balanced (manager : QueueManager) (s : QueueState) : Prop where
  tasks : weight EnqueueCall.pushed s.enqueues = ↑s.present
  permits : s.inflight + weight TaskRun.permits s.tasks = max manager.maxInflight 1
  depth : s.queueDepth + weight TaskRun.uncounted s.tasks = weight EnqueueCall.counted s.enqueues
  unnotified : s.worker = .parked → s.notified = false

/-! ## Steps -/

section

variable {manager : QueueManager} {s s' : QueueState} {e : QueueEvent}

theorem balanced_start (world : World) : (manager.start world).Balanced manager where
  tasks := rfl
  permits := rfl
  depth := rfl
  unnotified := by rintro ⟨⟩

/-- A step of a call that neither pushes nor counts. -/
theorem balanced_setEnqueue {caller : Nat} {before after : EnqueueCall}
    (here : s.enqueues[caller]? = some before) (hpushed : after.pushed = before.pushed)
    (hcounted : after.counted = before.counted) (hs : s.Balanced manager) :
    (s.setEnqueue caller after).Balanced manager where
  tasks := (weight_set_same here hpushed).trans hs.tasks
  permits := hs.permits
  depth := hs.depth.trans (weight_set_same here hcounted).symm
  unnotified := hs.unnotified

/-- A step of a thread that keeps its permit and does not lower the depth. -/
theorem balanced_setTask {runner : Nat} {before after : TaskRun}
    (here : s.tasks[runner]? = some before) (htask : after.task = before.task)
    (hpermits : after.permits = before.permits) (huncounted : after.uncounted = before.uncounted)
    (hs : s.Balanced manager) : (s.setTask runner after).Balanced manager where
  tasks := by
    rw [QueueState.present, QueueState.setTask, map_set_same here htask]
    exact hs.tasks
  permits := by
    rw [QueueState.setTask, weight_set_same here hpermits]
    exact hs.permits
  depth := by
    rw [QueueState.setTask, weight_set_same here huncounted]
    exact hs.depth
  unnotified := hs.unnotified

/-- A task that is pushed waits. -/
theorem balanced_pushed {caller : Nat} {task : QueueTask}
    (here : s.enqueues[caller]? = some ⟨task, .push⟩) (hs : s.Balanced manager) :
    ({ s with pending := s.pending.push task }.setEnqueue caller ⟨task, .count⟩ :
      QueueState).Balanced manager := by
  let after : EnqueueCall := ⟨task, .count⟩
  have hpushed : weight EnqueueCall.pushed (s.enqueues.set caller after) + 0 =
      weight EnqueueCall.pushed s.enqueues + {task} := weight_set after here
  have hcounted : weight EnqueueCall.counted (s.enqueues.set caller after) =
      weight EnqueueCall.counted s.enqueues := weight_set_same here rfl
  have hperm : (s.tasks.map TaskRun.task ++ s.worker.task?.toList ++
      (s.pending.push task).tasks).Perm (task :: s.present) :=
    ((s.pending.tasks_push task).append_left _).trans List.perm_middle
  refine ⟨?_, hs.permits, hs.depth.trans hcounted.symm, hs.unnotified⟩
  calc
    weight EnqueueCall.pushed (s.enqueues.set caller after)
      = ↑s.present + {task} := by rw [← hs.tasks, ← hpushed, add_zero]
    _ = ↑(task :: s.present) := add_comm _ _
    _ = _ := (Multiset.coe_eq_coe.mpr hperm).symm

theorem balanced_counted {caller : Nat} {task : QueueTask}
    (here : s.enqueues[caller]? = some ⟨task, .count⟩) (hs : s.Balanced manager) :
    ({ s with queueDepth := s.queueDepth + 1 }.setEnqueue caller ⟨task, .notify⟩ :
      QueueState).Balanced manager := by
  let after : EnqueueCall := ⟨task, .notify⟩
  have hpushed : weight EnqueueCall.pushed (s.enqueues.set caller after) =
      weight EnqueueCall.pushed s.enqueues := weight_set_same here rfl
  have hcounted : weight EnqueueCall.counted (s.enqueues.set caller after) + 0 =
      weight EnqueueCall.counted s.enqueues + 1 := weight_set after here
  refine ⟨hpushed.trans hs.tasks, hs.permits, ?_, hs.unnotified⟩
  calc
    s.queueDepth + 1 + weight TaskRun.uncounted s.tasks
      = weight EnqueueCall.counted s.enqueues + 1 := by rw [add_right_comm, hs.depth]
    _ = weight EnqueueCall.counted (s.enqueues.set caller after) := by
        rw [← hcounted, add_zero]

/-- The notification of a call. -/
theorem balanced_notified {caller : Nat} {task : QueueTask} {receipt : QueueReceipt}
    (here : s.enqueues[caller]? = some ⟨task, .notify⟩) (hs : s.Balanced manager) :
    (s.setEnqueue caller ⟨task, .returned (.ok receipt)⟩).Balanced manager :=
  balanced_setEnqueue here rfl rfl hs

/-- The worker goes on with the task that it held before. -/
theorem balanced_worker {worker : WorkerPoint} {notified : Bool}
    (htask : worker.task? = s.worker.task?) (hquiet : worker = .parked → notified = false)
    (hs : s.Balanced manager) :
    ({ s with worker := worker, notified := notified } : QueueState).Balanced manager where
  tasks := by
    rw [hs.tasks, QueueState.present, QueueState.present, htask]
  permits := hs.permits
  depth := hs.depth
  unnotified := hquiet

/-- A task that the worker takes waits no longer. -/
theorem balanced_took {task : QueueTask} {rest : QueueBuckets} (drains : s.worker = .draining)
    (first : s.pending.pop? = some (task, rest)) (hs : s.Balanced manager) :
    ({ s with worker := .acquiring task, pending := rest } : QueueState).Balanced manager where
  tasks := by
    rw [hs.tasks, QueueState.present, QueueState.present, drains,
      QueueBuckets.tasks_of_pop? first]
    simp [WorkerPoint.task?]
  permits := hs.permits
  depth := hs.depth
  unnotified := by rintro ⟨⟩

/-- A task that gets a permit is the one that the worker held. -/
theorem balanced_granted {task : QueueTask} {left : Nat} (acquires : s.worker = .acquiring task)
    (permits : s.inflight = left + 1) (hs : s.Balanced manager) :
    ({ s with
      worker := .draining
      inflight := left
      tasks := s.tasks ++ [⟨task, .starting⟩] } : QueueState).Balanced manager := by
  have hpermits : weight TaskRun.permits (s.tasks ++ [⟨task, .starting⟩]) =
      weight TaskRun.permits s.tasks + 1 := weight_concat _ _ _
  have huncounted : weight TaskRun.uncounted (s.tasks ++ [⟨task, .starting⟩]) =
      weight TaskRun.uncounted s.tasks + 0 := weight_concat _ _ _
  refine ⟨?_, ?_, ?_, by rintro ⟨⟩⟩
  · rw [hs.tasks, QueueState.present, QueueState.present, acquires]
    simp [WorkerPoint.task?]
  · calc
      left + weight TaskRun.permits (s.tasks ++ [⟨task, .starting⟩])
        = s.inflight + weight TaskRun.permits s.tasks := by omega
      _ = max manager.maxInflight 1 := hs.permits
  · rw [huncounted, add_zero]
    exact hs.depth

theorem balanced_uncounted {runner : Nat} {task : QueueTask}
    (here : s.tasks[runner]? = some ⟨task, .uncounting⟩) (hs : s.Balanced manager) :
    ({ s with queueDepth := s.queueDepth - 1 }.setTask runner ⟨task, .releasing⟩ :
      QueueState).Balanced manager := by
  let after : TaskRun := ⟨task, .releasing⟩
  have htasks : (s.tasks.set runner after).map TaskRun.task = s.tasks.map TaskRun.task :=
    map_set_same here rfl
  have hpermits : weight TaskRun.permits (s.tasks.set runner after) =
      weight TaskRun.permits s.tasks := weight_set_same here rfl
  have huncounted : weight TaskRun.uncounted (s.tasks.set runner after) + 0 =
      weight TaskRun.uncounted s.tasks + 1 := weight_set after here
  refine ⟨?_, ?_, ?_, hs.unnotified⟩
  · rw [QueueState.present, QueueState.setTask, htasks]
    exact hs.tasks
  · rw [QueueState.setTask, hpermits]
    exact hs.permits
  · calc
      s.queueDepth - 1 + weight TaskRun.uncounted (s.tasks.set runner after)
        = s.queueDepth - 1 + (weight TaskRun.uncounted s.tasks + 1) := by
            rw [← huncounted, add_zero]
      _ = s.queueDepth + weight TaskRun.uncounted s.tasks := by
          rw [add_comm (weight TaskRun.uncounted s.tasks), ← add_assoc, sub_add_cancel]
      _ = weight EnqueueCall.counted s.enqueues := hs.depth

theorem balanced_released {runner : Nat} {task : QueueTask}
    (here : s.tasks[runner]? = some ⟨task, .releasing⟩) (hs : s.Balanced manager) :
    ({ s with inflight := s.inflight + 1 }.setTask runner ⟨task, .ended⟩ :
      QueueState).Balanced manager := by
  let after : TaskRun := ⟨task, .ended⟩
  have htasks : (s.tasks.set runner after).map TaskRun.task = s.tasks.map TaskRun.task :=
    map_set_same here rfl
  have hpermits : weight TaskRun.permits (s.tasks.set runner after) + 1 =
      weight TaskRun.permits s.tasks + 0 := weight_set after here
  have huncounted : weight TaskRun.uncounted (s.tasks.set runner after) =
      weight TaskRun.uncounted s.tasks := weight_set_same here rfl
  refine ⟨?_, ?_, ?_, hs.unnotified⟩
  · rw [QueueState.present, QueueState.setTask, htasks]
    exact hs.tasks
  · calc
      s.inflight + 1 + weight TaskRun.permits (s.tasks.set runner after)
        = s.inflight + weight TaskRun.permits s.tasks := by omega
      _ = max manager.maxInflight 1 := hs.permits
  · rw [QueueState.setTask, huncounted]
    exact hs.depth

theorem balanced_step (h : QueueStep manager s e s') (hs : s.Balanced manager) :
    s'.Balanced manager := by
  have hworld (world : World) : ({ s with world := world } : QueueState).Balanced manager :=
    { hs with }
  cases h with
  | called task =>
      refine { hs with tasks := ?_, depth := ?_ }
      · exact (weight_concat _ _ _).trans ((add_zero _).trans hs.tasks)
      · exact hs.depth.trans ((weight_concat _ _ _).trans (add_zero _)).symm
  | refused here full => exact balanced_setEnqueue here rfl rfl hs
  | admitted here room => exact balanced_setEnqueue here rfl rfl hs
  | @stored _ _ world here ran => exact balanced_setEnqueue here rfl rfl (hworld world)
  | @unstored _ _ world _ here ran => exact balanced_setEnqueue here rfl rfl (hworld world)
  | pushed here => exact balanced_pushed here hs
  | counted here => exact balanced_counted here hs
  | @woke caller task here waits =>
      have hwoken : ({ s with worker := .draining } : QueueState).Balanced manager :=
        balanced_worker (by rw [waits]; rfl) (by rintro ⟨⟩) hs
      exact balanced_notified here hwoken
  | @noted caller task here awake =>
      have hnoted : ({ s with notified := true } : QueueState).Balanced manager :=
        balanced_worker rfl (fun hparked => absurd hparked awake) hs
      exact balanced_notified here hnoted
  | passed idle permit => exact balanced_worker (by rw [idle]; rfl) (fun _ => rfl) hs
  | parked idle none => exact balanced_worker (by rw [idle]; rfl) (fun _ => none) hs
  | took drains first => exact balanced_took drains first hs
  | drained drains nothing => exact balanced_worker (by rw [drains]; rfl) (by rintro ⟨⟩) hs
  | granted acquires permits => exact balanced_granted acquires permits hs
  | started here => exact balanced_setTask here rfl rfl rfl (hworld _)
  | succeeded here success => exact balanced_setTask here rfl rfl rfl hs
  | failed here failure => exact balanced_setTask here rfl rfl rfl hs
  | ingested here => exact balanced_setTask here rfl rfl rfl hs
  | finished here => exact balanced_setTask here rfl rfl rfl (hworld _)
  | audited here => exact balanced_setTask here rfl rfl rfl hs
  | uncounted here => exact balanced_uncounted here hs
  | released here => exact balanced_released here hs
  | elsewhere world => exact hworld world
  | restarted => exact balanced_start s.world

/-! ## Runs -/

theorem QueueState.Balanced.perm (hs : s.Balanced manager) : s.present.Perm s.accepted := by
  have htasks := hs.tasks.symm.trans (weight_singletons _ _ _)
  exact Multiset.coe_eq_coe.mp htasks

theorem QueueState.Balanced.running (hs : s.Balanced manager) :
    s.inflight + s.running = max manager.maxInflight 1 := by
  rw [← hs.permits, QueueState.running]
  exact congrArg (s.inflight + ·) ((weight_ite _ _ _).trans (Nat.mul_one _)).symm

/-- No call, no thread of a task and not the worker can take a step, and no tool is
still at work. -/
structure QueueState.Settled (manager : QueueManager) (s : QueueState) : Prop where
  calls : ∀ caller, manager.step? s (.enqueue caller) = none
  worker : manager.step? s .worker = none
  runs : ∀ runner, manager.step? s (.run runner) = none
  tools : ∀ run ∈ s.tasks, run.point ≠ .executing

theorem QueueState.Settled.returned (hs : s.Settled manager) :
    ∀ call ∈ s.enqueues, ∃ result, call.point = .returned result := by
  intro call hcall
  obtain ⟨caller, hcaller⟩ := List.getElem?_of_mem hcall
  have hnone := hs.calls caller
  simp only [QueueManager.step?, hcaller, QueueManager.stepEnqueue] at hnone
  cases hpoint : call.point with
  | returned result => exact ⟨result, rfl⟩
  | check =>
      simp only [hpoint] at hnone
      split at hnone <;> cases hnone
  | store =>
      simp only [hpoint] at hnone
      split at hnone <;> cases hnone
  | push | count | notify =>
      simp only [hpoint] at hnone
      cases hnone

theorem QueueState.Settled.ended (hs : s.Settled manager) :
    ∀ run ∈ s.tasks, run.point = .ended := by
  intro run hrun
  obtain ⟨runner, hrunner⟩ := List.getElem?_of_mem hrun
  have hnone := hs.runs runner
  simp only [QueueManager.step?, hrunner, QueueState.stepTask] at hnone
  cases hpoint : run.point with
  | ended => rfl
  | executing => exact absurd hpoint (hs.tools run hrun)
  | _ =>
      simp only [hpoint] at hnone
      cases hnone

theorem QueueState.Settled.running (hs : s.Settled manager) : s.running = 0 := by
  refine List.countP_eq_zero.mpr fun run hrun => ?_
  rw [hs.ended run hrun]
  exact Bool.false_ne_true

theorem QueueState.Settled.parked (hs : s.Settled manager) (hbalanced : s.Balanced manager) :
    s.worker = .parked := by
  have hrunning := hs.running
  have hinflight := hbalanced.running
  have hnone : s.stepWorker = none := hs.worker
  unfold QueueState.stepWorker at hnone
  cases hworker : s.worker with
  | parked => rfl
  | idle =>
      simp only [hworker] at hnone
      split at hnone <;> cases hnone
  | draining =>
      simp only [hworker] at hnone
      split at hnone <;> cases hnone
  | acquiring task =>
      -- all permits are there
      simp only [hworker] at hnone
      split at hnone
      · omega
      · cases hnone

variable [Externals] [SkillExternals] [PackExternals]

theorem balanced_of_reachable {init : World → Prop} {allowed : QueueState → QueueEvent → Prop}
    (h : (manager.system init allowed).Reachable s) : s.Balanced manager ∧ s.Restful := by
  refine h.invariant (P := fun s => s.Balanced manager ∧ s.Restful) ?_ ?_
  · rintro _ ⟨world, -, rfl⟩
    exact ⟨balanced_start world, fun _ => Or.inl rfl⟩
  · rintro s e s' ⟨-, hnext⟩ ⟨hbalanced, hrestful⟩
    have hstep := QueueStep.of_step? hnext
    exact ⟨balanced_step hstep hbalanced, restful_step hstep hrestful⟩

/-- In every reachable state the tasks that calls have pushed are those that were
started, the one that the worker holds and those that wait, each as often as it was
pushed, and each permit is in the semaphore or with one of the threads. -/
theorem tasks_accounted (manager : QueueManager) {init : World → Prop}
    {allowed : QueueState → QueueEvent → Prop}
    (h : (manager.system init allowed).Reachable s) :
    s.present.Perm s.accepted ∧ s.inflight + s.running = max manager.maxInflight 1 :=
  have hbalanced := (balanced_of_reachable h).1
  ⟨hbalanced.perm, hbalanced.running⟩

end

/-- One task is started while another one waits. -/
theorem tasks_accounted_pair :
    ∃ s, smallRun (fun _ _ => true) (crowd 2 ++ List.replicate 3 .worker) = some s ∧
      s.tasks.map TaskRun.task = [plainTask] ∧ s.pending.tasks = [plainTask] ∧
        s.present.Perm s.accepted ∧ s.inflight + s.running = max smallQueue.maxInflight 1 := by
  have hrun : (smallRun (fun _ _ => true) (crowd 2 ++ List.replicate 3 .worker)).map
      (fun s => (s.tasks.map TaskRun.task, s.pending.tasks)) =
        some ([plainTask], [plainTask]) := by
    decide
  obtain ⟨s, hs, hfound⟩ := Option.map_eq_some_iff.mp hrun
  obtain ⟨htasks, hpending⟩ := Prod.mk.inj hfound
  exact ⟨s, hs, htasks, hpending, @tasks_accounted s jsonExternals noSkillExternals noPackExternals
    smallQueue (fun _ => True) (fun _ _ => True)
    (reachable_of_smallRun trivial (fun _ _ _ => trivial) hs)⟩

/-! ## Queues that have settled -/

/-- All calls have returned, the tasks that they pushed have been run to their end, once
each, and nothing is left in the queue. -/
structure QueueState.Drained (manager : QueueManager) (s : QueueState) : Prop where
  returned : ∀ call ∈ s.enqueues, ∃ result, call.point = .returned result
  ended : ∀ run ∈ s.tasks, run.point = .ended
  once : (s.tasks.map TaskRun.task).Perm s.accepted
  empty : s.pending.tasks = []
  permits : s.inflight = max manager.maxInflight 1
  depth : s.queueDepth = 0

theorem drained_of_settled {manager : QueueManager} {s : QueueState}
    (hbalanced : s.Balanced manager) (hrestful : s.Restful) (hsettled : s.Settled manager) :
    s.Drained manager := by
  have hreturned := hsettled.returned
  have hended := hsettled.ended
  have hparked := hsettled.parked hbalanced
  -- no call is about to notify, so nothing waits
  have hnone : s.announcing = 0 := by
    refine List.countP_eq_zero.mpr fun call hcall => ?_
    obtain ⟨result, hpoint⟩ := hreturned call hcall
    rw [hpoint]
    exact Bool.false_ne_true
  have hpending : s.pending.tasks = [] := by
    rcases hrestful ⟨Or.inr hparked, hbalanced.unnotified hparked⟩ with hempty | hsome
    · exact hempty
    · omega
  have hperm : (s.tasks.map TaskRun.task).Perm s.accepted := by
    have hpresent := hbalanced.perm
    rw [QueueState.present, hparked, hpending] at hpresent
    simpa [WorkerPoint.task?] using hpresent
  have hrunning : s.running = 0 := hsettled.running
  have hinflight := hbalanced.running
  rw [hrunning, Nat.add_zero] at hinflight
  refine ⟨hreturned, hended, hperm, hpending, hinflight, ?_⟩
  -- each task was counted by its call and uncounted by its thread
  have huncounted : weight TaskRun.uncounted s.tasks = s.tasks.length • 1 := by
    rw [← List.countP_true, ← weight_ite]
    exact weight_congr fun run hrun => by rw [TaskRun.uncounted, hended run hrun]; rfl
  have hcounted : weight EnqueueCall.counted s.enqueues = s.accepted.length • 1 := by
    rw [QueueState.accepted, List.length_map, ← List.countP_eq_length_filter, ← weight_ite]
    refine weight_congr fun call hcall => ?_
    obtain ⟨result, hpoint⟩ := hreturned call hcall
    rw [EnqueueCall.counted, hpoint]
    cases result <;> rfl
  have hlength := hperm.length_eq
  rw [List.length_map] at hlength
  have hdepth := hbalanced.depth
  rw [huncounted, hcounted, hlength] at hdepth
  exact add_eq_right.mp hdepth

/-! ## The mutex of the store -/

/-- The next step of the call is a statement on the database. -/
def EnqueuePoint.locks : EnqueuePoint → Bool
  | .store => true
  | _ => false

/-- The next step of the thread is a statement on the database. -/
def TaskPoint.locks : TaskPoint → Bool
  | .starting => true
  | .ingesting _ => true
  | .finishing _ => true
  | .auditing => true
  | _ => false

/-- The step takes the mutex of the store, and gives it back. -/
def QueueState.locks (s : QueueState) : QueueEvent → Bool
  | .enqueue caller => (s.enqueues[caller]?).any fun call => call.point.locks
  | .run runner => (s.tasks[runner]?).any fun run => run.point.locks
  | _ => false

/-- The queue, and whether another operation of the engine holds the mutex. -/
structure LockedQueue where
  locked : Bool
  queue : QueueState

/-- What happens in the queue, and to the mutex. -/
inductive LockedEvent where
  | queue (event : QueueEvent)
  /-- Another operation takes the mutex. -/
  | acquire
  /-- It gives the mutex back. -/
  | release

namespace QueueManager

variable (manager : QueueManager)

/-- One atomic step.  A start of the engine frees the mutex. -/
def stepLocked? (s : LockedQueue) : LockedEvent → Option LockedQueue
  | .queue event =>
      if s.locked && s.queue.locks event then none
      else (manager.step? s.queue event).map fun queue => ⟨s.locked && !event.isRestart, queue⟩
  | .acquire => if s.locked then none else some ⟨true, s.queue⟩
  | .release => if s.locked then some ⟨false, s.queue⟩ else none

/-- The queue beside the other operations, in all interleavings. -/
def lockedSystem [Externals] [SkillExternals] [PackExternals] (init : World → Prop)
    (allowed : LockedQueue → LockedEvent → Prop) : System LockedQueue LockedEvent :=
  .ofStep (fun s => s.locked = false ∧ ∃ world, init world ∧ s.queue = manager.start world)
    (fun s e => allowed s e ∧ ∀ event, e = .queue event → manager.Possible s.queue event)
    manager.stepLocked?

end QueueManager

/-- No call, no thread of a task and not the worker can take a step, and no tool is
still at work. -/
structure LockedQueue.Settled (manager : QueueManager) (s : LockedQueue) : Prop where
  calls : ∀ caller, manager.stepLocked? s (.queue (.enqueue caller)) = none
  worker : manager.stepLocked? s (.queue .worker) = none
  runs : ∀ runner, manager.stepLocked? s (.queue (.run runner)) = none
  tools : ∀ run ∈ s.queue.tasks, run.point ≠ .executing

/-- A step is one of the queue, or leaves it as it is. -/
theorem queueStep_of_stepLocked? {manager : QueueManager} {s s' : LockedQueue} {e : LockedEvent}
    (h : manager.stepLocked? s e = some s') :
    s'.queue = s.queue ∨ ∃ event, QueueStep manager s.queue event s'.queue := by
  cases e with
  | queue event =>
      simp only [QueueManager.stepLocked?] at h
      split at h
      · cases h
      · obtain ⟨queue, hqueue, rfl⟩ := Option.map_eq_some_iff.mp h
        exact Or.inr ⟨event, QueueStep.of_step? hqueue⟩
  | acquire =>
      simp only [QueueManager.stepLocked?] at h
      split at h
      · cases h
      · cases h
        exact Or.inl rfl
  | release =>
      simp only [QueueManager.stepLocked?] at h
      split at h
      · cases h
        exact Or.inl rfl
      · cases h

/-- When the mutex is free, a step of the queue waits for nothing else. -/
theorem stepLocked?_eq_none {manager : QueueManager} {s : LockedQueue} (hfree : s.locked = false)
    {event : QueueEvent} :
    manager.stepLocked? s (.queue event) = none ↔ manager.step? s.queue event = none := by
  rw [QueueManager.stepLocked?, hfree, if_neg (by simp), Option.map_eq_none_iff]

theorem LockedQueue.Settled.queue {manager : QueueManager} {s : LockedQueue}
    (hs : s.Settled manager) (hfree : s.locked = false) : s.queue.Settled manager where
  calls caller := (stepLocked?_eq_none hfree).mp (hs.calls caller)
  worker := (stepLocked?_eq_none hfree).mp hs.worker
  runs runner := (stepLocked?_eq_none hfree).mp (hs.runs runner)
  tools := hs.tools

/-- When the mutex is free and nothing in the queue can go on, all calls have returned, the
tasks that they pushed have been run to their end, once each, and nothing is left in the
queue. -/
theorem queue_settled [Externals] [SkillExternals] [PackExternals] (manager : QueueManager)
    {s : LockedQueue} {init : World → Prop} {allowed : LockedQueue → LockedEvent → Prop}
    (h : (manager.lockedSystem init allowed).Reachable s) (hfree : s.locked = false)
    (hsettled : s.Settled manager) : s.queue.Drained manager := by
  obtain ⟨hbalanced, hrestful⟩ : s.queue.Balanced manager ∧ s.queue.Restful := by
    refine h.invariant (P := fun s => s.queue.Balanced manager ∧ s.queue.Restful) ?_ ?_
    · rintro ⟨locked, queue⟩ ⟨-, world, -, rfl⟩
      exact ⟨balanced_start world, fun _ => Or.inl rfl⟩
    · rintro s e s' ⟨-, hnext⟩ ⟨hbalanced, hrestful⟩
      rcases queueStep_of_stepLocked? hnext with hsame | ⟨event, hstep⟩
      · exact hsame ▸ ⟨hbalanced, hrestful⟩
      · exact ⟨balanced_step hstep hbalanced, restful_step hstep hrestful⟩
  exact drained_of_settled hbalanced hrestful (hsettled.queue hfree)

/-! ### Two tasks -/

theorem backgroundTask_observed :
    ∃ events, (@ToolExecutor.execute jsonExternals noSkillExternals noPackExternals
      networkExecutor backgroundTask.toolCall).Observed events (some plainOutcome) := by
  let run := @ToolExecutor.execute jsonExternals noSkillExternals noPackExternals
    networkExecutor backgroundTask.toolCall
  have hrun := Lib.Prog.Observed.of_trace run plainHost
  have houtcome : (run.eval plainHost).1 = plainOutcome := by decide
  rw [houtcome] at hrun
  exact ⟨_, hrun⟩

/-- An event of the queue itself or of the mutex, where tools return the one outcome. -/
def LockedQueue.plays (s : LockedQueue) : LockedEvent → Bool
  | .queue (.executed runner outcome) =>
      ((s.queue.tasks[runner]?).map TaskRun.task == some plainTask ||
        (s.queue.tasks[runner]?).map TaskRun.task == some backgroundTask) &&
          outcome == plainOutcome
  | .queue (.elsewhere _) => false
  | _ => true

theorem LockedQueue.possible_of_plays {s : LockedQueue} {event : QueueEvent}
    (h : s.plays (.queue event) = true) :
    @QueueManager.Possible smallQueue jsonExternals noSkillExternals noPackExternals s.queue
      event := by
  cases event with
  | executed runner outcome =>
      simp only [LockedQueue.plays, Bool.and_eq_true, Bool.or_eq_true, beq_iff_eq] at h
      intro run hrun
      rw [hrun] at h
      obtain ⟨htask | htask, rfl⟩ := h
      · rw [Option.some.inj htask]
        exact plainOutcome_observed
      · rw [Option.some.inj htask]
        exact backgroundTask_observed
  | elsewhere world => cases h
  | _ => trivial

/-- A task that can wait is accepted, then an urgent one while another operation holds the
mutex, and both are run to their ends. -/
def twoTasks : List LockedEvent :=
  let run (runner : Nat) : List LockedEvent :=
    .queue (.run runner) :: .queue (.executed runner plainOutcome) ::
      List.replicate 4 (.queue (.run runner))
  [.queue (.call backgroundTask), .queue (.call plainTask), .queue (.enqueue 0),
      .queue (.enqueue 0), .acquire, .queue (.enqueue 1), .queue (.enqueue 0), .release] ++
    List.replicate 4 (.queue (.enqueue 1)) ++ List.replicate 2 (.queue (.enqueue 0)) ++
    List.replicate 4 (.queue .worker) ++ run 0 ++ [.queue .worker] ++ run 1 ++
    List.replicate 2 (.queue .worker)

/-- The urgent task is run first, each is run once, and the queue is empty again. -/
theorem queue_settled_whole :
    ∃ s, System.play smallQueue.stepLocked? LockedQueue.plays twoTasks
        ⟨false, smallQueue.start referenceWorld⟩ = some s ∧
      s.queue.accepted = [backgroundTask, plainTask] ∧
        s.queue.tasks.map TaskRun.task = [plainTask, backgroundTask] ∧
          s.queue.Drained smallQueue := by
  have hrun : (System.play smallQueue.stepLocked? LockedQueue.plays twoTasks
      ⟨false, smallQueue.start referenceWorld⟩).any (fun s => s.locked == false &&
        s.queue.enqueues ==
          [⟨backgroundTask, .returned (.ok (QueueManager.receipt backgroundTask))⟩,
            ⟨plainTask, .returned (.ok (QueueManager.receipt plainTask))⟩] &&
        s.queue.worker == .parked &&
          s.queue.tasks == [⟨plainTask, .ended⟩, ⟨backgroundTask, .ended⟩]) = true := by
    decide
  obtain ⟨s, hs, hpassed⟩ := Option.any_eq_true _ _ |>.mp hrun
  simp only [Bool.and_eq_true, beq_iff_eq] at hpassed
  obtain ⟨⟨⟨hfree, henqueues⟩, hworker⟩, htasks⟩ := hpassed
  have hsettled : s.Settled smallQueue := by
    refine ⟨fun caller => (stepLocked?_eq_none hfree).mpr ?_, (stepLocked?_eq_none hfree).mpr ?_,
      fun runner => (stepLocked?_eq_none hfree).mpr ?_, fun run hrun => ?_⟩
    · rw [QueueManager.step?, henqueues]
      rcases caller with _ | _ | caller <;> rfl
    · show s.queue.stepWorker = none
      rw [QueueState.stepWorker, hworker]
    · rw [QueueManager.step?, htasks]
      rcases runner with _ | _ | runner <;> rfl
    · rw [htasks] at hrun
      rcases List.mem_cons.mp hrun with rfl | hrun
      · rintro ⟨⟩
      · rw [List.mem_singleton.mp hrun]
        rintro ⟨⟩
  have hreach : (@QueueManager.lockedSystem smallQueue jsonExternals noSkillExternals
      noPackExternals (fun _ => True) fun _ _ => True).Reachable s := by
    refine System.reachable_of_play (fun s e _ hpass => ⟨trivial, ?_⟩)
      ⟨rfl, referenceWorld, trivial, rfl⟩ hs
    rintro event rfl
    exact LockedQueue.possible_of_plays hpass
  refine ⟨s, hs, ?_, ?_, @queue_settled jsonExternals noSkillExternals noPackExternals
    smallQueue s _ _ hreach hfree hsettled⟩
  · rw [QueueState.accepted, henqueues]
    rfl
  · rw [htasks]
    rfl

end OpenPinch
