import OpenPinch.Engine.StateStore
import OpenPinch.Lib.Transition
import OpenPinch.Tools.ToolExecutor

/-!
# The task queue

Calls of `enqueue` check the depth of the queue, store a row, push the task into
the bucket of its priority, raise the depth and notify the worker.  The worker
takes tasks out of the buckets, waits for a permit for each, and starts a thread
that runs it and lowers the depth again.

`QueueManager.step?` is one atomic step of one of them.  The depth is a 64-bit
counter that wraps around.  A notification wakes the worker that waits for one,
or leaves a permit for its next wait.
-/

namespace OpenPinch

open Lib (System)
open Lib.Prog (Observed)

/-! ## Buckets -/

/-- A bucket: tasks of one priority, in the order of their arrival. -/
abbrev QueueBucket (priority : QueuePriority) : Type :=
  List { task : QueueTask // task.priority = priority }

/-- `QueueBuckets`. -/
structure QueueBuckets where
  interactive : QueueBucket .interactive
  connector : QueueBucket .connector
  autonomy : QueueBucket .autonomy
  background : QueueBucket .background

namespace QueueBuckets

def empty : QueueBuckets := ⟨[], [], [], []⟩

/-- `push_back` into the bucket of the priority. -/
def push (buckets : QueueBuckets) (task : QueueTask) : QueueBuckets :=
  match h : task.priority with
  | .interactive => { buckets with interactive := buckets.interactive ++ [⟨task, h⟩] }
  | .connector => { buckets with connector := buckets.connector ++ [⟨task, h⟩] }
  | .autonomy => { buckets with autonomy := buckets.autonomy ++ [⟨task, h⟩] }
  | .background => { buckets with background := buckets.background ++ [⟨task, h⟩] }

/-- `next_queued_task`. -/
def pop? : QueueBuckets → Option (QueueTask × QueueBuckets)
  | ⟨task :: rest, connector, autonomy, background⟩ =>
      some (task, ⟨rest, connector, autonomy, background⟩)
  | ⟨[], task :: rest, autonomy, background⟩ => some (task, ⟨[], rest, autonomy, background⟩)
  | ⟨[], [], task :: rest, background⟩ => some (task, ⟨[], [], rest, background⟩)
  | ⟨[], [], [], task :: rest⟩ => some (task, ⟨[], [], [], rest⟩)
  | ⟨[], [], [], []⟩ => none

/-- The waiting tasks, in the order in which they are taken. -/
def tasks (buckets : QueueBuckets) : List QueueTask :=
  buckets.interactive.map Subtype.val ++ buckets.connector.map Subtype.val ++
    buckets.autonomy.map Subtype.val ++ buckets.background.map Subtype.val

end QueueBuckets

/-! ## State -/

/-- `QueueReceipt`. -/
structure QueueReceipt where
  accepted : Bool
  taskId : String
  queue : String
  message : String
deriving DecidableEq, Repr

/-- Where a call of `enqueue` stands. -/
inductive EnqueuePoint where
  /-- It is about to read the depth. -/
  | check
  | store
  | push
  /-- It is about to raise the depth. -/
  | count
  | notify
  | returned (result : Except Fault QueueReceipt)
deriving DecidableEq

/-- A call of `enqueue`. -/
structure EnqueueCall where
  task : QueueTask
  point : EnqueuePoint
deriving DecidableEq

/-- Where the worker stands. -/
inductive WorkerPoint where
  /-- It is about to wait for a notification. -/
  | idle
  /-- It waits at `notified().await`. -/
  | parked
  /-- It is about to take a task. -/
  | draining
  /-- It has taken a task and waits for a permit to run it. -/
  | acquiring (task : QueueTask)
deriving DecidableEq

/-- Where the thread of a task stands. -/
inductive TaskPoint where
  /-- It is about to write the status `running`. -/
  | starting
  | executing
  | ingesting (outcome : ToolOutcome)
  /-- It is about to write the final status. -/
  | finishing (outcome : ToolOutcome)
  | auditing
  /-- It is about to lower the depth. -/
  | uncounting
  /-- It is about to give the permit back. -/
  | releasing
  | ended
deriving DecidableEq

/-- The thread of a task. -/
structure TaskRun where
  task : QueueTask
  point : TaskPoint
deriving DecidableEq

/-- The state of the queue and the database. -/
structure QueueState where
  world : World
  pending : QueueBuckets
  /-- `notify` holds a permit for the next wait. -/
  notified : Bool
  /-- The permits that are left in `inflight`. -/
  inflight : Nat
  queueDepth : BitVec 64
  enqueues : List EnqueueCall
  worker : WorkerPoint
  tasks : List TaskRun

/-- What happens in the queue. -/
inductive QueueEvent where
  /-- A call of `enqueue` starts. -/
  | call (task : QueueTask)
  /-- A call of `enqueue` takes its next step. -/
  | enqueue (caller : Nat)
  | worker
  /-- The thread of a task takes its next step. -/
  | run (runner : Nat)
  /-- The tool of a task returns. -/
  | executed (runner : Nat) (outcome : ToolOutcome)
  /-- Another operation of the engine changes other tables. -/
  | elsewhere (world : World)
  /-- The engine starts again on the database. -/
  | restart

def QueueEvent.isRestart : QueueEvent → Bool
  | .restart => true
  | _ => false

/-- `Semaphore::MAX_PERMITS`.  `Semaphore::new` panics beyond it. -/
def maxPermits : Nat := 2 ^ 61 - 1

/-- `QueueManager`, with the configuration `orchestration.max_inflight`. -/
structure QueueManager where
  tools : ToolExecutor
  maxInflight : Nat
  fits : max maxInflight 1 ≤ maxPermits

/-! ## Steps -/

namespace QueueState

def setEnqueue (s : QueueState) (caller : Nat) (call : EnqueueCall) : QueueState :=
  { s with enqueues := s.enqueues.set caller call }

def setTask (s : QueueState) (runner : Nat) (run : TaskRun) : QueueState :=
  { s with tasks := s.tasks.set runner run }

/-- `update_queue_status`, with its error ignored. -/
def updateStatus (s : QueueState) (taskId status : String) : QueueState :=
  { s with world := ((StateStore.updateQueueStatus taskId status).eval s.world).2 }

/-- `notify_one`. -/
def notifyOne (s : QueueState) : QueueState :=
  match s.worker with
  | .parked => { s with worker := .draining }
  | _ => { s with notified := true }

/-- The next step of the worker. -/
def stepWorker (s : QueueState) : Option QueueState :=
  match s.worker with
  | .idle =>
      if s.notified then some { s with worker := .draining, notified := false }
      else some { s with worker := .parked }
  | .parked => none
  | .draining =>
      match s.pending.pop? with
      | some (task, rest) => some { s with worker := .acquiring task, pending := rest }
      | none => some { s with worker := .idle }
  | .acquiring task =>
      match s.inflight with
      | 0 => none
      | left + 1 => some
          { s with
            worker := .draining
            inflight := left
            tasks := s.tasks ++ [⟨task, .starting⟩] }

/-- The next step of the thread of a task.  The tool result and the audit record
go to other tables. -/
def stepTask (s : QueueState) (runner : Nat) (run : TaskRun) : Option QueueState :=
  match run.point with
  | .starting =>
      some ((s.updateStatus run.task.taskId "running").setTask runner ⟨run.task, .executing⟩)
  | .executing => none
  | .ingesting outcome => some (s.setTask runner ⟨run.task, .finishing outcome⟩)
  | .finishing outcome =>
      let status := if outcome.success then "completed" else "failed"
      some ((s.updateStatus run.task.taskId status).setTask runner ⟨run.task, .auditing⟩)
  | .auditing => some (s.setTask runner ⟨run.task, .uncounting⟩)
  | .uncounting =>
      some ({ s with queueDepth := s.queueDepth - 1 }.setTask runner ⟨run.task, .releasing⟩)
  | .releasing =>
      some ({ s with inflight := s.inflight + 1 }.setTask runner ⟨run.task, .ended⟩)
  | .ended => none

end QueueState

namespace QueueManager

variable (manager : QueueManager)

def maxPending : Nat := max manager.maxInflight 1 * 8

/-- `QueueManager::new`. -/
def start (world : World) : QueueState where
  world := world
  pending := .empty
  notified := false
  inflight := max manager.maxInflight 1
  queueDepth := 0
  enqueues := []
  worker := .idle
  tasks := []

/-- The receipt of a task. -/
def receipt (task : QueueTask) : QueueReceipt where
  accepted := true
  taskId := task.taskId
  queue := task.priority.asStr
  message := "task queued for asynchronous execution"

/-- The next step of a call of `enqueue`. -/
def stepEnqueue (s : QueueState) (caller : Nat) (call : EnqueueCall) : Option QueueState :=
  match call.point with
  | .check =>
      if manager.maxPending ≤ s.queueDepth.toNat then
        some (s.setEnqueue caller ⟨call.task, .returned (.error (.error "queue is full"))⟩)
      else some (s.setEnqueue caller ⟨call.task, .store⟩)
  | .store =>
      match (StateStore.storeQueueTask call.task "queued").eval s.world with
      | (.ok _, world) => some ({ s with world := world }.setEnqueue caller ⟨call.task, .push⟩)
      | (.error fault, world) =>
          some ({ s with world := world }.setEnqueue caller ⟨call.task, .returned (.error fault)⟩)
  | .push =>
      some ({ s with pending := s.pending.push call.task }.setEnqueue caller ⟨call.task, .count⟩)
  | .count =>
      some ({ s with queueDepth := s.queueDepth + 1 }.setEnqueue caller ⟨call.task, .notify⟩)
  | .notify =>
      some (s.notifyOne.setEnqueue caller ⟨call.task, .returned (.ok (receipt call.task))⟩)
  | .returned _ => none

/-- One atomic step. -/
def step? (s : QueueState) : QueueEvent → Option QueueState
  | .call task => some { s with enqueues := s.enqueues ++ [⟨task, .check⟩] }
  | .enqueue caller =>
      match s.enqueues[caller]? with
      | some call => manager.stepEnqueue s caller call
      | none => none
  | .worker => s.stepWorker
  | .run runner =>
      match s.tasks[runner]? with
      | some run => s.stepTask runner run
      | none => none
  | .executed runner outcome =>
      match s.tasks[runner]? with
      | some ⟨task, .executing⟩ =>
          if outcome.success then some (s.setTask runner ⟨task, .ingesting outcome⟩)
          else some (s.setTask runner ⟨task, .finishing outcome⟩)
      | _ => none
  | .elsewhere world => some { s with world := world }
  | .restart => some (manager.start s.world)

section

variable [Externals] [SkillExternals] [PackExternals]

/-- The tool of a task returns one of its outcomes, and other operations leave the
rows of the queue alone. -/
def Possible (s : QueueState) : QueueEvent → Prop
  | .executed runner outcome => ∀ run, s.tasks[runner]? = some run →
      ∃ events, (manager.tools.execute run.task.toolCall).Observed events (some outcome)
  | .elsewhere world => world.ledger.queueTasks = s.world.ledger.queueTasks
  | _ => True

/-- The queue on a database, in all interleavings.  Each event is allowed where it
happens. -/
def system (init : World → Prop) (allowed : QueueState → QueueEvent → Prop) :
    System QueueState QueueEvent :=
  .ofStep (fun s => ∃ world, init world ∧ s = manager.start world)
    (fun s e => allowed s e ∧ manager.Possible s e) manager.step?

end

end QueueManager

end OpenPinch
