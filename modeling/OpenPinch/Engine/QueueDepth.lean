import OpenPinch.Engine.Calls
import OpenPinch.Engine.QueueRules
import OpenPinch.Lib.Admission
import OpenPinch.Tools.Authorization

/-!
# The depth of the queue

The queue admits by a counter that is read before a task is stored and raised
after the task is in its bucket.  `QueueState.gauge` is what that comes to, and
every step of the queue is one of the gauge (`gauge_step`).

The bound on unfinished tasks holds when calls that overlap leave room for each
other (`unfinished_bounded`).  The counter is right, and only a full queue
rejects, when no task ends before its own call has counted it
(`rejects_only_full`).
-/

namespace OpenPinch

open Lib (System Gauge)

/-! ## The gauge -/

/-- The call has passed the check and not pushed its task yet. -/
def EnqueuePoint.isAdmitted : EnqueuePoint → Bool
  | .store => true
  | .push => true
  | _ => false

/-- The call has pushed its task and not raised the depth yet. -/
def EnqueuePoint.isCounting : EnqueuePoint → Bool
  | .count => true
  | _ => false

/-- The tasks in the hands of the worker. -/
def WorkerPoint.held : WorkerPoint → Nat
  | .acquiring _ => 1
  | _ => 0

/-- The thread has not lowered the depth yet. -/
def TaskPoint.isUnfinished : TaskPoint → Bool
  | .releasing => false
  | .ended => false
  | _ => true

namespace QueueState

variable (s : QueueState)

def admitted : Nat := s.enqueues.countP fun call => call.point.isAdmitted

def counting : Nat := s.enqueues.countP fun call => call.point.isCounting

/-- The tasks accepted and not finished: they wait in a bucket or for a permit, or
their thread has not ended its work. -/
def unfinished : Nat :=
  s.pending.tasks.length + s.worker.held + s.tasks.countP fun run => run.point.isUnfinished

def gauge : Gauge := ⟨s.queueDepth, s.admitted, s.counting, s.unfinished⟩

/-- Where the call stands whose step the event is. -/
def enqueuePoint? : QueueEvent → Option EnqueuePoint
  | .enqueue caller => (s.enqueues[caller]?).map EnqueueCall.point
  | _ => none

/-- Where the thread stands whose step the event is. -/
def taskPoint? : QueueEvent → Option TaskPoint
  | .run runner => (s.tasks[runner]?).map TaskRun.point
  | _ => none

end QueueState

section

variable {manager : QueueManager} {s s' : QueueState} {e : QueueEvent}

theorem admitted_setEnqueue {caller : Nat} {before : EnqueueCall}
    (here : s.enqueues[caller]? = some before) (after : EnqueueCall) :
    (s.setEnqueue caller after).admitted + (if before.point.isAdmitted then 1 else 0) =
      s.admitted + if after.point.isAdmitted then 1 else 0 :=
  Lib.Threads.countP_set (fun call : EnqueueCall => call.point.isAdmitted) after here

theorem counting_setEnqueue {caller : Nat} {before : EnqueueCall}
    (here : s.enqueues[caller]? = some before) (after : EnqueueCall) :
    (s.setEnqueue caller after).counting + (if before.point.isCounting then 1 else 0) =
      s.counting + if after.point.isCounting then 1 else 0 :=
  Lib.Threads.countP_set (fun call : EnqueueCall => call.point.isCounting) after here

theorem unfinished_setTask {runner : Nat} {before : TaskRun}
    (here : s.tasks[runner]? = some before) (after : TaskRun) :
    (s.setTask runner after).unfinished + (if before.point.isUnfinished then 1 else 0) =
      s.unfinished + if after.point.isUnfinished then 1 else 0 := by
  have hcount := Lib.Threads.countP_set (fun run : TaskRun => run.point.isUnfinished) after here
  simp only [QueueState.unfinished, QueueState.setTask]
  omega

/-- The event is the step that the gauge sees as the act. -/
def QueueState.Shows (s : QueueState) (e : QueueEvent) : Gauge.Act → Prop
  | .accept => s.enqueuePoint? e = some .check
  | .count => s.enqueuePoint? e = some .count
  | .leave => s.taskPoint? e = some .uncounting
  | _ => True

/-- A step of a call that the gauge does not see. -/
theorem gauge_setEnqueue {caller : Nat} {before after : EnqueueCall}
    (here : s.enqueues[caller]? = some before)
    (hadmitted : after.point.isAdmitted = before.point.isAdmitted)
    (hcounting : after.point.isCounting = before.point.isCounting) :
    (s.setEnqueue caller after).gauge = s.gauge := by
  have ha := admitted_setEnqueue here after
  have hc := counting_setEnqueue here after
  rw [hadmitted] at ha
  rw [hcounting] at hc
  exact Gauge.ext rfl (Nat.add_right_cancel ha) (Nat.add_right_cancel hc) rfl

/-- A step of a thread that the gauge does not see. -/
theorem gauge_setTask {runner : Nat} {before after : TaskRun}
    (here : s.tasks[runner]? = some before)
    (hunfinished : after.point.isUnfinished = before.point.isUnfinished) :
    (s.setTask runner after).gauge = s.gauge := by
  have hu := unfinished_setTask here after
  rw [hunfinished] at hu
  exact Gauge.ext rfl rfl rfl (Nat.add_right_cancel hu)

/-- Every step of the queue is one of the gauge. -/
theorem gauge_step (h : QueueStep manager s e s') :
    ∃ act, Gauge.Step manager.maxPending s.gauge act s'.gauge ∧ s.Shows e act := by
  have quiet : ∀ {t : QueueState}, t.gauge = s.gauge →
      ∃ act, Gauge.Step manager.maxPending s.gauge act t.gauge ∧ s.Shows e act := by
    intro t ht
    rw [ht]
    exact ⟨.rest, .rest, trivial⟩
  cases h with
  | called task =>
      refine quiet ?_
      simp [QueueState.gauge, QueueState.admitted, QueueState.counting, QueueState.unfinished,
        EnqueuePoint.isAdmitted, EnqueuePoint.isCounting]
  | refused here full => exact quiet (gauge_setEnqueue here rfl rfl)
  | @admitted caller task here room =>
      have hgauge : (s.setEnqueue caller ⟨task, .store⟩).gauge =
          { s.gauge with admitted := s.gauge.admitted + 1 } :=
        Gauge.ext rfl (admitted_setEnqueue here ⟨task, .store⟩)
          (counting_setEnqueue here ⟨task, .store⟩) rfl
      refine ⟨.accept, ?_, by simp [QueueState.Shows, QueueState.enqueuePoint?, here]⟩
      rw [hgauge]
      exact .accept room
  | @stored caller task world here ran =>
      let t : QueueState := { s with world := world }
      have hhere : t.enqueues[caller]? = some ⟨task, .store⟩ := here
      exact quiet (gauge_setEnqueue hhere rfl rfl)
  | @unstored caller task world fault here ran =>
      let t : QueueState := { s with world := world }
      have hhere : t.enqueues[caller]? = some ⟨task, .store⟩ := here
      have ha : (t.setEnqueue caller ⟨task, .returned (.error fault)⟩).admitted + 1 = s.admitted :=
        admitted_setEnqueue hhere ⟨task, .returned (.error fault)⟩
      have hgauge : (t.setEnqueue caller ⟨task, .returned (.error fault)⟩).gauge =
          { s.gauge with
            admitted := (t.setEnqueue caller ⟨task, .returned (.error fault)⟩).admitted } :=
        Gauge.ext rfl rfl (counting_setEnqueue hhere ⟨task, .returned (.error fault)⟩) rfl
      refine ⟨.abandon, ?_, trivial⟩
      rw [hgauge]
      exact .abandon ha.symm
  | @pushed caller task here =>
      let t : QueueState := { s with pending := s.pending.push task }
      have hhere : t.enqueues[caller]? = some ⟨task, .push⟩ := here
      have ha : (t.setEnqueue caller ⟨task, .count⟩).admitted + 1 = s.admitted :=
        admitted_setEnqueue hhere ⟨task, .count⟩
      have hlength : (s.pending.push task).tasks.length = s.pending.tasks.length + 1 :=
        (s.pending.tasks_push task).length_eq
      have hu : (t.setEnqueue caller ⟨task, .count⟩).unfinished = s.unfinished + 1 := by
        show (s.pending.push task).tasks.length + s.worker.held +
          s.tasks.countP (fun run => run.point.isUnfinished) = _
        rw [hlength, QueueState.unfinished]
        omega
      have hgauge : (t.setEnqueue caller ⟨task, .count⟩).gauge =
          { s.gauge with
            admitted := (t.setEnqueue caller ⟨task, .count⟩).admitted
            counting := s.gauge.counting + 1
            unfinished := s.gauge.unfinished + 1 } :=
        Gauge.ext rfl rfl (counting_setEnqueue hhere ⟨task, .count⟩) hu
      refine ⟨.enter, ?_, trivial⟩
      rw [hgauge]
      exact .enter ha.symm
  | @counted caller task here =>
      let t : QueueState := { s with queueDepth := s.queueDepth + 1 }
      have hhere : t.enqueues[caller]? = some ⟨task, .count⟩ := here
      have hc : (t.setEnqueue caller ⟨task, .notify⟩).counting + 1 = s.counting :=
        counting_setEnqueue hhere ⟨task, .notify⟩
      have hgauge : (t.setEnqueue caller ⟨task, .notify⟩).gauge =
          { s.gauge with
            depth := s.gauge.depth + 1
            counting := (t.setEnqueue caller ⟨task, .notify⟩).counting } :=
        Gauge.ext rfl (admitted_setEnqueue hhere ⟨task, .notify⟩) rfl rfl
      refine ⟨.count, ?_, by simp [QueueState.Shows, QueueState.enqueuePoint?, here]⟩
      rw [hgauge]
      exact .count hc.symm
  | @woke caller task here waits =>
      let t : QueueState := { s with worker := .draining }
      have hhere : t.enqueues[caller]? = some ⟨task, .notify⟩ := here
      have ht : t.gauge = s.gauge := by simp [t, QueueState.gauge, QueueState.admitted,
        QueueState.counting, QueueState.unfinished, waits, WorkerPoint.held]
      have hset : (t.setEnqueue caller
          ⟨task, .returned (.ok (QueueManager.receipt task))⟩).gauge = t.gauge :=
        gauge_setEnqueue hhere rfl rfl
      exact quiet (hset.trans ht)
  | @noted caller task here awake =>
      let t : QueueState := { s with notified := true }
      have hhere : t.enqueues[caller]? = some ⟨task, .notify⟩ := here
      exact quiet (gauge_setEnqueue hhere rfl rfl)
  | passed idle permit =>
      refine quiet (Gauge.ext rfl rfl rfl ?_)
      simp [QueueState.gauge, QueueState.unfinished, idle, WorkerPoint.held]
  | parked idle none =>
      refine quiet (Gauge.ext rfl rfl rfl ?_)
      simp [QueueState.gauge, QueueState.unfinished, idle, WorkerPoint.held]
  | @took task rest drains first =>
      refine quiet (Gauge.ext rfl rfl rfl ?_)
      have htasks := QueueBuckets.tasks_of_pop? first
      simp [QueueState.gauge, QueueState.unfinished, drains, WorkerPoint.held, htasks]
  | drained drains nothing =>
      refine quiet (Gauge.ext rfl rfl rfl ?_)
      simp [QueueState.gauge, QueueState.unfinished, drains, WorkerPoint.held]
  | @granted task left acquires permits =>
      refine quiet (Gauge.ext rfl rfl rfl ?_)
      simp [QueueState.gauge, QueueState.unfinished, acquires, WorkerPoint.held,
        TaskPoint.isUnfinished]
      omega
  | @started runner task here =>
      have hhere : (s.updateStatus task.taskId "running").tasks[runner]? =
        some ⟨task, .starting⟩ := here
      exact quiet (gauge_setTask hhere rfl)
  | succeeded here success => exact quiet (gauge_setTask here rfl)
  | failed here failure => exact quiet (gauge_setTask here rfl)
  | ingested here => exact quiet (gauge_setTask here rfl)
  | @finished runner task outcome here =>
      let t := s.updateStatus task.taskId (if outcome.success then "completed" else "failed")
      have hhere : t.tasks[runner]? = some ⟨task, .finishing outcome⟩ := here
      exact quiet (gauge_setTask hhere rfl)
  | audited here => exact quiet (gauge_setTask here rfl)
  | @uncounted runner task here =>
      let t : QueueState := { s with queueDepth := s.queueDepth - 1 }
      have hhere : t.tasks[runner]? = some ⟨task, .uncounting⟩ := here
      have hu : (t.setTask runner ⟨task, .releasing⟩).unfinished + 1 = s.unfinished :=
        unfinished_setTask hhere ⟨task, .releasing⟩
      have hgauge : (t.setTask runner ⟨task, .releasing⟩).gauge =
          { s.gauge with
            depth := s.gauge.depth - 1
            unfinished := (t.setTask runner ⟨task, .releasing⟩).unfinished } :=
        Gauge.ext rfl rfl rfl rfl
      refine ⟨.leave, ?_, by simp [QueueState.Shows, QueueState.taskPoint?, here]⟩
      rw [hgauge]
      exact .leave hu.symm
  | @released runner task here =>
      let t : QueueState := { s with inflight := s.inflight + 1 }
      have hhere : t.tasks[runner]? = some ⟨task, .releasing⟩ := here
      exact quiet (gauge_setTask hhere rfl)
  | elsewhere world => exact quiet rfl
  | restarted => exact ⟨.reset, .reset, trivial⟩

/-! ## The bound -/

/-- Each call that passes the check finds no other call between its check and its
count, or room for all of them. -/
def QueueManager.LeavesRoom (manager : QueueManager) (s : QueueState) (e : QueueEvent) : Prop :=
  s.enqueuePoint? e = some .check → s.queueDepth.toNat < manager.maxPending →
    (s.admitted = 0 ∧ s.counting = 0) ∨ s.unfinished + s.admitted < manager.maxPending

theorem maxPending_lt : manager.maxPending < 2 ^ 64 := by
  have hfits := manager.fits
  unfold maxPermits at hfits
  unfold QueueManager.maxPending
  omega

variable [Externals] [SkillExternals] [PackExternals]

/-- When calls that overlap leave room for each other, the tasks accepted and not
finished are at most `max_pending`, in all interleavings. -/
theorem unfinished_bounded (manager : QueueManager) {s : QueueState}
    (h : (manager.system (fun _ => True) manager.LeavesRoom).Reachable s) :
    s.unfinished ≤ manager.maxPending := by
  have hbounded : s.gauge.Bounded manager.maxPending := by
    refine h.invariant (P := fun s : QueueState => s.gauge.Bounded manager.maxPending) ?_ ?_
    · rintro _ ⟨world, -, rfl⟩
      exact ⟨rfl, Nat.zero_le _⟩
    · rintro s e s' ⟨⟨hroom, -⟩, hstep⟩ hs
      obtain ⟨act, hact, hshows⟩ := gauge_step (QueueStep.of_step? hstep)
      refine hs.step maxPending_lt hact fun hadmit => ?_
      subst hadmit
      exact hroom hshows hact.below
  have hwithin : s.unfinished + s.admitted ≤ manager.maxPending := hbounded.within
  omega

end

/-! ### Calls that check together -/

/-- A queue with one permit, and so with room for eight tasks. -/
def smallQueue : QueueManager := ⟨networkExecutor, 1, by decide⟩

/-- A task whose tool is denied. -/
def plainTask : QueueTask := ⟨"task", "tool", "builtin.echo", "\x7b\x7d", .interactive⟩

/-- The outcome of the task. -/
def plainOutcome : ToolOutcome :=
  ⟨false, "execution failed", "\x7b\x7d", "policy denied tool.local for builtin.echo", []⟩

theorem plainOutcome_observed :
    ∃ events, (@ToolExecutor.execute jsonExternals noSkillExternals noPackExternals
      networkExecutor plainTask.toolCall).Observed events (some plainOutcome) := by
  let run := @ToolExecutor.execute jsonExternals noSkillExternals noPackExternals
    networkExecutor plainTask.toolCall
  have hrun := Lib.Prog.Observed.of_trace run plainHost
  have houtcome : (run.eval plainHost).1 = plainOutcome := by decide
  rw [houtcome] at hrun
  exact ⟨_, hrun⟩

/-- An event of the queue itself, where tools return the one outcome. -/
def QueueState.plays (s : QueueState) : QueueEvent → Bool
  | .executed runner outcome =>
      (s.tasks[runner]?).map TaskRun.task == some plainTask && outcome == plainOutcome
  | .elsewhere _ => false
  | _ => true

theorem possible_of_plays {s : QueueState} {e : QueueEvent} (h : s.plays e = true) :
    @QueueManager.Possible smallQueue jsonExternals noSkillExternals noPackExternals s e := by
  cases e with
  | executed runner outcome =>
      simp only [QueueState.plays, Bool.and_eq_true, beq_iff_eq] at h
      intro run hrun
      rw [hrun] at h
      obtain ⟨htask, rfl⟩ := h
      rw [Option.some.inj htask]
      exact plainOutcome_observed
  | elsewhere world => cases h
  | _ => trivial

/-- Calls that check one after the other, and then go on together. -/
def crowd (calls : Nat) : List QueueEvent :=
  List.replicate calls (.call plainTask) ++
    (List.replicate 5 ((List.range calls).map QueueEvent.enqueue)).flatten

/-- A run of the small queue that passes a test. -/
def smallRun (test : QueueState → QueueEvent → Bool) (events : List QueueEvent) :
    Option QueueState :=
  System.play smallQueue.step? (fun s e => s.plays e && test s e) events
    (smallQueue.start referenceWorld)

theorem reachable_of_smallRun {init : World → Prop} {allowed : QueueState → QueueEvent → Prop}
    {test : QueueState → QueueEvent → Bool} (hinit : init referenceWorld)
    (htest : ∀ s e, test s e = true → allowed s e) {events : List QueueEvent} {s : QueueState}
    (h : smallRun test events = some s) :
    (@QueueManager.system smallQueue jsonExternals noSkillExternals noPackExternals init
      allowed).Reachable s := by
  refine System.reachable_of_play (fun s e _ hpass => ?_) ⟨referenceWorld, hinit, rfl⟩ h
  rw [Bool.and_eq_true] at hpass
  exact ⟨htest s e hpass.2, possible_of_plays hpass.1⟩

/-- Nine calls read the depth before one of them raises it. -/
theorem unfinished_bounded_fails :
    ¬ ∀ [Externals] [SkillExternals] [PackExternals] (manager : QueueManager) (s : QueueState),
      (manager.system (fun _ => True) fun _ _ => True).Reachable s →
        s.unfinished ≤ manager.maxPending := by
  intro h
  have hrun : (smallRun (fun _ _ => true) (crowd 9)).map QueueState.unfinished = some 9 := by
    decide
  obtain ⟨s, hs, hnine⟩ := Option.map_eq_some_iff.mp hrun
  have hbound := @h jsonExternals noSkillExternals noPackExternals smallQueue s
    (reachable_of_smallRun trivial (fun _ _ _ => trivial) hs)
  rw [hnine] at hbound
  revert hbound
  decide

instance (manager : QueueManager) (s : QueueState) (e : QueueEvent) :
    Decidable (manager.LeavesRoom s e) :=
  inferInstanceAs (Decidable (s.enqueuePoint? e = some .check →
    s.queueDepth.toNat < manager.maxPending →
      (s.admitted = 0 ∧ s.counting = 0) ∨ s.unfinished + s.admitted < manager.maxPending))

theorem unfinished_bounded_eight :
    ∃ s, smallRun (fun s e => decide (smallQueue.LeavesRoom s e)) (crowd 8) = some s ∧
      s.unfinished = 8 ∧ s.unfinished ≤ smallQueue.maxPending := by
  have hrun : (smallRun (fun s e => decide (smallQueue.LeavesRoom s e)) (crowd 8)).map
      QueueState.unfinished = some 8 := by
    decide
  obtain ⟨s, hs, height⟩ := Option.map_eq_some_iff.mp hrun
  exact ⟨s, hs, height, @unfinished_bounded jsonExternals noSkillExternals noPackExternals
    smallQueue s (reachable_of_smallRun trivial (fun _ _ => of_decide_eq_true) hs)⟩

section

variable {manager : QueueManager} {s s' : QueueState} {e : QueueEvent}

variable [Externals] [SkillExternals] [PackExternals]

/-! ## The counter -/

/-- A thread that lowers the depth leaves more tasks unfinished than wait to be
counted, and fewer than the counter has room for are counted. -/
def QueueState.InOrder (s : QueueState) (e : QueueEvent) : Prop :=
  (s.taskPoint? e = some .uncounting → s.counting < s.unfinished) ∧
    (s.enqueuePoint? e = some .count → s.unfinished < 2 ^ 64)

/-- What a step may do to the counter and with it: nothing lowers it below zero,
and a call that fails with `queue is full` finds the queue full. -/
structure QueueManager.CountsRight (manager : QueueManager) (s : QueueState) (e : QueueEvent)
    (s' : QueueState) : Prop where
  above_zero : s.taskPoint? e = some .uncounting → s.queueDepth ≠ 0
  full : s.enqueuePoint? e = some .check →
    s'.enqueuePoint? e = some (.returned (.error (.error "queue is full"))) →
      manager.maxPending ≤ s.unfinished

/-- The counter is exact where threads end and calls count in order. -/
theorem exact_of_inOrder {init : World → Prop}
    (h : (manager.system init fun s e => s.InOrder e).Reachable s) : s.gauge.Exact := by
  refine h.invariant (P := fun s : QueueState => s.gauge.Exact) ?_ ?_
  · rintro _ ⟨world, -, rfl⟩
    rfl
  · rintro s e s' ⟨⟨horder, -⟩, hstep⟩ hs
    obtain ⟨act, hact, hshows⟩ := gauge_step (QueueStep.of_step? hstep)
    refine hs.step hact ?_
    cases act with
    | leave => exact horder.1 hshows
    | count => exact horder.2 hshows
    | _ => trivial

/-- As long as no thread ends before the calls have counted enough tasks, the
counter is not lowered below zero and only a full queue rejects, in all
interleavings. -/
theorem rejects_only_full (manager : QueueManager)
    (h : (manager.system (fun _ => True) fun s e => s.InOrder e).Reachable s)
    (hstep : (manager.system (fun _ => True) fun s e => s.InOrder e).step s e s') :
    manager.CountsRight s e s' := by
  have hexact : s.queueDepth.toNat + s.counting = s.unfinished := exact_of_inOrder h
  obtain ⟨⟨horder, -⟩, hnext⟩ := hstep
  constructor
  · intro hends hzero
    have hcounted := horder.1 hends
    have hdepth : s.queueDepth.toNat = 0 := by rw [hzero]; rfl
    omega
  · intro hcheck hrejected
    cases QueueStep.of_step? hnext with
    | refused here full => omega
    | admitted here room =>
        have hinside := (List.getElem?_eq_some_iff.mp here).1
        simp [QueueState.enqueuePoint?, QueueState.setEnqueue, hinside] at hrejected
    | _ => simp_all [QueueState.enqueuePoint?]

end

/-! ### A task that ends before it is counted -/

/-- Two tasks end while the call of the first one has not raised the depth, and a
third call starts. -/
def overtaken : List QueueEvent :=
  let run (runner : Nat) : List QueueEvent :=
    [.worker, .worker, .run runner, .executed runner plainOutcome, .run runner, .run runner,
      .run runner, .run runner]
  [.call plainTask, .call plainTask, .enqueue 0, .enqueue 0, .enqueue 0] ++
    List.replicate 5 (.enqueue 1) ++ [.worker] ++ run 0 ++ run 1 ++ [.call plainTask]

/-- What a call that is about to check finds, and where it stands then. -/
def rejection (caller : Nat) (s : QueueState) :
    Nat × Option EnqueuePoint × Option (Option EnqueuePoint) :=
  (s.unfinished, s.enqueuePoint? (.enqueue caller),
    (smallQueue.step? s (.enqueue caller)).map fun s' => s'.enqueuePoint? (.enqueue caller))

/-- The empty queue is full. -/
theorem rejects_only_full_fails :
    ¬ ∀ [Externals] [SkillExternals] [PackExternals] (manager : QueueManager)
        (s : QueueState) (e : QueueEvent) (s' : QueueState),
      (manager.system (fun _ => True) fun _ _ => True).Reachable s →
        (manager.system (fun _ => True) fun _ _ => True).step s e s' →
          manager.CountsRight s e s' := by
  intro h
  have hrun : (smallRun (fun _ _ => true) overtaken).map (rejection 2) =
      some (0, some .check, some (some (.returned (.error (.error "queue is full"))))) := by
    decide
  obtain ⟨s, hs, hfound⟩ := Option.map_eq_some_iff.mp hrun
  simp only [rejection, Prod.mk.injEq] at hfound
  obtain ⟨hzero, hcheck, hstep⟩ := hfound
  obtain ⟨s', hs', hrejected⟩ := Option.map_eq_some_iff.mp hstep
  have hfull := (@h jsonExternals noSkillExternals noPackExternals smallQueue s (.enqueue 2) s'
    (reachable_of_smallRun trivial (fun _ _ _ => trivial) hs)
    ⟨⟨trivial, trivial⟩, hs'⟩).full hcheck hrejected
  rw [hzero] at hfull
  revert hfull
  decide

instance (s : QueueState) (e : QueueEvent) : Decidable (s.InOrder e) :=
  inferInstanceAs (Decidable ((s.taskPoint? e = some .uncounting → s.counting < s.unfinished) ∧
    (s.enqueuePoint? e = some .count → s.unfinished < 2 ^ 64)))

theorem rejects_only_full_eight :
    ∃ s s', smallRun (fun s e => decide (s.InOrder e)) (crowd 8 ++ [.call plainTask]) = some s ∧
      smallQueue.step? s (.enqueue 8) = some s' ∧ smallQueue.CountsRight s (.enqueue 8) s' := by
  have hrun : ((smallRun (fun s e => decide (s.InOrder e)) (crowd 8 ++ [.call plainTask])).map
      (rejection 8)) =
        some (8, some .check, some (some (.returned (.error (.error "queue is full"))))) := by
    decide
  obtain ⟨s, hs, hfound⟩ := Option.map_eq_some_iff.mp hrun
  simp only [rejection, Prod.mk.injEq] at hfound
  obtain ⟨-, hcheck, hstep⟩ := hfound
  obtain ⟨s', hs', -⟩ := Option.map_eq_some_iff.mp hstep
  have horder : s.InOrder (.enqueue 8) := by
    constructor
    · simp [QueueState.taskPoint?]
    · simp [hcheck]
  exact ⟨s, s', hs, hs', @rejects_only_full s s' (.enqueue 8) jsonExternals noSkillExternals
    noPackExternals smallQueue (reachable_of_smallRun trivial (fun _ _ => of_decide_eq_true) hs)
    ⟨⟨horder, trivial⟩, hs'⟩⟩

end OpenPinch
