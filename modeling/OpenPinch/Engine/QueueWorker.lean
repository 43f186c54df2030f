import OpenPinch.Engine.QueueDepth

/-!
# The worker of the queue

The worker takes the first task of the most urgent bucket and then waits for a
permit.  No more urgent task waits when it gets one, unless a call has pushed it
in the meantime (`granted_most_urgent`).

While tasks wait, the worker does not wait for a notification that nobody sends
(`worker_awake`).
-/

namespace OpenPinch

/-! ## Priorities -/

/-- The task the worker has taken. -/
def WorkerPoint.task? : WorkerPoint → Option QueueTask
  | .acquiring task => some task
  | _ => none

namespace QueueState

variable (s : QueueState)

/-- The task of the call whose step the event is, when it stands at the point. -/
def taskAt? (point : EnqueuePoint) : QueueEvent → Option QueueTask
  | .enqueue caller =>
      (s.enqueues[caller]?).bind fun call => if call.point = point then some call.task else none
  | _ => none

/-- The event does not push a task that is more urgent than the one the worker has
taken. -/
def KeepsTurn (e : QueueEvent) : Prop :=
  ∀ task ∈ s.taskAt? .push e, ∀ held ∈ s.worker.task?, held.priority.rank ≤ task.priority.rank

/-- No task that waits is more urgent than the one the worker has taken. -/
def MostUrgent : Prop :=
  ∀ held ∈ s.worker.task?, ∀ waiting ∈ s.pending.tasks, held.priority.rank ≤ waiting.priority.rank

/-- When the worker gets a permit for its task, no task that is more urgent waits. -/
def GrantsMostUrgent : Prop :=
  ∀ task s', s.worker = .acquiring task → s.stepWorker = some s' →
    ∀ waiting ∈ s'.pending.tasks, ¬ waiting.priority.rank < task.priority.rank

end QueueState

section

variable {manager : QueueManager} {s s' : QueueState} {e : QueueEvent}

theorem mostUrgent_step (h : QueueStep manager s e s') (hturn : s.KeepsTurn e)
    (hs : s.MostUrgent) : s'.MostUrgent := by
  cases h with
  | @pushed caller task here =>
      intro held hheld waiting hwaiting
      have hmem := (s.pending.tasks_push task).mem_iff.mp hwaiting
      rcases List.mem_cons.mp hmem with rfl | hbefore
      · exact hturn waiting (by simp [QueueState.taskAt?, here]) held hheld
      · exact hs held hheld waiting hbefore
  | @took task rest drains first =>
      intro held hheld waiting hwaiting
      cases hheld
      have hsorted := s.pending.tasks_sorted
      rw [QueueBuckets.tasks_of_pop? first] at hsorted
      exact (List.pairwise_cons.mp hsorted).1 waiting hwaiting
  | woke here waits => exact fun held hheld => by cases hheld
  | passed idle permit => exact fun held hheld => by cases hheld
  | parked idle none => exact fun held hheld => by cases hheld
  | drained drains nothing => exact fun held hheld => by cases hheld
  | granted acquires permits => exact fun held hheld => by cases hheld
  | restarted => exact fun held hheld => by cases hheld
  | _ => exact hs

variable [Externals] [SkillExternals] [PackExternals]

/-- As long as no call pushes a task that is more urgent than the one the worker has
taken, no such task waits when the worker gets the permit, in all interleavings. -/
theorem granted_most_urgent (manager : QueueManager)
    (h : (manager.system (fun _ => True) fun s e => s.KeepsTurn e).Reachable s) :
    s.GrantsMostUrgent := by
  have hurgent : s.MostUrgent := by
    refine h.invariant (P := QueueState.MostUrgent) ?_ ?_
    · rintro _ ⟨world, -, rfl⟩ held hheld
      cases hheld
    · rintro s e s' ⟨⟨hturn, -⟩, hnext⟩ hs
      exact mostUrgent_step (QueueStep.of_step? hnext) hturn hs
  intro task s' hacquires hgrant waiting hwaiting
  have hpending : s'.pending = s.pending := by
    have hworker : QueueStep manager s .worker s' := QueueStep.of_stepWorker hgrant
    cases hworker with
    | granted acquires permits => rfl
    | _ => simp_all
  rw [hpending] at hwaiting
  have hle := hurgent task (by rw [hacquires]; rfl) waiting hwaiting
  omega

end

/-! ### A task that arrives in between -/

def backgroundTask : QueueTask := ⟨"report", "tool", "builtin.echo", "\x7b\x7d", .background⟩

/-- An interactive task arrives while the worker waits for the permit of a
background task. -/
def latecomer : List QueueEvent :=
  [.call backgroundTask] ++ List.replicate 5 (.enqueue 0) ++ [.worker, .worker, .call plainTask] ++
    List.replicate 3 (.enqueue 1)

/-- The task the worker has taken, and the tasks that wait when it gets a permit. -/
def waitingAtGrant (s : QueueState) : WorkerPoint × Option (List QueueTask) :=
  (s.worker, s.stepWorker.map fun s' => s'.pending.tasks)

theorem granted_most_urgent_fails :
    ¬ ∀ [Externals] [SkillExternals] [PackExternals] (manager : QueueManager) (s : QueueState),
      (manager.system (fun _ => True) fun _ _ => True).Reachable s → s.GrantsMostUrgent := by
  intro h
  have hrun : (smallRun (fun _ _ => true) latecomer).map waitingAtGrant =
      some (.acquiring backgroundTask, some [plainTask]) := by
    decide
  obtain ⟨s, hs, hfound⟩ := Option.map_eq_some_iff.mp hrun
  simp only [waitingAtGrant, Prod.mk.injEq] at hfound
  obtain ⟨hworker, hgrant⟩ := hfound
  obtain ⟨s', hs', hwaiting⟩ := Option.map_eq_some_iff.mp hgrant
  refine @h jsonExternals noSkillExternals noPackExternals smallQueue s
    (reachable_of_smallRun trivial (fun _ _ _ => trivial) hs) backgroundTask s' hworker hs'
    plainTask ?_ ?_
  · rw [hwaiting]
    exact List.mem_singleton.mpr rfl
  · decide

instance (s : QueueState) (e : QueueEvent) : Decidable (s.KeepsTurn e) :=
  inferInstanceAs (Decidable (∀ task ∈ s.taskAt? .push e, ∀ held ∈ s.worker.task?,
    held.priority.rank ≤ task.priority.rank))

/-- A background task, and then an interactive one that stays behind it. -/
theorem granted_most_urgent_pair :
    ∃ s, smallRun (fun s e => decide (s.KeepsTurn e))
        ([.call plainTask] ++ List.replicate 5 (.enqueue 0) ++ [.worker, .worker,
          .call backgroundTask] ++ List.replicate 3 (.enqueue 1)) = some s ∧
      waitingAtGrant s = (.acquiring plainTask, some [backgroundTask]) ∧ s.GrantsMostUrgent := by
  have hrun : (smallRun (fun s e => decide (s.KeepsTurn e))
      ([.call plainTask] ++ List.replicate 5 (.enqueue 0) ++ [.worker, .worker,
        .call backgroundTask] ++ List.replicate 3 (.enqueue 1))).map waitingAtGrant =
      some (.acquiring plainTask, some [backgroundTask]) := by
    decide
  obtain ⟨s, hs, hfound⟩ := Option.map_eq_some_iff.mp hrun
  exact ⟨s, hs, hfound, @granted_most_urgent s jsonExternals noSkillExternals
    noPackExternals smallQueue (reachable_of_smallRun trivial (fun _ _ => of_decide_eq_true) hs)⟩

/-! ## Notifications -/

/-- The call has pushed its task and not notified the worker yet. -/
def EnqueuePoint.isAnnouncing : EnqueuePoint → Bool
  | .count => true
  | .notify => true
  | _ => false

namespace QueueState

variable (s : QueueState)

def announcing : Nat := s.enqueues.countP fun call => call.point.isAnnouncing

/-- The worker waits for a notification, or is about to, and has none. -/
def Unnotified : Prop := (s.worker = .idle ∨ s.worker = .parked) ∧ s.notified = false

/-- While the worker has no notification, nothing waits or one is on its way. -/
def Restful : Prop := s.Unnotified → s.pending.tasks = [] ∨ 0 < s.announcing

end QueueState

section

variable {manager : QueueManager} {s s' : QueueState} {e : QueueEvent}

theorem announcing_setEnqueue {caller : Nat} {before : EnqueueCall}
    (here : s.enqueues[caller]? = some before) (after : EnqueueCall) :
    (s.setEnqueue caller after).announcing + (if before.point.isAnnouncing then 1 else 0) =
      s.announcing + if after.point.isAnnouncing then 1 else 0 :=
  Lib.Threads.countP_set (fun call : EnqueueCall => call.point.isAnnouncing) after here

/-- A step of a call before its push. -/
theorem restful_setEnqueue {caller : Nat} {before after : EnqueueCall}
    (here : s.enqueues[caller]? = some before)
    (hsame : after.point.isAnnouncing = before.point.isAnnouncing) (hs : s.Restful) :
    (s.setEnqueue caller after).Restful := by
  have hcount := announcing_setEnqueue here after
  rw [hsame] at hcount
  intro hnone
  rw [Nat.add_right_cancel hcount]
  exact hs hnone

theorem restful_step (h : QueueStep manager s e s') (hs : s.Restful) : s'.Restful := by
  cases h with
  | called task =>
      intro hnone
      have hcount :
          ({ s with enqueues := s.enqueues ++ [⟨task, .check⟩] } : QueueState).announcing =
            s.announcing := by
        simp [QueueState.announcing, EnqueuePoint.isAnnouncing]
      rw [hcount]
      exact hs hnone
  | refused here full => exact restful_setEnqueue here rfl hs
  | admitted here room => exact restful_setEnqueue here rfl hs
  | @stored caller task world here ran =>
      let t : QueueState := { s with world := world }
      have hhere : t.enqueues[caller]? = some ⟨task, .store⟩ := here
      exact restful_setEnqueue hhere rfl hs
  | @unstored caller task world fault here ran =>
      let t : QueueState := { s with world := world }
      have hhere : t.enqueues[caller]? = some ⟨task, .store⟩ := here
      exact restful_setEnqueue hhere rfl hs
  | @pushed caller task here =>
      let t : QueueState := { s with pending := s.pending.push task }
      have hhere : t.enqueues[caller]? = some ⟨task, .push⟩ := here
      have hcount : (t.setEnqueue caller ⟨task, .count⟩).announcing = t.announcing + 1 :=
        announcing_setEnqueue hhere ⟨task, .count⟩
      intro _
      right
      rw [hcount]
      exact Nat.succ_pos _
  | @counted caller task here =>
      let t : QueueState := { s with queueDepth := s.queueDepth + 1 }
      have hhere : t.enqueues[caller]? = some ⟨task, .count⟩ := here
      exact restful_setEnqueue hhere rfl hs
  | woke here waits =>
      rintro ⟨hidle | hparked, -⟩
      · cases hidle
      · cases hparked
  | noted here awake =>
      rintro ⟨-, hnone⟩
      cases hnone
  | passed idle permit =>
      rintro ⟨hidle | hparked, -⟩
      · cases hidle
      · cases hparked
  | parked idle none => exact fun _ => hs ⟨Or.inl idle, none⟩
  | took drains first =>
      rintro ⟨hidle | hparked, -⟩
      · cases hidle
      · cases hparked
  | drained drains nothing => exact fun _ => Or.inl (QueueBuckets.tasks_of_pop?_none nothing)
  | granted acquires permits =>
      rintro ⟨hidle | hparked, -⟩
      · cases hidle
      · cases hparked
  | restarted => exact fun _ => Or.inl rfl
  | _ => exact hs

variable [Externals] [SkillExternals] [PackExternals]

/-- When a task waits and no call stands between its push and its notification, the
worker does not wait without a notification, in all interleavings. -/
theorem worker_awake (manager : QueueManager)
    (h : (manager.system (fun _ => True) fun _ _ => True).Reachable s)
    (hwaiting : s.pending.tasks ≠ [])
    (hquiet : ∀ call ∈ s.enqueues, call.point ≠ .count ∧ call.point ≠ .notify) :
    ¬ (s.worker = .parked ∧ s.notified = false) := by
  have hrestful : s.Restful := by
    refine h.invariant (P := QueueState.Restful) ?_ ?_
    · rintro _ ⟨world, -, rfl⟩ _
      exact Or.inl rfl
    · rintro s e s' ⟨-, hnext⟩ hs
      exact restful_step (QueueStep.of_step? hnext) hs
  have hnone : s.announcing = 0 := by
    refine List.countP_eq_zero.mpr fun call hcall => ?_
    obtain ⟨hcount, hnotify⟩ := hquiet call hcall
    cases hpoint : call.point with
    | count => exact absurd hpoint hcount
    | notify => exact absurd hpoint hnotify
    | _ => simp [EnqueuePoint.isAnnouncing]
  rintro ⟨hparked, hunnotified⟩
  rcases hrestful ⟨Or.inr hparked, hunnotified⟩ with hempty | hannouncing
  · exact hwaiting hempty
  · omega

end

/-- The worker waits, and a call wakes it. -/
theorem worker_awake_woken :
    ∃ s, smallRun (fun _ _ => true) (.worker :: crowd 1) = some s ∧
      s.pending.tasks = [plainTask] ∧ ¬ (s.worker = .parked ∧ s.notified = false) := by
  have hrun : (smallRun (fun _ _ => true) (.worker :: crowd 1)).map
      (fun s => (s.pending.tasks, s.enqueues.map EnqueueCall.point)) =
        some ([plainTask], [.returned (.ok (QueueManager.receipt plainTask))]) := by
    decide
  obtain ⟨s, hs, hfound⟩ := Option.map_eq_some_iff.mp hrun
  obtain ⟨hpending, hcalls⟩ := Prod.mk.inj hfound
  refine ⟨s, hs, hpending, @worker_awake s jsonExternals noSkillExternals noPackExternals
    smallQueue (reachable_of_smallRun trivial (fun _ _ _ => trivial) hs) (by simp [hpending]) ?_⟩
  intro call hcall
  have hpoint : call.point ∈ s.enqueues.map EnqueueCall.point := List.mem_map_of_mem hcall
  rw [hcalls, List.mem_singleton] at hpoint
  simp [hpoint]

end OpenPinch
