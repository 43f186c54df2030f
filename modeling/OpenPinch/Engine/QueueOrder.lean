import OpenPinch.Engine.QueueRules
import OpenPinch.Lib.StableQueue

/-!
# The order of the buckets

Pushing into the buckets and taking out of them serves the tasks by priority,
and those of one priority in the order of their arrival.
-/

namespace OpenPinch

open Lib (Backlog QueueOp)

/-- The place of the priority of a task. -/
def QueueTask.rank (task : QueueTask) : Nat := task.priority.rank

namespace QueueBuckets

/-- The bucket of the priority with the place. -/
def bucket (buckets : QueueBuckets) : Nat → List QueueTask
  | 0 => buckets.interactive.map Subtype.val
  | 1 => buckets.connector.map Subtype.val
  | 2 => buckets.autonomy.map Subtype.val
  | 3 => buckets.background.map Subtype.val
  | _ => []

theorem bucket_push_same (buckets : QueueBuckets) (task : QueueTask) :
    (buckets.push task).bucket task.rank = buckets.bucket task.rank ++ [task] := by
  unfold push QueueTask.rank
  split <;> rename_i h <;> simp [h, QueuePriority.rank, bucket]

theorem bucket_push_other (buckets : QueueBuckets) (task : QueueTask) {place : Nat}
    (h : place ≠ task.rank) : (buckets.push task).bucket place = buckets.bucket place := by
  unfold QueueTask.rank at h
  unfold push
  split <;> rename_i hpriority <;> rw [hpriority] at h <;>
    rcases place with _ | _ | _ | _ | place <;> first | rfl | exact absurd rfl h

theorem bucket_of_pop?_none {buckets : QueueBuckets} (h : buckets.pop? = none) (place : Nat) :
    buckets.bucket place = [] := by
  rw [eq_empty_of_pop?_none h]
  rcases place with _ | _ | _ | _ | place <;> rfl

/-- What comes out is the head of the first bucket that is not empty. -/
theorem bucket_of_pop?_some {buckets rest : QueueBuckets} {task : QueueTask}
    (h : buckets.pop? = some (task, rest)) :
    ∃ place, buckets.bucket place = task :: rest.bucket place ∧
      (∀ earlier, earlier < place → buckets.bucket earlier = []) ∧
      ∀ other, other ≠ place → rest.bucket other = buckets.bucket other := by
  unfold pop? at h
  split at h
  · cases h
    refine ⟨0, rfl, fun earlier hearlier => by omega, fun other hother => ?_⟩
    rcases other with _ | _ | _ | _ | other <;> first | rfl | exact absurd rfl hother
  · cases h
    refine ⟨1, rfl, fun earlier hearlier => ?_, fun other hother => ?_⟩
    · rcases earlier with _ | earlier <;> first | rfl | omega
    · rcases other with _ | _ | _ | _ | other <;> first | rfl | exact absurd rfl hother
  · cases h
    refine ⟨2, rfl, fun earlier hearlier => ?_, fun other hother => ?_⟩
    · rcases earlier with _ | _ | earlier <;> first | rfl | omega
    · rcases other with _ | _ | _ | _ | other <;> first | rfl | exact absurd rfl hother
  · cases h
    refine ⟨3, rfl, fun earlier hearlier => ?_, fun other hother => ?_⟩
    · rcases earlier with _ | _ | _ | earlier <;> first | rfl | omega
    · rcases other with _ | _ | _ | _ | other <;> first | rfl | exact absurd rfl hother
  · cases h

/-- The answers of the buckets to operations, and the buckets behind them. -/
def run (buckets : QueueBuckets) :
    List (QueueOp QueueTask) → List (Option QueueTask) × QueueBuckets
  | [] => ([], buckets)
  | .push task :: ops => (buckets.push task).run ops
  | .pop :: ops =>
      match buckets.pop? with
      | some (task, rest) => (some task :: (rest.run ops).1, (rest.run ops).2)
      | none => (none :: (buckets.run ops).1, (buckets.run ops).2)

/-- The waiting tasks are in the buckets of their priorities. -/
def Holds (buckets : QueueBuckets) (b : Backlog QueueTask) : Prop :=
  b.WellFormed ∧ b.Filed QueueTask.rank buckets.bucket

theorem holds_empty : empty.Holds .empty := by
  refine ⟨Backlog.wellFormed_empty, fun place => ?_⟩
  rcases place with _ | _ | _ | _ | place <;> rfl

variable {buckets : QueueBuckets} {b : Backlog QueueTask}

theorem Holds.push (h : buckets.Holds b) (task : QueueTask) :
    (buckets.push task).Holds (b.push task) :=
  ⟨h.1.push task, h.2.push h.1 (buckets.bucket_push_same task) fun _ hother =>
    buckets.bucket_push_other task hother⟩

theorem Holds.pop {rest : QueueBuckets} {task : QueueTask} (h : buckets.Holds b)
    (hpop : buckets.pop? = some (task, rest)) :
    ∃ i, b.IsFirst QueueTask.rank i task ∧ rest.Holds (b.take i) := by
  obtain ⟨place, hhead, hbefore, hother⟩ := bucket_of_pop?_some hpop
  obtain ⟨i, hfirst, hfiled⟩ := h.2.take hhead hbefore rfl hother
  exact ⟨i, hfirst, h.1.take hfirst.waits, hfiled⟩

/-- A run of the buckets serves what waits. -/
theorem Holds.serves (h : buckets.Holds b) (ops : List (QueueOp QueueTask)) :
    ∃ b', Backlog.Serves QueueTask.rank b ops (buckets.run ops).1 b' ∧
      (buckets.run ops).2.Holds b' := by
  induction ops generalizing buckets b with
  | nil => exact ⟨b, .done b, h⟩
  | cons op ops ih =>
      cases op with
      | push task =>
          obtain ⟨b', hserves, hholds⟩ := ih (h.push task)
          exact ⟨b', .push hserves, hholds⟩
      | pop =>
          unfold run
          cases hpop : buckets.pop? with
          | none =>
              obtain ⟨b', hserves, hholds⟩ := ih h
              exact ⟨b', .idle (h.2.not_waits (bucket_of_pop?_none hpop)) hserves, hholds⟩
          | some popped =>
              obtain ⟨task, rest⟩ := popped
              obtain ⟨i, hfirst, hrest⟩ := h.pop hpop
              obtain ⟨b', hserves, hholds⟩ := ih hrest
              exact ⟨b', .take hfirst hserves, hholds⟩

theorem tasks_eq (buckets : QueueBuckets) :
    buckets.tasks = (List.range 4).flatMap buckets.bucket := by
  simp [tasks, bucket, List.range_succ]

/-- Every pop returns the task of the highest priority that arrived first among those
that wait, or none when nothing waits.  No task is returned twice, and those that are
not returned are in the buckets. -/
theorem run_servesInOrder (ops : List (QueueOp QueueTask)) :
    ∃ b, Backlog.Serves QueueTask.rank .empty ops (empty.run ops).1 b ∧
      b.put = ops.filterMap QueueOp.pushed? ∧
      b.taken.Nodup ∧
      (empty.run ops).1.reduceOption.map some = (b.taken.map fun i => b.put[i]?) ∧
      (empty.run ops).2.tasks.Perm (b.waiting.map Prod.fst) := by
  obtain ⟨b, hserves, hholds⟩ := holds_empty.serves ops
  obtain ⟨more, htaken, hanswers⟩ := hserves.answers_eq
  refine ⟨b, hserves, hserves.put_eq, hholds.1.once, ?_, ?_⟩
  · rw [hanswers, htaken]
    rfl
  · rw [tasks_eq]
    refine hholds.2.perm fun task => ?_
    unfold QueueTask.rank
    cases task.priority <;> decide

end QueueBuckets

end OpenPinch
