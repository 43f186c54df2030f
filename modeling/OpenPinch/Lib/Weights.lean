import Mathlib.Algebra.BigOperators.Group.List.Basic
import Mathlib.Algebra.Order.Group.Multiset

/-!
# Weighing threads

Threads stand in a list, and each has a weight in a commutative monoid: a number, a
count that wraps around, or a bag of what the thread stands for.  A step replaces one
thread, or adds one.  What all of them weigh then changes by what the one weighs.
-/

namespace Lib.Threads

universe u v

variable {α : Type u} {M : Type v} [AddCommMonoid M] (w : α → M)

/-- What the threads weigh together. -/
def weight (threads : List α) : M := (threads.map w).sum

@[simp] theorem weight_nil : weight w [] = 0 := rfl

@[simp] theorem weight_cons (thread : α) (threads : List α) :
    weight w (thread :: threads) = w thread + weight w threads := rfl

theorem weight_concat (threads : List α) (thread : α) :
    weight w (threads ++ [thread]) = weight w threads + w thread := by
  simp [weight]

variable {w}

/-- The weight of the replaced thread leaves, and that of the new one enters. -/
theorem weight_set {threads : List α} {i : Nat} {before : α} (after : α)
    (h : threads[i]? = some before) :
    weight w (threads.set i after) + w before = weight w threads + w after := by
  induction threads generalizing i with
  | nil => cases h
  | cons first rest ih =>
      cases i with
      | zero =>
          obtain rfl : first = before := Option.some.inj h
          rw [List.set_cons_zero, weight_cons, weight_cons, add_right_comm, add_comm (w after),
            add_right_comm, add_comm (w first)]
      | succ i =>
          rw [List.set_cons_succ, weight_cons, weight_cons, add_assoc, ih h, add_assoc]

theorem weight_set_same [IsRightCancelAdd M] {threads : List α} {i : Nat} {before after : α}
    (h : threads[i]? = some before) (hsame : w after = w before) :
    weight w (threads.set i after) = weight w threads := by
  have hset := weight_set (w := w) after h
  rw [hsame] at hset
  exact add_right_cancel hset

/-- What threads stand for stays when the one that is replaced stood for the same. -/
theorem map_set_same {β : Type v} {f : α → β} {threads : List α} {i : Nat} {before after : α}
    (h : threads[i]? = some before) (hsame : f after = f before) :
    (threads.set i after).map f = threads.map f := by
  obtain ⟨hlt, hbefore⟩ := List.getElem?_eq_some_iff.mp h
  rw [List.map_set, hsame, ← hbefore, ← List.getElem_map f (h := by rwa [List.length_map])]
  exact List.set_getElem_self _

theorem weight_congr {w' : α → M} {threads : List α}
    (h : ∀ thread ∈ threads, w thread = w' thread) :
    weight w threads = weight w' threads :=
  congrArg List.sum (List.map_congr_left h)

/-- The threads that pass a test, as a bag of what they stand for. -/
theorem weight_singletons {β : Type v} (p : α → Bool) (f : α → β) (threads : List α) :
    weight (fun thread => if p thread then ({f thread} : Multiset β) else 0) threads =
      ↑((threads.filter p).map f) := by
  induction threads with
  | nil => rfl
  | cons first rest ih =>
      rw [weight_cons, ih]
      cases hp : p first with
      | true => simp [hp]
      | false => simp [hp]

/-- The threads that pass a test weigh the same. -/
theorem weight_ite (p : α → Bool) (one : M) (threads : List α) :
    weight (fun thread => if p thread then one else 0) threads = threads.countP p • one := by
  induction threads with
  | nil => simp
  | cons first rest ih =>
      rw [weight_cons, ih, List.countP_cons]
      cases p first with
      | true => rw [if_pos rfl, if_pos rfl, succ_nsmul']
      | false => simp

end Lib.Threads
