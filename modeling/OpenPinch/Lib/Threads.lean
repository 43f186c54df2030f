import Mathlib.Tactic.Common

/-!
# Counting threads

Threads of one kind stand in a list, and a step replaces one of them.  The
number of threads with a property then changes by what the one thread does.
-/

namespace Lib.Threads

universe u

variable {α : Type u} {threads : List α} {i : Nat} {before : α}

/-- The replaced thread leaves the count and the new one enters it. -/
theorem countP_set (p : α → Bool) (after : α) (h : threads[i]? = some before) :
    (threads.set i after).countP p + (if p before then 1 else 0) =
      threads.countP p + if p after then 1 else 0 := by
  obtain ⟨hi, hbefore⟩ := List.getElem?_eq_some_iff.mp h
  rw [List.countP_set hi, hbefore]
  have hpos : p before = true → 0 < threads.countP p := by
    intro hp
    exact List.countP_pos_iff.mpr ⟨before, hbefore ▸ List.getElem_mem hi, hp⟩
  cases hp : p before with
  | true =>
      have := hpos hp
      simp
      omega
  | false => simp

theorem countP_pos {p : α → Bool} (h : threads[i]? = some before) (hp : p before = true) :
    0 < threads.countP p :=
  List.countP_pos_iff.mpr ⟨before, List.mem_of_getElem? h, hp⟩

end Lib.Threads
