import Mathlib.Tactic.Common

/-!
# Cumulative acknowledgement

A log of entries with increasing numbers, read from an offset on.  A reader that
has taken an entry asks for what comes after its number, and the entries before
that are acknowledged all at once.
-/

namespace Lib.Ack

universe u

variable {α : Type u} {key : α → Int} {log : List α} {offset : Int} {a b : α} {rest : List α}

/-- The entries from an offset on. -/
def since (key : α → Int) (offset : Int) (log : List α) : List α :=
  log.filter fun a => decide (offset ≤ key a)

theorem mem_since : a ∈ since key offset log ↔ a ∈ log ∧ offset ≤ key a := by
  simp [since]

theorem since_append (offset : Int) (log more : List α) :
    since key offset (log ++ more) = since key offset log ++ since key offset more :=
  List.filter_append ..

/-- Entries that are acknowledged twice. -/
theorem since_since {lower : Int} (h : lower ≤ offset) (log : List α) :
    since key offset (since key lower log) = since key offset log := by
  rw [since, since, List.filter_filter]
  refine List.filter_congr fun a _ => ?_
  rw [Bool.eq_iff_iff]
  simp only [Bool.and_eq_true, decide_eq_true_eq]
  exact ⟨And.left, fun ha => ⟨ha, Int.le_trans h ha⟩⟩

theorem sorted_since (h : log.Pairwise fun a b => key a < key b) (offset : Int) :
    (since key offset log).Pairwise fun a b => key a < key b :=
  h.sublist List.filter_sublist

/-- Behind the first entry that is read stand those with greater numbers. -/
theorem eq_or_lt_of_mem_since (hsorted : log.Pairwise fun a b => key a < key b)
    (hread : (a :: rest) <+: since key offset log) (hb : b ∈ since key offset log) :
    b = a ∨ key a < key b := by
  obtain ⟨more, hmore⟩ := hread
  have hpairs := sorted_since hsorted offset
  rw [← hmore, List.cons_append] at hpairs hb
  rcases List.mem_cons.mp hb with rfl | hlater
  · exact Or.inl rfl
  · exact Or.inr ((List.pairwise_cons.mp hpairs).1 b hlater)

/-- From the number after the first entry on, the others are read. -/
theorem prefix_since_next (hsorted : log.Pairwise fun a b => key a < key b)
    (hread : (a :: rest) <+: since key offset log) : rest <+: since key (key a + 1) log := by
  obtain ⟨more, hmore⟩ := hread
  have hpairs := sorted_since hsorted offset
  have ha : offset ≤ key a :=
    (mem_since.mp (hmore ▸ List.mem_append_left more List.mem_cons_self)).2
  rw [← hmore, List.cons_append] at hpairs
  have hlater : ∀ b ∈ rest ++ more, decide (key a + 1 ≤ key b) = true := fun b hb =>
    decide_eq_true ((List.pairwise_cons.mp hpairs).1 b hb)
  refine ⟨more, ?_⟩
  rw [← since_since (Int.le_trans ha (by omega)) log, ← hmore, List.cons_append, since,
    List.filter_cons_of_neg (by rw [decide_eq_true_eq]; omega), List.filter_eq_self.mpr hlater]

end Lib.Ack
