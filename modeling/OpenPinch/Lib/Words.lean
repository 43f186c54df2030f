import Mathlib.Data.Finset.Card
import Mathlib.Data.List.Destutter
import Mathlib.Data.List.Sort
import Mathlib.Algebra.Order.Field.Rat
import Mathlib.Tactic.Positivity
import Mathlib.Tactic.FieldSimp

/-!
# Words and sets of words

The runs of a text between the characters of a test, the texts that splitting
takes apart again, sorted lists without neighbours that are equal, and how much
two finite sets overlap.
-/

namespace Lib

/-! ## Runs -/

section

variable {α : Type} {test : α → Bool}

/-- A longest part of a text in which no element passes the test. -/
def IsRun (test : α → Bool) (text run : List α) : Prop :=
  ∃ before behind, text = before ++ run ++ behind ∧ (∀ a ∈ run, test a = false) ∧
    (∀ a ∈ before.getLast?, test a = true) ∧ ∀ a ∈ behind.head?, test a = true

theorem clean_or_first (test : α → Bool) (text : List α) :
    (∀ a ∈ text, test a = false) ∨
      ∃ run a rest, text = run ++ a :: rest ∧ (∀ b ∈ run, test b = false) ∧ test a = true := by
  induction text with
  | nil => exact .inl fun a ha => absurd ha List.not_mem_nil
  | cons b rest ih =>
      cases hb : test b with
      | true => exact .inr ⟨[], b, rest, rfl, fun a ha => absurd ha List.not_mem_nil, hb⟩
      | false =>
          rcases ih with hclean | ⟨run, a, behind, rfl, hrun, ha⟩
          · exact .inl (List.forall_mem_cons.mpr ⟨hb, hclean⟩)
          · exact .inr ⟨b :: run, a, behind, rfl, List.forall_mem_cons.mpr ⟨hb, hrun⟩, ha⟩

/-- Splitting cuts a text behind every element that passes the test. -/
theorem isRun_of_mem_splitOnP {text run : List α} (h : run ∈ text.splitOnP test) :
    IsRun test text run := by
  induction hlen : text.length using Nat.strong_induction_on generalizing text with
  | _ n ih =>
      rcases clean_or_first test text with hclean | ⟨first, a, rest, rfl, hfirst, ha⟩
      · rw [List.splitOnP_eq_singleton hclean, List.mem_singleton] at h
        subst h
        exact ⟨[], [], by simp, hclean, by simp, by simp⟩
      · rw [List.splitOnP_append_cons_of_forall_mem hfirst a ha] at h
        rcases List.mem_cons.mp h with rfl | h
        · exact ⟨[], a :: rest, rfl, hfirst, by simp, by simpa using ha⟩
        · have hshort : rest.length < n := by
            rw [← hlen, List.length_append, List.length_cons]
            omega
          obtain ⟨before, behind, rfl, hrun, hbefore, hbehind⟩ := ih rest.length hshort h rfl
          refine ⟨first ++ a :: before, behind, by simp, hrun, fun b hb => ?_, hbehind⟩
          rw [List.getLast?_append, List.getLast?_cons] at hb
          cases hlast : before.getLast? with
          | none => simp_all
          | some last => simp_all

theorem IsRun.mem_splitOnP {text run : List α} (h : IsRun test text run) :
    run ∈ text.splitOnP test := by
  obtain ⟨before, behind, rfl, hrun, hbefore, hbehind⟩ := h
  have hhead : run ∈ (run ++ behind).splitOnP test := by
    cases behind with
    | nil => simp [List.splitOnP_eq_singleton hrun]
    | cons a rest =>
        rw [List.splitOnP_append_cons_of_forall_mem hrun a (hbehind a rfl)]
        exact List.mem_cons_self
  rcases List.eq_nil_or_concat before with rfl | ⟨front, a, rfl⟩
  · simpa using hhead
  · have ha : test a = true := hbefore a (by simp)
    rw [List.append_assoc, List.concat_eq_append, List.append_assoc, List.singleton_append,
      List.splitOnP_append_cons front _ ha]
    exact List.mem_append_right _ hhead

/-- The parts of a split text are its runs. -/
theorem mem_splitOnP_iff {text run : List α} :
    run ∈ text.splitOnP test ↔ IsRun test text run :=
  ⟨isRun_of_mem_splitOnP, IsRun.mem_splitOnP⟩

/-- Parts joined by a character of the test are the parts of the joined text. -/
theorem splitOnP_intercalate {a : α} (ha : test a = true) {parts : List (List α)}
    (hparts : ∀ part ∈ parts, ∀ b ∈ part, test b = false) (hne : parts ≠ []) :
    ([a].intercalate parts).splitOnP test = parts := by
  induction parts with
  | nil => exact absurd rfl hne
  | cons part rest ih =>
      have hpart := hparts part List.mem_cons_self
      cases rest with
      | nil => simpa using List.splitOnP_eq_singleton hpart
      | cons other more =>
          have hmore := ih (fun next hnext => hparts next (List.mem_cons_of_mem _ hnext)) (by simp)
          rw [List.intercalate_cons_cons, List.append_assoc, List.singleton_append,
            List.splitOnP_append_cons_of_forall_mem hpart a ha, hmore]

end

/-! ## Sorted lists -/

section

variable {α : Type} [LinearOrder α]

theorem mem_destutter_ne {a : α} {list : List α} :
    a ∈ list.destutter (· ≠ ·) ↔ a ∈ list := by
  have hfrom : ∀ (list : List α) (b : α), a ∈ list.destutter' (· ≠ ·) b ↔ a = b ∨ a ∈ list := by
    intro list
    induction list with
    | nil => intro b; simp
    | cons c rest ih =>
        intro b
        by_cases heq : b = c
        · subst heq
          rw [List.destutter'_cons_neg _ (by simp), ih, List.mem_cons, or_self_left]
        · rw [List.destutter'_cons_pos _ heq, List.mem_cons, ih, List.mem_cons]
  cases list with
  | nil => simp
  | cons b rest => rw [List.destutter_cons', hfrom, List.mem_cons]

/-- A sorted list without equal neighbours increases. -/
theorem pairwise_lt_of_isChain_ne {list : List α} (hsorted : list.Pairwise (· ≤ ·))
    (hchain : list.IsChain (· ≠ ·)) : list.Pairwise (· < ·) := by
  induction list with
  | nil => exact .nil
  | cons a rest ih =>
      obtain ⟨hfirst, hrest⟩ := List.pairwise_cons.mp hsorted
      have hincreasing := ih hrest hchain.tail
      refine List.pairwise_cons.mpr ⟨fun b hb => ?_, hincreasing⟩
      cases rest with
      | nil => exact absurd hb List.not_mem_nil
      | cons c more =>
          have hac : a < c :=
            lt_of_le_of_ne (hfirst c List.mem_cons_self) (List.isChain_cons_cons.mp hchain).1
          rcases List.mem_cons.mp hb with rfl | hb
          · exact hac
          · exact hac.trans ((List.pairwise_cons.mp hincreasing).1 b hb)

theorem pairwise_lt_destutter {list : List α} (h : list.Pairwise (· ≤ ·)) :
    (list.destutter (· ≠ ·)).Pairwise (· < ·) :=
  pairwise_lt_of_isChain_ne (h.sublist (List.destutter_sublist (· ≠ ·) list))
    (List.isChain_destutter (· ≠ ·) list)

end

/-! ## Overlap -/

section

variable {α : Type} [DecidableEq α]

/-- The share of the common elements in all elements. -/
def overlap (A B : Finset α) : ℚ := ((A ∩ B).card : ℚ) / ((A ∪ B).card : ℚ)

theorem overlap_comm (A B : Finset α) : overlap A B = overlap B A := by
  unfold overlap
  rw [Finset.inter_comm, Finset.union_comm]

theorem overlap_nonneg (A B : Finset α) : 0 ≤ overlap A B := by
  unfold overlap
  positivity

theorem overlap_le_one (A B : Finset α) : overlap A B ≤ 1 := by
  have hcard : ((A ∩ B).card : ℚ) ≤ ((A ∪ B).card : ℚ) :=
    Nat.cast_le.mpr (Finset.card_le_card Finset.inter_subset_union)
  exact div_le_one_of_le₀ hcard (Nat.cast_nonneg _)

theorem overlap_empty_left (B : Finset α) : overlap ∅ B = 0 := by
  unfold overlap
  rw [Finset.empty_inter, Finset.card_empty, Nat.cast_zero, zero_div]

/-- Only equal sets overlap wholly, and the empty set does not. -/
theorem overlap_eq_one_iff (A B : Finset α) : overlap A B = 1 ↔ A = B ∧ A.Nonempty := by
  constructor
  · intro h
    have hne : ((A ∪ B).card : ℚ) ≠ 0 := by
      intro hzero
      unfold overlap at h
      rw [hzero, div_zero] at h
      exact zero_ne_one h
    have hcard : (A ∩ B).card = (A ∪ B).card := Nat.cast_injective ((div_eq_one_iff_eq hne).mp h)
    have hsame : A ∩ B = A ∪ B := Finset.eq_of_subset_of_card_le Finset.inter_subset_union hcard.ge
    have heq : A = B := Finset.Subset.antisymm
      (fun a ha => Finset.mem_of_mem_inter_right (hsame ▸ Finset.mem_union_left B ha))
      (fun b hb => Finset.mem_of_mem_inter_left (hsame ▸ Finset.mem_union_right A hb))
    refine ⟨heq, Finset.nonempty_iff_ne_empty.mpr fun hempty => zero_ne_one (α := ℚ) ?_⟩
    rw [← h, hempty, overlap_empty_left]
  · rintro ⟨rfl, hne⟩
    unfold overlap
    rw [Finset.inter_self, Finset.union_self]
    exact div_self (Nat.cast_ne_zero.mpr hne.card_ne_zero)

end

end Lib
