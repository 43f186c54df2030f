import Mathlib.Data.List.Range
import Mathlib.Data.List.ReduceOption
import Mathlib.Order.Lattice
import Mathlib.Tactic.Common

/-!
# Stable priority queues

What was put into a queue and what was taken out of it again, and when a list of
answers serves the elements by their keys, those with equal keys in the order in
which they were put in.  A queue that files the waiting elements by their keys
and answers with the head of the first list that is not empty serves them so.
-/

namespace Lib

/-- The elements that were put in, and the positions of those that were taken out. -/
structure Backlog (α : Type) where
  put : List α
  taken : List Nat

/-- An operation on a queue. -/
inductive QueueOp (α : Type) where
  | push (a : α)
  | pop

def QueueOp.pushed? {α : Type} : QueueOp α → Option α
  | .push a => some a
  | .pop => none

namespace Backlog

variable {α κ : Type} {b b' : Backlog α} {i : Nat} {a : α}

def empty : Backlog α := ⟨[], []⟩

def push (b : Backlog α) (a : α) : Backlog α := ⟨b.put ++ [a], b.taken⟩

def take (b : Backlog α) (i : Nat) : Backlog α := ⟨b.put, b.taken ++ [i]⟩

/-- The element at a position waits. -/
def Waits (b : Backlog α) (i : Nat) (a : α) : Prop := b.put[i]? = some a ∧ i ∉ b.taken

/-- The waiting elements with their positions. -/
def waiting (b : Backlog α) : List (α × Nat) :=
  b.put.zipIdx.filter fun entry => entry.2 ∉ b.taken

theorem mem_waiting_iff : (a, i) ∈ b.waiting ↔ b.Waits i a := by
  simp [waiting, Waits, List.mem_filter, List.mem_zipIdx_iff_getElem?]

theorem waiting_increasing (b : Backlog α) :
    b.waiting.Pairwise fun before behind => before.2 < behind.2 := by
  have hpositions : (b.put.zipIdx.map Prod.snd).Pairwise (· < ·) := by
    rw [List.zipIdx_map_snd]
    exact List.pairwise_lt_range'
  exact (List.pairwise_map.mp hpositions).filter _

/-- Every position that was taken is one of an element that was put in, and none was
taken twice. -/
structure WellFormed (b : Backlog α) : Prop where
  within : ∀ i ∈ b.taken, i < b.put.length
  once : b.taken.Nodup

theorem wellFormed_empty : (empty : Backlog α).WellFormed :=
  ⟨fun _ h => absurd h List.not_mem_nil, List.nodup_nil⟩

theorem WellFormed.push (h : b.WellFormed) (a : α) : (b.push a).WellFormed := by
  refine ⟨fun i hi => ?_, h.once⟩
  have hlt := h.within i hi
  simp only [Backlog.push, List.length_append, List.length_singleton]
  omega

theorem Waits.lt (h : b.Waits i a) : i < b.put.length := (List.getElem?_eq_some_iff.mp h.1).1

theorem WellFormed.take (h : b.WellFormed) (hwaits : b.Waits i a) : (b.take i).WellFormed := by
  constructor
  · intro j hj
    rcases List.mem_append.mp hj with hj | hj
    · exact h.within j hj
    · rw [List.mem_singleton.mp hj]
      exact hwaits.lt
  · refine List.nodup_append.mpr ⟨h.once, by simp, fun j hj k hk => ?_⟩
    rw [List.mem_singleton.mp hk]
    exact fun hsame => hwaits.2 (hsame ▸ hj)

theorem WellFormed.waiting_push (h : b.WellFormed) (a : α) :
    (b.push a).waiting = b.waiting ++ [(a, b.put.length)] := by
  have hfresh : b.put.length ∉ b.taken := fun hmem => Nat.lt_irrefl _ (h.within _ hmem)
  unfold waiting Backlog.push
  rw [List.zipIdx_append, List.filter_append]
  congr 1
  simp [hfresh]

theorem waiting_take (b : Backlog α) (i : Nat) :
    (b.take i).waiting = b.waiting.filter fun entry => entry.2 ≠ i := by
  simp only [waiting, take, List.filter_filter]
  refine List.filter_congr fun entry _ => ?_
  simp only [List.mem_append, List.mem_singleton, not_or, Bool.decide_and, ne_eq, Bool.and_comm]

section

variable [LinearOrder κ] {key : α → κ}

/-- An element that waits, where none with a smaller key waits and none with the
same key waits that was put in before it. -/
structure IsFirst (key : α → κ) (b : Backlog α) (i : Nat) (a : α) : Prop where
  waits : b.Waits i a
  first : ∀ j c, b.Waits j c → key a < key c ∨ key a = key c ∧ i ≤ j

/-- The answers of a queue to operations on it, and the backlog behind them. -/
inductive Serves (key : α → κ) :
    Backlog α → List (QueueOp α) → List (Option α) → Backlog α → Prop where
  | done (b : Backlog α) : Serves key b [] [] b
  | push {b b' : Backlog α} {a : α} {ops : List (QueueOp α)} {answers : List (Option α)} :
      Serves key (b.push a) ops answers b' → Serves key b (.push a :: ops) answers b'
  | take {b b' : Backlog α} {i : Nat} {a : α} {ops : List (QueueOp α)}
      {answers : List (Option α)} :
      b.IsFirst key i a → Serves key (b.take i) ops answers b' →
        Serves key b (.pop :: ops) (some a :: answers) b'
  | idle {b b' : Backlog α} {ops : List (QueueOp α)} {answers : List (Option α)} :
      (∀ i a, ¬ b.Waits i a) → Serves key b ops answers b' →
        Serves key b (.pop :: ops) (none :: answers) b'

variable {ops : List (QueueOp α)} {answers : List (Option α)}

namespace Serves

theorem wellFormed (h : Serves key b ops answers b') (hb : b.WellFormed) : b'.WellFormed := by
  induction h with
  | done b => exact hb
  | push _ ih => exact ih (hb.push _)
  | take hfirst _ ih => exact ih (hb.take hfirst.waits)
  | idle _ _ ih => exact ih hb

/-- What is put in stays, followed by what is pushed. -/
theorem put_eq (h : Serves key b ops answers b') :
    b'.put = b.put ++ ops.filterMap QueueOp.pushed? := by
  induction h with
  | done b => simp
  | push _ ih => simpa [Backlog.push, QueueOp.pushed?] using ih
  | take _ _ ih => exact ih
  | idle _ _ ih => exact ih

/-- The answers are the elements at the positions that are taken, in order. -/
theorem answers_eq (h : Serves key b ops answers b') :
    ∃ more, b'.taken = b.taken ++ more ∧
      answers.reduceOption.map some = more.map fun i => b'.put[i]? := by
  induction h with
  | done b => exact ⟨[], by simp, by simp⟩
  | push _ ih => exact ih
  | @take b b' i a ops answers hfirst hrest ih =>
      obtain ⟨more, htaken, hanswers⟩ := ih
      refine ⟨i :: more, by simpa [Backlog.take] using htaken, ?_⟩
      have hput : b'.put[i]? = some a := by
        rw [hrest.put_eq]
        exact (List.getElem?_append_left hfirst.waits.lt).trans hfirst.waits.1
      rw [List.reduceOption_cons_of_some, List.map_cons, List.map_cons, hanswers, hput]
  | idle _ _ ih => simpa using ih

end Serves

/-! ## Filed elements -/

/-- The waiting elements are filed by their keys, in order. -/
def Filed (key : α → κ) (b : Backlog α) (file : κ → List α) : Prop :=
  ∀ k, file k = (b.waiting.filter fun entry => key entry.1 = k).map Prod.fst

variable {file file' : κ → List α}

theorem Filed.push (h : Filed key b file) (hb : b.WellFormed)
    (hsame : file' (key a) = file (key a) ++ [a])
    (hother : ∀ k, k ≠ key a → file' k = file k) : Filed key (b.push a) file' := by
  intro k
  rw [hb.waiting_push, List.filter_append, List.map_append, ← h k]
  by_cases hk : k = key a
  · subst hk
    simp [hsame]
  · simp [hother k hk, Ne.symm hk]

/-- With all files empty, nothing waits. -/
theorem Filed.not_waits (h : Filed key b file) (hempty : ∀ k, file k = []) (i : Nat) (a : α) :
    ¬ b.Waits i a := by
  intro hwaits
  have hmem : a ∈ file (key a) := by
    rw [h]
    exact List.mem_map.mpr ⟨(a, i), List.mem_filter.mpr ⟨mem_waiting_iff.mpr hwaits, by simp⟩, rfl⟩
  rw [hempty] at hmem
  exact List.not_mem_nil hmem

/-- The head of the first file that is not empty is taken next. -/
theorem Filed.take {k : κ} {rest : List α} (h : Filed key b file) (hhead : file k = a :: rest)
    (hbefore : ∀ j, j < k → file j = []) (hsame : file' k = rest)
    (hother : ∀ j, j ≠ k → file' j = file j) :
    ∃ i, b.IsFirst key i a ∧ Filed key (b.take i) file' := by
  have hfile := (h k).symm.trans hhead
  obtain ⟨⟨a, i⟩, more, hfilter, rfl, hmore⟩ := List.map_eq_cons_iff.mp hfile
  have hin : (a, i) ∈ b.waiting.filter fun entry => key entry.1 = k := by
    rw [hfilter]
    exact List.mem_cons_self
  have hkey : key a = k := by simpa using (List.mem_filter.mp hin).2
  have hwaits : b.Waits i a := mem_waiting_iff.mp (List.mem_filter.mp hin).1
  have hsorted := (b.waiting_increasing).filter fun entry => decide (key entry.1 = k)
  rw [hfilter, List.pairwise_cons] at hsorted
  refine ⟨i, ⟨hwaits, fun j c hc => ?_⟩, fun j => ?_⟩
  · rcases lt_trichotomy (key a) (key c) with hlt | heq | hgt
    · exact .inl hlt
    · refine .inr ⟨heq, ?_⟩
      have hmem : (c, j) ∈ b.waiting.filter fun entry => key entry.1 = k :=
        List.mem_filter.mpr ⟨mem_waiting_iff.mpr hc, by simpa using heq.symm.trans hkey⟩
      rw [hfilter] at hmem
      rcases List.mem_cons.mp hmem with hsame | hlater
      · cases hsame
        exact Nat.le_refl _
      · exact Nat.le_of_lt (hsorted.1 _ hlater)
    · have hmem : c ∈ file (key c) := by
        rw [h]
        exact List.mem_map.mpr
          ⟨(c, j), List.mem_filter.mpr ⟨mem_waiting_iff.mpr hc, by simp⟩, rfl⟩
      rw [hbefore _ (hkey ▸ hgt)] at hmem
      exact absurd hmem List.not_mem_nil
  · rw [waiting_take, List.filter_comm]
    by_cases hj : j = k
    · subst hj
      rw [hfilter, hsame, List.filter_cons_of_neg (by simp), ← hmore]
      congr 1
      refine (List.filter_eq_self.mpr fun entry hentry => ?_).symm
      have hlt := hsorted.1 entry hentry
      simpa using (Nat.ne_of_lt hlt).symm
    · rw [hother j hj, h j]
      congr 1
      refine (List.filter_eq_self.mpr fun entry hentry => ?_).symm
      obtain ⟨hentry, hentryKey⟩ := List.mem_filter.mp hentry
      have hput := (mem_waiting_iff.mp hentry).1
      simp only [ne_eq, decide_eq_true_eq]
      intro hi
      rw [hi, hwaits.1] at hput
      cases hput
      exact hj ((by simpa using hentryKey : key _ = j).symm.trans hkey)

end

/-- The files of all keys together hold what waits. -/
theorem Filed.perm {key : α → Nat} {file : Nat → List α} (h : Filed key b file) {n : Nat}
    (hkeys : ∀ a, key a < n) : ((List.range n).flatMap file).Perm (b.waiting.map Prod.fst) := by
  have hbelow : ∀ m, ((List.range m).flatMap file).Perm
      ((b.waiting.filter fun entry => key entry.1 < m).map Prod.fst) := by
    intro m
    induction m with
    | zero => simp
    | succ m ih =>
        have hsplit := List.filter_append_perm (fun entry : α × Nat => decide (key entry.1 < m))
          (b.waiting.filter fun entry => key entry.1 < m + 1)
        have hless : (b.waiting.filter fun entry => key entry.1 < m + 1).filter
            (fun entry => decide (key entry.1 < m)) =
              b.waiting.filter fun entry => key entry.1 < m := by
          rw [List.filter_filter]
          refine List.filter_congr fun entry _ => ?_
          simp only [← Bool.decide_and, decide_eq_decide]
          omega
        have hlast : (b.waiting.filter fun entry => key entry.1 < m + 1).filter
            (fun entry => !decide (key entry.1 < m)) =
              b.waiting.filter fun entry => key entry.1 = m := by
          rw [List.filter_filter]
          refine List.filter_congr fun entry _ => ?_
          simp only [← decide_not, ← Bool.decide_and, decide_eq_decide]
          omega
        rw [hless, hlast] at hsplit
        rw [List.range_succ, List.flatMap_append, List.flatMap_singleton, h m]
        refine (ih.append_right _).trans ?_
        rw [← List.map_append]
        exact hsplit.map _
  have hall : (b.waiting.filter fun entry => key entry.1 < n) = b.waiting :=
    List.filter_eq_self.mpr fun entry _ => by simpa using hkeys entry.1
  have hperm := hbelow n
  rwa [hall] at hperm

end Backlog

end Lib
