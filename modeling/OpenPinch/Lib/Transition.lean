import Mathlib.Tactic.Common

/-!
# Labelled transition systems

A system has initial states and labelled steps.  `Run` is the inductive relation
of its finite runs, and `Reachable` the states a run from an initial state ends
in.  A property that every step preserves holds along every run.
-/

namespace Lib

universe u v

/-- Initial states and labelled steps. -/
structure System (σ : Type u) (ι : Type v) where
  init : σ → Prop
  step : σ → ι → σ → Prop

namespace System

variable {σ : Type u} {ι : Type v} {t : System σ ι}

/-- Finite runs, with the labels of their steps in order. -/
inductive Run (t : System σ ι) : σ → List ι → σ → Prop where
  | nil (s : σ) : Run t s [] s
  | cons {s s' s'' : σ} {label : ι} {labels : List ι} :
      t.step s label s' → Run t s' labels s'' → Run t s (label :: labels) s''

/-- The states that runs from initial states end in. -/
def Reachable (t : System σ ι) (s : σ) : Prop :=
  ∃ start labels, t.init start ∧ Run t start labels s

namespace Run

theorem single {s s' : σ} {label : ι} (h : t.step s label s') : Run t s [label] s' :=
  .cons h (.nil s')

theorem append {s s' s'' : σ} {first second : List ι}
    (h : Run t s first s') (h' : Run t s' second s'') : Run t s (first ++ second) s'' := by
  induction h with
  | nil => exact h'
  | cons hstep _ ih => exact .cons hstep (ih h')

/-- A property that every step preserves is preserved by every run. -/
theorem preserves {P : σ → Prop}
    (hstep : ∀ s label s', t.step s label s' → P s → P s')
    {s s' : σ} {labels : List ι} (h : Run t s labels s') (hs : P s) : P s' := by
  induction h with
  | nil => exact hs
  | cons hnext _ ih => exact ih (hstep _ _ _ hnext hs)

end Run

namespace Reachable

theorem of_init {s : σ} (h : t.init s) : t.Reachable s := ⟨s, [], h, .nil s⟩

theorem step {s s' : σ} {label : ι} (h : t.Reachable s) (h' : t.step s label s') :
    t.Reachable s' := by
  obtain ⟨start, labels, hinit, hrun⟩ := h
  exact ⟨start, labels ++ [label], hinit, hrun.append (.single h')⟩

/-- An invariant holds initially, is preserved by every step, and so holds in
every reachable state. -/
theorem invariant {P : σ → Prop} (hinit : ∀ s, t.init s → P s)
    (hstep : ∀ s label s', t.step s label s' → P s → P s')
    {s : σ} (h : t.Reachable s) : P s := by
  obtain ⟨start, labels, hstart, hrun⟩ := h
  exact hrun.preserves hstep (hinit start hstart)

end Reachable

/-! ## Step functions -/

/-- The system of a step function, from the states and with the steps allowed. -/
def ofStep (init : σ → Prop) (allowed : σ → ι → Prop) (next? : σ → ι → Option σ) : System σ ι where
  init := init
  step s label s' := allowed s label ∧ next? s label = some s'

/-- The state after the labels, as long as each step passes the test where it
happens. -/
def play (next? : σ → ι → Option σ) (test : σ → ι → Bool) : List ι → σ → Option σ
  | [], s => some s
  | label :: labels, s =>
      if test s label then (next? s label).bind (play next? test labels) else none

theorem run_of_play {init : σ → Prop} {allowed : σ → ι → Prop} {next? : σ → ι → Option σ}
    {test : σ → ι → Bool} {labels : List ι} {s s' : σ}
    (htest : ∀ s, ∀ label ∈ labels, test s label = true → allowed s label)
    (h : play next? test labels s = some s') :
    (ofStep init allowed next?).Run s labels s' := by
  induction labels generalizing s with
  | nil =>
      cases h
      exact .nil _
  | cons label labels ih =>
      simp only [play] at h
      split at h
      · rename_i hpass
        obtain ⟨middle, hnext, hrest⟩ := Option.bind_eq_some_iff.mp h
        exact .cons ⟨htest s label List.mem_cons_self hpass, hnext⟩
          (ih (fun s label hmem => htest s label (List.mem_cons_of_mem _ hmem)) hrest)
      · cases h

theorem reachable_of_play {init : σ → Prop} {allowed : σ → ι → Prop} {next? : σ → ι → Option σ}
    {test : σ → ι → Bool} {labels : List ι} {s s' : σ}
    (htest : ∀ s, ∀ label ∈ labels, test s label = true → allowed s label) (hinit : init s)
    (h : play next? test labels s = some s') : (ofStep init allowed next?).Reachable s' :=
  ⟨s, labels, hinit, run_of_play htest h⟩

end System

end Lib
