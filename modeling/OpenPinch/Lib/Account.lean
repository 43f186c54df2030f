import Mathlib.Algebra.Group.Defs
import OpenPinch.Lib.Op

/-!
# What operations add to a log

A state has a log, of which the values add up.  `Accounts log p Q` says of an
operation what a run adds to it, by the outcome of the run.  The account of a
composition is put together from those of its parts.
-/

namespace Lib.Op

variable {ι σ ε α β ω : Type} [AddMonoid ω]

/-- A run from any state adds to the log, and `Q` relates its outcome to what it
adds. -/
def Accounts (log : σ → ω) (p : Op ι σ ε α) (Q : Except ε α → ω → Prop) : Prop :=
  ∀ s, ∃ added, log (Prog.eval p s).2 = log s + added ∧ Q (Prog.eval p s).1 added

variable {log : σ → ω} {p : Op ι σ ε α} {f : α → Op ι σ ε β} {Q : Except ε α → ω → Prop}
  {R : Except ε β → ω → Prop}

theorem accounts_pure {a : α} (h : Q (.ok a) 0) : Accounts log (Pure.pure a : Op ι σ ε α) Q :=
  fun s => ⟨0, (add_zero (log s)).symm, h⟩

/-- An operation that leaves the log. -/
theorem accounts_of_eq (h : ∀ s, log (Prog.eval p s).2 = log s) (hQ : ∀ r, Q r 0) :
    Accounts log p Q :=
  fun s => ⟨0, (h s).trans (add_zero (log s)).symm, hQ _⟩

namespace Accounts

theorem mono {Q' : Except ε α → ω → Prop} (h : Accounts log p Q)
    (hQ : ∀ r added, Q r added → Q' r added) : Accounts log p Q' := by
  intro s
  obtain ⟨added, hlog, hadded⟩ := h s
  exact ⟨added, hlog, hQ _ _ hadded⟩

/-- A composition adds what its parts add. -/
theorem bind (h : Accounts log p Q)
    (hok : ∀ a first, Q (.ok a) first → Accounts log (f a) fun r rest => R r (first + rest))
    (herror : ∀ e first, Q (.error e) first → R (.error e) first) :
    Accounts log (p >>= f : Op ι σ ε β) R := by
  intro s
  obtain ⟨first, hfirst, hQ⟩ := h s
  rw [eval_bind]
  cases hresult : (Prog.eval p s).1 with
  | error e =>
      rw [hresult] at hQ
      exact ⟨first, hfirst, herror e first hQ⟩
  | ok a =>
      rw [hresult] at hQ
      obtain ⟨rest, hrest, hR⟩ := hok a first hQ (Prog.eval p s).2
      exact ⟨first + rest, by rw [← add_assoc, ← hfirst]; exact hrest, hR⟩

/-- A composition after an operation that leaves the log. -/
theorem after_eq (hp : ∀ s, log (Prog.eval p s).2 = log s) (hok : ∀ a, Accounts log (f a) R)
    (herror : ∀ e, R (.error e) 0) : Accounts log (p >>= f : Op ι σ ε β) R := by
  refine bind (accounts_of_eq (Q := fun _ added => added = 0) hp fun _ => rfl) ?_ ?_
  · rintro a first rfl
    exact (hok a).mono fun r rest hrest => by rwa [zero_add]
  · rintro e first rfl
    exact herror e

end Accounts

end Lib.Op
