import Mathlib.Algebra.Group.Nat.Defs
import Mathlib.Tactic.Common

/-!
# Admission by a counter

Work is admitted while a counter is below a limit, enters, and raises the counter
after that.  When it leaves, it lowers the counter.  The counter has 64 bits and
wraps around.  Between the check and the count it lags behind the work.

The work inside stays within the limit as long as nothing is admitted over other
work on its way without room for both (`Gauge.Bounded`).  The counter is exact as
long as nothing leaves before it is counted (`Gauge.Exact`).
-/

namespace Lib

/-- The counter, and the work by where it stands. -/
@[ext]
structure Gauge where
  depth : BitVec 64
  /-- Admitted and not inside yet. -/
  admitted : Nat
  /-- Inside and not counted yet. -/
  counting : Nat
  /-- Inside. -/
  unfinished : Nat

namespace Gauge

/-- What happens at the gate. -/
inductive Act where
  | rest
  | accept
  | abandon
  | enter
  | count
  | leave
  | reset
deriving DecidableEq

/-- The effect on the gauge. -/
inductive Step (limit : Nat) (g : Gauge) : Act → Gauge → Prop where
  | rest : Step limit g .rest g
  | accept (below : g.depth.toNat < limit) :
      Step limit g .accept { g with admitted := g.admitted + 1 }
  | abandon {n : Nat} (some : g.admitted = n + 1) : Step limit g .abandon { g with admitted := n }
  | enter {n : Nat} (some : g.admitted = n + 1) :
      Step limit g .enter
        { g with admitted := n, counting := g.counting + 1, unfinished := g.unfinished + 1 }
  | count {n : Nat} (some : g.counting = n + 1) :
      Step limit g .count { g with counting := n, depth := g.depth + 1 }
  | leave {n : Nat} (some : g.unfinished = n + 1) :
      Step limit g .leave { g with unfinished := n, depth := g.depth - 1 }
  | reset : Step limit g .reset ⟨0, 0, 0, 0⟩

theorem Step.below {limit : Nat} {g g' : Gauge} (h : Step limit g .accept g') :
    g.depth.toNat < limit := by
  cases h with
  | accept below => exact below

theorem toNat_raised (depth : BitVec 64) : (depth + 1).toNat = (depth.toNat + 1) % 2 ^ 64 :=
  BitVec.toNat_add depth 1

theorem toNat_lowered (depth : BitVec 64) :
    (depth - 1).toNat = (depth.toNat + (2 ^ 64 - 1)) % 2 ^ 64 := by
  rw [BitVec.toNat_sub, Nat.add_comm]
  rfl

/-- The counter agrees with the work, up to wrapping around. -/
def Agrees (g : Gauge) : Prop := (g.depth.toNat + g.counting) % 2 ^ 64 = g.unfinished % 2 ^ 64

theorem Agrees.step {limit : Nat} {g g' : Gauge} {act : Act} (h : Step limit g act g')
    (hg : g.Agrees) : g'.Agrees := by
  unfold Agrees at *
  cases h with
  | rest => exact hg
  | accept below => exact hg
  | abandon some => exact hg
  | enter some =>
      show (g.depth.toNat + (g.counting + 1)) % 2 ^ 64 = (g.unfinished + 1) % 2 ^ 64
      omega
  | @count n some =>
      show ((g.depth + 1).toNat + n) % 2 ^ 64 = g.unfinished % 2 ^ 64
      rw [toNat_raised]
      omega
  | @leave n some =>
      show ((g.depth - 1).toNat + g.counting) % 2 ^ 64 = n % 2 ^ 64
      rw [toNat_lowered]
      omega
  | reset => rfl

/-! ## The limit -/

/-- The work inside and on its way is within the limit. -/
structure Bounded (limit : Nat) (g : Gauge) : Prop where
  agrees : g.Agrees
  within : g.unfinished + g.admitted ≤ limit

/-- Admission with nothing on its way, or with room for what is. -/
def Roomy (limit : Nat) (g : Gauge) : Prop :=
  (g.admitted = 0 ∧ g.counting = 0) ∨ g.unfinished + g.admitted < limit

theorem Bounded.step {limit : Nat} {g g' : Gauge} {act : Act} (hlimit : limit < 2 ^ 64)
    (h : Step limit g act g') (hroom : act = .accept → g.Roomy limit) (hg : g.Bounded limit) :
    g'.Bounded limit := by
  refine ⟨hg.agrees.step h, ?_⟩
  have hwithin := hg.within
  cases h with
  | rest => exact hwithin
  | accept below =>
      show g.unfinished + (g.admitted + 1) ≤ limit
      rcases hroom rfl with ⟨hadmitted, hcounting⟩ | hroom
      · have hagrees : (g.depth.toNat + g.counting) % 2 ^ 64 = g.unfinished % 2 ^ 64 := hg.agrees
        omega
      · omega
  | @abandon n some =>
      show g.unfinished + n ≤ limit
      omega
  | @enter n some =>
      show g.unfinished + 1 + n ≤ limit
      omega
  | count some => exact hwithin
  | @leave n some =>
      show n + g.admitted ≤ limit
      omega
  | reset => exact Nat.zero_le limit

/-! ## The counter -/

/-- The counter is the number of those inside that are counted. -/
def Exact (g : Gauge) : Prop := g.depth.toNat + g.counting = g.unfinished

/-- Something leaves while more is inside than waits to be counted, and something
is counted while the counter has room for it. -/
def Orderly (g : Gauge) : Act → Prop
  | .leave => g.counting < g.unfinished
  | .count => g.unfinished < 2 ^ 64
  | _ => True

theorem Exact.step {limit : Nat} {g g' : Gauge} {act : Act} (h : Step limit g act g')
    (horder : g.Orderly act) (hg : g.Exact) : g'.Exact := by
  unfold Exact at *
  cases h with
  | rest => exact hg
  | accept below => exact hg
  | abandon some => exact hg
  | enter some =>
      show g.depth.toNat + (g.counting + 1) = g.unfinished + 1
      omega
  | @count n some =>
      have hfits : g.unfinished < 2 ^ 64 := horder
      show (g.depth + 1).toNat + n = g.unfinished
      rw [toNat_raised]
      omega
  | @leave n some =>
      have hcounted : g.counting < g.unfinished := horder
      show (g.depth - 1).toNat + g.counting = n
      rw [toNat_lowered]
      omega
  | reset => rfl

end Gauge

end Lib
