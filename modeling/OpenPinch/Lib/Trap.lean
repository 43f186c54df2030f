import OpenPinch.Lib.Op
import OpenPinch.Lib.Pool

/-!
# Threads that wait for themselves

A program is `Careful` when it keeps the discipline of the mutex, but for actions
that trap it: after such an action it waits for the mutex, and it holds the mutex.

As long as no thread of a pool is trapped, one thread at most holds the mutex, and
can take its turn.  From then on the mutex is held for good.  So a pool where no
thread can take a turn has ended exactly when none was trapped (`ended_iff`).  Only
a crash frees the mutex, and what grows by such actions alone grows no more often
than the pool starts (`le_of_crashing`).
-/

namespace Lib

variable {γ ι σ α β : Type} {P : ι → (σ → σ) → Prop} {traps : ι → σ → σ → Prop}

/-! ## Careful programs -/

namespace Prog

/-- The program keeps the discipline of the mutex and ends without it, as long as
no action traps it.  Each action has the property. -/
inductive Careful (P : ι → (σ → σ) → Prop) (traps : ι → σ → σ → Prop) :
    Bool → Prog ι σ α → Prop where
  | ret {a : α} : Careful P traps false (.ret a)
  | lock {p : Prog ι σ α} (next : Careful P traps true p) : Careful P traps false (.lock p)
  | unlock {p : Prog ι σ α} (next : Careful P traps false p) : Careful P traps true (.unlock p)
  | act {held : Bool} {e : ι} {g : σ → σ} {k : σ → Prog ι σ α} (here : P e g)
      (trapped : ∀ s, traps e s (g s) → held = true ∧ ∃ p, k s = .lock p)
      (next : ∀ s, ¬ traps e s (g s) → Careful P traps held (k s)) :
      Careful P traps held (.act e g k)

namespace Careful

variable {held : Bool}

theorem bind {p : Prog ι σ α} {f : α → Prog ι σ β} (hp : Careful P traps held p)
    (hf : ∀ a, Careful P traps false (f a)) : Careful P traps held (p.bind f) := by
  induction hp with
  | ret => exact hf _
  | lock _ ih => exact .lock ih
  | unlock _ ih => exact .unlock ih
  | act here trapped _ ih =>
      refine .act here (fun s hs => ?_) fun s hs => ih s hs
      obtain ⟨hheld, q, hq⟩ := trapped s hs
      exact ⟨hheld, q.bind f, by rw [hq]; rfl⟩

/-- A program that keeps the discipline without exception is careful. -/
theorem of_keeps {p : Prog ι σ α} (hp : Keeps P false held p)
    (hP : ∀ e g, P e g → ∀ s, ¬ traps e s (g s)) : Careful P traps held p := by
  induction hp with
  | ret => exact .ret
  | lock _ ih => exact .lock ih
  | unlock _ ih => exact .unlock ih
  | act here _ ih => exact .act here (fun s hs => absurd hs (hP _ _ here s)) fun s _ => ih s

theorem mono {Q : ι → (σ → σ) → Prop} (hPQ : ∀ e g, P e g → Q e g) {p : Prog ι σ α}
    (hp : Careful P traps held p) : Careful Q traps held p := by
  induction hp with
  | ret => exact .ret
  | lock _ ih => exact .lock ih
  | unlock _ ih => exact .unlock ih
  | act here trapped _ ih => exact .act (hPQ _ _ here) trapped ih

/-- The step of a careful program, or of one that waits, is an action with the
property if it is one at all. -/
theorem next {p p' : Prog ι σ α} {locked locked' : Bool} {s s' : σ} {e : ι}
    (hp : Careful P traps held p ∨ ∃ q, p = .lock q)
    (h : p.next? locked s = some (some e, p', locked', s')) : ∃ g, P e g ∧ s' = g s := by
  cases p with
  | ret a => cases h
  | lock q => cases locked <;> cases h
  | unlock q => cases h
  | act e g k =>
      cases h
      rcases hp with hp | ⟨_, ⟨⟩⟩
      cases hp with
      | act here trapped next => exact ⟨g, here, rfl⟩

end Careful

end Prog

namespace Op

open Prog (Careful)

variable {ε : Type}

theorem closed_careful (P : ι → (σ → σ) → Prop) (traps : ι → σ → σ → Prop) :
    Closed fun α (p : Op ι σ ε α) => Careful P traps false p where
  pure _ := .ret
  fail _ := .ret
  bind hp hf := Careful.bind hp fun r => by
    cases r with
    | ok a => exact hf a
    | error e => exact .ret

end Op

/-! ## Pools -/

namespace Pool

open Prog (Careful)

variable {s s' : Pool ι σ}

/-- All threads have ended, and the mutex is free. -/
structure Ended (s : Pool ι σ) : Prop where
  free : s.locked = false
  threads : ∀ p ∈ s.threads, p = .ret ()

/-- No thread can take a turn. -/
def AtRest (s : Pool ι σ) : Prop := ∀ thread, s.next? thread = none

theorem atRest_iff :
    s.AtRest ↔ ∀ p ∈ s.threads, (p.next? s.locked s.shared).isNone = true := by
  constructor
  · intro h p hmem
    obtain ⟨thread, hp⟩ := List.getElem?_of_mem hmem
    have hnone := h thread
    rw [next?, hp, Option.map_eq_none_iff] at hnone
    rw [hnone]
    rfl
  · intro h thread
    rw [next?]
    cases hp : s.threads[thread]? with
    | none => rfl
    | some p =>
        exact Option.map_eq_none_iff.mpr (Option.isNone_iff_eq_none.mp
          (h p (List.mem_of_getElem? hp)))

instance : Decidable s.AtRest := decidable_of_iff' _ atRest_iff

/-- The move traps the thread that takes it. -/
def TrapsAt (traps : ι → σ → σ → Prop) (s : Pool ι σ) (move : Move γ ι) : Prop :=
  ∃ thread e s', move = .step thread (some e) ∧ s.next? thread = some (some e, s') ∧
    traps e s.shared s'.shared

/-- Nobody but the holder holds the mutex, and no thread is trapped. -/
structure Orderly (P : ι → (σ → σ) → Prop) (traps : ι → σ → σ → Prop) (holder : Option Nat)
    (s : Pool ι σ) : Prop where
  locked : s.locked = holder.isSome
  holds : ∀ thread, holder = some thread → thread < s.threads.length
  careful : ∀ thread p, s.threads[thread]? = some p →
    Careful P traps (decide (holder = some thread)) p

/-- A thread waits for the mutex, and no other thread will release it. -/
structure Stuck (P : ι → (σ → σ) → Prop) (traps : ι → σ → σ → Prop) (waiting : Nat)
    (s : Pool ι σ) : Prop where
  locked : s.locked = true
  waits : ∃ p, s.threads[waiting]? = some (.lock p)
  careful : ∀ thread p, thread ≠ waiting → s.threads[thread]? = some p →
    Careful P traps false p

theorem getElem?_spawn {p q : Prog ι σ Unit} {thread : Nat}
    (h : (s.spawn p).threads[thread]? = some q) : s.threads[thread]? = some q ∨ q = p := by
  simp only [spawn, List.getElem?_append] at h
  split at h
  · exact Or.inl h
  · obtain ⟨-, rfl⟩ : _ ∧ p = q := by simpa [List.getElem?_singleton] using h
    exact Or.inr rfl

namespace Orderly

variable {holder : Option Nat}

theorem spawn (h : s.Orderly P traps holder) {p : Prog ι σ Unit} (hp : Careful P traps false p) :
    (s.spawn p).Orderly P traps holder where
  locked := h.locked
  holds thread hthread := by
    have hlt := h.holds thread hthread
    simp only [Pool.spawn, List.length_append]
    omega
  careful thread q hq := by
    by_cases hlt : thread < s.threads.length
    · refine h.careful thread q ?_
      rwa [Pool.spawn, List.getElem?_append_left hlt] at hq
    · have hother : holder ≠ some thread := fun heq => hlt (h.holds thread heq)
      rcases getElem?_spawn hq with hold | rfl
      · exact h.careful thread q hold
      · rwa [decide_eq_false hother]

/-- What is left of the other threads. -/
theorem set {holder' : Option Nat} {thread : Nat} {p p' : Prog ι σ Unit} {locked : Bool}
    {shared : σ} (h : s.Orderly P traps holder) (hp : s.threads[thread]? = some p)
    (hlocked : locked = holder'.isSome)
    (hholder : ∀ other, other ≠ thread → (holder' = some other ↔ holder = some other))
    (hp' : Careful P traps (decide (holder' = some thread)) p') :
    (⟨locked, shared, s.threads.set thread p'⟩ : Pool ι σ).Orderly P traps holder' where
  locked := hlocked
  holds other hother := by
    rw [List.length_set]
    by_cases hsame : other = thread
    · subst hsame
      exact (List.getElem?_eq_some_iff.mp hp).1
    · exact h.holds other ((hholder other hsame).mp hother)
  careful other q hq := by
    by_cases hsame : other = thread
    · subst hsame
      obtain rfl : p' = q := by
        have hlt := (List.getElem?_eq_some_iff.mp hp).1
        simpa [hlt] using hq
      exact hp'
    · rw [List.getElem?_set_ne (Ne.symm hsame)] at hq
      rw [decide_eq_decide.mpr (hholder other hsame)]
      exact h.careful other q hq

/-- A turn traps its thread, or leaves the pool in order. -/
theorem next {thread : Nat} {event : Option ι} (h : s.Orderly P traps holder)
    (hnext : s.next? thread = some (event, s')) :
    (∃ e, event = some e ∧ traps e s.shared s'.shared ∧ s'.Stuck P traps thread) ∨
      (∀ e, event = some e → ¬ traps e s.shared s'.shared) ∧
        ∃ holder', s'.Orderly P traps holder' := by
  obtain ⟨p, p', locked, shared, hp, hrun, rfl⟩ := next?_eq_some.mp hnext
  have hcareful := h.careful thread p hp
  generalize hheld : decide (holder = some thread) = held at hcareful
  cases hcareful with
  | ret => cases hrun
  | lock hrest =>
      -- the thread takes the mutex, which nobody holds
      have hfree : s.locked = false := by
        cases hlocked : s.locked with
        | false => rfl
        | true =>
            rw [hlocked] at hrun
            cases hrun
      rw [hfree] at hrun
      cases hrun
      have hnone : holder = none := by
        rw [h.locked] at hfree
        exact Option.not_isSome_iff_eq_none.mp (Bool.not_eq_true _ ▸ hfree)
      refine Or.inr ⟨by rintro _ ⟨⟩, some thread, h.set hp rfl (fun other hother => ?_) ?_⟩
      · simp [hnone, Ne.symm hother]
      · rwa [decide_eq_true rfl]
  | unlock hrest =>
      cases hrun
      have hholder : holder = some thread := of_decide_eq_true hheld
      refine Or.inr ⟨by rintro _ ⟨⟩, none, h.set hp rfl (fun other hother => ?_) ?_⟩
      · simp [hholder, Ne.symm hother]
      · rwa [decide_eq_false (by simp)]
  | @act _ e g k here trapped hrest =>
      cases hrun
      by_cases htraps : traps e s.shared (g s.shared)
      · obtain ⟨hheld', q, hq⟩ := trapped s.shared htraps
        have hholder : holder = some thread := of_decide_eq_true (hheld.trans hheld')
        have hlt := (List.getElem?_eq_some_iff.mp hp).1
        refine Or.inl ⟨e, rfl, htraps, by rw [h.locked, hholder]; rfl, ⟨q, ?_⟩,
          fun other r hother hr => ?_⟩
        · simp [hlt, hq]
        · have hr' : s.threads[other]? = some r := by
            rwa [List.getElem?_set_ne (Ne.symm hother)] at hr
          have hcareful := h.careful other r hr'
          rwa [decide_eq_false (by simp [hholder, Ne.symm hother])] at hcareful
      · refine Or.inr ⟨by rintro _ ⟨⟩; exact htraps, holder, h.set hp h.locked
          (fun _ _ => Iff.rfl) ?_⟩
        rw [hheld]
        exact hrest s.shared htraps

/-- When no thread can take a turn, all have ended. -/
theorem ended (h : s.Orderly P traps holder) (hrest : s.AtRest) : s.Ended := by
  have hturn : ∀ p ∈ s.threads, p.next? s.locked s.shared = none := fun p hp =>
    Option.isNone_iff_eq_none.mp (atRest_iff.mp hrest p hp)
  -- the holder of the mutex can take a turn
  have hfree : s.locked = false := by
    cases hholder : holder with
    | none => rw [h.locked, hholder]; rfl
    | some thread =>
        obtain ⟨p, hp⟩ : ∃ p, s.threads[thread]? = some p :=
          ⟨_, List.getElem?_eq_getElem (h.holds thread hholder)⟩
        have hcareful := h.careful thread p hp
        rw [decide_eq_true hholder] at hcareful
        have hnone := hturn p (List.mem_of_getElem? hp)
        cases hcareful with
        | unlock hrest => cases hnone
        | act here trapped hrest => cases hnone
  refine ⟨hfree, fun p hmem => ?_⟩
  have hnone := hturn p hmem
  rw [hfree] at hnone
  cases p with
  | ret a => rfl
  | lock p => cases hnone
  | unlock p => cases hnone
  | act e g k => cases hnone

end Orderly

namespace Stuck

variable {waiting : Nat}

theorem spawn (h : s.Stuck P traps waiting) {p : Prog ι σ Unit} (hp : Careful P traps false p) :
    (s.spawn p).Stuck P traps waiting where
  locked := h.locked
  waits := by
    obtain ⟨q, hq⟩ := h.waits
    refine ⟨q, ?_⟩
    rw [Pool.spawn, List.getElem?_append_left (List.getElem?_eq_some_iff.mp hq).1, hq]
  careful thread q hother hq := by
    rcases getElem?_spawn hq with hold | rfl
    · exact h.careful thread q hother hold
    · exact hp

/-- The mutex is not released, and nobody else is trapped. -/
theorem next {thread : Nat} {event : Option ι} (h : s.Stuck P traps waiting)
    (hnext : s.next? thread = some (event, s')) :
    (∀ e, event = some e → ¬ traps e s.shared s'.shared) ∧ s'.Stuck P traps waiting := by
  obtain ⟨p, p', locked, shared, hp, hrun, rfl⟩ := next?_eq_some.mp hnext
  obtain ⟨q, hq⟩ := h.waits
  have hother : thread ≠ waiting := by
    rintro rfl
    obtain rfl : p = .lock q := Option.some.inj (hp.symm.trans hq)
    rw [h.locked] at hrun
    cases hrun
  have hcareful := h.careful thread p hother hp
  rw [h.locked] at hrun
  cases hcareful with
  | ret => cases hrun
  | lock hrest => cases hrun
  | @act _ e g k here trapped hrest =>
      cases hrun
      have htraps : ¬ traps e s.shared (g s.shared) := fun htraps =>
        absurd (trapped s.shared htraps).1 Bool.false_ne_true
      refine ⟨by rintro _ ⟨⟩; exact htraps, rfl, ⟨q, ?_⟩, fun other r hne hr => ?_⟩
      · rw [List.getElem?_set_ne hother, hq]
      · by_cases hsame : other = thread
        · subst hsame
          obtain rfl : k s.shared = r := by
            have hlt := (List.getElem?_eq_some_iff.mp hp).1
            simpa [hlt] using hr
          exact hrest s.shared htraps
        · rw [List.getElem?_set_ne (Ne.symm hsame)] at hr
          exact h.careful other r hne hr

theorem not_ended (h : s.Stuck P traps waiting) : ¬ s.Ended := fun hended =>
  Bool.false_ne_true (hended.free.symm.trans h.locked)

end Stuck

/-! ## Actions -/

/-- Each thread is careful or waits for the mutex. -/
def Behaved (P : ι → (σ → σ) → Prop) (traps : ι → σ → σ → Prop) (s : Pool ι σ) : Prop :=
  ∀ p ∈ s.threads, (∃ held, Careful P traps held p) ∨ ∃ q, p = .lock q

theorem Orderly.behaved {holder : Option Nat} (h : s.Orderly P traps holder) :
    s.Behaved P traps := by
  intro p hmem
  obtain ⟨thread, hp⟩ := List.getElem?_of_mem hmem
  exact Or.inl ⟨_, h.careful thread p hp⟩

theorem Stuck.behaved {waiting : Nat} (h : s.Stuck P traps waiting) : s.Behaved P traps := by
  intro p hmem
  obtain ⟨thread, hp⟩ := List.getElem?_of_mem hmem
  by_cases hsame : thread = waiting
  · subst hsame
    obtain ⟨q, hq⟩ := h.waits
    exact Or.inr ⟨q, Option.some.inj (hp.symm.trans hq)⟩
  · exact Or.inl ⟨false, h.careful thread p hsame hp⟩

theorem Behaved.next {thread : Nat} {e : ι} (h : s.Behaved P traps)
    (hnext : s.next? thread = some (some e, s')) : ∃ g, P e g ∧ s'.shared = g s.shared := by
  obtain ⟨p, p', locked, shared, hp, hrun, rfl⟩ := next?_eq_some.mp hnext
  rcases h p (List.mem_of_getElem? hp) with ⟨held, hcareful⟩ | hwaits
  · exact Careful.next (Or.inl hcareful) hrun
  · exact Careful.next (Or.inr hwaits : Careful P traps false p ∨ _) hrun

/-! ## Runs -/

section

variable {code : γ → Prog ι σ Unit} {init : σ → Prop}

/-- A turn of a pool whose threads are careful. -/
theorem Orderly.turn (hcode : ∀ call, Careful P traps false (code call)) {holder : Option Nat}
    {move : Move γ ι} (hstep : (system code init fun _ _ => True).step s move s')
    (h : s.Orderly P traps holder) :
    (s.TrapsAt traps move ∧ ∃ waiting, s'.Stuck P traps waiting) ∨
      ¬ s.TrapsAt traps move ∧ ∃ holder', s'.Orderly P traps holder' := by
  obtain ⟨-, hmove⟩ := hstep
  cases move with
  | start call =>
      cases hmove
      exact Or.inr ⟨by rintro ⟨_, _, _, ⟨⟩, -⟩, holder, h.spawn (hcode call)⟩
  | step thread event =>
      rcases h.next hmove with ⟨e, rfl, htraps, hstuck⟩ | ⟨hnot, horderly⟩
      · exact Or.inl ⟨⟨thread, e, s', rfl, hmove, htraps⟩, thread, hstuck⟩
      · refine Or.inr ⟨?_, horderly⟩
        rintro ⟨_, e, s'', ⟨⟩, hnext, htraps⟩
        obtain ⟨rfl⟩ : s' = s'' := by
          have := hmove.symm.trans hnext
          simpa using this
        exact hnot e rfl htraps

theorem Stuck.turn (hcode : ∀ call, Careful P traps false (code call)) {waiting : Nat}
    {move : Move γ ι} (hstep : (system code init fun _ _ => True).step s move s')
    (h : s.Stuck P traps waiting) : s'.Stuck P traps waiting := by
  obtain ⟨-, hmove⟩ := hstep
  cases move with
  | start call =>
      cases hmove
      exact h.spawn (hcode call)
  | step thread event => exact (h.next hmove).2

theorem Stuck.run (hcode : ∀ call, Careful P traps false (code call)) {waiting : Nat}
    {moves : List (Move γ ι)} (hrun : (system code init fun _ _ => True).Run s moves s')
    (h : s.Stuck P traps waiting) : s'.Stuck P traps waiting :=
  hrun.preserves (P := fun s => s.Stuck P traps waiting)
    (fun _ _ _ hstep hs => hs.turn hcode hstep) h

/-- A run that traps no thread leaves the pool in order, and one that does leaves
the thread that it traps first. -/
theorem Orderly.run (hcode : ∀ call, Careful P traps false (code call)) {holder : Option Nat}
    {moves : List (Move γ ι)} (hrun : (system code init fun _ _ => True).Run s moves s')
    (h : s.Orderly P traps holder) :
    ((system code init fun s move => ¬ s.TrapsAt traps move).Run s moves s' ∧
        ∃ holder', s'.Orderly P traps holder') ∨
      (¬ (system code init fun s move => ¬ s.TrapsAt traps move).Run s moves s') ∧
        ∃ waiting, s'.Stuck P traps waiting := by
  induction hrun generalizing holder with
  | nil s => exact Or.inl ⟨.nil s, holder, h⟩
  | @cons s middle s' move moves hstep hrest ih =>
      rcases h.turn hcode hstep with ⟨htraps, waiting, hstuck⟩ | ⟨hnot, holder', horderly⟩
      · refine Or.inr ⟨fun hspared => ?_, waiting, hstuck.run hcode hrest⟩
        cases hspared with
        | cons hallowed _ => exact hallowed.1 htraps
      · rcases ih horderly with ⟨hspared, hend⟩ | ⟨htrapped, hend⟩
        · exact Or.inl ⟨.cons ⟨hnot, hstep.2⟩ hspared, hend⟩
        · refine Or.inr ⟨fun hspared => htrapped ?_, hend⟩
          cases hspared with
          | @cons _ middle' _ _ _ hallowed hspared =>
              obtain rfl : middle = middle' := by
                have hmiddle := hstep.2
                have hmiddle' := hallowed.2
                cases move with
                | start call => exact hmiddle.trans hmiddle'.symm
                | step thread event =>
                    have heq := hmiddle.symm.trans hmiddle'
                    simpa using heq
              exact hspared

theorem orderly_of_empty (hlocked : s.locked = false) (hthreads : s.threads = []) :
    s.Orderly P traps none where
  locked := hlocked
  holds _ hthread := by cases hthread
  careful thread p hp := by simp [hthreads] at hp

/-- When no thread can take a turn, the pool has ended, or one of its threads was
trapped. -/
theorem ended_iff (hcode : ∀ call, Careful P traps false (code call))
    (hinit : (system code init fun _ _ => True).init s) {moves : List (Move γ ι)}
    (hrun : (system code init fun _ _ => True).Run s moves s') (hrest : s'.AtRest) :
    s'.Ended ↔ (system code init fun s move => ¬ s.TrapsAt traps move).Run s moves s' := by
  have horderly : s.Orderly P traps none := orderly_of_empty hinit.1 hinit.2.1
  rcases horderly.run hcode hrun with ⟨hspared, _, horderly⟩ | ⟨hnot, _, hstuck⟩
  · exact iff_of_true (horderly.ended hrest) hspared
  · exact iff_of_false hstuck.not_ended hnot

/-! ## Crashes -/

/-- The turn is a crash. -/
def Turn.isCrash : Turn γ ι → Bool
  | .crash => true
  | _ => false

/-- Only an action that traps its thread lets the measure grow, and by one. -/
def GrowsBy (traps : ι → σ → σ → Prop) (μ : σ → Nat) (e : ι) (g : σ → σ) : Prop :=
  ∀ s, μ (g s) ≤ μ s ∨ traps e s (g s) ∧ μ (g s) ≤ μ s + 1

variable {μ : σ → Nat}

theorem Behaved.le {move : Move γ ι} (h : s.Behaved (GrowsBy traps μ) traps)
    (hstep : (system code init fun _ _ => True).step s move s') :
    μ s'.shared ≤ μ s.shared ∨ s.TrapsAt traps move ∧ μ s'.shared ≤ μ s.shared + 1 := by
  obtain ⟨-, hmove⟩ := hstep
  cases move with
  | start call =>
      cases hmove
      exact Or.inl (Nat.le_refl _)
  | step thread event =>
      cases event with
      | none =>
          rw [shared_of_next hmove]
          exact Or.inl (Nat.le_refl _)
      | some e =>
          obtain ⟨g, hgrows, hg⟩ := h.next hmove
          rcases hgrows s.shared with hle | ⟨htraps, hle⟩
          · exact Or.inl (by rwa [hg])
          · exact Or.inr ⟨⟨thread, e, s', rfl, hmove, by rwa [hg]⟩, by rwa [hg]⟩

theorem Stuck.not_traps {waiting : Nat} {move : Move γ ι} (h : s.Stuck P traps waiting) :
    ¬ s.TrapsAt traps move := by
  rintro ⟨thread, e, s', rfl, hnext, htraps⟩
  exact (h.next hnext).1 e rfl htraps

/-- The measure grows once before the first crash, and once after each of them. -/
theorem le_of_crashing (hcode : ∀ call, Careful (GrowsBy traps μ) traps false (code call))
    (hinit : (crashing code init).init s) {turns : List (Turn γ ι)}
    (hrun : (crashing code init).Run s turns s') :
    μ s'.shared ≤ μ s.shared + turns.countP Turn.isCrash + 1 := by
  -- a pool in order has one step of growth left, and one with a trapped thread none
  have hbound : ∀ {s s' : Pool ι σ} {turns : List (Turn γ ι)}, (crashing code init).Run s turns s' →
      ((∃ holder, s.Orderly (GrowsBy traps μ) traps holder) →
        μ s'.shared ≤ μ s.shared + turns.countP Turn.isCrash + 1) ∧
      ((∃ waiting, s.Stuck (GrowsBy traps μ) traps waiting) →
        μ s'.shared ≤ μ s.shared + turns.countP Turn.isCrash) := by
    intro s s' turns hrun
    induction hrun with
    | nil s => exact ⟨fun _ => by simp, fun _ => by simp⟩
    | @cons s middle s' turn turns hstep _ ih =>
        cases turn with
        | crash =>
            cases hstep
            have hrest := ih.1 ⟨none, orderly_of_empty rfl rfl⟩
            simp only [List.countP_cons, Turn.isCrash, if_true] at hrest ⊢
            exact ⟨fun _ => by omega, fun _ => by omega⟩
        | move move =>
            have hmove : (system code init fun _ _ => True).step s move middle := hstep
            simp only [List.countP_cons, Turn.isCrash]
            constructor
            · rintro ⟨holder, horderly⟩
              have hle := horderly.behaved.le hmove
              rcases horderly.turn hcode hmove with ⟨-, hstuck⟩ | ⟨hnot, hnext⟩
              · have hrest := ih.2 hstuck
                omega
              · have hrest := ih.1 hnext
                have hle' := hle.resolve_right fun h => hnot h.1
                simp
                omega
            · rintro ⟨waiting, hstuck⟩
              have hle := hstuck.behaved.le hmove
              have hle' := hle.resolve_right fun h => hstuck.not_traps h.1
              have hrest := ih.2 ⟨waiting, hstuck.turn hcode hmove⟩
              simp
              omega
  exact (hbound hrun).1 ⟨none, orderly_of_empty hinit.1 hinit.2.1⟩

end

end Pool

end Lib
