import OpenPinch.Lib.Prog
import OpenPinch.Lib.Transition

/-!
# Pools of threads

Threads are programs that share a mutex and a state.  Calls start new threads at
any time, and any thread takes the next step.  `Pool.play` runs a schedule.

`Pool.Follow` says that each thread follows an automaton, from a state that the
thread is marked with.
-/

namespace Lib

/-- Threads, the state they share and whether one of them holds the mutex. -/
structure Pool (ι σ : Type) where
  locked : Bool
  shared : σ
  threads : List (Prog ι σ Unit)

/-- What happens in a pool: a call starts, or a thread takes a step. -/
inductive Move (γ ι : Type) where
  | start (call : γ)
  | step (thread : Nat) (event : Option ι)
deriving DecidableEq

/-- The label of a move, if it has one, passes the test. -/
def Move.passes {γ ι : Type} (test : ι → Bool) : Move γ ι → Bool
  | .step _ (some e) => test e
  | _ => true

namespace Pool

variable {γ ι σ : Type}

/-- A thread for a call. -/
def spawn (s : Pool ι σ) (p : Prog ι σ Unit) : Pool ι σ :=
  { s with threads := s.threads ++ [p] }

/-- The step of a thread, with its label if it is an action.  Nothing when the
thread has ended or waits for the mutex. -/
def next? (s : Pool ι σ) (thread : Nat) : Option (Option ι × Pool ι σ) :=
  match s.threads[thread]? with
  | some p => (p.next? s.locked s.shared).map fun (event, p', locked, shared) =>
      (event, ⟨locked, shared, s.threads.set thread p'⟩)
  | none => none

/-- The pools of the calls of a program, in all interleavings.  Each move is
allowed where it happens. -/
def system (code : γ → Prog ι σ Unit) (init : σ → Prop) (allowed : Pool ι σ → Move γ ι → Prop) :
    System (Pool ι σ) (Move γ ι) where
  init s := s.locked = false ∧ s.threads = [] ∧ init s.shared
  step s move s' := allowed s move ∧
    match move with
    | .start call => s' = s.spawn (code call)
    | .step thread event => s.next? thread = some (event, s')

theorem next?_eq_some {s s' : Pool ι σ} {thread : Nat} {event : Option ι} :
    s.next? thread = some (event, s') ↔
      ∃ p p' locked shared, s.threads[thread]? = some p ∧
        p.next? s.locked s.shared = some (event, p', locked, shared) ∧
          s' = ⟨locked, shared, s.threads.set thread p'⟩ := by
  simp only [Pool.next?]
  cases hp : s.threads[thread]? with
  | none => simp
  | some p =>
      constructor
      · intro h
        obtain ⟨⟨event', p', locked, shared⟩, hrun, heq⟩ := Option.map_eq_some_iff.mp h
        cases heq
        exact ⟨p, p', locked, shared, rfl, hrun, rfl⟩
      · rintro ⟨q, p', locked, shared, hq, hrun, rfl⟩
        cases hq
        exact Option.map_eq_some_iff.mpr ⟨_, hrun, rfl⟩

/-! ## Schedules -/

/-- The moves and the pool of a schedule, which starts calls and names threads.
Nothing when a thread cannot take its turn. -/
def play (code : γ → Prog ι σ Unit) : List (γ ⊕ Nat) → Pool ι σ →
    Option (List (Move γ ι) × Pool ι σ)
  | [], s => some ([], s)
  | .inl call :: turns, s => (play code turns (s.spawn (code call))).map
      fun (moves, s') => (.start call :: moves, s')
  | .inr thread :: turns, s =>
      match s.next? thread with
      | some (event, s') => (play code turns s').map
          fun (moves, s'') => (.step thread event :: moves, s'')
      | none => none

theorem run_of_play {code : γ → Prog ι σ Unit} {init : σ → Prop}
    {allowed : Pool ι σ → Move γ ι → Prop} {turns : List (γ ⊕ Nat)} {s s' : Pool ι σ}
    {moves : List (Move γ ι)} (h : play code turns s = some (moves, s'))
    (hallowed : ∀ s, ∀ move ∈ moves, allowed s move) :
    (system code init allowed).Run s moves s' := by
  induction turns generalizing s moves with
  | nil =>
      cases h
      exact .nil _
  | cons turn turns ih =>
      cases turn with
      | inl call =>
          obtain ⟨⟨rest, s''⟩, hplay, heq⟩ := Option.map_eq_some_iff.mp h
          cases heq
          exact .cons ⟨hallowed s _ List.mem_cons_self, rfl⟩
            (ih hplay fun s move hmove => hallowed s move (List.mem_cons_of_mem _ hmove))
      | inr thread =>
          simp only [play] at h
          cases hnext : s.next? thread with
          | none => simp [hnext] at h
          | some found =>
              obtain ⟨event, s₁⟩ := found
              rw [hnext] at h
              obtain ⟨⟨rest, s''⟩, hplay, heq⟩ := Option.map_eq_some_iff.mp h
              cases heq
              exact .cons ⟨hallowed s _ List.mem_cons_self, hnext⟩
                (ih hplay fun s move hmove => hallowed s move (List.mem_cons_of_mem _ hmove))

/-- The same, as long as each move passes the test, with the pools before and after it. -/
def playWhile (code : γ → Prog ι σ Unit) (test : Pool ι σ → Move γ ι → Pool ι σ → Bool) :
    List (γ ⊕ Nat) → Pool ι σ → Option (List (Move γ ι) × Pool ι σ)
  | [], s => some ([], s)
  | .inl call :: turns, s =>
      if test s (.start call) (s.spawn (code call)) then
        (playWhile code test turns (s.spawn (code call))).map
          fun (moves, s') => (.start call :: moves, s')
      else none
  | .inr thread :: turns, s =>
      match s.next? thread with
      | some (event, s') =>
          if test s (.step thread event) s' then
            (playWhile code test turns s').map
              fun (moves, s'') => (.step thread event :: moves, s'')
          else none
      | none => none

/-- Turns that pass the test are allowed where an invariant of the pools holds. -/
theorem run_of_playWhile {code : γ → Prog ι σ Unit} {init : σ → Prop}
    {test : Pool ι σ → Move γ ι → Pool ι σ → Bool} {allowed : Pool ι σ → Move γ ι → Prop}
    {I : Pool ι σ → Prop} {turns : List (γ ⊕ Nat)} {s s' : Pool ι σ} {moves : List (Move γ ι)}
    (h : playWhile code test turns s = some (moves, s')) (hs : I s)
    (hmove : ∀ s move s', I s → (system code init fun _ _ => True).step s move s' →
      test s move s' = true → allowed s move ∧ I s') :
    (system code init allowed).Run s moves s' := by
  induction turns generalizing s moves with
  | nil =>
      cases h
      exact .nil _
  | cons turn turns ih =>
      cases turn with
      | inl call =>
          simp only [playWhile] at h
          split at h
          · rename_i htest
            obtain ⟨⟨rest, s''⟩, hplay, heq⟩ := Option.map_eq_some_iff.mp h
            cases heq
            obtain ⟨hallowed, hnext⟩ := hmove s (.start call) _ hs ⟨trivial, rfl⟩ htest
            exact .cons ⟨hallowed, rfl⟩ (ih hplay hnext)
          · cases h
      | inr thread =>
          simp only [playWhile] at h
          cases hstep : s.next? thread with
          | none => simp [hstep] at h
          | some found =>
              obtain ⟨event, s₁⟩ := found
              simp only [hstep] at h
              split at h
              · rename_i htest
                obtain ⟨⟨rest, s''⟩, hplay, heq⟩ := Option.map_eq_some_iff.mp h
                cases heq
                obtain ⟨hallowed, hnext⟩ :=
                  hmove s (.step thread event) s₁ hs ⟨trivial, hstep⟩ htest
                exact .cons ⟨hallowed, hstep⟩ (ih hplay hnext)
              · cases h

/-! ## Actions -/

section

variable {P : ι → (σ → σ) → Prop} {s s' : Pool ι σ}

/-- Each action that the threads have left has the property. -/
def ActAll (P : ι → (σ → σ) → Prop) (s : Pool ι σ) : Prop := ∀ p ∈ s.threads, Prog.Acts P p

theorem ActAll.spawn (h : s.ActAll P) {p : Prog ι σ Unit} (hp : Prog.Acts P p) :
    (s.spawn p).ActAll P := by
  intro q hq
  rcases List.mem_append.mp hq with hold | hnew
  · exact h q hold
  · rw [List.mem_singleton.mp hnew]
    exact hp

/-- The step of a thread is an action with the property, or it changes nothing. -/
theorem ActAll.next {thread : Nat} {event : Option ι} (h : s.ActAll P)
    (hnext : s.next? thread = some (event, s')) :
    s'.ActAll P ∧ (s'.shared = s.shared ∨ ∃ e g k, s.threads[thread]? = some (.act e g k) ∧
      P e g ∧ s'.shared = g s.shared) := by
  obtain ⟨p, p', locked, shared, hp, hrun, rfl⟩ := next?_eq_some.mp hnext
  obtain ⟨hrest, hstep⟩ := (h p (List.mem_of_getElem? hp)).next hrun
  refine ⟨fun q hq => ?_, ?_⟩
  · rcases List.mem_or_eq_of_mem_set hq with hold | rfl
    · exact h q hold
    · exact hrest
  · rcases hstep with hsame | ⟨e, g, k, rfl, hPe, hg⟩
    · exact Or.inl hsame
    · exact Or.inr ⟨e, g, k, hp, hPe, hg⟩

end

/-! ## Automata -/

variable {κ : Type} {δ : κ → ι → σ → σ → κ → Prop} {mark mark' : Nat → κ → Prop}

/-- Each thread follows the automaton from a state it is marked with. -/
def Follow (δ : κ → ι → σ → σ → κ → Prop) (mark : Nat → κ → Prop) (s : Pool ι σ) : Prop :=
  ∀ thread p, s.threads[thread]? = some p →
    ∃ a, mark thread a ∧ Prog.Follows δ (fun _ _ => True) a p

theorem Follow.mono {s : Pool ι σ} (h : s.Follow δ mark)
    (hmark : ∀ thread a, mark thread a → mark' thread a) : s.Follow δ mark' := by
  intro thread p hp
  obtain ⟨a, ha, hfollows⟩ := h thread p hp
  exact ⟨a, hmark thread a ha, hfollows⟩

theorem Follow.spawn {s : Pool ι σ} {p : Prog ι σ Unit} {a : κ} (h : s.Follow δ mark)
    (hmark : ∀ thread, mark thread a) (hp : Prog.Follows δ (fun _ _ => True) a p) :
    (s.spawn p).Follow δ mark := by
  intro thread q hq
  simp only [Pool.spawn, List.getElem?_append] at hq
  split at hq
  · exact h thread q hq
  · obtain ⟨-, rfl⟩ : _ ∧ p = q := by simpa [List.getElem?_singleton] using hq
    exact ⟨a, hmark thread, hp⟩

/-- An action of a thread is one that the automaton allows in a state the thread
is marked with. -/
theorem Follow.allows {s s' : Pool ι σ} {thread : Nat} {e : ι} (h : s.Follow δ mark)
    (hnext : s.next? thread = some (some e, s')) :
    ∃ a b, mark thread a ∧ δ a e s.shared s'.shared b := by
  obtain ⟨p, p', locked, shared, hp, hrun, rfl⟩ := next?_eq_some.mp hnext
  obtain ⟨a, hmark, hfollows⟩ := h thread p hp
  rcases hfollows.next hrun with ⟨hnone, -, -⟩ | ⟨e', b, hsome, hδ, -⟩
  · cases hnone
  · cases hsome
    exact ⟨a, b, hmark, hδ⟩

/-- After the step of a thread all threads follow the automaton again, from
states they are marked with then. -/
theorem Follow.next {s s' : Pool ι σ} {thread : Nat} {event : Option ι} (h : s.Follow δ mark)
    (hnext : s.next? thread = some (event, s')) (hmark : ∀ other a, mark other a → mark' other a)
    (hstep : ∀ e a b, event = some e → mark thread a → δ a e s.shared s'.shared b →
      mark' thread b) : s'.Follow δ mark' := by
  obtain ⟨p, p', locked, shared, hp, hrun, rfl⟩ := next?_eq_some.mp hnext
  obtain ⟨a, ha, hfollows⟩ := h thread p hp
  intro other q hq
  by_cases hother : thread = other
  · subst hother
    obtain rfl : p' = q := by
      have hlt := (List.getElem?_eq_some_iff.mp hp).1
      simpa [hlt] using hq
    rcases hfollows.next hrun with ⟨-, -, hrest⟩ | ⟨e, b, hsome, hδ, hrest⟩
    · exact ⟨a, hmark thread a ha, hrest⟩
    · exact ⟨b, hstep e a b hsome ha hδ, hrest⟩
  · rw [List.getElem?_set_ne hother] at hq
    obtain ⟨c, hc, hrest⟩ := h other q hq
    exact ⟨c, hmark other c hc, hrest⟩

/-- A step that is no action leaves the shared state. -/
theorem shared_of_next {s s' : Pool ι σ} {thread : Nat} (h : s.next? thread = some (none, s')) :
    s'.shared = s.shared := by
  obtain ⟨p, p', locked, shared, -, hrun, rfl⟩ := next?_eq_some.mp h
  cases p with
  | ret a => cases hrun
  | lock p =>
      cases hlocked : s.locked with
      | true =>
          rw [hlocked] at hrun
          cases hrun
      | false =>
          rw [hlocked] at hrun
          cases hrun
          rfl
  | unlock p =>
      cases hrun
      rfl
  | act e g k => cases hrun

/-- What the actions of the calls preserve, where moves are allowed, holds of the
state that the threads share. -/
theorem invariant_of_acts {code : γ → Prog ι σ Unit} {init : σ → Prop}
    {allowed : Pool ι σ → Move γ ι → Prop} {P : ι → (σ → σ) → Prop} {I sound : σ → Prop}
    (hcode : ∀ call, Prog.Acts P (code call)) (hinit : ∀ s, init s → I s)
    (hallowed : ∀ s move, allowed s move → sound s.shared)
    (hP : ∀ e g, P e g → ∀ s, sound s → I s → I (g s)) {s : Pool ι σ}
    (h : (system code init allowed).Reachable s) : I s.shared := by
  let δ (_ : Unit) (e : ι) (s s' : σ) (_ : Unit) : Prop := ∃ g, P e g ∧ s' = g s
  refine (h.invariant (P := fun s => I s.shared ∧ s.Follow δ fun _ _ => True) ?_ ?_).1
  · rintro s ⟨-, hthreads, hshared⟩
    refine ⟨hinit s.shared hshared, fun thread p hp => ?_⟩
    simp [hthreads] at hp
  · rintro s move s' ⟨hmove, hstep⟩ ⟨hI, hfollow⟩
    cases move with
    | start call =>
        cases hstep
        have hcall : Prog.Follows δ (fun _ _ => True) () (code call) :=
          (Prog.Acts.follows (fun e g hPe s => ⟨g, hPe, rfl⟩) (hcode call)).mono
            fun _ _ _ => trivial
        exact ⟨hI, hfollow.spawn (fun _ => trivial) hcall⟩
    | step thread event =>
        refine ⟨?_, hfollow.next hstep (fun _ _ => id) fun _ _ _ _ _ _ => trivial⟩
        cases event with
        | none =>
            rw [shared_of_next hstep]
            exact hI
        | some e =>
            obtain ⟨_, _, -, g, hPe, hg⟩ := hfollow.allows hstep
            rw [hg]
            exact hP e g hPe s.shared (hallowed s _ hmove) hI

/-! ## Pools that stop and start again -/

/-- What happens where the threads may be lost: a move, or a crash. -/
inductive Turn (γ ι : Type) where
  | move (move : Move γ ι)
  | crash
deriving DecidableEq

/-- The pools of the calls of a program, in all interleavings and with crashes.  A
crash loses the threads and frees the mutex, and the state they shared stays. -/
def crashing (code : γ → Prog ι σ Unit) (init : σ → Prop) : System (Pool ι σ) (Turn γ ι) where
  init s := s.locked = false ∧ s.threads = [] ∧ init s.shared
  step s turn s' :=
    match turn with
    | .move move => (system code init fun _ _ => True).step s move s'
    | .crash => s' = ⟨false, s.shared, []⟩

section

variable {code : γ → Prog ι σ Unit} {init : σ → Prop} {P : ι → (σ → σ) → Prop}
  {R : σ → σ → Prop} {s s' : Pool ι σ}

theorem crashing_of_run {moves : List (Move γ ι)}
    (h : (system code init fun _ _ => True).Run s moves s') :
    (crashing code init).Run s (moves.map .move) s' := by
  induction h with
  | nil s => exact .nil s
  | cons hstep _ ih => exact .cons hstep ih

/-- A turn leaves actions with the property, and is one of them or changes nothing. -/
theorem ActAll.turn (hcode : ∀ call, Prog.Acts P (code call)) {turn : Turn γ ι}
    (hstep : (crashing code init).step s turn s') (hs : s.ActAll P) :
    s'.ActAll P ∧ (s'.shared = s.shared ∨ ∃ e g, P e g ∧ s'.shared = g s.shared) := by
  cases turn with
  | crash =>
      cases hstep
      exact ⟨fun p hp => absurd hp List.not_mem_nil, Or.inl rfl⟩
  | move move =>
      obtain ⟨-, hmove⟩ := hstep
      cases move with
      | start call =>
          cases hmove
          exact ⟨hs.spawn (hcode call), Or.inl rfl⟩
      | step thread event =>
          obtain ⟨hrest, hsame | ⟨e, g, k, -, hPe, hg⟩⟩ := hs.next hmove
          · exact ⟨hrest, Or.inl hsame⟩
          · exact ⟨hrest, Or.inr ⟨e, g, hPe, hg⟩⟩

theorem ActAll.reachable (hcode : ∀ call, Prog.Acts P (code call))
    (h : (crashing code init).Reachable s) : s.ActAll P := by
  refine h.invariant (fun s hinit p hp => ?_) fun s turn s' hstep hs => (hs.turn hcode hstep).1
  rw [hinit.2.1] at hp
  exact absurd hp List.not_mem_nil

/-- A reflexive and transitive relation that the actions of the calls respect holds
between the shared states at any two moments of a run. -/
theorem related_of_acts (hcode : ∀ call, Prog.Acts P (code call)) (hrefl : ∀ s, R s s)
    (htrans : ∀ s s' s'', R s s' → R s' s'' → R s s'') (hP : ∀ e g, P e g → ∀ s, R s (g s))
    (h : (crashing code init).Reachable s) {turns : List (Turn γ ι)}
    (hrun : (crashing code init).Run s turns s') : R s.shared s'.shared := by
  have hacts := ActAll.reachable hcode h
  clear h
  induction hrun with
  | nil s => exact hrefl s.shared
  | @cons s middle s' turn turns hstep _ ih =>
      obtain ⟨hrest, hsame | ⟨e, g, hPe, hg⟩⟩ := hacts.turn hcode hstep
      · rw [← hsame]
        exact ih hrest
      · refine htrans _ _ _ ?_ (ih hrest)
        rw [hg]
        exact hP e g hPe s.shared

end

end Pool

end Lib
