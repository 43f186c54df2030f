import Mathlib.Tactic.Common

/-!
# Programs that share a mutex

A program acquires and releases one mutex and acts on a shared state.  An action
has a label, changes the state at once, and hands the state it found to the rest
of the program.

`eval` and `trace` are what a program computes and does when nothing interferes
and the mutex is ignored.  `alone` runs it on a mutex that is not reentrant.
`next?` is one step of one of several programs over the same state.

Three predicates are about all runs at once, whatever other programs do to the
state in between.  `Acts` says that every action has a property, `Keeps` also
that the program never acquires the mutex twice and gives it back.  `Follows`
says that an automaton allows the actions in their order.  `Observed` are the
label sequences of such runs.
-/

namespace Lib

/-- Programs over a state `σ` with actions labelled by `ι` and a result in `α`. -/
inductive Prog (ι σ α : Type) : Type where
  | ret (result : α)
  | lock (next : Prog ι σ α)
  | unlock (next : Prog ι σ α)
  | act (label : ι) (effect : σ → σ) (next : σ → Prog ι σ α)

namespace Prog

variable {ι σ α β : Type}

/-- Sequential composition. -/
def bind : Prog ι σ α → (α → Prog ι σ β) → Prog ι σ β
  | ret a, f => f a
  | lock p, f => lock (p.bind f)
  | unlock p, f => unlock (p.bind f)
  | act e g k, f => act e g fun s => (k s).bind f

theorem bind_assoc {γ : Type} (p : Prog ι σ α) (f : α → Prog ι σ β) (g : β → Prog ι σ γ) :
    (p.bind f).bind g = p.bind fun a => (f a).bind g := by
  induction p with
  | ret a => rfl
  | lock p ih => exact congrArg lock ih
  | unlock p ih => exact congrArg unlock ih
  | act e effect k ih => exact congrArg (act e effect) (funext ih)

/-- A program that returns what another one returns is that one. -/
theorem bind_ret (p : Prog ι σ α) : p.bind ret = p := by
  induction p with
  | ret a => rfl
  | lock p ih => exact congrArg lock ih
  | unlock p ih => exact congrArg unlock ih
  | act e effect k ih => exact congrArg (act e effect) (funext ih)

/-! ## Undisturbed runs -/

/-- The result and the state after a run. -/
def eval : Prog ι σ α → σ → α × σ
  | ret a, s => (a, s)
  | lock p, s => p.eval s
  | unlock p, s => p.eval s
  | act _ g k, s => (k s).eval (g s)

/-- The labels of the actions of a run. -/
def trace : Prog ι σ α → σ → List ι
  | ret _, _ => []
  | lock p, s => p.trace s
  | unlock p, s => p.trace s
  | act e g k, s => e :: (k s).trace (g s)

@[simp] theorem eval_ret (a : α) (s : σ) : (ret a : Prog ι σ α).eval s = (a, s) := rfl

@[simp] theorem trace_ret (a : α) (s : σ) : (ret a : Prog ι σ α).trace s = [] := rfl

theorem eval_bind (p : Prog ι σ α) (f : α → Prog ι σ β) (s : σ) :
    (p.bind f).eval s = (f (p.eval s).1).eval (p.eval s).2 := by
  induction p generalizing s with
  | ret a => rfl
  | lock p ih => exact ih s
  | unlock p ih => exact ih s
  | act e g k ih => exact ih s (g s)

theorem trace_bind (p : Prog ι σ α) (f : α → Prog ι σ β) (s : σ) :
    (p.bind f).trace s = p.trace s ++ (f (p.eval s).1).trace (p.eval s).2 := by
  induction p generalizing s with
  | ret a => rfl
  | lock p ih => exact ih s
  | unlock p ih => exact ih s
  | act e g k ih => exact congrArg (e :: ·) (ih s (g s))

/-! ## Actions -/

/-- Each action of the program has the property. -/
inductive Acts (P : ι → (σ → σ) → Prop) : Prog ι σ α → Prop where
  | ret {a : α} : Acts P (.ret a)
  | lock {p : Prog ι σ α} (next : Acts P p) : Acts P (.lock p)
  | unlock {p : Prog ι σ α} (next : Acts P p) : Acts P (.unlock p)
  | act {e : ι} {g : σ → σ} {k : σ → Prog ι σ α} (here : P e g) (next : ∀ s, Acts P (k s)) :
      Acts P (.act e g k)

namespace Acts

variable {P Q : ι → (σ → σ) → Prop}

theorem bind {p : Prog ι σ α} {f : α → Prog ι σ β} (hp : Acts P p) (hf : ∀ a, Acts P (f a)) :
    Acts P (p.bind f) := by
  induction hp with
  | ret => exact hf _
  | lock _ ih => exact .lock ih
  | unlock _ ih => exact .unlock ih
  | act here _ ih => exact .act here ih

theorem mono (hPQ : ∀ e g, P e g → Q e g) {p : Prog ι σ α} (hp : Acts P p) : Acts Q p := by
  induction hp with
  | ret => exact .ret
  | lock _ ih => exact .lock ih
  | unlock _ ih => exact .unlock ih
  | act here _ ih => exact .act (hPQ _ _ here) ih

/-- A reflexive and transitive relation that the actions respect holds between
the states before and after a run. -/
theorem eval {R : σ → σ → Prop} (hrefl : ∀ s, R s s)
    (htrans : ∀ s s' s'', R s s' → R s' s'' → R s s'') (hP : ∀ e g, P e g → ∀ s, R s (g s))
    {p : Prog ι σ α} (hp : Acts P p) (s : σ) : R s (p.eval s).2 := by
  induction hp generalizing s with
  | ret => exact hrefl s
  | lock _ ih => exact ih s
  | unlock _ ih => exact ih s
  | act here _ ih => exact htrans _ _ _ (hP _ _ here s) (ih s _)

/-- A property of labels that the actions have holds of the labels of a run. -/
theorem trace {L : ι → Prop} (hP : ∀ e g, P e g → L e) {p : Prog ι σ α} (hp : Acts P p)
    (s : σ) : ∀ e ∈ p.trace s, L e := by
  induction hp generalizing s with
  | ret => exact fun e he => absurd he List.not_mem_nil
  | lock _ ih => exact ih s
  | unlock _ ih => exact ih s
  | act here _ ih =>
      intro e' he'
      rcases List.mem_cons.mp he' with rfl | he'
      · exact hP _ _ here
      · exact ih s _ e' he'

/-- What the allowed actions preserve is preserved by a run with allowed labels. -/
theorem preserves {I : σ → Prop} {L : ι → Prop} (hP : ∀ e g, P e g → L e → ∀ s, I s → I (g s))
    {p : Prog ι σ α} (hp : Acts P p) {s : σ} (hs : I s) (htrace : ∀ e ∈ p.trace s, L e) :
    I (p.eval s).2 := by
  induction hp generalizing s with
  | ret => exact hs
  | lock _ ih => exact ih hs htrace
  | unlock _ ih => exact ih hs htrace
  | act here _ ih =>
      have hhere := hP _ _ here (htrace _ List.mem_cons_self) s hs
      exact ih s hhere fun e he => htrace e (List.mem_cons_of_mem _ he)

end Acts

/-! ## Invariants of runs -/

/-- An undisturbed run from a state with the property ends in one. -/
def Maintains (I : σ → Prop) (p : Prog ι σ α) : Prop := ∀ s, I s → I (p.eval s).2

section

variable {I : σ → Prop}

theorem maintains_ret (a : α) : Maintains I (ret a : Prog ι σ α) := fun _ => id

theorem Maintains.bind {p : Prog ι σ α} {f : α → Prog ι σ β} (hp : Maintains I p)
    (hf : ∀ a, Maintains I (f a)) : Maintains I (p.bind f) := by
  intro s hs
  rw [eval_bind]
  exact hf _ _ (hp s hs)

/-- What each action preserves is preserved by a run. -/
theorem Acts.maintains {p : Prog ι σ α} (hp : Acts (fun _ g => ∀ s, I s → I (g s)) p) :
    Maintains I p :=
  hp.eval (R := fun s s' => I s → I s') (fun _ => id) (fun _ _ _ h h' hs => h' (h hs))
    fun _ _ h => h

end

/-! ## The mutex -/

/-- How a run on the mutex ends. -/
inductive Outcome (σ α : Type) : Type where
  /-- The run ends with a result, and holds the mutex or not. -/
  | done (result : α) (held : Bool) (s : σ)
  /-- The run waits for a mutex it holds itself. -/
  | deadlock (s : σ)
deriving DecidableEq

/-- The run on a mutex that is not reentrant, from a state where the program
holds it or nobody does. -/
def alone : Prog ι σ α → Bool → σ → Outcome σ α
  | ret a, held, s => .done a held s
  | lock _, true, s => .deadlock s
  | lock p, false, s => p.alone true s
  | unlock p, _, s => p.alone false s
  | act _ g k, held, s => (k s).alone held (g s)

/-- What a run on the mutex ends with is what the program computes. -/
theorem eval_of_alone {p : Prog ι σ α} {held held' : Bool} {s s' : σ} {a : α}
    (h : p.alone held s = .done a held' s') : p.eval s = (a, s') := by
  induction p generalizing held s with
  | ret b =>
      cases h
      rfl
  | lock p ih =>
      cases held with
      | true => cases h
      | false => exact ih h
  | unlock p ih => exact ih h
  | act e g k ih => exact ih s h

/-- The program never acquires the mutex while it holds it, never releases it
otherwise, ends holding it or not as `final` says, and each of its actions has
the property. -/
inductive Keeps (P : ι → (σ → σ) → Prop) (final : Bool) : Bool → Prog ι σ α → Prop where
  | ret {a : α} : Keeps P final final (.ret a)
  | lock {p : Prog ι σ α} (next : Keeps P final true p) : Keeps P final false (.lock p)
  | unlock {p : Prog ι σ α} (next : Keeps P final false p) : Keeps P final true (.unlock p)
  | act {held : Bool} {e : ι} {g : σ → σ} {k : σ → Prog ι σ α} (here : P e g)
      (next : ∀ s, Keeps P final held (k s)) : Keeps P final held (.act e g k)

namespace Keeps

variable {P Q : ι → (σ → σ) → Prop} {held middle final : Bool}

theorem bind {p : Prog ι σ α} {f : α → Prog ι σ β} (hp : Keeps P middle held p)
    (hf : ∀ a, Keeps P final middle (f a)) : Keeps P final held (p.bind f) := by
  induction hp with
  | ret => exact hf _
  | lock _ ih => exact .lock ih
  | unlock _ ih => exact .unlock ih
  | act here _ ih => exact .act here ih

theorem mono (hPQ : ∀ e g, P e g → Q e g) {p : Prog ι σ α} (hp : Keeps P final held p) :
    Keeps Q final held p := by
  induction hp with
  | ret => exact .ret
  | lock _ ih => exact .lock ih
  | unlock _ ih => exact .unlock ih
  | act here _ ih => exact .act (hPQ _ _ here) ih

theorem acts {p : Prog ι σ α} (hp : Keeps P final held p) : Acts P p := by
  induction hp with
  | ret => exact .ret
  | lock _ ih => exact .lock ih
  | unlock _ ih => exact .unlock ih
  | act here _ ih => exact .act here ih

/-- A run of such a program does not deadlock, whatever the state. -/
theorem alone {p : Prog ι σ α} (hp : Keeps P final held p) (s : σ) :
    p.alone held s = .done (p.eval s).1 final (p.eval s).2 := by
  induction hp generalizing s with
  | ret => rfl
  | lock _ ih => exact ih s
  | unlock _ ih => exact ih s
  | act _ _ ih => exact ih s _

end Keeps

/-! ## Interleaved steps -/

/-- One step of a program: its label if it is an action, the rest of the program,
whether the mutex is held, and the state.  Nothing at the end of the program, and
while it waits for the mutex. -/
def next? : Prog ι σ α → Bool → σ → Option (Option ι × Prog ι σ α × Bool × σ)
  | ret _, _, _ => none
  | lock _, true, _ => none
  | lock p, false, s => some (none, p, true, s)
  | unlock p, _, s => some (none, p, false, s)
  | act e g k, held, s => some (some e, k s, held, g s)

/-- What a step leaves of a program acts like it, and the step is an action with
the property or changes nothing. -/
theorem Acts.next {P : ι → (σ → σ) → Prop} {p p' : Prog ι σ α} {held held' : Bool} {s s' : σ}
    {label : Option ι} (hp : Acts P p) (h : p.next? held s = some (label, p', held', s')) :
    Acts P p' ∧ (s' = s ∨ ∃ e g k, p = .act e g k ∧ P e g ∧ s' = g s) := by
  cases hp with
  | ret => cases h
  | lock next =>
      cases held with
      | true => cases h
      | false =>
          cases h
          exact ⟨next, Or.inl rfl⟩
  | unlock next =>
      cases h
      exact ⟨next, Or.inl rfl⟩
  | act here next =>
      cases h
      exact ⟨next s, Or.inr ⟨_, _, _, rfl, here, rfl⟩⟩

/-- From a state of the automaton, each action of the program is one that the
automaton allows, and `post` relates its last state to the result.  The
automaton sees the label and the shared state before and after the action. -/
inductive Follows {κ : Type} (δ : κ → ι → σ → σ → κ → Prop) (post : κ → α → Prop) :
    κ → Prog ι σ α → Prop where
  | ret {a : κ} {r : α} (last : post a r) : Follows δ post a (.ret r)
  | lock {a : κ} {p : Prog ι σ α} (next : Follows δ post a p) : Follows δ post a (.lock p)
  | unlock {a : κ} {p : Prog ι σ α} (next : Follows δ post a p) : Follows δ post a (.unlock p)
  | act {a : κ} {e : ι} {g : σ → σ} {k : σ → Prog ι σ α} (b : σ → κ)
      (allowed : ∀ s, δ a e s (g s) (b s)) (next : ∀ s, Follows δ post (b s) (k s)) :
      Follows δ post a (.act e g k)

variable {κ : Type} {δ : κ → ι → σ → σ → κ → Prop}

theorem Follows.bind {middle : κ → α → Prop} {post : κ → β → Prop} {a : κ} {p : Prog ι σ α}
    {f : α → Prog ι σ β} (hp : Follows δ middle a p)
    (hf : ∀ b r, middle b r → Follows δ post b (f r)) : Follows δ post a (p.bind f) := by
  induction hp with
  | ret last => exact hf _ _ last
  | lock _ ih => exact .lock ih
  | unlock _ ih => exact .unlock ih
  | act b allowed _ ih => exact .act b allowed ih

theorem Follows.mono {post post' : κ → α → Prop} (hpost : ∀ b r, post b r → post' b r) {a : κ}
    {p : Prog ι σ α} (hp : Follows δ post a p) : Follows δ post' a p := by
  induction hp with
  | ret last => exact .ret (hpost _ _ last)
  | lock _ ih => exact .lock ih
  | unlock _ ih => exact .unlock ih
  | act b allowed _ ih => exact .act b allowed ih

/-- A run of a program, finished or not, with the labels of its actions.  Each
action finds some state, whatever other programs do in between. -/
inductive Observed : Prog ι σ α → List ι → Option α → Prop where
  | stop (p : Prog ι σ α) : Observed p [] none
  | ret (a : α) : Observed (.ret a) [] (some a)
  | lock {p : Prog ι σ α} {es : List ι} {r : Option α} (next : Observed p es r) :
      Observed (.lock p) es r
  | unlock {p : Prog ι σ α} {es : List ι} {r : Option α} (next : Observed p es r) :
      Observed (.unlock p) es r
  | act {e : ι} {g : σ → σ} {k : σ → Prog ι σ α} {es : List ι} {r : Option α} (s : σ)
      (next : Observed (k s) es r) : Observed (.act e g k) (e :: es) r

theorem Observed.of_trace (p : Prog ι σ α) (s : σ) :
    p.Observed (p.trace s) (some (p.eval s).1) := by
  induction p generalizing s with
  | ret a => exact .ret a
  | lock p ih => exact .lock (ih s)
  | unlock p ih => exact .unlock (ih s)
  | act e g k ih => exact .act s (ih s (g s))

/-- A program that follows a monitor of labels meets the monitor's condition at
every action of a run. -/
theorem Follows.observed {next : κ → ι → κ} {ok : κ → ι → Prop} {post : κ → α → Prop} {a : κ}
    {p : Prog ι σ α} {es : List ι} {r : Option α}
    (hp : Follows (fun a e _ _ b => ok a e ∧ b = next a e) post a p) (h : p.Observed es r)
    {before after : List ι} {e : ι} (hat : es = before ++ e :: after) :
    ok (before.foldl next a) e := by
  induction h generalizing a before with
  | stop p => simp at hat
  | ret r => simp at hat
  | lock _ ih =>
      cases hp with
      | lock hrest => exact ih hrest hat
  | unlock _ ih =>
      cases hp with
      | unlock hrest => exact ih hrest hat
  | act s _ ih =>
      cases hp with
      | act b allowed hrest =>
          cases before with
          | nil =>
              cases hat
              exact (allowed s).1
          | cons first before =>
              cases hat
              have hb := (allowed s).2
              rw [List.foldl_cons, ← hb]
              exact ih (hrest s) rfl

/-- Actions that the automaton lets pass in a state do not leave it. -/
theorem Acts.follows {P : ι → (σ → σ) → Prop} {a : κ} (hP : ∀ e g, P e g → ∀ s, δ a e s (g s) a)
    {p : Prog ι σ α} (hp : Acts P p) : Follows δ (fun b _ => b = a) a p := by
  induction hp with
  | ret => exact .ret rfl
  | lock _ ih => exact .lock ih
  | unlock _ ih => exact .unlock ih
  | act here _ ih => exact .act (fun _ => a) (hP _ _ here) ih

/-- After a step the program follows the automaton from the state the action
leads to. -/
theorem Follows.next {post : κ → α → Prop} {a : κ} {p p' : Prog ι σ α} {held held' : Bool}
    {s s' : σ} {label : Option ι} (hp : Follows δ post a p)
    (h : p.next? held s = some (label, p', held', s')) :
    (label = none ∧ s' = s ∧ Follows δ post a p') ∨
      ∃ e b, label = some e ∧ δ a e s s' b ∧ Follows δ post b p' := by
  cases hp with
  | ret last => cases h
  | lock next =>
      cases held with
      | true => cases h
      | false =>
          cases h
          exact Or.inl ⟨rfl, rfl, next⟩
  | unlock next =>
      cases h
      exact Or.inl ⟨rfl, rfl, next⟩
  | act b allowed next =>
      cases h
      exact Or.inr ⟨_, b s, rfl, allowed s, next s⟩

end Prog

end Lib
