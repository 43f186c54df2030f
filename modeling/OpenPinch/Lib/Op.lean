import OpenPinch.Lib.Prog

/-!
# Programs that may fail

`Op` are the programs whose result is an error or a value, as a monad that stops
at the first error.  `stmt` performs a state computation as one action, and
`guarded` performs it while the mutex is held.  The rules say what sequential
composition and loops do to runs and keep of the two predicates of `Prog`.
-/

namespace Lib

/-- A program that fails with `ε` or returns `α`. -/
def Op (ι σ ε α : Type) : Type := Prog ι σ (Except ε α)

namespace Op

open Prog (Acts Follows Keeps)

variable {ι σ ε α β : Type}

/-- What a state computation ends with. -/
def result (m : EStateM ε σ α) (s : σ) : Except ε α :=
  match m s with
  | .ok a _ => .ok a
  | .error e _ => .error e

/-- The state it leaves. -/
def after (m : EStateM ε σ α) (s : σ) : σ :=
  match m s with
  | .ok _ s' => s'
  | .error _ s' => s'

/-- A composition leaves what its second part does, or its first part when it fails. -/
theorem after_bind (m : EStateM ε σ α) (f : α → EStateM ε σ β) (s : σ) :
    after (m >>= f) s = match m s with
      | .ok a s' => after (f a) s'
      | .error _ s' => s' := by
  show after (EStateM.bind m f) s = _
  unfold after EStateM.bind
  cases m s with
  | ok a s' => rfl
  | error e s' => rfl

def pure (a : α) : Op ι σ ε α := Prog.ret (.ok a)

def fail (e : ε) : Op ι σ ε α := Prog.ret (.error e)

/-- Goes on with the value, or stops at the error. -/
def proceed (f : α → Op ι σ ε β) : Except ε α → Prog ι σ (Except ε β)
  | .ok a => f a
  | .error e => Prog.ret (.error e)

def bind (p : Op ι σ ε α) (f : α → Op ι σ ε β) : Op ι σ ε β := Prog.bind p (Op.proceed f)

instance : Monad (Op ι σ ε) where
  pure := Op.pure
  bind := Op.bind

theorem proceed_pure : proceed Op.pure = (Prog.ret : Except ε α → Prog ι σ (Except ε α)) := by
  funext r
  cases r <;> rfl

theorem bind_assoc {γ : Type} (p : Op ι σ ε α) (f : α → Op ι σ ε β) (g : β → Op ι σ ε γ) :
    (p.bind f).bind g = p.bind fun a => (f a).bind g := by
  refine (Prog.bind_assoc _ _ _).trans (congrArg (Prog.bind p) (funext fun r => ?_))
  cases r <;> rfl

instance : LawfulMonad (Op ι σ ε) :=
  LawfulMonad.mk' _ (fun p => (congrArg (Prog.bind p) proceed_pure).trans (Prog.bind_ret p))
    (fun _ _ => rfl) bind_assoc

theorem eval_bind (p : Op ι σ ε α) (f : α → Op ι σ ε β) (s : σ) :
    Prog.eval (p >>= f : Op ι σ ε β) s =
      Prog.eval (proceed f (Prog.eval p s).1) (Prog.eval p s).2 :=
  Prog.eval_bind p (proceed f) s

/-- A composition goes on from where its first part returns. -/
theorem eval_bind_ok {p : Op ι σ ε α} {f : α → Op ι σ ε β} {s : σ} {a : α}
    (h : (Prog.eval p s).1 = .ok a) :
    Prog.eval (p >>= f : Op ι σ ε β) s = Prog.eval (f a) (Prog.eval p s).2 := by
  rw [eval_bind, h]
  rfl

/-- A composition returns when both parts do, with the state in between. -/
theorem eval_bind_eq_ok {p : Op ι σ ε α} {f : α → Op ι σ ε β} {s s' : σ} {b : β} :
    Prog.eval (p >>= f : Op ι σ ε β) s = (.ok b, s') ↔
      ∃ a middle, Prog.eval p s = (.ok a, middle) ∧ Prog.eval (f a) middle = (.ok b, s') := by
  rw [eval_bind]
  cases Prog.eval p s with
  | mk r middle =>
      cases r with
      | ok a => simp [proceed]
      | error e => simp [proceed]

/-- The actions of a composition whose first part returns. -/
theorem trace_bind_ok {p : Op ι σ ε α} {f : α → Op ι σ ε β} {s : σ} {a : α}
    (h : (Prog.eval p s).1 = .ok a) :
    Prog.trace (p >>= f : Op ι σ ε β) s =
      Prog.trace p s ++ Prog.trace (f a) (Prog.eval p s).2 := by
  refine (Prog.trace_bind p (proceed f) s).trans ?_
  rw [h]
  rfl

/-- A composition ends with the error of its first part, or goes on from its value. -/
theorem bind_cases (p : Op ι σ ε α) (f : α → Op ι σ ε β) (s : σ) :
    (∃ e, (Prog.eval p s).1 = .error e ∧ (Prog.eval (p >>= f : Op ι σ ε β) s).1 = .error e ∧
      Prog.trace (p >>= f : Op ι σ ε β) s = Prog.trace p s) ∨
    ∃ a, (Prog.eval p s).1 = .ok a ∧
      (Prog.eval (p >>= f : Op ι σ ε β) s).1 = (Prog.eval (f a) (Prog.eval p s).2).1 ∧
      Prog.trace (p >>= f : Op ι σ ε β) s =
        Prog.trace p s ++ Prog.trace (f a) (Prog.eval p s).2 := by
  cases hp : (Prog.eval p s).1 with
  | ok a => exact .inr ⟨a, rfl, by rw [eval_bind_ok hp], trace_bind_ok hp⟩
  | error e =>
      have htrace := Prog.trace_bind p (proceed f) s
      rw [hp] at htrace
      refine .inl ⟨e, rfl, ?_, htrace.trans (List.append_nil _)⟩
      rw [eval_bind, hp]
      rfl

/-- A composition returns when both parts do. -/
theorem bind_ok {p : Op ι σ ε α} {f : α → Op ι σ ε β} {s : σ} {b : β} :
    (Prog.eval (p >>= f : Op ι σ ε β) s).1 = .ok b ↔
      ∃ a, (Prog.eval p s).1 = .ok a ∧ (Prog.eval (f a) (Prog.eval p s).2).1 = .ok b := by
  rw [eval_bind]
  cases (Prog.eval p s).1 with
  | ok a => simp [proceed]
  | error e => simp [proceed]

/-- A state computation as one action. -/
def stmt (label : ι) (m : EStateM ε σ α) : Op ι σ ε α :=
  .act label (after m) fun s => .ret (result m s)

/-- An action returns what its computation does, and leaves its state. -/
theorem eval_stmt_ok {label : ι} {m : EStateM ε σ α} {s s' : σ} {a : α} :
    Prog.eval (stmt label m) s = (.ok a, s') ↔ m s = .ok a s' := by
  show (result m s, after m s) = _ ↔ _
  unfold result after
  cases m s with
  | ok a' s'' => simp
  | error e s'' => simp

/-- A state computation as one action under the mutex.  It is released on every
way out. -/
def guarded (label : ι) (m : EStateM ε σ α) : Op ι σ ε α :=
  .lock (.act label (after m) fun s => .unlock (.ret (result m s)))

/-- A state computation as one action under the mutex, and an operation that
starts before the mutex is released. -/
def holding (label : ι) (m : EStateM ε σ α) (f : α → Op ι σ ε β) : Op ι σ ε β :=
  .lock (.act label (after m) fun s =>
    Prog.bind (Op.proceed f (result m s)) fun r => .unlock (.ret r))

/-- The operations on the items of a list, in order, with their results. -/
def collect (f : α → Op ι σ ε β) : List α → Op ι σ ε (List β)
  | [] => Op.pure []
  | a :: as => do
      let b ← f a
      let bs ← collect f as
      return b :: bs

/-- The operations on the items of a list, in order. -/
def each (f : α → Op ι σ ε Unit) : List α → Op ι σ ε Unit
  | [] => Op.pure ()
  | a :: as => do
      f a
      each f as

/-! ## Properties of programs -/

/-- A property of programs that results have and sequential composition keeps. -/
structure Closed (C : (α : Type) → Op ι σ ε α → Prop) : Prop where
  pure : ∀ {α : Type} (a : α), C α (Pure.pure a)
  fail : ∀ {α : Type} (e : ε), C α (fail e)
  bind : ∀ {α β : Type} {p : Op ι σ ε α} {f : α → Op ι σ ε β},
    C α p → (∀ a, C β (f a)) → C β (p >>= f)

namespace Closed

variable {C : (α : Type) → Op ι σ ε α → Prop}

theorem collect_mem (h : Closed C) {f : α → Op ι σ ε β} {as : List α}
    (hf : ∀ a ∈ as, C β (f a)) : C (List β) (collect f as) := by
  induction as with
  | nil => exact h.pure []
  | cons a as ih =>
      have hrest := ih fun other hother => hf other (List.mem_cons_of_mem _ hother)
      exact h.bind (hf a List.mem_cons_self) fun b => h.bind hrest fun bs => h.pure (b :: bs)

theorem collect (h : Closed C) {f : α → Op ι σ ε β} (hf : ∀ a, C β (f a)) (as : List α) :
    C (List β) (collect f as) :=
  h.collect_mem fun a _ => hf a

theorem each (h : Closed C) {f : α → Op ι σ ε Unit} (hf : ∀ a, C Unit (f a)) (as : List α) :
    C Unit (each f as) := by
  induction as with
  | nil => exact h.pure ()
  | cons a as ih => exact h.bind (hf a) fun _ => ih

end Closed

/-- What runs maintain composes. -/
theorem closed_maintains (I : σ → Prop) :
    Closed fun α (p : Op ι σ ε α) => Prog.Maintains I p where
  pure _ := Prog.maintains_ret _
  fail _ := Prog.maintains_ret _
  bind hp hf := Prog.Maintains.bind hp fun r => by
    cases r with
    | ok a => exact hf a
    | error e => exact Prog.maintains_ret _

/-! ## Actions -/

section

variable {P : ι → (σ → σ) → Prop}

theorem acts_pure (a : α) : Acts P (Pure.pure a : Op ι σ ε α) := Acts.ret

theorem acts_fail (e : ε) : Acts P (fail e : Op ι σ ε α) := Acts.ret

theorem acts_stmt {label : ι} {m : EStateM ε σ α} (h : P label (after m)) :
    Acts P (stmt label m) :=
  .act h fun _ => .ret

theorem acts_bind {p : Op ι σ ε α} {f : α → Op ι σ ε β} (hp : Acts P p)
    (hf : ∀ a, Acts P (f a)) : Acts P (p >>= f : Op ι σ ε β) := by
  refine Acts.bind hp fun r => ?_
  cases r with
  | ok a => exact hf a
  | error e => exact .ret

theorem closed_acts (P : ι → (σ → σ) → Prop) : Closed fun α (p : Op ι σ ε α) => Acts P p where
  pure := acts_pure
  fail := acts_fail
  bind := acts_bind

theorem acts_ite {c : Prop} [Decidable c] {p q : Op ι σ ε α} (hp : c → Acts P p)
    (hq : ¬ c → Acts P q) : Acts P (if c then p else q : Op ι σ ε α) := by
  by_cases h : c
  · rw [if_pos h]
    exact hp h
  · rw [if_neg h]
    exact hq h

theorem acts_holding {label : ι} {m : EStateM ε σ α} {f : α → Op ι σ ε β}
    (h : P label (after m)) (hf : ∀ a, Acts P (f a)) : Acts P (holding label m f) := by
  refine .lock (.act h fun s => Acts.bind ?_ fun _ => .unlock .ret)
  cases result m s with
  | ok a => exact hf a
  | error e => exact .ret

end

/-! ## Automata -/

section

variable {κ : Type} {δ : κ → ι → σ → σ → κ → Prop} {a : κ}

theorem follows_stmt {label : ι} {m : EStateM ε σ α} {post : κ → α → Prop} (b : κ)
    (hallowed : ∀ s, δ a label s (after m s) b) (hpost : ∀ s x, result m s = .ok x → post b x) :
    Follows δ (fun b r => ∀ x, r = .ok x → post b x) a (stmt label m) :=
  .act (fun _ => b) hallowed fun s => .ret (hpost s)

theorem follows_bind {post : κ → α → Prop} {p : Op ι σ ε α} {f : α → Op ι σ ε β}
    (hp : Follows δ (fun b r => ∀ x, r = .ok x → post b x) a p)
    (hf : ∀ b x, post b x → Follows δ (fun _ _ => True) b (f x)) :
    Follows δ (fun _ _ => True) a (p >>= f : Op ι σ ε β) := by
  refine Follows.bind hp fun b r hr => ?_
  cases r with
  | ok x => exact hf b x (hr x rfl)
  | error e => exact .ret trivial

end

/-! ## The mutex -/

section

variable {P : ι → (σ → σ) → Prop} {held : Bool}

theorem keeps_pure (a : α) : Keeps P held held (Pure.pure a : Op ι σ ε α) := Keeps.ret

theorem keeps_fail (e : ε) : Keeps P held held (fail e : Op ι σ ε α) := Keeps.ret

theorem keeps_stmt {label : ι} {m : EStateM ε σ α} (h : P label (after m)) :
    Keeps P held held (stmt label m) :=
  .act h fun _ => .ret

theorem keeps_guarded {label : ι} {m : EStateM ε σ α} (h : P label (after m)) :
    Keeps P false false (guarded label m) :=
  .lock (.act h fun _ => .unlock .ret)

theorem keeps_bind {p : Op ι σ ε α} {f : α → Op ι σ ε β} (hp : Keeps P held held p)
    (hf : ∀ a, Keeps P held held (f a)) : Keeps P held held (p >>= f : Op ι σ ε β) := by
  refine Keeps.bind hp fun r => ?_
  cases r with
  | ok a => exact hf a
  | error e => exact .ret

theorem closed_keeps (P : ι → (σ → σ) → Prop) (held : Bool) :
    Closed fun α (p : Op ι σ ε α) => Keeps P held held p where
  pure := keeps_pure
  fail := keeps_fail
  bind := keeps_bind

/-- The second part of `holding` runs while the mutex is held. -/
theorem alone_holding (label : ι) (m : EStateM ε σ α) (f : α → Op ι σ ε β) (s : σ) :
    Prog.alone (holding label m f) false s =
      match result m s with
      | .ok a => (Prog.bind (f a) fun r => .unlock (.ret r)).alone true (after m s)
      | .error e => .done (.error e) false (after m s) := by
  show (Prog.bind (proceed f (result m s)) fun r => Prog.unlock (.ret r)).alone true _ = _
  cases result m s <;> rfl

end

end Op

end Lib
