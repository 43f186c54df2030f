import OpenPinch.Lib.Wp

/-!
# Runs on the mutex

A run of one program on a mutex that is not reentrant ends with a result, or in
front of the mutex that the program itself holds.  `aloneTrace` are the labels of
its actions, and `Outcome.state` is the state that it leaves in either case.

`wpAlone` is the precondition of such runs for a postcondition of their outcomes.
A program `Waits` for itself when only actions of a kind make it hold the mutex for
good: a run without such actions is the undisturbed one.
-/

namespace Lib

variable {ι σ ε α β : Type}

namespace Prog

open Op (result after)

/-- The state that a run leaves. -/
def Outcome.state : Outcome σ α → σ
  | .done _ _ s => s
  | .deadlock s => s

/-- The mutex is held after the run. -/
def Outcome.held : Outcome σ α → Bool
  | .done _ held _ => held
  | .deadlock _ => true

/-- What follows a run that has ended. -/
def Outcome.bind (f : α → Bool → σ → Outcome σ β) : Outcome σ α → Outcome σ β
  | .done a held s => f a held s
  | .deadlock s => .deadlock s

/-- The labels of the actions of a run on the mutex. -/
def aloneTrace : Prog ι σ α → Bool → σ → List ι
  | ret _, _, _ => []
  | lock _, true, _ => []
  | lock p, false, s => p.aloneTrace true s
  | unlock p, _, s => p.aloneTrace false s
  | act e g k, held, s => e :: (k s).aloneTrace held (g s)

/-- A run that ends has the labels of the undisturbed one. -/
theorem aloneTrace_of_alone {p : Prog ι σ α} {held held' : Bool} {s s' : σ} {a : α}
    (h : p.alone held s = .done a held' s') : p.aloneTrace held s = p.trace s := by
  induction p generalizing held s with
  | ret b => rfl
  | lock p ih =>
      cases held with
      | true => cases h
      | false => exact ih h
  | unlock p ih => exact ih h
  | act e g k ih => exact congrArg (e :: ·) (ih s h)

theorem prefix_aloneTrace (p : Prog ι σ α) (held : Bool) (s : σ) :
    p.aloneTrace held s <+: p.trace s := by
  induction p generalizing held s with
  | ret b => exact List.prefix_rfl
  | lock p ih =>
      cases held with
      | true => exact List.nil_prefix
      | false => exact ih true s
  | unlock p ih => exact ih false s
  | act e g k ih => exact List.cons_prefix_cons.mpr ⟨rfl, ih s held (g s)⟩

theorem alone_bind (p : Prog ι σ α) (f : α → Prog ι σ β) (held : Bool) (s : σ) :
    (p.bind f).alone held s = (p.alone held s).bind fun a => (f a).alone := by
  induction p generalizing held s with
  | ret a => rfl
  | lock p ih =>
      cases held with
      | true => rfl
      | false => exact ih true s
  | unlock p ih => exact ih false s
  | act e g k ih => exact ih s held (g s)

theorem aloneTrace_bind_done {p : Prog ι σ α} {f : α → Prog ι σ β} {held held' : Bool}
    {s s' : σ} {a : α} (h : p.alone held s = .done a held' s') :
    (p.bind f).aloneTrace held s = p.aloneTrace held s ++ (f a).aloneTrace held' s' := by
  induction p generalizing held s with
  | ret b =>
      cases h
      rfl
  | lock p ih =>
      cases held with
      | true => cases h
      | false => exact ih h
  | unlock p ih => exact ih h
  | act e g k ih => exact congrArg (e :: ·) (ih s h)

theorem aloneTrace_bind_deadlock {p : Prog ι σ α} {f : α → Prog ι σ β} {held : Bool}
    {s s' : σ} (h : p.alone held s = .deadlock s') :
    (p.bind f).aloneTrace held s = p.aloneTrace held s := by
  induction p generalizing held s with
  | ret b => cases h
  | lock p ih =>
      cases held with
      | true => rfl
      | false => exact ih h
  | unlock p ih => exact ih h
  | act e g k ih => exact congrArg (e :: ·) (ih s h)

namespace Acts

variable {P : ι → (σ → σ) → Prop}

/-- A relation that the actions respect holds between the states before and after a
run on the mutex. -/
theorem alone {R : σ → σ → Prop} (hrefl : ∀ s, R s s)
    (htrans : ∀ s s' s'', R s s' → R s' s'' → R s s'') (hP : ∀ e g, P e g → ∀ s, R s (g s))
    {p : Prog ι σ α} (hp : Acts P p) (held : Bool) (s : σ) : R s (p.alone held s).state := by
  induction hp generalizing held s with
  | ret => exact hrefl s
  | lock _ ih =>
      cases held with
      | true => exact hrefl s
      | false => exact ih true s
  | unlock _ ih => exact ih false s
  | act here _ ih => exact htrans _ _ _ (hP _ _ here s) (ih s held _)

/-- What the allowed actions preserve is preserved by a run on the mutex. -/
theorem preserves_alone {I : σ → Prop} {L : ι → Prop}
    (hP : ∀ e g, P e g → L e → ∀ s, I s → I (g s)) {p : Prog ι σ α} (hp : Acts P p) {held : Bool}
    {s : σ} (hs : I s) (htrace : ∀ e ∈ p.aloneTrace held s, L e) :
    I (p.alone held s).state := by
  induction hp generalizing held s with
  | ret => exact hs
  | lock _ ih =>
      cases held with
      | true => exact hs
      | false => exact ih hs htrace
  | unlock _ ih => exact ih hs htrace
  | act here _ ih =>
      have hhere := hP _ _ here (htrace _ List.mem_cons_self) s hs
      exact ih s hhere fun e he => htrace e (List.mem_cons_of_mem _ he)

end Acts

/-! ## Programs that wait for themselves -/

/-- The run from a free mutex returns it, as the undisturbed run ends, or an action
with the property makes it wait for itself. -/
def Waits (L : ι → Prop) (p : Prog ι σ α) : Prop :=
  ∀ s, p.alone false s = .done (p.eval s).1 false (p.eval s).2 ∨
    (∃ s', p.alone false s = .deadlock s') ∧ ∃ e ∈ p.aloneTrace false s, L e

namespace Waits

variable {L : ι → Prop}

theorem of_keeps {P : ι → (σ → σ) → Prop} {p : Prog ι σ α} (hp : Keeps P false false p) :
    p.Waits L :=
  fun s => Or.inl (hp.alone s)

theorem bind {p : Prog ι σ α} {f : α → Prog ι σ β} (hp : p.Waits L) (hf : ∀ a, (f a).Waits L) :
    (p.bind f).Waits L := by
  intro s
  rw [alone_bind, eval_bind]
  rcases hp s with hdone | ⟨⟨s', hdeadlock⟩, e, he, hL⟩
  · rw [hdone, aloneTrace_bind_done hdone]
    rcases hf (p.eval s).1 (p.eval s).2 with hrest | ⟨hrest, e, he, hL⟩
    · exact Or.inl hrest
    · exact Or.inr ⟨hrest, e, List.mem_append_right _ he, hL⟩
  · rw [hdeadlock, aloneTrace_bind_deadlock hdeadlock]
    exact Or.inr ⟨⟨s', rfl⟩, e, he, hL⟩

/-- A run that ends has returned the mutex. -/
theorem free {p : Prog ι σ α} (hp : p.Waits L) {held : Bool} {s s' : σ} {a : α}
    (h : p.alone false s = .done a held s') : held = false := by
  rcases hp s with hdone | ⟨⟨_, hdeadlock⟩, -⟩
  · cases hdone.symm.trans h
    rfl
  · cases hdeadlock.symm.trans h

/-- Without such an action the run is the undisturbed one. -/
theorem returns {p : Prog ι σ α} (hp : p.Waits L) {s : σ} (h : ∀ e ∈ p.trace s, ¬ L e) :
    p.alone false s = .done (p.eval s).1 false (p.eval s).2 := by
  rcases hp s with hdone | ⟨-, e, he, hL⟩
  · exact hdone
  · exact absurd hL (h e ((prefix_aloneTrace p false s).subset he))

end Waits

end Prog

namespace Op

/-- What waits for itself composes. -/
theorem closed_waits (L : ι → Prop) : Closed fun α (p : Op ι σ ε α) => Prog.Waits L p where
  pure _ _ := Or.inl rfl
  fail _ _ := Or.inl rfl
  bind hp hf := Prog.Waits.bind hp fun r => by
    cases r with
    | ok a => exact hf a
    | error e => exact fun _ => Or.inl rfl

/-- What asks for the mutex while an action holds it waits for itself. -/
theorem waits_holding {L : ι → Prop} {label : ι} {m : EStateM ε σ α} {f : α → Op ι σ ε β}
    (hL : L label) (hf : ∀ a, ∃ p, f a = .lock p) : Prog.Waits L (holding label m f) := by
  intro s
  have hrun : Prog.alone (holding label m f) false s = _ := alone_holding label m f s
  cases hr : result m s with
  | ok a =>
      obtain ⟨p, hp⟩ := hf a
      have hstuck : Prog.alone (holding label m f) false s = .deadlock (after m s) := by
        refine hrun.trans ?_
        simp only [hr, hp]
        rfl
      exact Or.inr ⟨⟨_, hstuck⟩, label, List.mem_cons_self, hL⟩
  | error e =>
      have hdone : Prog.alone (holding label m f) false s =
          .done (.error e) false (after m s) := by
        refine hrun.trans ?_
        simp only [hr]
      have heval : Prog.eval (holding label m f) s = (.error e, after m s) :=
        Prog.eval_of_alone hdone
      refine Or.inl (hdone.trans ?_)
      rw [show Prog.eval (holding label m f) s = _ from heval]

end Op

/-! ## Preconditions -/

/-- The precondition of a run on the mutex for a postcondition of its labels and its
outcome. -/
def wpAlone (p : Prog ι σ α) (post : List ι → Prog.Outcome σ α → Prop) (labels : List ι)
    (held : Bool) (s : σ) : Prop :=
  post (labels ++ p.aloneTrace held s) (p.alone held s)

section

variable {held : Bool} {labels : List ι} {s : σ}

theorem wpAlone_mono {p : Prog ι σ α} {post post' : List ι → Prog.Outcome σ α → Prop}
    (h : wpAlone p post labels held s) (hpost : ∀ labels out, post labels out → post' labels out) :
    wpAlone p post' labels held s :=
  hpost _ _ h

/-- A program whose actions respect a relation and have labels with a property. -/
theorem wpAlone_of_acts {P : ι → (σ → σ) → Prop} {R : σ → σ → Prop} {Q : ι → Prop}
    (hrefl : ∀ s, R s s) (htrans : ∀ s s' s'', R s s' → R s' s'' → R s s'')
    (hP : ∀ e g, P e g → Q e ∧ ∀ s, R s (g s)) {p : Prog ι σ α} (hp : Prog.Acts P p)
    {post : List ι → Prog.Outcome σ α → Prop}
    (h : ∀ more out, (∀ e ∈ more, Q e) → R s out.state → post (labels ++ more) out) :
    wpAlone p post labels held s :=
  h _ _
    (fun e he => hp.trace (fun e g he => (hP e g he).1) s e
      ((Prog.prefix_aloneTrace p held s).subset he))
    (hp.alone hrefl htrans (fun e g he => (hP e g he).2) held s)

/-- A run that returns is the undisturbed one. -/
theorem wpAlone_of_returns {p : Prog ι σ α} {post : List ι → Prog.Outcome σ α → Prop}
    (hreturns : p.alone false s = .done (p.eval s).1 false (p.eval s).2)
    (h : wp p (fun labels a s' => post labels (.done a false s')) labels s) :
    wpAlone p post labels false s := by
  rw [wpAlone, Prog.aloneTrace_of_alone hreturns, hreturns]
  exact h

/-- The first part of a composition ends, and the second part runs, or it waits for
itself. -/
theorem wpAlone_bind {p : Prog ι σ α} {f : α → Prog ι σ β}
    {post : List ι → Prog.Outcome σ β → Prop}
    (hdone : ∀ a held' s', p.alone held s = .done a held' s' →
      wpAlone (f a) post (labels ++ p.aloneTrace held s) held' s')
    (hdeadlock : ∀ s', p.alone held s = .deadlock s' →
      post (labels ++ p.aloneTrace held s) (.deadlock s')) :
    wpAlone (p.bind f) post labels held s := by
  rw [wpAlone, Prog.alone_bind]
  cases hp : p.alone held s with
  | deadlock s' =>
      rw [Prog.aloneTrace_bind_deadlock hp]
      exact hdeadlock s' hp
  | done a held' s' =>
      rw [Prog.aloneTrace_bind_done hp, ← List.append_assoc]
      exact hdone a held' s' hp

namespace Op

/-- The first part of a composition ends with a value, which goes on to the second
part, or with the outcome of the composition. -/
def andThenAlone (f : α → Op ι σ ε β) (post : List ι → Prog.Outcome σ (Except ε β) → Prop)
    (labels : List ι) : Prog.Outcome σ (Except ε α) → Prop
  | .done (.ok a) held s => wpAlone (f a) post labels held s
  | .done (.error e) held s => post labels (.done (.error e) held s)
  | .deadlock s => post labels (.deadlock s)

theorem andThenAlone_ok {f : α → Op ι σ ε β} {post : List ι → Prog.Outcome σ (Except ε β) → Prop}
    {a : α} (h : wpAlone (f a) post labels held s) :
    andThenAlone f post labels (.done (.ok a) held s) :=
  h

theorem wpAlone_bind {p : Op ι σ ε α} {f : α → Op ι σ ε β}
    {post : List ι → Prog.Outcome σ (Except ε β) → Prop}
    (h : wpAlone p (andThenAlone f post) labels held s) :
    wpAlone (p >>= f : Op ι σ ε β) post labels held s := by
  unfold wpAlone at h
  refine Lib.wpAlone_bind (fun r held' s' hp => ?_) fun s' hp => ?_
  · rw [hp] at h
    cases r with
    | ok a => exact h
    | error e =>
        show post (_ ++ []) _
        rw [List.append_nil]
        exact h
  · rw [hp] at h
    exact h

/-- The first part returns. -/
theorem wpAlone_bind_of_returns {p : Op ι σ ε α} {f : α → Op ι σ ε β}
    {post : List ι → Prog.Outcome σ (Except ε β) → Prop}
    (hreturns : Prog.alone p false s = .done (Prog.eval p s).1 false (Prog.eval p s).2)
    (h : wp p (fun labels r s' => andThenAlone f post labels (.done r false s')) labels s) :
    wpAlone (p >>= f : Op ι σ ε β) post labels false s :=
  wpAlone_bind (Lib.wpAlone_of_returns hreturns h)

/-- The first part returns the mutex, or waits for itself. -/
theorem wpAlone_bind_of_waits {L : ι → Prop} {p : Op ι σ ε α} {f : α → Op ι σ ε β}
    {middle : List ι → Prog.Outcome σ (Except ε α) → Prop}
    {post : List ι → Prog.Outcome σ (Except ε β) → Prop}
    (hwaits : Prog.Waits L p) (h : wpAlone p middle labels false s)
    (hok : ∀ labels a s', middle labels (.done (.ok a) false s') →
      wpAlone (f a) post labels false s')
    (herror : ∀ labels e s', middle labels (.done (.error e) false s') →
      post labels (.done (.error e) false s'))
    (hdeadlock : ∀ labels s', middle labels (.deadlock s') → post labels (.deadlock s')) :
    wpAlone (p >>= f : Op ι σ ε β) post labels false s := by
  refine wpAlone_bind ?_
  unfold wpAlone at h ⊢
  cases hout : Prog.alone p false s with
  | deadlock s' =>
      rw [hout] at h
      exact hdeadlock _ s' h
  | done r held s' =>
      obtain rfl := hwaits.free hout
      rw [hout] at h
      cases r with
      | ok a => exact hok _ a s' h
      | error e => exact herror _ e s' h

end Op

end

end Lib
