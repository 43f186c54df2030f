import OpenPinch.Lib.Op

/-!
# Weakest preconditions

`wp p post` holds of the labels so far and a state when the undisturbed run of
`p` from there ends with labels, a result and a state that satisfy `post`.  The
rules take a program apart at its sequential compositions.
-/

namespace Lib

open Prog (Acts)

variable {ι σ ε α β : Type}

/-- The precondition of a program for a postcondition. -/
def wp (p : Prog ι σ α) (post : List ι → α → σ → Prop) (labels : List ι) (s : σ) : Prop :=
  post (labels ++ p.trace s) (p.eval s).1 (p.eval s).2

theorem wp_mono {p : Prog ι σ α} {post post' : List ι → α → σ → Prop} {labels : List ι} {s : σ}
    (h : wp p post labels s) (hpost : ∀ labels a s, post labels a s → post' labels a s) :
    wp p post' labels s :=
  hpost _ _ _ h

theorem wp_and {p : Prog ι σ α} {post post' : List ι → α → σ → Prop} {labels : List ι} {s : σ}
    (h : wp p post labels s) (h' : wp p post' labels s) :
    wp p (fun labels a s => post labels a s ∧ post' labels a s) labels s :=
  ⟨h, h'⟩

/-- The labels so far stay. -/
theorem wp_extends {p : Prog ι σ α} {post : List ι → α → σ → Prop} {labels : List ι} {s : σ}
    (h : wp p post labels s) :
    wp p (fun labels' a s => post labels' a s ∧ labels <+: labels') labels s :=
  ⟨h, List.prefix_append _ _⟩

/-- A run does not depend on the labels before it. -/
theorem wp_frame {p : Prog ι σ α} {post : List ι → α → σ → Prop} {labels : List ι} {s : σ}
    (h : wp p (fun more a s => post (labels ++ more) a s) [] s) : wp p post labels s :=
  h

/-- A postcondition of every end. -/
theorem wp_any {p : Prog ι σ α} {post : List ι → α → σ → Prop} {labels : List ι} {s : σ}
    (h : ∀ labels a s, post labels a s) : wp p post labels s :=
  h _ _ _

theorem wp_ret {a : α} {post : List ι → α → σ → Prop} {labels : List ι} {s : σ}
    (h : post labels a s) : wp (.ret a) post labels s := by
  show post (labels ++ []) a s
  rwa [List.append_nil]

theorem wp_lock {p : Prog ι σ α} {post : List ι → α → σ → Prop} {labels : List ι} {s : σ}
    (h : wp p post labels s) : wp (.lock p) post labels s :=
  h

theorem wp_unlock {p : Prog ι σ α} {post : List ι → α → σ → Prop} {labels : List ι} {s : σ}
    (h : wp p post labels s) : wp (.unlock p) post labels s :=
  h

theorem wp_act {e : ι} {g : σ → σ} {k : σ → Prog ι σ α} {post : List ι → α → σ → Prop}
    {labels : List ι} {s : σ} (h : wp (k s) post (labels ++ [e]) (g s)) :
    wp (.act e g k) post labels s := by
  show post (labels ++ e :: (k s).trace (g s)) ((k s).eval (g s)).1 ((k s).eval (g s)).2
  rw [List.append_cons]
  exact h

theorem wp_bind {p : Prog ι σ α} {f : α → Prog ι σ β} {post : List ι → β → σ → Prop}
    {labels : List ι} {s : σ}
    (h : wp p (fun labels a s => wp (f a) post labels s) labels s) :
    wp (p.bind f) post labels s := by
  show post (labels ++ (p.bind f).trace s) ((p.bind f).eval s).1 ((p.bind f).eval s).2
  rw [Prog.trace_bind, Prog.eval_bind, ← List.append_assoc]
  exact h

/-- A program whose actions respect a relation and have labels with a property. -/
theorem wp_of_acts {P : ι → (σ → σ) → Prop} {R : σ → σ → Prop} {Q : ι → Prop}
    (hrefl : ∀ s, R s s) (htrans : ∀ s s' s'', R s s' → R s' s'' → R s s'')
    (hP : ∀ e g, P e g → Q e ∧ ∀ s, R s (g s)) {p : Prog ι σ α} (hp : Acts P p)
    {post : List ι → α → σ → Prop} {labels : List ι} {s : σ}
    (h : ∀ more a s', (∀ e ∈ more, Q e) → R s s' → post (labels ++ more) a s') :
    wp p post labels s :=
  h _ _ _ (hp.trace (fun e g he => (hP e g he).1) s)
    (hp.eval hrefl htrans (fun e g he => (hP e g he).2) s)

namespace Op

theorem wp_pure {a : α} {post : List ι → Except ε α → σ → Prop} {labels : List ι} {s : σ}
    (h : post labels (.ok a) s) : wp (Pure.pure a : Op ι σ ε α) post labels s :=
  wp_ret h

theorem wp_fail {e : ε} {post : List ι → Except ε α → σ → Prop} {labels : List ι} {s : σ}
    (h : post labels (.error e) s) : wp (fail e : Op ι σ ε α) post labels s :=
  wp_ret h

theorem wp_stmt {label : ι} {m : EStateM ε σ α} {post : List ι → Except ε α → σ → Prop}
    {labels : List ι} {s : σ} (h : post (labels ++ [label]) (result m s) (after m s)) :
    wp (stmt label m) post labels s :=
  wp_act (wp_ret h)

theorem wp_guarded {label : ι} {m : EStateM ε σ α} {post : List ι → Except ε α → σ → Prop}
    {labels : List ι} {s : σ} (h : post (labels ++ [label]) (result m s) (after m s)) :
    wp (guarded label m) post labels s :=
  wp_lock (wp_act (wp_unlock (wp_ret h)))

/-- The postcondition of the first part of a composition: a value goes on to the
second part, an error is the result. -/
def andThen (f : α → Op ι σ ε β) (post : List ι → Except ε β → σ → Prop) (labels : List ι)
    (r : Except ε α) (s : σ) : Prop :=
  match r with
  | .ok a => wp (f a) post labels s
  | .error e => post labels (.error e) s

theorem andThen_ok {f : α → Op ι σ ε β} {post : List ι → Except ε β → σ → Prop}
    {labels : List ι} {a : α} {s : σ} (h : wp (f a) post labels s) :
    andThen f post labels (.ok a) s :=
  h

theorem wp_bind {p : Op ι σ ε α} {f : α → Op ι σ ε β} {post : List ι → Except ε β → σ → Prop}
    {labels : List ι} {s : σ} (h : wp p (andThen f post) labels s) :
    wp (p >>= f : Op ι σ ε β) post labels s := by
  refine Lib.wp_bind (wp_mono h fun labels r s hr => ?_)
  cases r with
  | ok a => exact hr
  | error e => exact wp_ret hr

/-! ## Results -/

/-- Runs from states with the property end in such states, and what they return
satisfies `Q`. -/
def Yields (I : σ → Prop) (p : Op ι σ ε α) (Q : α → Prop) : Prop :=
  ∀ s, I s → I (Prog.eval p s).2 ∧ ∀ a, (Prog.eval p s).1 = .ok a → Q a

section

variable {I : σ → Prop} {p : Op ι σ ε α} {Q : α → Prop}

theorem yields_pure {a : α} (h : Q a) : Yields I (Pure.pure a : Op ι σ ε α) Q := by
  intro s hs
  refine ⟨hs, fun b hb => ?_⟩
  cases hb
  exact h

theorem Yields.bind {f : α → Op ι σ ε β} {R : β → Prop} (hp : Yields I p Q)
    (hf : ∀ a, Q a → Yields I (f a) R) : Yields I (p >>= f : Op ι σ ε β) R := by
  intro s hs
  obtain ⟨hnext, hresult⟩ := hp s hs
  rw [eval_bind]
  cases hvalue : (Prog.eval p s).1 with
  | ok a => exact hf a (hresult a hvalue) _ hnext
  | error e => exact ⟨hnext, fun b hb => nomatch hb⟩

/-- Runs from states with one property end in states with another. -/
def Leads (I J : σ → Prop) (p : Op ι σ ε α) : Prop := ∀ s, I s → J (Prog.eval p s).2

/-- The second part leads there, and so does the end of the first. -/
theorem Yields.leads {f : α → Op ι σ ε β} {J : σ → Prop} (hp : Yields I p Q)
    (hI : ∀ s, I s → J s) (hf : ∀ a, Q a → Leads I J (f a)) :
    Leads I J (p >>= f : Op ι σ ε β) := by
  intro s hs
  obtain ⟨hnext, hresult⟩ := hp s hs
  rw [eval_bind]
  cases hvalue : (Prog.eval p s).1 with
  | ok a => exact hf a (hresult a hvalue) _ hnext
  | error e => exact hI _ hnext

/-- From where the first part leads, the second leads on. -/
theorem Leads.bind {f : α → Op ι σ ε β} {J : σ → Prop} (hp : Leads I J p)
    (hf : ∀ a, Leads J J (f a)) : Leads I J (p >>= f : Op ι σ ε β) := by
  intro s hs
  have hnext := hp s hs
  rw [eval_bind]
  cases (Prog.eval p s).1 with
  | ok a => exact hf a _ hnext
  | error e => exact hnext

/-- Nothing is known of the result. -/
theorem yields_of_maintains (h : Prog.Maintains I p) : Yields I p fun _ => True :=
  fun s hs => ⟨h s hs, fun _ _ => trivial⟩

end

/-! ## Runs that return -/

/-- A run from a state with the property that returns ends with a result and in a state
that satisfy `Q`. -/
def Returns (P : σ → Prop) (p : Op ι σ ε α) (Q : α → σ → Prop) : Prop :=
  ∀ s a, P s → (Prog.eval p s).1 = .ok a → Q a (Prog.eval p s).2

section

variable {P : σ → Prop} {p : Op ι σ ε α} {Q : α → σ → Prop} {R : β → σ → Prop}

theorem returns_pure {a : α} (h : ∀ s, P s → Q a s) :
    Returns P (Pure.pure a : Op ι σ ε α) Q := by
  intro s b hs hb
  cases hb
  exact h s hs

theorem returns_fail (e : ε) : Returns P (fail e : Op ι σ ε α) Q := fun _ _ _ h => nomatch h

theorem Returns.bind {f : α → Op ι σ ε β} (hp : Returns P p Q)
    (hf : ∀ a, Returns (Q a) (f a) R) : Returns P (p >>= f : Op ι σ ε β) R := by
  intro s b hs hb
  obtain ⟨a, ha, hb⟩ := bind_ok.mp hb
  rw [eval_bind_ok ha]
  exact hf a _ b (hp s a hs ha) hb

theorem Returns.mono {Q' : α → σ → Prop} (h : Returns P p Q) (hQ : ∀ a s, Q a s → Q' a s) :
    Returns P p Q' :=
  fun s a hs ha => hQ a _ (h s a hs ha)

theorem Returns.and {P' : σ → Prop} {Q' : α → σ → Prop} (h : Returns P p Q)
    (h' : Returns P' p Q') :
    Returns (fun s => P s ∧ P' s) p fun a s => Q a s ∧ Q' a s :=
  fun s a hs ha => ⟨h s a hs.1 ha, h' s a hs.2 ha⟩

/-- A fact about where a run starts. -/
theorem returns_of_fact {F : Prop} (h : F → Returns P p Q) : Returns (fun s => P s ∧ F) p Q :=
  fun s a hs ha => h hs.2 s a hs.1 ha

/-- What a run keeps whatever it returns. -/
theorem returns_of_maintains (h : Prog.Maintains P p) : Returns P p fun _ => P :=
  fun s _ hs _ => h s hs

end

end Op

end Lib
