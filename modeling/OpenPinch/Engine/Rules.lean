import OpenPinch.Engine.World
import OpenPinch.Lib.Wp

/-!
# Rules for the operations

What the building blocks of `EngineOp` do to the world.  `Stmt.Respects` says
that a statement relates the tables before and after it.  An action is `Aside`
when it leaves conversations, caches and providers alone and nobody can tell it.
-/

namespace OpenPinch

open Lib (Op wp)
open Lib.Prog (Acts Keeps Maintains)
open Lib.Op (after result)

/-! ## Statements -/

namespace Stmt

variable {τ α β : Type} {R : τ → τ → Prop}

/-- The statement relates the tables before and after it, also when it fails. -/
def Respects (R : τ → τ → Prop) (m : Stmt τ α) : Prop := ∀ s, R s.2 (after m s).2

theorem respects_of_keeps (hrefl : ∀ t, R t t) {m : Stmt τ α} (h : ∀ s, (after m s).2 = s.2) :
    Respects R m := by
  intro s
  rw [h s]
  exact hrefl s.2

theorem respects_pure (hrefl : ∀ t, R t t) (a : α) : Respects R (Pure.pure a : Stmt τ α) :=
  respects_of_keeps hrefl fun _ => rfl

theorem respects_fail (hrefl : ∀ t, R t t) (message : String) :
    Respects R (fail message : Stmt τ α) :=
  respects_of_keeps hrefl fun _ => rfl

theorem respects_ofExcept (hrefl : ∀ t, R t t) (r : Except String α) :
    Respects R (ofExcept r : Stmt τ α) := by
  cases r with
  | ok a => exact respects_pure hrefl a
  | error message => exact respects_fail hrefl message

theorem respects_now (hrefl : ∀ t, R t t) : Respects R (now : Stmt τ Instant) :=
  respects_of_keeps hrefl fun _ => rfl

theorem respects_newUuid (hrefl : ∀ t, R t t) : Respects R (newUuid : Stmt τ String) :=
  respects_of_keeps hrefl fun _ => rfl

theorem after_bind (m : Stmt τ α) (f : α → Stmt τ β) (s : Surroundings × τ) :
    after (m >>= f) s =
      match result m s with
      | .ok a => after (f a) (after m s)
      | .error _ => after m s := by
  show after (EStateM.bind m f) s = _
  simp only [after, result, EStateM.bind]
  cases m s <;> rfl

theorem result_bind (m : Stmt τ α) (f : α → Stmt τ β) (s : Surroundings × τ) :
    result (m >>= f) s =
      match result m s with
      | .ok a => result (f a) (after m s)
      | .error e => .error e := by
  show result (EStateM.bind m f) s = _
  simp only [after, result, EStateM.bind]
  cases m s <;> rfl

/-- A composition that returns has gone through its first part. -/
theorem result_bind_ok {m : Stmt τ α} {f : α → Stmt τ β} {s : Surroundings × τ} {b : β}
    (h : result (m >>= f) s = .ok b) :
    ∃ a, result m s = .ok a ∧ result (f a) (after m s) = .ok b := by
  rw [result_bind] at h
  cases hm : result m s with
  | ok a =>
      rw [hm] at h
      exact ⟨a, rfl, h⟩
  | error e =>
      rw [hm] at h
      cases h

/-- A composition that fails does so in one of its parts. -/
theorem result_bind_error {m : Stmt τ α} {f : α → Stmt τ β} {s : Surroundings × τ} {e : Fault}
    (h : result (m >>= f) s = .error e) :
    result m s = .error e ∨ ∃ a, result m s = .ok a ∧ result (f a) (after m s) = .error e := by
  rw [result_bind] at h
  cases hm : result m s with
  | ok a =>
      rw [hm] at h
      exact Or.inr ⟨a, rfl, h⟩
  | error e' =>
      rw [hm] at h
      cases h
      exact Or.inl rfl

/-- A relation that absorbs what the second statement does. -/
theorem respects_bind {S : τ → τ → Prop} (htrans : ∀ t t' t'', R t t' → S t' t'' → R t t'')
    {m : Stmt τ α} {f : α → Stmt τ β} (hm : Respects R m) (hf : ∀ a, Respects S (f a)) :
    Respects R (m >>= f) := by
  intro s
  rw [after_bind]
  cases result m s with
  | ok a => exact htrans _ _ _ (hm s) (hf a (after m s))
  | error e => exact hm s

theorem after_sql (f : τ → Except String (α × τ)) (s : Surroundings × τ) :
    (after (sql f) s).2 =
      if s.1.refuses s.1.statements then s.2
      else
        match f s.2 with
        | .ok (_, t) => t
        | .error _ => s.2 := by
  simp only [after, sql]
  cases s.1.refuses s.1.statements with
  | true => rfl
  | false => cases f s.2 <;> simp

theorem result_sql (f : τ → Except String (α × τ)) (s : Surroundings × τ) :
    result (sql f) s =
      if s.1.refuses s.1.statements then .error (.error "database error")
      else
        match f s.2 with
        | .ok (a, _) => .ok a
        | .error message => .error (.error message) := by
  simp only [result, sql]
  cases s.1.refuses s.1.statements with
  | true => rfl
  | false => cases f s.2 <;> simp

theorem result_select (f : τ → α) (s : Surroundings × τ) :
    result (select f) s =
      if s.1.refuses s.1.statements then .error (.error "database error") else .ok (f s.2) :=
  result_sql _ s

theorem select_ok {f : τ → α} {s : Surroundings × τ} {a : α}
    (h : result (select f) s = .ok a) : a = f s.2 := by
  rw [result_select] at h
  split at h
  · cases h
  · exact (Except.ok.inj h).symm

theorem select_error {f : τ → α} {s : Surroundings × τ} {e : Fault}
    (h : result (select f) s = .error e) : s.1.refuses s.1.statements = true := by
  rw [result_select] at h
  split at h
  · assumption
  · cases h

theorem result_insert (f : τ → Option τ) (s : Surroundings × τ) :
    result (insert f) s =
      if s.1.refuses s.1.statements then .error (.error "database error")
      else
        match f s.2 with
        | some _ => .ok ()
        | none => .error (.error "UNIQUE constraint failed") := by
  refine (result_sql _ s).trans ?_
  split
  · rfl
  · cases f s.2 <;> rfl

theorem after_now_bind (k : Instant → Stmt τ β) (s : Surroundings × τ) :
    after (now >>= k) s =
      after (k (s.1.clock s.1.ticks)) ({ s.1 with ticks := s.1.ticks + 1 }, s.2) :=
  rfl

/-- The surroundings after a statement was sent. -/
def sent (around : Surroundings) : Surroundings :=
  { around with statements := around.statements + 1 }

theorem after_sql_bind (f : τ → Except String (α × τ)) (k : α → Stmt τ β)
    (s : Surroundings × τ) :
    after (sql f >>= k) s =
      if s.1.refuses s.1.statements then (sent s.1, s.2)
      else
        match f s.2 with
        | .ok (a, t) => after (k a) (sent s.1, t)
        | .error _ => (sent s.1, s.2) := by
  rw [after_bind]
  simp only [after, result, sql]
  cases s.1.refuses s.1.statements with
  | true => rfl
  | false => cases f s.2 <;> rfl

theorem after_select_bind (f : τ → α) (k : α → Stmt τ β) (s : Surroundings × τ) :
    after (select f >>= k) s =
      if s.1.refuses s.1.statements then (sent s.1, s.2)
      else after (k (f s.2)) (sent s.1, s.2) :=
  after_sql_bind _ k s

theorem after_execute_bind (f : τ → τ) (k : Unit → Stmt τ β) (s : Surroundings × τ) :
    after (execute f >>= k) s =
      if s.1.refuses s.1.statements then (sent s.1, s.2)
      else after (k ()) (sent s.1, f s.2) :=
  after_sql_bind _ k s

theorem after_insert_bind (f : τ → Option τ) (k : Unit → Stmt τ β) (s : Surroundings × τ) :
    after (insert f >>= k) s =
      if s.1.refuses s.1.statements then (sent s.1, s.2)
      else
        match f s.2 with
        | some t => after (k ()) (sent s.1, t)
        | none => (sent s.1, s.2) := by
  refine (after_sql_bind _ k s).trans ?_
  split
  · rfl
  · cases f s.2 <;> rfl

theorem after_bind_ok {m : Stmt τ α} {f : α → Stmt τ β} {s : Surroundings × τ} {a : α}
    (h : result m s = .ok a) : after (m >>= f) s = after (f a) (after m s) := by
  rw [after_bind, h]

theorem after_select (f : τ → α) (s : Surroundings × τ) : (after (select f) s).2 = s.2 := by
  refine (after_sql _ s).trans ?_
  split
  · rfl
  · rfl

/-- A selection sends one statement. -/
theorem after_select_sent (f : τ → α) (s : Surroundings × τ) :
    after (select f) s = (sent s.1, s.2) := by
  simp only [after, select, sql, sent]
  cases s.1.refuses s.1.statements <;> rfl

/-- An insertion that returns has inserted. -/
theorem insert_ok {f : τ → Option τ} {u : Unit} {s : Surroundings × τ}
    (h : result (insert f) s = .ok u) : f s.2 = some (after (insert f) s).2 := by
  rw [result_insert] at h
  have hafter : (after (insert f) s).2 = _ := after_sql _ s
  split at h
  · cases h
  · rename_i haccepted
    rw [hafter, if_neg haccepted]
    cases hf : f s.2 with
    | none =>
        rw [hf] at h
        cases h
    | some t => rfl

/-- An insertion that fails changes nothing. -/
theorem insert_error {f : τ → Option τ} {s : Surroundings × τ} {e : Fault}
    (h : result (insert f) s = .error e) : (after (insert f) s).2 = s.2 := by
  rw [result_insert] at h
  have hafter : (after (insert f) s).2 = _ := after_sql _ s
  rw [hafter]
  split
  · rfl
  · rename_i haccepted
    rw [if_neg haccepted] at h
    cases hf : f s.2 with
    | none => rfl
    | some t =>
        rw [hf] at h
        cases h

/-- An insertion and the value behind it. -/
theorem insert_then_ok {f : τ → Option τ} {a b : α} {s : Surroundings × τ}
    (h : result (insert f >>= fun _ => Pure.pure a) s = .ok b) :
    b = a ∧ f s.2 = some (after (insert f >>= fun _ => Pure.pure a) s).2 := by
  obtain ⟨u, hu, hrest⟩ := result_bind_ok h
  rw [after_bind_ok hu]
  exact ⟨(Except.ok.inj hrest).symm, insert_ok hu⟩

/-- An insertion that fails is refused, or finds a conflict. -/
theorem insert_then_error {f : τ → Option τ} {a : α} {s : Surroundings × τ} {e : Fault}
    (h : result (insert f >>= fun _ => Pure.pure a) s = .error e) :
    s.1.refuses s.1.statements = true ∨ f s.2 = none := by
  rcases result_bind_error h with hinsert | ⟨u, -, hrest⟩
  · rw [result_insert] at hinsert
    split at hinsert
    · exact Or.inl ‹_›
    · cases hf : f s.2 with
      | none => exact Or.inr rfl
      | some t =>
          rw [hf] at hinsert
          cases hinsert
  · cases hrest

/-- An update that the database accepts. -/
theorem execute_accepted {f : τ → τ} {s : Surroundings × τ}
    (haccepted : s.1.refuses s.1.statements = false) :
    result (execute f) s = .ok () ∧ (after (execute f) s).2 = f s.2 := by
  constructor
  · exact (result_sql _ s).trans (by simp [haccepted])
  · exact (after_sql _ s).trans (by simp [haccepted])

theorem respects_sql (hrefl : ∀ t, R t t) {f : τ → Except String (α × τ)}
    (h : ∀ t a t', f t = .ok (a, t') → R t t') : Respects R (sql f) := by
  intro s
  rw [after_sql]
  split
  · exact hrefl s.2
  · cases hf : f s.2 with
    | ok found => exact h _ _ _ hf
    | error message => exact hrefl s.2

theorem respects_select (hrefl : ∀ t, R t t) (f : τ → α) : Respects R (select f) :=
  respects_sql hrefl fun t _ _ h => by
    cases h
    exact hrefl t

theorem respects_execute (hrefl : ∀ t, R t t) {f : τ → τ} (h : ∀ t, R t (f t)) :
    Respects R (execute f) :=
  respects_sql hrefl fun t _ _ hf => by
    cases hf
    exact h t

theorem respects_insert (hrefl : ∀ t, R t t) {f : τ → Option τ}
    (h : ∀ t t', f t = some t' → R t t') : Respects R (insert f) := by
  refine respects_sql hrefl fun t _ t' hf => ?_
  cases hrow : f t with
  | none =>
      rw [hrow] at hf
      cases hf
  | some t'' =>
      rw [hrow] at hf
      cases hf
      exact h t t' hrow

/-! ## Runs -/

theorem run_bind {m : Stmt τ α} {f : α → Stmt τ β} {s s' : Surroundings × τ} {a : α}
    (hm : m s = .ok a s') : (m >>= f) s = f a s' := by
  show EStateM.bind m f s = f a s'
  simp only [EStateM.bind, hm]

theorem run_bind_error {m : Stmt τ α} {f : α → Stmt τ β} {s s' : Surroundings × τ} {e : Fault}
    (hm : m s = .error e s') : (m >>= f) s = .error e s' := by
  show EStateM.bind m f s = .error e s'
  simp only [EStateM.bind, hm]

theorem run_execute {f : τ → τ} {s : Surroundings × τ}
    (haccepted : s.1.refuses s.1.statements = false) :
    execute f s = .ok () (sent s.1, f s.2) := by
  simp [execute, sql, sent, haccepted]

theorem run_select {f : τ → α} {s : Surroundings × τ}
    (haccepted : s.1.refuses s.1.statements = false) :
    select f s = .ok (f s.2) (sent s.1, s.2) := by
  simp [select, sql, sent, haccepted]

theorem run_execute_refused {f : τ → τ} {s : Surroundings × τ}
    (hrefused : s.1.refuses s.1.statements = true) :
    execute f s = .error (.error "database error") (sent s.1, s.2) := by
  simp [execute, sql, sent, hrefused]

/-! ## What the database refuses -/

/-- Later surroundings: the database refuses the same statements, and more have
been sent.  The clock goes on, and more of it has been read. -/
structure Later (around around' : Surroundings) : Prop where
  refuses : around'.refuses = around.refuses
  statements : around.statements ≤ around'.statements
  clock : around'.clock = around.clock
  ticks : around.ticks ≤ around'.ticks

theorem Later.refl (around : Surroundings) : Later around around :=
  ⟨rfl, Nat.le_refl _, rfl, Nat.le_refl _⟩

theorem Later.trans {around around' around'' : Surroundings} (h : Later around around')
    (h' : Later around' around'') : Later around around'' :=
  ⟨h'.refuses.trans h.refuses, Nat.le_trans h.statements h'.statements, h'.clock.trans h.clock,
    Nat.le_trans h.ticks h'.ticks⟩

theorem later_sent (around : Surroundings) : Later around (sent around) :=
  ⟨rfl, Nat.le_succ _, rfl, Nat.le_refl _⟩

/-- The statement leaves later surroundings. -/
def Advances (m : Stmt τ α) : Prop := ∀ s, Later s.1 (after m s).1

theorem advances_pure (a : α) : (Pure.pure a : Stmt τ α).Advances := fun s => Later.refl s.1

theorem advances_fail (message : String) : (fail message : Stmt τ α).Advances :=
  fun s => Later.refl s.1

theorem advances_ofExcept (r : Except String α) : (ofExcept r : Stmt τ α).Advances := by
  cases r with
  | ok a => exact advances_pure a
  | error message => exact advances_fail message

theorem advances_now : (now : Stmt τ Instant).Advances :=
  fun _ => ⟨rfl, Nat.le_refl _, rfl, Nat.le_succ _⟩

theorem advances_newNonce : (newNonce : Stmt τ Nonce).Advances :=
  fun _ => ⟨rfl, Nat.le_refl _, rfl, Nat.le_refl _⟩

theorem advances_sql (f : τ → Except String (α × τ)) : (sql f).Advances := by
  intro s
  simp only [after, sql]
  cases s.1.refuses s.1.statements with
  | true => exact later_sent s.1
  | false => cases f s.2 <;> exact later_sent s.1

theorem advances_bind {m : Stmt τ α} {f : α → Stmt τ β} (hm : m.Advances)
    (hf : ∀ a, (f a).Advances) : (m >>= f).Advances := by
  intro s
  rw [after_bind]
  cases result m s with
  | ok a => exact (hm s).trans (hf a (after m s))
  | error e => exact hm s

/-- The statement relates the tables before and after it and leaves later
surroundings. -/
structure Preserves (R : τ → τ → Prop) (m : Stmt τ α) : Prop where
  advances : m.Advances
  respects : m.Respects R

theorem preserves_pure (hrefl : ∀ t, R t t) (a : α) : Preserves R (Pure.pure a : Stmt τ α) :=
  ⟨advances_pure a, respects_pure hrefl a⟩

theorem preserves_fail (hrefl : ∀ t, R t t) (message : String) :
    Preserves R (fail message : Stmt τ α) :=
  ⟨advances_fail message, respects_fail hrefl message⟩

theorem preserves_ofExcept (hrefl : ∀ t, R t t) (r : Except String α) :
    Preserves R (ofExcept r : Stmt τ α) :=
  ⟨advances_ofExcept r, respects_ofExcept hrefl r⟩

theorem preserves_now (hrefl : ∀ t, R t t) : Preserves R (now : Stmt τ Instant) :=
  ⟨advances_now, respects_now hrefl⟩

theorem preserves_select (hrefl : ∀ t, R t t) (f : τ → α) : Preserves R (select f) :=
  ⟨advances_sql _, respects_select hrefl f⟩

theorem preserves_execute (hrefl : ∀ t, R t t) {f : τ → τ} (h : ∀ t, R t (f t)) :
    Preserves R (execute f) :=
  ⟨advances_sql _, respects_execute hrefl h⟩

theorem preserves_insert (hrefl : ∀ t, R t t) {f : τ → Option τ}
    (h : ∀ t t', f t = some t' → R t t') : Preserves R (insert f) :=
  ⟨advances_sql _, respects_insert hrefl h⟩

theorem preserves_bind (htrans : ∀ t t' t'', R t t' → R t' t'' → R t t'') {m : Stmt τ α}
    {f : α → Stmt τ β} (hm : Preserves R m) (hf : ∀ a, Preserves R (f a)) :
    Preserves R (m >>= f) :=
  ⟨advances_bind hm.advances fun a => (hf a).advances,
    respects_bind htrans hm.respects fun a => (hf a).respects⟩

/-! ## Panics -/

/-- The statement does not panic. -/
def NoPanic (m : Stmt τ α) : Prop := ∀ s, result m s ≠ .error .panic

theorem noPanic_pure (a : α) : (Pure.pure a : Stmt τ α).NoPanic := fun _ h => nomatch h

theorem noPanic_now : (now : Stmt τ Instant).NoPanic := fun _ h => nomatch h

theorem noPanic_sql (f : τ → Except String (α × τ)) : (sql f).NoPanic := by
  intro s
  rw [result_sql]
  split
  · nofun
  · cases f s.2 <;> nofun

theorem noPanic_bind {m : Stmt τ α} {f : α → Stmt τ β} (hm : m.NoPanic)
    (hf : ∀ a, (f a).NoPanic) : (m >>= f).NoPanic := by
  intro s
  rw [result_bind]
  cases hresult : result m s with
  | ok a => exact hf a (after m s)
  | error e =>
      rintro ⟨rfl⟩
      exact hm s hresult

end Stmt

/-! ## Views -/

namespace View

variable {τ α : Type} (v : View τ)

theorem after_run (m : Stmt τ α) (w : World) :
    after (v.run m) w =
      v.set { w with around := (after m (w.around, v.get w)).1 }
        (after m (w.around, v.get w)).2 := by
  unfold after run
  cases m (w.around, v.get w) <;> rfl

theorem result_run (m : Stmt τ α) (w : World) :
    result (v.run m) w = result m (w.around, v.get w) := by
  unfold result run
  cases m (w.around, v.get w) <;> rfl

/-- A statement on conversations relates those of the world. -/
theorem respects_conversations {R : Conversations → Conversations → Prop}
    {m : Stmt Conversations α} (h : m.Respects R) (w : World) :
    R w.conversations (after (conversations.run m) w).conversations := by
  rw [after_run]
  exact h (w.around, w.conversations)

/-- A statement on the reply caches relates those of the world. -/
theorem respects_caches {R : Caches → Caches → Prop} {m : Stmt Caches α} (h : m.Respects R)
    (w : World) : R w.caches (after (caches.run m) w).caches := by
  rw [after_run]
  exact h (w.around, w.caches)

end View

/-! ## Actions aside -/

/-- The events of a reply. -/
def Event.isReply : Event → Bool
  | .submit .. => true
  | .generated .. => true
  | .answered .. => true
  | _ => false

/-- The action leaves conversations, caches and providers alone. -/
structure Aside (e : Event) (g : World → World) : Prop where
  quiet : e = .quiet
  conversations : ∀ w, (g w).conversations = w.conversations
  caches : ∀ w, (g w).caches = w.caches
  providers : ∀ w, (g w).providers = w.providers

section

variable {α : Type}

theorem aside_vectorMemory (m : Stmt (List VectorMemoryRow) α) :
    Aside .quiet (after (View.vectorMemory.run m)) where
  quiet := rfl
  conversations w := by rw [View.after_run]; rfl
  caches w := by rw [View.after_run]; rfl
  providers w := by rw [View.after_run]; rfl

theorem aside_brain (m : Stmt BrainTables α) : Aside .quiet (after (View.brain.run m)) where
  quiet := rfl
  conversations w := by rw [View.after_run]; rfl
  caches w := by rw [View.after_run]; rfl
  providers w := by rw [View.after_run]; rfl

theorem aside_ledger (m : Stmt Ledger α) : Aside .quiet (after (View.ledger.run m)) where
  quiet := rfl
  conversations w := by rw [View.after_run]; rfl
  caches w := by rw [View.after_run]; rfl
  providers w := by rw [View.after_run]; rfl

theorem aside_none (m : Stmt Unit α) : Aside .quiet (after (View.none.run m)) where
  quiet := rfl
  conversations w := by rw [View.after_run]; rfl
  caches w := by rw [View.after_run]; rfl
  providers w := by rw [View.after_run]; rfl

end

/-! ## Operations -/

namespace EngineOp

variable {α β : Type} {P : Event → (World → World) → Prop}

/-- A property of programs that results have and that sequences and outcomes as
values keep. -/
structure Closed (C : (α : Type) → EngineOp α → Prop) : Prop extends toOp : Op.Closed C where
  attempt : ∀ {α : Type} {p : EngineOp α}, C α p → C (Except String α) (attempt p)

namespace Closed

variable {C : (α : Type) → EngineOp α → Prop} (h : Closed C)

include h

theorem ignore {p : EngineOp α} (hp : C α p) : C Unit (ignore p) :=
  h.bind (h.attempt hp) fun _ => h.pure ()

theorem ofExcept (r : Except String α) : C α (ofExcept r) := by
  cases r with
  | ok a => exact h.pure a
  | error message => exact h.fail (.error message)

theorem orPanic (r : Option α) : C α (orPanic r) := by
  cases r with
  | some a => exact h.pure a
  | none => exact h.fail .panic

end Closed

theorem closed_maintains (I : World → Prop) : Closed fun _ p => Maintains I p where
  toOp := Op.closed_maintains I
  attempt hp := Maintains.bind hp fun r => by
    rcases r with (_ | _) | _ <;> exact Lib.Prog.maintains_ret _

theorem acts_attempt {p : EngineOp α} (hp : Acts P p) : Acts P (attempt p) := by
  refine Acts.bind hp fun r => ?_
  rcases r with (_ | _) | _ <;> exact .ret

theorem closed_acts (P : Event → (World → World) → Prop) : Closed fun _ p => Acts P p where
  toOp := Op.closed_acts P
  attempt := acts_attempt

theorem acts_ignore {p : EngineOp α} (hp : Acts P p) : Acts P (ignore p) :=
  (closed_acts P).ignore hp

theorem acts_orPanic (r : Option α) : Acts P (orPanic r) := (closed_acts P).orPanic r

theorem keeps_attempt {held : Bool} {p : EngineOp α} (hp : Keeps P held held p) :
    Keeps P held held (attempt p) := by
  refine Keeps.bind hp fun r => ?_
  rcases r with (_ | _) | _ <;> exact .ret

theorem closed_keeps (P : Event → (World → World) → Prop) (held : Bool) :
    Closed fun _ p => Keeps P held held p where
  toOp := Op.closed_keeps P held
  attempt := keeps_attempt

theorem keeps_ignore {held : Bool} {p : EngineOp α} (hp : Keeps P held held p) :
    Keeps P held held (ignore p) :=
  (closed_keeps P held).ignore hp

theorem keeps_ofExcept {held : Bool} (r : Except String α) :
    Keeps P held held (ofExcept r) :=
  (closed_keeps P held).ofExcept r

theorem keeps_orPanic {held : Bool} (r : Option α) : Keeps P held held (orPanic r) :=
  (closed_keeps P held).orPanic r

theorem keeps_outside {held : Bool} (m : Stmt Unit α) : Keeps Aside held held (outside m) :=
  Op.keeps_stmt (aside_none m)

theorem keeps_now {held : Bool} : Keeps Aside held held now := keeps_outside _

theorem keeps_newUuid {held : Bool} : Keeps Aside held held newUuid := keeps_outside _

theorem keeps_newNonce {held : Bool} : Keeps Aside held held newNonce := keeps_outside _

theorem keeps_vectorMemory (m : Stmt (List VectorMemoryRow) α) :
    Keeps Aside false false (guarded .vectorMemory m) :=
  Op.keeps_guarded (aside_vectorMemory m)

theorem keeps_brain (m : Stmt BrainTables α) : Keeps Aside false false (guarded .brain m) :=
  Op.keeps_guarded (aside_brain m)

theorem keeps_ledger (m : Stmt Ledger α) : Keeps Aside false false (guarded .ledger m) :=
  Op.keeps_guarded (aside_ledger m)

theorem wp_now {post : List Event → Except Fault Instant → World → Prop} {labels : List Event}
    {w : World} (h : post (labels ++ [.quiet]) (.ok (w.around.clock w.around.ticks))
      { w with around := { w.around with ticks := w.around.ticks + 1 } }) :
    wp now post labels w :=
  h

theorem wp_guarded {τ : Type} {v : View τ} {m : Stmt τ α}
    {post : List Event → Except Fault α → World → Prop} {labels : List Event} {w : World}
    {a : α} {around : Surroundings} {t : τ} (hrun : m (w.around, v.get w) = .ok a (around, t))
    (h : post (labels ++ [.quiet]) (.ok a) (v.set { w with around := around } t)) :
    wp (guarded v m) post labels w := by
  refine Op.wp_guarded ?_
  rw [View.result_run, View.after_run]
  simp only [result, after, hrun]
  exact h

theorem wp_guarded_error {τ : Type} {v : View τ} {m : Stmt τ α}
    {post : List Event → Except Fault α → World → Prop} {labels : List Event} {w : World}
    {e : Fault} {around : Surroundings} {t : τ}
    (hrun : m (w.around, v.get w) = .error e (around, t))
    (h : post (labels ++ [.quiet]) (.error e) (v.set { w with around := around } t)) :
    wp (guarded v m) post labels w := by
  refine Op.wp_guarded ?_
  rw [View.result_run, View.after_run]
  simp only [result, after, hrun]
  exact h

/-- A selection that the database accepts, and what is made of the rows. -/
theorem wp_guarded_select {τ γ : Type} {v : View τ} {f : τ → γ} {m : γ → Except String α}
    {post : List Event → Except Fault α → World → Prop} {labels : List Event} {w : World} {a : α}
    (haccepted : w.around.refuses w.around.statements = false) (hm : m (f (v.get w)) = .ok a)
    (h : post (labels ++ [.quiet]) (.ok a)
      (v.set { w with around := Stmt.sent w.around } (v.get w))) :
    wp (guarded v (Stmt.select f >>= fun found => Stmt.ofExcept (m found))) post labels w := by
  refine wp_guarded ((Stmt.run_bind (Stmt.run_select haccepted)).trans ?_) h
  rw [hm]
  rfl

/-- The outcome that `attempt` hands on. -/
def attempted (post : List Event → Except Fault (Except String α) → World → Prop)
    (labels : List Event) (r : Except Fault α) (w : World) : Prop :=
  match r with
  | .ok a => post labels (.ok (.ok a)) w
  | .error (.error message) => post labels (.ok (.error message)) w
  | .error .panic => post labels (.error .panic) w

theorem wp_attempt {p : EngineOp α}
    {post : List Event → Except Fault (Except String α) → World → Prop} {labels : List Event}
    {w : World} (h : wp p (attempted post) labels w) : wp (attempt p) post labels w := by
  refine Lib.wp_bind (Lib.wp_mono h fun labels r w hr => ?_)
  rcases r with (_ | _) | _ <;> exact Lib.wp_ret hr

/-- The value of an operation goes on as the outcome. -/
theorem attempted_ok {f : Except String α → EngineOp β}
    {post : List Event → Except Fault β → World → Prop} {labels : List Event} {a : α} {w : World}
    (h : wp (f (.ok a)) post labels w) :
    attempted (Op.andThen f post) labels (.ok a) w :=
  h

/-- The error of an operation is dropped, a panic is not. -/
theorem wp_ignore {p : EngineOp α} {post : List Event → Except Fault Unit → World → Prop}
    {labels : List Event} {w : World}
    (h : wp p (fun labels r w => r ≠ .error .panic ∧ post labels (.ok ()) w) labels w) :
    wp (ignore p) post labels w := by
  refine Op.wp_bind (wp_attempt (Lib.wp_mono h fun labels r w hr => ?_))
  have hok : wp (Pure.pure () : EngineOp Unit) post labels w := Op.wp_pure hr.2
  rcases r with (message | _) | a
  · exact hok
  · exact absurd rfl hr.1
  · exact hok

/-- A statement that returns, and the tables that it leaves. -/
theorem returns_guarded {τ : Type} {v : View τ} {m : Stmt τ α} {w : World}
    {Q : α → World → Prop}
    (h : ∀ a, result m (w.around, v.get w) = .ok a →
      Q a (v.set { w with around := (after m (w.around, v.get w)).1 }
        (after m (w.around, v.get w)).2)) :
    Op.Returns (· = w) (guarded v m) Q := by
  rintro _ a rfl ha
  show Q a (after (v.run m) _)
  rw [View.after_run]
  exact h a ((View.result_run v m _).symm.trans ha)

theorem returns_orPanic {I : World → Prop} (r : Option α) :
    Op.Returns I (orPanic r) fun a w => I w ∧ r = some a := by
  cases r with
  | none => exact Op.returns_fail _
  | some a => exact Op.returns_pure fun _ hw => ⟨hw, rfl⟩

end EngineOp

end OpenPinch
