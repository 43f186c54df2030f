import OpenPinch.Engine.BrainRuns
import OpenPinch.Engine.BrainScopes

/-!
# The dates of tasks

Every operation that writes a task dates it by the clock, and none turns the clock
back.  So in every state that the operations reach, the date of a task is one that
has been read from the clock.
-/

namespace OpenPinch

open Lib (Table.updateWhere Table.mem_updateWhere Table.mem_of_mem_upsertOn
  Table.mem_deleteWhere)
open Lib.Op (after result)
open Lib.Prog (Maintains)

/-- The clock has shown this instant. -/
def Surroundings.HasRead (around : Surroundings) (instant : Instant) : Prop :=
  ∃ n < around.ticks, around.clock n = instant

theorem Surroundings.HasRead.later {around around' : Surroundings} {instant : Instant}
    (h : around.HasRead instant) (hlater : Stmt.Later around around') :
    around'.HasRead instant := by
  obtain ⟨n, hn, hclock⟩ := h
  exact ⟨n, Nat.lt_of_lt_of_le hn hlater.ticks, hlater.clock ▸ hclock⟩

/-- The dates of the tasks have been read from the clock, and so have these instants. -/
structure Dated (times : List Instant) (s : Surroundings × BrainTables) : Prop where
  tasks : ∀ row ∈ s.2.tasks, s.1.HasRead row.updatedAt
  times : ∀ time ∈ times, s.1.HasRead time

/-- The tasks are those from before, or dated by one of the instants. -/
def Redates (times : List Instant) (t t' : BrainTables) : Prop :=
  ∀ row ∈ t'.tasks, row ∈ t.tasks ∨ row.updatedAt ∈ times

section

variable {times : List Instant}

theorem Redates.refl (t : BrainTables) : Redates times t t := fun _ => Or.inl

theorem Redates.trans (t t' t'' : BrainTables) (h : Redates times t t')
    (h' : Redates times t' t'') : Redates times t t'' :=
  fun row hrow => (h' row hrow).elim (h row) Or.inr

theorem Redates.of_same {t t' : BrainTables} (h : t'.tasks = t.tasks) : Redates times t t' :=
  fun _ hrow => Or.inl (h ▸ hrow)

/-- An update of tasks with one of the dates. -/
theorem redates_updateTasks {now : Instant} (hnow : now ∈ times) {test : TaskRow → Bool}
    {change : TaskRow → TaskRow} (h : ∀ row, (change row).updatedAt = now) (t : BrainTables) :
    Redates times t { t with tasks := Table.updateWhere test change t.tasks } := by
  intro row hrow
  obtain ⟨old, hold, rfl⟩ := Table.mem_updateWhere.mp hrow
  split
  · exact Or.inr (by rwa [h old])
  · exact Or.inl hold

theorem Dated.next {s s' : Surroundings × BrainTables} (h : Dated times s)
    (hlater : Stmt.Later s.1 s'.1) (hrows : Redates times s.2 s'.2) : Dated times s' where
  tasks row hrow := by
    rcases hrows row hrow with hbefore | htime
    · exact (h.tasks row hbefore).later hlater
    · exact (h.times _ htime).later hlater
  times time htime := (h.times time htime).later hlater

/-- A look at the clock adds an instant. -/
theorem Dated.read {s : Surroundings × BrainTables} (h : Dated times s) :
    Dated (s.1.clock s.1.ticks :: times) ({ s.1 with ticks := s.1.ticks + 1 }, s.2) where
  tasks row hrow := (h.tasks row hrow).later ⟨rfl, Nat.le_refl _, rfl, Nat.le_succ _⟩
  times time htime := by
    rcases List.mem_cons.mp htime with rfl | hbefore
    · exact ⟨s.1.ticks, Nat.lt_succ_self _, rfl⟩
    · exact (h.times time hbefore).later ⟨rfl, Nat.le_refl _, rfl, Nat.le_succ _⟩

/-- An instant fewer. -/
theorem Dated.forget {s : Surroundings × BrainTables} {now : Instant}
    (h : Dated (now :: times) s) : Dated times s :=
  ⟨h.tasks, fun time htime => h.times time (List.mem_cons_of_mem _ htime)⟩

/-! ## Statements -/

namespace Stmt

variable {α β : Type}

/-- The statement leaves the tasks dated. -/
def Dates (times : List Instant) (m : Stmt BrainTables α) : Prop :=
  ∀ s, Dated times s → Dated times (after m s)

theorem dates_of_preserves {m : Stmt BrainTables α} (h : m.Preserves (Redates times)) :
    Dates times m :=
  fun s hs => hs.next (h.advances s) (h.respects s)

theorem dates_bind {m : Stmt BrainTables α} {f : α → Stmt BrainTables β} (hm : Dates times m)
    (hf : ∀ a, Dates times (f a)) : Dates times (m >>= f) := by
  intro s hs
  rw [after_bind]
  cases result m s with
  | ok a => exact hf a _ (hm s hs)
  | error e => exact hm s hs

/-- What comes after a look at the clock may use its instant as a date. -/
theorem dates_now {f : Instant → Stmt BrainTables β} (hf : ∀ now, Dates (now :: times) (f now)) :
    Dates times (now >>= f) := by
  intro s hs
  rw [after_now_bind]
  exact (hf _ _ hs.read).forget

theorem dates_execute {f : BrainTables → BrainTables} (h : ∀ t, Redates times t (f t)) :
    Dates times (execute f) :=
  dates_of_preserves (preserves_execute Redates.refl h)

end Stmt

/-! ## Operations -/

/-- The tasks of the world are dated. -/
def World.Dated (times : List Instant) (w : World) : Prop :=
  OpenPinch.Dated times (w.around, w.brain)

namespace EngineOp

variable {α β : Type}

theorem maintains_of_redates {p : EngineOp α} (h : Relates (Redates times) p) :
    Maintains (World.Dated times) p := by
  intro w hw
  obtain ⟨hlater, hrows⟩ := h.eval Redates.refl Redates.trans w
  exact hw.next hlater hrows

theorem maintains_brain {m : Stmt BrainTables α} (h : m.Dates times) :
    Maintains (World.Dated times) (guarded .brain m) := by
  intro w hw
  show World.Dated times (after (View.brain.run m) w)
  rw [View.after_run]
  exact h (w.around, w.brain) hw

theorem maintains_now_bind {f : Instant → EngineOp β}
    (hf : ∀ now, Maintains (World.Dated (now :: times)) (f now)) :
    Maintains (World.Dated times) (now >>= f : EngineOp β) :=
  fun w hw => (hf _ { w with around := { w.around with ticks := w.around.ticks + 1 } }
    (Dated.read hw)).forget

end EngineOp

end

namespace BrainManager

open EngineOp (closed_relates relates_now relates_brain maintains_of_redates
  maintains_brain maintains_now_bind)
open Stmt (dates_now dates_bind dates_execute dates_of_preserves preserves_fail)

section

variable [Externals] {times : List Instant}

/-- Retention dates the tasks that it archives. -/
theorem maintains_applyRetention_dated (manager : BrainManager) :
    Maintains (World.Dated times) manager.applyRetention := by
  have hclosed := EngineOp.closed_maintains (World.Dated times)
  refine hclosed.bind (maintains_of_redates (relates_now Redates.refl)) fun now => ?_
  refine hclosed.bind (hclosed.orPanic _) fun age => ?_
  refine hclosed.bind (hclosed.orPanic _) fun cutoff => maintains_brain ?_
  refine dates_now fun now => dates_bind (dates_execute fun t => Redates.of_same rfl) fun _ => ?_
  refine dates_now fun now => dates_bind (dates_execute fun t => Redates.of_same rfl) fun _ => ?_
  refine dates_now fun now => dates_execute fun t => ?_
  exact redates_updateTasks List.mem_cons_self (fun _ => by rfl) t

/-- An upsert dates its task. -/
theorem maintains_upsertTask_dated (manager : BrainManager) (input : TaskUpsert) :
    Maintains (World.Dated times) (manager.upsertTask input) := by
  have hclosed := EngineOp.closed_maintains (World.Dated times)
  unfold upsertTask
  refine hclosed.bind (hclosed.ofExcept _) fun _ => ?_
  refine hclosed.bind (maintains_of_redates
    (manager.relates_encryptPayload Redates.refl _ _)) fun blobJson => ?_
  refine maintains_now_bind fun now => maintains_of_redates ?_
  have hrelated := closed_relates (Redates (now :: times))
  refine hrelated.bind (relates_brain (Stmt.preserves_execute Redates.refl fun t row hrow => ?_))
    fun _ => ?_
  · rcases Table.mem_of_mem_upsertOn hrow with hbefore | ⟨old, -, rfl⟩ | rfl
    · exact Or.inl hbefore
    · exact Or.inr List.mem_cons_self
    · exact Or.inr List.mem_cons_self
  refine hrelated.bind (manager.relates_upsertProjection Redates.refl _ _ _ _) fun _ => ?_
  exact hrelated.bind (manager.relates_upsertProjection Redates.refl _ _ _ _) fun _ =>
    hrelated.pure _

/-- The parts of the operations keep the tasks dated. -/
theorem parts_dated (manager : BrainManager) :
    manager.Parts fun _ p => Maintains (World.Dated []) p where
  toClosed := EngineOp.closed_maintains _
  now := maintains_of_redates (relates_now Redates.refl)
  upsertEntity _ := maintains_of_redates
    (manager.relates_upsertEntity Redates.refl fun _ _ _ => Redates.of_same rfl)
  upsertFact _ := maintains_of_redates
    (manager.relates_upsertFact Redates.refl fun _ _ _ _ => Redates.of_same rfl)
  upsertTask := manager.maintains_upsertTask_dated
  upsertRelation _ _ _ _ _ _ := maintains_of_redates
    (relates_upsertRelation Redates.refl fun _ _ _ => Redates.of_same rfl)
  recordIngest _ _ _ _ := maintains_of_redates
    (relates_recordIngest Redates.refl Redates.trans (fun _ _ => Redates.of_same rfl) _ _ _ _)
  listEntities _ := maintains_of_redates (relates_list Redates.refl Redates.trans _ _)
  listFacts _ := maintains_of_redates (relates_list Redates.refl Redates.trans _ _)
  listRelations _ := maintains_of_redates (relates_brain (Stmt.preserves_bind Redates.trans
    (Stmt.preserves_select Redates.refl _) fun _ => Stmt.preserves_pure Redates.refl _))
  listTasks _ := maintains_of_redates (relates_list Redates.refl Redates.trans _ _)
  queryProjectionHits _ _ _ :=
    maintains_of_redates (manager.relates_queryProjectionHits Redates.refl _ _ _)
  projectSuggestion _ _ _ :=
    maintains_of_redates (manager.relates_upsertProjection Redates.refl _ _ _ _)
  retain := manager.maintains_applyRetention_dated

omit [Externals] in
/-- Forgetting dates the tasks that it archives. -/
theorem dates_forgetStmt (targetKind mode targetId : String) :
    (forgetStmt targetKind mode targetId).Dates times := by
  have hsame {f : BrainTables → BrainTables} (h : ∀ t, (f t).tasks = t.tasks) :
      (Stmt.execute f).Dates times :=
    dates_execute fun t => Redates.of_same (h t)
  unfold forgetStmt
  split
  · refine dates_now fun _ => dates_bind (dates_execute fun _ => Redates.of_same rfl) fun _ => ?_
    refine dates_now fun _ => dates_bind (dates_execute fun _ => Redates.of_same rfl) fun _ => ?_
    exact dates_now fun _ => dates_execute fun _ => Redates.of_same rfl
  · refine dates_now fun now => dates_execute fun t => ?_
    exact redates_updateTasks List.mem_cons_self (fun _ => by rfl) t
  · exact dates_now fun _ => dates_execute fun _ => Redates.of_same rfl
  · exact dates_now fun _ => dates_execute fun _ => Redates.of_same rfl
  · refine dates_bind (hsame fun _ => rfl) fun _ => ?_
    exact dates_bind (hsame fun _ => rfl) fun _ => hsame fun _ => rfl
  · refine dates_bind (dates_execute fun t row hrow => ?_) fun _ => hsame fun _ => rfl
    exact Or.inl (Table.mem_deleteWhere.mp hrow).1
  · exact hsame fun _ => rfl
  · exact hsame fun _ => rfl
  · exact dates_of_preserves (preserves_fail Redates.refl _)

omit [Externals] in
theorem maintains_forget_dated (manager : BrainManager) (request : BrainForget) :
    Maintains (World.Dated times) (manager.forget request) := by
  have hclosed := EngineOp.closed_maintains (World.Dated times)
  refine hclosed.bind (hclosed.requireEnabled manager) fun _ => ?_
  refine hclosed.bind (maintains_brain (dates_forgetStmt _ _ _)) fun _ => ?_
  exact hclosed.bind (maintains_of_redates (relates_dropProjections Redates.refl _ _)) fun _ =>
    hclosed.pure _

end

end BrainManager

/-! ## Runs -/

section

variable [Externals]

theorem BrainCall.dated (manager : BrainManager) (call : BrainCall) :
    Maintains (World.Dated []) (call.op manager) := by
  refine BrainCall.closed (C := fun _ p => Maintains (World.Dated []) p)
    (EngineOp.closed_maintains _) (fun other _ => other.parts_dated) fun hapart => ?_
  cases call with
  | forget request => exact manager.maintains_forget_dated request
  | upsertProjection nameSpace key content metadataJson =>
      exact EngineOp.maintains_of_redates
        (manager.relates_upsertProjection Redates.refl _ _ _ _)
  | deleteProjection nameSpace key =>
      exact EngineOp.maintains_of_redates
        (BrainManager.relates_deleteProjection Redates.refl _ _)
  | _ => cases hapart

/-- In every state that the operations reach the tasks are dated. -/
theorem dated_reachable {w : World} (h : brainRuns.Reachable w) : w.Dated [] := by
  refine h.invariant (P := World.Dated []) (fun w hempty => ⟨?_, nofun⟩) ?_
  · rw [hempty]
    nofun
  · rintro w step w' ⟨-, hnext⟩ hw
    unfold BrainStep.next? at hnext
    split at hnext
    · cases hnext
    · cases hnext
      exact BrainCall.dated step.manager step.call (w.refusing step.refused) ⟨hw.tasks, nofun⟩

end

end OpenPinch
