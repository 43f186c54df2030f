import OpenPinch.Engine.RecallResults

/-!
# What is suggested

`suggest` scores the open tasks of a scope among the 512 newest task rows, and
returns the best of them.  `Best` is about any list of tasks, so it also says what
it would be to choose among all rows: archived and finished ones count towards the
512, and an old task behind them is not suggested, however high its score is.
`suggest_best_iff` says when the answer is nevertheless the best of all.
-/

namespace OpenPinch

open Lib (Op wp Table.descending Table.updateWhere_of_none Table.perm_descending
  Table.pairwise_descending Table.mem_descending Table.le_of_mem_drop Table.filterMap_of_mapM_ok
  Table.map_of_mapM_some)
open Lib.Op (Returns after result returns_pure returns_of_fact)

/-! ## The clock -/

namespace Stmt

variable {τ α β : Type}

/-- A statement that returns has looked at the clock so many times. -/
def Looks (n : Nat) (m : Stmt τ α) : Prop :=
  ∀ s a, result m s = .ok a →
    (after m s).1.clock = s.1.clock ∧ (after m s).1.ticks = s.1.ticks + n

theorem looks_pure (a : α) : Looks 0 (Pure.pure a : Stmt τ α) := fun _ _ _ => ⟨rfl, rfl⟩

theorem looks_now : Looks 1 (now : Stmt τ Instant) := fun _ _ _ => ⟨rfl, rfl⟩

theorem looks_sql (f : τ → Except String (α × τ)) : Looks 0 (sql f) := by
  intro s a _
  have hafter : (after (sql f) s).1 = sent s.1 := by
    simp only [after, sql]
    cases s.1.refuses s.1.statements with
    | true => rfl
    | false => cases f s.2 <;> rfl
  rw [hafter]
  exact ⟨rfl, rfl⟩

theorem looks_ofExcept (r : Except String α) : Looks 0 (ofExcept r : Stmt τ α) := by
  intro s a _
  cases r <;> exact ⟨rfl, rfl⟩

theorem looks_bind {n k : Nat} {m : Stmt τ α} {f : α → Stmt τ β} (hm : Looks n m)
    (hf : ∀ a, Looks k (f a)) : Looks (n + k) (m >>= f) := by
  intro s b hb
  obtain ⟨a, ha, hb⟩ := result_bind_ok hb
  obtain ⟨hclock, hticks⟩ := hm s a ha
  obtain ⟨hclock', hticks'⟩ := hf a _ b hb
  rw [after_bind_ok ha]
  refine ⟨hclock'.trans hclock, ?_⟩
  rw [hticks', hticks, Nat.add_assoc]

end Stmt

/-- The clock, and how many times it has been looked at. -/
def World.ClockAt (clock : Nat → Instant) (n : Nat) (w : World) : Prop :=
  w.around.clock = clock ∧ w.around.ticks = n

section

variable [Externals]

namespace BrainManager

variable (manager : BrainManager) {clock : Nat → Instant} {n : Nat}

omit [Externals] in
theorem reads_brain {α : Type} {k : Nat} {m : Stmt BrainTables α} (h : m.Looks k) :
    Returns (World.ClockAt clock n) (EngineOp.guarded .brain m) fun _ =>
      World.ClockAt clock (n + k) := by
  rintro w a ⟨hclock, hticks⟩ ha
  refine EngineOp.returns_guarded (Q := fun _ => World.ClockAt clock (n + k)) (fun b hb => ?_)
    w a rfl ha
  obtain ⟨hclock', hticks'⟩ := h _ b hb
  exact ⟨hclock'.trans hclock, hticks'.trans (congrArg (· + k) hticks)⟩

/-- Retention looks at the clock four times. -/
theorem reads_applyRetention :
    Returns (World.ClockAt clock n) manager.applyRetention fun _ =>
      World.ClockAt clock (n + 4) := by
  have hstep {f : Instant → BrainTables → BrainTables} :
      (Stmt.now >>= fun now => Stmt.execute (f now)).Looks 1 :=
    Stmt.looks_bind Stmt.looks_now fun now => Stmt.looks_sql _
  unfold applyRetention
  refine Returns.bind (Q := fun _ => World.ClockAt clock (n + 1)) ?_ fun now => ?_
  · rintro w now ⟨rfl, rfl⟩ -
    exact ⟨rfl, rfl⟩
  refine Returns.bind (Q := fun _ => World.ClockAt clock (n + 1))
    (fun w a hw ha => (EngineOp.returns_orPanic _ w a hw ha).1) fun age => ?_
  refine Returns.bind (Q := fun _ => World.ClockAt clock (n + 1))
    (fun w a hw ha => (EngineOp.returns_orPanic _ w a hw ha).1) fun cutoff => ?_
  refine reads_brain (k := 3) (Stmt.looks_bind (k := 2) Stmt.looks_now fun now => ?_)
  exact Stmt.looks_bind (n := 0) (Stmt.looks_sql _) fun _ =>
    Stmt.looks_bind (n := 1) Stmt.looks_now fun _ =>
      Stmt.looks_bind (n := 0) (Stmt.looks_sql _) fun _ => hstep

omit [Externals] in
/-- A list does not look at the clock. -/
theorem reads_list {ρ β : Type} {t : BrainTables} {rows : List VectorMemoryRow}
    (f : BrainTables → List ρ) (g : List ρ → Except String β) :
    Returns (fun w => Has t rows w ∧ w.ClockAt clock n) (EngineOp.guarded .brain do
      let found ← Stmt.select f
      Stmt.ofExcept (g found)) fun b w =>
        (Has t rows w ∧ w.ClockAt clock n) ∧ g (f t) = .ok b := by
  have hlooks : (Stmt.select f >>= fun found => Stmt.ofExcept (g found)).Looks 0 :=
    Stmt.looks_bind (Stmt.looks_sql _) fun found => Stmt.looks_ofExcept (g found)
  refine ((returns_list f g).and (reads_brain hlooks)).mono fun b w h => ?_
  exact ⟨⟨h.1.1, h.2⟩, h.1.2⟩

/-! ## The tasks -/

/-- The tasks of these rows that a suggestion may be about. -/
def eligibleTasks (query : BrainSuggestQuery) (rows : List TaskRow) : List BrainTaskRecord :=
  ((rows.filter fun row => !row.archived).filterMap
    fun row => (manager.taskRecord row).toOption).filter fun task =>
      isOpenStatus task.status && scopeMatches task.scopeJson query.scopeJson

/-- The score of a task at an instant, whatever it links. -/
def taskScore (now : Instant) (task : BrainTaskRecord) : Rat :=
  ((manager.suggestion [] now task).map BrainSuggestionRecord.score).getD 0

theorem suggestion_of {entities : List BrainEntityRecord} {now : Instant}
    {task : BrainTaskRecord} {suggestion : BrainSuggestionRecord}
    (h : manager.suggestion entities now task = some suggestion) :
    suggestion.taskId = task.id ∧ suggestion.score = manager.taskScore now task := by
  obtain ⟨bonus, hbonus, rfl⟩ := Option.map_eq_some_iff.mp h
  refine ⟨rfl, ?_⟩
  simp [taskScore, BrainManager.suggestion, hbonus]

/-- The tasks that are eligible do not depend on the order of the rows. -/
theorem perm_eligibleTasks {query : BrainSuggestQuery} {rows rows' : List TaskRow}
    (h : rows.Perm rows') :
    (manager.eligibleTasks query rows).Perm (manager.eligibleTasks query rows') :=
  ((h.filter _).filterMap _).filter _

end BrainManager

/-- The suggestions are the best of these tasks. -/
structure BrainSuggestResult.Best (answer : BrainSuggestResult) (manager : BrainManager)
    (now : Instant) (tasks : List BrainTaskRecord) (n : Nat) : Prop where
  length : answer.suggestions.length = min n tasks.length
  sorted : answer.suggestions.Pairwise fun first second => second.score ≤ first.score
  made : ∀ suggestion ∈ answer.suggestions, ∃ task ∈ tasks, suggestion.taskId = task.id ∧
    suggestion.score = manager.taskScore now task
  best : ∀ task ∈ tasks, task.id ∉ answer.suggestions.map BrainSuggestionRecord.taskId →
    ∀ suggestion ∈ answer.suggestions, manager.taskScore now task ≤ suggestion.score

namespace BrainSuggestResult

variable {answer : BrainSuggestResult} {manager : BrainManager} {now : Instant}
  {tasks tasks' : List BrainTaskRecord} {n : Nat}

theorem Best.perm (h : answer.Best manager now tasks n) (hperm : tasks.Perm tasks') :
    answer.Best manager now tasks' n where
  length := h.length.trans (congrArg (min n) hperm.length_eq)
  sorted := h.sorted
  made suggestion hsuggestion := by
    obtain ⟨task, htask, hof⟩ := h.made suggestion hsuggestion
    exact ⟨task, hperm.mem_iff.mp htask, hof⟩
  best task htask := h.best task (hperm.mem_iff.mpr htask)

/-- The first suggestions in the order of their scores are the best. -/
theorem best_take {entities : List BrainEntityRecord} {suggestions : List BrainSuggestionRecord}
    (hmade : tasks.mapM (manager.suggestion entities now) = some suggestions)
    (hanswer : answer.suggestions =
      (Table.descending BrainSuggestionRecord.score suggestions).take n) :
    answer.Best manager now tasks n := by
  have hmap := Table.map_of_mapM_some hmade
  have hlength : tasks.length = suggestions.length := by
    simpa using congrArg List.length hmap
  constructor
  · rw [hanswer, List.length_take, (Table.perm_descending _ _).length_eq, hlength]
  · rw [hanswer]
    exact (Table.pairwise_descending _ _).take
  · intro suggestion hsuggestion
    rw [hanswer] at hsuggestion
    have hmem : some suggestion ∈ tasks.map (manager.suggestion entities now) := by
      rw [hmap]
      exact List.mem_map_of_mem (Table.mem_descending.mp (List.mem_of_mem_take hsuggestion))
    obtain ⟨task, htask, hof⟩ := List.mem_map.mp hmem
    exact ⟨task, htask, manager.suggestion_of hof⟩
  · intro task htask hout suggestion hsuggestion
    have hmem : manager.suggestion entities now task ∈ suggestions.map some := by
      rw [← hmap]
      exact List.mem_map_of_mem htask
    obtain ⟨cut, hcut, hof⟩ := List.mem_map.mp hmem
    obtain ⟨hid, hscore⟩ := manager.suggestion_of hof.symm
    rw [hanswer] at hout hsuggestion
    rw [← hscore]
    refine Table.le_of_mem_drop hsuggestion ?_
    have hsplit := (@Table.mem_descending _ _ _ BrainSuggestionRecord.score _ _).mpr hcut
    rw [← List.take_append_drop n (Table.descending _ _)] at hsplit
    refine (List.mem_append.mp hsplit).resolve_left fun htaken => hout ?_
    exact hid ▸ List.mem_map_of_mem htaken

end BrainSuggestResult

namespace BrainManager

variable (manager : BrainManager) (query : BrainSuggestQuery)

/-- The answer is made from the tasks that are listed, at the fifth look at the clock. -/
def Answers (w : World) (answer : BrainSuggestResult) : Prop :=
  ∃ listed entities suggestions,
    (newest TaskRow.updatedAt TaskRow.archived false
      (manager.retained w.around w.brain).tasks).mapM manager.taskRecord = .ok listed ∧
    (listed.filter fun task =>
      isOpenStatus task.status && scopeMatches task.scopeJson query.scopeJson).mapM
        (manager.suggestion entities (w.around.clock (w.around.ticks + 4))) = some suggestions ∧
    answer.suggestions =
      (Table.descending BrainSuggestionRecord.score suggestions).take (max query.limit 1)

theorem suggest_answers {w : World} {answer : BrainSuggestResult}
    (h : ((manager.suggest query).eval w).1 = .ok answer) : manager.Answers query w answer := by
  refine Returns.bind (P := fun w' => w' = w ∧ w'.ClockAt w.around.clock w.around.ticks)
    (Q := fun _ w' => w' = w ∧ w'.ClockAt w.around.clock w.around.ticks)
    (R := fun answer _ => manager.Answers query w answer) ?_ (fun _ => ?_) w answer
    ⟨rfl, rfl, rfl⟩ h
  · rintro _ u hw -
    unfold requireEnabled
    split <;> exact hw
  refine ((manager.returns_applyRetention w).and manager.reads_applyRetention).bind fun _ => ?_
  refine (reads_list _ _).bind fun listed => returns_of_fact fun hlisted => ?_
  refine (reads_list _ _).bind fun entities => returns_of_fact fun hentities => ?_
  refine Returns.bind (Q := fun now _ => now = w.around.clock (w.around.ticks + 4)) ?_
    fun now => ?_
  · rintro w' now ⟨-, hclock, hticks⟩ hnow
    rw [← hclock, ← hticks]
    exact (Except.ok.inj hnow).symm
  refine (EngineOp.returns_orPanic _).bind fun suggestions => returns_of_fact fun hmade => ?_
  refine Returns.bind (Q := fun _ _ => now = w.around.clock (w.around.ticks + 4))
    (fun _ _ h _ => h) fun _ => returns_pure fun w' hnow => ?_
  exact ⟨listed, entities, suggestions, hlisted, hnow ▸ hmade, rfl⟩

end BrainManager

/-! ## All rows -/

namespace BrainManager

variable (manager : BrainManager)

/-- The eligible tasks among the 512 newest rows. -/
def tasksInReach (query : BrainSuggestQuery) (rows : List TaskRow) : List BrainTaskRecord :=
  manager.eligibleTasks query ((Table.descending (fun row => stamp row.updatedAt) rows).take 512)

/-- The eligible tasks behind them. -/
def tasksBehind (query : BrainSuggestQuery) (rows : List TaskRow) : List BrainTaskRecord :=
  manager.eligibleTasks query ((Table.descending (fun row => stamp row.updatedAt) rows).drop 512)

/-- A task behind the newest rows is one of the best: too few of those among them have a
score that is as high. -/
def Overlooks (query : BrainSuggestQuery) (now : Instant) (rows : List TaskRow) : Prop :=
  ∃ task ∈ manager.tasksBehind query rows,
    (manager.tasksInReach query rows).countP (fun other =>
      manager.taskScore now task ≤ manager.taskScore now other) < max query.limit 1

theorem perm_tasks (query : BrainSuggestQuery) (rows : List TaskRow) :
    (manager.eligibleTasks query rows).Perm
      (manager.tasksInReach query rows ++ manager.tasksBehind query rows) := by
  have happend (first second : List TaskRow) : manager.eligibleTasks query (first ++ second) =
      manager.eligibleTasks query first ++ manager.eligibleTasks query second := by
    unfold eligibleTasks
    rw [List.filter_append, List.filterMap_append, List.filter_append]
  rw [tasksInReach, tasksBehind, ← happend, List.take_append_drop]
  exact manager.perm_eligibleTasks (Table.perm_descending _ rows).symm

/-- Eligible tasks are under the keys of their rows. -/
theorem sublist_eligibleTasks (query : BrainSuggestQuery) (rows : List TaskRow) :
    ((manager.eligibleTasks query rows).map BrainTaskRecord.id).Sublist
      (rows.map TaskRow.taskId) := by
  refine (List.filter_sublist.map _).trans ?_
  induction rows with
  | nil => exact List.Sublist.slnil
  | cons row rows ih =>
      cases harchived : row.archived with
      | true => simpa [harchived] using ih.cons _
      | false =>
          cases hrecord : manager.taskRecord row with
          | error message => simpa [harchived, hrecord, Except.toOption] using ih.cons _
          | ok record =>
              have hid := manager.taskRecord_id hrecord
              simpa [harchived, hrecord, Except.toOption, hid] using ih.cons_cons row.taskId

theorem score_suggestion (entities : List BrainEntityRecord) (now : Instant)
    (task : BrainTaskRecord) :
    ((manager.suggestion entities now task).map BrainSuggestionRecord.score).getD 0 =
      manager.taskScore now task := by
  unfold taskScore suggestion
  cases dueBonus now task.dueAt <;> rfl

end BrainManager

namespace BrainSuggestResult

variable {answer : BrainSuggestResult} {manager : BrainManager} {now : Instant}
  {near far : List BrainTaskRecord} {n : Nat}

/-- The suggestions are at least so high exactly when so many of the tasks are. -/
theorem score_le_iff {entities : List BrainEntityRecord}
    {suggestions : List BrainSuggestionRecord} {bound : Rat}
    (hmade : near.mapM (manager.suggestion entities now) = some suggestions)
    (hanswer : answer.suggestions =
      (Table.descending BrainSuggestionRecord.score suggestions).take n)
    (hlength : n ≤ near.length) :
    (∀ suggestion ∈ answer.suggestions, bound ≤ suggestion.score) ↔
      n ≤ near.countP fun task => bound ≤ manager.taskScore now task := by
  have hmap := Table.map_of_mapM_some hmade
  have hscores : suggestions.map BrainSuggestionRecord.score =
      near.map (manager.taskScore now) := by
    have hboth := congrArg (List.map fun made : Option BrainSuggestionRecord =>
      (made.map BrainSuggestionRecord.score).getD 0) hmap
    rw [List.map_map, List.map_map] at hboth
    refine hboth.symm.trans (List.map_congr_left fun task _ => ?_)
    exact BrainManager.score_suggestion manager entities now task
  have hmany : n ≤ (Table.descending BrainSuggestionRecord.score suggestions).length := by
    rw [(Table.perm_descending _ _).length_eq]
    have hlengths := congrArg List.length hscores
    rw [List.length_map, List.length_map] at hlengths
    exact hlength.trans_eq hlengths.symm
  have hcount : (Table.descending BrainSuggestionRecord.score suggestions).countP
      (fun suggestion => bound ≤ suggestion.score) =
        near.countP fun task => bound ≤ manager.taskScore now task := by
    have hscored := congrArg (List.countP fun score : Rat => bound ≤ score) hscores
    rw [List.countP_map, List.countP_map] at hscored
    exact ((Table.perm_descending _ _).countP_eq _).trans hscored
  rw [hanswer, Lib.Selection.forall_take_iff_countP (Table.pairwise_descending _ _) hmany, hcount]

/-- The best of some tasks are the best of more exactly when none of the others is better
than enough of them. -/
theorem best_append_iff {entities : List BrainEntityRecord}
    {suggestions : List BrainSuggestionRecord}
    (hmade : near.mapM (manager.suggestion entities now) = some suggestions)
    (hanswer : answer.suggestions =
      (Table.descending BrainSuggestionRecord.score suggestions).take n)
    (hkeys : ((near ++ far).map BrainTaskRecord.id).Nodup) :
    answer.Best manager now (near ++ far) n ↔
      ∀ task ∈ far, n ≤ near.countP fun other =>
        manager.taskScore now task ≤ manager.taskScore now other := by
  have hbest := best_take hmade hanswer
  constructor
  · intro hall task htask
    have hpositive : 0 < far.length := List.length_pos_of_mem htask
    -- with fewer tasks in reach there would be one more suggestion
    have henough : n ≤ near.length := by
      have hcounts := hbest.length.symm.trans hall.length
      rw [List.length_append] at hcounts
      omega
    refine (score_le_iff hmade hanswer henough).mp
      (hall.best task (List.mem_append_right _ htask) fun hin => ?_)
    obtain ⟨suggestion, hsuggestion, hid⟩ := List.mem_map.mp hin
    obtain ⟨other, hother, hof, -⟩ := hbest.made suggestion hsuggestion
    rw [List.map_append] at hkeys
    exact (List.nodup_append.mp hkeys).2.2 other.id (List.mem_map_of_mem hother) task.id
      (List.mem_map_of_mem htask) (hof.symm.trans hid)
  · intro hbehind
    rcases far.eq_nil_or_concat with rfl | ⟨others, last, rfl⟩
    · rwa [List.append_nil]
    have henough : n ≤ near.length :=
      (hbehind last (by simp)).trans List.countP_le_length
    refine ⟨?_, hbest.sorted, fun suggestion hsuggestion => ?_, fun task htask hout => ?_⟩
    · rw [hbest.length, List.length_append, Nat.min_eq_left henough,
        Nat.min_eq_left (Nat.le_add_right_of_le henough)]
    · obtain ⟨task, htask, hof⟩ := hbest.made suggestion hsuggestion
      exact ⟨task, List.mem_append_left _ htask, hof⟩
    · rcases List.mem_append.mp htask with hnear | hfar
      · exact hbest.best task hnear hout
      · exact (score_le_iff hmade hanswer henough).mpr (hbehind task hfar)

end BrainSuggestResult

/-- Suggestions are the best of all eligible tasks exactly when none of those behind the
newest 512 task rows is better than enough of those before. -/
theorem suggest_best_iff {manager : BrainManager} {query : BrainSuggestQuery} {w : World}
    {answer : BrainSuggestResult} (hkeys : w.brain.Keyed)
    (h : ((manager.suggest query).eval w).1 = .ok answer) :
    let now := w.around.clock (w.around.ticks + 4)
    let rows := (manager.retained w.around w.brain).tasks
    answer.Best manager now (manager.eligibleTasks query rows) (max query.limit 1) ↔
      ¬ manager.Overlooks query now rows := by
  obtain ⟨listed, entities, suggestions, hlisted, hmade, hanswer⟩ :=
    manager.suggest_answers query h
  intro now rows
  have heligible : (listed.filter fun task =>
      BrainManager.isOpenStatus task.status && scopeMatches task.scopeJson query.scopeJson) =
        manager.tasksInReach query rows := by
    rw [BrainManager.tasksInReach, BrainManager.eligibleTasks, ← Table.filterMap_of_mapM_ok hlisted]
    rfl
  rw [heligible] at hmade
  have hperm := manager.perm_tasks query rows
  have hnodup : ((manager.tasksInReach query rows ++ manager.tasksBehind query rows).map
      BrainTaskRecord.id).Nodup :=
    (hperm.map _).nodup_iff.mp ((manager.sublist_eligibleTasks query rows).nodup
      (manager.keyed_retained w.around hkeys).tasks)
  have hboth : answer.Best manager now (manager.eligibleTasks query rows) (max query.limit 1) ↔
      answer.Best manager now
        (manager.tasksInReach query rows ++ manager.tasksBehind query rows) (max query.limit 1) :=
    ⟨fun hbest => hbest.perm hperm, fun hbest => hbest.perm hperm.symm⟩
  rw [hboth, BrainSuggestResult.best_append_iff hmade hanswer hnodup, BrainManager.Overlooks]
  simp only [not_exists, not_and, Nat.not_lt]
  exact Iff.rfl

/-! ## Suggestions that are made -/

namespace BrainManager

variable (manager : BrainManager)

/-- Where the database refuses nothing and no row decays, there is an answer when
each task has a score. -/
theorem suggest_ok {query : BrainSuggestQuery} {w : World} {age : Int} {cutoff : Instant}
    {listed : List BrainTaskRecord} {entities : List BrainEntityRecord}
    (henabled : manager.config.enabled = true) (hencrypts : manager.encryption.Encrypts)
    (haccepts : ∀ n, w.around.refuses n = false) (hlasting : Lasting w.brain)
    (hage : secondsDuration (manager.config.archiveDecayDays * 86400) = some age)
    (hcutoff : shift (w.around.clock w.around.ticks) (-age) = some cutoff)
    (hlisted : (newest TaskRow.updatedAt TaskRow.archived false w.brain.tasks).mapM
      manager.taskRecord = .ok listed)
    (hentities : (newest EntityRow.updatedAt EntityRow.archived false w.brain.entities).mapM
      manager.entityRecord = .ok entities)
    (hmade : ∀ now, ∃ suggestions, (listed.filter fun task =>
      isOpenStatus task.status && scopeMatches task.scopeJson query.scopeJson).mapM
        (manager.suggestion entities now) = some suggestions) :
    ∃ answer, ((manager.suggest query).eval w).1 = .ok answer := by
  have hrun : wp (manager.suggest query) (fun _ r _ => ∃ answer, r = .ok answer) [] w := by
    refine Op.wp_bind (manager.wp_requireEnabled henabled (Op.andThen_ok ?_))
    refine Op.wp_bind (manager.wp_applyRetention haccepts hlasting hage hcutoff
      fun labels w' hstill => Op.andThen_ok ?_)
    refine Op.wp_bind (wp_selection hstill hlisted fun labels w' hstill => Op.andThen_ok ?_)
    refine Op.wp_bind (wp_selection hstill hentities fun labels w' hstill => Op.andThen_ok ?_)
    refine Op.wp_bind (EngineOp.wp_now (Op.andThen_ok ?_))
    obtain ⟨suggestions, hsuggestions⟩ := hmade (w'.around.clock w'.around.ticks)
    rw [hsuggestions]
    refine Op.wp_bind (Op.wp_pure (Op.andThen_ok ?_))
    have hprojections := fun suggestion : BrainSuggestionRecord =>
      (succeeds_upsertProjection hencrypts "brain-suggestions" suggestion.id
        s!"{suggestion.summary} {suggestion.reason} {suggestion.contextJson}"
        (Externals.jsonText (.obj
          [("score", .num suggestion.score), ("task_id", .str suggestion.taskId)]))).ignore
    exact Op.wp_bind ((EngineOp.Succeeds.each hprojections _).wp hstill.accepts
      fun _ _ _ _ => Op.andThen_ok (Op.wp_pure ⟨_, rfl⟩))
  exact hrun

/-- Retention changes nothing where no row decays. -/
theorem retained_of_lasting (around : Surroundings) {t : BrainTables} (h : Lasting t) :
    manager.retained around t = t := by
  simp only [retained, h.entities, h.facts, h.tasks]

end BrainManager

end

/-! ## A task behind 512 archived ones -/

/-- A finished task that has been archived. -/
def archivedTask (n : Nat) : TaskRow where
  taskId := String.ofList (List.replicate n 'a')
  status := "done"
  priority := "normal"
  dueAt := none
  encryptedBlobJson :=
    storedPlain BrainManager.taskFields ["call", "call", "\x7b\x7d", "[]", "message"]
  salience := 1
  confidence := 1
  fingerprint := ""
  archived := true
  sourceRef := "message"
  createdAt := 0
  updatedAt := 1000000000

/-- An open task of channel 1, which is older. -/
def openTask : TaskRow where
  taskId := "open"
  status := "open"
  priority := "urgent"
  dueAt := none
  encryptedBlobJson :=
    storedPlain BrainManager.taskFields ["pay", "pay", channelScope "1", "[]", "message"]
  salience := 1
  confidence := 1
  fingerprint := "pay"
  archived := false
  sourceRef := "message"
  createdAt := 0
  updatedAt := 0

def openRecord : BrainTaskRecord where
  id := "open"
  title := "pay"
  summary := "pay"
  status := "open"
  priority := "urgent"
  dueAt := none
  scopeJson := channelScope "1"
  linksJson := "[]"
  salience := 1
  confidence := 1
  archived := false
  createdAt := 0
  updatedAt := 0

/-- So many archived tasks and the open one. -/
def archiveRows (n : Nat) : List TaskRow := (List.range n).map archivedTask ++ [openTask]

def archiveWorld (n : Nat) : World :=
  { World.fresh countingSurroundings fun _ => .ok "" with
    brain := ⟨[], [], [], archiveRows n, []⟩ }

/-- A request for one suggestion. -/
def oneSuggestion : BrainSuggestQuery := ⟨"", 1⟩

theorem taskRecord_open :
    @BrainManager.taskRecord jsonExternals plainBrain openTask = .ok openRecord := by
  have hpayload : @BrainManager.decryptPayload jsonExternals plainBrain BrainManager.taskFields
      openTask.encryptedBlobJson = .ok ["pay", "pay", channelScope "1", "[]", "message"] :=
    decryptPayload_storedPlain rfl (by decide) rfl
  unfold BrainManager.taskRecord
  rw [hpayload]
  rfl

theorem mem_archiveRows {n : Nat} {row : TaskRow} (h : row ∈ archiveRows n) :
    (∃ k, row = archivedTask k) ∨ row = openTask := by
  rcases List.mem_append.mp h with harchived | hopen
  · obtain ⟨k, -, rfl⟩ := List.mem_map.mp harchived
    exact Or.inl ⟨k, rfl⟩
  · exact Or.inr (List.mem_singleton.mp hopen)

theorem lasting_archive (n : Nat) :
    @BrainManager.Lasting jsonExternals (archiveWorld n).brain := by
  refine @BrainManager.Lasting.mk jsonExternals _ (fun _ _ => rfl) (fun _ _ => rfl)
    fun cutoff now => ?_
  refine Table.updateWhere_of_none fun row hrow => ?_
  rcases mem_archiveRows hrow with ⟨k, rfl⟩ | rfl
  · rfl
  · simp [openTask]

/-- The archived tasks are the newest. -/
theorem descending_archive (n : Nat) :
    (@Table.descending _ _ _ _ (fun row : TaskRow => @stamp jsonExternals row.updatedAt)
      (archiveRows n)) = archiveRows n := by
  have hle : @stamp jsonExternals 0 ≤ @stamp jsonExternals 1000000000 := by decide
  refine List.Pairwise.insertionSort_eq (List.pairwise_append.mpr ⟨?_, ?_, ?_⟩)
  · refine List.pairwise_map.mpr (List.pairwise_of_forall fun k k' => le_refl _)
  · exact List.pairwise_singleton _ _
  · intro row hrow last hlast
    obtain ⟨k, -, rfl⟩ := List.mem_map.mp hrow
    cases List.mem_singleton.mp hlast
    exact hle

theorem nodup_archive (n : Nat) : ((archiveRows n).map TaskRow.taskId).Nodup := by
  have hlength : ∀ k, (String.ofList (List.replicate k 'a')).length = k := by simp
  rw [archiveRows, List.map_append, List.map_map, List.nodup_append]
  refine ⟨List.nodup_range.map fun k k' hk => ?_, List.nodup_singleton _, ?_⟩
  · have hlengths := congrArg String.length hk
    simpa [archivedTask] using hlengths
  · intro id hid other hother heq
    obtain ⟨k, -, rfl⟩ := List.mem_map.mp hid
    rw [List.mem_singleton.mp hother] at heq
    have hchars : List.replicate k 'a' = ['o', 'p', 'e', 'n'] := by
      simpa [archivedTask, openTask] using congrArg String.toList heq
    have hin : 'o' ∈ List.replicate k 'a' := hchars ▸ List.mem_cons_self
    exact absurd (List.eq_of_mem_replicate hin) (by decide)

theorem encrypts_plain : @EncryptionManager.Encrypts jsonExternals plainBrain.encryption := by
  intro nonce text
  exact ⟨_, rfl⟩

/-- The open task has a score at every instant. -/
theorem suggestion_open (entities : List BrainEntityRecord) (now : Instant) :
    ∃ suggestion, @BrainManager.suggestion jsonExternals plainBrain entities now openRecord =
      some suggestion :=
  ⟨_, rfl⟩

/-- There is an answer when the first rows list all or nothing. -/
theorem suggest_archive {n : Nat} {listed : List BrainTaskRecord} (hlisted : listed = [] ∨
      listed = [openRecord])
    (hread : (@BrainManager.newest jsonExternals _ TaskRow.updatedAt TaskRow.archived false
      (archiveRows n)).mapM (@BrainManager.taskRecord jsonExternals plainBrain) = .ok listed) :
    ∃ answer, ((@BrainManager.suggest jsonExternals plainBrain oneSuggestion).eval
      (archiveWorld n)).1 = .ok answer := by
  have hcutoff : shift (countingSurroundings.clock countingSurroundings.ticks)
      (-2592000000000000) = some (-2592000000000000) := by
    decide
  refine @BrainManager.suggest_ok jsonExternals plainBrain oneSuggestion (archiveWorld n) _ _
    listed [] rfl encrypts_plain (fun _ => rfl) (lasting_archive n) retention_contact hcutoff hread
    rfl fun now => ?_
  rcases hlisted with rfl | rfl
  · exact ⟨[], rfl⟩
  · obtain ⟨suggestion, hsuggestion⟩ := suggestion_open [] now
    have hlisted : ([openRecord].filter fun task => BrainManager.isOpenStatus task.status &&
        @scopeMatches jsonExternals task.scopeJson oneSuggestion.scopeJson) = [openRecord] := by
      decide
    rw [hlisted, List.mapM_cons, hsuggestion]
    exact ⟨[suggestion], rfl⟩

/-- Behind three archived tasks the open one is suggested. -/
theorem suggest_best_iff_open :
    ∃ answer, ((@BrainManager.suggest jsonExternals plainBrain oneSuggestion).eval
        (archiveWorld 3)).1 = .ok answer ∧
      @BrainSuggestResult.Best jsonExternals answer plainBrain 4000000000
        (@BrainManager.eligibleTasks jsonExternals plainBrain oneSuggestion (archiveRows 3)) 1 := by
  have hread : (@BrainManager.newest jsonExternals _ TaskRow.updatedAt TaskRow.archived false
      (archiveRows 3)).mapM (@BrainManager.taskRecord jsonExternals plainBrain) =
        .ok [openRecord] := by
    have hnewest : @BrainManager.newest jsonExternals _ TaskRow.updatedAt TaskRow.archived false
        (archiveRows 3) = [openTask] := by
      unfold BrainManager.newest
      rw [descending_archive]
      rfl
    rw [hnewest, List.mapM_cons, taskRecord_open]
    rfl
  have hkeyed : (archiveWorld 3).brain.Keyed :=
    ⟨List.nodup_nil, List.nodup_nil, List.nodup_nil, nodup_archive 3⟩
  obtain ⟨answer, hanswer⟩ := suggest_archive (Or.inr rfl) hread
  have hiff := @suggest_best_iff jsonExternals plainBrain oneSuggestion _ _ hkeyed hanswer
  rw [@BrainManager.retained_of_lasting jsonExternals _ _ _ (lasting_archive 3)] at hiff
  refine ⟨answer, hanswer, hiff.mpr ?_⟩
  have hnone : (archiveRows 3).drop 512 = [] := rfl
  rintro ⟨task, htask, -⟩
  change task ∈ @BrainManager.tasksBehind jsonExternals plainBrain oneSuggestion
    (archiveRows 3) at htask
  unfold BrainManager.tasksBehind at htask
  rw [descending_archive, hnone] at htask
  exact absurd htask List.not_mem_nil

/-- Behind 512 archived tasks it is not, whatever the time. -/
theorem suggest_best_iff_fails :
    ¬ ∀ [Externals] (manager : BrainManager) (query : BrainSuggestQuery) (w : World)
        (answer : BrainSuggestResult), w.brain.Keyed →
      ((manager.suggest query).eval w).1 = .ok answer → ∃ now, answer.Best manager now
        (manager.eligibleTasks query (manager.retained w.around w.brain).tasks)
          (max query.limit 1) := by
  intro h
  have hnewest : @BrainManager.newest jsonExternals _ TaskRow.updatedAt TaskRow.archived false
      (archiveRows 512) = [] := by
    unfold BrainManager.newest
    rw [descending_archive, archiveRows, List.take_left' (by simp)]
    refine List.filter_eq_nil_iff.mpr fun row hrow => ?_
    obtain ⟨k, -, rfl⟩ := List.mem_map.mp hrow
    simp [archivedTask]
  have hread : (@BrainManager.newest jsonExternals _ TaskRow.updatedAt TaskRow.archived false
      (archiveRows 512)).mapM (@BrainManager.taskRecord jsonExternals plainBrain) = .ok [] := by
    rw [hnewest]
    rfl
  obtain ⟨answer, hanswer⟩ := suggest_archive (Or.inl rfl) hread
  have hnone : answer.suggestions = [] := by
    obtain ⟨listed, entities, suggestions, hlisted, hmade, hsuggestions⟩ :=
      @BrainManager.suggest_answers jsonExternals plainBrain oneSuggestion _ _ hanswer
    rw [@BrainManager.retained_of_lasting jsonExternals _ _ _ (lasting_archive 512)] at hlisted
    cases hlisted.symm.trans hread
    cases hmade
    exact hsuggestions
  have hkeyed : (archiveWorld 512).brain.Keyed :=
    ⟨List.nodup_nil, List.nodup_nil, List.nodup_nil, nodup_archive 512⟩
  obtain ⟨now, hbest⟩ := @h jsonExternals plainBrain oneSuggestion _ _ hkeyed hanswer
  have hopen : openRecord ∈ @BrainManager.eligibleTasks jsonExternals plainBrain oneSuggestion
      (archiveRows 512) := by
    refine List.mem_filter.mpr ⟨List.mem_filterMap.mpr ⟨openTask, ?_, ?_⟩, by decide⟩
    · exact List.mem_filter.mpr ⟨List.mem_append_right _ (List.mem_singleton.mpr rfl), rfl⟩
    · rw [taskRecord_open]
      rfl
  have hlength := @BrainSuggestResult.Best.length jsonExternals _ _ _ _ _ hbest
  rw [@BrainManager.retained_of_lasting jsonExternals _ _ _ (lasting_archive 512), hnone] at hlength
  have hpositive := List.length_pos_of_mem hopen
  have hmin : 0 = min 1 (@BrainManager.eligibleTasks jsonExternals plainBrain oneSuggestion
      (archiveRows 512)).length := hlength
  omega

end OpenPinch
