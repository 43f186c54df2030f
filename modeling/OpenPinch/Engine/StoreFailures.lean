import OpenPinch.Common.JsonText
import OpenPinch.Engine.BrainManager
import OpenPinch.Engine.Rules

/-!
# What a failed operation leaves

An operation of the store sends its statements one after the other, with no
transaction around them.  `Stmt.Leaves` says what is left when it fails: the
tables as they were, or, if the database refuses one of its statements, the
tables as the statements before this one left them (`StopsAt`).
-/

namespace OpenPinch

open Lib (Op wp Table.insert Table.updateWhere Table.deleteWhere)
open Lib.Op (after result)

/-! ## Updates in order -/

section

variable {τ α : Type}

/-- The updates, in order. -/
def applyAll (updates : List (τ → τ)) (t : τ) : τ := updates.foldl (fun t f => f t) t

/-- One of the statements that come next is refused: the tables are as those
before it leave them.  Of it and those behind it nothing is written. -/
def StopsAt (around : Surroundings) (updates : List (τ → τ)) (t t' : τ) : Prop :=
  ∃ k < updates.length, (∀ j < k, around.refuses (around.statements + j) = false) ∧
    around.refuses (around.statements + k) = true ∧ t' = applyAll (updates.take k) t

theorem StopsAt.here {around : Surroundings} {updates : List (τ → τ)} {f : τ → τ} {t : τ}
    (h : around.refuses around.statements = true) : StopsAt around (f :: updates) t t :=
  ⟨0, Nat.succ_pos _, fun _ hj => absurd hj (Nat.not_lt_zero _), h, rfl⟩

theorem StopsAt.cons {around : Surroundings} {updates : List (τ → τ)} {f : τ → τ} {t t' : τ}
    (h : StopsAt (Stmt.sent around) updates (f t) t')
    (haccepted : around.refuses around.statements = false) :
    StopsAt around (f :: updates) t t' := by
  obtain ⟨k, hk, hbefore, hrefused, rfl⟩ := h
  have hnext : ∀ j, (Stmt.sent around).statements + j = around.statements + (j + 1) :=
    fun j => Nat.succ_add_eq_add_succ _ _
  refine ⟨k + 1, Nat.succ_lt_succ hk, fun j hj => ?_, ?_, rfl⟩
  · cases j with
    | zero => exact haccepted
    | succ j => exact hnext j ▸ hbefore j (Nat.lt_of_succ_lt_succ hj)
  · exact hnext k ▸ hrefused

namespace Stmt

/-- A statement fails at one of its updates, which the database refuses. -/
def Stops (updates : List (τ → τ)) (m : Stmt τ α) (s : Surroundings × τ) : Prop :=
  ∀ e, result m s = .error e → StopsAt s.1 updates s.2 (after m s).2

/-- A statement that fails leaves the tables as they were, or stops at an update. -/
def Leaves (updates : List (τ → τ)) (m : Stmt τ α) (s : Surroundings × τ) : Prop :=
  ∀ e, result m s = .error e → (after m s).2 = s.2 ∨ StopsAt s.1 updates s.2 (after m s).2

variable {updates : List (τ → τ)} {s : Surroundings × τ}

theorem Stops.leaves {m : Stmt τ α} (h : Stops updates m s) : Leaves updates m s :=
  fun e he => Or.inr (h e he)

theorem leaves_fail (message : String) : Leaves updates (fail message : Stmt τ α) s :=
  fun _ _ => Or.inl rfl

theorem stops_pure (a : α) : Stops updates (Pure.pure a) s := fun _ he => nomatch he

theorem stops_now {rest : Instant → Stmt τ α}
    (h : Stops updates (rest (s.1.clock s.1.ticks)) ({ s.1 with ticks := s.1.ticks + 1 }, s.2)) :
    Stops updates (now >>= rest) s :=
  h

/-- The database refuses the update, or goes on to the rest. -/
theorem stops_update {β : Type} {f : τ → τ} {g : τ → β} {rest : β → Stmt τ α}
    (h : Stops updates (rest (g s.2)) (sent s.1, f s.2)) :
    Stops (f :: updates) (sql (fun t => .ok (g t, f t)) >>= rest) s := by
  intro e he
  rw [after_sql_bind]
  cases hrefuses : s.1.refuses s.1.statements with
  | true => exact StopsAt.here hrefuses
  | false =>
      have hsent : after (sql fun t => .ok (g t, f t)) s = (sent s.1, f s.2) := by
        simp [after, sql, sent, hrefuses]
      rw [result_bind, result_sql, hsent] at he
      simp only [hrefuses, Bool.false_eq_true, if_false] at he ⊢
      exact (h e he).cons hrefuses

theorem stops_end {β : Type} {f : τ → τ} {g : τ → β} :
    Stops [f] (sql fun t => .ok (g t, f t)) s := by
  intro e he
  rw [result_sql] at he
  rw [after_sql]
  split at he
  · rename_i hrefused
    rw [if_pos hrefused]
    exact StopsAt.here hrefused
  · cases he

theorem stops_execute {f : τ → τ} : Stops [f] (execute f) s := stops_end

theorem stops_select {β : Type} {f : τ → β} {rest : β → Stmt τ α}
    (h : Stops updates (rest (f s.2)) (sent s.1, s.2)) :
    Stops (id :: updates) (select f >>= rest) s :=
  stops_update h

/-- Of the last update nothing is left when it fails, whatever it is. -/
theorem stops_last {f f' : τ → τ} (a : α) : Stops [f'] (execute f >>= fun _ => Pure.pure a) s := by
  intro e he
  obtain ⟨k, hk, -, hrefused, hleft⟩ := stops_update (@stops_pure τ α [] _ a) e he
  obtain rfl : k = 0 := Nat.lt_one_iff.mp hk
  exact hleft ▸ StopsAt.here hrefused

/-- An insertion violates a constraint and nothing comes of it, or it is an update. -/
theorem leaves_insert {f : τ → Option τ} {g : τ → τ} {rest : Unit → Stmt τ α}
    (hf : ∀ t t', f t = some t' → t' = g t) (h : Stops updates (rest ()) (sent s.1, g s.2)) :
    Leaves (g :: updates) (insert f >>= rest) s := by
  intro e he
  rw [after_insert_bind]
  cases hrefuses : s.1.refuses s.1.statements with
  | true => exact Or.inl rfl
  | false =>
      cases hrow : f s.2 with
      | none => exact Or.inl rfl
      | some t =>
          have hsent : after (insert f) s = (sent s.1, t) := by
            simp [after, insert, sql, sent, hrefuses, hrow]
          rw [result_bind, insert, result_sql, ← insert, hsent] at he
          simp only [hrefuses, hrow, Bool.false_eq_true, if_false] at he ⊢
          cases hf _ _ hrow
          exact Or.inr ((h e he).cons hrefuses)

/-! ### Statements that return -/

/-- A statement that returns has made the updates. -/
def Performs (updates : List (τ → τ)) (m : Stmt τ α) (s : Surroundings × τ) : Prop :=
  ∀ a, result m s = .ok a → (after m s).2 = applyAll updates s.2

theorem performs_fail (message : String) : Performs updates (fail message : Stmt τ α) s :=
  fun _ h => nomatch h

theorem performs_now {rest : Instant → Stmt τ α}
    (h : Performs updates (rest (s.1.clock s.1.ticks))
      ({ s.1 with ticks := s.1.ticks + 1 }, s.2)) :
    Performs updates (now >>= rest) s :=
  h

theorem performs_execute {f : τ → τ} : Performs [f] (execute f) s := by
  intro a ha
  cases hrefused : s.1.refuses s.1.statements with
  | true =>
      rw [result, run_execute_refused hrefused] at ha
      cases ha
  | false =>
      rw [after, run_execute hrefused]
      rfl

theorem performs_bind {f : τ → τ} {rest : Unit → Stmt τ α}
    (h : Performs updates (rest ()) (sent s.1, f s.2)) :
    Performs (f :: updates) (execute f >>= rest) s := by
  intro a ha
  obtain ⟨u, hu, hrest⟩ := result_bind_ok ha
  cases hrefused : s.1.refuses s.1.statements with
  | true =>
      rw [result, run_execute_refused hrefused] at hu
      cases hu
  | false =>
      rw [after, run_execute hrefused] at hrest
      rw [after_execute_bind, hrefused]
      exact h a hrest

end Stmt

end

/-! ## The updates of the operations -/

section

variable [Externals]

/-- `record_session_message`: the message, and its session. -/
def recordUpdates (row : SessionMessageRow) (preview : String) :
    List (Conversations → Conversations) :=
  let change (session : SessionRow) : SessionRow :=
    { session with
      lastMessagePreview := preview
      messageCount := session.messageCount + 1
      status := "active"
      updatedAt := row.createdAt }
  [fun t => { t with sessionMessages := t.sessionMessages ++ [row] },
    fun t => { t with
      sessions := Table.updateWhere (·.sessionId == row.sessionId) change t.sessions }]

/-- `update_pairing`: the pairing, the select of its row, and the session it belongs to. -/
def pairingUpdates (pairingId status note : String) (now later : Instant) :
    List (Conversations → Conversations) :=
  let change (row : PairingRow) : PairingRow :=
    { row with status := status, note := note, updatedAt := now }
  [fun t => { t with pairings := Table.updateWhere (·.pairingId == pairingId) change t.pairings },
    id,
    fun t =>
      match t.pairings.find? (·.pairingId == pairingId) with
      | some row => StateStore.setPendingPairing row.sessionId (status == "pending") later t
      | none => t]

/-- `prune_sessions`: the messages of old sessions, and these. -/
def deleteUpdates (threshold : Instant) : List (Conversations → Conversations) :=
  let gone (t : Conversations) (message : SessionMessageRow) : Bool :=
    t.sessions.any fun row =>
      row.sessionId == message.sessionId && StateStore.isOlder threshold row
  [fun t => { t with sessionMessages := Table.deleteWhere (gone t) t.sessionMessages },
    fun t => { t with sessions := Table.deleteWhere (StateStore.isOlder threshold) t.sessions }]

/-- `forget`, with the time of each statement. -/
def forgetUpdates (clock : Nat → Instant) (targetKind mode targetId : String) :
    List (BrainTables → BrainTables) :=
  let archiveFacts (test : FactRow → Bool) (now : Instant) (t : BrainTables) : BrainTables :=
    { t with facts := Table.updateWhere test
              (fun row => { row with archived := true, updatedAt := now }) t.facts }
  let archiveRelations (test : RelationRow → Bool) (now : Instant) (t : BrainTables) :
      BrainTables :=
    { t with relations := Table.updateWhere test
              (fun row => { row with archived := true, updatedAt := now }) t.relations }
  let deleteFacts (test : FactRow → Bool) (t : BrainTables) : BrainTables :=
    { t with facts := Table.deleteWhere test t.facts }
  let deleteRelations (test : RelationRow → Bool) (t : BrainTables) : BrainTables :=
    { t with relations := Table.deleteWhere test t.relations }
  match targetKind, mode with
  | "entity", "archive" =>
      [fun t => { t with entities := Table.updateWhere (·.entityId == targetId)
                          (fun row => { row with archived := true, updatedAt := clock 0 })
                          t.entities },
        archiveFacts (·.entityId == targetId) (clock 1),
        archiveRelations (BrainManager.touches targetId) (clock 2)]
  | "task", "archive" =>
      [fun t => { t with tasks := Table.updateWhere (·.taskId == targetId)
                          (fun row => { row with archived := true, updatedAt := clock 0 })
                          t.tasks }]
  | "fact", "archive" => [archiveFacts (·.factId == targetId) (clock 0)]
  | "relation", "archive" => [archiveRelations (·.relationId == targetId) (clock 0)]
  | "entity", "delete" =>
      [deleteFacts (·.entityId == targetId), deleteRelations (BrainManager.touches targetId),
        fun t => { t with entities := Table.deleteWhere (·.entityId == targetId) t.entities }]
  | "task", "delete" =>
      [fun t => { t with tasks := Table.deleteWhere (·.taskId == targetId) t.tasks },
        deleteRelations (BrainManager.touches targetId)]
  | "fact", "delete" => [deleteFacts (·.factId == targetId)]
  | "relation", "delete" => [deleteRelations (·.relationId == targetId)]
  | _, _ => []

open Stmt (Leaves Stops stops_pure stops_now stops_update stops_select stops_end stops_execute
  stops_last leaves_insert leaves_fail)

omit [Externals] in
/-- `forget` knows four kinds of targets and two modes. -/
theorem BrainManager.forgetStmt_cases (targetKind mode targetId : String) :
    ((targetKind = "entity" ∨ targetKind = "task" ∨ targetKind = "fact" ∨
        targetKind = "relation") ∧ (mode = "archive" ∨ mode = "delete")) ∨
      ∃ message, BrainManager.forgetStmt targetKind mode targetId = Stmt.fail message := by
  unfold BrainManager.forgetStmt
  split
  case h_9 => exact Or.inr ⟨_, rfl⟩
  all_goals exact Or.inl (by simp)

omit [Externals] in
theorem leaves_forgetStmt (targetKind mode targetId : String) (s : Surroundings × BrainTables) :
    Leaves (forgetUpdates (fun n => s.1.clock (s.1.ticks + n)) targetKind mode targetId)
      (BrainManager.forgetStmt targetKind mode targetId) s := by
  rcases BrainManager.forgetStmt_cases targetKind mode targetId with
    ⟨rfl | rfl | rfl | rfl, rfl | rfl⟩ | ⟨message, hfail⟩
  · refine Stops.leaves (stops_now (stops_update (stops_now ?_)))
    exact stops_update (stops_now stops_execute)
  · refine Stops.leaves (stops_update ?_)
    exact stops_update stops_execute
  · exact Stops.leaves (stops_now stops_execute)
  · exact Stops.leaves (stops_update stops_execute)
  · exact Stops.leaves (stops_now stops_execute)
  · exact Stops.leaves stops_execute
  · exact Stops.leaves (stops_now stops_execute)
  · exact Stops.leaves stops_execute
  · rw [hfail]
    exact leaves_fail message

theorem leaves_deleteSessionsStmt (threshold : Instant) (s : Surroundings × Conversations) :
    Leaves (deleteUpdates threshold) (StateStore.deleteSessionsStmt threshold) s :=
  Stops.leaves (stops_update stops_end)

omit [Externals] in
/-- A pairing that is not found leaves the tables as they were. -/
theorem after_updatePairingStmt_unknown {pairingId : String} (status note : String)
    (now : Instant) (s : Surroundings × Conversations)
    (hunknown : ∀ row ∈ s.2.pairings, row.pairingId ≠ pairingId) :
    (after (StateStore.updatePairingStmt pairingId status note now) s).2 = s.2 := by
  have hsame : Table.updateWhere (·.pairingId == pairingId)
      (fun row => { row with status := status, note := note, updatedAt := now }) s.2.pairings =
        s.2.pairings :=
    Lib.Table.updateWhere_of_none fun row hrow => by simpa using hunknown row hrow
  have hnone : s.2.pairings.find? (·.pairingId == pairingId) = none :=
    List.find?_eq_none.mpr fun row hrow => by simpa using hunknown row hrow
  rw [StateStore.updatePairingStmt, Stmt.after_execute_bind, hsame,
    StateStore.updatePairingRest, Stmt.after_select_bind, hnone]
  split
  · rfl
  · split <;> rfl

omit [Externals] in
theorem leaves_updatePairingStmt (pairingId status note : String) (now : Instant)
    (s : Surroundings × Conversations) :
    Leaves (pairingUpdates pairingId status note now (s.1.clock s.1.ticks))
      (StateStore.updatePairingStmt pairingId status note now) s := by
  by_cases hunknown : ∀ row ∈ s.2.pairings, row.pairingId ≠ pairingId
  · exact fun _ _ => Or.inl (after_updatePairingStmt_unknown status note now s hunknown)
  · -- the row is still there behind the update of it
    obtain ⟨row, hrow⟩ : ∃ row, (Table.updateWhere (·.pairingId == pairingId)
        (fun row => { row with status := status, note := note, updatedAt := now })
          s.2.pairings).find? (·.pairingId == pairingId) = some row := by
      refine Option.isSome_iff_exists.mp ?_
      rw [Lib.Table.find?_updateWhere, Option.isSome_map, List.find?_isSome]
      · simpa using hunknown
      · exact fun _ => rfl
    refine Stops.leaves (stops_update (stops_select ?_))
    simp only [hrow]
    exact stops_now (stops_last _)

omit [Externals] in
theorem leaves_recordStmt {row : SessionMessageRow} {preview messageId : String}
    (s : Surroundings × Conversations) :
    Leaves (recordUpdates row preview) (do
      Stmt.insert fun t =>
        (Table.insert (·.messageId == messageId) row t.sessionMessages).map fun rows =>
          { t with sessionMessages := rows }
      Stmt.execute fun t => { t with
        sessions := Table.updateWhere (·.sessionId == row.sessionId) (fun session =>
          { session with
            lastMessagePreview := preview
            messageCount := session.messageCount + 1
            status := "active"
            updatedAt := row.createdAt }) t.sessions }
      return messageId) s := by
  refine leaves_insert (fun t t' ht => ?_) (stops_last _)
  obtain ⟨rows, hrows, rfl⟩ := Option.map_eq_some_iff.mp ht
  rw [(Lib.Table.insert_eq_some.mp hrows).2]

/-! ## Operations -/

/-- The tables of sessions and pairings, and those of the brain. -/
structure StoreTables where
  conversations : Conversations
  brain : BrainTables

def World.storeTables (w : World) : StoreTables := ⟨w.conversations, w.brain⟩

/-- The operations of several statements. -/
inductive StoreOperation where
  | recordSessionMessage (sessionId connector role sender body metadataJson : String)
  | updatePairing (request : PairingUpdate)
  /-- `prune_sessions` that deletes. -/
  | pruneSessions (olderThanHours : Nat)
  | forget (manager : BrainManager) (request : BrainForget)

namespace StoreOperation

/-- The operation, less the value it returns. -/
def run : StoreOperation → EngineOp Unit
  | recordSessionMessage sessionId connector role sender body metadataJson => do
      let _ ← StateStore.recordSessionMessage sessionId connector role sender body metadataJson
      return ()
  | updatePairing request => do
      let _ ← StateStore.updatePairing request
      return ()
  | pruneSessions olderThanHours => do
      let _ ← StateStore.pruneSessions ⟨olderThanHours, false⟩
      return ()
  | forget manager request => do
      let _ ← manager.forget request
      return ()

/-- An update of conversations. -/
def inConversations (f : Conversations → Conversations) (t : StoreTables) : StoreTables :=
  { t with conversations := f t.conversations }

/-- An update of the brain. -/
def inBrain (f : BrainTables → BrainTables) (t : StoreTables) : StoreTables :=
  { t with brain := f t.brain }

/-- The updates of an operation that starts in a world, in order. -/
def updates (w : World) : StoreOperation → List (StoreTables → StoreTables)
  | recordSessionMessage sessionId connector role sender body metadataJson =>
      let uuid := w.around.uuid w.around.uuids
      let row : SessionMessageRow :=
        { messageId := s!"session-message-{uuid}"
          sessionId := sessionId
          connector := connector
          role := role
          sender := sender
          body := body
          metadataJson := metadataJson
          createdAt := w.around.clock w.around.ticks }
      (recordUpdates row (truncateWithEllipsis body 120)).map inConversations
  | updatePairing request =>
      (pairingUpdates request.pairingId (StateStore.requestedStatus request.action) request.note
        (w.around.clock w.around.ticks) (w.around.clock (w.around.ticks + 1))).map inConversations
  | pruneSessions olderThanHours =>
      match shift (w.around.clock w.around.ticks) (-(max olderThanHours 1 * hour)) with
      | some threshold => (deleteUpdates threshold).map inConversations
      | none => []
  | forget _ request =>
      let mode := if request.mode = "" then "archive" else request.mode
      (forgetUpdates (fun n => w.around.clock (w.around.ticks + n))
        (normalizeForgetTargetKind request.targetKind) mode
        request.targetId).map inBrain

/-- An operation that fails leaves the tables as they were, or stops at an update. -/
def Partial (w : World) (updates : List (StoreTables → StoreTables)) (r : Except Fault Unit)
    (w' : World) : Prop :=
  ∀ e, r = .error e →
    w'.storeTables = w.storeTables ∨ StopsAt w.around updates w.storeTables w'.storeTables

variable {w : World} {labels : List Event}

omit [Externals] in
/-- Updates inside of other tables come out inside of them. -/
theorem applyAll_map {τ : Type} {inside : (τ → τ) → StoreTables → StoreTables}
    {put : τ → StoreTables} (hinside : ∀ f t, inside f (put t) = put (f t))
    (updates : List (τ → τ)) (t : τ) :
    applyAll (updates.map inside) (put t) = put (applyAll updates t) := by
  induction updates generalizing t with
  | nil => rfl
  | cons f updates ih =>
      show applyAll (updates.map inside) (inside f (put t)) = _
      rw [hinside, ih]
      rfl

omit [Externals] in
/-- What a statement leaves of its tables, the store has of them. -/
theorem partial_of_leaves {τ α : Type} {label : Event} {view : View τ} {m : Stmt τ α}
    {updates : List (τ → τ)} {inside : (τ → τ) → StoreTables → StoreTables}
    (put : τ → StoreTables) (hinside : ∀ f t, inside f (put t) = put (f t))
    (hget : w.storeTables = put (view.get w))
    (hset : ∀ around t, (view.set { w with around := around } t).storeTables = put t)
    (h : Leaves updates m (w.around, view.get w)) :
    wp (EngineOp.guardedAs label view m) (fun _ r w' =>
      Partial w (updates.map inside) (r.map fun _ => ()) w') labels w := by
  refine Op.wp_guarded fun e he => ?_
  rw [View.result_run] at he
  rw [View.after_run, hset, hget]
  cases hresult : result m (w.around, view.get w) with
  | ok a =>
      rw [hresult] at he
      cases he
  | error fault =>
      rcases h fault hresult with hsame | ⟨k, hk, hbefore, hrefused, hleft⟩
      · exact Or.inl (congrArg put hsame)
      · refine Or.inr ⟨k, by rwa [List.length_map], hbefore, hrefused, ?_⟩
        rw [← List.map_take, applyAll_map hinside]
        exact congrArg put hleft

omit [Externals] in
theorem partial_conversations {α : Type} {label : Event} {m : Stmt Conversations α}
    {updates : List (Conversations → Conversations)}
    (h : Leaves updates m (w.around, w.conversations)) :
    wp (EngineOp.guardedAs label .conversations m) (fun _ r w' =>
      Partial w (updates.map inConversations) (r.map fun _ => ()) w') labels w :=
  partial_of_leaves (StoreTables.mk · w.brain) (fun _ _ => rfl) rfl (fun _ _ => rfl) h

omit [Externals] in
theorem partial_brain {α : Type} {label : Event} {m : Stmt BrainTables α}
    {updates : List (BrainTables → BrainTables)} (h : Leaves updates m (w.around, w.brain)) :
    wp (EngineOp.guardedAs label .brain m) (fun _ r w' =>
      Partial w (updates.map inBrain) (r.map fun _ => ()) w') labels w :=
  partial_of_leaves (StoreTables.mk w.conversations) (fun _ _ => rfl) rfl (fun _ _ => rfl) h

omit [Externals] in
/-- The value of an operation is dropped. -/
theorem partial_drop {α : Type} {start : World} {updates : List (StoreTables → StoreTables)}
    {p : EngineOp α}
    (h : wp p (fun _ r w' => Partial start updates (r.map fun _ => ()) w') labels w) :
    wp (do
      let _ ← p
      return () : EngineOp Unit) (fun _ r w' => Partial start updates r w') labels w := by
  refine Op.wp_bind (Lib.wp_mono h ?_)
  rintro labels (fault | a) w' hpart
  · exact hpart
  · exact Op.andThen_ok (Op.wp_pure nofun)

omit [Externals] in
/-- The projections of a target are dropped without an error. -/
theorem wp_dropProjections_ok (mode targetId : String) :
    wp (BrainManager.dropProjections mode targetId) (fun _ r _ => r = .ok ()) labels w := by
  have hdrop : ∀ (nameSpace key : String) (labels : List Event) (w : World),
      wp (EngineOp.ignore (BrainManager.deleteProjection nameSpace key))
        (fun _ r _ => r = .ok ()) labels w := by
    intro nameSpace key labels w
    refine EngineOp.wp_ignore (Op.wp_guarded ⟨?_, rfl⟩)
    rw [View.result_run]
    exact Stmt.noPanic_sql _ _
  unfold BrainManager.dropProjections
  split
  · refine Op.wp_bind (Lib.wp_mono (hdrop _ _ _ _) ?_)
    rintro labels _ w ⟨rfl⟩
    refine Op.andThen_ok (Op.wp_bind (Lib.wp_mono (hdrop _ _ _ _) ?_))
    rintro labels _ w ⟨rfl⟩
    refine Op.andThen_ok (Op.wp_bind (Lib.wp_mono (hdrop _ _ _ _) ?_))
    rintro labels _ w ⟨rfl⟩
    exact Op.andThen_ok (hdrop _ _ _ _)
  · exact Op.wp_pure rfl

theorem partial_pruneSessions (olderThanHours : Nat) :
    wp (StateStore.pruneSessions ⟨olderThanHours, false⟩) (fun _ r w' =>
      Partial w ((pruneSessions olderThanHours).updates w) (r.map fun _ => ()) w') labels w := by
  refine Op.wp_bind (EngineOp.wp_now (Op.andThen_ok ?_))
  simp only [updates]
  cases shift (w.around.clock w.around.ticks) (-(max olderThanHours 1 * hour)) with
  | none => exact Op.wp_bind (Op.wp_fail fun _ _ => Or.inl rfl)
  | some threshold =>
      refine Op.wp_bind (Op.wp_pure (Op.andThen_ok (Op.wp_bind (Lib.wp_mono
        (partial_conversations (leaves_deleteSessionsStmt threshold _)) ?_))))
      rintro labels (fault | changed) w' hpart
      · exact hpart
      · exact Op.andThen_ok (Op.wp_pure nofun)

theorem partial_forget (manager : BrainManager) (request : BrainForget) :
    wp (manager.forget request) (fun _ r w' =>
      Partial w ((forget manager request).updates w) (r.map fun _ => ()) w') labels w := by
  unfold BrainManager.forget BrainManager.requireEnabled
  split
  · refine Op.wp_bind (Op.wp_pure (Op.andThen_ok (Op.wp_bind (Lib.wp_mono
      (partial_brain (leaves_forgetStmt _ _ _ _)) ?_))))
    rintro labels (fault | _) w' hpart
    · exact hpart
    · refine Op.andThen_ok (Op.wp_bind (Lib.wp_mono (wp_dropProjections_ok _ _) ?_))
      rintro labels _ w ⟨rfl⟩
      exact Op.andThen_ok (Op.wp_pure nofun)
  · exact Op.wp_bind (Op.wp_fail fun _ _ => Or.inl rfl)

theorem partial_run (operation : StoreOperation) :
    wp operation.run (fun _ r w' => Partial w (operation.updates w) r w') labels w := by
  cases operation with
  | recordSessionMessage sessionId connector role sender body metadataJson =>
      refine partial_drop (Op.wp_bind (Op.wp_stmt (Op.andThen_ok ?_)))
      refine Op.wp_bind (EngineOp.wp_now (Op.andThen_ok ?_))
      exact partial_conversations (leaves_recordStmt _)
  | updatePairing request =>
      refine partial_drop (Op.wp_bind (EngineOp.wp_now (Op.andThen_ok ?_)))
      exact partial_conversations (leaves_updatePairingStmt _ _ _ _ _)
  | pruneSessions olderThanHours => exact partial_drop (partial_pruneSessions olderThanHours)
  | forget manager request => exact partial_drop (partial_forget manager request)

end StoreOperation

/-- An operation that fails leaves the tables as they were, or, if the database
refuses one of its statements, as the statements before this one leave them.  A
pairing that is not found leaves no trace. -/
theorem failure_leaves (operation : StoreOperation) (w : World) {e : Fault}
    (h : (operation.run.eval w).1 = .error e) :
    ((operation.run.eval w).2.storeTables = w.storeTables ∨
        StopsAt w.around (operation.updates w) w.storeTables
          (operation.run.eval w).2.storeTables) ∧
      ∀ request, operation = .updatePairing request →
        (∀ row ∈ w.conversations.pairings, row.pairingId ≠ request.pairingId) →
          (operation.run.eval w).2.storeTables = w.storeTables := by
  have hrun : wp operation.run (fun _ r w' =>
      StoreOperation.Partial w (operation.updates w) r w') [] w := operation.partial_run
  refine ⟨hrun e h, ?_⟩
  rintro request rfl hunknown
  have hsame : wp (StateStore.updatePairing request)
      (fun _ _ w' => w'.storeTables = w.storeTables) [] w := by
    refine Op.wp_bind (EngineOp.wp_now (Op.andThen_ok (Op.wp_guarded ?_)))
    rw [View.after_run]
    exact congrArg (StoreTables.mk · w.brain)
      (after_updatePairingStmt_unknown _ _ _ (_, w.conversations) hunknown)
  refine (Op.wp_bind (Lib.wp_mono hsame ?_) :
    wp (do
      let _ ← StateStore.updatePairing request
      return () : EngineOp Unit) (fun _ _ w' => w'.storeTables = w.storeTables) [] w)
  rintro labels (fault | pairing) w' h
  · exact h
  · exact Op.andThen_ok (Op.wp_pure h)

end

/-- A database that refuses the second statement. -/
def stumblingWorld : World :=
  .fresh { countingSurroundings with refuses := fun n => n == 1 } fun _ => .ok "hello"

/-- A message of a session that does not exist. -/
def greetingRecord : StoreOperation :=
  .recordSessionMessage "s" "telegram" "user" "7" "hi" "{}"

/-- The message is what the first statement leaves. -/
theorem failure_leaves_message :
    (((@StoreOperation.run jsonExternals greetingRecord).eval stumblingWorld).2.storeTables =
        stumblingWorld.storeTables ∨
      StopsAt stumblingWorld.around (@StoreOperation.updates jsonExternals stumblingWorld
          greetingRecord) stumblingWorld.storeTables
        ((@StoreOperation.run jsonExternals greetingRecord).eval stumblingWorld).2.storeTables) ∧
      ((@StoreOperation.run jsonExternals greetingRecord).eval
        stumblingWorld).2.conversations.sessionMessages.length = 1 :=
  have hfailed : ((@StoreOperation.run jsonExternals greetingRecord).eval stumblingWorld).1 =
      .error (.error "database error") := by
    decide
  ⟨(@failure_leaves jsonExternals greetingRecord stumblingWorld _ hfailed).1, by decide⟩

/-- A call that fails leaves its message. -/
theorem failure_leaves_fails :
    ¬ ∀ [Externals] (operation : StoreOperation) (w : World) {e : Fault},
      (operation.run.eval w).1 = .error e →
        (operation.run.eval w).2.storeTables = w.storeTables := by
  intro h
  have hfailed : ((@StoreOperation.run jsonExternals greetingRecord).eval stumblingWorld).1 =
      .error (.error "database error") := by
    decide
  have hsame := congrArg (fun t => t.conversations.sessionMessages.length)
    (@h jsonExternals greetingRecord stumblingWorld _ hfailed)
  exact absurd hsame (by decide)

end OpenPinch
