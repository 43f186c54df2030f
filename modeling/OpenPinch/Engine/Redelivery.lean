import OpenPinch.Engine.BrainClock
import OpenPinch.Engine.BrainKeys
import OpenPinch.Engine.NotedTasks
import OpenPinch.Engine.TaskUpdate

/-!
# A message that is delivered again

The identifiers under which `ingest_message` writes the contact, the body, the
mentions and the source are made from the message, so a second delivery finds them
all.  The task is another matter: the first delivery rewrites the task that is most
similar and so makes it the newest, and of several tasks with the same words the
search takes the last.  Then the second delivery takes another one.
-/

namespace OpenPinch

open Lib (Op System Table.updateWhere Table.upsertOn Table.descending Table.mem_descending
  Table.perm_descending Table.mapM_cons_ok Table.mapM_ok_of_forall Table.descending_upsertOn
  Table.take_filter_of_mem Table.mem_take_of_mem_filter Table.of_mem_upsertOn)
open EngineOp (Looks Writes writes_pure writes_collect Relates closed_relates)

/-! ## The mentions of a message -/

theorem mem_of_mem_dedup {α : Type} [DecidableEq α] {a : α} {items : List α}
    (h : a ∈ dedup items) : a ∈ items := by
  induction items using dedup.induct with
  | case1 => exact h
  | case2 b => exact h
  | case3 b rest ih =>
      rw [dedup, if_pos rfl] at h
      exact List.mem_cons_of_mem _ (ih h)
  | case4 b c rest hne ih =>
      rw [dedup, if_neg hne] at h
      rcases List.mem_cons.mp h with rfl | hlater
      · exact List.mem_cons_self
      · exact List.mem_cons_of_mem _ (ih hlater)

/-- The environments that a text mentions are of known subtypes. -/
theorem validateEntity_mention {content : String} {mention : String × String}
    (h : mention ∈ extractEnvironmentMentions content) :
    BrainManager.validateEntity "environment" mention.1 = .ok () := by
  have hmem := (List.mem_insertionSort _).mp (mem_of_mem_dedup h)
  rcases List.mem_append.mp hmem with hnamed | htitled
  · obtain ⟨⟨needle, subtype, title⟩, hneedle, hfound⟩ := List.mem_filterMap.mp hnamed
    dsimp only at hfound
    split at hfound
    · cases hfound
      have hsubtype := List.mem_map_of_mem (f := fun item => item.2.1) hneedle
      simp only [List.map_cons, List.map_nil, List.mem_cons, List.not_mem_nil, or_false] at hsubtype
      rcases hsubtype with h | h | h | h | h | h | h | h | h <;> rw [h] <;> rfl
    · cases hfound
  · obtain ⟨⟨start, subtype⟩, hstart, hfound⟩ := List.mem_filterMap.mp htitled
    obtain ⟨index, -, hfound⟩ := Option.bind_eq_some_iff.mp hfound
    dsimp only at hfound
    split at hfound
    · cases hfound
    · cases hfound
      have hsubtype := List.mem_map_of_mem (f := Prod.snd) hstart
      simp only [List.map_cons, List.map_nil, List.mem_cons, List.not_mem_nil, or_false] at hsubtype
      rcases hsubtype with h | h <;> rw [h] <;> rfl

/-! ## Due dates -/

/-- The due date of the message, counted from a look at the clock, is in the calendar. -/
def MessageEnvelope.DueFits (message : MessageEnvelope) (clock : Nat → Instant) (n : Nat) : Prop :=
  ∀ duration, dueAfter message.body = some duration → ∃ due, shift (clock n) duration = some due

/-- How often the clock is looked at for the due date. -/
def MessageEnvelope.dueLooks (message : MessageEnvelope) : Nat :=
  if (dueAfter message.body).isSome then 1 else 0

/-- The due date is found exactly where it is in the calendar. -/
theorem parseDueAt_ok_iff (message : MessageEnvelope) (w : World) :
    (∃ dueAt, (Lib.Prog.eval (parseDueAt message.body) w).1 = .ok dueAt) ↔
      message.DueFits w.around.clock w.around.ticks := by
  unfold parseDueAt MessageEnvelope.DueFits
  cases hdue : dueAfter message.body with
  | none => simpa using ⟨_, rfl⟩
  | some duration =>
      dsimp only
      rw [Op.eval_bind_ok (a := w.around.clock w.around.ticks) rfl]
      cases hshift : shift (w.around.clock w.around.ticks) duration with
      | none =>
          refine iff_of_false ?_ ?_
          · rintro ⟨dueAt, h⟩
            cases h
          · intro h
            obtain ⟨due, h⟩ := h duration rfl
            rw [hshift] at h
            cases h
      | some due =>
          refine iff_of_true ⟨some due, rfl⟩ ?_
          rintro other ⟨⟩
          exact ⟨due, hshift⟩

/-- The search for the due date looks at the clock and leaves the brain alone. -/
theorem gained_parseDueAt {message : MessageEnvelope} {w : World} {dueAt : Option Instant}
    (h : (Lib.Prog.eval (parseDueAt message.body) w).1 = .ok dueAt) :
    w.Gained [] message.dueLooks (Lib.Prog.eval (parseDueAt message.body) w).2 := by
  have hlooks : Looks message.dueLooks (parseDueAt message.body) := by
    unfold parseDueAt MessageEnvelope.dueLooks
    cases dueAfter message.body with
    | none => exact EngineOp.looks_pure none
    | some duration =>
        refine Looks.bind (m := 0) EngineOp.looks_now fun now => ?_
        refine Looks.bind (m := 0) (k := 0) ?_ fun due => EngineOp.looks_pure (some due)
        cases shift now duration with
        | none => exact fun _ _ => Op.returns_fail _
        | some due => exact EngineOp.looks_pure due
  refine hlooks.gained h (gains_same ?_)
  exact (((closed_relates Eq).parseDueAt (EngineOp.relates_now fun _ => rfl) message.body).eval
    (fun _ => rfl) (fun _ _ _ => Eq.trans) w).2.symm

/-- The clock has gone on from one look to the next, and the text of a later instant is the
greater one. -/
structure World.Rising [Externals] (w : World) : Prop where
  clock : ∀ m < w.around.ticks, ∀ n < m, w.around.clock n < w.around.clock m
  stamps : ∀ m < w.around.ticks, ∀ n < w.around.ticks, w.around.clock n < w.around.clock m →
    stamp (w.around.clock n) < stamp (w.around.clock m)

/-- A text that has words in common with another is similar to itself. -/
theorem similarity_self {left right : String} (h : 0 < similarity left right) :
    similarity left left = 1 := by
  unfold similarity at h ⊢
  cases hempty : (splitWhitespace left).isEmpty with
  | true => simp [hempty] at h
  | false =>
      have hall : (splitWhitespace left).countP
          (fun token => (splitWhitespace left).contains token) = (splitWhitespace left).length :=
        List.countP_eq_length.mpr fun token htoken => List.elem_eq_true_of_mem htoken
      have hlength : ((splitWhitespace left).length : Rat) ≠ 0 := by
        rw [Nat.cast_ne_zero, ne_eq, List.length_eq_zero_iff]
        exact fun hnil => by simp [hnil] at hempty
      simp only [hempty, Bool.or_self, Bool.false_eq_true, if_false, hall, Nat.add_sub_cancel]
      exact div_self hlength

namespace BrainManager

section

variable [Externals] (manager : BrainManager) (message : MessageEnvelope)

/-! ## What a delivery writes -/

/-- The keys of the contact and of the body. -/
def contactKeys : List BrainKey :=
  let contactId := (contactInput message).entityId
  [.entity contactId, .relation "knows" manager.ownerId contactId,
    .relation "mentioned_with" contactId manager.workspaceEnvId, .fact (bodyFactId message)]

/-- The keys of an entity that the message mentions. -/
def mentionKeys (input : EntityUpsert) : List BrainKey :=
  [.entity input.entityId,
    .relation "mentioned_with" (contactInput message).entityId input.entityId]

/-- The keys before those of the task. -/
def leadKeys : List BrainKey :=
  manager.contactKeys message ++ (mentionInputs message).flatMap (mentionKeys message)

/-- How often the clock is looked at before the task. -/
def leadLooks : Nat := 6 + 3 * (mentionInputs message).length

/-- The keys of a task that the message asks for. -/
def assignedKeys (taskId : String) : List BrainKey :=
  [.task taskId, .relation "assigned_to" taskId manager.ownerId,
    .relation "about" taskId (contactInput message).entityId]

/-- The contact, the body and the mentions. -/
def lead : EngineOp (String × List String) := do
  let contactId ← manager.ingestContact message
  let mentioned ← manager.ingestMentions message contactId
  return (contactId, mentioned)

/-- The entry of the log. -/
def recordMessage (linkedIds : List String) : EngineOp Unit :=
  recordIngest (messageSourceRef message) "message" (fingerprint message.body)
    (Externals.jsonText (.obj [("linked_ids", .arr (linkedIds.map .str))]))

/-- The task under an identifier, and the entry of the log. -/
def close (found : String × List String) (summary : String) (dueAt : Option Instant)
    (taskId : String) : EngineOp Unit := do
  let linkedIds ← manager.writeTask message found.1 (found.1 :: found.2)
    (taskInput message summary dueAt (found.1 :: found.2) (some taskId))
  recordMessage message linkedIds

/-- The task that the message is merged into. -/
def target (summary : String) (rows : List TaskRow) : String :=
  ((manager.similarTask summary (scopeForMessage message) rows).map BrainTaskRecord.id).getD
    (taskIdOf summary (scopeForMessage message))

variable {manager message}

theorem ingestMessage_none (hingests : (!manager.config.enabled ||
      !manager.config.autoIngestMessages) = false) (h : extractTaskSummary message.body = none) :
    manager.ingestMessage message =
      manager.lead message >>= fun found => recordMessage message (found.1 :: found.2) := by
  rw [ingestMessage, if_neg (Bool.eq_false_iff.mp hingests)]
  simp only [lead, bind_assoc, pure_bind, ingestTask, h]
  rfl

theorem ingestMessage_some (hingests : (!manager.config.enabled ||
      !manager.config.autoIngestMessages) = false) {summary : String}
    (h : extractTaskSummary message.body = some summary) :
    manager.ingestMessage message = (do
      let found ← manager.lead message
      let dueAt ← parseDueAt message.body
      let similar ← manager.findSimilarTask summary (scopeForMessage message)
      manager.close message found summary dueAt ((similar.map BrainTaskRecord.id).getD
        (taskIdOf summary (scopeForMessage message)))) := by
  rw [ingestMessage, if_neg (Bool.eq_false_iff.mp hingests)]
  simp only [lead, bind_assoc, pure_bind, ingestTask_some h, mergeTask, close]
  rfl

theorem writes_ingestContact (hencrypts : manager.encryption.Encrypts) :
    Writes (manager.contactKeys message) 6 (manager.ingestContact message)
      (· = (contactInput message).entityId) := by
  unfold ingestContact
  refine Writes.bind (m := 4) (writes_upsertEntity hencrypts rfl) fun contact hcontact => ?_
  rw [hcontact]
  refine Writes.bind (m := 3) (writes_upsertRelation rfl _ _ _ _ _) fun _ _ => ?_
  refine Writes.bind (m := 2) (writes_upsertRelation rfl _ _ _ _ _) fun _ _ => ?_
  have hfact (input : FactUpsert) (hid : input.factId = bodyFactId message) :
      Writes [.fact (bodyFactId message)] 2 (manager.upsertFact input) fun _ => True :=
    hid ▸ writes_upsertFact hencrypts input
  exact Writes.bind (m := 0) (hfact _ rfl) fun _ _ =>
    writes_pure (Q := (· = (contactInput message).entityId)) rfl

theorem writes_ingestMention (hencrypts : manager.encryption.Encrypts) (confidence : Rat)
    {input : EntityUpsert} (hvalid : validateEntity input.kind input.subtype = .ok ()) :
    Writes (mentionKeys message input) 3 (manager.ingestMention (contactInput message).entityId
      (messageSourceRef message) confidence input) fun _ => True := by
  unfold ingestMention
  refine Writes.bind (m := 1) (writes_upsertEntity hencrypts hvalid) fun entity hentity => ?_
  rw [hentity]
  exact Writes.bind (m := 0) (writes_upsertRelation rfl _ _ _ _ _) fun _ _ => writes_pure trivial

theorem writes_ingestMentions (hencrypts : manager.encryption.Encrypts) :
    Writes ((mentionInputs message).flatMap (mentionKeys message))
      (3 * (mentionInputs message).length)
      (manager.ingestMentions message (contactInput message).entityId) fun _ => True := by
  unfold ingestMentions
  rw [mentionInputs, List.flatMap_append, List.flatMap_map, List.flatMap_map, List.length_append,
    List.length_map, List.length_map, Nat.mul_add]
  have hartifact (artifact : String) := @writes_ingestMention _ manager message hencrypts (37 / 50)
    (artifactInput message (scopeForMessage message) (messageSourceRef message) artifact) rfl
  have hmentioned (mention : String × String)
      (hmention : mention ∈ extractEnvironmentMentions message.body) :=
    @writes_ingestMention _ manager message hencrypts (7 / 10)
      (environmentInput (scopeForMessage message) (messageSourceRef message) mention)
      (validateEntity_mention hmention)
  refine (writes_collect fun artifact _ => hartifact artifact).bind fun artifacts _ => ?_
  rw [← List.append_nil (List.flatMap _ (extractEnvironmentMentions message.body)),
    ← Nat.add_zero (3 * (extractEnvironmentMentions message.body).length)]
  exact (writes_collect hmentioned).bind fun _ _ => writes_pure trivial

theorem writes_lead (hencrypts : manager.encryption.Encrypts) :
    Writes (manager.leadKeys message) (leadLooks message) (manager.lead message)
      fun found => found.1 = (contactInput message).entityId := by
  refine (writes_ingestContact hencrypts).bind fun contactId hcontact => ?_
  rw [hcontact, ← List.append_nil (List.flatMap _ _),
    ← Nat.add_zero (3 * (mentionInputs message).length)]
  exact (writes_ingestMentions hencrypts).bind fun _ _ =>
    writes_pure (Q := fun found : String × List String =>
      found.1 = (contactInput message).entityId) rfl

theorem writes_close (hencrypts : manager.encryption.Encrypts) {found : String × List String}
    (hfound : found.1 = (contactInput message).entityId) (summary : String)
    (dueAt : Option Instant) (taskId : String) :
    Writes (manager.assignedKeys message taskId ++ [.source (messageSourceRef message)]) 6
      (manager.close message found summary dueAt taskId) fun _ => True := by
  unfold close writeTask
  rw [hfound]
  refine Writes.bind (m := 1) (Q := fun _ => True) ?_ fun linkedIds _ => writes_recordIngest _ _ _ _
  refine Writes.bind (m := 2) (writes_upsertTask hencrypts rfl rfl) fun task htask => ?_
  rw [htask]
  refine Writes.bind (m := 1) (writes_upsertRelation rfl _ _ _ _ _) fun _ _ => ?_
  exact Writes.bind (m := 0) (writes_upsertRelation rfl _ _ _ _ _) fun _ _ => writes_pure trivial

end

/-! ## The most similar task -/

section

variable [Externals] (manager : BrainManager) (message : MessageEnvelope)

/-- The row as a candidate of a search, with its score. -/
def candidate (summary scopeJson : String) (row : TaskRow) : Option (BrainTaskRecord × Rat) :=
  match manager.taskRecord row with
  | .ok task =>
      let score := similarity (fingerprint summary) (fingerprint task.summary)
      if scopeMatches task.scopeJson scopeJson && 18 / 25 ≤ score then some (task, score) else none
  | .error _ => none

/-- The candidates of the search for the task of the message. -/
def candidates (summary : String) (rows : List TaskRow) : List (BrainTaskRecord × Rat) :=
  (newest TaskRow.updatedAt TaskRow.archived false rows).filterMap
    (manager.candidate summary (scopeForMessage message))

/-- The candidates besides the task that the message is merged into. -/
def rivals (summary : String) (rows : List TaskRow) : List (BrainTaskRecord × Rat) :=
  (manager.candidates message summary rows).filter fun rival =>
    rival.1.id != manager.target message summary rows

/-- The payload of every task is read. -/
def ReadsTasks (rows : List TaskRow) : Prop :=
  ∀ row ∈ rows, ∃ task, manager.taskRecord row = .ok task

variable {manager message}

theorem candidate_some {summary scopeJson : String} {row : TaskRow}
    {found : BrainTaskRecord × Rat} (h : manager.candidate summary scopeJson row = some found) :
    found.1.id = row.taskId ∧
      found.2 = similarity (fingerprint summary) (fingerprint found.1.summary) ∧
        18 / 25 ≤ found.2 := by
  unfold candidate at h
  split at h
  · rename_i task htask
    generalize hscore : similarity (fingerprint summary) (fingerprint task.summary) = score at h
    dsimp only at h
    split at h
    · rename_i hmatches
      cases h
      rw [Bool.and_eq_true, decide_eq_true_eq] at hmatches
      exact ⟨(taskRecord_entry htask).1, hscore.symm, hmatches.2⟩
    · cases h
  · cases h

/-- What a list that is read leaves of a search. -/
theorem filterMap_candidate {summary scopeJson : String} {rows : List TaskRow}
    {tasks : List BrainTaskRecord} (h : rows.mapM manager.taskRecord = .ok tasks) :
    ((tasks.filter fun task => scopeMatches task.scopeJson scopeJson).filterMap fun task =>
      let score := similarity (fingerprint summary) (fingerprint task.summary)
      if 18 / 25 ≤ score then some (task, score) else none) =
        rows.filterMap (manager.candidate summary scopeJson) := by
  induction rows generalizing tasks with
  | nil =>
      cases h
      rfl
  | cons row rows ih =>
      obtain ⟨task, rest, htask, hrest, rfl⟩ := Table.mapM_cons_ok h
      rw [List.filterMap_cons, ← ih hrest, candidate, htask]
      cases hscope : scopeMatches task.scopeJson scopeJson with
      | false => simp [hscope]
      | true => simp [hscope, List.filterMap_cons]

/-- The search takes the last of the best candidates. -/
theorem similarTask_eq {summary : String} {rows : List TaskRow} (h : manager.ReadsTasks rows) :
    manager.similarTask summary (scopeForMessage message) rows =
      (bestScored (manager.candidates message summary rows)).map Prod.fst := by
  have hread : ∀ row ∈ newest TaskRow.updatedAt TaskRow.archived false rows,
      ∃ task, manager.taskRecord row = .ok task := fun row hrow =>
    h row (Table.mem_descending.mp (List.mem_of_mem_take (List.mem_filter.mp hrow).1))
  obtain ⟨tasks, htasks⟩ := Table.mapM_ok_of_forall hread
  unfold similarTask
  rw [htasks, candidates, ← filterMap_candidate htasks]

/-- Without candidates for its words a summary is still written to where it was. -/
theorem target_of_bestScored {summary : String} {rows : List TaskRow}
    (h : manager.ReadsTasks rows) :
    manager.target message summary rows =
      match bestScored (manager.candidates message summary rows) with
      | some best => best.1.id
      | none => taskIdOf summary (scopeForMessage message) := by
  rw [target, similarTask_eq h]
  cases bestScored (manager.candidates message summary rows) <;> rfl

end

section

variable [Externals] {manager : BrainManager} {message : MessageEnvelope} {summary : String}

omit [Externals] in
theorem bestScored_eq_none {α : Type} {scored : List (α × Rat)} (h : bestScored scored = none) :
    scored = [] := by
  cases scored with
  | nil => rfl
  | cons entry rest =>
      unfold bestScored at h
      cases hrest : bestScored rest with
      | none => simp [hrest] at h
      | some best =>
          rw [hrest] at h
          dsimp only at h
          split at h <;> cases h

/-- A candidate is one of the rows that are listed. -/
theorem mem_candidates {rows : List TaskRow} {found : BrainTaskRecord × Rat}
    (h : found ∈ manager.candidates message summary rows) :
    ∃ row ∈ (Table.descending (fun row => stamp row.updatedAt) rows).take 512,
      found.1.id = row.taskId ∧
        found.2 = similarity (fingerprint summary) (fingerprint found.1.summary) ∧
          18 / 25 ≤ found.2 := by
  obtain ⟨row, hrow, hfound⟩ := List.mem_filterMap.mp h
  exact ⟨row, (List.mem_filter.mp hrow).1, candidate_some hfound⟩

/-- The rows that are listed behind the one that is written. -/
def listedBehind (taskId : String) (rows : List TaskRow) : List TaskRow :=
  (((Table.descending (fun row => stamp row.updatedAt) rows).filter
    fun row => row.taskId != taskId).take 511).filter fun row => false || !row.archived

/-- A task that is written now is listed first. -/
theorem newest_written {taskId : String} {input : TaskUpsert} {blobJson : String} {now : Instant}
    {rows : List TaskRow} (hkeys : (rows.map TaskRow.taskId).Nodup)
    (hnow : ∀ row ∈ rows, row.taskId ≠ taskId → stamp row.updatedAt < stamp now) :
    ∃ row : TaskRow, (row.taskId = taskId ∧ row.encryptedBlobJson = blobJson ∧
        row.dueAt = input.dueAt ∧ row.archived = false ∧ row.status = input.status) ∧
      newest TaskRow.updatedAt TaskRow.archived false (Table.upsertOn TaskRow.taskId
        (fun old => { taskRow taskId input blobJson now with createdAt := old.createdAt })
        (taskRow taskId input blobJson now) rows) = row :: listedBehind taskId rows := by
  obtain ⟨row, hrow, hlisted⟩ := @Table.descending_upsertOn _ _ _ _ _ _ TaskRow.taskId
    (fun row : TaskRow => stamp row.updatedAt)
    (fun old => { taskRow taskId input blobJson now with createdAt := old.createdAt })
    (taskRow taskId input blobJson now) rows hkeys (fun _ => rfl) hnow
  have hfields : row.taskId = taskId ∧ row.encryptedBlobJson = blobJson ∧
      row.dueAt = input.dueAt ∧ row.archived = false ∧ row.status = input.status := by
    rcases hrow with rfl | ⟨old, -, rfl⟩ <;> exact ⟨rfl, rfl, rfl, rfl, rfl⟩
  refine ⟨row, hfields, ?_⟩
  rw [newest, hlisted, List.take_succ_cons, List.filter_cons_of_pos (by simp [hfields.2.2.2.1])]
  rfl

/-- Rows are left out of a search with their candidates. -/
theorem filterMap_filter_ne {scopeJson gone : String} (rows : List TaskRow) :
    (rows.filter fun row => row.taskId != gone).filterMap (manager.candidate summary scopeJson) =
      (rows.filterMap (manager.candidate summary scopeJson)).filter fun found =>
        found.1.id != gone := by
  induction rows with
  | nil => rfl
  | cons row rows ih =>
      rw [List.filterMap_cons]
      cases hfound : manager.candidate summary scopeJson row with
      | none =>
          rw [← ih, List.filter_cons]
          split
          · rw [List.filterMap_cons, hfound]
          · rfl
      | some found =>
          rw [List.filter_cons, List.filter_cons, ← ih, (candidate_some hfound).1]
          split
          · rw [List.filterMap_cons, hfound]
          · rfl

/-- Behind the task that the message is merged into are its rivals. -/
theorem filterMap_listedBehind {rows : List TaskRow} (hkeys : (rows.map TaskRow.taskId).Nodup)
    (hreads : manager.ReadsTasks rows) :
    (listedBehind (manager.target message summary rows) rows).filterMap
        (manager.candidate summary (scopeForMessage message)) =
      manager.rivals message summary rows := by
  have hsorted : ((Table.descending (fun row : TaskRow => stamp row.updatedAt) rows).map
      TaskRow.taskId).Nodup :=
    ((Table.perm_descending _ rows).map TaskRow.taskId).nodup_iff.mpr hkeys
  by_cases hlisted : manager.target message summary rows ∈
      ((Table.descending (fun row => stamp row.updatedAt) rows).take 512).map TaskRow.taskId
  · rw [listedBehind, Table.take_filter_of_mem hsorted hlisted, List.filter_comm,
      filterMap_filter_ne]
    rfl
  · -- no candidate is the target, so there is none at all
    have hnone : manager.candidates message summary rows = [] := by
      refine bestScored_eq_none (Option.eq_none_iff_forall_ne_some.mpr fun best hbest => ?_)
      obtain ⟨row, hrow, hid, -⟩ := mem_candidates (mem_of_bestScored hbest)
      refine hlisted (List.mem_map.mpr ⟨row, hrow, ?_⟩)
      rw [target_of_bestScored hreads, hbest]
      exact hid.symm
    rw [rivals, hnone, List.filter_nil, List.filterMap_eq_nil_iff]
    intro row hrow
    obtain ⟨hbehind, hlive⟩ := List.mem_filter.mp hrow
    have hmem : row ∈ newest TaskRow.updatedAt TaskRow.archived false rows :=
      List.mem_filter.mpr ⟨Table.mem_take_of_mem_filter hsorted hbehind, hlive⟩
    exact List.filterMap_eq_nil_iff.mp hnone row hmem

/-- The task that a second delivery is merged into. -/
def nextTarget (manager : BrainManager) (message : MessageEnvelope) (summary : String)
    (rows : List TaskRow) : String :=
  match bestScored (manager.rivals message summary rows) with
  | some rival => if rival.2 < 1 then manager.target message summary rows else rival.1.id
  | none => manager.target message summary rows

/-- A task that is written now is listed first, and read. -/
theorem listed_written (json : JsonLaws) (laws : AeadLaws) {taskId : String} {input : TaskUpsert}
    {now : Instant} {t t' : BrainTables} (h : manager.WritesTask taskId input now t t')
    (hkeys : (t.tasks.map TaskRow.taskId).Nodup)
    (hnow : ∀ row ∈ t.tasks, row.taskId ≠ taskId → stamp row.updatedAt < stamp now) :
    ∃ row task, (row.taskId = taskId ∧ row.archived = false ∧ row.status = input.status) ∧
      (manager.taskRecord row = .ok task ∧ task.id = taskId ∧ task.kept = input.kept) ∧
      newest TaskRow.updatedAt TaskRow.archived false t'.tasks =
        row :: listedBehind taskId t.tasks := by
  obtain ⟨blobJson, hstores, rfl⟩ := h
  obtain ⟨row, ⟨hid, hblob, hdue, hlive, hstatus⟩, hlisted⟩ :=
    @newest_written _ taskId input blobJson now _ hkeys hnow
  obtain ⟨task, htask, hkept⟩ := taskRecord_stores json laws hstores hblob hdue
  exact ⟨row, task, ⟨hid, hlive, hstatus⟩, ⟨htask, (taskRecord_entry htask).1.trans hid, hkept⟩,
    hlisted⟩

/-- The texts of the task that has been written are read. -/
theorem reads_written (json : JsonLaws) (laws : AeadLaws) {taskId : String} {input : TaskUpsert}
    {now : Instant} {t t' : BrainTables} (h : manager.WritesTask taskId input now t t')
    (hreads : manager.ReadsTasks t.tasks) : manager.ReadsTasks t'.tasks := by
  obtain ⟨blobJson, hstores, rfl⟩ := h
  intro row hrow
  rcases Table.of_mem_upsertOn hrow with rfl | ⟨old, rfl⟩ | ⟨-, hbefore⟩
  · exact (taskRecord_stores json laws hstores rfl rfl).imp fun _ h => h.1
  · exact (taskRecord_stores json laws hstores rfl rfl).imp fun _ h => h.1
  · exact hreads row hbefore

/-- After the task of a message is written, the search for it finds it, or a rival with the
same words. -/
theorem target_written (json : JsonLaws) (laws : AeadLaws) {dueAt : Option Instant}
    {linkedIds : List String} {now : Instant} {t t' : BrainTables}
    (h : manager.WritesTask (manager.target message summary t.tasks)
      (taskInput message summary dueAt linkedIds
        (some (manager.target message summary t.tasks))) now t t')
    (hreads : manager.ReadsTasks t.tasks) (hkeys : (t.tasks.map TaskRow.taskId).Nodup)
    (hnow : ∀ row ∈ t.tasks, row.taskId ≠ manager.target message summary t.tasks →
      stamp row.updatedAt < stamp now) :
    manager.target message summary t'.tasks = manager.nextTarget message summary t.tasks := by
  rw [target_of_bestScored (reads_written json laws h hreads)]
  obtain ⟨row, task, -, ⟨htask, htaskId, hkept⟩, hlisted⟩ := listed_written json laws h hkeys hnow
  obtain ⟨hscope, hkept⟩ := Prod.mk.inj hkept
  obtain ⟨hsummary, -⟩ := Prod.mk.inj hkept
  have hown : manager.candidate summary (scopeForMessage message) row =
      if 18 / 25 ≤ similarity (fingerprint summary) (fingerprint summary) then
        some (task, similarity (fingerprint summary) (fingerprint summary)) else none := by
    rw [candidate, htask]
    dsimp only
    rw [hscope, hsummary, taskInput, scopeMatches_self json, Bool.true_and]
    simp only [decide_eq_true_eq]
  rw [candidates, hlisted, List.filterMap_cons, hown, filterMap_listedBehind hkeys hreads]
  by_cases hwords : 0 < similarity (fingerprint summary) (fingerprint summary)
  · rw [similarity_self hwords, if_pos (by norm_num), nextTarget]
    dsimp only
    rw [bestScored]
    cases bestScored (manager.rivals message summary t.tasks) with
    | none => exact htaskId
    | some rival =>
        by_cases hless : rival.2 < 1
        · simp only [hless, if_true]
          exact htaskId
        · simp only [hless, if_false]
  · -- without words nothing is similar, and the identifier is made from the texts
    have hnone : manager.candidates message summary t.tasks = [] := by
      refine List.eq_nil_iff_forall_not_mem.mpr fun found hfound => hwords ?_
      obtain ⟨other, -, -, hscore, hle⟩ := mem_candidates hfound
      rw [similarity_self (hscore ▸ lt_of_lt_of_le (by norm_num) hle)]
      norm_num
    have hrivals : manager.rivals message summary t.tasks = [] := by
      rw [rivals, hnone, List.filter_nil]
    rw [if_neg fun hle => hwords (lt_of_lt_of_le (by norm_num) hle), nextTarget, hrivals]
    dsimp only
    rw [bestScored]
    dsimp only
    rw [target_of_bestScored hreads, hnone]
    rfl

end

/-! ## One delivery -/

section

variable [Externals] {manager : BrainManager} {message : MessageEnvelope} {summary : String}

/-- The messages are taken in. -/
def Ingests (manager : BrainManager) : Prop :=
  (!manager.config.enabled || !manager.config.autoIngestMessages) = false

/-- Before the task the tasks stay. -/
theorem sameTasks_lead (manager : BrainManager) (message : MessageEnvelope) :
    Relates SameTasks (manager.lead message) := by
  have hclosed := closed_relates SameTasks
  refine hclosed.bind (manager.sameTasks_ingestContact message) fun contactId => ?_
  exact hclosed.bind (manager.sameTasks_ingestMentions message contactId) fun _ => hclosed.pure _

/-- The world between the search for the task and its upsert. -/
structure Searched (manager : BrainManager) (message : MessageEnvelope) (summary : String)
    (w : World) (found : String × List String) (dueAt : Option Instant) (w' : World) : Prop where
  named : found.1 = (contactInput message).entityId
  gained : w.Gained (manager.leadKeys message) (leadLooks message + message.dueLooks) w'
  tasks : w'.brain.tasks = w.brain.tasks
  accepts : w'.AcceptsAll
  run : (manager.ingestMessage message).eval w =
    Lib.Prog.eval (manager.close message found summary dueAt
      (manager.target message summary w.brain.tasks)) w'

/-- A delivery gets as far as the task where the due date is in the calendar. -/
theorem searched_of_fits (hencrypts : manager.encryption.Encrypts) (hingests : manager.Ingests)
    (hsummary : extractTaskSummary message.body = some summary) {w : World} (hw : w.AcceptsAll)
    {found : String × List String} (hlead : (Lib.Prog.eval (manager.lead message) w).1 = .ok found)
    (hfits : message.DueFits w.around.clock (w.around.ticks + leadLooks message)) :
    ∃ dueAt w', manager.Searched message summary w found dueAt w' := by
  obtain ⟨hnamed, hgained⟩ := (writes_lead hencrypts).written w found hlead
  obtain ⟨hlater, hsame⟩ := (sameTasks_lead manager message).eval SameTasks.refl SameTasks.trans w
  generalize hafter : (Lib.Prog.eval (manager.lead message) w).2 = before at hgained hlater hsame
  rw [← hgained.clock, ← hgained.ticks] at hfits
  obtain ⟨dueAt, hdue⟩ := (parseDueAt_ok_iff message before).mpr hfits
  have hgainedDue := gained_parseDueAt hdue
  obtain ⟨hlaterDue, hbrain⟩ := ((closed_relates Eq).parseDueAt
    (EngineOp.relates_now fun _ => rfl) message.body).eval (fun _ => rfl) (fun _ _ _ => Eq.trans)
      before
  generalize hdated : (Lib.Prog.eval (parseDueAt message.body) before).2 = dated
    at hgainedDue hlaterDue hbrain
  obtain ⟨hsimilar, hsent⟩ := wp_findSimilarTask summary (scopeForMessage message) dated
  have haccepts : dated.AcceptsAll := (hw.later hlater).later hlaterDue
  have htasks : dated.brain.tasks = w.brain.tasks := hbrain ▸ hsame.tasks
  have hgainedBoth := hgained.trans hgainedDue
  rw [List.append_nil] at hgainedBoth
  refine ⟨dueAt, { dated with around := Stmt.sent dated.around }, hnamed,
    ⟨hgainedBoth.gains, hgainedBoth.clock, hgainedBoth.ticks⟩, htasks, haccepts, ?_⟩
  rw [ingestMessage_some hingests hsummary, Op.eval_bind_ok hlead, hafter, Op.eval_bind_ok hdue,
    hdated, Op.eval_bind_ok hsimilar, hsent, foundTask, if_neg (by simp [haccepts _]), htasks]
  rfl

/-- A delivery that returns has got as far as the task. -/
theorem fits_of_ok (hencrypts : manager.encryption.Encrypts) (hingests : manager.Ingests)
    (hsummary : extractTaskSummary message.body = some summary) {w : World}
    (h : ((manager.ingestMessage message).eval w).1 = .ok ()) :
    ∃ found, (Lib.Prog.eval (manager.lead message) w).1 = .ok found ∧
      message.DueFits w.around.clock (w.around.ticks + leadLooks message) := by
  rw [ingestMessage_some hingests hsummary] at h
  obtain ⟨found, hlead, h⟩ := Op.bind_ok.mp h
  obtain ⟨dueAt, hdue, -⟩ := Op.bind_ok.mp h
  have hgained := ((writes_lead hencrypts).written w found hlead).2
  refine ⟨found, hlead, ?_⟩
  rw [← hgained.clock, ← hgained.ticks]
  exact (parseDueAt_ok_iff message _).mp ⟨dueAt, hdue⟩

/-- A task that is closed has been written, and nothing after it. -/
theorem close_writesTask {found : String × List String} {dueAt : Option Instant} {taskId : String}
    {w : World}
    (h : (Lib.Prog.eval (manager.close message found summary dueAt taskId) w).1 = .ok ()) :
    ∃ t, manager.WritesTask taskId (taskInput message summary dueAt (found.1 :: found.2)
        (some taskId)) (w.around.clock w.around.ticks) w.brain t ∧
      (Lib.Prog.eval (manager.close message found summary dueAt taskId) w).2.brain.tasks =
        t.tasks := by
  unfold close writeTask at h ⊢
  rw [bind_assoc] at h ⊢
  obtain ⟨task, htask, -⟩ := Op.bind_ok.mp h
  rw [Op.eval_bind_ok htask]
  have hclosed := closed_relates SameTasks
  refine ⟨_, ((@wp_upsertTask _ manager _ _ rfl w).1 task htask).2, SameTasks.tasks (Relates.eval
    SameTasks.refl SameTasks.trans ?_ _).2⟩
  refine hclosed.bind (hclosed.bind (sameTasks_upsertRelation _ _ _ _ _ _) fun _ =>
    hclosed.bind (sameTasks_upsertRelation _ _ _ _ _ _) fun _ => hclosed.pure _) fun _ => ?_
  exact relates_recordIngest SameTasks.refl SameTasks.trans (fun _ _ => ⟨rfl⟩) _ _ _ _

/-- What a delivery with a task has done that returned. -/
structure Delivered (manager : BrainManager) (message : MessageEnvelope) (summary : String)
    (w w' : World) : Prop where
  gained : w.Gained (manager.leadKeys message ++
      (manager.assignedKeys message (manager.target message summary w.brain.tasks) ++
        [.source (messageSourceRef message)])) (leadLooks message + message.dueLooks + 6) w'
  wrote : ∃ dueAt linkedIds t t', manager.WritesTask (manager.target message summary t.tasks)
      (taskInput message summary dueAt linkedIds (some (manager.target message summary t.tasks)))
      (w.around.clock (w.around.ticks + (leadLooks message + message.dueLooks))) t t' ∧
    t.tasks = w.brain.tasks ∧ w'.brain.tasks = t'.tasks

theorem delivered_of_ok (hencrypts : manager.encryption.Encrypts) (hingests : manager.Ingests)
    (hsummary : extractTaskSummary message.body = some summary) {w : World} (hw : w.AcceptsAll)
    (h : ((manager.ingestMessage message).eval w).1 = .ok ()) :
    manager.Delivered message summary w ((manager.ingestMessage message).eval w).2 := by
  obtain ⟨found, hlead, hfits⟩ := fits_of_ok hencrypts hingests hsummary h
  obtain ⟨dueAt, w', hsearched⟩ := searched_of_fits hencrypts hingests hsummary hw hlead hfits
  rw [hsearched.run] at h ⊢
  obtain ⟨t, hwrites, htasks⟩ := close_writesTask h
  rw [hsearched.gained.clock, hsearched.gained.ticks, ← hsearched.tasks] at hwrites
  exact ⟨hsearched.gained.trans ((writes_close hencrypts hsearched.named _ _ _).written w' () h).2,
    dueAt, _, w'.brain, t, hwrites, hsearched.tasks, htasks⟩

/-- Where the keys before the task and the source are there, a delivery returns and adds nothing
exactly when the due date is in the calendar and the keys of the task are there. -/
theorem redelivered_iff (hencrypts : manager.encryption.Encrypts) (hingests : manager.Ingests)
    (hsummary : extractTaskSummary message.body = some summary) {w : World} (hw : w.AcceptsAll)
    (hkeys : ∀ key ∈ manager.leadKeys message, w.brain.Contains key)
    (hsource : w.brain.Contains (.source (messageSourceRef message))) :
    (((manager.ingestMessage message).eval w).1 = .ok () ∧
      ∀ key, ((manager.ingestMessage message).eval w).2.brain.Contains key ↔
        w.brain.Contains key) ↔
    message.DueFits w.around.clock (w.around.ticks + leadLooks message) ∧
      ∀ key ∈ manager.assignedKeys message (manager.target message summary w.brain.tasks),
        w.brain.Contains key := by
  constructor
  · rintro ⟨hok, hsame⟩
    obtain ⟨found, hlead, hfits⟩ := fits_of_ok hencrypts hingests hsummary hok
    obtain ⟨dueAt, w', hsearched⟩ := searched_of_fits hencrypts hingests hsummary hw hlead hfits
    refine ⟨hfits, fun key hkey => (hsame key).mp ?_⟩
    rw [hsearched.run] at hok ⊢
    have hgained := ((writes_close hencrypts hsearched.named _ _ _).written w' () hok).2
    exact (hgained.gains key).mpr (Or.inr (List.mem_append_left _ hkey))
  · rintro ⟨hfits, htask⟩
    obtain ⟨found, hlead, -⟩ := (writes_lead hencrypts).again w hw hkeys
    obtain ⟨dueAt, w', hsearched⟩ := searched_of_fits hencrypts hingests hsummary hw hlead hfits
    have hcloses := @writes_close _ manager message hencrypts found hsearched.named summary dueAt
      (manager.target message summary w.brain.tasks)
    have hclosing : ∀ key ∈ manager.assignedKeys message
        (manager.target message summary w.brain.tasks) ++ [.source (messageSourceRef message)],
        w'.brain.Contains key := by
      intro key hkey
      refine (hsearched.gained.gains key).mpr (Or.inl ?_)
      rcases List.mem_append.mp hkey with htaskKey | hlog
      · exact htask key htaskKey
      · exact List.mem_singleton.mp hlog ▸ hsource
    obtain ⟨u, hu, -⟩ := hcloses.again w' hsearched.accepts hclosing
    rw [hsearched.run]
    exact ⟨hu, fun key => ((hcloses.written w' u hu).2.gains.none hclosing key).trans
      (hsearched.gained.gains.none hkeys key)⟩

/-! ## Two deliveries -/

/-- The rival with the same words that a search prefers, if there is one, is assigned to the owner
and about the contact. -/
def RivalLinked (manager : BrainManager) (message : MessageEnvelope) (summary : String)
    (t : BrainTables) : Prop :=
  ∀ rival, bestScored (manager.rivals message summary t.tasks) = some rival → 1 ≤ rival.2 →
    t.Contains (.relation "assigned_to" rival.1.id manager.ownerId) ∧
      t.Contains (.relation "about" rival.1.id (contactInput message).entityId)

/-- The keys of a rival are there after a delivery exactly when they were there before. -/
theorem contains_rival {w w' : World} (h : manager.Delivered message summary w w')
    {rival : BrainTaskRecord × Rat}
    (hrival : rival ∈ manager.rivals message summary w.brain.tasks) :
    (∀ key ∈ manager.assignedKeys message rival.1.id, w'.brain.Contains key) ↔
      w.brain.Contains (.relation "assigned_to" rival.1.id manager.ownerId) ∧
        w.brain.Contains (.relation "about" rival.1.id (contactInput message).entityId) := by
  obtain ⟨hcandidate, hne⟩ := List.mem_filter.mp hrival
  obtain ⟨row, hrow, hid, -⟩ := mem_candidates hcandidate
  have htask : w.brain.Contains (.task rival.1.id) :=
    List.mem_map.mpr ⟨row, Table.mem_descending.mp (List.mem_of_mem_take hrow), hid.symm⟩
  have hother : rival.1.id ≠ manager.target message summary w.brain.tasks := bne_iff_ne.mp hne
  have hassigned : w'.brain.Contains (.relation "assigned_to" rival.1.id manager.ownerId) ↔
      w.brain.Contains (.relation "assigned_to" rival.1.id manager.ownerId) := by
    refine (h.gained.gains _).trans (or_iff_left ?_)
    simp [leadKeys, contactKeys, mentionKeys, assignedKeys, hother]
  have habout : w'.brain.Contains (.relation "about" rival.1.id (contactInput message).entityId) ↔
      w.brain.Contains (.relation "about" rival.1.id (contactInput message).entityId) := by
    refine (h.gained.gains _).trans (or_iff_left ?_)
    simp [leadKeys, contactKeys, mentionKeys, assignedKeys, hother]
  rw [← hassigned, ← habout]
  constructor
  · intro hkeys
    exact ⟨hkeys _ (by simp [assignedKeys]), hkeys _ (by simp [assignedKeys])⟩
  · rintro ⟨howner, hcontact⟩ key hkey
    simp only [assignedKeys, List.mem_cons, List.not_mem_nil, or_false] at hkey
    rcases hkey with rfl | rfl | rfl
    · exact (h.gained.gains _).mpr (Or.inl htask)
    · exact howner
    · exact hcontact

/-- The task of a second delivery has its keys exactly when the rival with the same words is
linked. -/
theorem contains_nextTarget {w w' : World} (h : manager.Delivered message summary w w') :
    (∀ key ∈ manager.assignedKeys message (manager.nextTarget message summary w.brain.tasks),
      w'.brain.Contains key) ↔ manager.RivalLinked message summary w.brain := by
  have hown : ∀ key ∈ manager.assignedKeys message
      (manager.target message summary w.brain.tasks), w'.brain.Contains key := by
    intro key hkey
    refine (h.gained.gains key).mpr (Or.inr ?_)
    exact List.mem_append_right _ (List.mem_append_left _ hkey)
  unfold nextTarget RivalLinked
  cases hbest : bestScored (manager.rivals message summary w.brain.tasks) with
  | none =>
      refine iff_of_true hown ?_
      rintro _ ⟨⟩
  | some rival =>
      by_cases hless : rival.2 < 1
      · simp only [hless, if_true]
        refine iff_of_true hown ?_
        rintro other ⟨⟩ hscore
        exact absurd hless (not_lt.mpr hscore)
      · simp only [hless, if_false]
        rw [contains_rival h (mem_of_bestScored hbest)]
        constructor
        · rintro hlinked other ⟨⟩ -
          exact hlinked
        · intro hlinked
          exact hlinked rival rfl (not_lt.mp hless)

/-- A delivery, with a database that refuses nothing. -/
def deliver (manager : BrainManager) (message : MessageEnvelope) (w : World) :
    Except Fault Unit × World :=
  (manager.ingestMessage message).eval (w.refusing fun _ => false)

theorem delivered_of_deliver (hencrypts : manager.encryption.Encrypts)
    (hingests : manager.Ingests) (hsummary : extractTaskSummary message.body = some summary)
    {w : World} (hok : (manager.deliver message w).1 = .ok ()) :
    manager.Delivered message summary (w.refusing fun _ => false) (manager.deliver message w).2 :=
  delivered_of_ok hencrypts hingests hsummary (fun _ => rfl) hok

/-- The look at the clock from which a second delivery counts the due date. -/
def secondLook (message : MessageEnvelope) (w : World) : Nat :=
  w.around.ticks + (leadLooks message + message.dueLooks + 6) + leadLooks message

/-- The message asks for no task, or a second delivery finds its task where the first left it and
its due date in the calendar. -/
def Settled (manager : BrainManager) (message : MessageEnvelope) (w : World) : Prop :=
  manager.Ingests → ∀ summary, extractTaskSummary message.body = some summary →
    manager.RivalLinked message summary w.brain ∧
      message.DueFits w.around.clock (secondLook message w)

/-- A message that asks for no task is delivered again without a trace. -/
theorem redelivered_none (hencrypts : manager.encryption.Encrypts) (hingests : manager.Ingests)
    (hnone : extractTaskSummary message.body = none) {w : World}
    (hok : (manager.deliver message w).1 = .ok ()) :
    (manager.deliver message (manager.deliver message w).2).1 = .ok () ∧
      ∀ key, (manager.deliver message (manager.deliver message w).2).2.brain.Contains key ↔
        (manager.deliver message w).2.brain.Contains key := by
  have hwrites : Writes (manager.leadKeys message ++ [.source (messageSourceRef message)])
      (leadLooks message + 1) (manager.ingestMessage message) fun _ => True := by
    rw [ingestMessage_none hingests hnone]
    exact (writes_lead hencrypts).bind fun found _ => writes_recordIngest _ _ _ _
  have hgained := (hwrites.written _ () hok).2
  have hkeys : ∀ key ∈ manager.leadKeys message ++ [.source (messageSourceRef message)],
      (manager.deliver message w).2.brain.Contains key :=
    fun key hkey => (hgained.gains key).mpr (Or.inr hkey)
  obtain ⟨u, hu, -⟩ := hwrites.again ((manager.deliver message w).2.refusing fun _ => false)
    (fun _ => rfl) hkeys
  exact ⟨hu, (hwrites.written _ u hu).2.gains.none hkeys⟩

/-- The task that a second delivery looks for, after a first one. -/
theorem target_delivered (json : JsonLaws) (laws : AeadLaws) {w : World}
    (h : brainRuns.Reachable w) (hreads : manager.ReadsTasks w.brain.tasks) {w' : World}
    (hdelivered : manager.Delivered message summary (w.refusing fun _ => false) w')
    (hrising : w'.Rising) :
    manager.target message summary w'.brain.tasks =
      manager.nextTarget message summary w.brain.tasks := by
  obtain ⟨dueAt, linkedIds, t, t', hwrites, htasks, htasks'⟩ := hdelivered.wrote
  change t.tasks = w.brain.tasks at htasks
  have hkeys := (keyed_reachable h).tasks
  have hclock : w'.around.clock = w.around.clock := hdelivered.gained.clock
  have hticks : w'.around.ticks = w.around.ticks + (leadLooks message + message.dueLooks + 6) :=
    hdelivered.gained.ticks
  rw [← htasks] at hreads hkeys ⊢
  rw [htasks']
  refine target_written json laws hwrites hreads hkeys fun row hrow _ => ?_
  -- the row was dated before the delivery, the task after the search for it
  obtain ⟨n, hn, hdate⟩ := (dated_reachable h).tasks row (htasks ▸ hrow)
  have hlast : w.around.ticks + (leadLooks message + message.dueLooks) < w'.around.ticks := by
    omega
  have hbefore : n < w.around.ticks + (leadLooks message + message.dueLooks) := by
    have hlooked : n < w.around.ticks := hn
    omega
  have hstamps := hrising.stamps _ hlast n (hbefore.trans hlast) (hrising.clock _ hlast n hbefore)
  rw [hclock] at hstamps
  rw [← hdate]
  exact hstamps

/-- A message that asks for a task is delivered again without a trace exactly when no rival is in
the way. -/
theorem redelivered_some (json : JsonLaws) (laws : AeadLaws)
    (hencrypts : manager.encryption.Encrypts) (hingests : manager.Ingests)
    (hsummary : extractTaskSummary message.body = some summary) {w : World}
    (h : brainRuns.Reachable w) (hreads : manager.ReadsTasks w.brain.tasks)
    (hok : (manager.deliver message w).1 = .ok ())
    (hrising : (manager.deliver message w).2.Rising) :
    ((manager.deliver message (manager.deliver message w).2).1 = .ok () ∧
      ∀ key, (manager.deliver message (manager.deliver message w).2).2.brain.Contains key ↔
        (manager.deliver message w).2.brain.Contains key) ↔
    manager.RivalLinked message summary w.brain ∧
      message.DueFits w.around.clock (secondLook message w) := by
  have hdelivered := delivered_of_deliver hencrypts hingests hsummary hok
  have htarget := target_delivered json laws h hreads hdelivered hrising
  have hlead : ∀ key ∈ manager.leadKeys message,
      (manager.deliver message w).2.brain.Contains key := fun key hkey =>
    (hdelivered.gained.gains key).mpr (Or.inr (List.mem_append_left _ hkey))
  have hsource : (manager.deliver message w).2.brain.Contains
      (.source (messageSourceRef message)) := by
    refine (hdelivered.gained.gains _).mpr (Or.inr (List.mem_append_right _ ?_))
    exact List.mem_append_right _ List.mem_cons_self
  have hclock : (manager.deliver message w).2.around.clock = w.around.clock :=
    hdelivered.gained.clock
  have hticks : (manager.deliver message w).2.around.ticks =
      w.around.ticks + (leadLooks message + message.dueLooks + 6) := hdelivered.gained.ticks
  refine (redelivered_iff hencrypts hingests hsummary
    (w := (manager.deliver message w).2.refusing fun _ => false) (fun _ => rfl) hlead
    hsource).trans ?_
  show message.DueFits (manager.deliver message w).2.around.clock
      ((manager.deliver message w).2.around.ticks + leadLooks message) ∧
    (∀ key ∈ manager.assignedKeys message
      (manager.target message summary (manager.deliver message w).2.brain.tasks),
        (manager.deliver message w).2.brain.Contains key) ↔ _
  rw [hclock, hticks, htarget, and_comm]
  exact and_congr_left' (@contains_nextTarget _ _ _ _ (w.refusing fun _ => false) _ hdelivered)

end

end BrainManager

open BrainManager

/-- A message whose delivery returned is delivered again without a trace exactly when no rival
with the same words as its task is in the way. -/
theorem redelivery_settled [Externals] {w : World} (h : brainRuns.Reachable w) (json : JsonLaws)
    (laws : AeadLaws) {manager : BrainManager} (hencrypts : manager.encryption.Encrypts)
    (hreads : manager.ReadsTasks w.brain.tasks) {message : MessageEnvelope}
    (hok : (manager.deliver message w).1 = .ok ())
    (hrising : (manager.deliver message w).2.Rising) :
    ((manager.deliver message (manager.deliver message w).2).1 = .ok () ∧
      ∀ key, (manager.deliver message (manager.deliver message w).2).2.brain.Contains key ↔
        (manager.deliver message w).2.brain.Contains key) ↔ manager.Settled message w := by
  by_cases hingests : manager.Ingests
  · cases hsummary : extractTaskSummary message.body with
    | none =>
        refine iff_of_true (redelivered_none hencrypts hingests hsummary hok) ?_
        intro _ summary hsome
        cases hsummary.symm.trans hsome
    | some summary =>
        rw [redelivered_some json laws hencrypts hingests hsummary h hreads hok hrising]
        constructor
        · rintro hlinked - other hother
          cases hsummary.symm.trans hother
          exact hlinked
        · intro hsettled
          exact hsettled hingests summary hsummary
  · have hskips : manager.ingestMessage message = pure () := by
      rw [ingestMessage, if_pos (Bool.not_eq_false _ ▸ hingests)]
    refine iff_of_true ?_ fun hother => absurd hother hingests
    unfold deliver
    rw [hskips]
    exact ⟨rfl, fun key => Iff.rfl⟩

/-! ## A task in the way -/

section

variable [Externals] {manager : BrainManager} {message : MessageEnvelope} {summary : String}

/-- Of two tasks with the words of the message the search takes the older, and the newer is its
rival. -/
theorem BrainManager.rival_pair {rows : List TaskRow} {newer older : TaskRow}
    {rival task : BrainTaskRecord} {score : Rat} (hreads : manager.ReadsTasks rows)
    (hlisted : newest TaskRow.updatedAt TaskRow.archived false rows = [newer, older])
    (hrival : manager.candidate summary (scopeForMessage message) newer = some (rival, score))
    (htask : manager.candidate summary (scopeForMessage message) older = some (task, score))
    (hne : rival.id ≠ task.id) :
    manager.target message summary rows = task.id ∧
      bestScored (manager.rivals message summary rows) = some (rival, score) := by
  have hcandidates : manager.candidates message summary rows = [(rival, score), (task, score)] := by
    rw [candidates, hlisted, List.filterMap_cons, hrival, List.filterMap_cons, htask]
    rfl
  have htarget : manager.target message summary rows = task.id := by
    rw [target_of_bestScored hreads, hcandidates]
    simp [bestScored]
  refine ⟨htarget, ?_⟩
  rw [rivals, hcandidates, htarget]
  simp [hne, bestScored]

/-- A row of the task of the message. -/
structure BrainManager.HoldsTask (manager : BrainManager) (summary scopeJson : String)
    (row : TaskRow) : Prop where
  taskId : row.taskId = taskIdOf summary scopeJson
  live : row.archived = false
  status : row.status = "open"
  record : ∃ task, manager.taskRecord row = .ok task ∧ task.summary = summary ∧
    task.scopeJson = scopeJson

/-- After the first delivery to an empty brain its task is the only one. -/
theorem BrainManager.delivered_empty (json : JsonLaws) (laws : AeadLaws) {w w' : World}
    (hempty : w.brain.tasks = []) (h : manager.Delivered message summary w w') :
    ∃ row, w'.brain.tasks = [row] ∧ manager.HoldsTask summary (scopeForMessage message) row := by
  obtain ⟨dueAt, linkedIds, t, t', ⟨blobJson, hstores, rfl⟩, htasks, hafter⟩ := h.wrote
  rw [hempty] at htasks
  rw [htasks] at hstores hafter
  generalize hrow : taskRow (manager.target message summary []) _ blobJson _ = row at hafter
  have hblob : row.encryptedBlobJson = blobJson := hrow ▸ rfl
  have hdue : row.dueAt = dueAt := hrow ▸ rfl
  obtain ⟨task, htask, hkept⟩ := taskRecord_stores json laws hstores hblob hdue
  obtain ⟨hscope, hkept⟩ := Prod.mk.inj hkept
  refine ⟨row, hafter, ?_, hrow ▸ rfl, hrow ▸ rfl, task, htask, (Prod.mk.inj hkept).1, hscope⟩
  exact (congrArg TaskRow.taskId hrow).symm

/-- No task is found where no scope matches. -/
theorem BrainManager.foundTask_none {scopeJson : String} {w : World}
    (h : ∀ row ∈ w.brain.tasks, ∀ task, manager.taskRecord row = .ok task →
      scopeMatches task.scopeJson scopeJson = false) :
    manager.foundTask summary scopeJson w = none := by
  cases hfound : manager.foundTask summary scopeJson w with
  | none => rfl
  | some task =>
      unfold foundTask at hfound
      split at hfound
      · cases hfound
      · obtain ⟨row, hrow, htask, hmatches⟩ := similarTask_some hfound
        rw [h row hrow task htask] at hmatches
        cases hmatches

/-- A note of a task in another scope is listed before the task. -/
theorem BrainManager.remembered_beside (json : JsonLaws) (laws : AeadLaws)
    (hencrypts : manager.encryption.Encrypts) (henabled : manager.config.enabled = true)
    {request : BrainRemember} (hkind : request.kind = "task")
    (hdue : dueAfter request.content = none) {w : World} (hw : w.AcceptsAll) {age : Int}
    {cutoff : Instant}
    (hage : secondsDuration (manager.config.archiveDecayDays * 86400) = some age)
    (hcutoff : shift (w.around.clock w.around.ticks) (-age) = some cutoff) {row : TaskRow}
    {scopeJson : String} (htasks : w.brain.tasks = [row])
    (hrow : manager.HoldsTask summary scopeJson row)
    (hother : scopeMatches scopeJson (noteInput request).scopeJson = false)
    (hne : taskIdOf (noteInput request).summary (noteInput request).scopeJson ≠ row.taskId)
    (hnow : stamp row.updatedAt < stamp (w.around.clock (w.around.ticks + 4))) :
    ∃ newer, newest TaskRow.updatedAt TaskRow.archived false
        ((manager.remember request).eval w).2.brain.tasks = [newer, row] ∧
      manager.HoldsTask (noteInput request).summary (noteInput request).scopeJson newer ∧
      manager.ReadsTasks ((manager.remember request).eval w).2.brain.tasks ∧
      w.Gained [.task newer.taskId, .source (noteSource request)] 8
        ((manager.remember request).eval w).2 := by
  obtain ⟨kept, t, hkept, haccepts, hwrites, hafter, hgained⟩ :=
    remembered_task hkind hdue henabled hencrypts hw hage hcutoff
  obtain ⟨record, hrecord, -, hscope⟩ := hrow.record
  have hrows : kept.brain.tasks = [row] := by
    rw [hkept]
    show decayTasks _ _ w.brain.tasks = [row]
    rw [htasks, decayTasks, Table.updateWhere, List.map_cons, List.map_nil, if_neg]
    simp [hrow.status]
  have hnone : manager.foundTask (noteInput request).summary (noteInput request).scopeJson kept =
      none := by
    refine foundTask_none fun other hin task htask => ?_
    rw [hrows, List.mem_singleton] at hin
    subst hin
    cases hrecord.symm.trans htask
    rw [hscope, hother]
  have hid : manager.mergedId (noteInput request) kept =
      taskIdOf (noteInput request).summary (noteInput request).scopeJson := by
    rw [mergedId, hnone]
    rfl
  have hreads : manager.ReadsTasks kept.brain.tasks := by
    intro other hin
    rw [hrows, List.mem_singleton] at hin
    exact ⟨record, hin ▸ hrecord⟩
  rw [hid] at hwrites hgained
  have hkeys : (kept.brain.tasks.map TaskRow.taskId).Nodup := by
    rw [hrows]
    exact List.nodup_singleton _
  have hdates : ∀ other ∈ kept.brain.tasks, other.taskId ≠ taskIdOf (noteInput request).summary
      (noteInput request).scopeJson →
        stamp other.updatedAt < stamp (w.around.clock (w.around.ticks + 4)) := by
    intro other hin _
    rw [hrows, List.mem_singleton] at hin
    exact hin ▸ hnow
  obtain ⟨newer, task, ⟨hnewer, hlive, hstatus⟩, ⟨htask, -, htexts⟩, hlisted⟩ :=
    listed_written json laws hwrites hkeys hdates
  have hbehind : listedBehind (taskIdOf (noteInput request).summary (noteInput request).scopeJson)
      kept.brain.tasks = [row] := by
    rw [hrows, listedBehind]
    simp [Table.descending, hne.symm, hrow.live]
  obtain ⟨hscopeAfter, htexts⟩ := Prod.mk.inj htexts
  rw [← hafter] at hlisted
  refine ⟨newer, hlisted.trans (congrArg _ hbehind), ⟨hnewer, hlive, hstatus, task, htask,
    (Prod.mk.inj htexts).1, hscopeAfter⟩, ?_, hnewer ▸ hgained⟩
  rw [hafter]
  exact reads_written json laws hwrites hreads

end

section

variable [Externals] {manager : BrainManager} {message : MessageEnvelope} {summary : String}

/-- Without tasks the identifier is made from the texts. -/
theorem BrainManager.target_nil (manager : BrainManager) (message : MessageEnvelope)
    (summary : String) :
    manager.target message summary [] = taskIdOf summary (scopeForMessage message) := rfl

/-- A relation of a task is none of the keys before it. -/
theorem BrainManager.assigned_notMem (manager : BrainManager) (message : MessageEnvelope)
    {taskId other : String} (hne : other ≠ taskId) :
    BrainKey.relation "assigned_to" other manager.ownerId ∉ manager.leadKeys message ++
      (manager.assignedKeys message taskId ++ [.source (messageSourceRef message)]) := by
  simp [leadKeys, contactKeys, mentionKeys, assignedKeys, hne]

/-- A task has been dated by a look at the clock. -/
theorem exists_look {w : World} (h : brainRuns.Reachable w) {row : TaskRow}
    (hrow : row ∈ w.brain.tasks) : ∃ n < w.around.ticks, w.around.clock n = row.updatedAt :=
  (dated_reachable h).tasks row hrow

/-- Where its keys are there a message without a due date is delivered. -/
theorem BrainManager.deliver_ok (hencrypts : manager.encryption.Encrypts)
    (hingests : manager.Ingests) (hsummary : extractTaskSummary message.body = some summary)
    {w : World} (hfits : ∀ n, message.DueFits w.around.clock n)
    (hkeys : ∀ key ∈ manager.leadKeys message ++ (manager.assignedKeys message
      (manager.target message summary w.brain.tasks) ++ [.source (messageSourceRef message)]),
      w.brain.Contains key) :
    (manager.deliver message w).1 = .ok () := by
  refine ((redelivered_iff hencrypts hingests hsummary (w := w.refusing fun _ => false)
    (fun _ => rfl) (fun key hkey => ?_) ?_).mpr ⟨hfits _, fun key hkey => ?_⟩).1
  · exact hkeys key (List.mem_append_left _ hkey)
  · exact hkeys _ (List.mem_append_right _ (List.mem_append_right _ List.mem_cons_self))
  · exact hkeys key (List.mem_append_right _ (List.mem_append_left _ hkey))

omit [Externals] in
theorem not_contains_empty (key : BrainKey) : ¬ BrainTables.empty.Contains key := by
  cases key <;> exact List.not_mem_nil

/-- A note that nothing refuses, beside the task. -/
theorem BrainManager.noted_beside (json : JsonLaws) (laws : AeadLaws)
    (hencrypts : manager.encryption.Encrypts) (henabled : manager.config.enabled = true)
    {request : BrainRemember} (hkind : request.kind = "task")
    (hdue : dueAfter request.content = none) {w w' : World}
    (hafter : (Lib.Prog.eval (manager.remember request) (w.refusing fun _ => false)).2 = w')
    {age : Int} {cutoff : Instant}
    (hage : secondsDuration (manager.config.archiveDecayDays * 86400) = some age)
    (hcutoff : shift (w.around.clock w.around.ticks) (-age) = some cutoff) {row : TaskRow}
    {scopeJson : String} (htasks : w.brain.tasks = [row])
    (hrow : manager.HoldsTask summary scopeJson row)
    (hother : scopeMatches scopeJson (noteInput request).scopeJson = false)
    (hne : taskIdOf (noteInput request).summary (noteInput request).scopeJson ≠ row.taskId)
    (hnow : stamp row.updatedAt < stamp (w.around.clock (w.around.ticks + 4))) :
    ∃ newer, newest TaskRow.updatedAt TaskRow.archived false w'.brain.tasks = [newer, row] ∧
      manager.HoldsTask (noteInput request).summary (noteInput request).scopeJson newer ∧
      manager.ReadsTasks w'.brain.tasks ∧
      w.Gained [.task newer.taskId, .source (noteSource request)] 8 w' := by
  subst hafter
  obtain ⟨newer, hlisted, hnewer, hreads, hgained⟩ := remembered_beside json laws hencrypts henabled
    hkind hdue (w := w.refusing fun _ => false) (fun _ => rfl) hage hcutoff htasks hrow hother hne
      hnow
  exact ⟨newer, hlisted, hnewer, hreads, hgained.gains, hgained.clock, hgained.ticks⟩

/-- A delivery is a step of the brain. -/
theorem BrainManager.reachable_deliver {w : World} (h : brainRuns.Reachable w) :
    brainRuns.Reachable (manager.deliver message w).2 :=
  @System.Reachable.step _ _ brainRuns _ _ ⟨manager, .ingestMessage message, fun _ => false⟩ h
    ⟨trivial, rfl⟩

/-- And so is a note. -/
theorem BrainManager.reachable_remember {request : BrainRemember} {w : World}
    (h : brainRuns.Reachable w) : brainRuns.Reachable
      (Lib.Prog.eval (manager.remember request) (w.refusing fun _ => false)).2 :=
  @System.Reachable.step _ _ brainRuns _ _ ⟨manager, .remember request, fun _ => false⟩ h
    ⟨trivial, rfl⟩

/-- The candidate of a row that holds the task. -/
theorem BrainManager.HoldsTask.candidate {row : TaskRow} {scopeJson wanted : String}
    (h : manager.HoldsTask summary scopeJson row) (hscope : scopeMatches scopeJson wanted = true)
    (hwords : similarity (fingerprint summary) (fingerprint summary) = 1) :
    ∃ task, task.id = taskIdOf summary scopeJson ∧
      manager.candidate summary wanted row = some (task, 1) := by
  obtain ⟨task, htask, hsummary, hrecorded⟩ := h.record
  refine ⟨task, (taskRecord_entry htask).1.trans h.taskId, ?_⟩
  rw [BrainManager.candidate, htask]
  dsimp only
  rw [hsummary, hrecorded, hscope, hwords]
  norm_num

end

/-! ## A message about a task that is in the way -/

/-- A message that asks for a task. -/
def fixMessage : MessageEnvelope := ⟨"telegram", "c", "p", "please fix it", "\x7b\x7d"⟩

/-- The world of a new database, with instants of three digits. -/
def risingWorld : World :=
  World.fresh { countingSurroundings with clock := fun n => 100 + n } fun _ => .ok ""

theorem risingWorld_clock (n : Nat) : risingWorld.around.clock n = 100 + n := rfl

theorem risingWorld_stamps : ∀ m ≤ 32, ∀ n < m, @stamp jsonExternals (risingWorld.around.clock n) <
    @stamp jsonExternals (risingWorld.around.clock m) := by
  have hnext : ∀ m < 32, @stamp jsonExternals (risingWorld.around.clock m) <
      @stamp jsonExternals (risingWorld.around.clock (m + 1)) := by
    decide
  intro m hm n hn
  induction m with
  | zero => exact absurd hn (Nat.not_lt_zero n)
  | succ m ih =>
      rcases Nat.lt_succ_iff_lt_or_eq.mp hn with hless | rfl
      · exact (ih (by omega) hless).trans (hnext m (by omega))
      · exact hnext n (by omega)

/-- A world whose clock is that of the new database rises. -/
theorem rising_of_clock {w : World} (hclock : w.around.clock = risingWorld.around.clock)
    (hticks : w.around.ticks ≤ 33) : @World.Rising jsonExternals w := by
  refine @World.Rising.mk jsonExternals w (fun m _ n hn => ?_) fun m hm n hn hless => ?_
  · rw [hclock, risingWorld_clock, risingWorld_clock]
    show (_ : Int) < _
    omega
  · rw [hclock, risingWorld_clock, risingWorld_clock] at hless
    rw [hclock]
    have horder : (100 + n : Int) < 100 + m := hless
    exact risingWorld_stamps m (by omega) n (by omega)

theorem summary_fixMessage : extractTaskSummary fixMessage.body = some "fix it" := by decide

theorem deliver_fixMessage :
    (@BrainManager.deliver jsonExternals plainBrain fixMessage risingWorld).1 = .ok () := by
  decide +kernel

theorem ingests_plainBrain : plainBrain.Ingests := rfl

theorem delivered_fixMessage : @BrainManager.Delivered jsonExternals plainBrain fixMessage "fix it"
    (risingWorld.refusing fun _ => false)
    (@BrainManager.deliver jsonExternals plainBrain fixMessage risingWorld).2 :=
  @BrainManager.delivered_of_deliver jsonExternals plainBrain fixMessage "fix it" encrypts_plain
    ingests_plainBrain summary_fixMessage risingWorld deliver_fixMessage

theorem reachable_risingWorld : (@brainRuns jsonExternals).Reachable risingWorld := .of_init rfl

theorem dueFits_fixMessage (clock : Nat → Instant) (n : Nat) : fixMessage.DueFits clock n := by
  intro duration hdue
  have hnone : dueAfter fixMessage.body = none := by decide
  cases hnone.symm.trans hdue

theorem looks_fixMessage :
    @BrainManager.leadLooks jsonExternals fixMessage + fixMessage.dueLooks + 6 = 12 := by
  decide

/-- To a new brain the message is delivered again without a trace. -/
theorem redelivery_settled_fixMessage :
    let once := (@BrainManager.deliver jsonExternals plainBrain fixMessage risingWorld).2
    (@BrainManager.deliver jsonExternals plainBrain fixMessage once).1 = .ok () ∧
      ∀ key, (@BrainManager.deliver jsonExternals plainBrain fixMessage once).2.brain.Contains key ↔
        once.brain.Contains key := by
  have hgained := @BrainManager.Delivered.gained jsonExternals _ _ _ _ _ delivered_fixMessage
  have hrising := rising_of_clock hgained.clock (by rw [hgained.ticks, looks_fixMessage]; decide)
  have hsettled : @BrainManager.Settled jsonExternals plainBrain fixMessage risingWorld :=
    fun _ summary _ => ⟨nofun, dueFits_fixMessage _ _⟩
  have hreads : @BrainManager.ReadsTasks jsonExternals plainBrain risingWorld.brain.tasks := nofun
  exact (@redelivery_settled jsonExternals risingWorld reachable_risingWorld json_laws
    json_aeadLaws plainBrain encrypts_plain hreads fixMessage deliver_fixMessage hrising).mpr
      hsettled

/-- A note of the same task in a narrower scope. -/
def fixNote : BrainRemember where
  kind := "task"
  subtype := ""
  title := "fix it"
  content := "fix it"
  importance := 0
  scopeJson :=
    "\x7b\"channel_id\":\"c\",\"connector\":\"telegram\",\"sender\":\"p\",\"t\":\"1\"\x7d"
  linksJson := "[]"
  sourceRef := ""

theorem summary_fixNote : (@BrainManager.noteInput jsonExternals fixNote).summary = "fix it" := by
  decide

theorem scopes_fixNote :
    @scopeMatches jsonExternals (@BrainManager.scopeForMessage jsonExternals fixMessage)
        (@BrainManager.noteInput jsonExternals fixNote).scopeJson = false ∧
      @scopeMatches jsonExternals (@BrainManager.noteInput jsonExternals fixNote).scopeJson
        (@BrainManager.scopeForMessage jsonExternals fixMessage) = true := by
  decide +kernel

theorem words_fixMessage : similarity (@fingerprint jsonExternals "fix it")
    (@fingerprint jsonExternals "fix it") = 1 := by
  decide +kernel

theorem ids_fixNote :
    @taskIdOf jsonExternals "fix it" (@BrainManager.noteInput jsonExternals fixNote).scopeJson ≠
      @taskIdOf jsonExternals "fix it"
        (@BrainManager.scopeForMessage jsonExternals fixMessage) := by
  decide +kernel

/-- The message is delivered and a note of its task is taken.  Then the message is delivered once
more, and the note is in the way. -/
theorem rival_fixMessage :
    ∃ w : World, (@brainRuns jsonExternals).Reachable w ∧
      w.around.clock = risingWorld.around.clock ∧ w.around.ticks = 20 ∧
      @BrainManager.ReadsTasks jsonExternals plainBrain w.brain.tasks ∧
      (@BrainManager.deliver jsonExternals plainBrain fixMessage w).1 = .ok () ∧
      ¬ @BrainManager.RivalLinked jsonExternals plainBrain fixMessage "fix it" w.brain := by
  have hdelivered := delivered_fixMessage
  have hreach := @BrainManager.reachable_deliver jsonExternals plainBrain fixMessage _
    reachable_risingWorld
  generalize (@BrainManager.deliver jsonExternals plainBrain fixMessage risingWorld).2 = before
    at hdelivered hreach
  have hgained := @BrainManager.Delivered.gained jsonExternals _ _ _ _ _ hdelivered
  rw [show (risingWorld.refusing fun _ => false).brain.tasks = [] from rfl,
    @BrainManager.target_nil jsonExternals] at hgained
  have hclock : before.around.clock = risingWorld.around.clock := hgained.clock
  have hticks : before.around.ticks = 12 := by
    rw [hgained.ticks, looks_fixMessage]
    rfl
  have hnone : (risingWorld.refusing fun _ => false).brain.tasks = [] := rfl
  obtain ⟨row, htasks, hrow⟩ := @BrainManager.delivered_empty jsonExternals _ _ _ json_laws
    json_aeadLaws _ _ hnone hdelivered
  have hmem : row ∈ before.brain.tasks := by
    rw [htasks]
    exact List.mem_singleton.mpr rfl
  obtain ⟨n, hn, hdate⟩ := @exists_look jsonExternals before hreach row hmem
  have hstamp : @stamp jsonExternals row.updatedAt <
      @stamp jsonExternals (before.around.clock (before.around.ticks + 4)) := by
    rw [hticks] at hn
    rw [← hdate, hticks, hclock]
    exact risingWorld_stamps 16 (by decide) n (by omega)
  have hcutoff : shift (before.around.clock before.around.ticks) (-2592000000000000) =
      some (112 - 2592000000000000) := by
    rw [hclock, hticks]
    rfl
  obtain ⟨hnarrower, hmatches⟩ := scopes_fixNote
  have hrowId := @BrainManager.HoldsTask.taskId jsonExternals _ _ _ _ hrow
  have hother : @taskIdOf jsonExternals (@BrainManager.noteInput jsonExternals fixNote).summary
      (@BrainManager.noteInput jsonExternals fixNote).scopeJson ≠ row.taskId := by
    rw [summary_fixNote, hrowId]
    exact ids_fixNote
  have hage : secondsDuration (plainBrain.config.archiveDecayDays * 86400) =
      some 2592000000000000 := by rfl
  have hdue : dueAfter fixNote.content = none := by decide +kernel
  have hreachNote := @BrainManager.reachable_remember jsonExternals plainBrain fixNote _ hreach
  generalize hnote : (Lib.Prog.eval (@BrainManager.remember jsonExternals plainBrain fixNote)
    (before.refusing fun _ => false)).2 = noted at hreachNote
  obtain ⟨newer, hlisted, hnewer, hreads, hnoted⟩ := @BrainManager.noted_beside jsonExternals
    plainBrain "fix it" json_laws json_aeadLaws encrypts_plain rfl fixNote rfl hdue before noted
    hnote _ _ hage hcutoff row _ htasks hrow hnarrower hother hstamp
  rw [summary_fixNote] at hnewer
  obtain ⟨rival, hrivalId, hrival⟩ := @BrainManager.HoldsTask.candidate jsonExternals _ _ _ _ _
    hnewer hmatches words_fixMessage
  obtain ⟨task, htaskId, htask⟩ := @BrainManager.HoldsTask.candidate jsonExternals _ _ _ _ _ hrow
    (@BrainManager.scopeMatches_self jsonExternals json_laws fixMessage) words_fixMessage
  have hne : rival.id ≠ task.id := by
    rw [hrivalId, htaskId]
    exact ids_fixNote
  obtain ⟨htarget, hbest⟩ := @BrainManager.rival_pair jsonExternals plainBrain fixMessage "fix it"
    _ _ _ _ _ _ hreads hlisted hrival htask hne
  have hkeys : ∀ key ∈ @BrainManager.leadKeys jsonExternals plainBrain fixMessage ++
      (@BrainManager.assignedKeys jsonExternals plainBrain fixMessage task.id ++
        [.source (@BrainManager.messageSourceRef jsonExternals fixMessage)]),
      noted.brain.Contains key := by
    intro key hkey
    refine (hnoted.gains key).mpr (Or.inl ((hgained.gains key).mpr (Or.inr ?_)))
    rw [htaskId] at hkey
    exact hkey
  refine ⟨noted, hreachNote, hnoted.clock.trans hclock, ?_, hreads, ?_, ?_⟩
  · rw [hnoted.ticks]
    show before.around.ticks + 8 = 20
    rw [hticks]
  · refine @BrainManager.deliver_ok jsonExternals plainBrain fixMessage "fix it" encrypts_plain
      ingests_plainBrain summary_fixMessage noted (fun n => dueFits_fixMessage _ n) ?_
    rw [htarget]
    exact hkeys
  · intro hlinked
    have hassigned := (hlinked (rival, 1) hbest (by norm_num)).1
    have hbefore := ((hnoted.gains _).mp hassigned).resolve_right (by
      simp only [List.mem_cons, reduceCtorEq, List.not_mem_nil, or_self, not_false_eq_true])
    rcases (hgained.gains _).mp hbefore with hnew | hkey
    · exact not_contains_empty _ hnew
    · refine @BrainManager.assigned_notMem jsonExternals plainBrain fixMessage _ rival.id ?_ hkey
      rw [hrivalId]
      exact ids_fixNote

/-- A brain has the task of the message and one with the same words in a narrower scope.  The
second delivery assigns the other task. -/
theorem redelivery_settled_fails :
    ¬ ∀ [Externals], JsonLaws → AeadLaws → ∀ (manager : BrainManager) (message : MessageEnvelope)
        (w : World), brainRuns.Reachable w → manager.encryption.Encrypts →
      manager.ReadsTasks w.brain.tasks → (∀ n, w.around.clock n < w.around.clock (n + 1)) →
        (manager.deliver message w).1 = .ok () → (manager.deliver message w).2.Rising →
          (manager.deliver message (manager.deliver message w).2).1 = .ok () ∧
            ∀ key, (manager.deliver message (manager.deliver message w).2).2.brain.Contains key ↔
              (manager.deliver message w).2.brain.Contains key := by
  intro h
  obtain ⟨w, hreach, hclock, hticks, hreads, hok, hunlinked⟩ := rival_fixMessage
  have hdelivered := @BrainManager.delivered_of_deliver jsonExternals plainBrain fixMessage "fix it"
    encrypts_plain ingests_plainBrain summary_fixMessage w hok
  have hgained := @BrainManager.Delivered.gained jsonExternals _ _ _ _ _ hdelivered
  have hlooks : (@BrainManager.deliver jsonExternals plainBrain fixMessage w).2.around.ticks =
      w.around.ticks + 12 := looks_fixMessage ▸ hgained.ticks
  have hrising := rising_of_clock (hgained.clock.trans hclock) (by omega)
  have hsteps : ∀ n, w.around.clock n < w.around.clock (n + 1) := by
    intro n
    rw [hclock, risingWorld_clock, risingWorld_clock]
    show (100 + n : Int) < 100 + (n + 1 : Nat)
    omega
  refine hunlinked ((@BrainManager.redelivered_some jsonExternals plainBrain fixMessage "fix it"
    json_laws json_aeadLaws encrypts_plain ingests_plainBrain summary_fixMessage w hreach hreads hok
    hrising).mp ?_).1
  exact @h jsonExternals json_laws json_aeadLaws plainBrain fixMessage w hreach encrypts_plain
    hreads hsteps hok hrising

end OpenPinch
