import OpenPinch.Common.JsonText
import OpenPinch.Engine.BrainIndex

/-!
# What forgetting leaves in the search index

`forget` with the mode `delete` deletes the rows of its target, and of an entity
also its facts.  Of the projections it deletes those under the identifier of the
target, in all three namespaces.  `BrainTables.Forgettable` says when these are
the projections of the deleted rows.
-/

namespace OpenPinch

open Lib (Op System wp Table.deleteWhere Table.mem_map_deleteWhere Table.mem_deleteWhere)
open Lib.Prog (Maintains)

/-! ## The deletions -/

/-- What the deletions of `forget` do to the tables.  Nothing for a kind it does
not know. -/
def deletion (targetKind targetId : String) : Option (BrainTables → BrainTables) :=
  match targetKind with
  | "entity" => some fun t =>
      { t with
        facts := Table.deleteWhere (·.entityId == targetId) t.facts
        relations := Table.deleteWhere (BrainManager.touches targetId) t.relations
        entities := Table.deleteWhere (·.entityId == targetId) t.entities }
  | "task" => some fun t =>
      { t with
        tasks := Table.deleteWhere (·.taskId == targetId) t.tasks
        relations := Table.deleteWhere (BrainManager.touches targetId) t.relations }
  | "fact" => some fun t => { t with facts := Table.deleteWhere (·.factId == targetId) t.facts }
  | "relation" => some fun t =>
      { t with relations := Table.deleteWhere (·.relationId == targetId) t.relations }
  | _ => none

/-- No record of another kind has the identifier of the target, and the facts of
an entity are those with its identifier. -/
structure BrainTables.Forgettable (t : BrainTables) (targetKind targetId : String) : Prop where
  entity : targetKind = "entity" → targetId ∉ t.ids .tasks ∧
    ∀ row ∈ t.facts, row.entityId = targetId ↔ row.factId = targetId
  task : targetKind = "task" → targetId ∉ t.ids .entities ∧ targetId ∉ t.ids .facts
  fact : targetKind = "fact" → targetId ∉ t.ids .entities ∧ targetId ∉ t.ids .tasks
  relation : targetKind = "relation" → ∀ table, targetId ∉ t.ids table

instance (t : BrainTables) (targetKind targetId : String) :
    Decidable (t.Forgettable targetKind targetId) :=
  decidable_of_iff
    ((targetKind = "entity" → targetId ∉ t.ids .tasks ∧
        ∀ row ∈ t.facts, row.entityId = targetId ↔ row.factId = targetId) ∧
      (targetKind = "task" → targetId ∉ t.ids .entities ∧ targetId ∉ t.ids .facts) ∧
      (targetKind = "fact" → targetId ∉ t.ids .entities ∧ targetId ∉ t.ids .tasks) ∧
      (targetKind = "relation" →
        ∀ table ∈ [BrainTable.entities, .facts, .tasks], targetId ∉ t.ids table))
    ⟨fun ⟨hentity, htask, hfact, hrelation⟩ => ⟨hentity, htask, hfact, fun hkind table =>
        hrelation hkind table (by cases table <;> simp)⟩,
      fun h => ⟨h.entity, h.task, h.fact, fun hkind table _ => h.relation hkind table⟩⟩

/-- The deletions take the identifier of the target and no other. -/
theorem BrainTables.Forgettable.mem_ids {t : BrainTables} {targetKind targetId : String}
    {f : BrainTables → BrainTables} (h : t.Forgettable targetKind targetId)
    (hf : deletion targetKind targetId = some f) (table : BrainTable) (id : String) :
    id ∈ (f t).ids table ↔ id ∈ t.ids table ∧ id ≠ targetId := by
  have hkept : targetId ∉ t.ids table → (id ∈ t.ids table ↔ id ∈ t.ids table ∧ id ≠ targetId) := by
    intro hnone
    exact ⟨fun hid => ⟨hid, fun heq => hnone (heq ▸ hid)⟩, And.left⟩
  unfold deletion at hf
  split at hf
  · obtain ⟨htask, hfacts⟩ := h.entity rfl
    cases hf
    cases table with
    | entities => exact Table.mem_map_deleteWhere
    | facts =>
        have hsame : Table.deleteWhere (·.entityId == targetId) t.facts =
            Table.deleteWhere (·.factId == targetId) t.facts := by
          refine List.filter_congr fun row hrow => ?_
          rw [Bool.eq_iff_iff]
          simp [hfacts row hrow]
        show id ∈ (Table.deleteWhere _ t.facts).map FactRow.factId ↔ _
        rw [hsame]
        exact Table.mem_map_deleteWhere
    | tasks => exact hkept htask
  · obtain ⟨hentity, hfact⟩ := h.task rfl
    cases hf
    cases table with
    | entities => exact hkept hentity
    | facts => exact hkept hfact
    | tasks => exact Table.mem_map_deleteWhere
  · obtain ⟨hentity, htask⟩ := h.fact rfl
    cases hf
    cases table with
    | entities => exact hkept hentity
    | facts => exact Table.mem_map_deleteWhere
    | tasks => exact hkept htask
  · cases hf
    exact hkept (h.relation rfl table)
  · cases hf

/-- The statements change the tables in one piece: the database accepts all of
them, or refuses the first. -/
def Stmt.Wholly {τ : Type} (f : τ → τ) (m : Stmt τ Unit) : Prop :=
  ∀ s, s.1.Steady → ∃ around, Later s.1 around ∧
    m s = if s.1.refuses s.1.statements then .error (.error "database error") (around, s.2)
      else .ok () (around, f s.2)

theorem Stmt.wholly_execute {τ : Type} (f : τ → τ) : Wholly f (execute f) := by
  intro s hs
  refine ⟨sent s.1, later_sent s.1, ?_⟩
  cases hrefused : s.1.refuses s.1.statements with
  | true => exact run_execute_refused hrefused
  | false => exact run_execute hrefused

theorem Stmt.wholly_bind {τ : Type} {f g : τ → τ} {m : Stmt τ Unit} (hm : Wholly g m) :
    Wholly (fun t => g (f t)) (execute f >>= fun _ => m) := by
  intro s hs
  cases hrefused : s.1.refuses s.1.statements with
  | true => exact ⟨sent s.1, later_sent s.1, run_bind_error (run_execute_refused hrefused)⟩
  | false =>
      obtain ⟨around, hlater, hrun⟩ := hm (sent s.1, f s.2) (hs.later (later_sent s.1))
      refine ⟨around, (later_sent s.1).trans hlater, ?_⟩
      rw [run_bind (run_execute hrefused), hrun, hs.accepts hrefused (later_sent s.1)]
      rfl

namespace BrainManager

open Stmt (wholly_execute wholly_bind preserves_bind preserves_now preserves_execute
  preserves_fail later_sent)

theorem wholly_forgetStmt {targetKind targetId : String} {f : BrainTables → BrainTables}
    (h : deletion targetKind targetId = some f) :
    (forgetStmt targetKind "delete" targetId).Wholly f := by
  unfold deletion at h
  split at h
  · cases h
    exact wholly_bind (wholly_bind (wholly_execute _))
  · cases h
    exact wholly_bind (wholly_execute _)
  · cases h
    exact wholly_execute _
  · cases h
    exact wholly_execute _
  · cases h

/-- Without a deletion the identifiers stay. -/
theorem preserves_forgetStmt {targetKind mode targetId : String}
    (h : mode = "delete" → deletion targetKind targetId = none) :
    (forgetStmt targetKind mode targetId).Preserves SameIds := by
  unfold forgetStmt
  split
  · refine preserves_bind SameIds.trans (preserves_now SameIds.refl) fun now => ?_
    refine preserves_bind SameIds.trans (preserves_execute SameIds.refl fun t => ?_) fun _ => ?_
    · exact sameIds_entities (fun _ => by rfl) t
    refine preserves_bind SameIds.trans (preserves_now SameIds.refl) fun now => ?_
    refine preserves_bind SameIds.trans (preserves_execute SameIds.refl fun t => ?_) fun _ => ?_
    · exact sameIds_facts (fun _ => by rfl) t
    refine preserves_bind SameIds.trans (preserves_now SameIds.refl) fun now => ?_
    exact preserves_execute SameIds.refl fun t => SameIds.refl t
  · refine preserves_bind SameIds.trans (preserves_now SameIds.refl) fun now => ?_
    exact preserves_execute SameIds.refl fun t => sameIds_tasks (fun _ => by rfl) t
  · refine preserves_bind SameIds.trans (preserves_now SameIds.refl) fun now => ?_
    exact preserves_execute SameIds.refl fun t => sameIds_facts (fun _ => by rfl) t
  · refine preserves_bind SameIds.trans (preserves_now SameIds.refl) fun now => ?_
    exact preserves_execute SameIds.refl fun t => SameIds.refl t
  · cases h rfl
  · cases h rfl
  · cases h rfl
  · cases h rfl
  · exact preserves_fail SameIds.refl _

/-- The deletion of a projection that the database accepts. -/
theorem wp_dropProjection {nameSpace key : String}
    {post : List Event → Except Fault Unit → World → Prop} {labels : List Event} {w : World}
    (haccepted : w.around.refuses w.around.statements = false)
    (h : ∀ labels, post labels (.ok ())
      { w with
        around := Stmt.sent w.around
        vectorMemory := Table.deleteWhere
          (fun row => row.nameSpace == nameSpace && row.key == key) w.vectorMemory }) :
    wp (EngineOp.ignore (deleteProjection nameSpace key)) post labels w := by
  refine Op.wp_bind (EngineOp.wp_attempt (EngineOp.wp_guarded (Stmt.run_execute haccepted) ?_))
  exact EngineOp.attempted_ok (Op.wp_pure (h _))

/-- The address of a deleted projection goes, and no other. -/
theorem mem_deleteAddress {nameSpace key : String} {rows : List VectorMemoryRow}
    {address : String × String} :
    address ∈ (Table.deleteWhere (fun row => row.nameSpace == nameSpace && row.key == key)
      rows).map VectorMemoryRow.address ↔
      address ∈ rows.map VectorMemoryRow.address ∧ address ≠ (nameSpace, key) := by
  show address ∈ (Table.deleteWhere (VectorMemoryRow.address · == (nameSpace, key)) rows).map _ ↔ _
  exact Table.mem_map_deleteWhere

/-- The projections of a target that is deleted go, and no others of the brain. -/
theorem wp_dropProjections {targetId : String}
    {post : List Event → Except Fault Unit → World → Prop} {labels : List Event} {w : World}
    (hsteady : w.around.Steady) (haccepted : w.around.refuses w.around.statements = false)
    (h : ∀ labels around rows, Stmt.Later w.around around →
      (∀ (table : BrainTable) (key : String),
        (table.nameSpace, key) ∈ rows.map VectorMemoryRow.address ↔
          (table.nameSpace, key) ∈ w.vectorMemory.map VectorMemoryRow.address ∧ key ≠ targetId) →
      post labels (.ok ()) { w with around := around, vectorMemory := rows }) :
    wp (dropProjections "delete" targetId) post labels w := by
  have hone := later_sent w.around
  have htwo := hone.trans (later_sent _)
  have hthree := htwo.trans (later_sent _)
  have hfour := hthree.trans (later_sent _)
  refine Op.wp_bind (wp_dropProjection haccepted fun _ => Op.andThen_ok ?_)
  refine Op.wp_bind (wp_dropProjection (hsteady.accepts haccepted hone) fun _ => Op.andThen_ok ?_)
  refine Op.wp_bind (wp_dropProjection (hsteady.accepts haccepted htwo) fun _ => Op.andThen_ok ?_)
  refine wp_dropProjection (hsteady.accepts haccepted hthree) fun _ => h _ _ _ hfour ?_
  intro table key
  rw [mem_deleteAddress, mem_deleteAddress, mem_deleteAddress, mem_deleteAddress]
  cases table <;> simp [BrainTable.nameSpace]

/-- A kind that `forget` does not know. -/
theorem forgetStmt_unsupported {targetKind mode targetId : String} (hmode : mode = "delete")
    (h : deletion targetKind targetId = none) :
    ∃ message, forgetStmt targetKind mode targetId = Stmt.fail message := by
  refine ⟨s!"unsupported forget mode {mode} for {targetKind}", ?_⟩
  unfold deletion at h
  unfold forgetStmt
  split at h <;> simp_all

variable (manager : BrainManager)

/-- `forget` without a deletion. -/
theorem maintains_forget {request : BrainForget} (h : request.mode ≠ "delete") :
    Maintains World.Indexed (manager.forget request) := by
  have hmode : (if request.mode = "" then "archive" else request.mode) ≠ "delete" := by
    split
    · decide
    · exact h
  unfold forget
  refine closed_indexed.bind (closed_indexed.requireEnabled manager) fun _ => ?_
  refine closed_indexed.bind (maintains_of_inert (inert_brain (preserves_forgetStmt fun hdelete =>
    absurd hdelete hmode))) fun _ => closed_indexed.bind ?_ fun _ => closed_indexed.pure _
  rw [dropProjections, if_neg hmode]
  exact closed_indexed.pure ()

/-- `forget` with a deletion. -/
theorem wp_forget {request : BrainForget} {labels : List Event} {w : World} (hw : w.Indexed)
    (hmode : request.mode = "delete")
    (h : manager.config.enabled = true → w.around.refuses w.around.statements = false →
      w.brain.Forgettable (normalizeForgetTargetKind request.targetKind) request.targetId) :
    wp (manager.forget request) (fun _ r w' => w'.Indexed ∧ ∀ value, r = .ok value →
      w.brain.Forgettable (normalizeForgetTargetKind request.targetKind) request.targetId ∧
        ∀ table : BrainTable, (table.nameSpace, request.targetId) ∉
          w'.vectorMemory.map VectorMemoryRow.address) labels w := by
  have hdelete : (if request.mode = "" then "archive" else request.mode) = "delete" := by
    simp [hmode]
  unfold forget requireEnabled
  cases henabled : manager.config.enabled with
  | false =>
      refine Op.wp_bind (Op.wp_fail ⟨hw, fun _ hvalue => ?_⟩)
      cases hvalue
  | true =>
      refine Op.wp_bind (Op.wp_pure (Op.andThen_ok ?_))
      simp only [hdelete]
      cases hdeletion : deletion (normalizeForgetTargetKind request.targetKind)
          request.targetId with
      | none =>
          obtain ⟨message, hfail⟩ := forgetStmt_unsupported rfl hdeletion
          rw [hfail]
          refine Op.wp_bind (EngineOp.wp_guarded_error rfl ⟨hw, fun _ hvalue => ?_⟩)
          cases hvalue
      | some f =>
          obtain ⟨around, hlater, hrun⟩ :=
            wholly_forgetStmt hdeletion (w.around, w.brain) hw.steady
          cases hrefused : w.around.refuses w.around.statements with
          | true =>
              simp only [hrefused] at hrun
              refine Op.wp_bind (EngineOp.wp_guarded_error hrun ⟨?_, fun _ hvalue => ?_⟩)
              · exact hw.update hlater (SameIds.refl _) (SameKeys.refl _)
              · cases hvalue
          | false =>
              simp only [hrefused] at hrun
              have hforget := (h henabled hrefused).mem_ids hdeletion
              refine Op.wp_bind (EngineOp.wp_guarded hrun (Op.andThen_ok ?_))
              refine Op.wp_bind (wp_dropProjections (hw.steady.later hlater)
                (hw.steady.accepts hrefused hlater) fun labels around' rows hlater' hrows =>
                  Op.andThen_ok (Op.wp_pure ⟨⟨?_, ?_⟩, ?_⟩))
              · exact hw.steady.later (hlater.trans hlater')
              · intro table key
                exact ((hrows table key).trans (and_congr_left' (hw.matched table key))).trans
                  (hforget table key).symm
              · refine fun _ _ => ⟨h henabled hrefused, fun table hmem => ?_⟩
                exact ((hrows table request.targetId).mp hmem).2 rfl

end BrainManager

/-! ## Runs -/

/-- An operation of a brain, and the statements of it that the database refuses,
counted from its start. -/
structure BrainStep where
  manager : BrainManager
  call : BrainCall
  refused : Nat → Bool

/-- The world with these refusals ahead. -/
def World.refusing (w : World) (refused : Nat → Bool) : World :=
  { w with
    around := { w.around with refuses := fun n => refused (n - w.around.statements) } }

/-- The brain and its namespaces are empty. -/
structure World.Blank (w : World) : Prop where
  ids : ∀ table, w.brain.ids table = []
  addresses : ∀ (table : BrainTable) (key : String),
    (table.nameSpace, key) ∉ w.vectorMemory.map VectorMemoryRow.address

/-- No projection is left of an entity, nor of the facts it had before. -/
structure World.Erases (w w' : World) (entityId : String) : Prop where
  entity : ("brain-entities", entityId) ∉ w'.vectorMemory.map VectorMemoryRow.address
  facts : ∀ fact ∈ w.brain.facts, fact.entityId = entityId →
    ("brain-facts", fact.factId) ∉ w'.vectorMemory.map VectorMemoryRow.address

/-- The call touches a projection and nothing else. -/
def BrainCall.isProjection : BrainCall → Bool
  | .upsertProjection _ _ _ _ => true
  | .deleteProjection _ _ => true
  | _ => false

section

variable [Externals]

/-- The world after an operation.  None is a projection on its own. -/
def BrainStep.next? (w : World) (step : BrainStep) : Option World :=
  if step.call.isProjection then none
  else some ((step.call.op step.manager).eval (w.refusing step.refused)).2

/-- The operations of brains, one after the other, from an empty brain. -/
def brainSystem (allowed : World → BrainStep → Prop) : System World BrainStep :=
  System.ofStep World.Blank allowed BrainStep.next?

/-- The database refuses no statement of the operation, and no text fails to
encrypt. -/
structure BrainStep.Served (step : BrainStep) : Prop where
  accepted : ∀ n, step.refused n = false
  encrypts : (step.call.encryption step.manager).Encrypts

/-- The database refuses no statement of the operation after it has accepted one,
no text fails to encrypt, and a deletion is of a forgettable target. -/
structure BrainStep.Clean (w : World) (step : BrainStep) : Prop where
  steady : ∀ n m, n ≤ m → step.refused n = false → step.refused m = false
  encrypts : (step.call.encryption step.manager).Encrypts
  forgettable : ∀ request, step.call = .forget request → step.manager.config.enabled = true →
    request.mode = "delete" → step.refused 0 = false →
      w.brain.Forgettable (normalizeForgetTargetKind request.targetKind) request.targetId

theorem BrainStep.Clean.indexed {w : World} {step : BrainStep} (h : step.Clean w)
    (hw : w.IndexMatches) : (w.refusing step.refused).Indexed where
  steady _ _ _ hm := h.steady _ _ (Nat.sub_le_sub_right hm w.around.statements)
  matched := hw

/-- A clean deletion that succeeds leaves no projection of its target. -/
theorem BrainStep.Clean.forget {w : World} {manager : BrainManager} {request : BrainForget}
    {refused : Nat → Bool} (h : BrainStep.Clean w ⟨manager, .forget request, refused⟩)
    (hw : w.IndexMatches) (hmode : request.mode = "delete") :
    wp (manager.forget request) (fun _ r w' => w'.Indexed ∧ ∀ value, r = .ok value →
      w.brain.Forgettable (normalizeForgetTargetKind request.targetKind) request.targetId ∧
        ∀ table : BrainTable, (table.nameSpace, request.targetId) ∉
          w'.vectorMemory.map VectorMemoryRow.address) [] (w.refusing refused) := by
  refine manager.wp_forget (h.indexed hw) hmode fun henabled haccepted => ?_
  refine h.forgettable request rfl henabled hmode ?_
  rwa [← Nat.sub_self w.around.statements]

/-- One operation keeps the index matching. -/
theorem BrainStep.Clean.matches_next {w w' : World} {step : BrainStep} (h : step.Clean w)
    (hnext : step.next? w = some w') (hw : w.IndexMatches) : w'.IndexMatches := by
  obtain ⟨manager, call, refused⟩ := step
  unfold BrainStep.next? at hnext
  split at hnext
  · cases hnext
  rename_i hprojection
  cases hnext
  cases hapart : call.isApart with
  | false =>
      have hparts : Maintains World.Indexed (call.op manager) := by
        refine BrainCall.closed (C := fun _ p => Maintains World.Indexed p) closed_indexed
          (fun other hother => other.parts_indexed ?_) fun htrue => ?_
        · rw [hother]
          exact h.encrypts
        · rw [hapart] at htrue
          cases htrue
      exact (hparts _ (h.indexed hw)).matched
  | true =>
      cases call with
      | forget request =>
          by_cases hmode : request.mode = "delete"
          · exact (h.forget hw hmode).1.matched
          · exact (manager.maintains_forget hmode _ (h.indexed hw)).matched
      | upsertProjection nameSpace key content metadataJson => exact absurd rfl hprojection
      | deleteProjection nameSpace key => exact absurd rfl hprojection
      | _ => cases hapart

/-- In every run of clean operations the index matches the brain, and a deletion
of an entity that succeeds erases it. -/
theorem index_matches {w : World} (h : (brainSystem fun w step => step.Clean w).Reachable w) :
    w.IndexMatches ∧ ∀ (manager : BrainManager) (request : BrainForget) (refused : Nat → Bool)
      (w' : World), BrainStep.Clean w ⟨manager, .forget request, refused⟩ →
      BrainStep.next? w ⟨manager, .forget request, refused⟩ = some w' →
      normalizeForgetTargetKind request.targetKind = "entity" → request.mode = "delete" →
      (∃ value, ((manager.forget request).eval (w.refusing refused)).1 = .ok value) →
        w.Erases w' request.targetId := by
  have hmatches : w.IndexMatches := by
    refine h.invariant (P := World.IndexMatches) (fun w hblank table key => ?_) ?_
    · rw [hblank.ids table]
      exact iff_of_false (hblank.addresses table key) List.not_mem_nil
    · rintro w step w' ⟨hclean, hnext⟩ hw
      exact hclean.matches_next hnext hw
  refine ⟨hmatches, fun manager request refused w' hclean hnext hkind hmode ⟨value, hvalue⟩ => ?_⟩
  cases hnext
  obtain ⟨hforgettable, hgone⟩ := (hclean.forget hmatches hmode).2 value hvalue
  refine ⟨hgone .entities, fun fact hfact hentity => ?_⟩
  rw [((hforgettable.entity hkind).2 fact hfact).mp hentity]
  exact hgone .facts

end

/-! ## Runs of one brain -/

/-- A brain that keeps its texts in plain. -/
def plainBrain : BrainManager where
  config := ⟨true, true, true, true, true, 3, 1200, 30, 72⟩
  encryption := ⟨false, onesKey⟩
  ownerId := "person:owner:local"
  runtimeEnvId := "environment:runtime:linux"
  workspaceEnvId := "environment:workspace:work"
  projectEnvId := "environment:project:work"

/-- An operation of the brain, with a database that refuses nothing. -/
def plainStep (call : BrainCall) : BrainStep := ⟨plainBrain, call, fun _ => false⟩

theorem plainStep_encrypts {call : BrainCall} (h : call.encryption plainBrain = ⟨false, onesKey⟩) :
    @EncryptionManager.Encrypts jsonExternals ((plainStep call).call.encryption plainBrain) := by
  intro nonce text
  exact ⟨_, by rw [plainStep, h]; rfl⟩

/-- The calls work under the encryption of the brain, and the deletions pass. -/
def plainTest (deletes : World → BrainForget → Bool) (w : World) (step : BrainStep) : Bool :=
  decide (step.call.encryption plainBrain = ⟨false, onesKey⟩) &&
    match step.call with
    | .forget request => deletes w request
    | _ => true

/-- The world after the calls, as long as they pass. -/
def plainRun (deletes : World → BrainForget → Bool) (calls : List BrainCall) : Option World :=
  System.play (@BrainStep.next? jsonExternals) (plainTest deletes) (calls.map plainStep)
    (World.fresh countingSurroundings fun _ => .ok "")

theorem reachable_of_plainRun {allowed : World → BrainStep → Prop}
    {deletes : World → BrainForget → Bool} {calls : List BrainCall} {w : World}
    (htest : ∀ w call, plainTest deletes w (plainStep call) = true → allowed w (plainStep call))
    (h : plainRun deletes calls = some w) : (@brainSystem jsonExternals allowed).Reachable w := by
  refine System.reachable_of_play (fun w step hstep hpass => ?_) ⟨?_, ?_⟩ h
  · obtain ⟨call, -, rfl⟩ := List.mem_map.mp hstep
    exact htest w call hpass
  · intro table
    cases table <;> rfl
  · exact fun _ _ => List.not_mem_nil

/-- A note that is remembered as an artifact. -/
def note : BrainRemember where
  kind := "artifact"
  subtype := "reference"
  title := "note"
  content := "secret"
  importance := 0
  scopeJson := ""
  linksJson := ""
  sourceRef := ""

/-- The identifier of its entity. -/
def noteId : String :=
  let digest := @promptHash jsonExternals "note:\x7b\x7d"
  s!"artifact:reference:{digest}"

/-- A note is remembered and deleted, and the projection of its fact stays. -/
theorem index_matches_fails :
    ¬ ∀ [Externals] (w : World), (brainSystem fun _ step => step.Served).Reachable w →
      w.IndexMatches := by
  intro h
  have hrun : (plainRun (fun _ _ => true) [.ensureBaselineContext "/work" "work" "linux",
      .remember note, .forget ⟨"artifact", noteId, "delete", ""⟩]).map (fun w =>
        (w.brain.ids .facts, w.vectorMemory.any (·.nameSpace == "brain-facts"))) =
      some ([], true) := by
    decide +kernel
  obtain ⟨w, hw, hleft⟩ := Option.map_eq_some_iff.mp hrun
  obtain ⟨hids, hany⟩ := Prod.mk.inj hleft
  obtain ⟨row, hrow, hname⟩ := List.any_eq_true.mp hany
  have hmatches := @h jsonExternals w (reachable_of_plainRun (fun w call hpass =>
    @BrainStep.Served.mk jsonExternals _ (fun _ => rfl)
      (plainStep_encrypts (of_decide_eq_true (Bool.and_eq_true_iff.mp hpass).1))) hw)
  have hkey := (hmatches .facts row.key).mp
    (List.mem_map.mpr ⟨row, hrow, Prod.ext (eq_of_beq hname) rfl⟩)
  rw [hids] at hkey
  cases hkey

/-- A deletion is of a forgettable target. -/
def forgets (w : World) (request : BrainForget) : Bool :=
  decide (request.mode = "delete" →
    w.brain.Forgettable (normalizeForgetTargetKind request.targetKind) request.targetId)

/-- A task that is remembered. -/
def errand : BrainRemember := { note with kind := "task" }

/-- The identifier of the task. -/
def errandId : String :=
  let digest := @promptHash jsonExternals "secret:\x7b\x7d"
  s!"task:{digest}"

/-- A note is remembered and archived, a task is remembered and deleted. -/
theorem index_matches_errand :
    ∃ w, plainRun forgets [.ensureBaselineContext "/work" "work" "linux", .remember note,
        .remember errand, .forget ⟨"artifact", noteId, "", ""⟩,
        .forget ⟨"task", errandId, "delete", ""⟩] = some w ∧
      (w.brain.entities.length, w.brain.facts.length, w.brain.tasks.length) = (5, 1, 0) ∧
      w.IndexMatches := by
  have hrun : (plainRun forgets [.ensureBaselineContext "/work" "work" "linux", .remember note,
      .remember errand, .forget ⟨"artifact", noteId, "", ""⟩,
      .forget ⟨"task", errandId, "delete", ""⟩]).map (fun w =>
        (w.brain.entities.length, w.brain.facts.length, w.brain.tasks.length)) =
      some (5, 1, 0) := by
    decide +kernel
  obtain ⟨w, hw, hlengths⟩ := Option.map_eq_some_iff.mp hrun
  refine ⟨w, hw, hlengths, (@index_matches jsonExternals w
    (reachable_of_plainRun (fun w call hpass => ?_) hw)).1⟩
  obtain ⟨hencryption, hdeletes⟩ := Bool.and_eq_true_iff.mp hpass
  refine @BrainStep.Clean.mk jsonExternals _ _ (fun _ _ _ _ => rfl)
    (plainStep_encrypts (of_decide_eq_true hencryption)) ?_
  intro request hcall _ hmode _
  simp only [hcall] at hdeletes
  exact of_decide_eq_true hdeletes hmode

end OpenPinch
