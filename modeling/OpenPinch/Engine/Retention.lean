import Mathlib.Algebra.Order.Ring.Unbundled.Rat
import Mathlib.Tactic.NormNum
import OpenPinch.Engine.BrainRuns
import OpenPinch.Engine.BrainWrites
import OpenPinch.Engine.StoreFailures

/-!
# What retention spares

`apply_retention` archives the old entities and facts whose salience is below
0.35.  `remember` raises the importance it is given to 0.4 for the entity and to
0.35 for the fact, so retention reaches neither of the rows it stores, however
old they get.
-/

namespace OpenPinch

open Lib (Op System Table.exists_mem_upsertOn Table.mem_updateWhere_of_not)
open Lib.Op (Returns returns_pure returns_of_fact returns_of_maintains)

/-! ## The tables after retention -/

theorem secondsDuration_eq {seconds duration : Int} (h : secondsDuration seconds = some duration) :
    duration = seconds * 1000000000 := by
  unfold secondsDuration at h
  split at h
  · exact (Option.some.inj h).symm
  · cases h

theorem shift_eq {instant duration shifted : Int} (h : shift instant duration = some shifted) :
    shifted = instant + duration := by
  unfold shift at h
  split at h
  · exact (Option.some.inj h).symm
  · cases h

namespace BrainManager

variable [Externals] (manager : BrainManager)

/-- The tables after retention, each with the time that its statement takes. -/
def retained (around : Surroundings) (t : BrainTables) : BrainTables :=
  let clock (n : Nat) : Instant := around.clock (around.ticks + n)
  let cutoff := clock 0 - manager.config.archiveDecayDays * 86400 * 1000000000
  { t with
    entities := decayEntities cutoff (clock 1) t.entities
    facts := decayFacts cutoff (clock 2) t.facts
    tasks := decayTasks cutoff (clock 3) t.tasks }

open Stmt (performs_now performs_bind performs_execute) in
/-- Retention that returns has made these tables, and nothing of the search index. -/
theorem returns_applyRetention (w : World) :
    Returns (· = w) manager.applyRetention fun _ w' =>
      w'.brain = manager.retained w.around w.brain ∧ w'.vectorMemory = w.vectorMemory := by
  unfold applyRetention
  refine Returns.bind (Q := fun now w' => w' =
      { w with around := { w.around with ticks := w.around.ticks + 1 } } ∧
        now = w.around.clock w.around.ticks) ?_ fun now => returns_of_fact fun hnow => ?_
  · rintro _ now rfl hnow
    exact ⟨rfl, (Except.ok.inj hnow).symm⟩
  refine (EngineOp.returns_orPanic _).bind fun age => returns_of_fact fun hage => ?_
  refine (EngineOp.returns_orPanic _).bind fun cutoff => returns_of_fact fun hcutoff => ?_
  have hcut : cutoff = w.around.clock w.around.ticks -
      manager.config.archiveDecayDays * 86400 * 1000000000 := by
    rw [shift_eq hcutoff, secondsDuration_eq hage, hnow]
    exact Int.sub_eq_add_neg.symm
  subst hcut
  refine EngineOp.returns_guarded fun u hu => ⟨?_, rfl⟩
  exact performs_now (performs_bind (performs_now (performs_bind
    (performs_now performs_execute)))) u hu

end BrainManager

/-! ## Rows that stay -/

/-- The row is live, and of a salience that retention spares. -/
structure EntityRow.Spared (row : EntityRow) : Prop where
  live : row.archived = false
  salience : 7 / 20 ≤ row.salience

structure FactRow.Spared (row : FactRow) : Prop where
  live : row.archived = false
  salience : 7 / 20 ≤ row.salience

/-- The tables have the entity and the fact. -/
structure BrainTables.Holds (t : BrainTables) (row : EntityRow) (fact : FactRow) : Prop where
  entity : row ∈ t.entities
  fact : fact ∈ t.facts

section

variable [Externals]

/-- The identifier of the fact that is remembered of an entity. -/
def BrainRemember.factId (request : BrainRemember) (entityId : String) : String :=
  let sourceRef := defaultSourceRef request.sourceRef
    s!"{request.kind}:{request.subtype}:{request.title}:{request.content}" "remember"
  let factDigest := promptHash s!"{sourceRef}:{request.content}"
  s!"fact:{entityId}:{factDigest}"

namespace BrainManager

open EngineOp (Relates)

variable (manager : BrainManager) {row : EntityRow} {fact : FactRow}

/-- Retention keeps spared rows where they are. -/
theorem retains_spared (hrow : row.Spared) (hfact : fact.Spared) :
    Retains fun t t' => t.Holds row fact → t'.Holds row fact where
  refl _ := id
  trans _ _ _ h h' ht := h' (h ht)
  entities t cutoff now ht := by
    have hnot : ¬ row.salience < 7 / 20 := not_lt.mpr hrow.salience
    exact ⟨Table.mem_updateWhere_of_not ht.entity (by simp [hnot]), ht.fact⟩
  facts t cutoff now ht := by
    have hnot : ¬ fact.salience < 7 / 20 := not_lt.mpr hfact.salience
    exact ⟨ht.entity, Table.mem_updateWhere_of_not ht.fact (by simp [hnot])⟩
  tasks _ _ _ ht := ⟨ht.entity, ht.fact⟩

theorem holds_applyRetention (hrow : row.Spared) (hfact : fact.Spared) {w : World}
    (hw : w.brain.Holds row fact) : (manager.applyRetention.eval w).2.brain.Holds row fact := by
  have hretains := retains_spared hrow hfact
  have hrelates := manager.relates_applyRetention hretains
  exact (hrelates.eval hretains.refl hretains.trans w).2 hw

/-! ## What is remembered -/

/-- The tables have a spared row of the entity. -/
def HasEntity (entityId : String) (w : World) : Prop :=
  ∃ row ∈ w.brain.entities, row.Spared ∧ row.entityId = entityId

/-- And one of the fact. -/
def HasBoth (entityId factId : String) (w : World) : Prop :=
  ∃ row fact, w.brain.Holds row fact ∧ row.Spared ∧ fact.Spared ∧ row.entityId = entityId ∧
    fact.factId = factId ∧ fact.entityId = entityId

theorem returns_upsertEntity {input : EntityUpsert} (h : 7 / 20 ≤ input.salience) :
    Returns (fun _ => True) (manager.upsertEntity input) fun record => HasEntity record.id := by
  intro w record _ hrecord
  obtain ⟨hid, blobJson, now, -, hbrain⟩ := wp_upsertEntity input w record hrecord
  unfold HasEntity
  rw [hbrain, hid]
  obtain ⟨row, hrow, rfl | ⟨old, rfl⟩⟩ := Table.exists_mem_upsertOn EntityRow.entityId
    (fun old => { entityRow input blobJson now with createdAt := old.createdAt })
    (entityRow input blobJson now) w.brain.entities
  · exact ⟨_, hrow, ⟨rfl, h⟩, rfl⟩
  · exact ⟨_, hrow, ⟨rfl, h⟩, rfl⟩

theorem returns_upsertFact {input : FactUpsert} {entityId factId : String}
    (howner : input.entityId = entityId) (hid : input.factId = factId)
    (h : 7 / 20 ≤ input.salience) :
    Returns (HasEntity entityId) (manager.upsertFact input) fun _ => HasBoth entityId factId := by
  intro w record hentity hrecord
  obtain ⟨-, blobJson, now, -, hbrain⟩ := wp_upsertFact input w record hrecord
  obtain ⟨row, hrow, hspared, hrowId⟩ := hentity
  unfold HasBoth
  rw [hbrain]
  obtain ⟨fact, hfact, rfl | ⟨old, rfl⟩⟩ := Table.exists_mem_upsertOn FactRow.factId
    (fun old => { factRow input blobJson now with createdAt := old.createdAt })
    (factRow input blobJson now) w.brain.facts
  · exact ⟨row, _, ⟨hrow, hfact⟩, hspared, ⟨rfl, h⟩, hrowId, hid, howner⟩
  · exact ⟨row, _, ⟨hrow, hfact⟩, hspared, ⟨rfl, h⟩, hrowId, hid, howner⟩

omit [Externals] in
theorem returns_of_sameRows {α : Type} {p : EngineOp α} (h : Relates SameRows p)
    {entityId factId : String} : Returns (HasBoth entityId factId) p fun _ =>
      HasBoth entityId factId := by
  refine returns_of_maintains fun w hw => ?_
  have hsame := (h.eval SameRows.refl SameRows.trans w).2
  obtain ⟨row, fact, hholds, hrest⟩ := hw
  exact ⟨row, fact, ⟨hsame.entities ▸ hholds.entity, hsame.facts ▸ hholds.fact⟩, hrest⟩

/-- What remembering an entity leaves, whatever its importance. -/
theorem returns_remember (request : BrainRemember) :
    Returns (fun _ => True) (manager.remember request) fun value w =>
      ∀ entity, value.entity = some entity → HasBoth entity.id (request.factId entity.id) w := by
  have hany {α : Type} {p : EngineOp α} : Returns (fun _ => True) p fun _ _ => True :=
    fun _ _ _ _ => trivial
  unfold remember
  refine hany.bind fun _ => hany.bind fun _ => ?_
  split
  · refine hany.bind fun _ => hany.bind fun _ => hany.bind fun _ => returns_pure ?_
    exact fun _ _ _ hentity => nomatch hentity
  have hfloor : (7 / 20 : Rat) ≤ 2 / 5 := by norm_num
  refine hany.bind fun _ => (manager.returns_upsertEntity
    (hfloor.trans (le_max_right _ _))).bind fun entity => ?_
  refine Returns.bind (Q := fun _ => HasBoth entity.id (request.factId entity.id)) ?_ fun _ => ?_
  · exact manager.returns_upsertFact rfl rfl (le_max_right _ _)
  refine (returns_of_sameRows (sameRows_linkRecord _ _ _ _)).bind fun _ => ?_
  refine (returns_of_sameRows (sameRows_recordIngest _ _ _ _)).bind fun _ => returns_pure ?_
  rintro w hw _ ⟨⟩
  exact hw

end BrainManager

/-- The runs of operations that leave the two rows as they are. -/
def leaving (row : EntityRow) (fact : FactRow) : System World BrainStep :=
  .ofStep (fun _ => True) (fun w step => ∀ w', step.next? w = some w' → w'.brain.Holds row fact)
    BrainStep.next?

theorem holds_leaving {row : EntityRow} {fact : FactRow} {w w' : World} {steps : List BrainStep}
    (h : (leaving row fact).Run w steps w') (hw : w.brain.Holds row fact) :
    w'.brain.Holds row fact := by
  refine h.preserves (P := fun w => w.brain.Holds row fact) (fun w step w' hstep _ => ?_) hw
  obtain ⟨hallowed, hnext⟩ := hstep
  exact hallowed w' hnext

/-- Neither an entity that is remembered nor its fact is archived by retention, as long as
the two rows are as they were stored. -/
theorem retention_spares {w : World} {manager : BrainManager} {request : BrainRemember}
    {value : BrainRememberResult} {entity : BrainEntityRecord}
    (hvalue : ((manager.remember request).eval w).1 = .ok value)
    (hentity : value.entity = some entity) :
    ∃ row fact, ((manager.remember request).eval w).2.brain.Holds row fact ∧
      (row.entityId = entity.id ∧ row.archived = false) ∧
      (fact.factId = request.factId entity.id ∧ fact.entityId = entity.id ∧
        fact.archived = false) ∧
      ∀ steps w', (leaving row fact).Run ((manager.remember request).eval w).2 steps w' →
        ∀ retaining : BrainManager, (retaining.applyRetention.eval w').2.brain.Holds row fact := by
  obtain ⟨row, fact, hholds, hrow, hfact, hrowId, hfactId, howner⟩ :=
    manager.returns_remember request w value trivial hvalue entity hentity
  refine ⟨row, fact, hholds, ⟨hrowId, hrow.live⟩, ⟨hfactId, howner, hfact.live⟩, ?_⟩
  intro steps w' hrun retaining
  exact retaining.holds_applyRetention hrow hfact (holds_leaving hrun hholds)

end

/-! ## A note that gets old -/

/-- The world of a new database, in which the clock moves on by forty days. -/
def agingWorld : World :=
  World.fresh { countingSurroundings with clock := fun n => n * (40 * 24 * hour) } fun _ => .ok ""

/-- The note is remembered there. -/
def notedWorld : World := ((@BrainManager.remember jsonExternals plainBrain note).eval agingWorld).2

theorem remember_note :
    ∃ value entity, ((@BrainManager.remember jsonExternals plainBrain note).eval agingWorld).1 =
      .ok value ∧ value.entity = some entity := by
  have hstored : ((@BrainManager.remember jsonExternals plainBrain note).eval
      agingWorld).1.toOption.bind (fun value => value.entity.map BrainEntityRecord.id) =
        some noteId := by
    decide +kernel
  obtain ⟨value, hvalue, hentity⟩ := Option.bind_eq_some_iff.mp hstored
  obtain ⟨entity, hentity, -⟩ := Option.map_eq_some_iff.mp hentity
  cases hresult : ((@BrainManager.remember jsonExternals plainBrain note).eval agingWorld).1 with
  | error e =>
      rw [hresult] at hvalue
      cases hvalue
  | ok found =>
      rw [hresult] at hvalue
      cases hvalue
      exact ⟨value, entity, rfl, hentity⟩

theorem retention_spares_note :
    ∃ row fact, notedWorld.brain.Holds row fact ∧
      ((@BrainManager.applyRetention jsonExternals plainBrain).eval notedWorld).2.brain.Holds
        row fact := by
  obtain ⟨value, entity, hvalue, hentity⟩ := remember_note
  obtain ⟨row, fact, hholds, -, -, hspares⟩ :=
    @retention_spares jsonExternals agingWorld plainBrain note value entity hvalue hentity
  exact ⟨row, fact, hholds, hspares [] notedWorld (.nil _) plainBrain⟩

/-- The rows of the note are older than the decay then. -/
theorem noted_old :
    (∀ row ∈ notedWorld.brain.entities, row.updatedAt + 30 * (24 * hour) <
        notedWorld.around.clock notedWorld.around.ticks) ∧
      ∀ fact ∈ notedWorld.brain.facts, fact.updatedAt + 30 * (24 * hour) <
        notedWorld.around.clock notedWorld.around.ticks := by
  decide

/-- A note without importance that has not been written for forty days is not archived. -/
theorem retention_spares_fails :
    ¬ ∀ [Externals] (w w' : World) (manager : BrainManager) (request : BrainRemember)
        (value : BrainRememberResult) (entity : BrainEntityRecord) (row : EntityRow)
        (fact : FactRow) (steps : List BrainStep),
      brainRuns.Reachable w → request.importance < 7 / 20 →
        ((manager.remember request).eval w).1 = .ok value → value.entity = some entity →
          ((manager.remember request).eval w).2.brain.Holds row fact →
            row.entityId = entity.id → fact.factId = request.factId entity.id →
              (leaving row fact).Run ((manager.remember request).eval w).2 steps w' →
                row.updatedAt + manager.config.archiveDecayDays * (24 * hour) <
                    w'.around.clock w'.around.ticks →
                  fact.updatedAt + manager.config.archiveDecayDays * (24 * hour) <
                      w'.around.clock w'.around.ticks →
                    (manager.applyRetention.eval w').1 = .ok () →
                      ¬ (manager.applyRetention.eval w').2.brain.Holds row fact := by
  intro h
  obtain ⟨value, entity, hvalue, hentity⟩ := remember_note
  obtain ⟨row, fact, hholds, hrow, hfact, hrowId, hfactId, -⟩ :=
    @BrainManager.returns_remember jsonExternals plainBrain note agingWorld value trivial hvalue
      entity hentity
  have hok : ((@BrainManager.applyRetention jsonExternals plainBrain).eval notedWorld).1 =
      .ok () := by
    decide
  refine @h jsonExternals agingWorld notedWorld plainBrain note value entity row fact []
    (.of_init rfl) (by decide +kernel) hvalue hentity hholds hrowId hfactId (.nil _)
    (noted_old.1 row hholds.entity) (noted_old.2 fact hholds.fact) hok ?_
  exact @BrainManager.holds_applyRetention jsonExternals plainBrain row fact hrow hfact notedWorld
    hholds

end OpenPinch
