import OpenPinch.Engine.Api
import OpenPinch.Engine.Calls
import OpenPinch.Engine.Evolution
import OpenPinch.Lib.Pool

/-!
# The database under the whole interface

Calls of the engine run in threads, in all interleavings, on a database that may
refuse any statement, and the engine may crash between two statements and start
again with another configuration.  In every state that is reached the database
is sound (`sound_reachable`), and between any two moments it evolves
(`evolves_run`): nothing that was recorded is rewritten.
-/

namespace OpenPinch

open Lib (Op Pool System)
open Lib.Op (after)
open Lib.Prog (Acts)
open Stmt (Respects respects_bind respects_now respects_execute respects_insert respects_select
  respects_pure respects_ofExcept respects_fail)

section

variable [Externals]

/-! ## The world -/

/-- The tables are keyed, and the rows of the brain have passed their checks. -/
structure World.Sound (w : World) : Prop where
  conversations : w.conversations.Keyed
  caches : w.caches.Keyed
  vectorMemory : (w.vectorMemory.map VectorMemoryRow.place).Nodup
  brain : w.brain.Sound
  ledger : w.ledger.Keyed

structure World.Evolves (logs : Prop) (w w' : World) : Prop where
  conversations : Conversations.Evolves logs w.conversations w'.conversations
  caches : w.caches.Evolves w'.caches
  vectorMemory : MemoryEvolves w.vectorMemory w'.vectorMemory
  brain : w.brain.Evolves w'.brain
  ledger : Ledger.Evolves logs w.ledger w'.ledger
  requests : w.providers.requests <+: w'.providers.requests

namespace World.Evolves

variable {logs : Prop}

theorem refl (w : World) : Evolves logs w w where
  conversations := .refl _
  caches := .refl _
  vectorMemory := .refl _
  brain := .refl _
  ledger := .refl _
  requests := List.prefix_refl _

theorem trans (w w' w'' : World) (h : Evolves logs w w') (h' : Evolves logs w' w'') :
    Evolves logs w w'' where
  conversations := .trans _ _ _ h.conversations h'.conversations
  caches := .trans _ _ _ h.caches h'.caches
  vectorMemory := .trans _ _ _ h.vectorMemory h'.vectorMemory
  brain := .trans _ _ _ h.brain h'.brain
  ledger := .trans _ _ _ h.ledger h'.ledger
  requests := h.requests.trans h'.requests

theorem sound {w w' : World} (h : Evolves logs w w') (hw : w.Sound) : w'.Sound where
  conversations := h.conversations.keyed hw.conversations
  caches := h.caches.keyed hw.caches
  vectorMemory := h.vectorMemory.keyed hw.vectorMemory
  brain := h.brain.sound hw.brain
  ledger := h.ledger.keyed hw.ledger

end World.Evolves

theorem World.sound_fresh (around : Surroundings) (answer : Nat → Except String String) :
    (World.fresh around answer).Sound where
  conversations :=
    ⟨List.nodup_nil, List.nodup_nil, List.nodup_nil, List.nodup_nil, List.nodup_nil⟩
  caches := ⟨List.nodup_nil, List.nodup_nil⟩
  vectorMemory := List.nodup_nil
  brain :=
    { entities := List.nodup_nil
      facts := List.nodup_nil
      relations := List.nodup_nil
      tasks := List.nodup_nil
      digested := fun _ hrow => absurd hrow List.not_mem_nil
      triples := List.nodup_nil
      sources := List.nodup_nil
      entityKinds := fun _ hrow => absurd hrow List.not_mem_nil
      taskStatuses := fun _ hrow => absurd hrow List.not_mem_nil
      relationKinds := fun _ hrow => absurd hrow List.not_mem_nil }
  ledger := ⟨List.nodup_nil, List.nodup_nil⟩

/-! ## Operations -/

/-- Each action of the operation lets the world evolve. -/
def Evolving (logs : Prop) (α : Type) (p : EngineOp α) : Prop :=
  Acts (fun _ g => ∀ w : World, World.Evolves logs w (g w)) p

variable {logs : Prop}

theorem closed_evolving : EngineOp.Closed (Evolving logs) := EngineOp.closed_acts _

variable {α : Type}

theorem evolving_outside (m : Stmt Unit α) : Evolving logs α (EngineOp.outside m) := by
  refine Op.acts_stmt fun w => ?_
  rw [View.after_run]
  exact { World.Evolves.refl w with }

theorem evolving_now : Evolving logs Instant EngineOp.now := evolving_outside _

theorem evolving_newUuid : Evolving logs String EngineOp.newUuid := evolving_outside _

/-- A statement on a group of tables, by what it does to the world. -/
theorem evolving_guardedAs {τ : Type} {v : View τ} {m : Stmt τ α} (label : Event)
    (h : ∀ w : World, World.Evolves logs w (after (v.run m) w)) :
    Evolving logs α (EngineOp.guardedAs label v m) :=
  .lock (.act h fun _ => .unlock .ret)

section

variable {m : Stmt Conversations α}

theorem evolves_conversations (h : m.Respects (Conversations.Evolves logs)) (w : World) :
    World.Evolves logs w (after (View.conversations.run m) w) := by
  rw [View.after_run]
  exact { World.Evolves.refl w with conversations := h (w.around, w.conversations) }

theorem evolving_conversations (h : m.Respects (Conversations.Evolves logs)) :
    Evolving logs α (EngineOp.guarded .conversations m) :=
  evolving_guardedAs .quiet (evolves_conversations h)

end

theorem evolving_caches {m : Stmt Caches α} (h : m.Respects Caches.Evolves) :
    Evolving logs α (EngineOp.guarded .caches m) := by
  refine evolving_guardedAs .quiet fun w => ?_
  rw [View.after_run]
  exact { World.Evolves.refl w with caches := h (w.around, w.caches) }

theorem evolving_vectorMemory {m : Stmt (List VectorMemoryRow) α} (h : m.Respects MemoryEvolves) :
    Evolving logs α (EngineOp.guarded .vectorMemory m) := by
  refine evolving_guardedAs .quiet fun w => ?_
  rw [View.after_run]
  exact { World.Evolves.refl w with vectorMemory := h (w.around, w.vectorMemory) }

theorem evolving_brain {m : Stmt BrainTables α} (h : m.Respects BrainTables.Evolves) :
    Evolving logs α (EngineOp.guarded .brain m) := by
  refine evolving_guardedAs .quiet fun w => ?_
  rw [View.after_run]
  exact { World.Evolves.refl w with brain := h (w.around, w.brain) }

theorem evolving_ledger {m : Stmt Ledger α} (h : m.Respects (Ledger.Evolves logs)) :
    Evolving logs α (EngineOp.guarded .ledger m) := by
  refine evolving_guardedAs .quiet fun w => ?_
  rw [View.after_run]
  exact { World.Evolves.refl w with ledger := h (w.around, w.ledger) }

/-! ## The store -/

namespace StateStore

/-- A selection of conversations and what is computed from it. -/
theorem evolving_select {ρ : Type} (f : Conversations → ρ) (g : ρ → α) :
    Evolving logs α (EngineOp.guarded .conversations (Stmt.select f >>= fun found => pure (g found))) :=
  evolving_conversations (respects_bind Conversations.Evolves.trans
    (respects_select Conversations.Evolves.refl f) fun _ =>
      respects_pure Conversations.Evolves.refl _)

omit [Externals] in
theorem evolves_pairingForTargetStmt (target : Target) :
    (pairingForTargetStmt target).Respects (Conversations.Evolves logs) := by
  refine respects_bind Conversations.Evolves.trans
    (respects_select Conversations.Evolves.refl _) fun found => ?_
  cases found with
  | some row => exact respects_pure Conversations.Evolves.refl _
  | none => exact respects_fail Conversations.Evolves.refl _

theorem evolving_sessionById (sessionId : String) :
    Evolving logs SessionRecord (sessionById sessionId) := by
  refine evolving_conversations (respects_bind Conversations.Evolves.trans
    (respects_select Conversations.Evolves.refl _) fun found => ?_)
  cases found with
  | some row => exact respects_pure Conversations.Evolves.refl _
  | none => exact respects_fail Conversations.Evolves.refl _

theorem evolving_recordSessionMessage (hlogs : logs)
    (sessionId connector role sender body metadataJson : String) :
    Evolving logs String (recordSessionMessage sessionId connector role sender body metadataJson) := by
  rw [recordSessionMessage_eq]
  refine closed_evolving.bind evolving_newUuid fun uuid => ?_
  refine closed_evolving.bind evolving_now fun now => ?_
  exact evolving_conversations (evolves_recordSessionMessageStmt hlogs _ _)

theorem evolving_setSessionPendingPairing (sessionId : String) (value : Bool) :
    Evolving logs Unit (setSessionPendingPairing sessionId value) :=
  evolving_conversations (respects_bind Conversations.Evolves.trans
    (respects_now Conversations.Evolves.refl) fun now =>
      respects_execute Conversations.Evolves.refl (evolves_setPendingPairing sessionId value now))

theorem evolving_ensurePairing (connectorName channelId sender sessionId reason : String) :
    Evolving logs PairingRecord (ensurePairing connectorName channelId sender sessionId reason) := by
  refine closed_evolving.bind evolving_now fun now => ?_
  refine closed_evolving.bind evolving_newUuid fun uuid => ?_
  exact Op.acts_holding (evolves_conversations (evolves_ensurePairingStmt _)) fun _ =>
    evolving_conversations (evolves_pairingForTargetStmt _)

theorem evolving_upsertMemory (nameSpace key content metadataJson : String)
    (encryption : EncryptionManager) :
    Evolving logs String (upsertMemory nameSpace key content metadataJson encryption) := by
  refine closed_evolving.bind (closed_evolving.bind (evolving_outside _) fun nonce =>
    closed_evolving.ofExcept _) fun blob => ?_
  refine evolving_vectorMemory (respects_bind MemoryEvolves.trans
    (respects_now MemoryEvolves.refl) fun now => ?_)
  refine respects_bind MemoryEvolves.trans ?_ fun _ => respects_pure MemoryEvolves.refl _
  exact respects_execute MemoryEvolves.refl fun rows => .of_upsert _ rows

theorem evolving_queryMemory (query : MemoryQuery) (encryption : EncryptionManager) :
    Evolving logs (List MemoryRecord) (queryMemory query encryption) :=
  evolving_vectorMemory (respects_bind MemoryEvolves.trans (respects_select MemoryEvolves.refl _)
    fun _ => respects_bind MemoryEvolves.trans (respects_ofExcept MemoryEvolves.refl _)
      fun _ => respects_pure MemoryEvolves.refl _)

theorem evolving_cachePut {f : CacheRow → Caches → Caches} (key provider response : String)
    (h : ∀ row t, Caches.Evolves t (f row t)) :
    Evolving logs Unit (EngineOp.guarded .caches do
      let now ← Stmt.now
      Stmt.execute (f ⟨key, provider, response, now⟩)) :=
  evolving_caches (respects_bind Caches.Evolves.trans (respects_now Caches.Evolves.refl) fun _ =>
    respects_execute Caches.Evolves.refl fun t => h _ t)

end StateStore

open StateStore

/-- Every operation of the store lets the world evolve. -/
theorem StoreCall.evolving (call : StoreCall) (hlogs : call.isLog = true → logs) :
    Evolving logs call.Result call.op := by
  have hclosed : EngineOp.Closed (Evolving logs) := closed_evolving
  cases call with
  | recordMessage message => exact evolving_conversations (evolves_recordMessage (hlogs rfl) message)
  | listJobs =>
      exact evolving_ledger (respects_bind Ledger.Evolves.trans
        (respects_select Ledger.Evolves.refl _) fun _ => respects_pure Ledger.Evolves.refl _)
  | cacheExactGet promptHash => exact evolving_caches (respects_select Caches.Evolves.refl _)
  | cacheExactPut promptHash provider response =>
      refine evolving_cachePut (f := fun row t => { t with
        promptCache := Lib.Table.upsertOn CacheRow.key (fun _ => row) row t.promptCache })
        _ _ _ fun row t => ?_
      obtain ⟨hkeys, hrows⟩ := Caches.Evolves.of_upsert t.promptCache row
      exact ⟨fun ht => ⟨hkeys ht.prompts, ht.heads⟩, hrows, .refl _ _⟩
  | cachePrefixGet prompt => exact evolving_caches (respects_select Caches.Evolves.refl _)
  | cachePrefixPut key provider response =>
      refine evolving_cachePut (f := fun row t => { t with
        prefixCache := Lib.Table.upsertOn CacheRow.key (fun _ => row) row t.prefixCache })
        _ _ _ fun row t => ?_
      obtain ⟨hkeys, hrows⟩ := Caches.Evolves.of_upsert t.prefixCache row
      exact ⟨fun ht => ⟨ht.prompts, hkeys ht.heads⟩, .refl _ _, hrows⟩
  | upsertMemory nameSpace key content metadataJson encryption =>
      exact evolving_upsertMemory _ _ _ _ _
  | queryMemory query encryption => exact evolving_queryMemory _ _
  | recordAudit event =>
      refine evolving_ledger (respects_insert Ledger.Evolves.refl fun t t' hinsert => ?_)
      obtain ⟨rows, hrows, rfl⟩ := Option.map_eq_some_iff.mp hinsert
      exact .of_insertAudit (hlogs rfl) hrows
  | listAudit limit =>
      exact evolving_ledger (respects_bind Ledger.Evolves.trans
        (respects_select Ledger.Evolves.refl _) fun _ => respects_pure Ledger.Evolves.refl _)
  | storeQueueTask task status =>
      exact hclosed.bind evolving_now fun now => evolving_ledger
        (respects_execute Ledger.Evolves.refl fun t => .of_upsertTask _)
  | updateQueueStatus taskId status =>
      exact evolving_ledger (respects_bind Ledger.Evolves.trans (respects_now Ledger.Evolves.refl)
        fun now => respects_execute Ledger.Evolves.refl fun t => .of_updateTasks fun _ => by rfl)
  | recordProtocolRun result =>
      exact evolving_ledger (respects_bind Ledger.Evolves.trans (respects_now Ledger.Evolves.refl)
        fun now => respects_execute Ledger.Evolves.refl fun t => .of_protocolRun _)
  | resolveSessionForInbound message config defaultModelProfile =>
      exact evolving_conversations (evolves_resolveSessionStmt _ _ _ _ _ _)
  | resolveSessionForOutbound connector channelId sender config =>
      refine hclosed.bind (evolving_conversations (respects_select Conversations.Evolves.refl _))
        fun found => ?_
      cases found with
      | some row => exact hclosed.pure _
      | none => exact evolving_conversations (evolves_resolveSessionStmt _ _ _ _ _ _)
  | resolveSessionInternal connectorName channelId participant sessionType config
      defaultModelProfile =>
      exact evolving_conversations (evolves_resolveSessionStmt _ _ _ _ _ _)
  | sessionById sessionId => exact evolving_sessionById _
  | recordSessionMessage sessionId connector role sender body metadataJson =>
      exact evolving_recordSessionMessage (hlogs rfl) _ _ _ _ _ _
  | listSessions query => exact evolving_select _ _
  | getSessionDetail query =>
      exact hclosed.bind (evolving_sessionById _) fun _ => evolving_select _ _
  | pruneSessions request =>
      refine hclosed.bind evolving_now fun now => hclosed.bind (hclosed.orPanic _)
        fun threshold => hclosed.bind (evolving_conversations ?_) fun _ => hclosed.pure _
      split
      · exact evolves_archiveSessionsStmt threshold
      · exact evolves_deleteSessionsStmt (hlogs rfl) threshold
  | listPairings query => exact evolving_select _ _
  | ensurePairing connectorName channelId sender sessionId reason =>
      exact evolving_ensurePairing _ _ _ _ _
  | pairingForTarget connectorName channelId sender =>
      exact evolving_conversations (evolves_pairingForTargetStmt _)
  | updatePairing request =>
      exact hclosed.bind evolving_now fun now =>
        evolving_guardedAs _ (evolves_conversations (evolves_updatePairingStmt _ _ _ _))
  | pairingIsApproved connectorName channelId sender =>
      refine hclosed.bind (hclosed.attempt (evolving_guardedAs _
        (evolves_conversations (evolves_pairingForTargetStmt _)))) fun pairing => ?_
      cases pairing with
      | ok record => exact hclosed.pure _
      | error message => exact hclosed.pure _
  | setSessionPendingPairing sessionId value => exact evolving_setSessionPendingPairing _ _
  | clearSessionPendingPairing sessionId => exact evolving_setSessionPendingPairing _ _

/-! ## The brain -/

namespace BrainManager

open BrainTables (Evolves)

theorem evolving_applyRetention (manager : BrainManager) :
    Evolving logs Unit manager.applyRetention := by
  have hclosed : EngineOp.Closed (Evolving logs) := closed_evolving
  refine hclosed.bind evolving_now fun now => hclosed.bind (hclosed.orPanic _) fun age =>
    hclosed.bind (hclosed.orPanic _) fun cutoff => evolving_brain ?_
  refine respects_bind Evolves.trans (respects_now Evolves.refl) fun now => ?_
  refine respects_bind Evolves.trans (respects_execute Evolves.refl fun t => ?_) fun _ => ?_
  · exact .of_updateEntities fun _ => ⟨rfl, rfl, rfl⟩
  refine respects_bind Evolves.trans (respects_now Evolves.refl) fun now => ?_
  refine respects_bind Evolves.trans (respects_execute Evolves.refl fun t => ?_) fun _ => ?_
  · exact .of_updateFacts fun _ => rfl
  refine respects_bind Evolves.trans (respects_now Evolves.refl) fun now => ?_
  exact respects_execute Evolves.refl fun t => .of_updateTasks fun _ => ⟨rfl, rfl⟩

theorem evolves_forgetStmt (targetKind mode targetId : String) :
    (forgetStmt targetKind mode targetId).Respects Evolves := by
  have hstep {f : BrainTables → BrainTables} (hf : ∀ t, Evolves t (f t)) :
      (Stmt.execute f).Respects Evolves :=
    respects_execute Evolves.refl hf
  have htimed {m : Instant → Stmt BrainTables Unit} (hm : ∀ now, (m now).Respects Evolves) :
      (Stmt.now >>= m).Respects Evolves :=
    respects_bind Evolves.trans (respects_now Evolves.refl) hm
  unfold forgetStmt
  split
  · refine htimed fun now => respects_bind Evolves.trans (hstep fun t => ?_) fun _ => ?_
    · exact .of_updateEntities fun _ => ⟨rfl, rfl, rfl⟩
    refine htimed fun now => respects_bind Evolves.trans (hstep fun t => ?_) fun _ => ?_
    · exact .of_updateFacts fun _ => by rfl
    exact htimed fun now => hstep fun t => .of_updateRelations fun _ => by rfl
  · exact htimed fun now => hstep fun t => .of_updateTasks fun _ => ⟨rfl, rfl⟩
  · exact htimed fun now => hstep fun t => .of_updateFacts fun _ => by rfl
  · exact htimed fun now => hstep fun t => .of_updateRelations fun _ => by rfl
  · refine respects_bind Evolves.trans (hstep fun t => .of_deleteFacts _) fun _ => ?_
    refine respects_bind Evolves.trans (hstep fun t => .of_deleteRelations _) fun _ => ?_
    exact hstep fun t => .of_entities (fun ht => Lib.Table.nodup_deleteWhere ht.entities _)
      (fun ht row hrow => ht.entityKinds row (Lib.Table.mem_deleteWhere.mp hrow).1)
      (.deleteWhere _ _)
  · refine respects_bind Evolves.trans (hstep fun t => ?_) fun _ => ?_
    · exact .of_tasks (fun ht => Lib.Table.nodup_deleteWhere ht.tasks _)
        (fun ht row hrow => ht.taskStatuses row (Lib.Table.mem_deleteWhere.mp hrow).1)
        (.deleteWhere _ _)
    exact hstep fun t => .of_deleteRelations _
  · exact hstep fun t => .of_deleteFacts _
  · exact hstep fun t => .of_deleteRelations _
  · exact respects_fail Evolves.refl _

theorem evolving_statements (manager : BrainManager) : manager.Statements (Evolving logs) where
  toClosed := closed_evolving
  now := evolving_now
  nonce := evolving_outside _
  project _ _ _ _ := evolving_upsertMemory _ _ _ _ _
  search _ := evolving_queryMemory _ _
  select f g := evolving_brain (respects_bind Evolves.trans (respects_select Evolves.refl f)
    fun rows => respects_ofExcept Evolves.refl (g rows))
  entity _ hkind := evolving_brain (respects_execute Evolves.refl fun _ => .of_upsertEntity hkind)
  fact row := evolving_brain (respects_execute Evolves.refl fun _ => .of_upsertFact row)
  task _ hstatus := evolving_brain (respects_execute Evolves.refl fun _ => .of_upsertTask hstatus)
  relation row hdigested hkind := by
    refine evolving_brain (respects_insert Evolves.refl fun t t' hupsert => ?_)
    obtain ⟨rows, hrows, rfl⟩ := Option.map_eq_some_iff.mp hupsert
    exact .of_upsertRelation hdigested hkind hrows
  recordIngest _ _ _ _ := evolving_brain (respects_bind Evolves.trans (respects_now Evolves.refl)
    fun _ => respects_execute Evolves.refl fun _ => .of_upsertIngest _)
  retain := manager.evolving_applyRetention

theorem evolving_forget (manager : BrainManager) (request : BrainForget) :
    Evolving logs BrainForgetResult (manager.forget request) := by
  refine manager.evolving_statements.forget request
    (fun _ _ _ => evolving_brain (evolves_forgetStmt _ _ _)) fun nameSpace key => ?_
  exact evolving_vectorMemory (respects_execute MemoryEvolves.refl fun rows =>
    .of_delete _ rows)

end BrainManager

/-! ## Runs -/

/-- What the calls do besides their records lets the world evolve, and leaves the
records. -/
theorem quiet_evolving : QuietParts (Evolving logs) where
  toClosed := closed_evolving
  newUuid := evolving_newUuid
  now := evolving_now
  store call hquiet := call.evolving fun hlog => by simp [hquiet] at hlog
  brain manager := manager.evolving_statements.parts
  forget manager := manager.evolving_forget
  ask _ _ := Op.acts_stmt fun w =>
    { World.Evolves.refl w with requests := List.prefix_append _ _ }
  emit _ := Op.acts_stmt fun w => World.Evolves.refl w

theorem parts_evolving : RuntimeParts (Evolving True) where
  toQuietParts := quiet_evolving
  log call _ := call.evolving fun _ => trivial

theorem ApiCall.evolving_thread (runtime : EngineRuntime) (call : ApiCall) :
    Acts (fun _ g => ∀ w : World, World.Evolves True w (g w)) (call.thread runtime) :=
  Acts.bind (parts_evolving.call runtime call) fun _ => .ret

/-- The engine over its lifetime: calls under the configurations it is started
with, in all interleavings and with crashes, from an empty database. -/
def engine : System (Pool Event World) (Pool.Turn (EngineRuntime × ApiCall) Event) :=
  Pool.crashing (fun call => call.2.thread call.1) fun w => ∃ around answer, w = .fresh around answer

end

/-- The threads of a runtime whose brain is disabled. -/
def referenceApiThread (call : EngineRuntime × ApiCall) : Lib.Prog Event World Unit :=
  @ApiCall.thread referenceExternals call.1 call.2

def freshPool : Pool Event World := ⟨false, .fresh countingSurroundings fun _ => .ok "hello", []⟩

/-- A message is delivered while a task is queued. -/
def referenceTurns : List ((EngineRuntime × ApiCall) ⊕ Nat) :=
  [.inl (referenceRuntime, .deliverMessage (referenceMessage "7" "7" "hi")),
    .inl (referenceRuntime, .storeQueueTask ⟨"1", "tool", "search", "{}", .interactive⟩ "queued"),
    .inr 0, .inr 0, .inr 1, .inr 0, .inr 1, .inr 1, .inr 1]

/-- Those turns lead to a message and a task. -/
theorem run_referenceTurns : ∃ s turns, (@engine referenceExternals).Run freshPool turns s ∧
    s.shared.conversations.messages.length = 1 ∧ s.shared.ledger.queueTasks.length = 1 := by
  have hplay : (Pool.play referenceApiThread referenceTurns freshPool).any (fun played =>
      played.2.shared.conversations.messages.length == 1 &&
        played.2.shared.ledger.queueTasks.length == 1) = true := by
    decide
  obtain ⟨⟨moves, s⟩, hplayed, hboth⟩ := Option.any_eq_true _ _ |>.mp hplay
  obtain ⟨hmessages, htasks⟩ := Bool.and_eq_true_iff.mp hboth
  exact ⟨s, moves.map .move, Pool.crashing_of_run (Pool.run_of_play hplayed fun _ _ _ => trivial),
    beq_iff_eq.mp hmessages, beq_iff_eq.mp htasks⟩

theorem init_freshPool : (@engine referenceExternals).init freshPool := ⟨rfl, rfl, _, _, rfl⟩

/-- In every reachable state the database is sound. -/
theorem sound_reachable [Externals] {s : Pool Event World} (h : engine.Reachable s) :
    s.shared.Sound := by
  obtain ⟨start, turns, hstart, hrun⟩ := h
  obtain ⟨around, answer, hfresh⟩ := hstart.2.2
  have hevolves := Pool.related_of_acts (fun call => call.2.evolving_thread call.1)
    World.Evolves.refl World.Evolves.trans (fun _ _ h => h) (.of_init hstart) hrun
  rw [hfresh] at hevolves
  exact hevolves.sound (World.sound_fresh around answer)

/-- The database is sound when the message and the task are stored. -/
theorem sound_reachable_message : ∃ s : Pool Event World,
    s.shared.conversations.messages.length = 1 ∧ @World.Sound referenceExternals s.shared := by
  obtain ⟨s, turns, hrun, hmessages, -⟩ := run_referenceTurns
  exact ⟨s, hmessages, @sound_reachable referenceExternals s ⟨_, _, init_freshPool, hrun⟩⟩

end OpenPinch
