import OpenPinch.Engine.Rules
import OpenPinch.Engine.StateStore

/-!
# What the state store does

`PairingStep` lists what an action can do to the table of pairings, by its
event.  `Plain` actions are those of messages and of the operator: they leave
the reply caches alone, and sessions of groups stay with their channel.

Every operation but `ensure_pairing` keeps the discipline of the lock.
-/

namespace OpenPinch

open Lib (Op Table.updateWhere Table.deleteWhere Table.insert Table.upsert
  Table.mem_updateWhere Table.mem_deleteWhere)
open Lib.Prog (Acts Keeps)
open Lib.Op (after)

/-! ## Pairings -/

/-- The update sets the status and keeps the row. -/
structure SetsStatus (status : String) (change : PairingRow → PairingRow) : Prop where
  pairingId : ∀ row, (change row).pairingId = row.pairingId
  target : ∀ row, (change row).target = row.target
  status : ∀ row, (change row).status = status

/-- What an action can do to the pairings. -/
inductive PairingStep : Event → List PairingRow → List PairingRow → Prop where
  | same {e : Event} {rows : List PairingRow} : PairingStep e rows rows
  | renew {target : Target} {rows : List PairingRow} {change : PairingRow → PairingRow}
      (sets : SetsStatus "pending" change) :
      PairingStep (.pairingUpsert target) rows
        (Table.updateWhere (·.target == target) change rows)
  | add {rows : List PairingRow} {row : PairingRow}
      (newId : ∀ other ∈ rows, other.pairingId ≠ row.pairingId)
      (newTarget : ∀ other ∈ rows, other.target ≠ row.target) (pending : row.status = "pending") :
      PairingStep (.pairingUpsert row.target) rows (rows ++ [row])
  | decide {pairingId status : String} {rows : List PairingRow}
      {change : PairingRow → PairingRow} (sets : SetsStatus status change) :
      PairingStep (.pairingUpdate pairingId status) rows
        (Table.updateWhere (·.pairingId == pairingId) change rows)

/-! ## Calm and plain actions -/

/-- Each session that is not direct is with its channel. -/
def Conversations.GroupsWithChannel (t : Conversations) : Prop :=
  ∀ row ∈ t.sessions, row.sessionType = "direct" ∨ row.participant = row.channelId

/-- The pairings stay, and so does the shape of the sessions. -/
structure Calm (t t' : Conversations) : Prop where
  pairings : t'.pairings = t.pairings
  groups : t.GroupsWithChannel → t'.GroupsWithChannel

namespace Calm

theorem refl (t : Conversations) : Calm t t := ⟨rfl, id⟩

theorem trans (t t' t'' : Conversations) (h : Calm t t') (h' : Calm t' t'') : Calm t t'' :=
  ⟨h'.pairings.trans h.pairings, h'.groups ∘ h.groups⟩

/-- An update of other columns. -/
theorem updateSessions (t : Conversations) (test : SessionRow → Bool)
    {change : SessionRow → SessionRow}
    (h : ∀ row, (change row).sessionType = row.sessionType ∧
      (change row).participant = row.participant ∧ (change row).channelId = row.channelId) :
    Calm t { t with sessions := Table.updateWhere test change t.sessions } := by
  refine ⟨rfl, fun ht row hrow => ?_⟩
  obtain ⟨old, hold, rfl⟩ := Table.mem_updateWhere.mp hrow
  split
  · rw [(h old).1, (h old).2.1, (h old).2.2]
    exact ht old hold
  · exact ht old hold

theorem deleteSessions (t : Conversations) (test : SessionRow → Bool) :
    Calm t { t with sessions := Table.deleteWhere test t.sessions } :=
  ⟨rfl, fun ht row hrow => ht row (Table.mem_deleteWhere.mp hrow).1⟩

theorem insertSession {t t' : Conversations} {clash : SessionRow → Bool} {row : SessionRow}
    (hrow : row.sessionType = "direct" ∨ row.participant = row.channelId)
    (h : (Table.insert clash row t.sessions).map (fun rows => { t with sessions := rows }) =
      some t') : Calm t t' := by
  unfold Table.insert at h
  split at h
  · cases h
  · cases h
    refine ⟨rfl, fun ht other hother => ?_⟩
    rcases List.mem_append.mp hother with hold | hnew
    · exact ht other hold
    · rw [List.mem_singleton.mp hnew]
      exact hrow

end Calm

/-- What a message with a target shows before its reply. -/
inductive Event.AsksFor (target : Target) : Event → Prop where
  | check : AsksFor target (.approvalCheck target)
  | upsert : AsksFor target (.pairingUpsert target)

/-- What an update of a pairing shows. -/
inductive Event.Decides (request : PairingUpdate) : Event → Prop where
  | update : Decides request
      (.pairingUpdate request.pairingId (StateStore.requestedStatus request.action))

/-- An action outside the orchestrator, with events of a kind. -/
structure Plain (kind : Event → Prop) (e : Event) (g : World → World) : Prop where
  label : e = .quiet ∨ kind e
  caches : ∀ w, (g w).caches = w.caches
  providers : ∀ w, (g w).providers = w.providers
  pairings : ∀ w, PairingStep e w.conversations.pairings (g w).conversations.pairings
  groups : ∀ w, w.conversations.GroupsWithChannel → (g w).conversations.GroupsWithChannel

/-- The action of an operation that leaves the pairings alone, which nobody can
tell. -/
structure Quiet (e : Event) (g : World → World) : Prop where
  quiet : e = .quiet
  caches : ∀ w, (g w).caches = w.caches
  providers : ∀ w, (g w).providers = w.providers
  calm : ∀ w, Calm w.conversations (g w).conversations

theorem Aside.toQuiet {e : Event} {g : World → World} (h : Aside e g) : Quiet e g where
  quiet := h.quiet
  caches := h.caches
  providers := h.providers
  calm w := by rw [h.conversations w]; exact Calm.refl _

theorem Quiet.plain {kind : Event → Prop} {e : Event} {g : World → World} (h : Quiet e g) :
    Plain kind e g where
  label := Or.inl h.quiet
  caches := h.caches
  providers := h.providers
  pairings w := by rw [(h.calm w).pairings]; exact .same
  groups w := (h.calm w).groups

/-- A statement on conversations, by what it does to them. -/
theorem plain_conversations {α : Type} {kind : Event → Prop} {e : Event} (he : kind e)
    {m : Stmt Conversations α}
    (hpairings : m.Respects fun t t' => PairingStep e t.pairings t'.pairings)
    (hgroups : m.Respects fun t t' => t.GroupsWithChannel → t'.GroupsWithChannel) :
    Plain kind e (after (View.conversations.run m)) where
  label := Or.inr he
  caches w := by rw [View.after_run]; rfl
  providers w := by rw [View.after_run]; rfl
  pairings := View.respects_conversations hpairings
  groups := View.respects_conversations hgroups

theorem plain_calm {α : Type} {kind : Event → Prop} {e : Event} (he : kind e)
    {m : Stmt Conversations α} (h : m.Respects Calm) :
    Plain kind e (after (View.conversations.run m)) := by
  refine plain_conversations he (fun s => ?_) fun s => (h s).groups
  show PairingStep e s.2.pairings (after m s).2.pairings
  rw [(h s).pairings]
  exact .same

theorem quiet_calm {α : Type} {m : Stmt Conversations α} (h : m.Respects Calm) :
    Quiet .quiet (after (View.conversations.run m)) where
  quiet := rfl
  caches w := by rw [View.after_run]; rfl
  providers w := by rw [View.after_run]; rfl
  calm := View.respects_conversations h

/-- A calm statement under the lock. -/
theorem keeps_calm {α : Type} {m : Stmt Conversations α} (h : m.Respects Calm) :
    Keeps Quiet false false (EngineOp.guarded .conversations m) :=
  Op.keeps_guarded (quiet_calm h)

theorem keeps_aside {α : Type} {p : EngineOp α} (h : Keeps Aside false false p) :
    Keeps Quiet false false p :=
  h.mono fun _ _ => Aside.toQuiet

theorem keeps_plain {α : Type} {kind : Event → Prop} {p : EngineOp α}
    (h : Keeps Quiet false false p) : Keeps (Plain kind) false false p :=
  h.mono fun _ _ => Quiet.plain

/-- A statement that only reads. -/
theorem calm_select {α : Type} (f : Conversations → α) :
    (Stmt.select f : Stmt Conversations α).Respects Calm :=
  Stmt.respects_select Calm.refl f

namespace StateStore

open Stmt (respects_bind respects_now respects_newUuid respects_execute respects_insert
  respects_pure respects_fail respects_sql)

/-! ## Messages and sessions -/

theorem keeps_recordMessage (message : MessageEnvelope) :
    Keeps Quiet false false (recordMessage message) :=
  keeps_calm (respects_bind Calm.trans (respects_now Calm.refl) fun _ =>
    respects_execute Calm.refl fun _ => ⟨rfl, id⟩)

theorem calm_resolveSessionStmt {connectorName channelId participant sessionType : String}
    (hgroup : sessionType = "direct" ∨ participant = channelId) (config : AppConfig)
    (defaultModelProfile : String) :
    (resolveSessionStmt connectorName channelId participant sessionType config
      defaultModelProfile).Respects Calm := by
  refine respects_bind Calm.trans (calm_select _) fun found => ?_
  cases found with
  | some row => exact respects_pure Calm.refl _
  | none =>
      refine respects_bind Calm.trans (respects_now Calm.refl) fun now => ?_
      refine respects_bind Calm.trans (respects_newUuid Calm.refl) fun uuid => ?_
      refine respects_bind Calm.trans ?_ fun _ => respects_pure Calm.refl _
      exact respects_insert Calm.refl fun t t' h => Calm.insertSession hgroup h

theorem keeps_sessionById (sessionId : String) :
    Keeps Quiet false false (sessionById sessionId) := by
  refine keeps_calm (respects_bind Calm.trans (calm_select _) fun found => ?_)
  cases found with
  | some row => exact respects_pure Calm.refl _
  | none => exact respects_fail Calm.refl _

theorem keeps_recordSessionMessage (sessionId connector role sender body metadataJson : String) :
    Keeps Quiet false false
      (recordSessionMessage sessionId connector role sender body metadataJson) := by
  refine Op.keeps_bind (keeps_aside EngineOp.keeps_newUuid) fun uuid => ?_
  refine Op.keeps_bind (keeps_aside EngineOp.keeps_now) fun now => keeps_calm ?_
  refine respects_bind Calm.trans (respects_insert Calm.refl fun t t' h => ?_) fun _ => ?_
  · obtain ⟨rows, -, rfl⟩ := Option.map_eq_some_iff.mp h
    exact ⟨rfl, id⟩
  · refine respects_bind Calm.trans ?_ fun _ => respects_pure Calm.refl _
    exact respects_execute Calm.refl fun t => Calm.updateSessions t _ fun _ => ⟨rfl, rfl, rfl⟩

theorem calm_setPendingPairing (sessionId : String) (value : Bool) (now : Instant)
    (t : Conversations) : Calm t (setPendingPairing sessionId value now t) :=
  Calm.updateSessions t _ fun _ => ⟨rfl, rfl, rfl⟩

theorem keeps_setSessionPendingPairing (sessionId : String) (value : Bool) :
    Keeps Quiet false false (setSessionPendingPairing sessionId value) :=
  keeps_calm (respects_bind Calm.trans (respects_now Calm.refl) fun now =>
    respects_execute Calm.refl (calm_setPendingPairing sessionId value now))

/-! ## Pairings -/

theorem calm_pairingForTargetStmt (target : Target) :
    (pairingForTargetStmt target).Respects Calm := by
  refine respects_bind Calm.trans (calm_select _) fun found => ?_
  cases found with
  | some row => exact respects_pure Calm.refl _
  | none => exact respects_fail Calm.refl _

theorem keeps_pairingForTarget (connectorName channelId sender : String) :
    Keeps Quiet false false (pairingForTarget connectorName channelId sender) :=
  keeps_calm (calm_pairingForTargetStmt _)

theorem keeps_pairingIsApproved (connectorName channelId sender : String) :
    Keeps (Plain (Event.AsksFor ⟨connectorName, channelId, sender⟩)) false false
      (pairingIsApproved connectorName channelId sender) := by
  refine Op.keeps_bind (EngineOp.keeps_attempt (Op.keeps_guarded
    (plain_calm .check (calm_pairingForTargetStmt _)))) fun pairing => ?_
  cases pairing with
  | ok record => exact Op.keeps_pure _
  | error message => exact Op.keeps_pure _

/-- The upsert renews the row of its target or adds one. -/
theorem pairingStep_ensurePairing {row : PairingRow} (pending : row.status = "pending") :
    (ensurePairingStmt row).Respects fun t t' =>
      PairingStep (.pairingUpsert row.target) t.pairings t'.pairings := by
  refine respects_insert (fun _ => .same) fun t t' h => ?_
  unfold Table.upsert at h
  split at h
  · cases h
    exact .renew ⟨fun _ => rfl, fun _ => rfl, fun _ => pending⟩
  · rename_i hnone
    split at h
    · cases h
    · rename_i hclash
      cases h
      refine .add (fun other hother => ?_) (fun other hother => ?_) pending
      · intro same
        exact hclash (List.any_eq_true.mpr ⟨other, hother, beq_iff_eq.mpr same⟩)
      · intro same
        exact hnone (List.any_eq_true.mpr ⟨other, hother, beq_iff_eq.mpr same⟩)

theorem plain_ensurePairingStmt {row : PairingRow} {target : Target}
    (htarget : row.target = target) (pending : row.status = "pending") :
    Plain (Event.AsksFor target) (.pairingUpsert row.target)
      (after (View.conversations.run (ensurePairingStmt row))) := by
  subst htarget
  refine plain_conversations .upsert (pairingStep_ensurePairing pending) ?_
  refine respects_insert (fun _ => id) fun t t' h => ?_
  obtain ⟨rows, -, rfl⟩ := Option.map_eq_some_iff.mp h
  exact id

/-- `ensure_pairing` acts like the others.  It does not keep the lock. -/
theorem acts_ensurePairing (connectorName channelId sender sessionId reason : String) :
    Acts (Plain (Event.AsksFor ⟨connectorName, channelId, sender⟩))
      (ensurePairing connectorName channelId sender sessionId reason) := by
  refine Op.acts_bind (keeps_plain (keeps_aside EngineOp.keeps_now)).acts fun now => ?_
  refine Op.acts_bind (keeps_plain (keeps_aside EngineOp.keeps_newUuid)).acts fun uuid => ?_
  exact Op.acts_holding (plain_ensurePairingStmt rfl rfl) fun _ =>
    (keeps_plain (keeps_pairingForTarget connectorName channelId sender)).acts

/-- The statements of `update_pairing` after the first one. -/
theorem calm_updatePairingRest (pairingId status : String) :
    (updatePairingRest pairingId status).Respects Calm := by
  refine respects_bind Calm.trans (calm_select _) fun found => ?_
  cases found with
  | none => exact respects_fail Calm.refl _
  | some row =>
      refine respects_bind Calm.trans (respects_now Calm.refl) fun later => ?_
      refine respects_bind Calm.trans ?_ fun _ => respects_pure Calm.refl _
      exact respects_execute Calm.refl (calm_setPendingPairing _ _ later)

/-- Only the first statement of `update_pairing` touches the pairings. -/
theorem plain_updatePairingStmt (request : PairingUpdate) (now : Instant) :
    let status := requestedStatus request.action
    Plain (Event.Decides request) (.pairingUpdate request.pairingId status)
      (after (View.conversations.run
        (updatePairingStmt request.pairingId status request.note now))) := by
  intro status
  refine plain_conversations .update ?_ ?_
  · have absorbs : ∀ t t' t'' : Conversations,
        PairingStep (.pairingUpdate request.pairingId status) t.pairings t'.pairings → Calm t' t'' →
          PairingStep (.pairingUpdate request.pairingId status) t.pairings t''.pairings := by
      intro t t' t'' h calm
      rw [calm.pairings]
      exact h
    refine respects_bind absorbs ?_ fun _ => calm_updatePairingRest _ _
    exact respects_execute (fun _ => .same) fun t =>
      .decide ⟨fun _ => rfl, fun _ => rfl, fun _ => rfl⟩
  · have absorbs : ∀ t t' t'' : Conversations,
        (t.GroupsWithChannel → t'.GroupsWithChannel) → Calm t' t'' →
          t.GroupsWithChannel → t''.GroupsWithChannel :=
      fun t t' t'' h calm => calm.groups ∘ h
    refine respects_bind absorbs ?_ fun _ => calm_updatePairingRest _ _
    exact respects_execute (fun _ => id) fun t => id

theorem keeps_updatePairing (request : PairingUpdate) :
    Keeps (Plain (Event.Decides request)) false false (updatePairing request) :=
  Op.keeps_bind (keeps_plain (keeps_aside EngineOp.keeps_now)) fun now =>
    Op.keeps_guarded (plain_updatePairingStmt request now)

/-! ## Audit and queue -/

theorem keeps_recordAudit (event : AuditEvent) : Keeps Aside false false (recordAudit event) :=
  EngineOp.keeps_ledger _

theorem keeps_storeQueueTask (task : QueueTask) (status : String) :
    Keeps Aside false false (storeQueueTask task status) :=
  Op.keeps_bind EngineOp.keeps_now fun _ => EngineOp.keeps_ledger _

theorem keeps_updateQueueStatus (taskId status : String) :
    Keeps Aside false false (updateQueueStatus taskId status) :=
  EngineOp.keeps_ledger _

/-! ## Operations on timestamps and metadata -/

section

variable [Externals]

/-- The type of a session is one of two. -/
theorem inferSessionType_cases (message : MessageEnvelope) :
    inferSessionType message = "group" ∨ inferSessionType message = "direct" := by
  simp only [inferSessionType]
  split
  · split
    · exact Or.inl rfl
    · exact Or.inr rfl
  · split
    · exact Or.inr rfl
    · split
      · exact Or.inr rfl
      · exact Or.inl rfl

theorem keeps_resolveSessionForInbound (message : MessageEnvelope) (config : AppConfig)
    (defaultModelProfile : String) :
    Keeps Quiet false false (resolveSessionForInbound message config defaultModelProfile) := by
  refine keeps_calm (calm_resolveSessionStmt ?_ config defaultModelProfile)
  rcases inferSessionType_cases message with hgroup | hdirect
  · exact Or.inr (if_pos hgroup)
  · exact Or.inl hdirect

theorem keeps_resolveSessionForOutbound (connector channelId sender : String)
    (config : AppConfig) :
    Keeps Quiet false false (resolveSessionForOutbound connector channelId sender config) := by
  refine Op.keeps_bind (keeps_calm (calm_select _)) fun found => ?_
  cases found with
  | some row => exact Op.keeps_pure _
  | none => exact keeps_calm (calm_resolveSessionStmt (Or.inl rfl) config _)

theorem keeps_listSessions (query : SessionListQuery) :
    Keeps Quiet false false (listSessions query) :=
  keeps_calm (respects_bind Calm.trans (calm_select _) fun _ => respects_pure Calm.refl _)

theorem keeps_getSessionDetail (query : SessionDetailQuery) :
    Keeps Quiet false false (getSessionDetail query) :=
  Op.keeps_bind (keeps_sessionById _) fun _ =>
    keeps_calm (respects_bind Calm.trans (calm_select _) fun _ => respects_pure Calm.refl _)

theorem calm_archiveSessionsStmt (threshold : Instant) :
    (archiveSessionsStmt threshold).Respects Calm := by
  refine respects_bind Calm.trans (respects_now Calm.refl) fun now => ?_
  refine respects_sql Calm.refl fun t changed t' h => ?_
  cases h
  exact Calm.updateSessions t _ fun _ => ⟨rfl, rfl, rfl⟩

theorem calm_deleteSessionsStmt (threshold : Instant) :
    (deleteSessionsStmt threshold).Respects Calm := by
  refine respects_bind Calm.trans (respects_execute Calm.refl fun t => ⟨rfl, id⟩) fun _ => ?_
  refine respects_sql Calm.refl fun t changed t' h => ?_
  cases h
  exact Calm.deleteSessions t _

theorem keeps_pruneSessions (request : SessionPruneRequestRecord) :
    Keeps Quiet false false (pruneSessions request) := by
  refine Op.keeps_bind (keeps_aside EngineOp.keeps_now) fun now => ?_
  refine Op.keeps_bind (EngineOp.keeps_orPanic _) fun threshold => ?_
  refine Op.keeps_bind (keeps_calm ?_) fun _ => Op.keeps_pure _
  split
  · exact calm_archiveSessionsStmt threshold
  · exact calm_deleteSessionsStmt threshold

theorem keeps_listPairings (query : PairingListQuery) :
    Keeps Quiet false false (listPairings query) :=
  keeps_calm (respects_bind Calm.trans (calm_select _) fun _ => respects_pure Calm.refl _)

/-! ## Memory, lists and protocols -/

theorem keeps_encrypt (encryption : EncryptionManager) (plaintext : String) :
    Keeps Aside false false (encryption.encrypt plaintext) :=
  Op.keeps_bind EngineOp.keeps_newNonce fun _ => EngineOp.keeps_ofExcept _

theorem keeps_upsertMemory (nameSpace key content metadataJson : String)
    (encryption : EncryptionManager) :
    Keeps Aside false false (upsertMemory nameSpace key content metadataJson encryption) :=
  Op.keeps_bind (keeps_encrypt encryption content) fun _ => EngineOp.keeps_vectorMemory _

theorem keeps_queryMemory (query : MemoryQuery) (encryption : EncryptionManager) :
    Keeps Aside false false (queryMemory query encryption) :=
  EngineOp.keeps_vectorMemory _

theorem keeps_listAudit (limit : Nat) : Keeps Aside false false (listAudit limit) :=
  EngineOp.keeps_ledger _

theorem keeps_listJobs : Keeps Aside false false listJobs := EngineOp.keeps_ledger _

theorem keeps_recordProtocolRun (result : ProtocolRunResult) :
    Keeps Aside false false (recordProtocolRun result) :=
  EngineOp.keeps_ledger _

end

end StateStore

end OpenPinch
