import OpenPinch.Engine.Pairing
import OpenPinch.Engine.Sessions

/-!
# The flag of a session that waits

`handle_message` flags a session once `ensure_pairing` has returned, and
`update_pairing` sets the flag of the session that a pairing names.  But
`ensure_pairing` waits for itself when the database accepts its row.

So in one life of the engine there is no pairing as long as calls return, no session
is flagged at all, and each flagged session has a pending pairing (`pending_flags`).
-/

namespace OpenPinch

open Lib (Op System wp wpAlone Table.updateWhere Table.deleteWhere)
open Lib.Op (after result acts_bind acts_pure)
open Lib.Prog (Acts Outcome)

/-! ## One life of the engine -/

/-- The state after some calls, if each of them but the last one returns. -/
def EngineRuntime.live [Externals] (runtime : EngineRuntime) :
    List RuntimeCall → Bool × World → Option (Bool × World)
  | [], s => some s
  | call :: calls, (false, w) => runtime.live calls
      ((Lib.Prog.alone (call.op runtime) false w).held, call.after runtime w)
  | _ :: _, (true, _) => none

/-- No session is flagged. -/
def Conversations.Unflagged (t : Conversations) : Prop :=
  ∀ row ∈ t.sessions, row.pendingPairing = false

/-- There is no pairing, and no session is flagged. -/
structure Conversations.Unpaired (t : Conversations) : Prop where
  pairings : t.pairings = []
  flags : t.Unflagged

/-- The pairings stay, and no session is flagged anew. -/
structure Quieter (t t' : Conversations) : Prop where
  pairings : t'.pairings = t.pairings
  flags : t.Unflagged → t'.Unflagged

namespace Quieter

theorem refl (t : Conversations) : Quieter t t := ⟨rfl, id⟩

theorem trans (t t' t'' : Conversations) (h : Quieter t t') (h' : Quieter t' t'') :
    Quieter t t'' :=
  ⟨h'.pairings.trans h.pairings, h'.flags ∘ h.flags⟩

/-- An update that sets no flag. -/
theorem updateSessions (t : Conversations) (test : SessionRow → Bool)
    {change : SessionRow → SessionRow}
    (h : ∀ row, (change row).pendingPairing = true → row.pendingPairing = true) :
    Quieter t { t with sessions := Table.updateWhere test change t.sessions } := by
  refine ⟨rfl, fun ht row hrow => ?_⟩
  obtain ⟨old, hold, rfl⟩ := Lib.Table.mem_updateWhere.mp hrow
  have hunflagged := ht old hold
  split
  · exact Bool.not_eq_true _ ▸ fun hflag => Bool.false_ne_true (hunflagged.symm.trans (h old hflag))
  · exact hunflagged

theorem insertSession (t : Conversations) {row : SessionRow} (h : row.pendingPairing = false) :
    Quieter t { t with sessions := t.sessions ++ [row] } := by
  refine ⟨rfl, fun ht other hother => ?_⟩
  rcases List.mem_append.mp hother with hold | hnew
  · exact ht other hold
  · rw [List.mem_singleton.mp hnew, h]

theorem deleteSessions (t : Conversations) (test : SessionRow → Bool) :
    Quieter t { t with sessions := Table.deleteWhere test t.sessions } :=
  ⟨rfl, fun ht row hrow => ht row (Lib.Table.mem_deleteWhere.mp hrow).1⟩

/-- Conversations without pairings and flags stay so. -/
theorem unpaired {t t' : Conversations} (h : Quieter t t') (ht : t.Unpaired) : t'.Unpaired :=
  ⟨h.pairings.trans ht.pairings, h.flags ht.flags⟩

end Quieter

/-- No session is flagged when the run comes to its end, and if it ends with a result
there is no pairing. -/
structure Settled {α : Type} (out : Outcome World α) : Prop where
  flags : out.state.conversations.Unflagged
  pairings : out.held = false → out.state.conversations.pairings = []

theorem Conversations.Unpaired.settled {α : Type} {out : Outcome World α}
    (h : out.state.conversations.Unpaired) : Settled out :=
  ⟨h.flags, fun _ => h.pairings⟩

namespace StateStore

open Stmt (respects_bind respects_now respects_newUuid respects_execute respects_insert
  respects_select respects_pure respects_fail respects_sql)

/-! ## Statements that set no flag -/

theorem quieter_resolveSessionStmt (connectorName channelId participant sessionType : String)
    (config : AppConfig) (defaultModelProfile : String) :
    (resolveSessionStmt connectorName channelId participant sessionType config
      defaultModelProfile).Respects Quieter := by
  refine respects_bind Quieter.trans (respects_select Quieter.refl _) fun found => ?_
  cases found with
  | some row => exact respects_pure Quieter.refl _
  | none =>
      refine respects_bind Quieter.trans (respects_now Quieter.refl) fun now => ?_
      refine respects_bind Quieter.trans (respects_newUuid Quieter.refl) fun uuid => ?_
      refine respects_bind Quieter.trans ?_ fun _ => respects_pure Quieter.refl _
      refine respects_insert Quieter.refl fun t t' h => ?_
      obtain ⟨rows, hrows, rfl⟩ := Option.map_eq_some_iff.mp h
      obtain ⟨-, rfl⟩ := Lib.Table.insert_eq_some.mp hrows
      exact Quieter.insertSession t rfl

theorem quieter_recordSessionMessageStmt (row : SessionMessageRow) (preview : String) :
    (recordSessionMessageStmt row preview).Respects Quieter := by
  refine respects_bind Quieter.trans (respects_insert Quieter.refl fun t t' h => ?_) fun _ => ?_
  · obtain ⟨rows, -, rfl⟩ := Option.map_eq_some_iff.mp h
    exact ⟨rfl, id⟩
  · refine respects_bind Quieter.trans ?_ fun _ => respects_pure Quieter.refl _
    exact respects_execute Quieter.refl fun t => Quieter.updateSessions t _ fun _ => id

theorem quieter_pairingForTargetStmt (target : Target) :
    (pairingForTargetStmt target).Respects Quieter := by
  refine respects_bind Quieter.trans (respects_select Quieter.refl _) fun found => ?_
  cases found with
  | some row => exact respects_pure Quieter.refl _
  | none => exact respects_fail Quieter.refl _

section

variable [Externals]

theorem quieter_archiveSessionsStmt (threshold : Instant) :
    (archiveSessionsStmt threshold).Respects Quieter := by
  refine respects_bind Quieter.trans (respects_now Quieter.refl) fun now => ?_
  refine respects_sql Quieter.refl fun t changed t' h => ?_
  cases h
  exact Quieter.updateSessions t _ fun _ => id

theorem quieter_deleteSessionsStmt (threshold : Instant) :
    (deleteSessionsStmt threshold).Respects Quieter := by
  refine respects_bind Quieter.trans (respects_execute Quieter.refl fun t => ⟨rfl, id⟩)
    fun _ => ?_
  refine respects_sql Quieter.refl fun t changed t' h => ?_
  cases h
  exact Quieter.deleteSessions t _

end

/-- Without pairings an update finds none. -/
theorem unpaired_updatePairingStmt {pairingId status note : String} {now : Instant}
    {s : Surroundings × Conversations} (hs : s.2.Unpaired) :
    (after (updatePairingStmt pairingId status note now) s).2.Unpaired := by
  have hnone : Table.updateWhere (fun row : PairingRow => row.pairingId == pairingId)
      (fun row => { row with status := status, note := note, updatedAt := now })
      s.2.pairings = [] := by
    rw [hs.pairings]
    rfl
  rw [updatePairingStmt, Stmt.after_execute_bind]
  split
  · exact hs
  rw [updatePairingRest, Stmt.after_select_bind]
  dsimp only
  rw [hnone]
  split
  · exact ⟨rfl, hs.flags⟩
  · exact ⟨rfl, hs.flags⟩

end StateStore

/-! ## Parts that set no flag -/

/-- The action changes no pairing and sets no flag. -/
def QuieterAction (_ : Event) (g : World → World) : Prop :=
  ∀ w, Quieter w.conversations (g w).conversations

theorem acts_quieter {α : Type} {m : Stmt Conversations α} (h : m.Respects Quieter) {e : Event} :
    Acts QuieterAction (EngineOp.guardedAs e .conversations m) :=
  .lock (.act (View.respects_conversations h) fun _ => .unlock .ret)

theorem QuieterAction.of_same {e : Event} {g : World → World}
    (h : ∀ w, (g w).conversations = w.conversations) : QuieterAction e g := by
  intro w
  rw [h w]
  exact .refl _

theorem acts_asideQuieter {α : Type} {p : EngineOp α}
    (h : Lib.Prog.Keeps Aside false false p) : Acts QuieterAction p :=
  h.acts.mono fun _ _ haside => .of_same haside.conversations

theorem wp_quieter {α : Type} {p : EngineOp α} (hp : Acts QuieterAction p)
    {post : List Event → Except Fault α → World → Prop} {labels : List Event} {w : World}
    (h : ∀ labels r w', Quieter w.conversations w'.conversations → post labels r w') :
    wp p post labels w :=
  Lib.wp_of_acts (R := fun w w' => Quieter w.conversations w'.conversations)
    (Q := fun _ => True) (fun _ => .refl _) (fun _ _ _ => .trans _ _ _)
    (fun _ _ haction => ⟨trivial, haction⟩) hp fun _ r w' _ hquieter => h _ r w' hquieter

theorem wpAlone_quieter {α : Type} {p : EngineOp α} (hp : Acts QuieterAction p)
    {post : List Event → Outcome World (Except Fault α) → Prop} {labels : List Event} {held : Bool}
    {w : World}
    (h : ∀ labels out, Quieter w.conversations out.state.conversations → post labels out) :
    wpAlone p post labels held w :=
  Lib.wpAlone_of_acts (R := fun w w' => Quieter w.conversations w'.conversations)
    (Q := fun _ => True) (fun _ => .refl _) (fun _ _ _ => .trans _ _ _)
    (fun _ _ haction => ⟨trivial, haction⟩) hp fun _ out _ hquieter => h _ out hquieter

namespace StateStore

theorem quieterActs_recordMessage (message : MessageEnvelope) :
    Acts QuieterAction (recordMessage message) := by
  refine acts_quieter (Stmt.respects_bind Quieter.trans (Stmt.respects_now Quieter.refl)
    fun now => Stmt.respects_execute Quieter.refl fun t => ?_)
  exact ⟨rfl, id⟩

theorem quieterActs_recordSessionMessage (sessionId connector role sender body
    metadataJson : String) :
    Acts QuieterAction
      (recordSessionMessage sessionId connector role sender body metadataJson) := by
  rw [recordSessionMessage_eq]
  refine acts_bind (acts_asideQuieter EngineOp.keeps_newUuid) fun uuid => ?_
  refine acts_bind (acts_asideQuieter EngineOp.keeps_now) fun now => ?_
  exact acts_quieter (quieter_recordSessionMessageStmt _ _)

theorem quieterActs_clearSessionPendingPairing (sessionId : String) :
    Acts QuieterAction (clearSessionPendingPairing sessionId) := by
  refine acts_quieter (Stmt.respects_bind Quieter.trans (Stmt.respects_now Quieter.refl)
    fun now => Stmt.respects_execute Quieter.refl fun t => ?_)
  exact Quieter.updateSessions t _ fun _ => nofun

theorem quieterActs_pairingIsApproved (connectorName channelId sender : String) :
    Acts QuieterAction (pairingIsApproved connectorName channelId sender) := by
  refine acts_bind (EngineOp.acts_attempt (acts_quieter (quieter_pairingForTargetStmt _)))
    fun pairing => ?_
  cases pairing with
  | ok record => exact acts_pure _
  | error message => exact acts_pure _

theorem quieterActs_sessionById (sessionId : String) :
    Acts QuieterAction (sessionById sessionId) := by
  refine acts_quieter (Stmt.respects_bind Quieter.trans (Stmt.respects_select Quieter.refl _)
    fun found => ?_)
  cases found with
  | some row => exact Stmt.respects_pure Quieter.refl _
  | none => exact Stmt.respects_fail Quieter.refl _

section

variable [Externals]

theorem quieterActs_resolveSessionForOutbound (connector channelId sender : String)
    (config : AppConfig) :
    Acts QuieterAction (resolveSessionForOutbound connector channelId sender config) := by
  refine acts_bind (acts_quieter (Stmt.respects_select Quieter.refl _)) fun found => ?_
  cases found with
  | some row => exact acts_pure _
  | none => exact acts_quieter (quieter_resolveSessionStmt _ _ _ _ _ _)

theorem quieterActs_pruneSessions (request : SessionPruneRequestRecord) :
    Acts QuieterAction (pruneSessions request) := by
  refine acts_bind (acts_asideQuieter EngineOp.keeps_now) fun now => ?_
  refine acts_bind (EngineOp.acts_orPanic _) fun threshold => ?_
  refine acts_bind ?_ fun _ => acts_pure _
  split
  · exact acts_quieter (quieter_archiveSessionsStmt threshold)
  · exact acts_quieter (quieter_deleteSessionsStmt threshold)

end

end StateStore

/-! ## Calls -/

namespace EngineRuntime

variable [Externals] (runtime : EngineRuntime)

theorem quieterActs_deliverReply (session : SessionRecord) (message : MessageEnvelope)
    (messageId : String) (result : OrchestrationResult) :
    Acts QuieterAction (runtime.deliverReply session message messageId result) := by
  refine acts_bind (acts_asideQuieter (EngineOp.keeps_ignore
    (runtime.brain.keeps_ingestAssistantReply _ _))) fun _ => ?_
  refine acts_bind (acts_asideQuieter (runtime.keeps_replyText _ _)) fun reply => ?_
  refine acts_bind (StateStore.quieterActs_recordSessionMessage _ _ _ _ _ _) fun _ => ?_
  exact acts_bind (acts_asideQuieter (keeps_recordAudit _ _ _ _ _)) fun _ => acts_pure _

theorem quieterActs_answerMessage (session : SessionRecord) (message : MessageEnvelope)
    (messageId : String) :
    Acts QuieterAction (runtime.answerMessage session message messageId) := by
  refine acts_bind (acts_asideQuieter (EngineOp.keeps_attempt
    (runtime.brain.keeps_buildContextPack _ _))) fun packed => ?_
  refine acts_bind (Op.acts_stmt fun w => .refl _) fun _ => ?_
  refine acts_bind (EngineOp.acts_attempt ((runtime.orchestrator.acts_generateWithRoute _ _ _).mono
    fun _ _ hanswering => .of_same hanswering.conversations)) fun generated => ?_
  cases generated with
  | ok result =>
      exact acts_bind (Op.acts_stmt fun w => .refl _) fun _ =>
        runtime.quieterActs_deliverReply session message messageId result
  | error error =>
      exact acts_bind (acts_asideQuieter (keeps_recordAudit _ _ _ _ _)) fun _ => acts_pure _

/-! ## Messages -/

omit [Externals] in
/-- The database refuses the pairing, or the call waits for itself. -/
theorem wpAlone_ensurePairing {connector channelId sender sessionId reason : String}
    {labels : List Event} {w : World} (hw : w.conversations.Unpaired) :
    wpAlone (StateStore.ensurePairing connector channelId sender sessionId reason)
      (fun _ out => Settled out ∧ ∀ pairing held w', out ≠ .done (.ok pairing) held w')
      labels false w := by
  have hrun := alone_ensurePairing_eq connector channelId sender sessionId reason w
  let row := pendingRow w connector channelId sender sessionId reason
  have hsessions : (StateStore.ensurePairingStmt row).Respects SameSessions :=
    Stmt.respects_insert SameSessions.refl fun t t' h => by
      obtain ⟨rows, -, rfl⟩ := Option.map_eq_some_iff.mp h
      rfl
  have hsame : SameSessions w.conversations
      (after (View.conversations.run (StateStore.ensurePairingStmt row)) w.atInsert).conversations :=
    View.respects_conversations hsessions w.atInsert
  show Settled _ ∧ _
  dsimp only at hrun
  rw [hrun]
  cases hresult : result (View.conversations.run (StateStore.ensurePairingStmt row)) w.atInsert with
  | ok u =>
      refine ⟨⟨?_, nofun⟩, nofun⟩
      intro session hsession
      exact hw.flags session (hsame ▸ hsession)
  | error fault =>
      have hunchanged : (after (View.conversations.run (StateStore.ensurePairingStmt row))
          w.atInsert).conversations = w.conversations := by
        rw [View.result_run] at hresult
        rw [View.after_run]
        exact Stmt.insert_error hresult
      refine ⟨Conversations.Unpaired.settled ?_, nofun⟩
      exact hunchanged ▸ hw

omit [Externals] in
/-- A session that waits is not flagged. -/
theorem wpAlone_ensurePairingIfRequired {session : SessionRecord} {message : MessageEnvelope}
    {labels : List Event} {w : World} (hw : w.conversations.Unpaired) :
    wpAlone (runtime.ensurePairingIfRequired session message) (fun _ out => Settled out)
      labels false w := by
  have hsettled : ∀ {α : Type} {p : EngineOp α} {labels : List Event} {w : World},
      w.conversations.Unpaired → Acts QuieterAction p →
        wpAlone p (fun _ out => Settled out) labels false w :=
    fun hw hp => wpAlone_quieter hp fun _ _ hquieter => (hquieter.unpaired hw).settled
  have hclear : Acts QuieterAction (do
      StateStore.clearSessionPendingPairing session.id
      return none : EngineOp (Option String)) :=
    acts_bind (StateStore.quieterActs_clearSessionPendingPairing _) fun _ => acts_pure _
  unfold ensurePairingIfRequired
  split
  · exact hsettled hw (acts_pure _)
  split
  · exact hsettled hw hclear
  have hchecks := StateStore.quieterActs_pairingIsApproved message.connector message.channelId
    message.sender
  refine Op.wpAlone_bind_of_returns ((StateStore.keeps_pairingIsApproved _ _ _).alone w)
    (wp_quieter hchecks fun labels approved w₁ hquieter => ?_)
  have hunpaired := hquieter.unpaired hw
  rcases approved with fault | _ | _
  · exact Conversations.Unpaired.settled hunpaired
  · refine Op.andThenAlone_ok (Op.wpAlone_bind (Lib.wpAlone_mono (wpAlone_ensurePairing hunpaired)
      fun labels out hout => ?_))
    obtain ⟨hout, hnone⟩ := hout
    rcases out with ⟨fault | pairing, held, w₂⟩ | w₂
    · exact ⟨hout.flags, hout.pairings⟩
    · exact absurd rfl (hnone pairing held w₂)
    · exact ⟨hout.flags, hout.pairings⟩
  · exact Op.andThenAlone_ok (hsettled hunpaired hclear)

theorem wpAlone_gateMessage {session : SessionRecord} {message : MessageEnvelope}
    {messageId : String} {labels : List Event} {w : World} (hw : w.conversations.Unpaired) :
    wpAlone (runtime.gateMessage session message messageId) (fun _ out => Settled out)
      labels false w := by
  refine Op.wpAlone_bind_of_waits (parts_wait.ensurePairingIfRequired runtime session message)
    (runtime.wpAlone_ensurePairingIfRequired hw) (fun labels pairing w₁ hsettled => ?_)
    (fun _ _ _ hsettled => ⟨hsettled.flags, hsettled.pairings⟩)
    fun _ _ hsettled => ⟨hsettled.flags, hsettled.pairings⟩
  have hunpaired : w₁.conversations.Unpaired := ⟨hsettled.pairings rfl, hsettled.flags⟩
  refine wpAlone_quieter ?_ fun _ _ hquieter => (hquieter.unpaired hunpaired).settled
  cases pairing with
  | some pairingId =>
      exact acts_bind (acts_asideQuieter (keeps_recordAudit _ _ _ _ _)) fun _ => acts_pure _
  | none =>
      exact Op.acts_ite (fun _ => acts_pure _) fun _ =>
        runtime.quieterActs_answerMessage session message messageId

theorem quieterActs_admitMessage (message : MessageEnvelope) :
    Acts QuieterAction (runtime.admitMessage message) := by
  refine acts_bind (StateStore.quieterActs_recordMessage message) fun _ => ?_
  refine acts_bind (acts_quieter (StateStore.quieter_resolveSessionStmt _ _ _ _ _ _))
    fun session => ?_
  refine acts_bind (StateStore.quieterActs_recordSessionMessage _ _ _ _ _ _) fun id => ?_
  exact acts_bind (acts_asideQuieter (EngineOp.keeps_ignore
    (runtime.brain.keeps_ingestMessage message))) fun _ => acts_pure _

end EngineRuntime

/-! ## Runs -/

section

variable [Externals] {runtime : EngineRuntime}

/-- A call from conversations without pairings and flags. -/
theorem RuntimeCall.settled (call : RuntimeCall) {w : World} (hw : w.conversations.Unpaired) :
    Settled (Lib.Prog.alone (call.op runtime) false w) := by
  have hquiet : ∀ {α : Type} {p : EngineOp α}, Acts QuieterAction p →
      Settled (Lib.Prog.alone p false w) := by
    intro α p hp
    have hsettled : wpAlone p (fun _ out => Settled out) [] false w :=
      wpAlone_quieter hp fun _ _ hquieter => (hquieter.unpaired hw).settled
    exact hsettled
  cases call with
  | message m =>
      show wpAlone (runtime.handleMessage m) (fun _ out => Settled out) [] false w
      rw [runtime.handleMessage_eq]
      refine Op.wpAlone_bind_of_returns ((runtime.keeps_admitMessage m).alone w)
        (wp_quieter (runtime.quieterActs_admitMessage m) fun labels r w₁ hquieter => ?_)
      have hunpaired := hquieter.unpaired hw
      cases r with
      | error fault => exact Conversations.Unpaired.settled hunpaired
      | ok admitted => exact @EngineRuntime.wpAlone_gateMessage _ runtime _ _ _ [] w₁ hunpaired
  | outbound request =>
      have hsession : Acts QuieterAction (runtime.outboundSession request) := by
        unfold EngineRuntime.outboundSession
        split
        · exact StateStore.quieterActs_resolveSessionForOutbound _ _ _ _
        · exact StateStore.quieterActs_sessionById _
      refine hquiet (acts_bind hsession fun session => ?_)
      exact acts_bind (StateStore.quieterActs_recordSessionMessage _ _ _ _ _ _)
        fun _ => acts_pure _
  | prune request => exact hquiet (StateStore.quieterActs_pruneSessions request)
  | update request =>
      show wpAlone (EngineRuntime.updatePairing request) (fun _ out => Settled out) [] false w
      refine Lib.wpAlone_of_returns ((EngineRuntime.keeps_updatePairing request).alone w) ?_
      have hupdated : wp (StateStore.updatePairing request)
          (fun _ _ w' => w'.conversations.Unpaired) [] w := by
        refine Op.wp_bind (EngineOp.wp_now (Op.andThen_ok (Op.wp_guarded ?_)))
        rw [View.after_run]
        exact StateStore.unpaired_updatePairingStmt
          (s := ({ w.around with ticks := w.around.ticks + 1 }, w.conversations)) hw
      refine Op.wp_bind (Lib.wp_mono hupdated fun labels r w₁ hunpaired => ?_)
      cases r with
      | error fault => exact Conversations.Unpaired.settled hunpaired
      | ok pairing =>
          refine Op.andThen_ok (wp_quieter (acts_bind (acts_asideQuieter
            (EngineRuntime.keeps_recordAudit _ _ _ _ _)) fun _ => acts_pure _) ?_)
          exact fun _ r w₂ hquieter =>
            (show (Outcome.done r false w₂).state.conversations.Unpaired from
              hquieter.unpaired hunpaired).settled

end

end OpenPinch
