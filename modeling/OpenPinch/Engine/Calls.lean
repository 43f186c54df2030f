import OpenPinch.Engine.Api
import OpenPinch.Engine.RuntimeRules
import OpenPinch.Lib.Alone
import OpenPinch.Lib.Transition

/-!
# Calls of the runtime

The calls that change conversations, as the steps of a system.  Each call runs on
the mutex of the store, and is cut off where it waits for itself.  The next one
finds the mutex free, as after a restart.

`World.sessionTypeFor` is the type of the session that a message goes to, and
`wp_handleMessage` takes `handle_message` apart at its gate.
-/

namespace OpenPinch

open Lib (Op System wp wpAlone)
open Lib.Op (after result acts_bind acts_pure)
open Lib.Prog (Acts Keeps)

/-! ## The session of a message -/

/-- Connector, channel and sender of a message. -/
def MessageEnvelope.target (message : MessageEnvelope) : Target :=
  ⟨message.connector, message.channelId, message.sender⟩

/-- The same sessions. -/
def SameSessions (t t' : Conversations) : Prop := t'.sessions = t.sessions

theorem SameSessions.refl (t : Conversations) : SameSessions t t := rfl

theorem SameSessions.trans (t t' t'' : Conversations) (h : SameSessions t t')
    (h' : SameSessions t' t'') : SameSessions t t'' :=
  Eq.trans h' h

/-- The message log is apart from the sessions. -/
theorem recordMessage_sessions (message : MessageEnvelope) (w : World) :
    SameSessions w.conversations
      (Lib.Prog.eval (StateStore.recordMessage message) w).2.conversations := by
  refine View.respects_conversations (R := SameSessions) ?_ w
  refine Stmt.respects_bind SameSessions.trans (Stmt.respects_now SameSessions.refl) fun now => ?_
  exact Stmt.respects_execute SameSessions.refl fun t => rfl

section

variable [Externals]

/-- The type of the session that a message goes to: the one that is stored, or
the inferred one for a new session. -/
def World.sessionTypeFor (w : World) (message : MessageEnvelope) : String :=
  match w.conversations.sessions.find? fun row =>
    row.isAt message.connector message.channelId (StateStore.inboundParticipant message) with
  | some row => row.sessionType
  | none => inferSessionType message

theorem World.sessionTypeFor_congr {w w' : World}
    (h : SameSessions w.conversations w'.conversations) (message : MessageEnvelope) :
    w'.sessionTypeFor message = w.sessionTypeFor message := by
  unfold World.sessionTypeFor
  rw [show w'.conversations.sessions = w.conversations.sessions from h]

/-- A session that is not direct is with its channel.  So a message of another
sender that looks direct goes to a direct session. -/
theorem World.sessionTypeFor_direct {w : World} (hgroups : w.conversations.GroupsWithChannel)
    {message : MessageEnvelope} (hinfer : inferSessionType message = "direct")
    (hsender : message.sender ≠ message.channelId) : w.sessionTypeFor message = "direct" := by
  have hparticipant : StateStore.inboundParticipant message = message.sender := by
    rw [StateStore.inboundParticipant, hinfer]
    rfl
  unfold World.sessionTypeFor
  rw [hparticipant]
  split
  · rename_i row hrow
    have hat := List.find?_some hrow
    simp only [SessionRow.isAt, Bool.and_eq_true, beq_iff_eq] at hat
    rcases hgroups row (List.mem_of_find?_eq_some hrow) with hdirect | hchannel
    · exact hdirect
    · exact absurd (hat.2.symm.trans (hchannel.trans hat.1.2)) hsender
  · exact hinfer

/-- The session that is resolved has the type that is stored. -/
theorem result_resolveSessionForInbound {message : MessageEnvelope} {config : AppConfig}
    {profile : String} {w : World} {session : SessionRecord}
    (h : result (View.conversations.run (StateStore.resolveSessionStmt message.connector
      message.channelId (StateStore.inboundParticipant message) (inferSessionType message)
      config profile)) w = .ok session) :
    session.sessionType = w.sessionTypeFor message := by
  rw [View.result_run] at h
  obtain ⟨found, hfound, hrest⟩ := Stmt.result_bind_ok h
  have hstored := Stmt.select_ok hfound
  unfold World.sessionTypeFor
  rw [show w.conversations.sessions.find? _ = found from hstored.symm]
  cases found with
  | some row =>
      cases hrest
      rfl
  | none =>
      obtain ⟨now, -, hrest⟩ := Stmt.result_bind_ok hrest
      obtain ⟨uuid, -, hrest⟩ := Stmt.result_bind_ok hrest
      obtain ⟨done, -, hrest⟩ := Stmt.result_bind_ok hrest
      cases hrest
      rfl

/-! ## Messages up to the gate -/

/-- `handle_message` up to its gate: the message is stored, its session resolved and
its text ingested. -/
def EngineRuntime.admitMessage (runtime : EngineRuntime) (message : MessageEnvelope) :
    EngineOp (SessionRecord × String) := do
  StateStore.recordMessage message
  let session ← runtime.resolveSession message
  let messageId ← StateStore.recordSessionMessage session.id message.connector "user"
    message.sender message.body message.metadataJson
  EngineOp.ignore (runtime.brain.ingestMessage message)
  return (session, messageId)

theorem EngineRuntime.handleMessage_eq (runtime : EngineRuntime) (message : MessageEnvelope) :
    runtime.handleMessage message = runtime.admitMessage message >>= fun admitted =>
      runtime.gateMessage admitted.1 message admitted.2 := by
  refine Eq.symm ((Op.bind_assoc _ _ _).trans (congrArg _ (funext fun _ => ?_)))
  refine (Op.bind_assoc _ _ _).trans (congrArg _ (funext fun session => ?_))
  refine (Op.bind_assoc _ _ _).trans (congrArg _ (funext fun messageId => ?_))
  exact Op.bind_assoc _ _ _

theorem EngineRuntime.keeps_admitMessage (runtime : EngineRuntime) (message : MessageEnvelope) :
    Keeps Quiet false false (runtime.admitMessage message) := by
  refine Op.keeps_bind (StateStore.keeps_recordMessage message) fun _ => ?_
  refine Op.keeps_bind (StateStore.keeps_resolveSessionForInbound message _ _) fun session => ?_
  refine Op.keeps_bind (StateStore.keeps_recordSessionMessage _ _ _ _ _ _) fun messageId => ?_
  exact Op.keeps_bind (keeps_aside (EngineOp.keeps_ignore
    (runtime.brain.keeps_ingestMessage message))) fun _ => Op.keeps_pure _

/-- All of it is silent, and the session has the type that was stored before. -/
theorem wp_admitMessage (runtime : EngineRuntime) (message : MessageEnvelope) (w : World) :
    wp (runtime.admitMessage message) (fun labels r w' => Silent w labels w' ∧
      ∀ admitted, r = .ok admitted → admitted.1.sessionType = w.sessionTypeFor message) [] w := by
  refine Lib.wp_and (wp_quiet (runtime.keeps_admitMessage message).acts (.start w)
    fun _ _ _ hsilent => hsilent) ?_
  have hlogged : wp (StateStore.recordMessage message)
      (fun _ _ w' => SameSessions w.conversations w'.conversations) [] w :=
    recordMessage_sessions message w
  refine Op.wp_bind (Lib.wp_mono hlogged fun labels r w₁ hsame => ?_)
  cases r with
  | error fault => exact fun _ h => nomatch h
  | ok _ =>
      have hsession : wp (runtime.resolveSession message)
          (fun _ r _ => ∀ session, r = .ok session →
            session.sessionType = w₁.sessionTypeFor message) labels w₁ :=
        Op.wp_guarded fun session => result_resolveSessionForInbound
      refine Op.andThen_ok (Op.wp_bind (Lib.wp_mono hsession fun labels r w₂ htype => ?_))
      cases r with
      | error fault => exact fun _ h => nomatch h
      | ok session =>
          have hstored : session.sessionType = w.sessionTypeFor message :=
            (htype session rfl).trans (World.sessionTypeFor_congr hsame message)
          refine Op.andThen_ok (Op.wp_bind (Lib.wp_any fun labels r w₃ => ?_))
          cases r with
          | error fault => exact fun _ h => nomatch h
          | ok messageId =>
              refine Op.andThen_ok (Op.wp_bind (Lib.wp_any fun labels r w₄ => ?_))
              cases r with
              | error fault => exact fun _ h => nomatch h
              | ok _ =>
                  refine Op.andThen_ok (Op.wp_pure ?_)
                  rintro _ ⟨⟩
                  exact hstored

/-- A message comes to the gate in silence, which then sees the type that was stored
before. -/
theorem wp_handleMessage {runtime : EngineRuntime} {message : MessageEnvelope}
    {post : List Event → Except Fault InboundMessageResult → World → Prop} {w : World}
    (hfault : ∀ labels fault w', Silent w labels w' → post labels (.error fault) w')
    (hgate : ∀ labels session messageId w', Silent w labels w' →
      session.sessionType = w.sessionTypeFor message →
        wp (runtime.gateMessage session message messageId) post labels w') :
    wp (runtime.handleMessage message) post [] w := by
  rw [runtime.handleMessage_eq]
  refine Op.wp_bind (Lib.wp_mono (wp_admitMessage runtime message w) fun labels r w' hr => ?_)
  cases r with
  | error fault => exact hfault labels fault w' hr.1
  | ok admitted => exact hgate labels admitted.1 admitted.2 w' hr.1 (hr.2 admitted rfl)

/-- The same of a run on the mutex. -/
theorem wpAlone_handleMessage {runtime : EngineRuntime} {message : MessageEnvelope}
    {post : List Event → Lib.Prog.Outcome World (Except Fault InboundMessageResult) → Prop}
    {w : World}
    (hfault : ∀ labels fault w', Silent w labels w' → post labels (.done (.error fault) false w'))
    (hgate : ∀ labels session messageId w', Silent w labels w' →
      wpAlone (runtime.gateMessage session message messageId) post labels false w') :
    wpAlone (runtime.handleMessage message) post [] false w := by
  rw [runtime.handleMessage_eq]
  refine Op.wpAlone_bind_of_returns ((runtime.keeps_admitMessage message).alone w)
    (Lib.wp_mono (wp_admitMessage runtime message w) fun labels r w' hr => ?_)
  cases r with
  | error fault => exact hfault labels fault w' hr.1
  | ok admitted => exact hgate labels admitted.1 admitted.2 w' hr.1

/-! ## The gate and the reply -/

/-- The message waits at the gate unless its pairing is approved. -/
def EngineRuntime.asksPairing (runtime : EngineRuntime) (sessionType : String)
    (message : MessageEnvelope) : Bool :=
  runtime.pairingApplies sessionType message && !runtime.allowlisted message

/-- An action of a call: quiet, of a kind, or of a reply. -/
structure Lawful (kind : Event → Prop) (e : Event) (g : World → World) : Prop where
  label : e = .quiet ∨ kind e ∨ e.isReply = true
  pairings : ∀ w, PairingStep e w.conversations.pairings (g w).conversations.pairings
  groups : ∀ w, w.conversations.GroupsWithChannel → (g w).conversations.GroupsWithChannel

omit [Externals] in
theorem Plain.lawful {kind : Event → Prop} {e : Event} {g : World → World}
    (h : Plain kind e g) : Lawful kind e g where
  label := by
    rcases h.label with hquiet | hkind
    · exact Or.inl hquiet
    · exact Or.inr (Or.inl hkind)
  pairings := h.pairings
  groups := h.groups

omit [Externals] in
theorem Answering.lawful {kind : Event → Prop} {e : Event} {g : World → World}
    (h : Answering e g) : Lawful kind e g where
  label := by
    rcases h.label with hquiet | ⟨provider, prompt, response, rfl⟩
    · exact Or.inl hquiet
    · exact Or.inr (Or.inr rfl)
  pairings w := by rw [h.conversations w]; exact .same
  groups w hw := by rwa [h.conversations w]

omit [Externals] in
theorem acts_quiet {α : Type} {kind : Event → Prop} {p : EngineOp α}
    (h : Keeps Quiet false false p) : Acts (Lawful kind) p :=
  h.acts.mono fun _ _ he => he.plain.lawful

omit [Externals] in
theorem acts_emit {kind : Event → Prop} {e : Event} (h : e.isReply = true) :
    Acts (Lawful kind) (EngineOp.emit e) :=
  Op.acts_stmt ⟨Or.inr (Or.inr h), fun _ => .same, fun _ => id⟩

namespace EngineRuntime

variable (runtime : EngineRuntime)

omit [Externals] in
/-- Only a message that waits at the gate shows its target. -/
theorem acts_ensurePairingIfRequired (session : SessionRecord) (message : MessageEnvelope) :
    Acts (Plain fun e => runtime.asksPairing session.sessionType message = true ∧
      Event.AsksFor message.target e)
      (runtime.ensurePairingIfRequired session message) := by
  have hclear := StateStore.keeps_setSessionPendingPairing session.id false
  have hset := StateStore.keeps_setSessionPendingPairing session.id true
  refine Op.acts_ite (fun _ => acts_pure _) fun happlies =>
    Op.acts_ite (fun _ => ?_) fun hlisted => ?_
  · exact acts_bind (keeps_plain hclear).acts fun _ => acts_pure _
  · have hasks : runtime.asksPairing session.sessionType message = true := by
      simpa [asksPairing] using And.intro happlies hlisted
    have shown : ∀ e g, Plain (Event.AsksFor message.target) e g →
        Plain (fun e => runtime.asksPairing session.sessionType message = true ∧
          Event.AsksFor message.target e) e g :=
      fun e g he => { he with label := he.label.imp_right fun hkind => ⟨hasks, hkind⟩ }
    refine acts_bind ((StateStore.keeps_pairingIsApproved _ _ _).acts.mono shown) fun approved => ?_
    refine Op.acts_ite (fun _ => ?_) fun _ => ?_
    · exact acts_bind (keeps_plain hclear).acts fun _ => acts_pure _
    · refine acts_bind ((StateStore.acts_ensurePairing _ _ _ _ _).mono shown) fun pairing => ?_
      exact acts_bind (keeps_plain hset).acts fun _ => acts_pure _

/-- The orchestrator and what follows it show no target. -/
theorem acts_answerMessage {kind : Event → Prop} (session : SessionRecord)
    (message : MessageEnvelope) (messageId : String) :
    Acts (Lawful kind) (runtime.answerMessage session message messageId) := by
  have hpack := keeps_aside (EngineOp.keeps_attempt (runtime.brain.keeps_buildContextPack
    message.body (BrainManager.scopeForMessage message)))
  refine acts_bind (acts_quiet hpack) fun packed => ?_
  refine acts_bind (acts_emit rfl) fun _ => ?_
  refine acts_bind (EngineOp.acts_attempt ((runtime.orchestrator.acts_generateWithRoute _ _ _).mono
    fun _ _ => Answering.lawful)) fun generated => ?_
  cases generated with
  | ok result =>
      exact acts_bind (acts_emit rfl) fun _ =>
        acts_quiet (runtime.keeps_deliverReply session message messageId result)
  | error error => exact acts_quiet (keeps_deliverDegraded session messageId error)

theorem acts_gateMessage (session : SessionRecord) (message : MessageEnvelope)
    (messageId : String) :
    Acts (Lawful fun e => runtime.asksPairing session.sessionType message = true ∧
      Event.AsksFor message.target e)
      (runtime.gateMessage session message messageId) := by
  refine acts_bind ((runtime.acts_ensurePairingIfRequired session message).mono
    fun _ _ => Plain.lawful) fun pairing => ?_
  cases pairing with
  | some pairingId =>
      exact acts_quiet (keeps_deliverPairing session message messageId pairingId)
  | none =>
      exact Op.acts_ite (fun _ => acts_pure _) fun _ =>
        runtime.acts_answerMessage session message messageId

theorem acts_handleMessage (message : MessageEnvelope) :
    Acts (Lawful (Event.AsksFor message.target)) (runtime.handleMessage message) := by
  refine acts_bind (acts_quiet (StateStore.keeps_recordMessage _)) fun _ => ?_
  refine acts_bind (acts_quiet (StateStore.keeps_resolveSessionForInbound _ _ _)) fun session => ?_
  refine acts_bind (acts_quiet (StateStore.keeps_recordSessionMessage _ _ _ _ _ _)) fun id => ?_
  refine acts_bind (acts_quiet (keeps_aside (EngineOp.keeps_ignore
    (runtime.brain.keeps_ingestMessage message)))) fun _ => ?_
  exact (runtime.acts_gateMessage session message id).mono fun e g he =>
    ⟨he.label.imp_right (Or.imp_left And.right), he.pairings, he.groups⟩

/-- A message that does not wait at the gate shows no target. -/
theorem trace_handleMessage (message : MessageEnvelope) (w : World) :
    ∀ e ∈ Lib.Prog.trace (runtime.handleMessage message) w,
      e = .quiet ∨
        (runtime.asksPairing (w.sessionTypeFor message) message = true ∧
          Event.AsksFor message.target e) ∨ e.isReply = true := by
  let shown (e : Event) : Prop := e = .quiet ∨
    (runtime.asksPairing (w.sessionTypeFor message) message = true ∧
      Event.AsksFor message.target e) ∨ e.isReply = true
  show wp (runtime.handleMessage message) (fun labels _ _ => ∀ e ∈ labels, shown e) [] w
  refine wp_handleMessage (fun labels _ _ hsilent e he => Or.inl (hsilent.quiet e he)) ?_
  intro labels session messageId w' hsilent htype e he
  rcases List.mem_append.mp he with hbefore | hgate
  · exact Or.inl (hsilent.quiet e hbefore)
  · show e = .quiet ∨ _ ∨ _
    rw [← htype]
    exact (runtime.acts_gateMessage session message messageId).trace
      (fun _ _ hlawful => hlawful.label) w' e hgate

end EngineRuntime

/-! ## Calls that wait for themselves -/

/-- A pairing is asked for. -/
def Event.AsksPairing (e : Event) : Prop := ∃ target, e = .pairingUpsert target

omit [Externals] in
theorem closed_waits : EngineOp.Closed fun _ p => Lib.Prog.Waits Event.AsksPairing p where
  toOp := Op.closed_waits _
  attempt hp := hp.bind fun r => by
    rcases r with (_ | _) | _ <;> exact fun _ => Or.inl rfl

omit [Externals] in
theorem waits_ensurePairing (connectorName channelId sender sessionId reason : String) :
    Lib.Prog.Waits Event.AsksPairing
      (StateStore.ensurePairing connectorName channelId sender sessionId reason) := by
  refine closed_waits.bind (.of_keeps EngineOp.keeps_now) fun now => ?_
  refine closed_waits.bind (.of_keeps EngineOp.keeps_newUuid) fun uuid => ?_
  exact Op.waits_holding ⟨_, rfl⟩ fun _ => ⟨_, rfl⟩

/-- Only a request for a pairing makes a call wait for itself. -/
theorem parts_wait : RuntimeParts fun _ p => Lib.Prog.Waits Event.AsksPairing p := by
  have hstore : ∀ call : StoreCall, Lib.Prog.Waits Event.AsksPairing call.op := by
    intro call
    by_cases hensure : ∃ connectorName channelId sender sessionId reason,
        call = .ensurePairing connectorName channelId sender sessionId reason
    · obtain ⟨connectorName, channelId, sender, sessionId, reason, rfl⟩ := hensure
      exact waits_ensurePairing _ _ _ _ _
    · refine .of_keeps (call.disciplined fun connectorName channelId sender sessionId reason h => ?_)
      exact hensure ⟨connectorName, channelId, sender, sessionId, reason, h⟩
  exact
    { toClosed := closed_waits
      newUuid := .of_keeps EngineOp.keeps_newUuid
      now := .of_keeps EngineOp.keeps_now
      store := fun call _ => hstore call
      log := fun call _ => hstore call
      brain := fun manager =>
        { toClosed := closed_waits
          now := .of_keeps EngineOp.keeps_now
          upsertEntity := fun input => .of_keeps (manager.keeps_upsertEntity input)
          upsertFact := fun input => .of_keeps (manager.keeps_upsertFact input)
          upsertTask := fun input => .of_keeps (manager.keeps_upsertTask input)
          upsertRelation := fun _ _ _ _ _ _ =>
            .of_keeps (BrainManager.keeps_upsertRelation _ _ _ _ _ _)
          recordIngest := fun _ _ _ _ => .of_keeps (BrainManager.keeps_recordIngest _ _ _ _)
          listEntities := fun _ => .of_keeps (manager.keeps_listEntities _)
          listFacts := fun _ => .of_keeps (manager.keeps_listFacts _)
          listRelations := fun _ => .of_keeps (BrainManager.keeps_listRelations _)
          listTasks := fun _ => .of_keeps (manager.keeps_listTasks _)
          queryProjectionHits := fun _ _ _ => .of_keeps (manager.keeps_queryProjectionHits _ _ _)
          projectSuggestion := fun _ _ _ => .of_keeps (manager.keeps_upsertProjection _ _ _ _)
          retain := .of_keeps manager.keeps_applyRetention }
      forget := fun manager request => .of_keeps (manager.keeps_forget request)
      ask := fun _ _ => .of_keeps (P := fun _ _ => True) (Op.keeps_stmt trivial)
      emit := fun _ => .of_keeps (P := fun _ _ => True) (.act trivial fun _ => .ret) }

/-- An answer does not ask for a pairing. -/
theorem EngineRuntime.answerMessage_returns (runtime : EngineRuntime) (session : SessionRecord)
    (message : MessageEnvelope) (messageId : String) (w : World) :
    Lib.Prog.alone (runtime.answerMessage session message messageId) false w =
      .done (Lib.Prog.eval (runtime.answerMessage session message messageId) w).1 false
        (Lib.Prog.eval (runtime.answerMessage session message messageId) w).2 := by
  refine (parts_wait.answerMessage runtime session message messageId).returns fun e he => ?_
  rcases (@acts_answerMessage _ runtime (fun _ => False) session message messageId).trace
    (fun _ _ hlawful => hlawful.label) w e he with rfl | hkind | hreply
  · rintro ⟨target, htarget⟩
    cases htarget
  · exact hkind.elim
  · rintro ⟨target, rfl⟩
    cases hreply

/-! ## Calls -/

/-- The calls that change conversations. -/
inductive RuntimeCall where
  | message (message : MessageEnvelope)
  | outbound (request : OutboundMessage)
  | prune (request : SessionPruneRequestRecord)
  | update (request : PairingUpdate)

namespace RuntimeCall

/-- What a call returns. -/
def Result : RuntimeCall → Type
  | message _ => InboundMessageResult
  | outbound _ => OutboundMessageResult
  | prune _ => Nat
  | update _ => PairingRecord

/-- The operation of a call. -/
def op (runtime : EngineRuntime) : (call : RuntimeCall) → EngineOp call.Result
  | message m => runtime.handleMessage m
  | outbound request => runtime.recordOutboundMessage request
  | prune request => EngineRuntime.pruneSessions request
  | update request => EngineRuntime.updatePairing request

/-- The events of a call besides those of a reply. -/
def kind : RuntimeCall → Event → Prop
  | message m => Event.AsksFor m.target
  | update request => Event.Decides request
  | _ => fun _ => False

/-- The world after a call, or where it waits for itself. -/
def after (runtime : EngineRuntime) (call : RuntimeCall) (w : World) : World :=
  (Lib.Prog.alone (call.op runtime) false w).state

/-- The events of a call, up to where it waits for itself. -/
def events (runtime : EngineRuntime) (call : RuntimeCall) (w : World) : List Event :=
  Lib.Prog.aloneTrace (call.op runtime) false w

theorem events_subset (runtime : EngineRuntime) (call : RuntimeCall) (w : World) :
    call.events runtime w ⊆ Lib.Prog.trace (call.op runtime) w :=
  (Lib.Prog.prefix_aloneTrace _ _ _).subset

theorem lawful (runtime : EngineRuntime) (call : RuntimeCall) :
    Acts (Lawful call.kind) (call.op runtime) := by
  cases call with
  | message m => exact runtime.acts_handleMessage m
  | outbound request => exact acts_quiet (runtime.keeps_recordOutboundMessage request)
  | prune request => exact acts_quiet (StateStore.keeps_pruneSessions request)
  | update request =>
      exact (EngineRuntime.keeps_updatePairing request).acts.mono fun _ _ => Plain.lawful

end RuntimeCall

/-- The calls of a runtime, one after the other, from a database without
conversations.  Each call is allowed where it starts. -/
def EngineRuntime.system (runtime : EngineRuntime) (allowed : World → RuntimeCall → Prop) :
    System World RuntimeCall where
  init w := w.conversations = ⟨[], [], [], []⟩
  step w call w' := allowed w call ∧ w' = call.after runtime w

/-- Sessions that are not direct are with their channel in every reachable state. -/
theorem reachable_groups {runtime : EngineRuntime} {allowed : World → RuntimeCall → Prop}
    {w : World} (h : (runtime.system allowed).Reachable w) :
    w.conversations.GroupsWithChannel := by
  refine h.invariant (P := fun w => w.conversations.GroupsWithChannel) ?_ ?_
  · intro start hstart row hrow
    rw [show start.conversations = _ from hstart] at hrow
    exact absurd hrow List.not_mem_nil
  · intro s call s' hstep hs
    rw [hstep.2]
    exact (call.lawful runtime).preserves_alone (L := fun _ => True)
      (fun _ _ hlawful _ w hw => hlawful.groups w hw) hs fun _ _ => trivial

end

/-! ## A runtime of reference -/

/-- A runtime with one connector and one provider, whose brain is disabled. -/
def referenceRuntime : EngineRuntime where
  config :=
    { orchestration := ⟨["ollama"], false, true, true, false⟩
      brain := ⟨false, false, false, false, false, 0, 0, 0, 0⟩
      sessions := ⟨"reply", "collect"⟩
      routing := ⟨true, true, ["openpinch"]⟩
      connectors := .singleton "telegram" { pairDm := true }
      models := .singleton "ollama" ⟨"ollama", "", false, true⟩
      modelProfiles := .empty
      modelFailover := ⟨"local"⟩ }
  brain := ⟨⟨false, false, false, false, false, 0, 0, 0, 0⟩, ⟨false, onesKey⟩, "", "", "", ""⟩
  encryption := ⟨false, onesKey⟩

/-- A message without metadata to that runtime. -/
def referenceMessage (channelId sender body : String) : MessageEnvelope :=
  ⟨"telegram", channelId, sender, body, ""⟩

/-- A world in which the providers say hello. -/
def referenceWorld : World := World.fresh countingSurroundings fun _ => .ok "hello"

end OpenPinch
