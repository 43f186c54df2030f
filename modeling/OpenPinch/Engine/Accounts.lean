import OpenPinch.Engine.Integrity
import OpenPinch.Lib.Account

/-!
# What a call leaves on record

The records of the engine are the messages it received, the lines of the
transcripts and the audit trail.  A call that returns has added exactly what its
result tells: a message that was answered is there with its reply, and each
audited operation left one event, about what it did.  A call that fails has
left no event.  `records_run` says so of every sequence of calls.
-/

namespace OpenPinch

open Lib (Op Prog System)
open Lib.Op (Accounts accounts_pure accounts_of_eq)
open Lib.Prog (Acts)

/-! ## The journal -/

/-- A line of a transcript. -/
structure Line where
  sessionId : String
  connector : String
  role : String
  sender : String
  body : String
  metadataJson : String
deriving DecidableEq, Repr

/-- What an audit event says. -/
structure Note where
  category : String
  severity : String
  summary : String
  anomalyScore : Rat
  payloadJson : String
deriving DecidableEq, Repr

/-- What is recorded of messages and events. -/
@[ext] structure Journal where
  received : List MessageEnvelope
  said : List Line
  noted : List Note
deriving DecidableEq, Repr

namespace Journal

instance : Zero Journal := ⟨⟨[], [], []⟩⟩

instance : Add Journal :=
  ⟨fun first second => ⟨first.received ++ second.received, first.said ++ second.said,
    first.noted ++ second.noted⟩⟩

@[simp] theorem received_zero : (0 : Journal).received = [] := rfl

@[simp] theorem said_zero : (0 : Journal).said = [] := rfl

@[simp] theorem noted_zero : (0 : Journal).noted = [] := rfl

@[simp] theorem received_add (first second : Journal) :
    (first + second).received = first.received ++ second.received := rfl

@[simp] theorem said_add (first second : Journal) :
    (first + second).said = first.said ++ second.said := rfl

@[simp] theorem noted_add (first second : Journal) :
    (first + second).noted = first.noted ++ second.noted := rfl

instance : AddMonoid Journal where
  add_assoc _ _ _ := by ext1 <;> simp
  zero_add _ := by ext1 <;> simp
  add_zero _ := by ext1 <;> simp
  nsmul := nsmulRec

/-- One message. -/
def ofMessage (message : MessageEnvelope) : Journal := ⟨[message], [], []⟩

/-- One line of a transcript. -/
def ofLine (line : Line) : Journal := ⟨[], [line], []⟩

/-- One event. -/
def ofNote (note : Note) : Journal := ⟨[], [], [note]⟩

end Journal

def MessageRow.envelope (row : MessageRow) : MessageEnvelope :=
  ⟨row.connector, row.channelId, row.sender, row.body, row.metadataJson⟩

def SessionMessageRow.line (row : SessionMessageRow) : Line :=
  ⟨row.sessionId, row.connector, row.role, row.sender, row.body, row.metadataJson⟩

def AuditRow.note (row : AuditRow) : Note :=
  ⟨row.category, row.severity, row.summary, row.anomalyScore, row.payloadJson⟩

/-- The records of the engine. -/
def World.records (w : World) : Journal where
  received := w.conversations.messages.map MessageRow.envelope
  said := w.conversations.sessionMessages.map SessionMessageRow.line
  noted := w.ledger.auditEvents.map AuditRow.note

/-! ## Operations that record nothing -/

section

variable [Externals] {α : Type}

/-- What evolves without its logs keeps its records. -/
theorem World.Evolves.records {w w' : World} (h : World.Evolves False w w') :
    w'.records = w.records := by
  have hchats := h.conversations.recorded.resolve_left id
  have htrail := h.ledger.recorded.resolve_left id
  rw [World.records, hchats.1, hchats.2, htrail]
  rfl

theorem Evolving.records {p : EngineOp α} (h : Evolving False α p) (w : World) :
    (Prog.eval p w).2.records = w.records :=
  (Acts.eval World.Evolves.refl World.Evolves.trans (fun _ _ h => h) h w).records

/-- What comes before the records of a call leaves them. -/
theorem accounts_quiet {β : Type} {p : EngineOp α} {f : α → EngineOp β}
    {R : Except Fault β → Journal → Prop} (hp : Evolving False α p)
    (hf : ∀ a, Accounts World.records (f a) R) (hfault : ∀ e, R (.error e) 0) :
    Accounts World.records (p >>= f) R :=
  Accounts.after_eq hp.records hf hfault

end

namespace Stmt

variable {τ α β ω : Type} [AddMonoid ω] {log : τ → ω}

/-- What a statement adds to a log of its tables, by its outcome. -/
def Accounts (log : τ → ω) (m : Stmt τ α) (Q : Except Fault α → ω → Prop) : Prop :=
  ∀ s, ∃ added, log (Op.after m s).2 = log s.2 + added ∧ Q (Op.result m s) added

theorem accounts_now {k : Instant → Stmt τ β} {Q : Except Fault β → ω → Prop}
    (h : ∀ now, Accounts log (k now) Q) : Accounts log (now >>= k) Q :=
  fun s => h _ ({ s.1 with ticks := s.1.ticks + 1 }, s.2)

theorem accounts_execute (added : ω) {f : τ → τ} {Q : Except Fault Unit → ω → Prop}
    (hf : ∀ t, log (f t) = log t + added) (hok : Q (.ok ()) added) (hfault : ∀ e, Q (.error e) 0) :
    Accounts log (execute f) Q := by
  intro s
  cases hrefused : s.1.refuses s.1.statements with
  | true =>
      rw [Op.after, Op.result, run_execute_refused hrefused]
      exact ⟨0, (add_zero _).symm, hfault _⟩
  | false =>
      rw [Op.after, Op.result, run_execute hrefused]
      exact ⟨added, hf s.2, hok⟩

theorem accounts_insert (added : ω) {f : τ → Option τ} {Q : Except Fault Unit → ω → Prop}
    (hf : ∀ t t', f t = some t' → log t' = log t + added) (hok : Q (.ok ()) added)
    (hfault : ∀ e, Q (.error e) 0) : Accounts log (insert f) Q := by
  intro s
  have hafter : (Op.after (insert f) s).2 = _ := after_sql _ s
  rw [hafter, result_insert]
  split
  · exact ⟨0, (add_zero _).symm, hfault _⟩
  · cases hinsert : f s.2 with
    | none => exact ⟨0, (add_zero _).symm, hfault _⟩
    | some t => exact ⟨added, hf _ _ hinsert, hok⟩

theorem accounts_pure {a : α} {Q : Except Fault α → ω → Prop} (h : Q (.ok a) 0) :
    Accounts log (Pure.pure a) Q :=
  fun s => ⟨0, (add_zero (log s.2)).symm, h⟩

theorem Accounts.mono {m : Stmt τ α} {Q Q' : Except Fault α → ω → Prop} (h : Accounts log m Q)
    (hQ : ∀ r added, Q r added → Q' r added) : Accounts log m Q' := by
  intro s
  obtain ⟨added, hlog, hadded⟩ := h s
  exact ⟨added, hlog, hQ _ _ hadded⟩

/-- A statement after another one. -/
theorem Accounts.bind {m : Stmt τ α} {f : α → Stmt τ β} {Q : Except Fault α → ω → Prop}
    {R : Except Fault β → ω → Prop} (hm : Accounts log m Q)
    (hok : ∀ a first, Q (.ok a) first → Accounts log (f a) fun r rest => R r (first + rest))
    (hfault : ∀ e first, Q (.error e) first → R (.error e) first) : Accounts log (m >>= f) R := by
  intro s
  obtain ⟨first, hfirst, hQ⟩ := hm s
  rw [after_bind, result_bind]
  cases hresult : Op.result m s with
  | error e =>
      rw [hresult] at hQ
      exact ⟨first, hfirst, hfault e first hQ⟩
  | ok a =>
      rw [hresult] at hQ
      obtain ⟨rest, hrest, hR⟩ := hok a first hQ (Op.after m s)
      exact ⟨first + rest, by rw [← add_assoc, ← hfirst]; exact hrest, hR⟩

end Stmt

/-- What the tables about conversations record. -/
def Conversations.records (t : Conversations) : Journal :=
  ⟨t.messages.map MessageRow.envelope, t.sessionMessages.map SessionMessageRow.line, []⟩

/-- What the ledger records. -/
def Ledger.records (t : Ledger) : Journal := ⟨[], [], t.auditEvents.map AuditRow.note⟩

section

variable {α : Type} {Q : Except Fault α → Journal → Prop}

theorem accounts_conversations {m : Stmt Conversations α}
    (h : m.Accounts Conversations.records fun r added => added.noted = [] ∧ Q r added) :
    Accounts World.records (EngineOp.guarded .conversations m) Q := by
  intro w
  obtain ⟨added, hadded, hnone, hQ⟩ := h (w.around, w.conversations)
  show ∃ added, World.records (Op.after (View.conversations.run m) w) = w.records + added ∧
    Q (Op.result (View.conversations.run m) w) added
  rw [View.after_run, View.result_run]
  refine ⟨added, ?_, hQ⟩
  obtain ⟨hreceived, hsaid, -⟩ := Journal.ext_iff.mp hadded
  exact Journal.ext hreceived hsaid (by rw [Journal.noted_add, hnone, List.append_nil]; rfl)

theorem accounts_ledger {m : Stmt Ledger α}
    (h : m.Accounts Ledger.records fun r added =>
      added.received = [] ∧ added.said = [] ∧ Q r added) :
    Accounts World.records (EngineOp.guarded .ledger m) Q := by
  intro w
  obtain ⟨added, hadded, hreceived, hsaid, hQ⟩ := h (w.around, w.ledger)
  show ∃ added, World.records (Op.after (View.ledger.run m) w) = w.records + added ∧
    Q (Op.result (View.ledger.run m) w) added
  rw [View.after_run, View.result_run]
  refine ⟨added, ?_, hQ⟩
  obtain ⟨-, -, hnoted⟩ := Journal.ext_iff.mp hadded
  refine Journal.ext ?_ ?_ hnoted
  · rw [Journal.received_add, hreceived, List.append_nil]
    rfl
  · rw [Journal.said_add, hsaid, List.append_nil]
    rfl

end

/-! ## Operations that record -/

/-- It records all of this when it returns, and nothing otherwise. -/
def Journal.AllOrNone {α : Type} (records : Journal) (r : Except Fault α) (added : Journal) :
    Prop :=
  match r with
  | .ok _ => added = records
  | .error _ => added = 0

theorem accounts_recordMessage (message : MessageEnvelope) :
    Accounts World.records (StateStore.recordMessage message)
      (Journal.ofMessage message).AllOrNone := by
  refine accounts_conversations (Stmt.accounts_now fun now => ?_)
  refine Stmt.accounts_execute (Journal.ofMessage message) (fun t => ?_) ⟨rfl, rfl⟩
    fun _ => ⟨rfl, rfl⟩
  exact Journal.ext (by simp [Conversations.records, Journal.ofMessage, MessageRow.envelope])
    (List.append_nil _).symm rfl

/-- A line is recorded before it is counted, so it may be there after a fault. -/
def Line.MayRemain {α : Type} (line : Line) (r : Except Fault α) (added : Journal) : Prop :=
  match r with
  | .ok _ => added = .ofLine line
  | .error _ => added = 0 ∨ added = .ofLine line

theorem accounts_recordSessionMessageStmt (row : SessionMessageRow) (preview : String) :
    (StateStore.recordSessionMessageStmt row preview).Accounts Conversations.records
      row.line.MayRemain := by
  have hinsert : Stmt.Accounts Conversations.records (Stmt.insert fun t =>
      (Lib.Table.insert (·.messageId == row.messageId) row t.sessionMessages).map fun rows =>
        { t with sessionMessages := rows }) (Journal.ofLine row.line).AllOrNone := by
    refine Stmt.accounts_insert (Journal.ofLine row.line) (fun t t' h => ?_) rfl fun _ => rfl
    obtain ⟨rows, hrows, rfl⟩ := Option.map_eq_some_iff.mp h
    obtain ⟨-, rfl⟩ := Lib.Table.insert_eq_some.mp hrows
    exact Journal.ext (List.append_nil _).symm
      (by simp [Conversations.records, Journal.ofLine]) rfl
  refine hinsert.bind ?_ ?_
  · rintro _ first rfl
    refine Stmt.Accounts.bind (Q := fun _ rest => rest = 0) ?_ ?_ ?_
    · exact Stmt.accounts_execute (0 : Journal) (fun t => (add_zero _).symm) rfl fun _ => rfl
    · rintro _ rest rfl
      exact Stmt.accounts_pure (by simp [Line.MayRemain])
    · rintro e rest rfl
      exact Or.inr (add_zero _)
  · rintro e first rfl
    exact Or.inl rfl

section

variable [Externals]

theorem accounts_recordSessionMessage
    (sessionId connector role sender body metadataJson : String) :
    Accounts World.records
      (StateStore.recordSessionMessage sessionId connector role sender body metadataJson)
      (Line.MayRemain ⟨sessionId, connector, role, sender, body, metadataJson⟩) := by
  rw [StateStore.recordSessionMessage_eq]
  refine accounts_quiet evolving_newUuid (fun uuid => ?_) fun _ => Or.inl rfl
  refine accounts_quiet evolving_now (fun now => ?_) fun _ => Or.inl rfl
  refine accounts_conversations ((accounts_recordSessionMessageStmt _ _).mono ?_)
  intro r added h
  refine ⟨?_, h⟩
  cases r with
  | ok _ => exact congrArg Journal.noted h
  | error _ => rcases h with rfl | rfl <;> rfl

theorem accounts_recordAuditText (category severity summary : String) (anomalyScore : Rat)
    (payloadJson : String) :
    Accounts World.records
      (EngineRuntime.recordAuditText category severity summary anomalyScore payloadJson)
      (Journal.ofNote ⟨category, severity, summary, anomalyScore, payloadJson⟩).AllOrNone := by
  refine accounts_quiet evolving_newUuid (fun uuid => ?_) fun _ => rfl
  refine accounts_quiet evolving_now (fun now => ?_) fun _ => rfl
  refine accounts_ledger (Stmt.accounts_insert (Journal.ofNote _) (fun t t' h => ?_)
    ⟨rfl, rfl, rfl⟩ fun _ => ⟨rfl, rfl, rfl⟩)
  obtain ⟨rows, hrows, rfl⟩ := Option.map_eq_some_iff.mp h
  obtain ⟨-, rfl⟩ := Lib.Table.insert_eq_some.mp hrows
  exact Journal.ext rfl rfl (by simp [Ledger.records, Journal.ofNote, AuditRow.note])

/-- An operation that is audited with what it returns. -/
theorem accounts_audited {α : Type} {p : EngineOp α} (note : α → Note) (hp : Evolving False α p) :
    Accounts World.records (p >>= fun a => EngineRuntime.recordAuditText (note a).category
        (note a).severity (note a).summary (note a).anomalyScore (note a).payloadJson >>=
          fun _ => pure a : EngineOp α)
      fun r added =>
        match r with
        | .ok a => added = .ofNote (note a)
        | .error _ => added = 0 := by
  refine accounts_quiet hp (fun a => ?_) fun _ => rfl
  refine (accounts_recordAuditText _ _ _ _ _).bind ?_ ?_
  · rintro _ first rfl
    exact accounts_pure (add_zero _)
  · rintro e first rfl
    rfl

/-! ## Calls -/

/-- What a delivered message has left, by the state of its delivery. -/
inductive Delivered (message : MessageEnvelope) (result : InboundMessageResult) : Journal → Prop where
  | ignored (state : result.deliveryState = "ignored") :
      Delivered message result ⟨[message], [⟨result.sessionId, message.connector, "user",
        message.sender, message.body, message.metadataJson⟩], []⟩
  | gated (state : result.deliveryState = "pairing_required") :
      Delivered message result ⟨[message], [⟨result.sessionId, message.connector, "user",
        message.sender, message.body, message.metadataJson⟩],
        [⟨"connector.pairing", "info", "pairing required before message delivery", 3 / 25,
          Externals.jsonText (.obj [("connector", .str message.connector),
            ("pairing_id", .str result.pairingId), ("sender", .str message.sender),
            ("session_id", .str result.sessionId)])⟩]⟩
  | replied (provider cacheTier : String) (state : result.deliveryState = "replied") :
      Delivered message result ⟨[message], [⟨result.sessionId, message.connector, "user",
        message.sender, message.body, message.metadataJson⟩,
        ⟨result.sessionId, message.connector, "assistant", "openpinch", result.reply,
          Externals.jsonText (.obj [("cache", .str cacheTier), ("provider", .str provider)])⟩],
        [⟨"connector.message", "info", s!"message handled via {provider}", 1 / 20,
          Externals.jsonText (.obj [("cache", .str cacheTier),
            ("connector", .str message.connector), ("provider", .str provider),
            ("session_id", .str result.sessionId)])⟩]⟩
  | degraded (error : String) (state : result.deliveryState = "degraded")
      (reply : result.reply = s!"OpenPinch received the message but no local model backend " ++
        s!"produced a reply: {error}") :
      Delivered message result ⟨[message], [⟨result.sessionId, message.connector, "user",
        message.sender, message.body, message.metadataJson⟩],
        [⟨"connector.message", "warning", "message handled without local model reply", 9 / 20,
          Externals.jsonText (.obj [("error", .str error),
            ("session_id", .str result.sessionId)])⟩]⟩

namespace ApiCall

/-- The event of a call that is audited with what it returns. -/
def note : (call : ApiCall) → call.Result → Option Note
  | updatePairing _, (pairing : PairingRecord) =>
      some ⟨"connector.pairing", "info", "pairing updated", 3 / 50,
        Externals.jsonText (.obj [("pairing_id", .str pairing.id),
          ("status", .str pairing.status)])⟩
  | upsertMemory nameSpace key _ _, (digest : String) =>
      some ⟨"memory.upsert", "info", "vector memory record stored", 1 / 20,
        Externals.jsonText (.obj [("digest", .str digest), ("key", .str key),
          ("namespace", .str nameSpace)])⟩
  | rememberBrain _, (result : BrainRememberResult) =>
      some ⟨"brain.remember", "info", "brain record stored", 1 / 20,
        Externals.jsonText (.obj [("digest", .str result.digest)])⟩
  | updateBrainTask _, (task : BrainTaskRecord) =>
      some ⟨"brain.task", "info", "brain task updated", 1 / 20,
        Externals.jsonText (.obj [("status", .str task.status), ("task_id", .str task.id)])⟩
  | forgetBrain _, (result : BrainForgetResult) =>
      some ⟨"brain.forget", "info", "brain record forgotten", 2 / 25,
        Externals.jsonText (.obj [("mode", .str result.mode),
          ("target_id", .str result.targetId)])⟩
  | attestSession _ _ _ _, (report : AttestationReport) =>
      some ⟨"security.attestation", "info", "session attested",
        if report.hardwareBacked then 3 / 100 else 9 / 50, Externals.jsonText report.toJson⟩
  | runAgentProtocol _ _ request, (result : ProtocolRunResult) =>
      some ⟨"agent.protocol", if result.accepted then "info" else "warning",
        s!"protocol {request.protocolId} executed", if result.accepted then 2 / 25 else 37 / 50,
        result.transcriptJson⟩
  | _, _ => none

/-- That event, of a call that is audited. -/
def event (call : ApiCall) (result : call.Result) : Note :=
  (call.note result).getD ⟨"", "", "", 0, ""⟩

/-- What a call that returns this has left. -/
def Tells : (call : ApiCall) → call.Result → Journal → Prop
  | deliverMessage message, (result : InboundMessageResult), added =>
      Delivered message result added
  | recordOutboundMessage request, (result : OutboundMessageResult), added =>
      added = .ofLine ⟨result.sessionId, request.connector, "assistant",
        if request.sender = "" then "openpinch" else request.sender, request.body,
        request.metadataJson⟩
  | call, result, added => added = ((call.note result).map Journal.ofNote).getD 0

/-- The call records a line of a transcript. -/
def isChat : ApiCall → Bool
  | deliverMessage _ => true
  | recordOutboundMessage _ => true
  | _ => false

/-- What a call has left, by its outcome.  A call that fails has left no event, and
only a conversation leaves anything else. -/
def Explains (call : ApiCall) (outcome : Except Fault call.Result) (added : Journal) : Prop :=
  match outcome with
  | .ok result => call.Tells result added
  | .error _ => added.noted = [] ∧ (call.isChat = false → added = 0)

end ApiCall

/-! ### Messages -/

/-- The message and its line in the session. -/
def heard (message : MessageEnvelope) (sessionId : String) : Journal :=
  ⟨[message], [⟨sessionId, message.connector, "user", message.sender, message.body,
    message.metadataJson⟩], []⟩

/-- What follows when the message and its line are recorded. -/
def Answered (message : MessageEnvelope) (session : SessionRecord)
    (r : Except Fault InboundMessageResult) (rest : Journal) : Prop :=
  match r with
  | .ok result => Delivered message result (heard message session.id + rest)
  | .error _ => rest.noted = []

variable (runtime : EngineRuntime)

theorem accounts_deliverReply (session : SessionRecord) (message : MessageEnvelope)
    (messageId : String) (result : OrchestrationResult) :
    Accounts World.records (runtime.deliverReply session message messageId result)
      (Answered message session) := by
  have hquiet : QuietParts (Evolving False) := quiet_evolving
  refine accounts_quiet (hquiet.ignore
    ((hquiet.brain runtime.brain).ingestAssistantReply _ _)) (fun _ => ?_) fun _ => rfl
  refine accounts_quiet (hquiet.replyText runtime _ _) (fun reply => ?_) fun _ => rfl
  refine (accounts_recordSessionMessage _ _ _ _ _ _).bind ?_ ?_
  · rintro _ line rfl
    refine (accounts_recordAuditText _ _ _ _ _).bind ?_ ?_
    · rintro _ note rfl
      exact accounts_pure (.replied result.provider result.cacheTier rfl)
    · rintro e note rfl
      rfl
  · rintro e line (rfl | rfl) <;> rfl

theorem accounts_answerMessage (session : SessionRecord) (message : MessageEnvelope)
    (messageId : String) :
    Accounts World.records (runtime.answerMessage session message messageId)
      (Answered message session) := by
  have hquiet : QuietParts (Evolving False) := quiet_evolving
  refine accounts_quiet (hquiet.attempt ((hquiet.brain runtime.brain).buildContextPack _ _))
    (fun packed => ?_) fun _ => rfl
  refine accounts_quiet (hquiet.emit _) (fun _ => ?_) fun _ => rfl
  refine accounts_quiet (hquiet.attempt (hquiet.generateWithRoute _ _ _ _))
    (fun generated => ?_) fun _ => rfl
  cases generated with
  | ok result =>
      refine accounts_quiet (hquiet.emit _) (fun _ => ?_) fun _ => rfl
      exact accounts_deliverReply runtime session message messageId result
  | error error =>
      refine (accounts_recordAuditText _ _ _ _ _).bind ?_ ?_
      · rintro _ note rfl
        exact accounts_pure (.degraded error rfl rfl)
      · rintro e note rfl
        rfl

theorem accounts_gateMessage (session : SessionRecord) (message : MessageEnvelope)
    (messageId : String) :
    Accounts World.records (runtime.gateMessage session message messageId)
      (Answered message session) := by
  have hquiet : QuietParts (Evolving False) := quiet_evolving
  refine accounts_quiet (hquiet.ensurePairingIfRequired runtime session message)
    (fun pairing => ?_) fun _ => rfl
  cases pairing with
  | some pairingId =>
      refine (accounts_recordAuditText _ _ _ _ _).bind ?_ ?_
      · rintro _ note rfl
        exact accounts_pure (.gated rfl)
      · rintro e note rfl
        rfl
  | none =>
      dsimp only
      split
      · exact accounts_pure (.ignored rfl)
      · exact accounts_answerMessage runtime session message messageId

theorem accounts_handleMessage (message : MessageEnvelope) :
    Accounts World.records (runtime.handleMessage message) fun r added =>
      match r with
      | .ok result => Delivered message result added
      | .error _ => added.noted = [] := by
  have hquiet : QuietParts (Evolving False) := quiet_evolving
  refine (accounts_recordMessage message).bind ?_ ?_
  · rintro _ received rfl
    refine accounts_quiet (hquiet.store (.resolveSessionForInbound _ _ _) rfl)
      (fun session => ?_) fun _ => rfl
    refine (accounts_recordSessionMessage _ _ _ _ _ _).bind ?_ ?_
    · rintro messageId line rfl
      refine accounts_quiet (hquiet.ignore
        ((hquiet.brain runtime.brain).ingestMessage message)) (fun _ => ?_) fun _ => rfl
      refine (accounts_gateMessage runtime session message messageId).mono fun r rest h => ?_
      cases r with
      | ok result => exact h
      | error e => exact h
    · rintro e line (rfl | rfl) <;> rfl
  · rintro e received rfl
    rfl

/-! ### All calls -/

theorem accounts_nothing {α : Type} {p : EngineOp α} (hp : Evolving False α p) :
    Accounts World.records p fun _ added => added = 0 :=
  accounts_of_eq hp.records fun _ => rfl

/-- A call that prunes no sessions has left what its outcome tells. -/
theorem ApiCall.accounts (call : ApiCall) (hkeeps : ∀ request, call ≠ .pruneSessions request) :
    Accounts World.records (call.op runtime) call.Explains := by
  have hquiet : QuietParts (Evolving False) := quiet_evolving
  have hbrain := hquiet.brain runtime.brain
  have haudited (call : ApiCall) {p : EngineOp call.Result} (hp : Evolving False _ p)
      (htells : ∀ result, call.Tells result (.ofNote (call.event result))) :
      Accounts World.records (p >>= fun a => EngineRuntime.recordAuditText (call.event a).category
        (call.event a).severity (call.event a).summary (call.event a).anomalyScore
          (call.event a).payloadJson >>= fun _ => pure a : EngineOp call.Result) call.Explains := by
    refine (accounts_audited call.event hp).mono fun r added h => ?_
    cases r with
    | ok result => exact h ▸ htells result
    | error e => exact ⟨congrArg Journal.noted h, fun _ => h⟩
  have hsilent (call : ApiCall) {p : EngineOp call.Result} (hp : Evolving False _ p)
      (htells : ∀ result, call.Tells result 0) : Accounts World.records p call.Explains := by
    refine (accounts_nothing hp).mono fun r added h => ?_
    cases r with
    | ok result => exact h ▸ htells result
    | error e => exact ⟨congrArg Journal.noted h, fun _ => h⟩
  cases call with
  | deliverMessage message =>
      refine (accounts_handleMessage runtime message).mono fun r added h => ?_
      cases r with
      | ok result => exact h
      | error e => exact ⟨h, fun hchat => by cases hchat⟩
  | recordOutboundMessage request =>
      refine accounts_quiet (hquiet.outboundSession runtime request) (fun session => ?_)
        fun _ => ⟨rfl, fun _ => rfl⟩
      refine (accounts_recordSessionMessage _ _ _ _ _ _).bind ?_ ?_
      · rintro messageId line rfl
        exact accounts_pure (add_zero _)
      · rintro e line (rfl | rfl)
        · exact ⟨rfl, fun _ => rfl⟩
        · exact ⟨rfl, fun hchat => by cases hchat⟩
  | listSessions query => exact hsilent _ (hquiet.store (.listSessions query) rfl) fun _ => rfl
  | getSession query => exact hsilent _ (hquiet.store (.getSessionDetail query) rfl) fun _ => rfl
  | pruneSessions request => exact absurd rfl (hkeeps request)
  | listPairings query => exact hsilent _ (hquiet.store (.listPairings query) rfl) fun _ => rfl
  | updatePairing request =>
      exact haudited (.updatePairing request) (hquiet.store (.updatePairing request) rfl)
        fun _ => rfl
  | queryMemory query => exact hsilent _ (hquiet.store (.queryMemory query _) rfl) fun _ => rfl
  | upsertMemory nameSpace key content metadataJson =>
      exact haudited (.upsertMemory nameSpace key content metadataJson)
        (hquiet.store (.upsertMemory _ _ _ _ _) rfl) fun _ => rfl
  | rememberBrain request =>
      exact haudited (.rememberBrain request) (hbrain.remember request) fun _ => rfl
  | recallBrain query => exact hsilent _ (hbrain.recallRecords query) fun _ => rfl
  | suggestBrain query => exact hsilent _ (hbrain.suggest query) fun _ => rfl
  | listBrainTasks query => exact hsilent _ (hbrain.listTaskRecords query) fun _ => rfl
  | updateBrainTask request =>
      exact haudited (.updateBrainTask request) (hbrain.updateTaskRecord request) fun _ => rfl
  | forgetBrain request =>
      exact haudited (.forgetBrain request) (hquiet.forget runtime.brain request) fun _ => rfl
  | attestSession attester subject nonce includeHardware =>
      exact haudited (.attestSession attester subject nonce includeHardware)
        (hquiet.pure (attester.attest subject nonce includeHardware)) fun _ => rfl
  | exportAudit siem write sink limit =>
      exact hsilent _ (hquiet.exportAudit siem write sink limit) fun _ => rfl
  | runAgentProtocol config nonces request =>
      refine accounts_quiet (hquiet.store (.recordProtocolRun _) rfl) (fun _ => ?_)
        fun _ => ⟨rfl, fun _ => rfl⟩
      exact haudited (.runAgentProtocol config nonces request)
        (hquiet.pure (validateProtocol request runtime.encryption config nonces)) fun _ => rfl
  | executeTool call outcome => exact hsilent _ (hquiet.executeTool runtime call outcome) fun _ => rfl
  | schedules => exact hsilent _ (hquiet.store .listJobs rfl) fun _ => rfl
  | storeQueueTask task status =>
      exact hsilent _ (hquiet.store (.storeQueueTask task status) rfl) fun _ => rfl
  | updateQueueStatus taskId status =>
      exact hsilent _ (hquiet.store (.updateQueueStatus taskId status) rfl) fun _ => rfl
  | restart workspacePath workspaceTitle os =>
      exact hsilent _ (BrainManager.Parts.create hquiet.toClosed
        (fun manager _ => hquiet.brain manager) _ _ _ _) fun _ => rfl

/-! ## Runs -/

/-- A call of a runtime and its outcome. -/
structure Exchange where
  runtime : EngineRuntime
  call : ApiCall
  outcome : Except Fault call.Result

/-- The calls one after the other, each run alone from a free lock to its end. -/
def served : System World Exchange where
  init _ := True
  step w exchange w' :=
    (exchange.call.op exchange.runtime).alone false w = .done exchange.outcome false w'

/-- The outcomes of the calls of a list and the world after them, unless one of them
does not return with the lock free. -/
def serve : List (EngineRuntime × ApiCall) → World → Option (List Exchange × World)
  | [], w => some ([], w)
  | (runtime, call) :: calls, w =>
      match (call.op runtime).alone false w with
      | .done outcome false middle =>
          (serve calls middle).map fun (exchanges, w') =>
            (⟨runtime, call, outcome⟩ :: exchanges, w')
      | _ => none

theorem run_of_serve {calls : List (EngineRuntime × ApiCall)} {exchanges : List Exchange}
    {w w' : World} (h : serve calls w = some (exchanges, w')) :
    served.Run w exchanges w' ∧ exchanges.map (fun x => (x.runtime, x.call)) = calls := by
  induction calls generalizing w exchanges with
  | nil =>
      cases h
      exact ⟨.nil _, rfl⟩
  | cons first calls ih =>
      obtain ⟨runtime, call⟩ := first
      unfold serve at h
      split at h
      · rename_i outcome middle hdone
        obtain ⟨⟨rest, last⟩, hrest, heq⟩ := Option.map_eq_some_iff.mp h
        cases heq
        obtain ⟨hrun, hcalls⟩ := ih hrest
        exact ⟨.cons hdone hrun, congrArg ((runtime, call) :: ·) hcalls⟩
      · cases h

/-- The records after any sequence of calls without pruning are those before it and
then, call by call, what the outcomes tell. -/
theorem records_run {w w' : World} {exchanges : List Exchange} (h : served.Run w exchanges w')
    (hkeeps : ∀ exchange ∈ exchanges, ∀ request, exchange.call ≠ .pruneSessions request) :
    ∃ added : List Journal, w'.records = w.records + added.sum ∧
      List.Forall₂ (fun exchange records => exchange.call.Explains exchange.outcome records)
        exchanges added := by
  induction h with
  | nil w => exact ⟨[], (add_zero _).symm, .nil⟩
  | @cons w middle w' exchange exchanges hstep _ ih =>
      obtain ⟨rest, hrest, hexplains⟩ :=
        ih fun other hother => hkeeps other (List.mem_cons_of_mem _ hother)
      obtain ⟨first, hfirst, hexplain⟩ :=
        exchange.call.accounts exchange.runtime (hkeeps exchange List.mem_cons_self) w
      rw [Prog.eval_of_alone hstep] at hfirst hexplain
      refine ⟨first :: rest, ?_, .cons hexplain hexplains⟩
      rw [hrest, hfirst, List.sum_cons, add_assoc]

end

/-- The world in which one sender is approved. -/
def approvedWorld : World :=
  { referenceWorld with conversations :=
    ⟨[], [], [], [⟨"pairing-0", "telegram", "7", "7", "session-0", "approved", "", "", 0, 0⟩]⟩ }

/-- The approved sender writes, and then the pairing is revoked. -/
def pairedCalls : List (EngineRuntime × ApiCall) :=
  [(referenceRuntime, .deliverMessage (referenceMessage "7" "7" "hi")),
    (referenceRuntime, .updatePairing ⟨"pairing-0", "revoke", ""⟩)]

set_option maxRecDepth 8192 in
/-- Both calls are on record. -/
theorem records_run_paired : ∃ w' exchanges added,
    exchanges.map (fun x : Exchange => (x.runtime, x.call)) = pairedCalls ∧
      World.records w' = World.records approvedWorld + List.sum added ∧
        List.Forall₂ (fun (exchange : Exchange) records =>
          @ApiCall.Explains referenceExternals exchange.call exchange.outcome records)
          exchanges added := by
  have hserved : (@serve referenceExternals pairedCalls approvedWorld).isSome = true := by decide
  obtain ⟨⟨exchanges, w'⟩, hserve⟩ := Option.isSome_iff_exists.mp hserved
  obtain ⟨hrun, hcalls⟩ := @run_of_serve referenceExternals _ _ _ _ hserve
  have hkeeps : ∀ exchange ∈ exchanges, ∀ request, exchange.call ≠ .pruneSessions request := by
    intro exchange hmem request
    have hcall := hcalls ▸ List.mem_map_of_mem (f := fun x : Exchange => (x.runtime, x.call)) hmem
    intro hprune
    rw [hprune] at hcall
    simp [pairedCalls] at hcall
  obtain ⟨added, hrecords, hexplains⟩ := @records_run referenceExternals _ _ _ hrun hkeeps
  exact ⟨w', exchanges, added, hcalls, hrecords, hexplains⟩

end OpenPinch
