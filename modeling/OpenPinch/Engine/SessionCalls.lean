import OpenPinch.Engine.Calls
import OpenPinch.Engine.Sessions
import OpenPinch.Lib.Pool

/-!
# Calls of the store on sessions

The operations of the store on sessions, one after the other as the steps of a
system, or as threads that share the connection.

The flag of a session agrees with its status as long as no message is recorded
in an archived session (`flags_agree`).  In every interleaving each session
counts its messages (`messages_counted`).
-/

namespace OpenPinch

open Lib (Op Pool Move System wp)
open Lib.Op (after result)
open Lib.Prog (Acts)

/-! ## Actions -/

/-- The action takes a step on sessions. -/
def SessionAction (records : String → Prop) (_ : Event) (g : World → World) : Prop :=
  ∀ w, SessionStep records w.around.nextSessionId w.around.Faulty w.conversations
    (g w).conversations

theorem Aside.sessionAction {records : String → Prop} {e : Event} {g : World → World}
    (h : Aside e g) : SessionAction records e g := by
  intro w
  rw [h.conversations w]
  exact .same rfl rfl

theorem acts_asideSteps {α : Type} {records : String → Prop} {p : EngineOp α}
    (h : Lib.Prog.Keeps Aside false false p) : Acts (SessionAction records) p :=
  h.acts.mono fun _ _ => Aside.sessionAction

theorem sessionAction_run {α : Type} {records : String → Prop} {m : Stmt Conversations α}
    (h : m.Steps records) (e : Event) :
    SessionAction records e (after (View.conversations.run m)) := by
  intro w
  rw [View.after_run]
  exact h (w.around, w.conversations)

theorem acts_steps {α : Type} {records : String → Prop} {e : Event}
    {m : Stmt Conversations α} (h : m.Steps records) :
    Acts (SessionAction records) (EngineOp.guardedAs e .conversations m) :=
  .lock (.act (sessionAction_run h e) fun _ => .unlock .ret)

theorem wp_steps {α : Type} {records : String → Prop} {m : Stmt Conversations α}
    (h : m.Steps records) {post : List Event → Except Fault α → World → Prop}
    {labels : List Event} {w : World}
    (hpost : ∀ labels r w', SessionStep records w.around.nextSessionId w.around.Faulty
      w.conversations w'.conversations → post labels r w') :
    wp (EngineOp.guarded .conversations m) post labels w :=
  Op.wp_guarded (hpost _ _ _ (sessionAction_run h .quiet w))

namespace StateStore

open Lib.Op (acts_bind acts_pure)
open EngineOp (keeps_now keeps_newUuid)

/-- A session that is resolved has a row at its place. -/
theorem exists_row_resolveSessionStmt {connectorName channelId participant sessionType
    defaultModelProfile : String} {config : AppConfig}
    {s : Surroundings × Conversations} {session : SessionRecord}
    (h : result (resolveSessionStmt connectorName channelId participant sessionType config
      defaultModelProfile) s = .ok session) :
    ∃ row ∈ (after (resolveSessionStmt connectorName channelId participant sessionType config
      defaultModelProfile) s).2.sessions,
      row.isAt connectorName channelId participant = true ∧ row.sessionId = session.id := by
  obtain ⟨found, hfound, hrest⟩ := Stmt.result_bind_ok h
  rw [resolveSessionStmt, Stmt.after_bind_ok hfound]
  cases found with
  | some row =>
      have hrow := (Stmt.select_ok hfound).symm
      have hat : row.isAt connectorName channelId participant = true :=
        List.find?_some (p := fun row : SessionRow =>
          row.isAt connectorName channelId participant) hrow
      cases hrest
      refine ⟨row, ?_, hat, rfl⟩
      show row ∈ (after (Stmt.select _) s).2.sessions
      rw [Stmt.after_select]
      exact List.mem_of_find?_eq_some hrow
  | none =>
      obtain ⟨now, hnow, hrest⟩ := Stmt.result_bind_ok hrest
      obtain ⟨uuid, huuid, hrest⟩ := Stmt.result_bind_ok hrest
      obtain ⟨hsession, hinserted⟩ := Stmt.insert_then_ok hrest
      obtain ⟨rows, hrows, hafter⟩ := Option.map_eq_some_iff.mp hinserted
      obtain ⟨-, rfl⟩ := Lib.Table.insert_eq_some.mp hrows
      dsimp only
      rw [Stmt.after_bind_ok hnow, Stmt.after_bind_ok huuid, ← hafter, hsession]
      refine ⟨_, List.mem_append_right _ (List.mem_singleton.mpr rfl), ?_, rfl⟩
      show (connectorName == connectorName && channelId == channelId &&
        participant == participant) = true
      simp

variable [Externals] {records : String → Prop}

omit [Externals] in
theorem acts_reads {α : Type} (f : Conversations → α) :
    Acts (SessionAction records) (EngineOp.guarded .conversations (Stmt.select f)) :=
  acts_steps (Stmt.Respects.steps (Stmt.respects_select SameChats.refl f))

theorem sessionActs_resolveSessionForInbound (message : MessageEnvelope) (config : AppConfig)
    (defaultModelProfile : String) :
    Acts (SessionAction records)
      (resolveSessionForInbound message config defaultModelProfile) :=
  acts_steps (steps_resolveSessionStmt _ _ _ _ _ _)

theorem sessionActs_resolveSessionForOutbound (connector channelId sender : String)
    (config : AppConfig) :
    Acts (SessionAction records)
      (resolveSessionForOutbound connector channelId sender config) := by
  refine acts_bind (acts_reads _) fun found => ?_
  cases found with
  | some row => exact acts_pure _
  | none => exact acts_steps (steps_resolveSessionStmt _ _ _ _ _ _)

omit [Externals] in
theorem sessionActs_recordSessionMessage {sessionId : String} (target : records sessionId)
    (connector role sender body metadataJson : String) :
    Acts (SessionAction records)
      (recordSessionMessage sessionId connector role sender body metadataJson) := by
  rw [recordSessionMessage_eq]
  refine acts_bind (acts_asideSteps keeps_newUuid) fun uuid => ?_
  refine acts_bind (acts_asideSteps keeps_now) fun now => ?_
  exact acts_steps (steps_recordSessionMessageStmt target _)

omit [Externals] in
/-- Alone, it takes one step. -/
theorem step_recordSessionMessage (sessionId connector role sender body metadataJson : String)
    (w : World) :
    ∃ next faulty, SessionStep (fun id => id = sessionId) next faulty w.conversations
      (Lib.Prog.eval (recordSessionMessage sessionId connector role sender body metadataJson)
        w).2.conversations := by
  show wp (recordSessionMessage sessionId connector role sender body metadataJson)
    (fun _ _ w' => ∃ next faulty, SessionStep (fun id => id = sessionId) next faulty
      w.conversations w'.conversations) [] w
  rw [recordSessionMessage_eq]
  have hsteps : ∀ row : SessionMessageRow, row.sessionId = sessionId →
      (recordSessionMessageStmt row (truncateWithEllipsis body 120)).Steps
        fun id => id = sessionId :=
    fun row hrow => steps_recordSessionMessageStmt hrow _
  refine Op.wp_bind (Op.wp_stmt (Op.andThen_ok (Op.wp_bind (EngineOp.wp_now
    (Op.andThen_ok (wp_steps (hsteps _ rfl) ?_))))))
  exact fun labels r w' hstep => ⟨_, _, hstep⟩

omit [Externals] in
theorem sessionActs_setSessionPendingPairing (sessionId : String) (value : Bool) :
    Acts (SessionAction records) (setSessionPendingPairing sessionId value) := by
  refine acts_steps fun s => ?_
  exact steps_setPendingPairing sessionId value (s.1.clock s.1.ticks)
    ({ s.1 with ticks := s.1.ticks + 1 }, s.2)

omit [Externals] in
theorem sessionActs_updatePairing (request : PairingUpdate) :
    Acts (SessionAction records) (updatePairing request) :=
  acts_bind (acts_asideSteps keeps_now) fun now =>
    acts_steps (steps_updatePairingStmt _ _ _ now)

theorem sessionActs_pruneSessions (request : SessionPruneRequestRecord) :
    Acts (SessionAction records) (pruneSessions request) := by
  refine acts_bind (acts_asideSteps keeps_now) fun now => ?_
  refine acts_bind (EngineOp.acts_orPanic _) fun threshold => ?_
  refine acts_bind ?_ fun _ => acts_pure _
  split
  · exact acts_steps (steps_archiveSessionsStmt threshold)
  · exact acts_steps (steps_deleteSessionsStmt threshold)

end StateStore

/-! ## Calls -/

/-- The operations of the store that change sessions. -/
inductive SessionCall where
  | inbound (message : MessageEnvelope) (defaultModelProfile : String)
  | outbound (connector channelId sender : String)
  | record (sessionId connector role sender body metadataJson : String)
  | prune (request : SessionPruneRequestRecord)
  | update (request : PairingUpdate)
  | pending (sessionId : String) (value : Bool)

theorem EngineOp.acts_dropResult {α : Type} {allowed : Event → (World → World) → Prop}
    {p : EngineOp α} (h : Acts allowed p) : Acts allowed (EngineOp.dropResult p) :=
  h.bind fun _ => .ret

namespace SessionCall

open EngineOp (acts_dropResult)

/-- The sessions that a call records messages in. -/
def records : SessionCall → String → Prop
  | record sessionId .. => fun id => id = sessionId
  | _ => fun _ => False

variable [Externals] (config : AppConfig)

/-- The thread of a call. -/
def thread : SessionCall → Lib.Prog Event World Unit
  | inbound message defaultModelProfile =>
      EngineOp.dropResult
        (StateStore.resolveSessionForInbound message config defaultModelProfile)
  | outbound connector channelId sender =>
      EngineOp.dropResult (StateStore.resolveSessionForOutbound connector channelId sender config)
  | record sessionId connector role sender body metadataJson =>
      EngineOp.dropResult
        (StateStore.recordSessionMessage sessionId connector role sender body metadataJson)
  | prune request => EngineOp.dropResult (StateStore.pruneSessions request)
  | update request => EngineOp.dropResult (StateStore.updatePairing request)
  | pending sessionId value =>
      EngineOp.dropResult (StateStore.setSessionPendingPairing sessionId value)

theorem acts_thread {allowed : String → Prop} (call : SessionCall)
    (hrecords : ∀ sessionId, call.records sessionId → allowed sessionId) :
    Acts (SessionAction allowed) (call.thread config) := by
  cases call with
  | inbound message profile =>
      exact acts_dropResult (StateStore.sessionActs_resolveSessionForInbound message config profile)
  | outbound connector channelId sender =>
      exact acts_dropResult (StateStore.sessionActs_resolveSessionForOutbound _ _ _ config)
  | record sessionId =>
      refine acts_dropResult ?_
      exact StateStore.sessionActs_recordSessionMessage (hrecords sessionId rfl) _ _ _ _ _
  | prune request => exact acts_dropResult (StateStore.sessionActs_pruneSessions request)
  | update request => exact acts_dropResult (StateStore.sessionActs_updatePairing request)
  | pending sessionId value =>
      exact acts_dropResult (StateStore.sessionActs_setSessionPendingPairing sessionId value)

end SessionCall

/-! ## One call after the other -/

section

variable [Externals]

/-- The calls of the store, one after the other, from a database without
conversations.  Each call is allowed where it starts. -/
def StateStore.system (config : AppConfig) (allowed : World → SessionCall → Prop) :
    System World SessionCall where
  init w := w.conversations = ⟨[], [], [], []⟩
  step w call w' := allowed w call ∧ w' = ((call.thread config).eval w).2

/-- The call records no message in an archived session. -/
def SessionCall.SparesArchived (w : World) (call : SessionCall) : Prop :=
  ∀ row ∈ w.conversations.sessions, call.records row.sessionId → row.archived = false

/-- A call that spares archived sessions keeps the agreement. -/
theorem SessionCall.flagsAgree {config : AppConfig} {call : SessionCall} {w : World}
    (hspares : call.SparesArchived w) (h : w.conversations.FlagsAgree) :
    ((call.thread config).eval w).2.conversations.FlagsAgree := by
  by_cases hrecords : ∃ sessionId, call.records sessionId
  · obtain ⟨sessionId, hsession⟩ := hrecords
    cases call with
    | record id connector role sender body metadataJson =>
        obtain ⟨next, faulty, hstep⟩ := StateStore.step_recordSessionMessage id connector role
          sender body metadataJson w
        rw [thread, EngineOp.eval_dropResult]
        exact hstep.flagsAgree hspares h
    | inbound message profile => cases hsession
    | outbound connector channelId sender => cases hsession
    | prune request => cases hsession
    | update request => cases hsession
    | pending id value => cases hsession
  · have hacts : Acts (SessionAction fun _ => False) (call.thread config) :=
      call.acts_thread config fun sessionId hsession => hrecords ⟨sessionId, hsession⟩
    exact hacts.preserves (I := fun w => w.conversations.FlagsAgree) (L := fun _ => True)
      (fun e g hstep _ w hw => (hstep w).flagsAgree (fun _ _ => False.elim) hw) h
      fun _ _ => trivial

/-- As long as no message is recorded in an archived session, the flag of each
session agrees with its status. -/
theorem flags_agree {config : AppConfig} {w : World}
    (h : (StateStore.system config fun w call => call.SparesArchived w).Reachable w) :
    ∀ row ∈ w.conversations.sessions, row.archived = true ↔ row.status = "archived" := by
  refine h.invariant (P := fun w => w.conversations.FlagsAgree) ?_ ?_
  · intro start hstart row hrow
    rw [show start.conversations = _ from hstart] at hrow
    exact absurd hrow List.not_mem_nil
  · rintro s call s' ⟨hspares, rfl⟩ hs
    exact call.flagsAgree hspares hs

end

/-- Surroundings in which two hours pass between one look at the clock and the
next. -/
def slowSurroundings : Surroundings :=
  { countingSurroundings with clock := fun n => (1000000 + 7200 * n) * 1000000000 }

/-- An empty world that moves slowly. -/
def slowWorld : World := World.fresh slowSurroundings fun _ => .ok "hello"

/-- A call in the configuration of reference. -/
def referenceSessionThread (call : SessionCall) : Lib.Prog Event World Unit :=
  @SessionCall.thread referenceExternals referenceRuntime.config call

/-- The world after calls, one after the other. -/
def worldAfter (calls : List SessionCall) : World :=
  calls.foldl (fun w call => ((referenceSessionThread call).eval w).2) slowWorld

/-- One call more is one step more. -/
theorem reachable_worldAfter {allowed : World → SessionCall → Prop} {calls : List SessionCall}
    (call : SessionCall)
    (h : (@StateStore.system referenceExternals referenceRuntime.config allowed).Reachable
      (worldAfter calls))
    (hallowed : allowed (worldAfter calls) call) :
    (@StateStore.system referenceExternals referenceRuntime.config allowed).Reachable
      (worldAfter (calls ++ [call])) := by
  refine h.step ⟨hallowed, ?_⟩
  rw [worldAfter, List.foldl_append]
  rfl

/-- A session is opened by a message. -/
def opening : List SessionCall := [.inbound (referenceMessage "7" "7" "hi") "local"]

/-- The message is recorded, the session is archived, and another one is opened. -/
def reopening : List SessionCall :=
  opening ++ [.record "session-0" "telegram" "user" "7" "hi" ""] ++ [.prune ⟨1, true⟩] ++
    [.inbound (referenceMessage "8" "8" "hi") "local"]

/-- The other session gets a message. -/
def answering : List SessionCall :=
  reopening ++ [.record "session-2" "telegram" "user" "8" "hi" ""]

/-- A session counts a message and is archived, and so does another that is not. -/
theorem flags_agree_archived :
    (worldAfter answering).conversations.sessions.map
        (fun row => (row.messageCount, row.archived)) = [(1, true), (1, false)] ∧
      ∀ row ∈ (worldAfter answering).conversations.sessions,
        row.archived = true ↔ row.status = "archived" := by
  refine ⟨by decide, @flags_agree referenceExternals referenceRuntime.config _ ?_⟩
  have hopened : ∀ row ∈ (worldAfter opening).conversations.sessions,
      row.sessionId = "session-0" → row.archived = false := by
    decide
  have hreopened : ∀ row ∈ (worldAfter reopening).conversations.sessions,
      row.sessionId = "session-2" → row.archived = false := by
    decide
  have hstart : (@StateStore.system referenceExternals referenceRuntime.config
      fun w call => call.SparesArchived w).Reachable (worldAfter []) := .of_init rfl
  have hfirst := reachable_worldAfter (.inbound (referenceMessage "7" "7" "hi") "local") hstart
    fun _ _ hrecords => hrecords.elim
  have hrecorded := reachable_worldAfter (.record "session-0" "telegram" "user" "7" "hi" "")
    hfirst hopened
  have harchived := reachable_worldAfter (.prune ⟨1, true⟩) hrecorded
    fun _ _ hrecords => hrecords.elim
  have hsecond := reachable_worldAfter (.inbound (referenceMessage "8" "8" "hi") "local")
    harchived fun _ _ hrecords => hrecords.elim
  exact reachable_worldAfter (.record "session-2" "telegram" "user" "8" "hi" "") hsecond
    hreopened

/-- A session is archived, and then a message arrives. -/
theorem flags_agree_fails :
    ¬ ∀ [Externals] {config : AppConfig} {w : World},
      (StateStore.system config fun _ _ => True).Reachable w →
        ∀ row ∈ w.conversations.sessions, row.archived = true ↔ row.status = "archived" := by
  intro h
  let recorded : World := worldAfter
    (opening ++ [.prune ⟨1, true⟩] ++ [.record "session-0" "telegram" "user" "7" "hi" ""])
  have hstart : (@StateStore.system referenceExternals referenceRuntime.config
      fun _ _ => True).Reachable (worldAfter []) := .of_init rfl
  have hreach : (@StateStore.system referenceExternals referenceRuntime.config
      fun _ _ => True).Reachable recorded :=
    reachable_worldAfter _ (reachable_worldAfter _ (reachable_worldAfter _ hstart trivial)
      trivial) trivial
  have hsessions : recorded.conversations.sessions.any fun row =>
      row.archived && row.status == "active" := by
    decide
  obtain ⟨row, hrow, hboth⟩ := List.any_eq_true.mp hsessions
  obtain ⟨harchived, hstatus⟩ := Bool.and_eq_true_iff.mp hboth
  have hagrees := (@h referenceExternals referenceRuntime.config recorded hreach row hrow).mp
    harchived
  rw [hagrees] at hstatus
  exact absurd hstatus (by decide)

/-! ## Interleaved calls -/

section

variable [Externals]

/-- The database refuses nothing, and no message has the identifier of the next
session. -/
structure World.Regular (w : World) : Prop where
  accepts : ¬ w.around.Faulty
  fresh : ∀ message ∈ w.conversations.sessionMessages,
    message.sessionId ≠ w.around.nextSessionId

/-- The calls of the store as threads, from a database without conversations. -/
def StateStore.threads (config : AppConfig)
    (allowed : Pool Event World → Move SessionCall Event → Prop) :
    System (Pool Event World) (Move SessionCall Event) :=
  Pool.system (SessionCall.thread config) (fun w => w.conversations = ⟨[], [], [], []⟩) allowed

/-- Each session counts its messages, in every interleaving. -/
theorem messages_counted {config : AppConfig} {s : Pool Event World}
    (h : (StateStore.threads config fun s _ => s.shared.Regular).Reachable s) :
    ∀ row ∈ s.shared.conversations.sessions,
      row.messageCount = s.shared.conversations.sessionMessages.countP
        fun message => message.sessionId == row.sessionId := by
  have hcounted : s.shared.conversations.Counted := by
    refine Pool.invariant_of_acts (P := SessionAction fun _ => True)
      (I := fun w => w.conversations.Counted)
      (fun call => call.acts_thread config fun _ _ => trivial) ?_ (fun _ _ => id) ?_ h
    · intro w hw
      constructor <;> simp [show w.conversations = _ from hw]
    · intro e g hstep w hregular hw
      exact (hstep w).counted hregular.accepts hregular.fresh hw
  exact hcounted.counts

end

/-! ### A schedule -/

/-- The action leaves what the database refuses. -/
def SameRefusals (_ : Event) (g : World → World) : Prop :=
  ∀ w, (g w).around.refuses = w.around.refuses

theorem acts_sameRefusals {α : Type} {e : Event} {m : Stmt Conversations α} (h : m.Advances) :
    Acts SameRefusals (EngineOp.guardedAs e .conversations m) :=
  .lock (.act (fun w => by
    rw [View.after_run]
    exact (h (w.around, w.conversations)).refuses) fun _ => .unlock .ret)

theorem acts_sameRefusals_outside {α : Type} {m : Stmt Unit α} (h : m.Advances) :
    Acts SameRefusals (EngineOp.outside m) :=
  .act (fun w => by
    rw [View.after_run]
    exact (h (w.around, ())).refuses) fun _ => .ret

theorem Stmt.advances_newUuid {τ : Type} : (Stmt.newUuid : Stmt τ String).Advances :=
  fun _ => ⟨rfl, Nat.le_refl _, rfl, Nat.le_refl _⟩

namespace StateStore

open Stmt (advances_bind advances_sql advances_pure advances_now advances_fail advances_newUuid)

theorem advances_resolveSessionStmt (connectorName channelId participant sessionType : String)
    (config : AppConfig) (defaultModelProfile : String) :
    (resolveSessionStmt connectorName channelId participant sessionType config
      defaultModelProfile).Advances := by
  refine advances_bind (advances_sql _) fun found => ?_
  cases found with
  | some row => exact advances_pure _
  | none =>
      refine advances_bind advances_now fun now => advances_bind advances_newUuid fun uuid => ?_
      exact advances_bind (advances_sql _) fun _ => advances_pure _

theorem advances_updatePairingStmt (pairingId status note : String) (now : Instant) :
    (updatePairingStmt pairingId status note now).Advances := by
  refine advances_bind (advances_sql _) fun _ => advances_bind (advances_sql _) fun found => ?_
  cases found with
  | none => exact advances_fail _
  | some row =>
      refine advances_bind advances_now fun later => ?_
      exact advances_bind (advances_sql _) fun _ => advances_pure _

end StateStore

/-- No call changes what the database refuses. -/
theorem SessionCall.acts_thread_sameRefusals [Externals] (config : AppConfig)
    (call : SessionCall) : Acts SameRefusals (call.thread config) := by
  have hnow : Acts SameRefusals EngineOp.now := acts_sameRefusals_outside Stmt.advances_now
  cases call with
  | inbound message profile =>
      exact EngineOp.acts_dropResult
        (acts_sameRefusals (StateStore.advances_resolveSessionStmt _ _ _ _ _ _))
  | outbound connector channelId sender =>
      refine EngineOp.acts_dropResult (Op.acts_bind (acts_sameRefusals (Stmt.advances_sql _))
        fun found => ?_)
      cases found with
      | some row => exact Op.acts_pure _
      | none => exact acts_sameRefusals (StateStore.advances_resolveSessionStmt _ _ _ _ _ _)
  | record sessionId connector role sender body metadataJson =>
      refine EngineOp.acts_dropResult (Op.acts_bind
        (acts_sameRefusals_outside Stmt.advances_newUuid) fun uuid => Op.acts_bind hnow
          fun now => acts_sameRefusals ?_)
      exact Stmt.advances_bind (Stmt.advances_sql _) fun _ =>
        Stmt.advances_bind (Stmt.advances_sql _) fun _ => Stmt.advances_pure _
  | prune request =>
      refine EngineOp.acts_dropResult (Op.acts_bind hnow fun now => Op.acts_bind
        (EngineOp.acts_orPanic _) fun threshold => Op.acts_bind (acts_sameRefusals ?_)
          fun _ => Op.acts_pure _)
      split
      · exact Stmt.advances_bind Stmt.advances_now fun _ => Stmt.advances_sql _
      · exact Stmt.advances_bind (Stmt.advances_sql _) fun _ => Stmt.advances_sql _
  | update request =>
      exact EngineOp.acts_dropResult (Op.acts_bind hnow fun now =>
        acts_sameRefusals (StateStore.advances_updatePairingStmt _ _ _ now))
  | pending sessionId value =>
      exact EngineOp.acts_dropResult (acts_sameRefusals
        (Stmt.advances_bind Stmt.advances_now fun _ => Stmt.advances_sql _))

/-- A pool that started without faults stays without. -/
structure Faultless (s : Pool Event World) : Prop where
  accepts : s.shared.around.refuses = fun _ => false
  threads : s.ActAll SameRefusals

/-- No message has the identifier of the next session. -/
def unclaimed (s : Pool Event World) : Bool :=
  s.shared.conversations.sessionMessages.all fun message =>
    message.sessionId != s.shared.around.nextSessionId

theorem Faultless.regular {s : Pool Event World} (h : Faultless s)
    (hunclaimed : unclaimed s = true) : s.shared.Regular where
  accepts := by
    rintro ⟨n, hn⟩
    rw [h.accepts] at hn
    cases hn
  fresh := by
    intro message hmessage
    exact bne_iff_ne.mp (List.all_eq_true.mp hunclaimed message hmessage)

theorem Faultless.step {code : SessionCall → Lib.Prog Event World Unit}
    {init : World → Prop} {s s' : Pool Event World} {move : Move SessionCall Event}
    (h : Faultless s) (hcode : ∀ call, Acts SameRefusals (code call))
    (hstep : (Pool.system code init fun _ _ => True).step s move s') : Faultless s' := by
  cases move with
  | start call =>
      obtain ⟨-, rfl⟩ := hstep
      exact ⟨h.accepts, h.threads.spawn (hcode call)⟩
  | step thread event =>
      obtain ⟨hthreads, hsame | ⟨e, g, k, -, hg, hafter⟩⟩ := h.threads.next hstep.2
      · exact ⟨hsame ▸ h.accepts, hthreads⟩
      · refine ⟨?_, hthreads⟩
        rw [hafter, hg]
        exact h.accepts

/-- Two messages of one session are recorded while the other session is deleted
with its message. -/
theorem messages_counted_pruned :
    ∃ s : Pool Event World, s.shared.conversations.sessions.map
        (fun row => (row.sessionId, row.messageCount)) = [("session-2", 2)] ∧
      ∀ row ∈ s.shared.conversations.sessions,
        row.messageCount = s.shared.conversations.sessionMessages.countP
          fun message => message.sessionId == row.sessionId := by
  let empty : Pool Event World := ⟨false, slowWorld, []⟩
  -- two sessions, a message of the first one, a prune, and messages of the second one
  let turns : List (SessionCall ⊕ Nat) :=
    [.inl (.inbound (referenceMessage "7" "7" "hi") "local"), .inr 0, .inr 0, .inr 0,
      .inl (.record "session-0" "telegram" "user" "7" "hi" ""), .inr 1, .inr 1,
      .inl (.inbound (referenceMessage "8" "8" "hi") "local"), .inr 2, .inr 2, .inr 2,
      .inr 1, .inr 1, .inr 1,
      .inl (.prune ⟨1, false⟩), .inr 3,
      .inl (.record "session-2" "telegram" "user" "8" "hi" ""), .inr 4, .inr 4,
      .inl (.record "session-2" "telegram" "assistant" "8" "hello" ""), .inr 5, .inr 5,
      .inr 4, .inr 4, .inr 4, .inr 3, .inr 3, .inr 3, .inr 5, .inr 5, .inr 5]
  have hplay : (Pool.playWhile referenceSessionThread (fun s _ _ => unclaimed s) turns empty).any
      (fun played => played.2.shared.conversations.sessions.map
        (fun row => (row.sessionId, row.messageCount)) == [("session-2", 2)]) = true := by
    decide
  obtain ⟨⟨moves, s⟩, hplayed, hone⟩ := Option.any_eq_true _ _ |>.mp hplay
  let system : System (Pool Event World) (Move SessionCall Event) :=
    @StateStore.threads referenceExternals referenceRuntime.config fun s _ => s.shared.Regular
  have hinit : system.init empty := ⟨rfl, rfl, rfl⟩
  have hstart : Faultless empty := ⟨rfl, fun p hp => absurd hp List.not_mem_nil⟩
  have hrun : system.Run empty moves s := by
    refine Pool.run_of_playWhile hplayed hstart fun s move s' hs hstep htest =>
      ⟨hs.regular htest, ?_⟩
    exact hs.step (@SessionCall.acts_thread_sameRefusals referenceExternals _) hstep
  exact ⟨s, beq_iff_eq.mp hone,
    @messages_counted referenceExternals referenceRuntime.config s ⟨empty, moves, hinit, hrun⟩⟩

end OpenPinch
