import OpenPinch.Engine.Calls
import OpenPinch.Engine.Sessions

/-!
# Recording an outbound message

The engine records a message that was sent.  This fails when the request names a
session that is not there, when a new identifier is taken, and when the database
refuses one of the statements (`recordOutboundMessage_returns_iff`).  How many
statements there are depends on how the session is found.

Alone, an operation on the conversations is one statement on them.  Whether a
statement returns is decided from its front.
-/

namespace OpenPinch

open Lib (Op Prog Table.insert)
open Lib.Op (after result)

/-! ## Statements that return -/

namespace Stmt

variable {τ α β : Type} {s : Surroundings × τ}

/-- The statement returns a value. -/
def Succeeds (m : Stmt τ α) (s : Surroundings × τ) : Prop := ∃ a, result m s = .ok a

@[simp] theorem succeeds_pure (a : α) : (Pure.pure a : Stmt τ α).Succeeds s := ⟨a, rfl⟩

@[simp] theorem succeeds_fail (message : String) :
    (fail message : Stmt τ α).Succeeds s ↔ False := by
  constructor
  · rintro ⟨a, h⟩
    cases h
  · exact False.elim

theorem succeeds_now_bind {f : Instant → Stmt τ β} :
    (now >>= f).Succeeds s ↔
      (f (s.1.clock s.1.ticks)).Succeeds ({ s.1 with ticks := s.1.ticks + 1 }, s.2) :=
  Iff.rfl

theorem succeeds_newUuid_bind {f : String → Stmt τ β} :
    (newUuid >>= f).Succeeds s ↔
      (f (s.1.uuid s.1.uuids)).Succeeds ({ s.1 with uuids := s.1.uuids + 1 }, s.2) :=
  Iff.rfl

theorem succeeds_sql_bind {f : τ → Except String (α × τ)} {k : α → Stmt τ β} :
    (sql f >>= k).Succeeds s ↔
      s.1.refuses s.1.statements = false ∧
        ∃ found, f s.2 = .ok found ∧ (k found.1).Succeeds (sent s.1, found.2) := by
  unfold Succeeds
  rw [result_bind]
  simp only [result, after, sql, sent]
  cases s.1.refuses s.1.statements with
  | true => simp
  | false => cases f s.2 <;> simp

theorem succeeds_select_bind {f : τ → α} {k : α → Stmt τ β} :
    (select f >>= k).Succeeds s ↔
      s.1.refuses s.1.statements = false ∧ (k (f s.2)).Succeeds (sent s.1, s.2) := by
  rw [select, succeeds_sql_bind]
  simp

theorem succeeds_execute_bind {f : τ → τ} {k : Unit → Stmt τ β} :
    (execute f >>= k).Succeeds s ↔
      s.1.refuses s.1.statements = false ∧ (k ()).Succeeds (sent s.1, f s.2) := by
  rw [execute, succeeds_sql_bind]
  simp

theorem succeeds_insert_bind {f : τ → Option τ} {k : Unit → Stmt τ β} :
    (insert f >>= k).Succeeds s ↔
      s.1.refuses s.1.statements = false ∧
        ∃ t, f s.2 = some t ∧ (k ()).Succeeds (sent s.1, t) := by
  rw [insert, succeeds_sql_bind]
  cases f s.2 <;> simp

/-- An insertion into one table goes on when the row clashes with none there. -/
theorem exists_inserted {ρ : Type} {clash : ρ → Bool} {row : ρ} {rows : List ρ}
    {put : List ρ → τ} {p : τ → Prop} :
    (∃ t, (Table.insert clash row rows).map put = some t ∧ p t) ↔
      (∀ other ∈ rows, clash other = false) ∧ p (put (rows ++ [row])) := by
  constructor
  · rintro ⟨t, ht, hp⟩
    obtain ⟨rows', hrows, rfl⟩ := Option.map_eq_some_iff.mp ht
    obtain ⟨hfree, rfl⟩ := Lib.Table.insert_eq_some.mp hrows
    exact ⟨hfree, hp⟩
  · rintro ⟨hfree, hp⟩
    exact ⟨_, Option.map_eq_some_iff.mpr ⟨_, Lib.Table.insert_eq_some.mpr ⟨hfree, rfl⟩, rfl⟩, hp⟩

end Stmt

/-! ## Refused statements -/

namespace Surroundings

/-- Some of the next statements is refused. -/
def RefusesNext (around : Surroundings) (count : Nat) : Prop :=
  ∃ i < count, around.refuses (around.statements + i) = true

@[simp] theorem refusesNext_zero (around : Surroundings) :
    around.RefusesNext 0 ↔ False := by
  simp [RefusesNext]

theorem refusesNext_succ (around : Surroundings) (count : Nat) :
    around.RefusesNext (count + 1) ↔
      around.refuses around.statements = true ∨ (Stmt.sent around).RefusesNext count := by
  constructor
  · rintro ⟨i, hi, hrefused⟩
    cases i with
    | zero => exact Or.inl hrefused
    | succ i =>
        refine Or.inr ⟨i, by omega, ?_⟩
        rw [show (Stmt.sent around).statements + i = around.statements + (i + 1) by
          simp only [Stmt.sent]
          omega]
        exact hrefused
  · rintro (hrefused | ⟨i, hi, hrefused⟩)
    · exact ⟨0, by omega, hrefused⟩
    · refine ⟨i + 1, by omega, ?_⟩
      rw [show (Stmt.sent around).statements + i = around.statements + (i + 1) by
        simp only [Stmt.sent]
        omega] at hrefused
      exact hrefused

end Surroundings

/-! ## Operations as statements -/

namespace EngineOp

variable {α β : Type}

/-- Alone, the operation does what the statement does. -/
def RunsAs (op : EngineOp α) (m : Stmt Conversations α) : Prop :=
  ∀ w, Prog.eval op w = (result (View.conversations.run m) w, after (View.conversations.run m) w)

theorem runsAs_guarded (m : Stmt Conversations α) : RunsAs (guarded .conversations m) m :=
  fun _ => rfl

theorem runsAs_pure (a : α) : RunsAs (pure a) (pure a) := fun _ => rfl

theorem runsAs_now : RunsAs now Stmt.now := fun _ => rfl

theorem runsAs_newUuid : RunsAs newUuid Stmt.newUuid := fun _ => rfl

theorem runsAs_bind {op : EngineOp α} {m : Stmt Conversations α} {f : α → EngineOp β}
    {g : α → Stmt Conversations β} (hop : op.RunsAs m) (hf : ∀ a, (f a).RunsAs (g a)) :
    RunsAs (op >>= f) (m >>= g) := by
  intro w
  have hbind : (m >>= g) = EStateM.bind m g := rfl
  rw [Lib.Op.eval_bind, hop w]
  simp only [result, after, View.run, hbind, EStateM.bind]
  cases m (w.around, View.conversations.get w) with
  | ok a s => exact hf a _
  | error e s => rfl

/-- The operation returns when the statement does. -/
theorem RunsAs.returns_iff {op : EngineOp α} {m : Stmt Conversations α} (h : op.RunsAs m)
    (w : World) :
    (∃ a, (Prog.eval op w).1 = .ok a) ↔ m.Succeeds (w.around, w.conversations) := by
  rw [h w]
  unfold Stmt.Succeeds
  rw [View.result_run]
  rfl

end EngineOp

/-! ## The statements of a recording -/

variable [Externals]

/-- The newest session of the channel that is not archived. -/
def channelSession (request : OutboundMessage) (t : Conversations) : Option SessionRow :=
  (Lib.Table.descending (fun row => stamp row.updatedAt) (t.sessions.filter fun row =>
    row.connector == request.connector && row.channelId == request.channelId &&
      !row.archived)).head?

/-- Who a session that is opened for the message is with. -/
def outboundParticipant (request : OutboundMessage) : String :=
  if request.sender = "" then request.channelId else request.sender

/-- The message as it is recorded. -/
def outboundRow (request : OutboundMessage) (sessionId uuid : String) (now : Instant) :
    SessionMessageRow :=
  ⟨s!"session-message-{uuid}", sessionId, request.connector, "assistant",
    if request.sender = "" then "openpinch" else request.sender, request.body,
    request.metadataJson, now⟩

def outboundMessageStmt (request : OutboundMessage) (sessionId : String) :
    Stmt Conversations String := do
  let uuid ← Stmt.newUuid
  let now ← Stmt.now
  StateStore.recordSessionMessageStmt (outboundRow request sessionId uuid now)
    (truncateWithEllipsis request.body 120)

/-- The message is recorded in the session. -/
def recordInStmt (request : OutboundMessage) (session : SessionRecord) :
    Stmt Conversations OutboundMessageResult := do
  let messageId ← outboundMessageStmt request session.id
  return ⟨true, messageId, session.id, "sent", "outbound message recorded"⟩

def outboundSessionStmt (runtime : EngineRuntime) (request : OutboundMessage) :
    Stmt Conversations SessionRecord :=
  if request.sessionId = "" then do
    let found ← Stmt.select (channelSession request)
    match found with
    | some row => return sessionRecordFromRow row
    | none =>
        StateStore.resolveSessionStmt request.connector request.channelId
          (outboundParticipant request) "direct" runtime.config
          runtime.config.modelFailover.defaultProfile
  else do
    let found ← Stmt.select fun t => t.sessions.find? (·.sessionId == request.sessionId)
    match found with
    | some row => return sessionRecordFromRow row
    | none => Stmt.fail s!"session {request.sessionId} not found"

def recordOutboundStmt (runtime : EngineRuntime) (request : OutboundMessage) :
    Stmt Conversations OutboundMessageResult :=
  outboundSessionStmt runtime request >>= recordInStmt request

section

open EngineOp (RunsAs runsAs_guarded runsAs_pure runsAs_now runsAs_newUuid runsAs_bind)

theorem runsAs_outboundSession (runtime : EngineRuntime) (request : OutboundMessage) :
    (runtime.outboundSession request).RunsAs (outboundSessionStmt runtime request) := by
  unfold EngineRuntime.outboundSession outboundSessionStmt
  split
  · refine runsAs_bind (runsAs_guarded (Stmt.select (channelSession request))) fun found => ?_
    cases found with
    | some row => exact runsAs_pure _
    | none => exact runsAs_guarded _
  · exact runsAs_guarded _

theorem runsAs_recordOutboundMessage (runtime : EngineRuntime) (request : OutboundMessage) :
    (runtime.recordOutboundMessage request).RunsAs (recordOutboundStmt runtime request) := by
  refine runsAs_bind (runsAs_outboundSession runtime request) fun session => ?_
  rw [StateStore.recordSessionMessage_eq]
  refine runsAs_bind (runsAs_bind runsAs_newUuid fun uuid => runsAs_bind runsAs_now fun now => ?_)
    fun messageId => runsAs_pure _
  exact runsAs_guarded _

end

/-! ## When a recording fails -/

/-- A message has the identifier. -/
def Conversations.HasMessage (t : Conversations) (messageId : String) : Prop :=
  ∃ row ∈ t.sessionMessages, row.messageId = messageId

/-- Whether the message opens a session. -/
def opensSession (request : OutboundMessage) (t : Conversations) : Bool :=
  request.sessionId == "" && (channelSession request t).isNone &&
    (t.sessions.find? fun row => row.isAt request.connector request.channelId
      (outboundParticipant request)).isNone

/-- The number of statements that find or open the session. -/
def sessionStatements (request : OutboundMessage) (t : Conversations) : Nat :=
  if request.sessionId ≠ "" ∨ (channelSession request t).isSome then 1
  else if opensSession request t then 3 else 2

/-- The number of the identifier that the message gets. -/
def messageUuid (request : OutboundMessage) (around : Surroundings) (t : Conversations) : Nat :=
  around.uuids + if opensSession request t then 1 else 0

/-- The recording fails: the session it names is not there, a statement is refused,
or a new identifier is taken. -/
def RecordingFails (request : OutboundMessage) (around : Surroundings) (t : Conversations) : Prop :=
  (request.sessionId ≠ "" ∧ ¬ t.HasSession request.sessionId) ∨
    around.RefusesNext (sessionStatements request t + 2) ∨
    (opensSession request t = true ∧ t.HasSession around.nextSessionId) ∨
    t.HasMessage s!"session-message-{around.uuid (messageUuid request around t)}"

omit [Externals] in
/-- What is left once the session is found: two statements, of which the first needs
a new identifier. -/
theorem recordInStmt_succeeds (request : OutboundMessage) (session : SessionRecord)
    (s : Surroundings × Conversations) :
    (recordInStmt request session).Succeeds s ↔
      ¬ s.1.RefusesNext 2 ∧ ¬ s.2.HasMessage s!"session-message-{s.1.uuid s.1.uuids}" := by
  have hfree : (∀ other ∈ s.2.sessionMessages,
      (other.messageId == s!"session-message-{s.1.uuid s.1.uuids}") = false) ↔
        ¬ s.2.HasMessage s!"session-message-{s.1.uuid s.1.uuids}" := by
    simp [Conversations.HasMessage]
  simp only [recordInStmt, outboundMessageStmt, StateStore.recordSessionMessageStmt, bind_assoc,
    pure_bind, Stmt.succeeds_newUuid_bind, Stmt.succeeds_now_bind, Stmt.succeeds_insert_bind,
    Stmt.succeeds_execute_bind, Stmt.succeeds_pure, Stmt.exists_inserted,
    Surroundings.refusesNext_succ, Surroundings.refusesNext_zero]
  rw [outboundRow, hfree, not_or, not_or]
  simp only [Stmt.sent, Bool.not_eq_true, and_true, not_false_eq_true]
  constructor
  · rintro ⟨hfirst, hnew, hsecond⟩
    exact ⟨⟨hfirst, hsecond⟩, hnew⟩
  · rintro ⟨⟨hfirst, hsecond⟩, hnew⟩
    exact ⟨hfirst, hnew, hsecond⟩

omit [Externals] in
/-- Where no session is at the place, one clashes only by its identifier. -/
theorem free_iff_of_unknown {t : Conversations} {connector channelId participant id : String}
    (hknown : t.sessions.find? (fun row => row.isAt connector channelId participant) = none) :
    (∀ other ∈ t.sessions, (other.sessionId == id ||
      other.isAt connector channelId participant) = false) ↔ ¬ t.HasSession id := by
  constructor
  · rintro hfree ⟨row, hrow, hsame⟩
    simpa [hsame] using hfree row hrow
  · intro hnew other hother
    have hplace := List.find?_eq_none.mp hknown other hother
    have hother : other.sessionId ≠ id := fun hsame => hnew ⟨other, hother, hsame⟩
    simp [hplace, hother]

theorem recordOutboundStmt_succeeds (runtime : EngineRuntime)
    (request : OutboundMessage) (s : Surroundings × Conversations) :
    (recordOutboundStmt runtime request).Succeeds s ↔ ¬ RecordingFails request s.1 s.2 := by
  unfold recordOutboundStmt outboundSessionStmt RecordingFails
  by_cases hchannel : request.sessionId = ""
  · rw [if_pos hchannel, bind_assoc, Stmt.succeeds_select_bind]
    cases hlatest : channelSession request s.2 with
    | some row =>
        rw [pure_bind, recordInStmt_succeeds]
        simp [sessionStatements, messageUuid, opensSession, hchannel, hlatest, and_assoc,
          Surroundings.refusesNext_succ, Stmt.sent]
    | none =>
        simp only
        rw [StateStore.resolveSessionStmt, bind_assoc, Stmt.succeeds_select_bind]
        cases hknown : s.2.sessions.find? fun row => row.isAt request.connector
            request.channelId (outboundParticipant request) with
        | some row =>
            rw [pure_bind, recordInStmt_succeeds]
            simp [sessionStatements, messageUuid, opensSession, hchannel, hlatest, hknown,
              and_assoc, Surroundings.refusesNext_succ, Stmt.sent]
        | none =>
            simp only [bind_assoc, Stmt.succeeds_now_bind, Stmt.succeeds_newUuid_bind,
              Stmt.succeeds_insert_bind, Stmt.exists_inserted, pure_bind, recordInStmt_succeeds]
            rw [free_iff_of_unknown hknown]
            simp [sessionStatements, messageUuid, opensSession, hchannel, hlatest, hknown,
              and_assoc, Surroundings.refusesNext_succ, Stmt.sent]
            intro _ _ _
            constructor
            · rintro ⟨hnew, hfourth, hfifth, hmessage⟩
              exact ⟨hfourth, hfifth, hnew, hmessage⟩
            · rintro ⟨hfourth, hfifth, hnew, hmessage⟩
              exact ⟨hnew, hfourth, hfifth, hmessage⟩
  · rw [if_neg hchannel, bind_assoc, Stmt.succeeds_select_bind]
    cases hnamed : s.2.sessions.find? (·.sessionId == request.sessionId) with
    | some row =>
        rw [pure_bind, recordInStmt_succeeds]
        have hthere : s.2.HasSession request.sessionId :=
          ⟨row, List.mem_of_find?_eq_some hnamed, by simpa using List.find?_some hnamed⟩
        simp [sessionStatements, messageUuid, opensSession, hchannel, hthere, and_assoc,
          Surroundings.refusesNext_succ, Stmt.sent]
    | none =>
        have hgone : ¬ s.2.HasSession request.sessionId := by
          rintro ⟨row, hrow, hsame⟩
          simpa [hsame] using List.find?_eq_none.mp hnamed row hrow
        rw [show Stmt.fail s!"session {request.sessionId} not found" >>= recordInStmt request =
          Stmt.fail s!"session {request.sessionId} not found" from rfl]
        simp [hchannel, hgone]

/-- The call returns unless its recording fails. -/
theorem recordOutboundMessage_returns_iff (runtime : EngineRuntime) (request : OutboundMessage)
    (w : World) :
    (∃ recorded, (Prog.eval (runtime.recordOutboundMessage request) w).1 = .ok recorded) ↔
      ¬ RecordingFails request w.around w.conversations :=
  ((runsAs_recordOutboundMessage runtime request).returns_iff w).trans
    (recordOutboundStmt_succeeds runtime request (w.around, w.conversations))

end OpenPinch
