import OpenPinch.Engine.StoreRules

/-!
# What happens to sessions and their messages

`SessionStep` lists what an acquisition of the connection can do to the tables
of sessions and of their messages.  Each statement of the store takes such a
step (`Stmt.Steps`), and the facts about sessions are preserved by the steps.
-/

namespace OpenPinch

open Lib (Op Table.updateWhere Table.deleteWhere Table.insert Table.mem_updateWhere
  Table.mem_deleteWhere Table.map_updateWhere)
open Lib.Op (after)

/-! ## Steps -/

/-- The update sets flags that no fact here is about. -/
structure Flags (change : SessionRow → SessionRow) : Prop where
  sessionId : ∀ row, (change row).sessionId = row.sessionId
  messageCount : ∀ row, (change row).messageCount = row.messageCount
  archived : ∀ row, (change row).archived = row.archived
  status : ∀ row, (change row).status = row.status

/-- The update counts one more message, and makes the session active. -/
structure Counts (change : SessionRow → SessionRow) : Prop where
  sessionId : ∀ row, (change row).sessionId = row.sessionId
  messageCount : ∀ row, (change row).messageCount = row.messageCount + 1
  archived : ∀ row, (change row).archived = row.archived
  status : ∀ row, (change row).status = "active"

/-- The update archives the session. -/
structure Archives (change : SessionRow → SessionRow) : Prop where
  sessionId : ∀ row, (change row).sessionId = row.sessionId
  messageCount : ∀ row, (change row).messageCount = row.messageCount
  archived : ∀ row, (change row).archived = true
  status : ∀ row, (change row).status = "archived"

/-- A session as it is inserted. -/
structure Blank (row : SessionRow) : Prop where
  messageCount : row.messageCount = 0
  archived : row.archived = false
  status : row.status = "active"

/-- The identifier of the session that is inserted next. -/
def Surroundings.nextSessionId (around : Surroundings) : String :=
  s!"session-{around.uuid around.uuids}"

/-- The database refuses some statement. -/
def Surroundings.Faulty (around : Surroundings) : Prop := ∃ n, around.refuses n = true

/-- The session of the message is old. -/
def inOldSession (sessions : List SessionRow) (old : SessionRow → Bool)
    (message : SessionMessageRow) : Bool :=
  sessions.any fun row => row.sessionId == message.sessionId && old row

/-- What an acquisition of the connection can do to sessions and their messages.
A session that is opened has the next identifier.  Of two statements the second
may be refused when the database is faulty. -/
inductive SessionStep (records : String → Prop) (next : String) (faulty : Prop)
    (t t' : Conversations) : Prop where
  | same (sessions : t'.sessions = t.sessions) (messages : t'.sessionMessages = t.sessionMessages)
  | flagged (test : SessionRow → Bool) {change : SessionRow → SessionRow} (flags : Flags change)
      (sessions : t'.sessions = Table.updateWhere test change t.sessions)
      (messages : t'.sessionMessages = t.sessionMessages)
  | opened {row : SessionRow} (blank : Blank row) (drawn : row.sessionId = next)
      (unused : ∀ other ∈ t.sessions, other.sessionId ≠ row.sessionId)
      (sessions : t'.sessions = t.sessions ++ [row])
      (messages : t'.sessionMessages = t.sessionMessages)
  | recorded {message : SessionMessageRow} {change : SessionRow → SessionRow}
      (target : records message.sessionId) (counts : Counts change)
      (sessions : t'.sessions =
        Table.updateWhere (·.sessionId == message.sessionId) change t.sessions)
      (messages : t'.sessionMessages = t.sessionMessages ++ [message])
  | uncounted {message : SessionMessageRow} (target : records message.sessionId)
      (refused : faulty) (sessions : t'.sessions = t.sessions)
      (messages : t'.sessionMessages = t.sessionMessages ++ [message])
  | archived (test : SessionRow → Bool) {change : SessionRow → SessionRow}
      (archives : Archives change)
      (sessions : t'.sessions = Table.updateWhere test change t.sessions)
      (messages : t'.sessionMessages = t.sessionMessages)
  | deleted (old : SessionRow → Bool) (sessions : t'.sessions = Table.deleteWhere old t.sessions)
      (messages : t'.sessionMessages =
        Table.deleteWhere (inOldSession t.sessions old) t.sessionMessages)
  | emptied (old : SessionRow → Bool) (refused : faulty)
      (sessions : t'.sessions = t.sessions)
      (messages : t'.sessionMessages =
        Table.deleteWhere (inOldSession t.sessions old) t.sessionMessages)

/-- The same sessions and messages. -/
structure SameChats (t t' : Conversations) : Prop where
  sessions : t'.sessions = t.sessions
  messages : t'.sessionMessages = t.sessionMessages

namespace SameChats

theorem refl (t : Conversations) : SameChats t t := ⟨rfl, rfl⟩

theorem trans (t t' t'' : Conversations) (h : SameChats t t') (h' : SameChats t' t'') :
    SameChats t t'' :=
  ⟨h'.sessions.trans h.sessions, h'.messages.trans h.messages⟩

end SameChats

namespace SessionStep

variable {records : String → Prop} {next : String} {faulty : Prop} {t t' t'' : Conversations}

theorem of_same (h : SameChats t t') : SessionStep records next faulty t t' :=
  .same h.sessions h.messages

/-- Nothing that happens to other tables before the step matters. -/
theorem of_same_before (h : SameChats t t') (hstep : SessionStep records next faulty t' t'') :
    SessionStep records next faulty t t'' := by
  obtain ⟨hsessions, hmessages⟩ := h
  cases hstep with
  | same sessions messages =>
      exact .same (sessions.trans hsessions) (messages.trans hmessages)
  | flagged test flags sessions messages =>
      exact .flagged test flags (hsessions ▸ sessions) (messages.trans hmessages)
  | opened blank drawn unused sessions messages =>
      exact .opened blank drawn (hsessions ▸ unused) (hsessions ▸ sessions)
        (messages.trans hmessages)
  | recorded target counts sessions messages =>
      exact .recorded target counts (hsessions ▸ sessions) (hmessages ▸ messages)
  | uncounted target refused sessions messages =>
      exact .uncounted target refused (sessions.trans hsessions) (hmessages ▸ messages)
  | archived test archives sessions messages =>
      exact .archived test archives (hsessions ▸ sessions) (messages.trans hmessages)
  | deleted old sessions messages =>
      exact .deleted old (hsessions ▸ sessions) (hsessions ▸ hmessages ▸ messages)
  | emptied old refused sessions messages =>
      exact .emptied old refused (sessions.trans hsessions) (hsessions ▸ hmessages ▸ messages)

end SessionStep

/-! ## Statements -/

/-- The statement takes a step. -/
def Stmt.Steps {α : Type} (records : String → Prop) (m : Stmt Conversations α) : Prop :=
  ∀ s, SessionStep records s.1.nextSessionId s.1.Faulty s.2 (after m s).2

theorem Stmt.Respects.steps {α : Type} {records : String → Prop} {m : Stmt Conversations α}
    (h : m.Respects SameChats) : m.Steps records :=
  fun s => .of_same (h s)

namespace StateStore

open Stmt (Steps after_select_bind after_execute_bind after_insert_bind after_now_bind)

variable [Externals] {records : String → Prop}

omit [Externals] in
/-- The insertion of a new session. -/
theorem step_openSession (session : SessionRecord) {clash : SessionRow → Bool} {next : String}
    {faulty : Prop} (hblank : Blank session.row) (hdrawn : session.row.sessionId = next)
    (hclash : ∀ row, row.sessionId = session.row.sessionId → clash row = true)
    (s : Surroundings × Conversations) :
    SessionStep records next faulty s.2 (after (do
      Stmt.insert fun t => (Table.insert clash session.row t.sessions).map fun rows =>
        { t with sessions := rows }
      return session : Stmt Conversations SessionRecord) s).2 := by
  rw [after_insert_bind]
  split
  · exact .same rfl rfl
  · cases hrows : Table.insert clash session.row s.2.sessions with
    | none => exact .same rfl rfl
    | some rows =>
        obtain ⟨hfree, rfl⟩ := Lib.Table.insert_eq_some.mp hrows
        refine .opened hblank hdrawn (fun other hother hsame => ?_) rfl rfl
        have hfound := hfree other hother
        rw [hclash other hsame] at hfound
        cases hfound

omit [Externals] in
theorem steps_resolveSessionStmt (connectorName channelId participant sessionType : String)
    (config : AppConfig) (defaultModelProfile : String) :
    (resolveSessionStmt connectorName channelId participant sessionType config
      defaultModelProfile).Steps records := by
  intro s
  rw [resolveSessionStmt, after_select_bind]
  split
  · exact .same rfl rfl
  · cases s.2.sessions.find? fun row => row.isAt connectorName channelId participant with
    | some row => exact .same rfl rfl
    | none =>
        let session := newSession config connectorName channelId participant sessionType
          defaultModelProfile (s.1.uuid s.1.uuids) (s.1.clock s.1.ticks)
        let around : Surroundings :=
          { Stmt.sent s.1 with ticks := s.1.ticks + 1, uuids := s.1.uuids + 1 }
        have hclash : ∀ row : SessionRow, row.sessionId = session.id →
            (row.sessionId == session.id || row.isAt connectorName channelId participant) =
              true := by
          intro row hsame
          simp [hsame]
        exact step_openSession session ⟨rfl, rfl, rfl⟩ rfl hclash (around, s.2)

/-- The session counts the message. -/
def countMessage (preview : String) (now : Instant) (session : SessionRow) : SessionRow :=
  { session with
    lastMessagePreview := preview
    messageCount := session.messageCount + 1
    status := "active"
    updatedAt := now }

omit [Externals] in
theorem counts_countMessage (preview : String) (now : Instant) :
    Counts (countMessage preview now) :=
  ⟨fun _ => rfl, fun _ => rfl, fun _ => rfl, fun _ => rfl⟩

/-- The body of `record_session_message` under the lock. -/
def recordSessionMessageStmt (row : SessionMessageRow) (preview : String) :
    Stmt Conversations String := do
  Stmt.insert fun t =>
    (Table.insert (·.messageId == row.messageId) row t.sessionMessages).map fun rows =>
      { t with sessionMessages := rows }
  Stmt.execute fun t =>
    let counted := Table.updateWhere (·.sessionId == row.sessionId)
      (countMessage preview row.createdAt) t.sessions
    { t with sessions := counted }
  return row.messageId

omit [Externals] in
theorem recordSessionMessage_eq (sessionId connector role sender body metadataJson : String) :
    recordSessionMessage sessionId connector role sender body metadataJson = (do
      let uuid ← EngineOp.newUuid
      let now ← EngineOp.now
      EngineOp.guarded .conversations (recordSessionMessageStmt
        ⟨s!"session-message-{uuid}", sessionId, connector, role, sender, body, metadataJson, now⟩
        (truncateWithEllipsis body 120))) :=
  rfl

omit [Externals] in
theorem steps_recordSessionMessageStmt {row : SessionMessageRow} (target : records row.sessionId)
    (preview : String) : (recordSessionMessageStmt row preview).Steps records := by
  intro s
  rw [recordSessionMessageStmt, after_insert_bind]
  split
  · exact .same rfl rfl
  · cases hrows : Table.insert (·.messageId == row.messageId) row s.2.sessionMessages with
    | none => exact .same rfl rfl
    | some rows =>
        obtain ⟨-, rfl⟩ := Lib.Table.insert_eq_some.mp hrows
        simp only [Option.map_some]
        rw [after_execute_bind]
        split
        · rename_i hrefused
          exact .uncounted target ⟨_, hrefused⟩ rfl rfl
        · exact .recorded target (counts_countMessage preview row.createdAt) rfl rfl

omit [Externals] in
theorem flags_setPendingPairing (value : Bool) (now : Instant) :
    Flags fun row => { row with pendingPairing := value, updatedAt := now } :=
  ⟨fun _ => rfl, fun _ => rfl, fun _ => rfl, fun _ => rfl⟩

omit [Externals] in
theorem steps_setPendingPairing (sessionId : String) (value : Bool) (now : Instant) :
    (Stmt.execute (setPendingPairing sessionId value now)).Steps records := by
  intro s
  rw [Stmt.execute, Stmt.after_sql]
  split
  · exact .same rfl rfl
  · exact .flagged _ (flags_setPendingPairing value now) rfl rfl

omit [Externals] in
/-- Of the statements of `update_pairing` the last one sets the flag of a session. -/
theorem steps_updatePairingRest (pairingId status : String) :
    (updatePairingRest pairingId status).Steps records := by
  intro s
  rw [updatePairingRest, after_select_bind]
  split
  · exact .same rfl rfl
  · cases s.2.pairings.find? fun row => row.pairingId == pairingId with
    | none => exact .same rfl rfl
    | some row =>
        show SessionStep records _ _ s.2 (after (Stmt.execute _ >>= fun _ => pure _) _).2
        rw [after_execute_bind]
        split
        · exact .same rfl rfl
        · exact .flagged _ (flags_setPendingPairing (status == "pending") _) rfl rfl

omit [Externals] in
theorem steps_updatePairingStmt (pairingId status note : String) (now : Instant) :
    (updatePairingStmt pairingId status note now).Steps records := by
  intro s
  rw [updatePairingStmt, after_execute_bind]
  split
  · exact .same rfl rfl
  · let change (row : PairingRow) : PairingRow :=
      { row with status := status, note := note, updatedAt := now }
    let pairings := Table.updateWhere (·.pairingId == pairingId) change s.2.pairings
    have hsame : SameChats s.2 { s.2 with pairings := pairings } := ⟨rfl, rfl⟩
    exact .of_same_before hsame (steps_updatePairingRest pairingId status
      (Stmt.sent s.1, { s.2 with pairings := pairings }))

/-- The session is archived. -/
def archiveSession (now : Instant) (row : SessionRow) : SessionRow :=
  { row with status := "archived", archived := true, updatedAt := now }

omit [Externals] in
theorem archives_archiveSession (now : Instant) : Archives (archiveSession now) :=
  ⟨fun _ => rfl, fun _ => rfl, fun _ => rfl, fun _ => rfl⟩

theorem steps_archiveSessionsStmt (threshold : Instant) :
    (archiveSessionsStmt threshold).Steps records := by
  intro s
  rw [archiveSessionsStmt, after_now_bind, Stmt.after_sql]
  split
  · exact .same rfl rfl
  · exact .archived (fun row => isOlder threshold row && row.status != "archived")
      (archives_archiveSession (s.1.clock s.1.ticks)) rfl rfl

theorem steps_deleteSessionsStmt (threshold : Instant) :
    (deleteSessionsStmt threshold).Steps records := by
  intro s
  rw [deleteSessionsStmt, after_execute_bind]
  split
  · exact .same rfl rfl
  · rw [Stmt.after_sql]
    split
    · rename_i hrefused
      exact .emptied (isOlder threshold) ⟨_, hrefused⟩ rfl rfl
    · exact .deleted (isOlder threshold) rfl rfl

end StateStore

/-! ## Facts about sessions -/

namespace Conversations

/-- The flag of a session agrees with its status. -/
def FlagsAgree (t : Conversations) : Prop :=
  ∀ row ∈ t.sessions, row.archived = true ↔ row.status = "archived"

/-- Each session counts its messages. -/
structure Counted (t : Conversations) : Prop where
  ids : (t.sessions.map SessionRow.sessionId).Nodup
  counts : ∀ row ∈ t.sessions,
    row.messageCount = t.sessionMessages.countP fun message => message.sessionId == row.sessionId

/-- There is a session of the identifier. -/
def HasSession (t : Conversations) (sessionId : String) : Prop :=
  ∃ row ∈ t.sessions, row.sessionId = sessionId

/-- Each message has its session. -/
def Owned (t : Conversations) : Prop :=
  ∀ message ∈ t.sessionMessages, t.HasSession message.sessionId

end Conversations

/-- An update keeps what it keeps of each row. -/
theorem forall_updateWhere {P : SessionRow → Prop} {test : SessionRow → Bool}
    {change : SessionRow → SessionRow} {rows : List SessionRow} (h : ∀ row ∈ rows, P row)
    (hchange : ∀ row ∈ rows, test row = true → P row → P (change row)) :
    ∀ row ∈ Table.updateWhere test change rows, P row := by
  intro row hrow
  obtain ⟨old, hold, rfl⟩ := Table.mem_updateWhere.mp hrow
  split
  · rename_i htest
    exact hchange old hold htest (h old hold)
  · exact h old hold

namespace SessionStep

variable {records : String → Prop} {next : String} {faulty : Prop} {t t' : Conversations}

/-- A step that records no message in an archived session keeps the agreement. -/
theorem flagsAgree (h : SessionStep records next faulty t t')
    (hrecords : ∀ row ∈ t.sessions, records row.sessionId → row.archived = false)
    (ht : t.FlagsAgree) : t'.FlagsAgree := by
  cases h with
  | same sessions messages =>
      rw [Conversations.FlagsAgree, sessions]
      exact ht
  | flagged test flags sessions messages =>
      rw [Conversations.FlagsAgree, sessions]
      refine forall_updateWhere ht fun row _ _ hrow => ?_
      rw [flags.archived, flags.status]
      exact hrow
  | @opened row blank drawn unused sessions messages =>
      rw [Conversations.FlagsAgree, sessions]
      intro other hother
      rcases List.mem_append.mp hother with hold | hnew
      · exact ht other hold
      · rw [List.mem_singleton.mp hnew, blank.archived, blank.status]
        simp
  | @recorded message change target counts sessions messages =>
      rw [Conversations.FlagsAgree, sessions]
      refine forall_updateWhere ht fun row hrow htest _ => ?_
      have hid : row.sessionId = message.sessionId := by simpa using htest
      rw [counts.archived, counts.status, hrecords row hrow (hid ▸ target)]
      simp
  | uncounted target refused sessions messages =>
      rw [Conversations.FlagsAgree, sessions]
      exact ht
  | archived test archives sessions messages =>
      rw [Conversations.FlagsAgree, sessions]
      refine forall_updateWhere ht fun row _ _ _ => ?_
      rw [archives.archived, archives.status]
      simp
  | deleted old sessions messages =>
      rw [Conversations.FlagsAgree, sessions]
      exact fun row hrow => ht row (Table.mem_deleteWhere.mp hrow).1
  | emptied old refused sessions messages =>
      rw [Conversations.FlagsAgree, sessions]
      exact ht

/-- Without refusals, and when no message is of the next session, the counts
stay exact. -/
theorem counted (h : SessionStep records next faulty t t') (hsound : ¬ faulty)
    (hfresh : ∀ message ∈ t.sessionMessages, message.sessionId ≠ next) (ht : t.Counted) :
    t'.Counted := by
  cases h with
  | same sessions messages =>
      constructor
      · rw [sessions]
        exact ht.ids
      · rw [sessions, messages]
        exact ht.counts
  | flagged test flags sessions messages =>
      constructor
      · rw [sessions, Table.map_updateWhere flags.sessionId]
        exact ht.ids
      · rw [sessions, messages]
        refine forall_updateWhere ht.counts fun row _ _ hrow => ?_
        rw [flags.messageCount, flags.sessionId]
        exact hrow
  | @opened row blank drawn unused sessions messages =>
      constructor
      · rw [sessions, List.map_append, List.nodup_append]
        refine ⟨ht.ids, List.nodup_singleton _, ?_⟩
        intro id hid other hother
        obtain ⟨old, hold, rfl⟩ := List.mem_map.mp hid
        rw [List.mem_singleton.mp hother]
        exact unused old hold
      · rw [sessions, messages]
        intro other hother
        rcases List.mem_append.mp hother with hold | hnew
        · exact ht.counts other hold
        · rw [List.mem_singleton.mp hnew, blank.messageCount, drawn, eq_comm, List.countP_eq_zero]
          intro message hmessage
          simpa using hfresh message hmessage
  | @recorded message change target counts sessions messages =>
      constructor
      · rw [sessions, Table.map_updateWhere counts.sessionId]
        exact ht.ids
      · rw [sessions, messages]
        intro row hrow
        obtain ⟨old, hold, rfl⟩ := Table.mem_updateWhere.mp hrow
        rw [List.countP_append, List.countP_singleton]
        by_cases htest : old.sessionId = message.sessionId
        · simp [htest, counts.messageCount, counts.sessionId, ht.counts old hold]
        · have hother : message.sessionId ≠ old.sessionId := fun hsame => htest hsame.symm
          simp [htest, hother, ht.counts old hold]
  | uncounted target refused sessions messages => exact absurd refused hsound
  | archived test archives sessions messages =>
      constructor
      · rw [sessions, Table.map_updateWhere archives.sessionId]
        exact ht.ids
      · rw [sessions, messages]
        refine forall_updateWhere ht.counts fun row _ _ hrow => ?_
        rw [archives.messageCount, archives.sessionId]
        exact hrow
  | deleted old sessions messages =>
      constructor
      · rw [sessions]
        exact ht.ids.sublist (List.Sublist.map _ List.filter_sublist)
      · rw [sessions, messages]
        intro row hrow
        obtain ⟨hmem, hnew⟩ := Table.mem_deleteWhere.mp hrow
        rw [ht.counts row hmem, Table.deleteWhere, List.countP_filter]
        refine List.countP_congr fun message _ => ?_
        -- the session that the messages of the row are in is the row itself
        have hkept : (message.sessionId == row.sessionId) = true →
            inOldSession t.sessions old message = false := by
          intro hid
          rw [inOldSession, List.any_eq_false]
          intro other hother
          simp only [Bool.and_eq_true, beq_iff_eq, not_and] at hid ⊢
          intro hsame
          have hrow : other = row :=
            List.inj_on_of_nodup_map ht.ids hother hmem (hsame.trans hid)
          simp [hrow, hnew]
        constructor
        · intro hid
          simp [hid, hkept hid]
        · intro hboth
          exact (Bool.and_eq_true_iff.mp hboth).1
  | emptied old refused sessions messages => exact absurd refused hsound

/-- An update keeps the sessions. -/
theorem hasSession_updateWhere {test : SessionRow → Bool} {change : SessionRow → SessionRow}
    (hid : ∀ row, (change row).sessionId = row.sessionId)
    (hsessions : t'.sessions = Table.updateWhere test change t.sessions) {sessionId : String}
    (ht : t.HasSession sessionId) : t'.HasSession sessionId := by
  obtain ⟨row, hrow, rfl⟩ := ht
  have hmem : row.sessionId ∈ t.sessions.map SessionRow.sessionId := List.mem_map_of_mem hrow
  rw [← Table.map_updateWhere hid, ← hsessions] at hmem
  exact List.mem_map.mp hmem

/-- The sessions stay, unless old ones are deleted with their messages. -/
theorem keeps_or_deletes (h : SessionStep records next faulty t t') :
    (∀ sessionId, t.HasSession sessionId → t'.HasSession sessionId) ∨
      ∃ old, t'.sessions = Table.deleteWhere old t.sessions ∧
        t'.sessionMessages =
          Table.deleteWhere (inOldSession t.sessions old) t.sessionMessages := by
  have hsame : t'.sessions = t.sessions →
      ∀ sessionId, t.HasSession sessionId → t'.HasSession sessionId := by
    intro hsessions sessionId ⟨row, hrow, hid⟩
    exact ⟨row, hsessions ▸ hrow, hid⟩
  cases h with
  | same sessions messages => exact Or.inl (hsame sessions)
  | flagged test flags sessions messages =>
      exact Or.inl fun _ => hasSession_updateWhere flags.sessionId sessions
  | opened blank drawn unused sessions messages =>
      refine Or.inl fun sessionId ⟨row, hrow, hid⟩ => ⟨row, ?_, hid⟩
      rw [sessions]
      exact List.mem_append_left _ hrow
  | recorded target counts sessions messages =>
      exact Or.inl fun _ => hasSession_updateWhere counts.sessionId sessions
  | uncounted target refused sessions messages => exact Or.inl (hsame sessions)
  | archived test archives sessions messages =>
      exact Or.inl fun _ => hasSession_updateWhere archives.sessionId sessions
  | deleted old sessions messages => exact Or.inr ⟨old, sessions, messages⟩
  | emptied old refused sessions messages => exact Or.inl (hsame sessions)

/-- The messages after a step are from before, or recorded by it. -/
theorem mem_messages (h : SessionStep records next faulty t t') {message : SessionMessageRow}
    (hmem : message ∈ t'.sessionMessages) :
    message ∈ t.sessionMessages ∨ records message.sessionId := by
  cases h with
  | same sessions messages => exact Or.inl (messages ▸ hmem)
  | flagged test flags sessions messages => exact Or.inl (messages ▸ hmem)
  | opened blank drawn unused sessions messages => exact Or.inl (messages ▸ hmem)
  | recorded target counts sessions messages =>
      rw [messages] at hmem
      rcases List.mem_append.mp hmem with hold | hnew
      · exact Or.inl hold
      · rw [List.mem_singleton.mp hnew]
        exact Or.inr target
  | uncounted target refused sessions messages =>
      rw [messages] at hmem
      rcases List.mem_append.mp hmem with hold | hnew
      · exact Or.inl hold
      · rw [List.mem_singleton.mp hnew]
        exact Or.inr target
  | archived test archives sessions messages => exact Or.inl (messages ▸ hmem)
  | deleted old sessions messages =>
      rw [messages] at hmem
      exact Or.inl (Table.mem_deleteWhere.mp hmem).1
  | emptied old refused sessions messages =>
      rw [messages] at hmem
      exact Or.inl (Table.mem_deleteWhere.mp hmem).1

/-- Each message keeps its session when messages are recorded in sessions only. -/
theorem owned (h : SessionStep records next faulty t t')
    (hrecords : ∀ message ∈ t'.sessionMessages, message ∉ t.sessionMessages →
      t.HasSession message.sessionId) (ht : t.Owned) : t'.Owned := by
  rcases h.keeps_or_deletes with hkeeps | ⟨old, sessions, messages⟩
  · intro message hmessage
    by_cases hold : message ∈ t.sessionMessages
    · exact hkeeps _ (ht message hold)
    · exact hkeeps _ (hrecords message hmessage hold)
  · intro message hmessage
    rw [messages] at hmessage
    obtain ⟨hmem, hnew⟩ := Table.mem_deleteWhere.mp hmessage
    obtain ⟨row, hrow, hid⟩ := ht message hmem
    refine ⟨row, ?_, hid⟩
    rw [sessions]
    refine Table.mem_deleteWhere.mpr ⟨hrow, ?_⟩
    simpa [hid] using List.any_eq_false.mp hnew row hrow

end SessionStep

end OpenPinch
