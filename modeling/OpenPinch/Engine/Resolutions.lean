import OpenPinch.Engine.SessionCalls

/-!
# Concurrent resolutions of sessions

The threads of the store look up and open sessions.  `resolve_session_internal`
looks up and inserts under one acquisition of the connection, so a session that
is missing is still missing when it is inserted.

No two sessions share connector, channel and participant, and two resolutions
agree unless sessions were deleted in between (`sessions_resolved`).
-/

namespace OpenPinch

open Lib (Op Pool Move System Table.updateWhere Table.insert Table.map_updateWhere
  Table.nodup_deleteWhere)
open Lib.Op (after result acts_bind acts_pure)
open Lib.Prog (Acts)

/-! ## Places -/

/-- The columns of the unique key of a session. -/
structure Place where
  connector : String
  channelId : String
  participant : String
deriving DecidableEq

def SessionRow.place (row : SessionRow) : Place :=
  ⟨row.connector, row.channelId, row.participant⟩

theorem SessionRow.isAt_iff {row : SessionRow} {connector channelId participant : String} :
    row.isAt connector channelId participant = true ↔
      row.place = ⟨connector, channelId, participant⟩ := by
  simp [SessionRow.isAt, SessionRow.place, and_assoc]

/-- No two sessions have the same place. -/
def Conversations.PlacesUnique (t : Conversations) : Prop :=
  (t.sessions.map SessionRow.place).Nodup

/-- The session has the place. -/
def Conversations.SessionAt (t : Conversations) (place : Place) (sessionId : String) : Prop :=
  ∃ row ∈ t.sessions, row.place = place ∧ row.sessionId = sessionId

/-- Of two sessions at one place both are the same. -/
theorem Conversations.PlacesUnique.eq {t : Conversations} (h : t.PlacesUnique) {place : Place}
    {sessionId other : String} (hsession : t.SessionAt place sessionId)
    (hother : t.SessionAt place other) : sessionId = other := by
  obtain ⟨row, hrow, hplace, rfl⟩ := hsession
  obtain ⟨row', hrow', hplace', rfl⟩ := hother
  exact congrArg _ (List.inj_on_of_nodup_map h hrow hrow' (hplace.trans hplace'.symm))

/-- Sessions keep their places, and new ones come to free places. -/
structure Grows (t t' : Conversations) : Prop where
  kept : ∀ place sessionId, t.SessionAt place sessionId → t'.SessionAt place sessionId
  unique : t.PlacesUnique → t'.PlacesUnique

namespace Grows

theorem refl (t : Conversations) : Grows t t := ⟨fun _ _ => id, id⟩

theorem trans (t t' t'' : Conversations) (h : Grows t t') (h' : Grows t' t'') : Grows t t'' :=
  ⟨fun place sessionId => h'.kept place sessionId ∘ h.kept place sessionId, h'.unique ∘ h.unique⟩

theorem of_sessions {t t' : Conversations} (h : t'.sessions = t.sessions) : Grows t t' := by
  constructor
  · rintro place sessionId ⟨row, hrow, hat⟩
    exact ⟨row, h ▸ hrow, hat⟩
  · intro hunique
    unfold Conversations.PlacesUnique
    rw [h]
    exact hunique

/-- An update of other columns. -/
theorem updateSessions (t : Conversations) (test : SessionRow → Bool)
    {change : SessionRow → SessionRow}
    (h : ∀ row, (change row).place = row.place ∧ (change row).sessionId = row.sessionId) :
    Grows t { t with sessions := Table.updateWhere test change t.sessions } := by
  constructor
  · rintro place sessionId ⟨row, hrow, rfl, rfl⟩
    refine ⟨_, Lib.Table.mem_updateWhere.mpr ⟨row, hrow, rfl⟩, ?_⟩
    split
    · exact h row
    · exact ⟨rfl, rfl⟩
  · intro hunique
    have hplaces : (Table.updateWhere test change t.sessions).map SessionRow.place =
        t.sessions.map SessionRow.place :=
      Table.map_updateWhere (fun row => (h row).1) t.sessions
    show ((Table.updateWhere test change t.sessions).map SessionRow.place).Nodup
    rw [hplaces]
    exact hunique

/-- The insertion of a session at a free place. -/
theorem insertSession {t : Conversations} {row : SessionRow}
    (h : ∀ other ∈ t.sessions, other.place ≠ row.place) :
    Grows t { t with sessions := t.sessions ++ [row] } := by
  constructor
  · rintro place sessionId ⟨other, hother, hat⟩
    exact ⟨other, List.mem_append_left _ hother, hat⟩
  · intro hunique
    show ((t.sessions ++ [row]).map SessionRow.place).Nodup
    rw [List.map_append]
    refine List.nodup_append.mpr ⟨hunique, List.nodup_singleton _, ?_⟩
    rintro _ hplace _ hrow rfl
    obtain ⟨other, hother, hsame⟩ := List.mem_map.mp hplace
    exact h other hother (hsame.trans (List.mem_singleton.mp hrow))

end Grows

/-! ## Statements -/

namespace StateStore

open Stmt (respects_bind respects_now respects_newUuid respects_execute respects_insert
  respects_select respects_pure respects_fail respects_sql)

section

variable [Externals] {connectorName channelId participant sessionType defaultModelProfile : String}
  {config : AppConfig}

omit [Externals] in
/-- The insertion of a new session finds its place free. -/
theorem grows_openSession {session : SessionRecord} {place : Place}
    (hplace : session.row.place = place) {t t' : Conversations}
    (h : ((Table.insert (fun row => row.sessionId == session.id ||
      row.isAt place.connector place.channelId place.participant) session.row t.sessions).map
        fun rows => { t with sessions := rows }) = some t') : Grows t t' := by
  obtain ⟨rows, hrows, rfl⟩ := Option.map_eq_some_iff.mp h
  obtain ⟨hfree, rfl⟩ := Lib.Table.insert_eq_some.mp hrows
  refine Grows.insertSession fun other hother hsame => ?_
  have hat := SessionRow.isAt_iff.mpr (hsame.trans hplace)
  have hclash := hfree other hother
  rw [hat, Bool.or_true] at hclash
  cases hclash

omit [Externals] in
theorem grows_resolveSessionStmt : (resolveSessionStmt connectorName channelId participant
    sessionType config defaultModelProfile).Respects Grows := by
  refine respects_bind Grows.trans (respects_select Grows.refl _) fun found => ?_
  cases found with
  | some row => exact respects_pure Grows.refl _
  | none =>
      refine respects_bind Grows.trans (respects_now Grows.refl) fun now => ?_
      refine respects_bind Grows.trans (respects_newUuid Grows.refl) fun uuid => ?_
      refine respects_bind Grows.trans ?_ fun _ => respects_pure Grows.refl _
      exact respects_insert Grows.refl fun t t' h =>
        @grows_openSession _ ⟨connectorName, channelId, participant⟩ rfl _ _ h

omit [Externals] in
/-- A session that is resolved is at its place. -/
theorem sessionAt_resolveSessionStmt {s : Surroundings × Conversations} {session : SessionRecord}
    (h : result (resolveSessionStmt connectorName channelId participant sessionType config
      defaultModelProfile) s = .ok session) :
    (after (resolveSessionStmt connectorName channelId participant sessionType config
      defaultModelProfile) s).2.SessionAt ⟨connectorName, channelId, participant⟩ session.id := by
  obtain ⟨row, hrow, hat, hid⟩ := exists_row_resolveSessionStmt h
  exact ⟨row, hrow, SessionRow.isAt_iff.mp hat, hid⟩

/-- Why a resolution fails: the database refuses a statement, or another session, at another
place, has the new identifier. -/
def ResolutionFault (place : Place) (s : Surroundings × Conversations) : Prop :=
  s.1.refuses s.1.statements = true ∨ s.1.refuses (s.1.statements + 1) = true ∨
    (∃ row ∈ s.2.sessions, row.sessionId = s.1.nextSessionId) ∧
      ∀ row ∈ s.2.sessions, row.place ≠ place

omit [Externals] in
/-- At a free place the insertion of a new session is only in conflict with its identifier. -/
theorem openSession_clash {session : SessionRecord} {place : Place} {t : Conversations}
    (h : ((Table.insert (fun row => row.sessionId == session.id ||
      row.isAt place.connector place.channelId place.participant) session.row t.sessions).map
        fun rows => { t with sessions := rows }) = none)
    (hfree : ∀ row ∈ t.sessions, row.place ≠ place) :
    (∃ row ∈ t.sessions, row.sessionId = session.id) ∧
      ∀ row ∈ t.sessions, row.place ≠ place := by
  refine ⟨?_, hfree⟩
  unfold Table.insert at h
  split at h
  · rename_i hany
    obtain ⟨row, hrow, hclash⟩ := List.any_eq_true.mp hany
    rcases Bool.or_eq_true_iff.mp hclash with hid | hat
    · exact ⟨row, hrow, eq_of_beq hid⟩
    · exact absurd (SessionRow.isAt_iff.mp hat) (hfree row hrow)
  · cases h

omit [Externals] in
/-- A session that was missing is not there when it is inserted. -/
theorem fault_resolveSessionStmt {s : Surroundings × Conversations} {fault : Fault}
    (h : result (resolveSessionStmt connectorName channelId participant sessionType config
      defaultModelProfile) s = .error fault) :
    ResolutionFault ⟨connectorName, channelId, participant⟩ s := by
  rcases Stmt.result_bind_error h with hselect | ⟨found, hfound, hrest⟩
  · exact Or.inl (Stmt.select_error hselect)
  have hfind := (Stmt.select_ok hfound).symm
  cases found with
  | some row => cases hrest
  | none =>
      refine Or.inr ?_
      rcases Stmt.result_bind_error hrest with hnow | ⟨now, -, hrest⟩
      · cases hnow
      rcases Stmt.result_bind_error hrest with huuid | ⟨uuid, huuid, hrest⟩
      · cases huuid
      cases huuid
      have hsent := Stmt.after_select_sent (fun t : Conversations =>
        t.sessions.find? fun row => row.isAt connectorName channelId participant) s
      rcases Stmt.insert_then_error hrest with hrefused | hclash
      · rw [hsent] at hrefused
        exact Or.inl hrefused
      · rw [hsent] at hclash
        have hfree : ∀ row ∈ s.2.sessions,
            row.place ≠ ⟨connectorName, channelId, participant⟩ := fun row hrow hplace =>
          List.find?_eq_none.mp hfind row hrow (SessionRow.isAt_iff.mpr hplace)
        exact Or.inr (@openSession_clash (newSession config connectorName channelId participant
          sessionType defaultModelProfile (s.1.uuid s.1.uuids) now)
          ⟨connectorName, channelId, participant⟩ s.2 hclash hfree)

end

theorem grows_setPendingPairing (sessionId : String) (value : Bool) (now : Instant)
    (t : Conversations) : Grows t (setPendingPairing sessionId value now t) :=
  Grows.updateSessions t _ fun _ => ⟨rfl, rfl⟩

/-- The other statements of `update_pairing` set the flag of a session. -/
theorem grows_updatePairingRest (pairingId status : String) :
    (updatePairingRest pairingId status).Respects Grows := by
  refine respects_bind Grows.trans (respects_select Grows.refl _) fun found => ?_
  cases found with
  | none => exact respects_fail Grows.refl _
  | some row =>
      refine respects_bind Grows.trans (respects_now Grows.refl) fun later => ?_
      refine respects_bind Grows.trans ?_ fun _ => respects_pure Grows.refl _
      exact respects_execute Grows.refl (grows_setPendingPairing _ _ later)

theorem grows_updatePairingStmt (pairingId status note : String) (now : Instant) :
    (updatePairingStmt pairingId status note now).Respects Grows := by
  refine respects_bind Grows.trans ?_ fun _ => grows_updatePairingRest pairingId status
  exact respects_execute Grows.refl fun t => .of_sessions rfl

theorem grows_recordSessionMessageStmt (row : SessionMessageRow) (preview : String) :
    (recordSessionMessageStmt row preview).Respects Grows := by
  refine respects_bind Grows.trans (respects_insert Grows.refl fun t t' h => ?_) fun _ => ?_
  · obtain ⟨rows, -, rfl⟩ := Option.map_eq_some_iff.mp h
    exact .of_sessions rfl
  · refine respects_bind Grows.trans ?_ fun _ => respects_pure Grows.refl _
    exact respects_execute Grows.refl fun t => Grows.updateSessions t _ fun _ => ⟨rfl, rfl⟩

section

variable [Externals]

theorem grows_archiveSessionsStmt (threshold : Instant) :
    (archiveSessionsStmt threshold).Respects Grows := by
  refine respects_bind Grows.trans (respects_now Grows.refl) fun now => ?_
  refine respects_sql Grows.refl fun t changed t' h => ?_
  cases h
  exact Grows.updateSessions t _ fun _ => ⟨rfl, rfl⟩

/-- A deletion keeps places apart. -/
theorem unique_deleteSessionsStmt (threshold : Instant) :
    (deleteSessionsStmt threshold).Respects fun t t' => t.PlacesUnique → t'.PlacesUnique := by
  have htrans : ∀ t t' t'' : Conversations, (t.PlacesUnique → t'.PlacesUnique) →
      (t'.PlacesUnique → t''.PlacesUnique) → t.PlacesUnique → t''.PlacesUnique :=
    fun _ _ _ h h' => h' ∘ h
  refine respects_bind htrans (respects_execute (fun _ => id) fun t => id) fun _ => ?_
  refine respects_sql (fun _ => id) fun t changed t' h => ?_
  cases h
  exact fun hunique => Table.nodup_deleteWhere hunique _

end

end StateStore

/-! ## Threads -/

section

variable [Externals]

/-- The action deletes old sessions. -/
def DeletesOld (g : World → World) : Prop :=
  ∃ threshold, g = after (View.conversations.run (StateStore.deleteSessionsStmt threshold))

/-- The action keeps sessions at their places, or deletes old ones. -/
def PlaceAction (_ : Event) (g : World → World) : Prop :=
  (∀ w, Grows w.conversations (g w).conversations) ∨ DeletesOld g

theorem PlaceAction.unique {e : Event} {g : World → World} (h : PlaceAction e g) {w : World}
    (hw : w.conversations.PlacesUnique) : (g w).conversations.PlacesUnique := by
  rcases h with hgrows | ⟨threshold, rfl⟩
  · exact (hgrows w).unique hw
  · exact View.respects_conversations (StateStore.unique_deleteSessionsStmt threshold) w hw

theorem acts_grows {α : Type} {m : Stmt Conversations α} (h : m.Respects Grows) {e : Event} :
    Acts PlaceAction (EngineOp.guardedAs e .conversations m) :=
  .lock (.act (Or.inl (View.respects_conversations h)) fun _ => .unlock .ret)

theorem acts_asidePlaces {α : Type} {p : EngineOp α} (h : Lib.Prog.Keeps Aside false false p) :
    Acts PlaceAction p :=
  h.acts.mono fun _ _ haside => Or.inl fun w => .of_sessions (by rw [haside.conversations w])

namespace StateStore

theorem placeActs_resolveSessionForOutbound (connector channelId sender : String)
    (config : AppConfig) :
    Acts PlaceAction (resolveSessionForOutbound connector channelId sender config) := by
  refine acts_bind (acts_grows (Stmt.respects_select Grows.refl _)) fun found => ?_
  cases found with
  | some row => exact acts_pure _
  | none => exact acts_grows grows_resolveSessionStmt

theorem placeActs_recordSessionMessage
    (sessionId connector role sender body metadataJson : String) :
    Acts PlaceAction
      (recordSessionMessage sessionId connector role sender body metadataJson) := by
  rw [recordSessionMessage_eq]
  refine acts_bind (acts_asidePlaces EngineOp.keeps_newUuid) fun uuid => ?_
  refine acts_bind (acts_asidePlaces EngineOp.keeps_now) fun now => ?_
  exact acts_grows (grows_recordSessionMessageStmt _ _)

theorem placeActs_pruneSessions (request : SessionPruneRequestRecord) :
    Acts PlaceAction (pruneSessions request) := by
  refine acts_bind (acts_asidePlaces EngineOp.keeps_now) fun now => ?_
  refine acts_bind (EngineOp.acts_orPanic _) fun threshold => ?_
  refine acts_bind ?_ fun _ => acts_pure _
  split
  · exact acts_grows (grows_archiveSessionsStmt threshold)
  · exact .lock (.act (Or.inr ⟨threshold, rfl⟩) fun _ => .unlock .ret)

theorem placeActs_updatePairing (request : PairingUpdate) :
    Acts PlaceAction (updatePairing request) :=
  acts_bind (acts_asidePlaces EngineOp.keeps_now) fun now =>
    acts_grows (grows_updatePairingStmt _ _ _ now)

theorem placeActs_setSessionPendingPairing (sessionId : String) (value : Bool) :
    Acts PlaceAction (setSessionPendingPairing sessionId value) :=
  acts_grows (Stmt.respects_bind Grows.trans (Stmt.respects_now Grows.refl) fun now =>
    Stmt.respects_execute Grows.refl (grows_setPendingPairing sessionId value now))

end StateStore

open EngineOp (acts_dropResult) in
theorem SessionCall.placeActs (config : AppConfig) (call : SessionCall) :
    Acts PlaceAction (call.thread config) := by
  cases call with
  | inbound message profile =>
      exact acts_dropResult (acts_grows StateStore.grows_resolveSessionStmt)
  | outbound connector channelId sender =>
      exact acts_dropResult (StateStore.placeActs_resolveSessionForOutbound _ _ _ config)
  | record sessionId =>
      exact acts_dropResult (StateStore.placeActs_recordSessionMessage _ _ _ _ _ _)
  | prune request => exact acts_dropResult (StateStore.placeActs_pruneSessions request)
  | update request => exact acts_dropResult (StateStore.placeActs_updatePairing request)
  | pending sessionId value =>
      exact acts_dropResult (StateStore.placeActs_setSessionPendingPairing sessionId value)

/-! ## Pools -/

/-- What `resolve_session_internal` does while it holds the connection. -/
def resolution (config : AppConfig) (place : Place) (sessionType defaultModelProfile : String) :
    EStateM Fault World SessionRecord :=
  View.conversations.run (StateStore.resolveSessionStmt place.connector place.channelId
    place.participant sessionType config defaultModelProfile)

/-- A thread takes the step of `resolve_session_internal`, which returns `r`. -/
inductive Resolves (config : AppConfig) (place : Place) (s : Pool Event World)
    (r : Except Fault SessionRecord) (s' : Pool Event World) : Prop where
  | step {thread : Nat} {event : Option Event} (sessionType defaultModelProfile : String)
      (rest : Except Fault SessionRecord → Lib.Prog Event World Unit)
      (ready : s.threads[thread]? =
        some (.act .quiet (after (resolution config place sessionType defaultModelProfile))
          fun w => .unlock (rest (result (resolution config place sessionType
            defaultModelProfile) w))))
      (returned : r = result (resolution config place sessionType defaultModelProfile) s.shared)
      (next : s.next? thread = some (event, s'))

/-- The move deletes no sessions. -/
def SparesSessions (s : Pool Event World) : Move SessionCall Event → Prop
  | .start _ => True
  | .step thread _ => ∀ e g k, s.threads[thread]? = some (.act e g k) → ¬ DeletesOld g

/-- The calls of the store as threads, from a database where no two sessions share a place. -/
def StateStore.resolutions (config : AppConfig)
    (allowed : Pool Event World → Move SessionCall Event → Prop) :
    System (Pool Event World) (Move SessionCall Event) :=
  Pool.system (SessionCall.thread config) (fun w => w.conversations.PlacesUnique) allowed

/-- No two sessions share a place, and the threads keep it so. -/
structure Placed (s : Pool Event World) : Prop where
  unique : s.shared.conversations.PlacesUnique
  acts : s.ActAll PlaceAction

variable {config : AppConfig} {allowed : Pool Event World → Move SessionCall Event → Prop}
  {s s' : Pool Event World} {move : Move SessionCall Event} {moves : List (Move SessionCall Event)}

theorem Placed.step (h : Placed s)
    (hstep : (StateStore.resolutions config allowed).step s move s') : Placed s' := by
  obtain ⟨-, hmove⟩ := hstep
  cases move with
  | start call =>
      cases hmove
      exact ⟨h.unique, h.acts.spawn (call.placeActs config)⟩
  | step thread event =>
      obtain ⟨hacts, hshared⟩ := h.acts.next hmove
      refine ⟨?_, hacts⟩
      rcases hshared with hsame | ⟨e, g, k, -, haction, hg⟩
      · rw [hsame]
        exact h.unique
      · rw [hg]
        exact haction.unique h.unique

/-- A step that spares sessions keeps them at their places. -/
theorem Placed.grows (h : Placed s)
    (hstep : (StateStore.resolutions config SparesSessions).step s move s') :
    Grows s.shared.conversations s'.shared.conversations := by
  obtain ⟨hspares, hmove⟩ := hstep
  cases move with
  | start call =>
      cases hmove
      exact .refl _
  | step thread event =>
      obtain ⟨-, hsame | ⟨e, g, k, hat, hgrows | hdeletes, hg⟩⟩ := h.acts.next hmove
      · exact .of_sessions (by rw [hsame])
      · rw [hg]
        exact hgrows s.shared
      · exact absurd hdeletes (hspares e g k hat)

theorem Placed.run (h : Placed s)
    (hrun : (StateStore.resolutions config SparesSessions).Run s moves s') :
    Placed s' ∧ Grows s.shared.conversations s'.shared.conversations := by
  induction hrun with
  | nil s => exact ⟨h, .refl _⟩
  | cons hstep _ ih =>
      obtain ⟨hplaced, hgrows⟩ := ih (h.step hstep)
      exact ⟨hplaced, (h.grows hstep).trans _ _ _ hgrows⟩

theorem Placed.reachable (h : (StateStore.resolutions config allowed).Reachable s) : Placed s := by
  refine h.invariant (P := Placed) ?_ fun s move s' hstep hs => hs.step hstep
  rintro s ⟨-, hthreads, hunique⟩
  exact ⟨hunique, fun p hp => by simp [hthreads] at hp⟩

variable {place : Place} {r : Except Fault SessionRecord}

omit [Externals] in
theorem Resolves.shared (h : Resolves config place s r s') : ∃ sessionType defaultModelProfile,
    r = result (resolution config place sessionType defaultModelProfile) s.shared ∧
      s'.shared = after (resolution config place sessionType defaultModelProfile) s.shared := by
  obtain ⟨sessionType, profile, rest, hready, hreturned, hnext⟩ := h
  refine ⟨sessionType, profile, hreturned, ?_⟩
  obtain ⟨p, p', locked, shared, hp, hrun, rfl⟩ := Pool.next?_eq_some.mp hnext
  cases hp.symm.trans hready
  cases hrun
  rfl

omit [Externals] in
/-- What is resolved is at its place after the step, and everything else stays. -/
theorem Resolves.sessionAt {session : SessionRecord}
    (h : Resolves config place s (.ok session) s') :
    s'.shared.conversations.SessionAt place session.id ∧
      Grows s.shared.conversations s'.shared.conversations := by
  obtain ⟨sessionType, profile, hreturned, hshared⟩ := h.shared
  rw [hshared, resolution]
  refine ⟨?_, View.respects_conversations StateStore.grows_resolveSessionStmt s.shared⟩
  rw [resolution, View.result_run] at hreturned
  rw [View.after_run]
  exact StateStore.sessionAt_resolveSessionStmt hreturned.symm

omit [Externals] in
theorem Resolves.fault {fault : Fault} (h : Resolves config place s (.error fault) s') :
    StateStore.ResolutionFault place (s.shared.around, s.shared.conversations) := by
  obtain ⟨sessionType, profile, hreturned, -⟩ := h.shared
  rw [resolution, View.result_run] at hreturned
  exact StateStore.fault_resolveSessionStmt hreturned.symm

/-- In every interleaving no two sessions share a place.  A resolution fails only when the
database refuses it or the new identifier is taken, and two resolutions at one place return the
same session when none was deleted in between. -/
theorem sessions_resolved (h : (StateStore.resolutions config fun _ _ => True).Reachable s) :
    (s.shared.conversations.sessions.map SessionRow.place).Nodup ∧
    ∀ {place : Place} {r : Except Fault SessionRecord} {s' : Pool Event World},
      Resolves config place s r s' →
        (∀ fault, r = .error fault →
          StateStore.ResolutionFault place (s.shared.around, s.shared.conversations)) ∧
        ∀ {moves : List (Move SessionCall Event)} {t t' : Pool Event World}
          {session other : SessionRecord},
          (StateStore.resolutions config SparesSessions).Run s' moves t →
            r = .ok session → Resolves config place t (.ok other) t' → other.id = session.id := by
  have hplaced := Placed.reachable h
  refine ⟨hplaced.unique, fun {place r s'} hresolves => ⟨?_, ?_⟩⟩
  · rintro fault rfl
    exact hresolves.fault
  · rintro moves t t' session other hrun rfl hother
    obtain ⟨hsession, hgrows⟩ := hresolves.sessionAt
    obtain ⟨sessionType, profile, rest, hready, hreturned, hnext⟩ := hresolves
    have hnow : Placed s' :=
      @Placed.step _ config (fun _ _ => True) s s' (.step _ _) hplaced ⟨trivial, hnext⟩
    obtain ⟨hlater, hkept⟩ := hnow.run hrun
    obtain ⟨hfound, hstays⟩ := hother.sessionAt
    have hunique := hstays.unique hlater.unique
    exact hunique.eq hfound (hstays.kept _ _ (hkept.kept _ _ hsession))

end

/-! ## Two threads that found no session -/

/-- A message to a channel without a session. -/
def outboundCall : SessionCall := .outbound "telegram" "7" "7"

/-- The place of its session. -/
def outboundPlace : Place := ⟨"telegram", "7", "7"⟩

/-- Two threads look up the session of the channel, and the first one takes the connection. -/
def lookups : List (SessionCall ⊕ Nat) :=
  [.inl outboundCall, .inl outboundCall] ++ List.replicate 3 (.inr 0) ++
    List.replicate 3 (.inr 1) ++ [.inr 0]

/-- The second one returns the session that the first one opened. -/
theorem sessions_resolved_outbound :
    ∃ (s s' t t' : Pool Event World) (session other : SessionRecord),
      s.shared.conversations.sessions = [] ∧
      Resolves referenceRuntime.config outboundPlace s (.ok session) s' ∧
      Resolves referenceRuntime.config outboundPlace t (.ok other) t' ∧
      other.id = session.id := by
  let spared : System (Pool Event World) (Move SessionCall Event) :=
    @StateStore.resolutions referenceExternals referenceRuntime.config
      (@SparesSessions referenceExternals)
  let profile := referenceRuntime.config.modelFailover.defaultProfile
  let step := resolution referenceRuntime.config outboundPlace "direct" profile
  obtain ⟨moves, s, s', released, t, t', rest, rest', session, other, hplay, hempty, hready,
      hreturned, hnext, hunlock, hunlocked, hlock, hlocked, hready', hreturned', hnext'⟩ :
      ∃ moves s s' released t t' rest rest' session other,
        Pool.play referenceSessionThread lookups ⟨false, slowWorld, []⟩ = some (moves, s) ∧
        s.shared.conversations.sessions = [] ∧
        s.threads[0]? = some (.act .quiet (after step) fun w => .unlock (rest (result step w))) ∧
        .ok session = result step s.shared ∧ s.next? 0 = some (some .quiet, s') ∧
        s'.next? 0 = some (none, released) ∧
        s'.threads[0]? = some (.unlock (rest (.ok session))) ∧
        released.next? 1 = some (none, t) ∧
        released.threads[1]? = some (.lock (.act .quiet (after step)
          fun w => .unlock (rest' (result step w)))) ∧
        t.threads[1]? =
          some (.act .quiet (after step) fun w => .unlock (rest' (result step w))) ∧
        .ok other = result step t.shared ∧ t.next? 1 = some (some .quiet, t') :=
    ⟨_, _, _, _, _, _, fun _ => .ret (), fun _ => .ret (), _, _, rfl, rfl, rfl, rfl, rfl, rfl, rfl,
      rfl, rfl, rfl, rfl, rfl⟩
  have hslow : slowWorld.conversations.PlacesUnique := List.nodup_nil
  have hreach : (@StateStore.resolutions referenceExternals referenceRuntime.config
      fun _ _ => True).Reachable s :=
    ⟨⟨false, slowWorld, []⟩, moves, ⟨rfl, rfl, hslow⟩,
      Pool.run_of_play hplay fun _ _ _ => trivial⟩
  have hrun : spared.Run s' [.step 0 none, .step 1 none] t := by
    refine .cons ⟨fun e g k hact => ?_, hunlock⟩ (.single ⟨fun e g k hact => ?_, hlock⟩)
    · cases hunlocked.symm.trans hact
    · cases hlocked.symm.trans hact
  have hfirst : Resolves referenceRuntime.config outboundPlace s (.ok session) s' :=
    .step "direct" profile rest hready hreturned hnext
  have hsecond : Resolves referenceRuntime.config outboundPlace t (.ok other) t' :=
    .step "direct" profile rest' hready' hreturned' hnext'
  exact ⟨s, s', t, t', session, other, hempty, hfirst, hsecond,
    ((@sessions_resolved referenceExternals _ _ hreach).2 hfirst).2 hrun rfl hsecond⟩

end OpenPinch
