import OpenPinch.Engine.Integrity
import OpenPinch.Engine.LockDiscipline
import OpenPinch.Lib.Trap

/-!
# The lock under the whole interface

Calls of the engine run in threads, in all interleavings.  Each takes the lock of
the store for one statement at a time, but for `ensure_pairing`, which waits for
itself once the database has accepted its insert.

So when no thread can go on, all calls have returned, or the database has accepted
a pairing (`ended_iff_unpaired`).  Then the lock is held until the process ends, and
the engine adds one pairing in the life of a process at most (`pairings_le`).
-/

namespace OpenPinch

open Lib (Op Pool System Table.upsert Table.mem_updateWhere Table.upsert_eq_some)
open Lib.Op (after result)
open Lib.Prog (Acts Careful Keeps)
open Stmt (Respects respects_bind respects_now respects_newUuid respects_insert respects_pure
  respects_select)

/-! ## Accepted pairings -/

/-- A message has asked for a pairing with the target, the database has not refused
the statement, and it holds a pairing with the target. -/
inductive AcceptsPairing : Event → World → World → Prop where
  | insert {target : Target} {w w' : World}
      (accepted : w.around.refuses w.around.statements = false)
      (sent : w'.around.statements = w.around.statements + 1)
      (paired : w'.conversations.pairings.any (·.target == target) = true) :
      AcceptsPairing (.pairingUpsert target) w w'

def World.pairingCount (w : World) : Nat := w.conversations.pairings.length

/-- The action adds a pairing only when the database accepts it. -/
abbrev AddsPairing : Event → (World → World) → Prop :=
  Pool.GrowsBy AcceptsPairing World.pairingCount

/-- The operation keeps the discipline of the lock, unless the database accepts a
pairing. -/
abbrev CarefulOp (α : Type) (p : EngineOp α) : Prop := Careful AddsPairing AcceptsPairing false p

theorem closed_carefulOp : EngineOp.Closed CarefulOp where
  toOp := Op.closed_careful _ _
  attempt hp := Careful.bind hp fun r => by rcases r with (_ | _) | _ <;> exact .ret

/-- An action that is no request for a pairing and adds none. -/
structure Unpaired (e : Event) (g : World → World) : Prop where
  label : ∀ target, e ≠ .pairingUpsert target
  pairings : ∀ w, (g w).pairingCount = w.pairingCount

theorem Unpaired.adds {e : Event} {g : World → World} (h : Unpaired e g) : AddsPairing e g :=
  fun w => Or.inl (h.pairings w).le

theorem Unpaired.not_accepts {e : Event} {g : World → World} (h : Unpaired e g) (w : World) :
    ¬ AcceptsPairing e w (g w) := by
  rintro ⟨-, -, -⟩
  exact h.label _ rfl

theorem careful_of_unpaired {α : Type} {p : EngineOp α} (h : Keeps Unpaired false false p) :
    CarefulOp α p :=
  (Careful.of_keeps h fun _ _ => Unpaired.not_accepts).mono fun _ _ => Unpaired.adds

theorem Quiet.unpaired {e : Event} {g : World → World} (h : Quiet e g) : Unpaired e g where
  label target := by
    rw [h.quiet]
    rintro ⟨⟩
  pairings w := by rw [World.pairingCount, (h.calm w).pairings]; rfl

theorem Plain.unpaired {kind : Event → Prop} {e : Event} {g : World → World}
    (h : Plain kind e g) (hkind : ∀ target, ¬ kind (.pairingUpsert target)) : Unpaired e g := by
  have hlabel : ∀ target, e ≠ .pairingUpsert target := by
    rintro target rfl
    rcases h.label with hquiet | hhere
    · cases hquiet
    · exact hkind target hhere
  refine ⟨hlabel, fun w => ?_⟩
  have hstep := h.pairings w
  generalize hrows : (g w).conversations.pairings = rows at hstep
  rw [World.pairingCount, World.pairingCount, hrows]
  cases hstep with
  | same => rfl
  | renew sets => exact absurd rfl (hlabel _)
  | add newId newTarget pending => exact absurd rfl (hlabel _)
  | decide sets => exact List.length_map _

theorem careful_of_quiet {α : Type} {p : EngineOp α} (h : Keeps Quiet false false p) :
    CarefulOp α p :=
  careful_of_unpaired (h.mono fun _ _ => Quiet.unpaired)

theorem careful_of_aside {α : Type} {p : EngineOp α} (h : Keeps Aside false false p) :
    CarefulOp α p :=
  careful_of_quiet (keeps_aside h)

theorem careful_caches {α : Type} (m : Stmt Caches α) :
    CarefulOp α (EngineOp.guarded .caches m) := by
  refine careful_of_unpaired (Op.keeps_guarded ⟨fun target => by rintro ⟨⟩, fun w => ?_⟩)
  rw [View.after_run]
  rfl

/-! ## The store -/

namespace StateStore

/-- An insert in the world. -/
theorem run_insert (f : Conversations → Option Conversations) (w : World) :
    View.conversations.run (Stmt.insert f) w =
      let sent := { w with around := Stmt.sent w.around }
      if w.around.refuses w.around.statements then .error (.error "database error") sent
      else
        match f w.conversations with
        | some t => .ok () { sent with conversations := t }
        | none => .error (.error "UNIQUE constraint failed") sent := by
  simp only [View.run, View.conversations, Stmt.insert, Stmt.sql, Stmt.sent]
  cases w.around.refuses w.around.statements with
  | true => rfl
  | false => cases f w.conversations <;> rfl

/-- After an upsert there is a row of the target, and there is one row more at most. -/
theorem upsert_target {clash target : PairingRow → Bool} {change : PairingRow → PairingRow}
    {row : PairingRow} {rows rows' : List PairingRow}
    (h : Table.upsert clash target change row rows = some rows') (hrow : target row = true)
    (hchange : ∀ old, target (change old) = target old) :
    rows'.any target = true ∧ rows'.length ≤ rows.length + 1 := by
  rcases Table.upsert_eq_some.mp h with ⟨hany, rfl⟩ | ⟨-, -, rfl⟩
  · obtain ⟨old, hold, htarget⟩ := List.any_eq_true.mp hany
    refine ⟨List.any_eq_true.mpr ⟨change old, ?_, by rw [hchange, htarget]⟩, ?_⟩
    · exact Table.mem_updateWhere.mpr ⟨old, hold, by rw [if_pos htarget]⟩
    · exact (List.length_map _).le.trans (Nat.le_succ _)
  · exact ⟨by simp [hrow], by simp⟩

/-- The insert of `ensure_pairing` returns when the database accepts the pairing, and
fails otherwise. -/
theorem accepts_ensurePairingStmt (row : PairingRow) (w : World) :
    let insert := View.conversations.run (ensurePairingStmt row)
    (result insert w = .ok () ∧ AcceptsPairing (.pairingUpsert row.target) w (after insert w) ∧
        (after insert w).pairingCount ≤ w.pairingCount + 1) ∨
      ∃ e, result insert w = .error e ∧
        ¬ AcceptsPairing (.pairingUpsert row.target) w (after insert w) ∧
          (after insert w).pairingCount = w.pairingCount := by
  intro insert
  have hrun : insert w = _ := run_insert _ w
  cases hrefuses : w.around.refuses w.around.statements with
  | true =>
      rw [hrefuses] at hrun
      simp only [result, after, hrun, if_true]
      refine Or.inr ⟨_, rfl, ?_, rfl⟩
      rintro ⟨accepted, -, -⟩
      exact Bool.false_ne_true (accepted.symm.trans hrefuses)
  | false =>
      rw [hrefuses] at hrun
      simp only [Bool.false_eq_true, if_false] at hrun
      split at hrun
      · rename_i hupsert
        obtain ⟨rows, hrows, rfl⟩ := Option.map_eq_some_iff.mp hupsert
        obtain ⟨hany, hlength⟩ := upsert_target hrows (beq_self_eq_true row.target) fun _ => rfl
        simp only [result, after, hrun]
        exact Or.inl ⟨trivial, .insert hrefuses rfl hany, hlength⟩
      · rename_i hupsert
        simp only [result, after, hrun]
        refine Or.inr ⟨_, rfl, ?_, rfl⟩
        -- it fails only when there is no row of the target
        rintro ⟨-, -, paired⟩
        have hnone := Option.map_eq_none_iff.mp hupsert
        unfold Table.upsert at hnone
        rw [if_pos paired] at hnone
        cases hnone

theorem careful_ensurePairing (connectorName channelId sender sessionId reason : String) :
    CarefulOp PairingRecord (ensurePairing connectorName channelId sender sessionId reason) := by
  refine closed_carefulOp.bind (careful_of_aside EngineOp.keeps_now) fun now => ?_
  refine closed_carefulOp.bind (careful_of_aside EngineOp.keeps_newUuid) fun uuid => ?_
  refine .lock (.act (fun w => ?_) (fun w haccepts => ?_) fun w hnot => ?_)
  · rcases accepts_ensurePairingStmt _ w with ⟨-, haccepts, hle⟩ | ⟨-, -, -, hsame⟩
    · exact Or.inr ⟨haccepts, hle⟩
    · exact Or.inl hsame.le
  · rcases accepts_ensurePairingStmt _ w with ⟨hresult, -, -⟩ | ⟨-, -, hnot, -⟩
    · rw [hresult]
      exact ⟨rfl, _, rfl⟩
    · exact absurd haccepts hnot
  · rcases accepts_ensurePairingStmt _ w with ⟨-, haccepts, -⟩ | ⟨e, hresult, -, -⟩
    · exact absurd haccepts hnot
    · rw [hresult]
      exact .unlock .ret

/-- The statements of a session leave the pairings. -/
def SamePairings (t t' : Conversations) : Prop := t'.pairings = t.pairings

theorem SamePairings.refl (t : Conversations) : SamePairings t t := rfl

theorem SamePairings.trans (t t' t'' : Conversations) (h : SamePairings t t')
    (h' : SamePairings t' t'') : SamePairings t t'' :=
  Eq.trans h' h

theorem samePairings_resolveSessionStmt
    (connectorName channelId participant sessionType : String) (config : AppConfig)
    (defaultModelProfile : String) :
    (resolveSessionStmt connectorName channelId participant sessionType config
      defaultModelProfile).Respects SamePairings := by
  refine respects_bind SamePairings.trans (respects_select SamePairings.refl _) fun found => ?_
  cases found with
  | some row => exact respects_pure SamePairings.refl _
  | none =>
      refine respects_bind SamePairings.trans (respects_now SamePairings.refl) fun now => ?_
      refine respects_bind SamePairings.trans (respects_newUuid SamePairings.refl) fun uuid => ?_
      refine respects_bind SamePairings.trans ?_ fun _ => respects_pure SamePairings.refl _
      refine respects_insert SamePairings.refl fun t t' hinsert => ?_
      obtain ⟨rows, -, rfl⟩ := Option.map_eq_some_iff.mp hinsert
      exact rfl

end StateStore

open StateStore

section

variable [Externals]

theorem StoreCall.careful (call : StoreCall) : CarefulOp call.Result call.op := by
  cases call with
  | recordMessage message => exact careful_of_quiet (keeps_recordMessage _)
  | listJobs => exact careful_of_aside keeps_listJobs
  | cacheExactGet promptHash => exact careful_caches _
  | cacheExactPut promptHash provider response => exact careful_caches _
  | cachePrefixGet prompt => exact careful_caches _
  | cachePrefixPut key provider response => exact careful_caches _
  | upsertMemory nameSpace key content metadataJson encryption =>
      exact careful_of_aside (keeps_upsertMemory _ _ _ _ _)
  | queryMemory query encryption => exact careful_of_aside (keeps_queryMemory _ _)
  | recordAudit event => exact careful_of_aside (keeps_recordAudit _)
  | listAudit limit => exact careful_of_aside (keeps_listAudit _)
  | storeQueueTask task status => exact careful_of_aside (keeps_storeQueueTask _ _)
  | updateQueueStatus taskId status => exact careful_of_aside (keeps_updateQueueStatus _ _)
  | recordProtocolRun result => exact careful_of_aside (keeps_recordProtocolRun _)
  | resolveSessionForInbound message config defaultModelProfile =>
      exact careful_of_quiet (keeps_resolveSessionForInbound _ _ _)
  | resolveSessionForOutbound connector channelId sender config =>
      exact careful_of_quiet (keeps_resolveSessionForOutbound _ _ _ _)
  | resolveSessionInternal connectorName channelId participant sessionType config
      defaultModelProfile =>
      refine careful_of_unpaired (Op.keeps_guarded ⟨fun target => by rintro ⟨⟩, fun w => ?_⟩)
      have hsame := View.respects_conversations (samePairings_resolveSessionStmt connectorName
        channelId participant sessionType config defaultModelProfile) w
      exact congrArg List.length hsame
  | sessionById sessionId => exact careful_of_quiet (keeps_sessionById _)
  | recordSessionMessage sessionId connector role sender body metadataJson =>
      exact careful_of_quiet (keeps_recordSessionMessage _ _ _ _ _ _)
  | listSessions query => exact careful_of_quiet (keeps_listSessions _)
  | getSessionDetail query => exact careful_of_quiet (keeps_getSessionDetail _)
  | pruneSessions request => exact careful_of_quiet (keeps_pruneSessions _)
  | listPairings query => exact careful_of_quiet (keeps_listPairings _)
  | ensurePairing connectorName channelId sender sessionId reason =>
      exact careful_ensurePairing _ _ _ _ _
  | pairingForTarget connectorName channelId sender =>
      exact careful_of_quiet (keeps_pairingForTarget _ _ _)
  | updatePairing request =>
      refine careful_of_unpaired ((keeps_updatePairing request).mono fun _ _ hplain => ?_)
      exact hplain.unpaired fun target => by rintro ⟨⟩
  | pairingIsApproved connectorName channelId sender =>
      have hplain : Plain (.approvalCheck ⟨connectorName, channelId, sender⟩ = ·)
          (.approvalCheck ⟨connectorName, channelId, sender⟩) (after (View.conversations.run
            (pairingForTargetStmt ⟨connectorName, channelId, sender⟩))) :=
        plain_calm rfl (calm_pairingForTargetStmt _)
      refine closed_carefulOp.bind (closed_carefulOp.attempt (careful_of_unpaired
        (Op.keeps_guarded (hplain.unpaired fun target => by rintro ⟨⟩)))) fun pairing => ?_
      cases pairing with
      | ok record => exact closed_carefulOp.pure _
      | error message => exact closed_carefulOp.pure _
  | setSessionPendingPairing sessionId value =>
      exact careful_of_quiet (keeps_setSessionPendingPairing _ _)
  | clearSessionPendingPairing sessionId =>
      exact careful_of_quiet (keeps_setSessionPendingPairing _ _)

/-! ## The interface -/

theorem BrainManager.parts_careful (manager : BrainManager) : manager.Parts CarefulOp where
  toClosed := closed_carefulOp
  now := careful_of_aside EngineOp.keeps_now
  upsertEntity input := careful_of_aside (manager.keeps_upsertEntity input)
  upsertFact input := careful_of_aside (manager.keeps_upsertFact input)
  upsertTask input := careful_of_aside (manager.keeps_upsertTask input)
  upsertRelation _ _ _ _ _ _ := careful_of_aside (keeps_upsertRelation _ _ _ _ _ _)
  recordIngest _ _ _ _ := careful_of_aside (keeps_recordIngest _ _ _ _)
  listEntities _ := careful_of_aside (manager.keeps_listEntities _)
  listFacts _ := careful_of_aside (manager.keeps_listFacts _)
  listRelations _ := careful_of_aside (keeps_listRelations _)
  listTasks _ := careful_of_aside (manager.keeps_listTasks _)
  queryProjectionHits _ _ _ := careful_of_aside (manager.keeps_queryProjectionHits _ _ _)
  projectSuggestion _ _ _ := careful_of_aside (manager.keeps_upsertProjection _ _ _ _)
  retain := careful_of_aside manager.keeps_applyRetention

theorem parts_careful : RuntimeParts CarefulOp where
  toClosed := closed_carefulOp
  newUuid := careful_of_aside EngineOp.keeps_newUuid
  now := careful_of_aside EngineOp.keeps_now
  store call _ := call.careful
  log call _ := call.careful
  brain manager := manager.parts_careful
  forget manager request := careful_of_aside (manager.keeps_forget request)
  ask _ _ := careful_of_unpaired (Op.keeps_stmt ⟨fun target => by rintro ⟨⟩, fun _ => rfl⟩)
  emit e := by
    refine .act (fun w => Or.inl (Nat.le_refl _)) (fun w haccepts => ?_) fun _ _ => .ret
    cases haccepts with
    | insert accepted sent paired => exact absurd sent (Nat.ne_of_lt (Nat.lt_succ_self _))

theorem ApiCall.careful_thread (call : EngineRuntime × ApiCall) :
    Careful AddsPairing AcceptsPairing false (call.2.thread call.1) :=
  Careful.bind (parts_careful.call call.1 call.2) fun _ => .ret

/-! ## Runs -/

/-- One life of the engine: calls in all interleavings, on any database.  Each move
is allowed where it happens. -/
def process (allowed : Pool Event World → Lib.Move (EngineRuntime × ApiCall) Event → Prop) :
    System (Pool Event World) (Lib.Move (EngineRuntime × ApiCall) Event) :=
  Pool.system (fun call => call.2.thread call.1) (fun _ => True) allowed

/-- Several lives of the engine. -/
def processes : System (Pool Event World) (Pool.Turn (EngineRuntime × ApiCall) Event) :=
  Pool.crashing (fun call => call.2.thread call.1) fun _ => True

end

/-- A message of a sender without a pairing, and its turns until the thread waits for
itself. -/
def pairingTurns (sender : String) : List ((EngineRuntime × ApiCall) ⊕ Nat) :=
  .inl (referenceRuntime, .deliverMessage (referenceMessage sender sender "hi")) ::
    List.replicate 18 (.inr 0)

/-- When no thread can go on, all calls have returned exactly when no move was an
accepted pairing. -/
theorem ended_iff_unpaired [Externals] {s s' : Pool Event World}
    {moves : List (Lib.Move (EngineRuntime × ApiCall) Event)}
    (hinit : (process fun _ _ => True).init s) (hrun : (process fun _ _ => True).Run s moves s')
    (hrest : s'.AtRest) :
    s'.Ended ↔ (process fun s move => ¬ s.TrapsAt AcceptsPairing move).Run s moves s' :=
  Pool.ended_iff ApiCall.careful_thread hinit hrun hrest

/-- The first message of a sender asks for a pairing, and the engine waits for itself. -/
theorem ended_iff_unpaired_stuck : ∃ s moves,
    (@process referenceExternals fun _ _ => True).Run freshPool moves s ∧ s.AtRest ∧
      ¬ (@process referenceExternals fun s move =>
        ¬ s.TrapsAt AcceptsPairing move).Run freshPool moves s := by
  have hplay : (Pool.play referenceApiThread (pairingTurns "7") freshPool).any (fun played =>
      played.2.locked && decide played.2.AtRest) = true := by
    decide
  obtain ⟨⟨moves, s⟩, hplayed, hboth⟩ := Option.any_eq_true _ _ |>.mp hplay
  obtain ⟨hlocked, hrest⟩ := Bool.and_eq_true_iff.mp hboth
  have hrun : (@process referenceExternals fun _ _ => True).Run freshPool moves s :=
    Pool.run_of_play hplayed fun _ _ _ => trivial
  have hrest' := of_decide_eq_true hrest
  refine ⟨s, moves, hrun, hrest', fun hspared => ?_⟩
  have hended := (@ended_iff_unpaired referenceExternals freshPool s moves ⟨rfl, rfl, trivial⟩ hrun
    hrest').mpr hspared
  exact Bool.false_ne_true (hended.free.symm.trans hlocked)

/-- The database gains one pairing for each start of the engine at most. -/
theorem pairings_le [Externals] {s s' : Pool Event World}
    {turns : List (Pool.Turn (EngineRuntime × ApiCall) Event)} (hinit : processes.init s)
    (hrun : processes.Run s turns s') :
    s'.shared.pairingCount ≤ s.shared.pairingCount + turns.countP Pool.Turn.isCrash + 1 :=
  Pool.le_of_crashing ApiCall.careful_thread hinit hrun

/-- Two senders ask for a pairing, the second one after a crash. -/
theorem pairings_le_two : ∃ s turns, (@processes referenceExternals).Run freshPool turns s ∧
    s.shared.pairingCount = 2 ∧
      s.shared.pairingCount ≤
        freshPool.shared.pairingCount + turns.countP Pool.Turn.isCrash + 1 := by
  have hplay : (Pool.play referenceApiThread (pairingTurns "7") freshPool).any (fun first =>
      (Pool.play referenceApiThread (pairingTurns "8") ⟨false, first.2.shared, []⟩).any
        fun second => second.2.shared.pairingCount == 2) = true := by
    decide
  obtain ⟨⟨moves, s⟩, hfirst, hrest⟩ := Option.any_eq_true _ _ |>.mp hplay
  obtain ⟨⟨moves', s'⟩, hsecond, hcount⟩ := Option.any_eq_true _ _ |>.mp hrest
  have hrun : (@processes referenceExternals).Run freshPool
      (moves.map .move ++ .crash :: moves'.map .move) s' :=
    (Pool.crashing_of_run (Pool.run_of_play hfirst fun _ _ _ => trivial)).append
      (.cons rfl (Pool.crashing_of_run (Pool.run_of_play hsecond fun _ _ _ => trivial)))
  exact ⟨s', _, hrun, beq_iff_eq.mp hcount,
    @pairings_le referenceExternals freshPool s' _ ⟨rfl, rfl, trivial⟩ hrun⟩

end OpenPinch
