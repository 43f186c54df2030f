import OpenPinch.Engine.Calls

/-!
# Pairings over runs

A revoked pairing stays revoked along every run of calls without a message that
waits for it at the gate (`revocation_stands`).  Such a message sets it to
pending.

A direct message of an unpaired sender does not reach the orchestrator, unless
it goes to a session of its channel that was stored as one of a group
(`handleMessage_gated`).
-/

namespace OpenPinch

open Lib (Op wp Table.updateWhere)
open Lib.Op (result)
open Lib.Prog (Acts)

/-! ## Pairing rows -/

/-- The pairing of an identifier. -/
def World.pairing? (w : World) (pairingId : String) : Option PairingRow :=
  w.conversations.pairings.find? (·.pairingId == pairingId)

/-- The event is no upsert of the target and no update of the pairing. -/
structure Event.Spares (pairingId : String) (target : Target) (e : Event) : Prop where
  upsert : e ≠ .pairingUpsert target
  update : ∀ status, e ≠ .pairingUpdate pairingId status

theorem Event.spares_quiet (pairingId : String) (target : Target) :
    Event.quiet.Spares pairingId target := ⟨nofun, nofun⟩

theorem Event.spares_reply {e : Event} (h : e.isReply = true) (pairingId : String)
    (target : Target) : e.Spares pairingId target := by
  cases e with
  | submit _ _ _ => exact ⟨nofun, nofun⟩
  | generated _ _ _ => exact ⟨nofun, nofun⟩
  | answered _ _ => exact ⟨nofun, nofun⟩
  | quiet => cases h
  | approvalCheck _ => cases h
  | pairingUpsert _ => cases h
  | pairingUpdate _ _ => cases h

/-- A step that spares a row keeps it. -/
theorem PairingStep.find? {e : Event} {rows rows' : List PairingRow} {pairingId : String}
    {row : PairingRow} (h : PairingStep e rows rows')
    (hrow : rows.find? (·.pairingId == pairingId) = some row)
    (hspares : e.Spares pairingId row.target) :
    rows'.find? (·.pairingId == pairingId) = some row := by
  cases h with
  | same => exact hrow
  | renew sets =>
      rename_i target change
      have hother : row.target ≠ target := fun same => hspares.upsert (by rw [same])
      rw [Lib.Table.find?_updateWhere (fun row => by rw [sets.pairingId]), hrow]
      simp [hother]
  | add newId newTarget pending => simp [hrow]
  | decide sets =>
      rename_i decided status change
      have hid : row.pairingId = pairingId := by simpa using List.find?_some hrow
      have hother : row.pairingId ≠ decided := by
        rw [hid]
        exact fun same => hspares.update status (by rw [same])
      rw [Lib.Table.find?_updateWhere (fun row => by rw [sets.pairingId]), hrow]
      simp [hother]

namespace EngineRuntime

/-- The statement of an update sets the status of a known pairing, when the
database accepts it. -/
theorem pairing?_updatePairingStmt {pairingId status note : String} {now : Instant} {w : World}
    {row : PairingRow} (hknown : w.pairing? pairingId = some row)
    (haccepted : w.around.refuses w.around.statements = false) :
    ∃ row', World.pairing? (Op.after (View.conversations.run
      (StateStore.updatePairingStmt pairingId status note now)) w) pairingId = some row' ∧
        row'.target = row.target ∧ row'.status = status := by
  let change (row : PairingRow) : PairingRow :=
    { row with status := status, note := note, updatedAt := now }
  let update (t : Conversations) : Conversations :=
    { t with pairings := Table.updateWhere (·.pairingId == pairingId) change t.pairings }
  have hid : row.pairingId = pairingId := by simpa using List.find?_some hknown
  obtain ⟨hok, hafter⟩ := Stmt.execute_accepted (f := update)
    (s := (w.around, w.conversations)) haccepted
  have hrest := (StateStore.calm_updatePairingRest pairingId status
    (Op.after (Stmt.execute update) (w.around, w.conversations))).pairings
  have hrows : (Op.after (Stmt.execute update >>= fun _ =>
      StateStore.updatePairingRest pairingId status) (w.around, w.conversations)).2.pairings =
        Table.updateWhere (·.pairingId == pairingId) change w.conversations.pairings := by
    rw [Stmt.after_bind, hok]
    exact hrest.trans (by rw [hafter])
  have hfind : (Table.updateWhere (·.pairingId == pairingId) change
      w.conversations.pairings).find? (·.pairingId == pairingId) = some (change row) := by
    have hkeeps : ∀ row, ((change row).pairingId == pairingId) = (row.pairingId == pairingId) :=
      fun _ => rfl
    rw [Lib.Table.find?_updateWhere hkeeps]
    rw [show w.conversations.pairings.find? _ = some row from hknown]
    simp [hid]
  refine ⟨change row, ?_, rfl, rfl⟩
  rw [World.pairing?, View.after_run]
  exact (congrArg _ hrows).trans hfind

end EngineRuntime

/-! ## Revocations -/

/-- The call is no update of the pairing. -/
def RuntimeCall.Undecided (pairingId : String) (call : RuntimeCall) : Prop :=
  ∀ request, call = .update request → request.pairingId ≠ pairingId

theorem RuntimeCall.undecided_message (message : MessageEnvelope) (pairingId : String) :
    (RuntimeCall.message message).Undecided pairingId := by
  intro request h
  cases h

section

variable [Externals] {runtime : EngineRuntime}

/-- A known pairing has the requested status after its update, when the database
accepts the statement. -/
theorem pairing?_update (runtime : EngineRuntime) {request : PairingUpdate} {w : World}
    {row : PairingRow}
    (hknown : w.pairing? request.pairingId = some row)
    (haccepted : w.around.refuses w.around.statements = false) :
    ∃ row', (RuntimeCall.after runtime (.update request) w).pairing? request.pairingId =
      some row' ∧ row'.target = row.target ∧
        row'.status = StateStore.requestedStatus request.action := by
  let done (_ : List Event) (_ : Except Fault PairingRecord) (w' : World) : Prop :=
    ∃ row', w'.pairing? request.pairingId = some row' ∧ row'.target = row.target ∧
      row'.status = StateStore.requestedStatus request.action
  have hstore : wp (StateStore.updatePairing request) done [] w := by
    refine Op.wp_bind (EngineOp.wp_now (Op.andThen_ok (Op.wp_guarded ?_)))
    exact EngineRuntime.pairing?_updatePairingStmt hknown haccepted
  have hupdate : wp (EngineRuntime.updatePairing request) done [] w := by
    refine Op.wp_bind (Lib.wp_mono hstore fun labels r w₁ hdone => ?_)
    cases r with
    | error fault => exact hdone
    | ok pairing =>
        have haudit := keeps_aside (EngineRuntime.keeps_recordAudit "connector.pairing" "info"
          "pairing updated" (3 / 50)
          (.obj [("pairing_id", .str pairing.id), ("status", .str pairing.status)]))
        have hrest := (Op.keeps_bind haudit fun _ => Op.keeps_pure pairing).acts
        refine Op.andThen_ok (wp_untouched hrest fun labels r w₂ huntouched => ?_)
        obtain ⟨row', hrow', hrest⟩ := hdone
        refine ⟨row', ?_, hrest⟩
        rw [World.pairing?, huntouched.calm.pairings]
        exact hrow'
  have hreturns := (EngineRuntime.keeps_updatePairing request).alone w
  show ∃ row', (Lib.Prog.alone (EngineRuntime.updatePairing request) false w).state.pairing?
    request.pairingId = some row' ∧ _
  rw [hreturns]
  exact hupdate

/-- The call is no message that waits for the pairing at the gate. -/
def RuntimeCall.Unasked (runtime : EngineRuntime) (pairingId : String) (w : World)
    (call : RuntimeCall) : Prop :=
  ∀ message row, call = .message message → w.pairing? pairingId = some row →
    runtime.asksPairing (w.sessionTypeFor message) message = true → row.target ≠ message.target

/-- The events of a call that neither updates a pairing nor waits for it. -/
theorem RuntimeCall.events_spare {call : RuntimeCall} {pairingId : String} {w : World}
    {row : PairingRow} (hrow : w.pairing? pairingId = some row)
    (hundecided : call.Undecided pairingId) (hunasked : call.Unasked runtime pairingId w) :
    ∀ e ∈ call.events runtime w, e.Spares pairingId row.target := by
  intro e hmem
  have he := call.events_subset runtime w hmem
  rcases (call.lawful runtime).trace (fun _ _ hlawful => hlawful.label) w e he with
    rfl | hkind | hreply
  · exact Event.spares_quiet _ _
  · cases call with
    | message message =>
        rcases runtime.trace_handleMessage message w e he with rfl | ⟨hasks, hshown⟩ | hreply
        · exact Event.spares_quiet _ _
        · have hother := hunasked message row rfl hrow hasks
          cases hshown with
          | check => exact ⟨nofun, nofun⟩
          | upsert => exact ⟨fun same => hother (Event.pairingUpsert.inj same).symm, nofun⟩
        · exact Event.spares_reply hreply _ _
    | outbound request => cases hkind
    | prune request => cases hkind
    | update request =>
        have hother := hundecided request rfl
        cases hkind with
        | update => exact ⟨nofun, fun status same => hother (Event.pairingUpdate.inj same).1⟩
  · exact Event.spares_reply hreply _ _

/-- One call keeps the row of a pairing. -/
theorem RuntimeCall.pairing?_after {call : RuntimeCall} {pairingId : String} {w : World}
    {row : PairingRow} (hundecided : call.Undecided pairingId)
    (hunasked : call.Unasked runtime pairingId w) (hrow : w.pairing? pairingId = some row) :
    (call.after runtime w).pairing? pairingId = some row :=
  (call.lawful runtime).preserves_alone (I := fun w => w.pairing? pairingId = some row)
    (fun _ _ hlawful hspares w hrow => (hlawful.pairings w).find? hrow hspares) hrow
    (call.events_spare hrow hundecided hunasked)

/-- A revoked pairing has status revoked along every run of calls that neither
update it nor wait for it at the gate. -/
theorem revocation_stands {request : PairingUpdate} {w w' : World} {row : PairingRow}
    {calls : List RuntimeCall} (hrevoke : StateStore.requestedStatus request.action = "revoked")
    (hknown : w.pairing? request.pairingId = some row)
    (haccepted : w.around.refuses w.around.statements = false)
    (hrun : (runtime.system fun w call => call.Undecided request.pairingId ∧
      call.Unasked runtime request.pairingId w).Run
        (RuntimeCall.after runtime (.update request) w) calls w') :
    ∃ row', w'.pairing? request.pairingId = some row' ∧ row'.status = "revoked" := by
  obtain ⟨row', hrow', -, hstatus⟩ := pairing?_update runtime hknown haccepted
  refine ⟨row', ?_, hstatus.trans hrevoke⟩
  refine hrun.preserves (P := fun w => w.pairing? request.pairingId = some row') ?_ hrow'
  rintro w call w' ⟨⟨hundecided, hunasked⟩, rfl⟩ hrow
  exact call.pairing?_after hundecided hunasked hrow

end

/-- The world in which one sender is paired. -/
def pairedWorld : World :=
  { referenceWorld with conversations :=
    ⟨[], [], [], [⟨"pairing-0", "telegram", "7", "7", "session-0", "approved", "", "", 0, 0⟩]⟩ }

/-- The pairing is revoked, and another sender writes. -/
theorem revocation_stands_stranger :
    ∃ row', (@RuntimeCall.after referenceExternals referenceRuntime
      (.message (referenceMessage "8" "8" "hi"))
      (@RuntimeCall.after referenceExternals referenceRuntime
        (.update ⟨"pairing-0", "revoke", ""⟩) pairedWorld)).pairing? "pairing-0" = some row' ∧
      row'.status = "revoked" := by
  refine @revocation_stands referenceExternals referenceRuntime ⟨"pairing-0", "revoke", ""⟩
    pairedWorld _ _ [_] (by decide) rfl rfl
    (.single ⟨⟨RuntimeCall.undecided_message _ _, ?_⟩, rfl⟩)
  intro message row hmessage hrow _
  have htarget : ((@RuntimeCall.after referenceExternals referenceRuntime
      (.update ⟨"pairing-0", "revoke", ""⟩) pairedWorld).pairing? "pairing-0").map
        PairingRow.target = some ⟨"telegram", "7", "7"⟩ := by
    decide
  rw [hrow, Option.map_some] at htarget
  rw [← RuntimeCall.message.inj hmessage, Option.some.inj htarget]
  decide

/-- A message of the revoked sender sets the pairing to pending. -/
theorem revocation_stands_fails :
    ¬ ∀ [Externals] {runtime : EngineRuntime} {request : PairingUpdate} {w w' : World}
      {row : PairingRow} {calls : List RuntimeCall},
      StateStore.requestedStatus request.action = "revoked" →
      w.pairing? request.pairingId = some row →
      w.around.refuses w.around.statements = false →
      (runtime.system fun _ call => call.Undecided request.pairingId).Run
        (RuntimeCall.after runtime (.update request) w) calls w' →
      ∃ row', w'.pairing? request.pairingId = some row' ∧ row'.status = "revoked" := by
  intro h
  obtain ⟨row', hrow', hrevoked⟩ := @h referenceExternals referenceRuntime
    ⟨"pairing-0", "revoke", ""⟩ pairedWorld _ _ [.message (referenceMessage "7" "7" "hi")]
    (by decide) rfl rfl (.single ⟨RuntimeCall.undecided_message _ _, rfl⟩)
  have hpending : ((@RuntimeCall.after referenceExternals referenceRuntime
      (.message (referenceMessage "7" "7" "hi"))
      (@RuntimeCall.after referenceExternals referenceRuntime
        (.update ⟨"pairing-0", "revoke", ""⟩) pairedWorld)).pairing? "pairing-0").map
          PairingRow.status = some "pending" := by
    decide
  rw [hrow', Option.map_some, hrevoked] at hpending
  exact absurd hpending (by decide)

/-! ## The gate -/

section

/-- None of the events is of a reply. -/
def NoReply (labels : List Event) : Prop := ∀ e ∈ labels, e.isReply = false

theorem Silent.noReply {start w : World} {labels : List Event} (h : Silent start labels w) :
    NoReply labels := by
  intro e he
  rw [h.quiet e he]
  rfl

theorem NoReply.subset {labels more : List Event} (h : NoReply labels) (hsubset : more ⊆ labels) :
    NoReply more :=
  fun e he => h e (hsubset he)

theorem NoReply.append {labels more : List Event} (h : NoReply labels) (h' : NoReply more) :
    NoReply (labels ++ more) := by
  intro e he
  rcases List.mem_append.mp he with hbefore | hnow
  · exact h e hbefore
  · exact h' e hnow

/-- A part that shows at most the target of a message. -/
theorem wp_plain {α : Type} (target : Target) {p : EngineOp α}
    (hp : Acts (Plain (Event.AsksFor target)) p)
    {post : List Event → Except Fault α → World → Prop} {labels : List Event} {w : World}
    (hlabels : NoReply labels) (h : ∀ labels r w', NoReply labels → post labels r w') :
    wp p post labels w := by
  refine Lib.wp_of_acts (R := fun _ _ => True) (Q := fun e => e.isReply = false)
    (fun _ => trivial) (fun _ _ _ _ _ => trivial) ?_ hp ?_
  · intro e g hplain
    refine ⟨?_, fun _ => trivial⟩
    rcases hplain.label with rfl | hkind
    · rfl
    · cases hkind <;> rfl
  · intro more r w' hmore _
    exact h _ r w' (hlabels.append hmore)

/-- A pairing that reads as approved is approved. -/
theorem wp_pairingIsApproved {connector channelId sender : String}
    {post : List Event → Except Fault Bool → World → Prop} {labels : List Event} {w : World}
    (h : ∀ r w', (r = .ok true → ∃ row ∈ w.conversations.pairings,
      row.target = ⟨connector, channelId, sender⟩ ∧ row.status = "approved") →
        post (labels ++ [.approvalCheck ⟨connector, channelId, sender⟩]) r w') :
    wp (StateStore.pairingIsApproved connector channelId sender) post labels w := by
  refine Op.wp_bind (EngineOp.wp_attempt (Op.wp_guarded ?_))
  cases hr : result (View.conversations.run (StateStore.pairingForTargetStmt
    ⟨connector, channelId, sender⟩)) w with
  | error fault =>
      cases fault with
      | error message => exact Op.wp_pure (h _ _ nofun)
      | panic => exact h _ _ nofun
  | ok record =>
      refine Op.wp_pure (h _ _ fun happroved => ?_)
      rw [View.result_run] at hr
      obtain ⟨found, hfound, hrest⟩ := Stmt.result_bind_ok hr
      have hstored := Stmt.select_ok hfound
      cases found with
      | none => cases hrest
      | some row =>
          cases hrest
          refine ⟨row, List.mem_of_find?_eq_some hstored.symm, ?_, ?_⟩
          · simpa using List.find?_some hstored.symm
          · simpa [pairingRecordFromRow] using happroved

variable [Externals] {runtime : EngineRuntime}

/-- A message that waits at the gate has no reply while its pairing is not approved. -/
theorem wp_gate_closed {session : SessionRecord} {message : MessageEnvelope}
    {messageId : String} {labels : List Event} {w : World} (hlabels : NoReply labels)
    (hasks : runtime.asksPairing session.sessionType message = true)
    (hunapproved : ∀ row ∈ w.conversations.pairings, row.target = message.target →
      row.status ≠ "approved") :
    wp (runtime.gateMessage session message messageId) (fun labels _ _ => NoReply labels)
      labels w := by
  obtain ⟨happlies, hlisted⟩ : runtime.pairingApplies session.sessionType message = true ∧
      runtime.allowlisted message = false := by
    simpa [EngineRuntime.asksPairing] using hasks
  have hset := StateStore.keeps_setSessionPendingPairing session.id true
  refine Op.wp_bind ?_
  simp only [EngineRuntime.ensurePairingIfRequired, happlies, hlisted, Bool.not_true,
    Bool.false_eq_true, if_false]
  refine Op.wp_bind (wp_pairingIsApproved fun approved w₁ happroved => ?_)
  have hchecked : NoReply (labels ++ [.approvalCheck message.target]) :=
    hlabels.append fun e he => by rw [List.mem_singleton.mp he]; rfl
  cases approved with
  | error fault => exact hchecked
  | ok approved =>
      cases approved with
      | true =>
          obtain ⟨row, hrow, htarget, hstatus⟩ := happroved rfl
          exact absurd hstatus (hunapproved row hrow htarget)
      | false =>
          refine Op.andThen_ok (Op.wp_bind (wp_plain message.target
            (StateStore.acts_ensurePairing _ _ _ _ _) hchecked fun labels r w₂ hlabels => ?_))
          cases r with
          | error fault => exact hlabels
          | ok pairing =>
              refine Op.andThen_ok (Op.wp_bind (wp_plain message.target
                (keeps_plain hset).acts hlabels fun labels r w₃ hlabels => ?_))
              cases r with
              | error fault => exact hlabels
              | ok _ =>
                  refine Op.andThen_ok (Op.wp_pure (Op.andThen_ok ?_))
                  exact wp_plain message.target
                    (keeps_plain (EngineRuntime.keeps_deliverPairing _ _ _ _)).acts hlabels
                    fun labels r w₄ hlabels => hlabels

/-- A message that does not wait at the gate and is ignored has no reply. -/
theorem wp_gate_ignored {session : SessionRecord} {message : MessageEnvelope}
    {messageId : String} {labels : List Event} {w : World} (hlabels : NoReply labels)
    (hignored : runtime.shouldIgnoreMessage session.sessionType message = true) :
    wp (runtime.gateMessage session message messageId) (fun labels _ _ => NoReply labels)
      labels w := by
  have hgroup : session.sessionType = "group" := by
    by_contra hother
    simp [EngineRuntime.shouldIgnoreMessage, hother] at hignored
  have happlies : runtime.pairingApplies session.sessionType message = false := by
    simp [EngineRuntime.pairingApplies, hgroup]
  refine Op.wp_bind ?_
  simp only [EngineRuntime.ensurePairingIfRequired, happlies, Bool.not_false, if_true]
  refine Op.wp_pure (Op.andThen_ok ?_)
  simp only [hignored, if_true]
  exact Op.wp_pure hlabels

/-- A message that neither waits at the gate nor is ignored goes to the
orchestrator, if it is answered at all. -/
theorem wp_gate_open {session : SessionRecord} {message : MessageEnvelope}
    {messageId : String} {labels : List Event} {w : World}
    (hopen : session.sessionType ≠ "direct")
    (hheard : runtime.shouldIgnoreMessage session.sessionType message = false) :
    wp (runtime.gateMessage session message messageId)
      (fun labels r _ => (∃ reply, r = .ok reply) → ¬ NoReply labels) labels w := by
  have happlies : runtime.pairingApplies session.sessionType message = false := by
    simp [EngineRuntime.pairingApplies, hopen]
  refine Op.wp_bind ?_
  simp only [EngineRuntime.ensurePairingIfRequired, happlies, Bool.not_false, if_true]
  refine Op.wp_pure (Op.andThen_ok ?_)
  simp only [hheard, Bool.false_eq_true, if_false]
  refine Op.wp_bind (Lib.wp_any fun labels packed w₁ => ?_)
  cases packed with
  | error fault => rintro ⟨reply, hreply⟩; cases hreply
  | ok packed =>
      refine Op.andThen_ok (Op.wp_bind (Op.wp_stmt (Op.andThen_ok ?_)))
      -- Whatever follows, the prompt has been submitted.
      intro _ hnone
      have hsubmit := hnone _ (List.mem_append_left _ (List.mem_append_right _
        List.mem_cons_self))
      cases hsubmit

/-- The message of an unpaired sender that looks direct, where pairing is on. -/
structure EngineRuntime.UnpairedDirect (runtime : EngineRuntime) (w : World)
    (message : MessageEnvelope) : Prop where
  autoPair : runtime.config.routing.autoPairDm = true
  pairDm : (runtime.config.connector message.connector).pairDm = true
  connector : message.connector ≠ "desktop"
  direct : inferSessionType message = "direct"
  unlisted : message.sender ∉ (runtime.config.connector message.connector).allowlist
  unapproved : ∀ row ∈ w.conversations.pairings, row.target = message.target →
    row.status ≠ "approved"

/-- The session that the message goes to is stored as direct, or ignores it.  It
is direct whenever the sender is not the channel. -/
def EngineRuntime.GateStands (runtime : EngineRuntime) (w : World)
    (message : MessageEnvelope) : Prop :=
  message.sender ≠ message.channelId ∨ w.sessionTypeFor message = "direct" ∨
    runtime.shouldIgnoreMessage (w.sessionTypeFor message) message = true

theorem handleMessage_noReply {w : World} {message : MessageEnvelope}
    (hgroups : w.conversations.GroupsWithChannel) (hm : runtime.UnpairedDirect w message)
    (hgate : runtime.GateStands w message) :
    NoReply ((RuntimeCall.message message).events runtime w) := by
  refine NoReply.subset ?_ (RuntimeCall.events_subset runtime (.message message) w)
  show wp (runtime.handleMessage message) (fun labels _ _ => NoReply labels) [] w
  have hcases : w.sessionTypeFor message = "direct" ∨
      runtime.shouldIgnoreMessage (w.sessionTypeFor message) message = true := by
    rcases hgate with hsender | hstored
    · exact Or.inl (World.sessionTypeFor_direct hgroups hm.direct hsender)
    · exact hstored
  refine wp_handleMessage (fun labels _ _ hsilent => hsilent.noReply) ?_
  intro labels session messageId w' hsilent htype
  rw [← htype] at hcases
  rcases hcases with hdirect | hignored
  · refine wp_gate_closed hsilent.noReply ?_ ?_
    · simp [EngineRuntime.asksPairing, EngineRuntime.pairingApplies, EngineRuntime.allowlisted,
        hdirect, hm.connector, hm.autoPair, hm.pairDm, hm.unlisted]
    · rw [hsilent.untouched.calm.pairings]
      exact hm.unapproved
  · exact wp_gate_ignored hsilent.noReply hignored

/-- In every reachable state the message of an unpaired sender that looks direct
has no reply when the gate stands, and, unless it ends with an error, only then. -/
theorem handleMessage_gated {w : World} {message : MessageEnvelope}
    (hreach : (runtime.system fun _ _ => True).Reachable w)
    (hm : runtime.UnpairedDirect w message) :
    (runtime.GateStands w message → NoReply ((RuntimeCall.message message).events runtime w)) ∧
      ((∃ reply, (Lib.Prog.eval (runtime.handleMessage message) w).1 = .ok reply) →
        NoReply ((RuntimeCall.message message).events runtime w) →
          runtime.GateStands w message) := by
  refine ⟨handleMessage_noReply (reachable_groups hreach) hm, fun hreply hnone => ?_⟩
  by_contra hfalls
  obtain ⟨-, hopen, hheard⟩ : message.sender = message.channelId ∧
      w.sessionTypeFor message ≠ "direct" ∧
        runtime.shouldIgnoreMessage (w.sessionTypeFor message) message = false := by
    simpa [EngineRuntime.GateStands] using hfalls
  have hanswered : wp (runtime.handleMessage message)
      (fun labels r _ => (∃ reply, r = .ok reply) → ¬ NoReply labels) [] w := by
    refine wp_handleMessage (fun labels fault _ _ hok => ?_) ?_
    · obtain ⟨reply, hok⟩ := hok
      cases hok
    · intro labels session messageId w' hsilent htype
      rw [← htype] at hopen hheard
      exact wp_gate_open hopen hheard
  -- such a message does not ask for a pairing, and so it returns
  have hreturns : Lib.Prog.alone (runtime.handleMessage message) false w =
      .done (Lib.Prog.eval (runtime.handleMessage message) w).1 false
        (Lib.Prog.eval (runtime.handleMessage message) w).2 := by
    refine (parts_wait.handleMessage runtime message).returns fun e he => ?_
    rintro ⟨target, rfl⟩
    rcases runtime.trace_handleMessage message w _ he with hquiet | ⟨hasks, -⟩ | hreply
    · cases hquiet
    · simp [EngineRuntime.asksPairing, EngineRuntime.pairingApplies, hopen] at hasks
    · cases hreply
  have hevents : (RuntimeCall.message message).events runtime w =
      Lib.Prog.trace (runtime.handleMessage message) w :=
    Lib.Prog.aloneTrace_of_alone hreturns
  rw [hevents] at hnone
  exact hanswered hreply hnone

end

/-- The first message of a sender waits for its pairing. -/
theorem handleMessage_gated_first :
    NoReply (@RuntimeCall.events referenceExternals referenceRuntime
      (.message (referenceMessage "7" "7" "hi")) referenceWorld) := by
  refine (@handleMessage_gated referenceExternals referenceRuntime referenceWorld
    (referenceMessage "7" "7" "hi") (.of_init rfl) ?_).1 (Or.inr (Or.inl (by decide)))
  exact @EngineRuntime.UnpairedDirect.mk referenceExternals _ _ _ rfl rfl (by decide)
    (by decide) (by decide) fun row hrow => absurd hrow List.not_mem_nil

/-- A group has the channel of the sender, who then writes directly and mentions
the agent. -/
theorem handleMessage_gated_fails :
    ¬ ∀ [Externals] {runtime : EngineRuntime} {w : World} {message : MessageEnvelope},
      (runtime.system fun _ _ => True).Reachable w → runtime.UnpairedDirect w message →
        NoReply ((RuntimeCall.message message).events runtime w) := by
  intro h
  have hstart : (@EngineRuntime.system referenceExternals referenceRuntime
      fun _ _ => True).Reachable referenceWorld :=
    .of_init rfl
  have hnone := @h referenceExternals referenceRuntime
    (@RuntimeCall.after referenceExternals referenceRuntime
      (.message (referenceMessage "42" "7" "hi")) referenceWorld)
    (referenceMessage "42" "42" "openpinch, hi")
    (hstart.step ⟨trivial, rfl⟩)
    (@EngineRuntime.UnpairedDirect.mk referenceExternals _ _ _ rfl rfl (by decide)
      (by decide) (by decide) (by decide))
  have hreplied : (@RuntimeCall.events referenceExternals referenceRuntime
      (.message (referenceMessage "42" "42" "openpinch, hi"))
      (@RuntimeCall.after referenceExternals referenceRuntime
        (.message (referenceMessage "42" "7" "hi")) referenceWorld)).any Event.isReply =
          true := by
    decide
  obtain ⟨e, he, hreply⟩ := List.any_eq_true.mp hreplied
  rw [hnone e he] at hreply
  cases hreply

end OpenPinch
