import OpenPinch.Engine.Pairing
import OpenPinch.Lib.Pool

/-!
# Approvals in flight

The calls of the runtime as threads that share the connection.  A message reads
the approval of its target in one step and upserts the pairing in a later one.
A thread is armed in between, when it has read that there is no approval.

An approval stands until the next update of the pairing, when no thread that
read it before upserts it after (`approval_stands`).  The upsert of such a
thread sets it to pending.
-/

namespace OpenPinch

open Lib (Op Pool Move System)
open Lib.Op (result acts_bind acts_pure)
open Lib.Prog (Acts Keeps Follows)

/-! ## Armed threads -/

/-- The pairing that a message with the target finds is not approved. -/
def World.Unapproved (target : Target) (w : World) : Prop :=
  ∀ row, w.conversations.pairings.find? (·.target == target) = some row →
    row.status ≠ "approved"

/-- The database refuses the next statement. -/
def World.refusesNext (w : World) : Bool := w.around.refuses w.around.statements

/-- What a thread does, armed for the target or not: only an armed one upserts,
and only a check that finds no approval, or is refused, arms it. -/
structure Watch (target : Target) (armed : Bool) (e : Event) (w w' : World) (armed' : Bool) :
    Prop where
  pairings : PairingStep e w.conversations.pairings w'.conversations.pairings
  upsert : e = .pairingUpsert target → armed = true
  arms : armed' = true → armed = true ∨
    e = .approvalCheck target ∧ (w.refusesNext = true ∨ w.Unapproved target)

/-- The rest of a call, from a thread that is armed or not. -/
def Watched {α : Type} (target : Target) (armed : Bool) (p : Lib.Prog Event World α) : Prop :=
  Follows (Watch target) (fun _ _ => True) armed p

theorem Lawful.watch {target : Target} {kind : Event → Prop} {armed : Bool} {e : Event}
    {g : World → World} (h : Lawful kind e g)
    (hother : armed = true ∨ ¬ kind (.pairingUpsert target)) (w : World) :
    Watch target armed e w (g w) armed where
  pairings := h.pairings w
  upsert := by
    rintro rfl
    rcases hother with harmed | hother
    · exact harmed
    · rcases h.label with hquiet | hkind | hreply
      · cases hquiet
      · exact absurd hkind hother
      · cases hreply
  arms := Or.inl

/-- A part that cannot upsert the target, or may. -/
theorem watched_lawful {α : Type} {target : Target} {kind : Event → Prop} {armed : Bool}
    {p : Lib.Prog Event World α} (h : Acts (Lawful kind) p)
    (hother : armed = true ∨ ¬ kind (.pairingUpsert target)) : Watched target armed p :=
  (Acts.follows (fun _ _ hlawful w => hlawful.watch hother w) h).mono fun _ _ _ => trivial

/-- A part that shows no target. -/
theorem watched_unshown {α : Type} {target : Target} {armed : Bool}
    {p : Lib.Prog Event World α} (h : Acts (Lawful fun _ => False) p) :
    Watched target armed p :=
  watched_lawful h (Or.inr id)

/-- A part that leaves the thread as it is, and what follows it. -/
theorem watched_bind {α β : Type} {target : Target} {kind : Event → Prop} {armed : Bool}
    {p : EngineOp α} {f : α → EngineOp β} (h : Acts (Lawful kind) p)
    (hother : armed = true ∨ ¬ kind (.pairingUpsert target))
    (hf : ∀ a, Watched target armed (f a)) : Watched target armed (p >>= f : EngineOp β) := by
  refine Follows.bind (Acts.follows (fun _ _ hlawful w => hlawful.watch hother w) h) ?_
  rintro armed' r rfl
  cases r with
  | ok a => exact hf a
  | error e => exact .ret trivial

theorem watched_quiet {α β : Type} {target : Target} {armed : Bool} {p : EngineOp α}
    {f : α → EngineOp β} (h : Keeps Quiet false false p)
    (hf : ∀ a, Watched target armed (f a)) : Watched target armed (p >>= f : EngineOp β) :=
  have hunshown : Acts (Lawful fun _ => False) p := acts_quiet h
  watched_bind hunshown (Or.inr id) hf

/-- A part that ends armed or not, and what follows it. -/
theorem watched_then {α β : Type} {target : Target} {armed : Bool} {p : EngineOp α}
    {f : α → EngineOp β} (h : Watched target armed p)
    (hf : ∀ armed a, Watched target armed (f a)) :
    Watched target armed (p >>= f : EngineOp β) := by
  refine Follows.bind h fun armed' r _ => ?_
  cases r with
  | ok a => exact hf armed' a
  | error e => exact .ret trivial

theorem watched_pure {α : Type} {target : Target} {armed : Bool} (a : α) :
    Watched target armed (pure a : EngineOp α) :=
  .ret trivial

/-! ## The check -/

/-- The pairing that is found, when the database accepts the statement. -/
theorem result_pairingForTarget {target : Target} {w : World} {row : PairingRow}
    (haccepted : w.refusesNext = false)
    (hrow : w.conversations.pairings.find? (·.target == target) = some row) :
    result (View.conversations.run (StateStore.pairingForTargetStmt target)) w =
      .ok (pairingRecordFromRow row) := by
  have hfound : result (Stmt.select fun t : Conversations =>
      t.pairings.find? (·.target == target)) (w.around, View.conversations.get w) =
        .ok (some row) := by
    rw [Stmt.result_select, ← hrow]
    exact if_neg (by simpa [World.refusesNext] using haccepted)
  rw [View.result_run]
  refine (Stmt.result_bind _ _ _).trans ?_
  rw [hfound]
  rfl

/-- The check of the target arms the thread unless it reads that the pairing is
approved. -/
theorem follows_pairingIsApproved (target : Target) :
    Follows (Watch target) (fun armed r => armed = true ∨ r = .ok true) false
      (StateStore.pairingIsApproved target.connector target.channelId target.sender) := by
  let check := View.conversations.run (StateStore.pairingForTargetStmt target)
  let arms (w : World) : Bool :=
    match result check w with
    | .ok record => record.status != "approved"
    | .error _ => true
  have hcheck : ∀ w, Watch target false (.approvalCheck target) w (Op.after check w) (arms w) := by
    intro w
    refine ⟨?_, nofun, fun harms => Or.inr ⟨rfl, ?_⟩⟩
    · have hcalm := (untouched_calm (StateStore.calm_pairingForTargetStmt target) w).calm
      rw [show (Op.after check w).conversations.pairings = _ from hcalm.pairings]
      exact .same
    · cases hrefuses : w.refusesNext with
      | true => exact Or.inl rfl
      | false =>
          refine Or.inr fun row hrow => ?_
          have hstatus : (pairingRecordFromRow row).status ≠ "approved" := by
            simpa [arms, check, result_pairingForTarget hrefuses hrow] using harms
          exact hstatus
  refine .lock (.act arms hcheck fun w => .unlock ?_)
  cases hr : result check w with
  | error fault =>
      have harms : arms w = true := by simp [arms, hr]
      rw [harms]
      cases fault with
      | error message => exact .ret (Or.inl rfl)
      | panic => exact .ret (Or.inl rfl)
  | ok record =>
      refine .ret ?_
      by_cases happroved : record.status = "approved"
      · exact Or.inr (by simp [happroved])
      · exact Or.inl (by simp [arms, hr, happroved])

/-! ## Calls as threads -/

section

variable [Externals] (runtime : EngineRuntime)

omit [Externals] in
/-- A message at the gate upserts its target only after it has found no approval. -/
theorem watched_ensurePairingIfRequired (session : SessionRecord) (message : MessageEnvelope) :
    Watched message.target false (runtime.ensurePairingIfRequired session message) := by
  have hclear := StateStore.keeps_setSessionPendingPairing session.id false
  have hset := StateStore.keeps_setSessionPendingPairing session.id true
  cases happlies : runtime.pairingApplies session.sessionType message with
  | false =>
      simp only [EngineRuntime.ensurePairingIfRequired, happlies, Bool.not_false, if_true]
      exact watched_pure none
  | true =>
      cases hlisted : runtime.allowlisted message with
      | true =>
          simp only [EngineRuntime.ensurePairingIfRequired, happlies, hlisted, Bool.not_true,
            Bool.false_eq_true, if_false, if_true]
          exact watched_quiet hclear fun _ => watched_pure none
      | false =>
          simp only [EngineRuntime.ensurePairingIfRequired, happlies, hlisted, Bool.not_true,
            Bool.false_eq_true, if_false]
          refine Follows.bind (follows_pairingIsApproved message.target) fun armed r hr => ?_
          cases r with
          | error fault => exact .ret trivial
          | ok approved =>
              cases approved with
              | true => exact watched_quiet hclear fun _ => watched_pure none
              | false =>
                  have harmed : armed = true := by simpa using hr
                  have hensure := StateStore.acts_ensurePairing message.connector
                    message.channelId message.sender session.id "direct message not yet paired"
                  have hrest := acts_bind (hensure.mono fun _ _ => Plain.lawful) fun pairing =>
                    acts_bind (acts_quiet hset) fun _ => acts_pure (some pairing.id)
                  exact watched_lawful hrest (Or.inl harmed)

theorem watched_gateMessage (session : SessionRecord) (message : MessageEnvelope)
    (messageId : String) :
    Watched message.target false (runtime.gateMessage session message messageId) := by
  refine watched_then (watched_ensurePairingIfRequired runtime session message) ?_
  intro armed pairing
  cases pairing with
  | some pairingId =>
      exact watched_unshown
        (acts_quiet (EngineRuntime.keeps_deliverPairing session message messageId pairingId))
  | none =>
      exact watched_unshown (Op.acts_ite (fun _ => acts_pure _) fun _ =>
        runtime.acts_answerMessage session message messageId)

/-- Every call follows the watch of every target, from a thread that is not armed. -/
theorem watched_call (target : Target) (call : RuntimeCall) :
    Watched target false (call.op runtime) := by
  by_cases hother : call.kind (.pairingUpsert target)
  · cases call with
    | message message =>
        obtain rfl : message.target = target := by
          generalize hshown : Event.pairingUpsert target = shown at hother
          cases hother with
          | check => cases hshown
          | upsert => exact (Event.pairingUpsert.inj hshown).symm
        refine watched_quiet (StateStore.keeps_recordMessage message) fun _ => ?_
        refine watched_quiet (StateStore.keeps_resolveSessionForInbound _ _ _) fun session => ?_
        refine watched_quiet (StateStore.keeps_recordSessionMessage _ _ _ _ _ _) fun id => ?_
        refine watched_quiet (keeps_aside (EngineOp.keeps_ignore
          (runtime.brain.keeps_ingestMessage message))) fun _ => ?_
        exact watched_gateMessage runtime session message id
    | outbound request => cases hother
    | prune request => cases hother
    | update request => cases hother
  · exact watched_lawful (call.lawful runtime) (Or.inr hother)

/-- The thread of a call. -/
def RuntimeCall.thread (call : RuntimeCall) : Lib.Prog Event World Unit :=
  Lib.Prog.bind (call.op runtime) fun _ => .ret ()

theorem watched_thread (target : Target) (call : RuntimeCall) :
    Watched target false (call.thread runtime) :=
  Follows.bind (watched_call runtime target call) fun _ _ _ => .ret trivial

/-! ## Decisions of the operator -/

/-- An update of a known pairing sets its status, when the database accepts it. -/
def Decision (e : Event) (w w' : World) : Prop :=
  ∀ pairingId status row, e = .pairingUpdate pairingId status → w.refusesNext = false →
    w.pairing? pairingId = some row →
      ∃ row', w'.pairing? pairingId = some row' ∧ row'.target = row.target ∧
        row'.status = status

omit [Externals] in
theorem Lawful.decision {kind : Event → Prop} {e : Event} {g : World → World}
    (h : Lawful kind e g) (hkind : ∀ pairingId status, ¬ kind (.pairingUpdate pairingId status))
    (w : World) : Decision e w (g w) := by
  rintro pairingId status row rfl
  rcases h.label with hquiet | hshown | hreply
  · cases hquiet
  · exact absurd hshown (hkind pairingId status)
  · cases hreply

theorem acts_decision (call : RuntimeCall) :
    Acts (fun e g => ∀ w, Decision e w (g w)) (call.op runtime) := by
  have hnone : ∀ {α : Type} {p : EngineOp α}, Keeps Quiet false false p →
      Acts (fun e g => ∀ w, Decision e w (g w)) p := by
    intro α p hp
    have hunshown : Acts (Lawful fun _ => False) p := acts_quiet hp
    exact hunshown.mono fun _ _ hlawful => hlawful.decision fun _ _ => id
  cases call with
  | message message =>
      exact (runtime.acts_handleMessage message).mono
        fun _ _ hlawful => hlawful.decision fun _ _ => nofun
  | outbound request => exact hnone (runtime.keeps_recordOutboundMessage request)
  | prune request => exact hnone (StateStore.keeps_pruneSessions request)
  | update request =>
      have hstore : Acts (fun e g => ∀ w, Decision e w (g w))
          (StateStore.updatePairing request) := by
        refine acts_bind (hnone (keeps_aside EngineOp.keeps_now)) fun now => ?_
        refine .lock (.act ?_ fun _ => .unlock .ret)
        intro w pairingId status row hevent haccepted hknown
        cases hevent
        exact EngineRuntime.pairing?_updatePairingStmt hknown haccepted
      refine acts_bind hstore fun pairing => ?_
      exact acts_bind (hnone (keeps_aside (EngineRuntime.keeps_recordAudit _ _ _ _ _)))
        fun _ => acts_pure pairing

end

/-! ## One row for each target -/

/-- The uniqueness of connector, channel and sender in the table. -/
def World.UniqueTargets (w : World) : Prop :=
  ∀ row ∈ w.conversations.pairings, ∀ other ∈ w.conversations.pairings,
    row.target = other.target → row = other

theorem unique_updateWhere {rows : List PairingRow} {test : PairingRow → Bool}
    {change : PairingRow → PairingRow} (htarget : ∀ row, (change row).target = row.target)
    (h : ∀ row ∈ rows, ∀ other ∈ rows, row.target = other.target → row = other) :
    ∀ row ∈ Lib.Table.updateWhere test change rows,
      ∀ other ∈ Lib.Table.updateWhere test change rows,
        row.target = other.target → row = other := by
  have hkeeps : ∀ row, (if test row then change row else row).target = row.target := by
    intro row
    split
    · exact htarget row
    · rfl
  intro row hrow other hother same
  obtain ⟨old, hold, rfl⟩ := Lib.Table.mem_updateWhere.mp hrow
  obtain ⟨old', hold', rfl⟩ := Lib.Table.mem_updateWhere.mp hother
  rw [hkeeps, hkeeps] at same
  rw [h old hold old' hold' same]

theorem PairingStep.unique {e : Event} {rows rows' : List PairingRow}
    (hstep : PairingStep e rows rows')
    (h : ∀ row ∈ rows, ∀ other ∈ rows, row.target = other.target → row = other) :
    ∀ row ∈ rows', ∀ other ∈ rows', row.target = other.target → row = other := by
  cases hstep with
  | same => exact h
  | renew sets => exact unique_updateWhere sets.target h
  | decide sets => exact unique_updateWhere sets.target h
  | add newId newTarget pending =>
      intro row hrow other hother same
      rcases List.mem_append.mp hrow with hold | hnew <;>
        rcases List.mem_append.mp hother with hold' | hnew'
      · exact h row hold other hold' same
      · cases List.mem_singleton.mp hnew'
        exact absurd same (newTarget row hold)
      · cases List.mem_singleton.mp hnew
        exact absurd same.symm (newTarget other hold')
      · exact (List.mem_singleton.mp hnew).trans (List.mem_singleton.mp hnew').symm

/-- An approved row is the one that its target finds. -/
theorem World.UniqueTargets.not_unapproved {w : World} {pairingId : String} {row : PairingRow}
    (h : w.UniqueTargets) (hrow : w.pairing? pairingId = some row)
    (happroved : row.status = "approved") : ¬ w.Unapproved row.target := by
  intro hunapproved
  have hmem : row ∈ w.conversations.pairings := List.mem_of_find?_eq_some hrow
  cases hfind : w.conversations.pairings.find? (·.target == row.target) with
  | none => simpa using List.find?_eq_none.mp hfind row hmem
  | some found =>
      have htarget : found.target = row.target := by simpa using List.find?_some hfind
      have hsame := h found (List.mem_of_find?_eq_some hfind) row hmem htarget
      exact hunapproved found hfind (hsame ▸ happroved)

/-! ## Interleavings -/

section

variable [Externals] {runtime : EngineRuntime}

/-- The interleavings of the calls of a runtime, over a table of pairings with
one row for each target.  Each move is allowed where it happens. -/
def EngineRuntime.threads (runtime : EngineRuntime)
    (allowed : Pool Event World → Move RuntimeCall Event → Prop) :
    System (Pool Event World) (Move RuntimeCall Event) :=
  Pool.system (RuntimeCall.thread runtime) World.UniqueTargets allowed

/-- An armed thread has checked the target before. -/
def Checked (target : Target) (moves : List (Move RuntimeCall Event)) (thread : Nat)
    (armed : Bool) : Prop :=
  armed = true → .step thread (some (.approvalCheck target)) ∈ moves

/-- What holds of a pool after some moves: threads are armed only by their
checks, updates decide, and targets are unique. -/
structure Tracked (target : Target) (moves : List (Move RuntimeCall Event))
    (s : Pool Event World) : Prop where
  watched : s.Follow (Watch target) (Checked target moves)
  decisions : s.Follow (fun (_ : Unit) e w w' _ => Decision e w w') fun _ _ => True
  unique : s.shared.UniqueTargets

theorem Tracked.spawn {target : Target} {moves : List (Move RuntimeCall Event)}
    {s : Pool Event World} (h : Tracked target moves s) (call : RuntimeCall) :
    Tracked target moves (s.spawn (call.thread runtime)) where
  watched := h.watched.spawn (a := false) (fun _ => nofun) (watched_thread runtime target call)
  decisions := by
    refine h.decisions.spawn (a := ()) (fun _ => trivial) (Follows.bind
      (Acts.follows (fun _ _ hdecision w => hdecision w) (acts_decision runtime call)) ?_)
    exact fun _ _ _ => .ret trivial
  unique := h.unique

omit [Externals] in
theorem Tracked.mono {target : Target} {moves moves' : List (Move RuntimeCall Event)}
    {s : Pool Event World} (h : Tracked target moves s)
    (hmoves : ∀ move ∈ moves, move ∈ moves') : Tracked target moves' s :=
  ⟨h.watched.mono fun _ _ hmark harmed => hmoves _ (hmark harmed), h.decisions, h.unique⟩

omit [Externals] in
/-- A thread that is not armed by its step was armed before. -/
theorem Tracked.next {target : Target} {moves moves' : List (Move RuntimeCall Event)}
    {s s' : Pool Event World} {thread : Nat} {event : Option Event} (h : Tracked target moves s)
    (hnext : s.next? thread = some (event, s')) (hmoves : ∀ move ∈ moves, move ∈ moves')
    (hcheck : event = some (.approvalCheck target) →
      (s.shared.refusesNext = true ∨ s.shared.Unapproved target) →
        .step thread (some (.approvalCheck target)) ∈ moves') :
    Tracked target moves' s' where
  watched := by
    refine h.watched.next hnext (fun _ _ hmark harmed => hmoves _ (hmark harmed)) ?_
    intro e a b hevent hmark hwatch hb
    rcases hwatch.arms hb with ha | ⟨rfl, hfound⟩
    · exact hmoves _ (hmark ha)
    · exact hcheck hevent hfound
  decisions := h.decisions.next hnext (fun _ _ _ => trivial) fun _ _ _ _ _ _ => trivial
  unique := by
    cases event with
    | none =>
        rw [Pool.shared_of_next hnext]
        exact h.unique
    | some e =>
        obtain ⟨a, b, -, hwatch⟩ := h.watched.allows hnext
        exact hwatch.pairings.unique h.unique

/-- Along a run the checks so far account for the armed threads. -/
theorem tracked_run {target : Target} {allowed : Pool Event World → Move RuntimeCall Event → Prop}
    {s s' : Pool Event World} {moves before : List (Move RuntimeCall Event)}
    (hrun : (runtime.threads allowed).Run s moves s') (h : Tracked target before s) :
    Tracked target (before ++ moves) s' := by
  induction hrun generalizing before with
  | nil s => rwa [List.append_nil]
  | @cons s s₁ s₂ move moves hstep _ ih =>
      rw [List.append_cons]
      refine ih ?_
      cases move with
      | start call =>
          have hspawn : Tracked target before s₁ := by
            rw [show s₁ = _ from hstep.2]
            exact h.spawn call
          exact hspawn.mono fun _ => List.mem_append_left _
      | step thread event =>
          refine h.next hstep.2 (fun _ => List.mem_append_left _) fun hevent _ => ?_
          rw [← hevent]
          exact List.mem_append_right _ List.mem_cons_self

/-- The move is no update of the pairing. -/
def NoUpdate (pairingId : String) (move : Move RuntimeCall Event) : Prop :=
  ∀ thread status, move ≠ .step thread (some (.pairingUpdate pairingId status))

/-- The move is no upsert by a thread that checked the target before, and no
check that the database refuses. -/
structure NoRace (target : Target) (before : List (Move RuntimeCall Event))
    (s : Pool Event World) (move : Move RuntimeCall Event) : Prop where
  upsert : ∀ thread, move = .step thread (some (.pairingUpsert target)) →
    .step thread (some (.approvalCheck target)) ∉ before
  check : ∀ thread, move = .step thread (some (.approvalCheck target)) →
    s.shared.refusesNext = false

/-- One move keeps an approved pairing, and arms no thread. -/
theorem approved_step {before : List (Move RuntimeCall Event)} {s s' : Pool Event World}
    {move : Move RuntimeCall Event} {pairingId : String} {row : PairingRow}
    (hstep : (runtime.threads fun s move => NoUpdate pairingId move ∧
      NoRace row.target before s move).step s move s')
    (h : Tracked row.target before s) (hrow : s.shared.pairing? pairingId = some row)
    (happroved : row.status = "approved") :
    Tracked row.target before s' ∧ s'.shared.pairing? pairingId = some row := by
  obtain ⟨⟨hupdate, hrace⟩, hmove⟩ := hstep
  cases move with
  | start call =>
      rw [show s' = _ from hmove]
      exact ⟨h.spawn call, hrow⟩
  | step thread event =>
      refine ⟨h.next hmove (fun _ => id) fun hevent hfound => ?_, ?_⟩
      · have haccepted := hrace.check thread (by rw [hevent])
        rcases hfound with hrefused | hunapproved
        · rw [haccepted] at hrefused
          cases hrefused
        · exact absurd hunapproved (h.unique.not_unapproved hrow happroved)
      · cases event with
        | none =>
            rw [Pool.shared_of_next hmove]
            exact hrow
        | some e =>
            obtain ⟨armed, armed', hchecked, hwatch⟩ := h.watched.allows hmove
            refine hwatch.pairings.find? hrow ⟨?_, ?_⟩
            · rintro rfl
              exact hrace.upsert thread rfl (hchecked (hwatch.upsert rfl))
            · rintro status rfl
              exact hupdate thread status rfl

/-- In every interleaving an approved pairing stays approved until its next
update, when no thread that checked it before the approval upserts it afterwards
and the database refuses no check. -/
theorem approval_stands {start s s₁ s₂ : Pool Event World}
    {before after : List (Move RuntimeCall Event)} {thread : Nat} {pairingId : String}
    {row : PairingRow} (hinit : (runtime.threads fun _ _ => True).init start)
    (hbefore : (runtime.threads fun _ _ => True).Run start before s)
    (hknown : s.shared.pairing? pairingId = some row) (haccepted : s.shared.refusesNext = false)
    (hcommit : s.next? thread = some (some (.pairingUpdate pairingId "approved"), s₁))
    (hafter : (runtime.threads fun s move => NoUpdate pairingId move ∧
      NoRace row.target before s move).Run s₁ after s₂) :
    ∃ row', s₂.shared.pairing? pairingId = some row' ∧ row'.status = "approved" := by
  have hstart : Tracked row.target [] start := by
    obtain ⟨-, hthreads, hunique⟩ := hinit
    refine ⟨fun thread p hp => ?_, fun thread p hp => ?_, hunique⟩
    · simp [hthreads] at hp
    · simp [hthreads] at hp
  have htracked : Tracked row.target before s := tracked_run hbefore hstart
  have htracked₁ : Tracked row.target before s₁ :=
    htracked.next hcommit (fun _ => id) nofun
  obtain ⟨-, -, -, hdecision⟩ := htracked.decisions.allows hcommit
  obtain ⟨row₁, hrow₁, htarget, hstatus⟩ :=
    hdecision pairingId "approved" row rfl haccepted hknown
  rw [← htarget] at htracked₁ hafter
  refine ⟨row₁, ?_, hstatus⟩
  have hkept := hafter.preserves (P := fun s => Tracked row₁.target before s ∧
    s.shared.pairing? pairingId = some row₁) ?_ ⟨htracked₁, hrow₁⟩
  · exact hkept.2
  · intro s move s' hstep h
    exact approved_step hstep h.1 h.2 hstatus

end

/-! ## Two schedules -/

/-- A pool without threads, where one sender waits for its pairing. -/
def waitingPool : Pool Event World where
  locked := false
  shared := { referenceWorld with conversations :=
    ⟨[], [], [], [⟨"pairing-0", "telegram", "7", "7", "session-0", "pending", "", "", 0, 0⟩]⟩ }
  threads := []

/-- The threads of the runtime of reference. -/
def referenceThread (call : RuntimeCall) : Lib.Prog Event World Unit :=
  @RuntimeCall.thread referenceExternals referenceRuntime call

/-- The interleavings of the runtime of reference. -/
def referenceThreads (allowed : Pool Event World → Move RuntimeCall Event → Prop) :
    System (Pool Event World) (Move RuntimeCall Event) :=
  @EngineRuntime.threads referenceExternals referenceRuntime allowed

theorem waitingPool_init : (referenceThreads fun _ _ => True).init waitingPool :=
  ⟨rfl, rfl, fun _ hrow _ hother _ =>
    (List.mem_singleton.mp hrow).trans (List.mem_singleton.mp hother).symm⟩

/-- A schedule, the approval of the pairing by a thread, and a schedule after it
whose moves and end pass the tests. -/
def approvalSchedule (before : List (RuntimeCall ⊕ Nat)) (thread : Nat)
    (after : List (RuntimeCall ⊕ Nat))
    (allowed : Pool Event World → Move RuntimeCall Event → Bool)
    (test : List (Move RuntimeCall Event) → Pool Event World → Bool) : Bool :=
  (Pool.play referenceThread before waitingPool).any fun (_, s) =>
    !s.shared.refusesNext && (s.shared.pairing? "pairing-0").isSome &&
      (s.next? thread).any fun (event, s₁) =>
        event == some (.pairingUpdate "pairing-0" "approved") &&
          (Pool.playWhile referenceThread (fun s move _ => allowed s move) after s₁).any
            fun (moves, s₂) => test moves s₂

theorem exists_of_approvalSchedule {before after : List (RuntimeCall ⊕ Nat)} {thread : Nat}
    {allowed : Pool Event World → Move RuntimeCall Event → Bool}
    {test : List (Move RuntimeCall Event) → Pool Event World → Bool}
    (h : approvalSchedule before thread after allowed test = true) :
    ∃ moves s s₁ moves' s₂ row,
      (referenceThreads fun _ _ => True).Run waitingPool moves s ∧
      s.shared.pairing? "pairing-0" = some row ∧ s.shared.refusesNext = false ∧
      s.next? thread = some (some (.pairingUpdate "pairing-0" "approved"), s₁) ∧
      (∀ P : Pool Event World → Move RuntimeCall Event → Prop,
        (∀ s move, allowed s move = true → P s move) →
          (referenceThreads P).Run s₁ moves' s₂) ∧
      test moves' s₂ = true := by
  simp only [approvalSchedule, Option.any_eq_true, Bool.and_eq_true, Bool.not_eq_true',
    Option.isSome_iff_exists, beq_iff_eq] at h
  obtain ⟨⟨moves, s⟩, hbefore, ⟨haccepted, row, hrow⟩, ⟨event, s₁⟩, hnext, rfl,
    ⟨moves', s₂⟩, hafter, htest⟩ := h
  exact ⟨moves, s, s₁, moves', s₂, row, Pool.run_of_play hbefore fun _ _ _ => trivial, hrow,
    haccepted, hnext, fun P hP => Pool.run_of_playWhile (I := fun _ => True) hafter trivial
      fun s move _ _ _ hallowed => ⟨hP s move hallowed, trivial⟩, htest⟩

/-- No move after the approval is an upsert or an update, and each check is accepted. -/
def unraced (s : Pool Event World) (move : Move RuntimeCall Event) : Bool :=
  !s.shared.refusesNext &&
    move.passes fun e => !(e matches .pairingUpsert _ | .pairingUpdate ..)

theorem noRace_of_unraced {s : Pool Event World} {move : Move RuntimeCall Event}
    (h : unraced s move = true) (target : Target) (before : List (Move RuntimeCall Event)) :
    NoUpdate "pairing-0" move ∧ NoRace target before s move := by
  obtain ⟨haccepts, hpasses⟩ := Bool.and_eq_true_iff.mp h
  refine ⟨?_, ?_, fun thread _ => by simpa using haccepts⟩
  · rintro thread status rfl
    cases hpasses
  · rintro thread rfl
    cases hpasses

/-- What the moves show, and of which threads. -/
def shown (moves : List (Move RuntimeCall Event)) : List (Nat × Event) :=
  moves.filterMap fun move =>
    match move with
    | .step thread (some e) => if e = .quiet then none else some (thread, e)
    | _ => none

/-- A message is recorded before the approval of its sender commits, and checks it and is answered
afterwards. -/
theorem approval_stands_first :
    ∃ before s s₁ after s₂, (referenceThreads fun _ _ => True).Run waitingPool before s ∧
      s.next? 0 = some (some (.pairingUpdate "pairing-0" "approved"), s₁) ∧
      (referenceThreads fun _ _ => True).Run s₁ after s₂ ∧
      (shown after).head? = some (1, .approvalCheck ⟨"telegram", "7", "7"⟩) ∧
      (shown after).getLast? = some (1, .answered "hello" "live") ∧
      ∃ row, s₂.shared.pairing? "pairing-0" = some row ∧ row.status = "approved" := by
  have hschedule : approvalSchedule
      ([.inl (.update ⟨"pairing-0", "approve", ""⟩),
        .inl (.message (referenceMessage "7" "7" "hi"))] ++ List.replicate 11 (.inr 1) ++
          [.inr 0, .inr 0])
      0 (.inr 0 :: List.replicate 32 (.inr 1)) unraced
      (fun moves _ =>
        (shown moves).head? = some (1, .approvalCheck ⟨"telegram", "7", "7"⟩) ∧
          (shown moves).getLast? = some (1, .answered "hello" "live")) = true := by
    decide +kernel
  obtain ⟨before, s, s₁, after, s₂, row, hbefore, hrow, haccepted, hnext, hafter, hshown⟩ :=
    exists_of_approvalSchedule hschedule
  obtain ⟨hcheck, hanswered⟩ := of_decide_eq_true hshown
  refine ⟨before, s, s₁, after, s₂, hbefore, hnext, hafter _ fun _ _ _ => trivial, hcheck,
    hanswered, ?_⟩
  exact @approval_stands referenceExternals referenceRuntime _ _ _ _ _ _ _ _ _
    waitingPool_init hbefore hrow haccepted hnext
    (hafter _ fun _ _ hunraced => noRace_of_unraced hunraced _ _)

/-- The approval commits between the check of a message and its upsert. -/
theorem approval_stands_fails :
    ¬ ∀ [Externals] {runtime : EngineRuntime} {start s s₁ s₂ : Pool Event World}
      {before after : List (Move RuntimeCall Event)} {thread : Nat} {pairingId : String}
      {row : PairingRow},
      (runtime.threads fun _ _ => True).init start →
      (runtime.threads fun _ _ => True).Run start before s →
      s.shared.pairing? pairingId = some row → s.shared.refusesNext = false →
      s.next? thread = some (some (.pairingUpdate pairingId "approved"), s₁) →
      (runtime.threads fun _ move => NoUpdate pairingId move).Run s₁ after s₂ →
      ∃ row', s₂.shared.pairing? pairingId = some row' ∧ row'.status = "approved" := by
  intro h
  have hschedule : approvalSchedule
      ([.inl (.message (referenceMessage "7" "7" "hi")),
        .inl (.update ⟨"pairing-0", "approve", ""⟩)] ++ List.replicate 14 (.inr 0) ++
          [.inr 1, .inr 1])
      1 (.inr 1 :: List.replicate 4 (.inr 0))
      (fun _ move => move.passes fun e => e matches .quiet | .pairingUpsert _)
      (fun _ s => (s.shared.pairing? "pairing-0").map PairingRow.status == some "pending") =
        true := by
    decide
  obtain ⟨moves, s, s₁, moves', s₂, row, hbefore, hrow, haccepted, hnext, hafter, hpending⟩ :=
    exists_of_approvalSchedule hschedule
  have hundecided : ∀ move : Move RuntimeCall Event,
      (move.passes fun e => e matches .quiet | .pairingUpsert _) = true →
        NoUpdate "pairing-0" move := by
    rintro move hlabel thread status rfl
    cases hlabel
  obtain ⟨row', hrow', happroved⟩ := @h referenceExternals referenceRuntime _ _ _ _ _ _ _ _ _
    waitingPool_init hbefore hrow haccepted hnext
    (hafter _ fun _ move hlabel => hundecided move hlabel)
  rw [hrow', Option.map_some, happroved] at hpending
  exact absurd hpending (by decide)

end OpenPinch
