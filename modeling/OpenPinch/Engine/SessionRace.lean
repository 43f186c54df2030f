import OpenPinch.Engine.PairingRace
import OpenPinch.Engine.SessionCalls

/-!
# Messages in flight

The calls of the runtime as threads that share the connection.  A thread looks
up a session in one step and records messages in it in later ones.  It is bound
to the session in between.

Each message has its session, when no session is deleted that a thread is bound
to (`messages_owned`).
-/

namespace OpenPinch

open Lib (Op Pool Move System)
open Lib.Op (after result acts_bind acts_pure follows_bind)
open Lib.Prog (Acts Follows)

/-! ## Lookups -/

/-- What a thread does that has looked up a session or not: it records messages
in its session only, and a session that it finds is there. -/
structure Lookup (held : Option String) (_ : Event) (w w' : World) (held' : Option String) :
    Prop where
  step : ∃ next faulty, SessionStep (fun id => held = some id) next faulty w.conversations
    w'.conversations
  found : held' = held ∨
    held = none ∧ ∃ sessionId, held' = some sessionId ∧ w'.conversations.HasSession sessionId

/-- A part that records messages in the session of the thread only. -/
theorem follows_held {α : Type} {held : Option String} {p : Lib.Prog Event World α}
    (h : Acts (SessionAction fun id => held = some id) p) :
    Follows Lookup (fun held' _ => held' = held) held p :=
  h.follows fun _ _ hstep w => ⟨⟨_, _, hstep w⟩, Or.inl rfl⟩

/-- A statement that may find a session. -/
theorem follows_lookup {α : Type} {m : Stmt Conversations α} (held : α → Option String)
    (hsteps : m.Steps fun id => none = some id)
    (hfound : ∀ s a sessionId, result m s = .ok a → held a = some sessionId →
      (after m s).2.HasSession sessionId) :
    Follows Lookup (fun held' r => ∀ a, r = .ok a → held' = held a) none
      (EngineOp.guarded .conversations m) := by
  let run := View.conversations.run m
  let found (w : World) : Option String := (result run w).toOption.bind held
  refine .lock (.act found (fun w => ⟨⟨_, _, sessionAction_run hsteps .quiet w⟩, ?_⟩) fun w =>
    .unlock (.ret fun a ha => ?_))
  · cases hheld : found w with
    | none => exact Or.inl rfl
    | some sessionId =>
        refine Or.inr ⟨rfl, sessionId, rfl, ?_⟩
        cases hr : result run w with
        | error fault => simp [found, hr, Except.toOption] at hheld
        | ok a =>
            have ha : held a = some sessionId := by
              simpa [found, hr, Except.toOption] using hheld
            rw [View.result_run] at hr
            rw [View.after_run]
            exact hfound (w.around, w.conversations) a sessionId hr ha
  · have hr : result run w = .ok a := ha
    simp [found, hr, Except.toOption]

/-- A part that holds what it found, and what follows it. -/
theorem follows_then {α β : Type} {held : Option String} {p : EngineOp α} {f : α → EngineOp β}
    (h : Acts (SessionAction fun id => held = some id) p)
    (hf : ∀ a, Follows Lookup (fun _ _ => True) held (f a)) :
    Follows Lookup (fun _ _ => True) held (p >>= f : EngineOp β) := by
  have hheld : Follows Lookup (fun held' r => ∀ a : α, r = .ok a → held' = held) held p :=
    (follows_held h).mono fun _ _ hsame _ _ => hsame
  refine follows_bind hheld ?_
  rintro _ a rfl
  exact hf a

/-! ## The parts of a message -/

theorem acts_answeringSteps {α : Type} {records : String → Prop} {p : EngineOp α}
    (h : Acts Answering p) : Acts (SessionAction records) p := by
  refine h.mono fun e g hanswering w => ?_
  rw [hanswering.conversations w]
  exact .same rfl rfl

namespace StateStore

open Stmt (respects_bind respects_select respects_pure respects_fail respects_insert)

variable {records : String → Prop}

theorem sameChats_pairingForTargetStmt (target : Target) :
    (pairingForTargetStmt target).Respects SameChats := by
  refine respects_bind SameChats.trans (respects_select SameChats.refl _) fun found => ?_
  cases found with
  | some row => exact respects_pure SameChats.refl _
  | none => exact respects_fail SameChats.refl _

theorem sessionActs_pairingIsApproved (connectorName channelId sender : String) :
    Acts (SessionAction records) (pairingIsApproved connectorName channelId sender) := by
  refine acts_bind (EngineOp.acts_attempt (acts_steps
    (sameChats_pairingForTargetStmt _).steps)) fun pairing => ?_
  cases pairing with
  | ok record => exact acts_pure _
  | error message => exact acts_pure _

theorem sameChats_ensurePairingStmt (row : PairingRow) :
    (ensurePairingStmt row).Respects SameChats := by
  refine respects_insert SameChats.refl fun t t' h => ?_
  obtain ⟨rows, -, rfl⟩ := Option.map_eq_some_iff.mp h
  exact ⟨rfl, rfl⟩

theorem sessionActs_ensurePairing (connectorName channelId sender sessionId reason : String) :
    Acts (SessionAction records)
      (ensurePairing connectorName channelId sender sessionId reason) := by
  refine acts_bind (acts_asideSteps EngineOp.keeps_now) fun now => ?_
  refine acts_bind (acts_asideSteps EngineOp.keeps_newUuid) fun uuid => ?_
  refine Op.acts_holding ?_ fun _ => acts_steps (sameChats_pairingForTargetStmt _).steps
  exact sessionAction_run (sameChats_ensurePairingStmt _).steps _

/-- A session that is resolved is there. -/
theorem hasSession_resolveSessionStmt [Externals] {connectorName channelId participant
    sessionType defaultModelProfile : String} {config : AppConfig}
    {s : Surroundings × Conversations} {session : SessionRecord}
    (h : result (resolveSessionStmt connectorName channelId participant sessionType config
      defaultModelProfile) s = .ok session) :
    (after (resolveSessionStmt connectorName channelId participant sessionType config
      defaultModelProfile) s).2.HasSession session.id := by
  obtain ⟨row, hrow, -, hid⟩ := exists_row_resolveSessionStmt h
  exact ⟨row, hrow, hid⟩

end StateStore

namespace EngineRuntime

variable [Externals] (runtime : EngineRuntime) {records : String → Prop}

omit [Externals] in
theorem sessionActs_ensurePairingIfRequired (session : SessionRecord)
    (message : MessageEnvelope) :
    Acts (SessionAction records) (runtime.ensurePairingIfRequired session message) := by
  have hflag (value : Bool) : Acts (SessionAction records)
      (StateStore.setSessionPendingPairing session.id value) :=
    StateStore.sessionActs_setSessionPendingPairing session.id value
  refine Op.acts_ite (fun _ => acts_pure _) fun _ => Op.acts_ite (fun _ => ?_) fun _ => ?_
  · exact acts_bind (hflag false) fun _ => acts_pure _
  · refine acts_bind (StateStore.sessionActs_pairingIsApproved _ _ _) fun approved => ?_
    refine Op.acts_ite (fun _ => acts_bind (hflag false) fun _ => acts_pure _) fun _ => ?_
    refine acts_bind (StateStore.sessionActs_ensurePairing _ _ _ _ _) fun pairing => ?_
    exact acts_bind (hflag true) fun _ => acts_pure _

theorem sessionActs_deliverReply {session : SessionRecord} (target : records session.id)
    (message : MessageEnvelope) (messageId : String) (result : OrchestrationResult) :
    Acts (SessionAction records) (runtime.deliverReply session message messageId result) := by
  refine acts_bind (acts_asideSteps (EngineOp.keeps_ignore
    (runtime.brain.keeps_ingestAssistantReply _ _))) fun _ => ?_
  refine acts_bind (acts_asideSteps (runtime.keeps_replyText _ _)) fun reply => ?_
  refine acts_bind (StateStore.sessionActs_recordSessionMessage target _ _ _ _ _) fun _ => ?_
  exact acts_bind (acts_asideSteps (keeps_recordAudit _ _ _ _ _)) fun _ => acts_pure _

theorem sessionActs_gateMessage {session : SessionRecord} (target : records session.id)
    (message : MessageEnvelope) (messageId : String) :
    Acts (SessionAction records) (runtime.gateMessage session message messageId) := by
  refine acts_bind (runtime.sessionActs_ensurePairingIfRequired session message) fun pairing => ?_
  cases pairing with
  | some pairingId =>
      exact acts_bind (acts_asideSteps (keeps_recordAudit _ _ _ _ _)) fun _ => acts_pure _
  | none =>
      refine Op.acts_ite (fun _ => acts_pure _) fun _ => ?_
      refine acts_bind (acts_asideSteps (EngineOp.keeps_attempt
        (runtime.brain.keeps_buildContextPack _ _))) fun packed => ?_
      refine acts_bind (Op.acts_stmt fun w => .same rfl rfl) fun _ => ?_
      refine acts_bind (EngineOp.acts_attempt (acts_answeringSteps
        (runtime.orchestrator.acts_generateWithRoute _ _ _))) fun generated => ?_
      cases generated with
      | ok result =>
          exact acts_bind (Op.acts_stmt fun w => .same rfl rfl) fun _ =>
            runtime.sessionActs_deliverReply target message messageId result
      | error error =>
          exact acts_bind (acts_asideSteps (keeps_recordAudit _ _ _ _ _)) fun _ => acts_pure _

end EngineRuntime

/-! ## Calls -/

/-- The part ends with a session that is there, and holds it. -/
def Finds (p : EngineOp SessionRecord) : Prop :=
  Follows Lookup (fun held r => ∀ session, r = .ok session → held = some session.id) none p

section

variable [Externals]

theorem finds_resolveSession (connectorName channelId participant sessionType : String)
    (config : AppConfig) (defaultModelProfile : String) :
    Finds (StateStore.resolveSessionInternal connectorName channelId participant sessionType
      config defaultModelProfile) := by
  refine follows_lookup (fun session : SessionRecord => some session.id)
    (StateStore.steps_resolveSessionStmt _ _ _ _ _ _) ?_
  rintro s session _ hsession ⟨rfl⟩
  exact StateStore.hasSession_resolveSessionStmt hsession

omit [Externals] in
theorem finds_sessionById (sessionId : String) : Finds (StateStore.sessionById sessionId) := by
  refine follows_lookup (fun session : SessionRecord => some session.id) ?_ ?_
  · refine Stmt.Respects.steps (Stmt.respects_bind SameChats.trans
      (Stmt.respects_select SameChats.refl _) fun found => ?_)
    cases found with
    | some row => exact Stmt.respects_pure SameChats.refl _
    | none => exact Stmt.respects_fail SameChats.refl _
  · rintro s session _ hsession ⟨rfl⟩
    obtain ⟨found, hfound, hrest⟩ := Stmt.result_bind_ok hsession
    rw [Stmt.after_bind_ok hfound]
    cases found with
    | none => cases hrest
    | some row =>
        cases hrest
        refine ⟨row, ?_, rfl⟩
        show row ∈ (after (Stmt.select _) s).2.sessions
        rw [Stmt.after_select]
        exact List.mem_of_find?_eq_some (Stmt.select_ok hfound).symm

theorem finds_resolveSessionForOutbound (connector channelId sender : String)
    (config : AppConfig) :
    Finds (StateStore.resolveSessionForOutbound connector channelId sender config) := by
  refine Follows.bind (follows_lookup (fun found : Option SessionRow => found.map (·.sessionId))
    (Stmt.Respects.steps (Stmt.respects_select SameChats.refl _)) ?_) ?_
  · intro s found sessionId hfound hheld
    obtain ⟨row, rfl, rfl⟩ := Option.map_eq_some_iff.mp hheld
    rw [Stmt.after_select]
    have hmem := List.mem_of_mem_head? (Stmt.select_ok hfound).symm
    exact ⟨row, List.mem_of_mem_filter ((List.mem_insertionSort _).mp hmem), rfl⟩
  · intro held r hr
    cases r with
    | error fault => exact .ret nofun
    | ok found =>
        obtain rfl := hr found rfl
        cases found with
        | some row =>
            refine .ret fun session hsession => ?_
            cases hsession
            rfl
        | none => exact finds_resolveSession _ _ _ _ _ _

omit [Externals] in
/-- A part that finds a session, and what follows it. -/
theorem Finds.bind {α : Type} {p : EngineOp SessionRecord} {f : SessionRecord → EngineOp α}
    (h : Finds p)
    (hf : ∀ session, Follows Lookup (fun _ _ => True) (some session.id) (f session)) :
    Follows Lookup (fun _ _ => True) none (p >>= f : EngineOp α) := by
  refine Follows.bind h fun held r hr => ?_
  cases r with
  | error fault => exact .ret trivial
  | ok session =>
      rw [hr session rfl]
      exact hf session

omit [Externals] in
theorem follows_recordSessionMessage {α : Type} (session : SessionRecord)
    (connector role sender body metadataJson : String) {f : String → EngineOp α}
    (hf : ∀ id, Follows Lookup (fun _ _ => True) (some session.id) (f id)) :
    Follows Lookup (fun _ _ => True) (some session.id)
      (StateStore.recordSessionMessage session.id connector role sender body metadataJson >>= f :
        EngineOp α) := by
  have hown : (fun id => some session.id = some id) session.id := rfl
  exact follows_then (StateStore.sessionActs_recordSessionMessage hown _ _ _ _ _) hf

variable (runtime : EngineRuntime)

/-- A message is recorded in the session that is resolved for it. -/
theorem follows_handleMessage (message : MessageEnvelope) :
    Follows Lookup (fun _ _ => True) none (runtime.handleMessage message) := by
  have hlog : Acts (SessionAction fun id => none = some id) (StateStore.recordMessage message) :=
    acts_steps (Stmt.Respects.steps (Stmt.respects_bind SameChats.trans
      (Stmt.respects_now SameChats.refl) fun now =>
        Stmt.respects_execute SameChats.refl fun t => ⟨rfl, rfl⟩))
  refine follows_then hlog fun _ => ?_
  refine Finds.bind (finds_resolveSession _ _ _ _ _ _) fun session => ?_
  refine follows_recordSessionMessage session _ _ _ _ _ fun id => ?_
  refine follows_then (acts_asideSteps (EngineOp.keeps_ignore
    (runtime.brain.keeps_ingestMessage message))) fun _ => ?_
  have hown : (fun id => some session.id = some id) session.id := rfl
  exact (follows_held (runtime.sessionActs_gateMessage hown message id)).mono
    fun _ _ _ => trivial

/-- An outbound message is recorded in the session that it names, or that is
resolved for it. -/
theorem follows_recordOutboundMessage (request : OutboundMessage) :
    Follows Lookup (fun _ _ => True) none (runtime.recordOutboundMessage request) := by
  have hfinds : Finds (runtime.outboundSession request) := by
    unfold EngineRuntime.outboundSession
    split
    · exact finds_resolveSessionForOutbound _ _ _ _
    · exact finds_sessionById _
  exact hfinds.bind fun session =>
    follows_recordSessionMessage session _ _ _ _ _ fun id => .ret trivial

theorem follows_pruneSessions (held : Option String) (request : SessionPruneRequestRecord) :
    Follows Lookup (fun _ _ => True) held ((RuntimeCall.prune request).op runtime) :=
  (follows_held (StateStore.sessionActs_pruneSessions request)).mono fun _ _ _ => trivial

theorem follows_call (call : RuntimeCall) :
    Follows Lookup (fun _ _ => True) none (call.op runtime) := by
  cases call with
  | message m => exact follows_handleMessage runtime m
  | outbound request => exact follows_recordOutboundMessage runtime request
  | prune request => exact follows_pruneSessions runtime none request
  | update request =>
      exact (follows_held (acts_bind (StateStore.sessionActs_updatePairing request) fun pairing =>
        acts_bind (acts_asideSteps (EngineRuntime.keeps_recordAudit _ _ _ _ _)) fun _ =>
          acts_pure _)).mono fun _ _ _ => trivial

theorem follows_thread (call : RuntimeCall) :
    Follows Lookup (fun _ _ => True) none (call.thread runtime) :=
  Follows.bind (follows_call runtime call) fun _ _ _ => .ret trivial

end

/-! ## Threads that are bound to a session -/

/-- Some run of the rest of a thread records a message in the session. -/
inductive Records (sessionId : String) {α : Type} : Lib.Prog Event World α → Prop where
  | now {e : Event} {g : World → World} {k : World → Lib.Prog Event World α} (w : World)
      {message : SessionMessageRow} (new : message ∈ (g w).conversations.sessionMessages)
      (absent : message ∉ w.conversations.sessionMessages)
      (session : message.sessionId = sessionId) : Records sessionId (.act e g k)
  | later {e : Event} {g : World → World} {k : World → Lib.Prog Event World α} (w : World)
      (next : Records sessionId (k w)) : Records sessionId (.act e g k)
  | lock {p : Lib.Prog Event World α} (next : Records sessionId p) : Records sessionId (.lock p)
  | unlock {p : Lib.Prog Event World α} (next : Records sessionId p) :
      Records sessionId (.unlock p)

/-- The thread has messages to record, all of them in the session. -/
structure BoundTo (p : Lib.Prog Event World Unit) (sessionId : String) : Prop where
  records : Records sessionId p
  only : ∀ other, Records other p → other = sessionId

/-- A thread that holds a session records messages in no other one. -/
theorem Records.held {sessionId other : String} {p : Lib.Prog Event World Unit}
    (h : Records other p) (hp : Follows Lookup (fun _ _ => True) (some sessionId) p) :
    other = sessionId := by
  induction h with
  | now w new absent session =>
      cases hp with
      | act b allowed next =>
          obtain ⟨next, faulty, hstep⟩ := (allowed w).step
          rcases hstep.mem_messages new with hold | hnew
          · exact absurd hold absent
          · exact session.symm.trans (Option.some.inj hnew).symm
  | later w next ih =>
      cases hp with
      | act b allowed rest =>
          have hheld : b w = some sessionId := by
            rcases (allowed w).found with hsame | ⟨hnone, -⟩
            · exact hsame
            · cases hnone
          exact ih (hheld ▸ rest w)
  | lock next ih =>
      cases hp with
      | lock rest => exact ih rest
  | unlock next ih =>
      cases hp with
      | unlock rest => exact ih rest

/-- What the rest of a thread records after a step, it records from before. -/
theorem Records.of_next {sessionId : String} {p p' : Lib.Prog Event World Unit}
    {held held' : Bool} {w w' : World} {label : Option Event}
    (h : p.next? held w = some (label, p', held', w')) (hp' : Records sessionId p') :
    Records sessionId p := by
  cases p with
  | ret a => cases h
  | lock p =>
      cases held with
      | true => cases h
      | false =>
          cases h
          exact .lock hp'
  | unlock p =>
      cases h
      exact .unlock hp'
  | act e g k =>
      cases h
      exact .later w hp'

/-- A message that appears in a step of a thread is one that the thread records. -/
theorem Records.of_new {p p' : Lib.Prog Event World Unit} {held held' : Bool} {w w' : World}
    {e : Event} {message : SessionMessageRow}
    (h : p.next? held w = some (some e, p', held', w'))
    (new : message ∈ w'.conversations.sessionMessages)
    (absent : message ∉ w.conversations.sessionMessages) : Records message.sessionId p := by
  cases p with
  | ret a => cases h
  | lock p =>
      cases held with
      | true => cases h
      | false => cases h
  | unlock p => cases h
  | act e g k =>
      cases h
      exact .now w new absent rfl

/-! ## Pools -/

/-- The step deletes no session that a thread is bound to. -/
def SparesBound (s : Pool Event World) : Move RuntimeCall Event → Prop
  | .start _ => True
  | .step thread event => ∀ s', s.next? thread = some (event, s') →
      ∀ p ∈ s.threads, ∀ sessionId, BoundTo p sessionId →
        s.shared.conversations.HasSession sessionId →
          s'.shared.conversations.HasSession sessionId

/-- Each message has its session, and so has each thread that is to record one. -/
structure Attended (s : Pool Event World) : Prop where
  owned : s.shared.conversations.Owned
  threads : ∀ p ∈ s.threads, ∃ held, Follows Lookup (fun _ _ => True) held p ∧
    ∀ sessionId, held = some sessionId → Records sessionId p →
      s.shared.conversations.HasSession sessionId

/-- A thread is bound to the session that it holds, if it records anything. -/
theorem BoundTo.of_held {p : Lib.Prog Event World Unit} {sessionId : String}
    (hp : Follows Lookup (fun _ _ => True) (some sessionId) p) (h : Records sessionId p) :
    BoundTo p sessionId :=
  ⟨h, fun _ hother => hother.held hp⟩

theorem Attended.spawn {s : Pool Event World} (h : Attended s) {p : Lib.Prog Event World Unit}
    (hp : Follows Lookup (fun _ _ => True) none p) : Attended (s.spawn p) where
  owned := h.owned
  threads q hq := by
    rcases List.mem_append.mp hq with hold | hnew
    · exact h.threads q hold
    · rw [List.mem_singleton.mp hnew]
      exact ⟨none, hp, nofun⟩

/-- A step that spares the sessions of the threads keeps the pool attended. -/
theorem Attended.next {s s' : Pool Event World} {thread : Nat} {event : Option Event}
    (h : Attended s) (hnext : s.next? thread = some (event, s'))
    (hspares : SparesBound s (.step thread event)) : Attended s' := by
  have hkept := hspares s' hnext
  obtain ⟨p, p', locked, shared, hp, hrun, rfl⟩ := Pool.next?_eq_some.mp hnext
  have hmem : p ∈ s.threads := List.mem_of_getElem? hp
  obtain ⟨held, hfollows, hheld⟩ := h.threads p hmem
  -- the sessions that threads are to record in are still there
  have hstay : ∀ q ∈ s.threads, ∀ held, Follows Lookup (fun _ _ => True) held q →
      (∀ sessionId, held = some sessionId → Records sessionId q →
        s.shared.conversations.HasSession sessionId) →
      ∀ sessionId, held = some sessionId → Records sessionId q →
        shared.conversations.HasSession sessionId := by
    rintro q hq _ hfollows hheld sessionId rfl hrecords
    exact hkept q hq sessionId (.of_held hfollows hrecords) (hheld sessionId rfl hrecords)
  have hothers : ∀ q ∈ s.threads, ∃ held, Follows Lookup (fun _ _ => True) held q ∧
      ∀ sessionId, held = some sessionId → Records sessionId q →
        shared.conversations.HasSession sessionId := by
    intro q hq
    obtain ⟨held, hfollows, hheld⟩ := h.threads q hq
    exact ⟨held, hfollows, hstay q hq held hfollows hheld⟩
  rcases hfollows.next hrun with ⟨-, hsame, hrest⟩ | ⟨e, held', rfl, hlookup, hrest⟩
  · subst hsame
    refine ⟨h.owned, fun q hq => ?_⟩
    rcases List.mem_or_eq_of_mem_set hq with hold | rfl
    · exact hothers q hold
    · exact ⟨held, hrest, fun sessionId heq hrecords =>
        hheld sessionId heq (hrecords.of_next hrun)⟩
  · obtain ⟨next, faulty, hstep⟩ := hlookup.step
    refine ⟨hstep.owned (fun message hnew habsent => ?_) h.owned, fun q hq => ?_⟩
    · rcases hstep.mem_messages hnew with hold | hown
      · exact absurd hold habsent
      · exact hheld message.sessionId hown (.of_new hrun hnew habsent)
    · rcases List.mem_or_eq_of_mem_set hq with hold | rfl
      · exact hothers q hold
      · refine ⟨held', hrest, fun sessionId heq hrecords => ?_⟩
        rcases hlookup.found with hsame | ⟨-, id, hid, hfound⟩
        · exact hstay p hmem held hfollows hheld sessionId (hsame ▸ heq)
            (hrecords.of_next hrun)
        · cases hid.symm.trans heq
          exact hfound

section

variable [Externals]

/-- The calls of the runtime as threads, from a database without conversations. -/
def EngineRuntime.chatThreads (runtime : EngineRuntime)
    (allowed : Pool Event World → Move RuntimeCall Event → Prop) :
    System (Pool Event World) (Move RuntimeCall Event) :=
  Pool.system (RuntimeCall.thread runtime) (fun w => w.conversations = ⟨[], [], [], []⟩) allowed

/-- When no session is deleted that a call in flight has yet to record messages
in, each message has its session in every interleaving. -/
theorem messages_owned {runtime : EngineRuntime} {s : Pool Event World}
    (h : (runtime.chatThreads SparesBound).Reachable s) :
    ∀ message ∈ s.shared.conversations.sessionMessages,
      ∃ row ∈ s.shared.conversations.sessions, row.sessionId = message.sessionId := by
  have hattended : Attended s := by
    refine h.invariant (P := Attended) ?_ ?_
    · rintro s ⟨-, hthreads, hshared⟩
      constructor
      · intro message hmessage
        rw [show s.shared.conversations = _ from hshared] at hmessage
        exact absurd hmessage List.not_mem_nil
      · simp [hthreads]
    · rintro s move s' ⟨hspares, hstep⟩ hs
      cases move with
      | start call =>
          cases hstep
          exact hs.spawn (follows_thread runtime call)
      | step thread event => exact hs.next hstep hspares
  exact hattended.owned

end

/-! ## Two schedules -/

/-- A pool without threads, in a world that moves slowly. -/
def slowPool : Pool Event World := ⟨false, slowWorld, []⟩

/-- The interleavings of the runtime of reference. -/
def referenceChats (allowed : Pool Event World → Move RuntimeCall Event → Prop) :
    System (Pool Event World) (Move RuntimeCall Event) :=
  Pool.system referenceThread (fun w => w.conversations = ⟨[], [], [], []⟩) allowed

/-- A session of one pool is one of the other. -/
def keepsSessions (s s' : Pool Event World) : Bool :=
  s.shared.conversations.sessions.all fun row =>
    s'.shared.conversations.sessions.any fun row' => row'.sessionId == row.sessionId

theorem sparesBound_of_keepsSessions {s s' : Pool Event World} {thread : Nat}
    {event : Option Event} (hnext : s.next? thread = some (event, s'))
    (hkeeps : keepsSessions s s' = true) : SparesBound s (.step thread event) := by
  intro s'' hnext' p _ sessionId _ ⟨row, hrow, hid⟩
  rw [hnext] at hnext'
  cases hnext'
  obtain ⟨row', hrow', hsame⟩ := List.any_eq_true.mp (List.all_eq_true.mp hkeeps row hrow)
  exact ⟨row', hrow', (beq_iff_eq.mp hsame).trans hid⟩

/-- What a thread records when nothing interferes, it records. -/
theorem Records.of_eval {p : Lib.Prog Event World Unit} {w : World} {message : SessionMessageRow}
    (new : message ∈ (p.eval w).2.conversations.sessionMessages)
    (absent : message ∉ w.conversations.sessionMessages) : Records message.sessionId p := by
  induction p generalizing w with
  | ret a => exact absurd new absent
  | lock p ih => exact .lock (ih new absent)
  | unlock p ih => exact .unlock (ih new absent)
  | act e g k ih =>
      by_cases hnow : message ∈ (g w).conversations.sessionMessages
      · exact .now w hnow absent rfl
      · exact .later w (ih w new hnow)

/-- The thread records in the session when nothing interferes. -/
def recordsIn (sessionId : String) (p : Lib.Prog Event World Unit) (w : World) : Bool :=
  (p.eval w).2.conversations.sessionMessages.any fun message =>
    message.sessionId == sessionId && !w.conversations.sessionMessages.contains message

theorem records_of_recordsIn {sessionId : String} {p : Lib.Prog Event World Unit} {w : World}
    (h : recordsIn sessionId p w = true) : Records sessionId p := by
  obtain ⟨message, hnew, hmessage⟩ := List.any_eq_true.mp h
  obtain ⟨hsession, habsent⟩ := Bool.and_eq_true_iff.mp hmessage
  rw [← beq_iff_eq.mp hsession]
  exact .of_eval hnew (by simpa using habsent)

/-- The second thread is yet to record in the session, which is left there. -/
def spares (sessionId : String) (s : Pool Event World) (move : Move RuntimeCall Event)
    (s' : Pool Event World) : Bool :=
  match move with
  | .start (.prune _) => true
  | .start _ => false
  | .step _ _ => keepsSessions s s' ||
      (s.threads[1]?).any (fun p => recordsIn sessionId p s.shared) &&
        s'.shared.conversations.sessions.any fun row => row.sessionId == sessionId

/-- All threads but the second one record in the session, if at all. -/
def OthersHold (sessionId : String) (s : Pool Event World) : Prop :=
  ∀ thread p, s.threads[thread]? = some p → thread ≠ 1 →
    Follows Lookup (fun _ _ => True) (some sessionId) p

theorem OthersHold.spawn {sessionId : String} {s : Pool Event World} (h : OthersHold sessionId s)
    {p : Lib.Prog Event World Unit} (hp : Follows Lookup (fun _ _ => True) (some sessionId) p) :
    OthersHold sessionId (s.spawn p) := by
  intro thread q hq hthread
  rw [show (s.spawn p).threads = s.threads ++ [p] from rfl] at hq
  by_cases hold : thread < s.threads.length
  · rw [List.getElem?_append_left hold] at hq
    exact h thread q hq hthread
  · rw [List.getElem?_append_right (Nat.le_of_not_lt hold)] at hq
    rw [List.mem_singleton.mp (List.mem_of_getElem? hq)]
    exact hp

theorem OthersHold.next {sessionId : String} {s s' : Pool Event World} {thread : Nat}
    {event : Option Event} (h : OthersHold sessionId s)
    (hnext : s.next? thread = some (event, s')) : OthersHold sessionId s' := by
  obtain ⟨p, p', locked, shared, hp, hrun, rfl⟩ := Pool.next?_eq_some.mp hnext
  intro other q hq hother
  simp only [List.getElem?_set] at hq
  split at hq
  · rename_i hsame
    subst hsame
    split at hq
    · cases hq
      rcases (h thread p hp hother).next hrun with ⟨-, -, hrest⟩ | ⟨e, held', -, hlookup, hrest⟩
      · exact hrest
      · rcases hlookup.found with hsame | ⟨hnone, -⟩
        · exact hsame ▸ hrest
        · cases hnone
    · cases hq
  · exact h other q hq hother

theorem sparesBound_of_spares {sessionId : String} {s s' : Pool Event World}
    {move : Move RuntimeCall Event} (hhold : OthersHold sessionId s)
    (hstep : (referenceChats fun _ _ => True).step s move s')
    (hspares : spares sessionId s move s' = true) :
    SparesBound s move ∧ OthersHold sessionId s' := by
  cases move with
  | start call =>
      cases call with
      | prune request =>
          refine ⟨trivial, ?_⟩
          rw [show s' = _ from hstep.2]
          exact hhold.spawn (Follows.bind
            (@follows_pruneSessions referenceExternals referenceRuntime _ request)
            fun _ _ _ => .ret trivial)
      | message message => cases hspares
      | outbound request => cases hspares
      | update request => cases hspares
  | step thread event =>
      refine ⟨?_, hhold.next hstep.2⟩
      rcases Bool.or_eq_true_iff.mp hspares with hkeeps | hboth
      · exact sparesBound_of_keepsSessions hstep.2 hkeeps
      · obtain ⟨hrecords, hleft⟩ := Bool.and_eq_true_iff.mp hboth
        obtain ⟨second, hsecond, hrecords⟩ := (Option.any_eq_true _ _).mp hrecords
        intro s'' hnext p hp sessionId' hbound _
        obtain rfl : sessionId' = sessionId := by
          obtain ⟨other, hother⟩ := List.mem_iff_getElem?.mp hp
          by_cases hone : other = 1
          · subst hone
            cases hsecond.symm.trans hother
            exact (hbound.only _ (records_of_recordsIn hrecords)).symm
          · exact hbound.records.held (hhold other p hother hone)
        cases hstep.2.symm.trans hnext
        obtain ⟨row, hrow, hid⟩ := List.any_eq_true.mp hleft
        exact ⟨row, hrow, beq_iff_eq.mp hid⟩

/-- A session is deleted with its message while a call is about to record in another one. -/
theorem messages_owned_pruned :
    ∃ s : Pool Event World, s.shared.conversations.sessions.map (·.sessionId) = ["session-2"] ∧
      s.shared.conversations.sessionMessages.map (·.sessionId) = ["session-2"] ∧
      ∀ message ∈ s.shared.conversations.sessionMessages,
        ∃ row ∈ s.shared.conversations.sessions, row.sessionId = message.sessionId := by
  let outbound (channelId : String) : RuntimeCall :=
    .outbound ⟨"telegram", channelId, "", "hello", "", ""⟩
  -- one call returns, and a second one has found its session
  let first : List (RuntimeCall ⊕ Nat) :=
    .inl (outbound "7") :: List.replicate 11 (.inr 0) ++ .inl (outbound "8") ::
      List.replicate 6 (.inr 1)
  -- the session of the first one is deleted, and the second one goes on
  let second : List (RuntimeCall ⊕ Nat) :=
    .inl (.prune ⟨2, false⟩) :: List.replicate 4 (.inr 2) ++ List.replicate 5 (.inr 1)
  have hplay : (Pool.playWhile referenceThread (fun s _ s' => keepsSessions s s') first
      slowPool).any (fun middle =>
        middle.2.shared.conversations.sessionMessages.map (·.sessionId) = ["session-0"] &&
        middle.2.threads.length == 2 && (middle.2.threads[0]?).any (· matches .ret _) &&
        (Pool.playWhile referenceThread (spares "session-2") second middle.2).any fun last =>
          last.2.shared.conversations.sessions.map (·.sessionId) = ["session-2"] &&
          last.2.shared.conversations.sessionMessages.map (·.sessionId) = ["session-2"]) =
            true := by
    decide +kernel
  simp only [Option.any_eq_true, Bool.and_eq_true, decide_eq_true_eq, beq_iff_eq] at hplay
  obtain ⟨⟨moves, middle⟩, hfirst, ⟨⟨-, hlength⟩, ended, hended, hret⟩, ⟨moves', s⟩, hsecond,
    hsessions, hmessages⟩ := hplay
  have hinit : (referenceChats SparesBound).init slowPool := ⟨rfl, rfl, rfl⟩
  have hrun : (referenceChats SparesBound).Run slowPool moves middle :=
    Pool.run_of_playWhile (I := fun _ => True) hfirst trivial fun s move s' _ hstep htest => by
      cases move with
      | start call => exact ⟨trivial, trivial⟩
      | step thread event => exact ⟨sparesBound_of_keepsSessions hstep.2 htest, trivial⟩
  have hhold : OthersHold "session-2" middle := by
    intro thread p hp hthread
    have hthreads := (List.getElem?_eq_some_iff.mp hp).1
    have htwo : middle.threads.length = 2 := hlength
    obtain rfl : thread = 0 := by omega
    cases hended.symm.trans hp
    cases ended with
    | ret a => exact .ret trivial
    | lock p => cases hret
    | unlock p => cases hret
    | act e g k => cases hret
  have hrun' : (referenceChats SparesBound).Run middle moves' s :=
    Pool.run_of_playWhile (I := OthersHold "session-2") hsecond hhold
      fun _ _ _ hs hstep htest => sparesBound_of_spares hs hstep htest
  exact ⟨s, hsessions, hmessages, @messages_owned referenceExternals referenceRuntime s
    ⟨slowPool, _, hinit, hrun.append hrun'⟩⟩

/-- The session is deleted between its lookup and the record of the message. -/
theorem messages_owned_fails :
    ¬ ∀ [Externals] {runtime : EngineRuntime} {s : Pool Event World},
      (runtime.chatThreads fun _ _ => True).Reachable s →
        ∀ message ∈ s.shared.conversations.sessionMessages,
          ∃ row ∈ s.shared.conversations.sessions, row.sessionId = message.sessionId := by
  intro h
  have hplay : (Pool.play referenceThread
      ([.inl (.message (referenceMessage "7" "7" "hi")), .inl (.prune ⟨1, false⟩)] ++
        List.replicate 6 (.inr 0) ++ List.replicate 4 (.inr 1) ++ List.replicate 4 (.inr 0))
      slowPool).any (fun played => played.2.shared.conversations.sessions.isEmpty &&
        !played.2.shared.conversations.sessionMessages.isEmpty) = true := by
    decide
  obtain ⟨⟨moves, s⟩, hplayed, hboth⟩ := Option.any_eq_true _ _ |>.mp hplay
  obtain ⟨hgone, hleft⟩ := Bool.and_eq_true_iff.mp hboth
  have hinit : (referenceChats fun _ _ => True).init slowPool := ⟨rfl, rfl, rfl⟩
  have hrun : (referenceChats fun _ _ => True).Run slowPool moves s :=
    Pool.run_of_play hplayed fun _ _ _ => trivial
  have howned := @h referenceExternals referenceRuntime s ⟨slowPool, moves, hinit, hrun⟩
  rw [List.isEmpty_iff.mp hgone] at howned
  cases hmessages : s.shared.conversations.sessionMessages with
  | nil => simp [hmessages] at hleft
  | cons message rest =>
      obtain ⟨row, hrow, -⟩ := howned message (hmessages ▸ List.mem_cons_self)
      exact absurd hrow List.not_mem_nil

end OpenPinch
