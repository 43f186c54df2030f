import OpenPinch.Engine.BrainRules
import OpenPinch.Engine.Runtime

/-!
# What the runtime does

The orchestrator leaves conversations alone.  The rest of a message is quiet,
except for the check of its pairing, the upsert of a missing one and the events
of its reply.
-/

namespace OpenPinch

open Lib (Op wp wp_of_acts)
open Lib.Op (acts_bind acts_ite acts_pure acts_fail acts_stmt keeps_bind keeps_pure)
open Lib.Prog (Acts Keeps)
open EngineOp (acts_attempt acts_ignore acts_orPanic keeps_attempt keeps_ignore keeps_newUuid
  keeps_now)

/-! ## The orchestrator -/

/-- The action of the orchestrator, which leaves conversations alone. -/
structure Answering (e : Event) (g : World → World) : Prop where
  label : e = .quiet ∨ ∃ provider prompt response, e = .generated provider prompt response
  conversations : ∀ w, (g w).conversations = w.conversations

theorem Aside.answering {e : Event} {g : World → World} (h : Aside e g) : Answering e g :=
  ⟨Or.inl h.quiet, h.conversations⟩

theorem acts_aside {α : Type} {p : EngineOp α} (h : Keeps Aside false false p) :
    Acts Answering p :=
  h.acts.mono fun _ _ => Aside.answering

theorem acts_caches {α : Type} (m : Stmt Caches α) :
    Acts Answering (EngineOp.guarded .caches m) := by
  refine .lock (.act ⟨Or.inl rfl, fun w => ?_⟩ fun _ => .unlock .ret)
  rw [View.after_run]
  rfl

namespace ProviderRegistry

theorem acts_generate (name prompt : String) : Acts Answering (generate name prompt) := by
  refine acts_bind (acts_stmt ⟨Or.inl rfl, fun _ => rfl⟩) fun answer => ?_
  cases answer with
  | ok response =>
      refine acts_bind (acts_stmt ⟨Or.inr ⟨_, _, _, rfl⟩, fun _ => rfl⟩) fun _ => acts_pure _
  | error message => exact acts_fail _

variable (models : Lib.SortedMap String ModelProviderConfig)

theorem acts_generateWithProvider (provider prompt : String) :
    Acts Answering (generateWithProvider models provider prompt) := by
  unfold generateWithProvider
  cases get? models provider with
  | none => exact acts_fail _
  | some config => exact acts_ite (fun _ => acts_generate provider prompt) fun _ => acts_fail _

/-- Where a provider is missing or disabled, the request fails before it is asked. -/
theorem wp_provider {provider prompt : String} {labels : List Event} {w : World}
    {post : List Event → Except Fault String → World → Prop}
    (hasked : wp (generate provider prompt) post labels w)
    (hfailed : ∀ message, post labels (.error (.error message)) w) :
    wp (generateWithProvider models provider prompt) post labels w := by
  unfold generateWithProvider
  cases get? models provider with
  | none => exact Op.wp_fail (hfailed _)
  | some config =>
      dsimp only
      split
      · exact hasked
      · exact Op.wp_fail (hfailed _)

theorem acts_routeFrom (prompt : String) (errors order : List String) :
    Acts Answering (routeFrom models prompt errors order) := by
  induction order generalizing errors with
  | nil =>
      unfold routeFrom
      split
      · exact acts_fail _
      · exact acts_fail _
  | cons name rest ih =>
      unfold routeFrom
      split
      · refine acts_bind (acts_attempt (acts_generate name prompt)) fun answer => ?_
        cases answer with
        | ok response => exact acts_pure _
        | error message => exact ih _
      · exact ih errors

end ProviderRegistry

namespace Orchestrator

variable (orchestrator : Orchestrator)

theorem acts_generateLive (route : List String) (prompt : String) :
    Acts Answering (orchestrator.generateLive route prompt) := by
  unfold generateLive
  cases (if orchestrator.config.orchestration.speculativeEnabled then
    orchestrator.draftProvider route else none) with
  | some draftName =>
      refine acts_bind (acts_attempt
        (ProviderRegistry.acts_generateWithProvider _ _ _)) fun draft => ?_
      refine acts_bind (acts_attempt (ProviderRegistry.acts_routeFrom _ _ _ _)) fun target => ?_
      cases target with
      | ok found => exact acts_pure _
      | error message =>
          cases draft with
          | ok response => exact acts_pure _
          | error _ => exact acts_fail _
  | none => exact acts_bind (ProviderRegistry.acts_routeFrom _ _ _ _) fun found => acts_pure _

theorem acts_prefixTier (prompt : String) : Acts Answering (orchestrator.prefixTier prompt) := by
  unfold prefixTier
  split
  · exact acts_bind (acts_caches _) fun _ => acts_pure _
  · exact acts_pure _

theorem acts_storePrefix (prompt : String) (result : OrchestrationResult) :
    Acts Answering (orchestrator.storePrefix prompt result) := by
  unfold storePrefix
  split
  · exact acts_bind (acts_orPanic _) fun _ => acts_caches _
  · exact acts_pure _

variable [Externals]

theorem acts_exactTier (prompt : String) : Acts Answering (orchestrator.exactTier prompt) := by
  unfold exactTier
  split
  · exact acts_bind (acts_caches _) fun _ => acts_pure _
  · exact acts_pure _

theorem acts_semanticTier (prompt : String) :
    Acts Answering (orchestrator.semanticTier prompt) := by
  unfold semanticTier
  split
  · refine acts_bind (acts_aside (StateStore.keeps_queryMemory _ _)) fun cached => ?_
    cases cached.head? with
    | none => exact acts_pure _
    | some entry => exact acts_ite (fun _ => acts_pure _) fun _ => acts_pure _
  · exact acts_pure _

theorem acts_storeExact (prompt : String) (result : OrchestrationResult) :
    Acts Answering (orchestrator.storeExact prompt result) := by
  unfold storeExact
  split
  · exact acts_caches _
  · exact acts_pure _

theorem acts_storeSemantic (prompt : String) (result : OrchestrationResult) :
    Acts Answering (orchestrator.storeSemantic prompt result) := by
  unfold storeSemantic
  split
  · exact acts_ignore (acts_aside (StateStore.keeps_upsertMemory _ _ _ _ _))
  · exact acts_pure _

theorem acts_generateWithRoute (prompt : String) (priority : QueuePriority)
    (route : List String) :
    Acts Answering (orchestrator.generateWithRoute prompt priority route) := by
  refine acts_bind (orchestrator.acts_exactTier prompt) fun exact => ?_
  cases exact with
  | some result => exact acts_pure _
  | none =>
      refine acts_bind (orchestrator.acts_prefixTier prompt) fun found => ?_
      cases found with
      | some result => exact acts_pure _
      | none =>
          refine acts_bind (orchestrator.acts_semanticTier prompt) fun found => ?_
          cases found with
          | some result => exact acts_pure _
          | none =>
              refine acts_bind (orchestrator.acts_generateLive _ prompt) fun result => ?_
              refine acts_bind (orchestrator.acts_storeExact prompt result) fun _ => ?_
              refine acts_bind (orchestrator.acts_storePrefix prompt result) fun _ => ?_
              exact acts_bind (orchestrator.acts_storeSemantic prompt result) fun _ =>
                acts_pure _

end Orchestrator

/-! ## The parts of a message -/

namespace EngineRuntime

open StateStore (keeps_recordSessionMessage)

variable [Externals] (runtime : EngineRuntime)

theorem keeps_recordAudit (category severity summary : String) (anomalyScore : Rat)
    (payload : Json) :
    Keeps Aside false false (recordAudit category severity summary anomalyScore payload) :=
  keeps_bind keeps_newUuid fun _ => keeps_bind keeps_now fun _ => StateStore.keeps_recordAudit _

theorem keeps_replyText (message : MessageEnvelope) (response : String) :
    Keeps Aside false false (runtime.replyText message response) := by
  unfold replyText
  split
  · exact keeps_bind (keeps_attempt (runtime.brain.keeps_inlineSuggestions _ _)) fun _ =>
      keeps_pure _
  · exact keeps_pure _

theorem keeps_deliverReply (session : SessionRecord) (message : MessageEnvelope)
    (messageId : String) (result : OrchestrationResult) :
    Keeps Quiet false false (runtime.deliverReply session message messageId result) := by
  refine keeps_bind (keeps_aside (keeps_ignore
    (runtime.brain.keeps_ingestAssistantReply _ _))) fun _ => ?_
  refine keeps_bind (keeps_aside (runtime.keeps_replyText _ _)) fun _ => ?_
  refine keeps_bind (keeps_recordSessionMessage _ _ _ _ _ _) fun _ => ?_
  exact keeps_bind (keeps_aside (keeps_recordAudit _ _ _ _ _)) fun _ => keeps_pure _

theorem keeps_deliverDegraded (session : SessionRecord) (messageId error : String) :
    Keeps Quiet false false (deliverDegraded session messageId error) :=
  keeps_bind (keeps_aside (keeps_recordAudit _ _ _ _ _)) fun _ => keeps_pure _

theorem keeps_deliverPairing (session : SessionRecord) (message : MessageEnvelope)
    (messageId pairingId : String) :
    Keeps Quiet false false (deliverPairing session message messageId pairingId) :=
  keeps_bind (keeps_aside (keeps_recordAudit _ _ _ _ _)) fun _ => keeps_pure _

theorem keeps_updatePairing (request : PairingUpdate) :
    Keeps (Plain (Event.Decides request)) false false (updatePairing request) :=
  keeps_bind (StateStore.keeps_updatePairing request) fun _ =>
    keeps_bind (keeps_plain (keeps_aside (keeps_recordAudit _ _ _ _ _))) fun _ => keeps_pure _

theorem keeps_outboundSession (request : OutboundMessage) :
    Keeps Quiet false false (runtime.outboundSession request) := by
  unfold outboundSession
  split
  · exact StateStore.keeps_resolveSessionForOutbound _ _ _ _
  · exact StateStore.keeps_sessionById _

theorem keeps_recordOutboundMessage (request : OutboundMessage) :
    Keeps Quiet false false (runtime.recordOutboundMessage request) :=
  keeps_bind (runtime.keeps_outboundSession request) fun _ =>
    keeps_bind (keeps_recordSessionMessage _ _ _ _ _ _) fun _ => keeps_pure _

end EngineRuntime

/-! ## Runs of quiet parts -/

/-- Caches and providers are the same, and the conversations calm. -/
structure Untouched (w w' : World) : Prop where
  caches : w'.caches = w.caches
  providers : w'.providers = w.providers
  calm : Calm w.conversations w'.conversations

theorem Quiet.untouched {e : Event} {g : World → World} (h : Quiet e g) (w : World) :
    Untouched w (g w) :=
  ⟨h.caches w, h.providers w, h.calm w⟩

theorem Untouched.refl (w : World) : Untouched w w := ⟨rfl, rfl, Calm.refl _⟩

theorem Untouched.trans (w w' w'' : World) (h : Untouched w w') (h' : Untouched w' w'') :
    Untouched w w'' :=
  ⟨h'.caches.trans h.caches, h'.providers.trans h.providers, Calm.trans _ _ _ h.calm h'.calm⟩

theorem untouched_calm {α : Type} {m : Stmt Conversations α} (h : m.Respects Calm) (w : World) :
    Untouched w (Op.after (View.conversations.run m) w) :=
  (quiet_calm h).untouched w

/-- A quiet part leaves the world untouched. -/
theorem wp_untouched {α : Type} {p : EngineOp α} (hp : Acts Quiet p)
    {post : List Event → Except Fault α → World → Prop} {labels : List Event} {w : World}
    (h : ∀ labels r w', Untouched w w' → post labels r w') : wp p post labels w :=
  wp_of_acts (Q := fun _ => True) Untouched.refl Untouched.trans
    (fun _ _ he => ⟨trivial, he.untouched⟩) hp fun _ _ _ _ huntouched => h _ _ _ huntouched

/-- What has happened so far is quiet, and leaves the world untouched. -/
structure Silent (start : World) (labels : List Event) (w : World) : Prop where
  quiet : ∀ e ∈ labels, e = .quiet
  untouched : Untouched start w

theorem Silent.start (w : World) : Silent w [] w :=
  ⟨fun _ he => absurd he List.not_mem_nil, Untouched.refl w⟩

/-- A quiet part keeps a run silent. -/
theorem wp_quiet {α : Type} {p : EngineOp α} (hp : Acts Quiet p)
    {post : List Event → Except Fault α → World → Prop} {start w : World} {labels : List Event}
    (hsilent : Silent start labels w)
    (h : ∀ labels r w', Silent start labels w' → post labels r w') : wp p post labels w := by
  refine wp_of_acts Untouched.refl Untouched.trans
    (fun _ _ he => ⟨he.quiet, he.untouched⟩) hp fun more r w' hmore huntouched => h _ r w' ?_
  refine ⟨fun e he => ?_, hsilent.untouched.trans _ _ _ huntouched⟩
  rcases List.mem_append.mp he with hbefore | hnow
  · exact hsilent.quiet e hbefore
  · exact hmore e hnow

end OpenPinch
