import OpenPinch.Engine.BrainManager
import OpenPinch.Engine.Orchestrator

/-!
# The runtime

The operations of `EngineRuntime` on conversations: inbound and outbound
messages, pruning and pairing updates.
-/

namespace OpenPinch

variable [Externals]

/-- `EngineRuntime`: its configuration, the brain and the encryption manager. -/
structure EngineRuntime where
  config : AppConfig
  brain : BrainManager
  encryption : EncryptionManager

namespace EngineRuntime

variable (runtime : EngineRuntime)

/-- The orchestrator of the runtime. -/
def orchestrator : Orchestrator := ⟨runtime.config, runtime.encryption⟩

/-- `EngineRuntime::record_audit`. -/
def recordAudit (category severity summary : String) (anomalyScore : Rat) (payload : Json) :
    EngineOp Unit := do
  let uuid ← EngineOp.newUuid
  let now ← EngineOp.now
  StateStore.recordAudit
    { id := s!"audit-{uuid}"
      category := category
      severity := severity
      summary := summary
      anomalyScore := anomalyScore
      payloadJson := Externals.jsonText payload
      createdAt := now }

/-! ## Sessions and routing -/

/-- `EngineRuntime::resolve_session`. -/
def resolveSession (message : MessageEnvelope) : EngineOp SessionRecord :=
  StateStore.resolveSessionForInbound message runtime.config
    runtime.config.modelFailover.defaultProfile

/-- The messages that `ensure_pairing_if_required` lets pass unseen: those of the
desktop, of a session that is not direct, and where pairing is off. -/
def pairingApplies (sessionType : String) (message : MessageEnvelope) : Bool :=
  message.connector != "desktop" && sessionType == "direct" &&
    runtime.config.routing.autoPairDm && (runtime.config.connector message.connector).pairDm

/-- The sender is on the list of the connector. -/
def allowlisted (message : MessageEnvelope) : Bool :=
  (runtime.config.connector message.connector).allowlist.contains message.sender

/-- `EngineRuntime::ensure_pairing_if_required`. -/
def ensurePairingIfRequired (session : SessionRecord) (message : MessageEnvelope) :
    EngineOp (Option String) := do
  if !runtime.pairingApplies session.sessionType message then return none
  else if runtime.allowlisted message then
    StateStore.clearSessionPendingPairing session.id
    return none
  else
    let approved ← StateStore.pairingIsApproved message.connector message.channelId message.sender
    if approved then
      StateStore.clearSessionPendingPairing session.id
      return none
    else
      let pairing ← StateStore.ensurePairing message.connector message.channelId message.sender
        session.id "direct message not yet paired"
      StateStore.setSessionPendingPairing session.id true
      return some pairing.id

/-- `EngineRuntime::should_ignore_message`. -/
def shouldIgnoreMessage (sessionType : String) (message : MessageEnvelope) : Bool :=
  if sessionType != "group" then false
  else if !runtime.config.routing.mentionOnlyInGroups &&
      !(runtime.config.connector message.connector).mentionOnly then false
  else if (((Externals.jsonParse message.metadataJson).bind fun metadata =>
      (metadata.get? "reply_to_openpinch").bind Json.asBool?).getD false) then false
  else
    let lowered := Externals.toLowercase message.body
    !runtime.config.routing.mentionNames.any fun name =>
      containsText lowered (Externals.toLowercase name)

/-- `EngineRuntime::model_route_for_session`. -/
def modelRouteForSession (session : SessionRecord) : List String :=
  let name := if session.modelProfile = "" then runtime.config.modelFailover.defaultProfile
    else session.modelProfile
  let fallback := runtime.config.orchestration.providerOrder
  match runtime.config.modelProfiles.get? name with
  | some profile => if profile.providerOrder.isEmpty then fallback else profile.providerOrder
  | none => fallback

/-! ## Inbound messages -/

/-- The prompt of a message in a session. -/
def messagePrompt (sessionId : String) (message : MessageEnvelope) (contextPack : String) :
    String :=
  let sender := message.sender
  if contextPack = "" then
    s!"You are OpenPinch, a local autonomous agent. Connector: {message.connector}. " ++
      s!"Sender: {sender}. Session: {sessionId}. Message: {message.body}"
  else
    s!"You are OpenPinch, a local autonomous agent.\nConnector: {message.connector}\n" ++
      s!"Sender: {sender}\nSession: {sessionId}\nRelevant brain context:\n{contextPack}\n" ++
      s!"User message: {message.body}"

/-- The reply to a message that has to wait for a pairing. -/
def pairingReply : String :=
  "Pairing request created. Approve it from the Control UI or `openpinch pairing approve <id>` " ++
    "before OpenPinch starts replying in this session."

/-- The reply with the suggestions under it. -/
def withSuggestions (reply : String) (suggestions : List BrainSuggestionRecord) : String :=
  if suggestions.isEmpty then reply
  else
    let suffix := String.intercalate "\n" (suggestions.map fun suggestion =>
      s!"- {suggestion.summary} ({suggestion.reason})")
    s!"{reply}\n\nNext actions:\n{suffix}"

/-- The response as it is sent, with suggestions if they are configured. -/
def replyText (message : MessageEnvelope) (response : String) : EngineOp String := do
  if runtime.config.brain.inlineSuggestionsInReplies then
    let suggested ← EngineOp.attempt (runtime.brain.inlineSuggestions
      (BrainManager.scopeForMessage message) runtime.config.brain.maxInlineSuggestions)
    return withSuggestions response
      ((suggested.toOption.getD []).take runtime.config.brain.maxInlineSuggestions)
  else return response

/-- What follows a response: it is ingested, recorded and audited. -/
def deliverReply (session : SessionRecord) (message : MessageEnvelope) (messageId : String)
    (result : OrchestrationResult) : EngineOp InboundMessageResult := do
  EngineOp.ignore (runtime.brain.ingestAssistantReply message result.response)
  let reply ← runtime.replyText message result.response
  let _ ← StateStore.recordSessionMessage session.id message.connector "assistant" "openpinch"
    reply (Externals.jsonText (.obj [("cache", .str result.cacheTier),
      ("provider", .str result.provider)]))
  recordAudit "connector.message" "info" s!"message handled via {result.provider}" (1 / 20)
    (.obj [("cache", .str result.cacheTier), ("connector", .str message.connector),
      ("provider", .str result.provider), ("session_id", .str session.id)])
  return ⟨true, messageId, session.id, "", "replied", reply⟩

/-- What follows when no provider answers. -/
def deliverDegraded (session : SessionRecord) (messageId error : String) :
    EngineOp InboundMessageResult := do
  recordAudit "connector.message" "warning" "message handled without local model reply" (9 / 20)
    (.obj [("error", .str error), ("session_id", .str session.id)])
  return ⟨true, messageId, session.id, "", "degraded",
    s!"OpenPinch received the message but no local model backend produced a reply: {error}"⟩

/-- The part of `handle_message` from the prompt on. -/
def answerMessage (session : SessionRecord) (message : MessageEnvelope) (messageId : String) :
    EngineOp InboundMessageResult := do
  let packed ← EngineOp.attempt (runtime.brain.buildContextPack message.body
    (BrainManager.scopeForMessage message))
  let prompt := messagePrompt session.id message (packed.toOption.getD "")
  EngineOp.emit (.submit session.id message.body prompt)
  let generated ← EngineOp.attempt (runtime.orchestrator.generateWithRoute prompt .connector
    (runtime.modelRouteForSession session))
  match generated with
  | .ok result => do
      EngineOp.emit (.answered result.response result.cacheTier)
      runtime.deliverReply session message messageId result
  | .error error => deliverDegraded session messageId error

/-- What follows when a pairing is missing. -/
def deliverPairing (session : SessionRecord) (message : MessageEnvelope)
    (messageId pairingId : String) : EngineOp InboundMessageResult := do
  recordAudit "connector.pairing" "info" "pairing required before message delivery" (3 / 25)
    (.obj [("connector", .str message.connector), ("pairing_id", .str pairingId),
      ("sender", .str message.sender), ("session_id", .str session.id)])
  return ⟨true, messageId, session.id, pairingId, "pairing_required", pairingReply⟩

/-- The part of `handle_message` from the gate on. -/
def gateMessage (session : SessionRecord) (message : MessageEnvelope) (messageId : String) :
    EngineOp InboundMessageResult := do
  match ← runtime.ensurePairingIfRequired session message with
  | some pairingId => deliverPairing session message messageId pairingId
  | none =>
      if runtime.shouldIgnoreMessage session.sessionType message then
        return ⟨true, messageId, session.id, "", "ignored", ""⟩
      else runtime.answerMessage session message messageId

/-- `EngineRuntime::handle_message`. -/
def handleMessage (message : MessageEnvelope) : EngineOp InboundMessageResult := do
  StateStore.recordMessage message
  let session ← runtime.resolveSession message
  let messageId ← StateStore.recordSessionMessage session.id message.connector "user"
    message.sender message.body message.metadataJson
  EngineOp.ignore (runtime.brain.ingestMessage message)
  runtime.gateMessage session message messageId

/-! ## The other operations -/

/-- `EngineRuntime::update_pairing`. -/
def updatePairing (request : PairingUpdate) : EngineOp PairingRecord := do
  let pairing ← StateStore.updatePairing request
  recordAudit "connector.pairing" "info" "pairing updated" (3 / 50)
    (.obj [("pairing_id", .str pairing.id), ("status", .str pairing.status)])
  return pairing

/-- The session of an outbound message: the one it names, or the one of its channel. -/
def outboundSession (request : OutboundMessage) : EngineOp SessionRecord :=
  if request.sessionId = "" then
    StateStore.resolveSessionForOutbound request.connector request.channelId request.sender
      runtime.config
  else StateStore.sessionById request.sessionId

/-- `EngineRuntime::record_outbound_message`. -/
def recordOutboundMessage (request : OutboundMessage) : EngineOp OutboundMessageResult := do
  let session ← runtime.outboundSession request
  let messageId ← StateStore.recordSessionMessage session.id request.connector "assistant"
    (if request.sender = "" then "openpinch" else request.sender) request.body
    request.metadataJson
  return ⟨true, messageId, session.id, "sent", "outbound message recorded"⟩

/-- `EngineRuntime::prune_sessions`. -/
def pruneSessions (request : SessionPruneRequestRecord) : EngineOp Nat :=
  StateStore.pruneSessions request

end EngineRuntime

end OpenPinch
