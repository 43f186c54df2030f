import OpenPinch.Engine.Outbound
import OpenPinch.Gateway.Config

/-!
# Sending a message to a channel

`SendChannelMessage` hands the message to a connector and then has the engine
record it.  Only the Telegram connector sends anything.  The call may fail after
that, and then the message was sent all the same (`fails_unsent_iff`).
-/

namespace OpenPinch

open ConfigFile (GatewayConnector)
open Lib (Prog SortedMap)

/-! ## Connectors -/

/-- What the connectors read of the configuration. -/
structure ConnectorSettings where
  telegramBotToken : String
  connectors : SortedMap String GatewayConnector

/-- A connector of the registry. -/
inductive Connector where
  | telegram
  | desktop
  | stub (name : String)
deriving DecidableEq, Repr

/-- A message in an external channel. -/
structure ExternalMessage where
  chatId : Int
  text : String
deriving DecidableEq, Repr

/-- What a request to the bot API comes to.  It can fail after the message was
taken, when the answer does not come in time. -/
structure HttpExchange where
  delivered : Bool
  failure : Option String

/-- What a call of the engine over the bridge comes to, and the text of its error. -/
structure BridgeCall where
  arrives : Bool
  returns : Bool
  failure : Option Fault → String

/-- What lies outside of the gateway in a call. -/
structure SendNetwork where
  exchange : HttpExchange
  call : BridgeCall
  /-- The text of the error of `ParseInt`. -/
  parseFailure : String → String

/-- What the registry has done with a message. -/
structure Submission where
  error : Option String
  sent : List ExternalMessage

namespace Connector

def name : Connector → String
  | telegram => "telegram"
  | desktop => "desktop"
  | stub name => name

/-- `Enabled`. -/
def isEnabled (settings : ConnectorSettings) : Connector → Bool
  | telegram => settings.telegramBotToken != ""
  | desktop => (settings.connectors.get? "desktop").any (·.enabled)
  | stub name => (settings.connectors.get? name).any (·.enabled)

/-- `SendMessage`.  The status of the answer of the bot API is not looked at. -/
def sendMessage (network : SendNetwork) (channelId text : String) : Connector → Submission
  | telegram =>
      match parseI64 channelId with
      | none => ⟨some (network.parseFailure channelId), []⟩
      | some chatId =>
          ⟨network.exchange.failure, if network.exchange.delivered then [⟨chatId, text⟩] else []⟩
  | desktop => ⟨none, []⟩
  | stub name => ⟨some s!"connector {name} is not implemented yet", []⟩

end Connector

namespace Registry

/-- The connectors of `NewRegistry`. -/
def connectors : List Connector :=
  [.telegram, .desktop, .stub "discord", .stub "slack", .stub "whatsapp", .stub "signal",
    .stub "matrix", .stub "xmpp", .stub "irc", .stub "mattermost", .stub "microsoft-teams",
    .stub "rocketchat", .stub "zulip", .stub "google-chat", .stub "webex", .stub "line",
    .stub "viber", .stub "smtp", .stub "imap", .stub "twilio-sms", .stub "twilio-mms",
    .stub "webhook-inbound", .stub "webhook-outbound"]

/-- `Registry.SendMessage`. -/
def sendMessage (settings : ConnectorSettings) (network : SendNetwork)
    (name channelId text : String) : Submission :=
  match connectors.find? (·.name == name) with
  | none => ⟨some s!"connector {name} not found", []⟩
  | some connector =>
      if connector.isEnabled settings then connector.sendMessage network channelId text
      else ⟨some s!"connector {name} is disabled", []⟩

end Registry

/-! ## The call -/

/-- `message.outbound`, as it is published. -/
structure OutboundEvent where
  connector : String
  channelId : String
  body : String
  sessionId : String
deriving DecidableEq, Repr

/-- What a call of `SendChannelMessage` has done. -/
structure SentCall where
  response : Except String OutboundMessageResult
  sent : List ExternalMessage
  published : List OutboundEvent
  world : World

/-- What comes back of the result in the engine. -/
def BridgeCall.answer {α : Type} (call : BridgeCall) : Except Fault α → Except String α
  | .ok a => if call.returns then .ok a else .error (call.failure none)
  | .error fault => .error (call.failure (if call.returns then some fault else none))

section

variable [Externals] (runtime : EngineRuntime) (settings : ConnectorSettings)

/-- `Client.RecordOutboundMessage`. -/
def BridgeCall.recordOutboundMessage (call : BridgeCall) (request : OutboundMessage) (w : World) :
    Except String OutboundMessageResult × World :=
  if call.arrives then
    let recording := Prog.eval (runtime.recordOutboundMessage request) w
    (call.answer recording.1, recording.2)
  else (.error (call.failure none), w)

/-- `Service.SendChannelMessage`. -/
def sendChannelMessage (network : SendNetwork) (request : OutboundMessage) (w : World) :
    SentCall :=
  let submission :=
    Registry.sendMessage settings network request.connector request.channelId request.body
  match submission.error with
  | some message => ⟨.error s!"send connector message: {message}", submission.sent, [], w⟩
  | none =>
      match network.call.recordOutboundMessage runtime request w with
      | (.ok recorded, w') =>
          ⟨.ok recorded, submission.sent,
            [⟨request.connector, request.channelId, request.body, recorded.sessionId⟩], w'⟩
      | (.error message, w') =>
          ⟨.error s!"record outbound message: {message}", submission.sent, [], w'⟩

/-- A client that calls again while the call fails. -/
def resend (request : OutboundMessage) : List SendNetwork → World → List ExternalMessage
  | [], _ => []
  | network :: rest, w =>
      let call := sendChannelMessage runtime settings network request w
      match call.response with
      | .ok _ => call.sent
      | .error _ => call.sent ++ resend request rest call.world

end

/-! ## What was sent -/

namespace Registry

variable {settings : ConnectorSettings} {network : SendNetwork} {name channelId text : String}

/-- Only the Telegram connector sends. -/
theorem sent_of_ne (h : name ≠ "telegram") :
    (sendMessage settings network name channelId text).sent = [] := by
  unfold sendMessage
  cases hfound : connectors.find? (·.name == name) with
  | none => rfl
  | some connector =>
      simp only
      split
      · cases connector with
        | telegram =>
            have hname := List.find?_some hfound
            exact absurd (eq_of_beq hname).symm h
        | desktop => rfl
        | stub other => rfl
      · rfl

/-- What the Telegram connector is asked for. -/
theorem sendMessage_telegram :
    sendMessage settings network "telegram" channelId text =
      if settings.telegramBotToken != "" then
        Connector.telegram.sendMessage network channelId text
      else ⟨some "connector telegram is disabled", []⟩ :=
  rfl

/-- A message is sent when the connector has a token, the channel is a number and the
request is taken. -/
theorem sent_ne_nil_iff :
    (sendMessage settings network name channelId text).sent ≠ [] ↔
      name = "telegram" ∧ settings.telegramBotToken ≠ "" ∧ (parseI64 channelId).isSome ∧
        network.exchange.delivered = true := by
  by_cases hname : name = "telegram"
  · subst hname
    rw [sendMessage_telegram]
    by_cases htoken : settings.telegramBotToken = ""
    · simp [htoken]
    · cases hchat : parseI64 channelId with
      | none => simp [htoken, hchat, Connector.sendMessage]
      | some chatId => simp [htoken, hchat, Connector.sendMessage]
  · simp [hname, sent_of_ne hname]

/-- When it was sent, the connector has failed with the request. -/
theorem error_of_sent (h : (sendMessage settings network name channelId text).sent ≠ []) :
    (sendMessage settings network name channelId text).error = network.exchange.failure := by
  obtain ⟨rfl, htoken, hchat, -⟩ := sent_ne_nil_iff.mp h
  obtain ⟨chatId, hchat⟩ := Option.isSome_iff_exists.mp hchat
  rw [sendMessage_telegram, if_pos (by simpa using htoken), Connector.sendMessage, hchat]

/-- At most one message is sent. -/
theorem length_sent_le : (sendMessage settings network name channelId text).sent.length ≤ 1 := by
  by_cases hname : name = "telegram"
  · subst hname
    rw [sendMessage_telegram, Connector.sendMessage]
    split
    · split
      · exact Nat.zero_le 1
      · simp only
        split
        · exact Nat.le_refl 1
        · exact Nat.zero_le 1
    · exact Nat.zero_le 1
  · rw [sent_of_ne hname]
    exact Nat.zero_le 1

end Registry

/-! ## Failed calls -/

section

variable [Externals] {runtime : EngineRuntime} {settings : ConnectorSettings}
  {network : SendNetwork} {request : OutboundMessage} {w : World}

/-- What the connector has sent is what the call has sent. -/
theorem sent_sendChannelMessage :
    (sendChannelMessage runtime settings network request w).sent =
      (Registry.sendMessage settings network request.connector request.channelId
        request.body).sent := by
  unfold sendChannelMessage
  simp only
  split
  · rfl
  · split <;> rfl

/-- The engine answers when the call gets there and back and the recording does not fail. -/
theorem BridgeCall.recorded_iff {call : BridgeCall} :
    (∃ recorded, (call.recordOutboundMessage runtime request w).1 = .ok recorded) ↔
      call.arrives = true ∧ call.returns = true ∧
        ¬ RecordingFails request w.around w.conversations := by
  rw [← recordOutboundMessage_returns_iff runtime request w]
  unfold BridgeCall.recordOutboundMessage
  cases call.arrives with
  | false => simp
  | true =>
      simp only [if_true]
      cases (Prog.eval (runtime.recordOutboundMessage request) w).1 with
      | ok recorded => cases hreturns : call.returns <;> simp [BridgeCall.answer, hreturns]
      | error fault => simp [BridgeCall.answer]

/-- The call fails when its connector fails, or else the engine does not answer. -/
theorem response_error_iff :
    (∃ message, (sendChannelMessage runtime settings network request w).response =
        .error message) ↔
      (Registry.sendMessage settings network request.connector request.channelId
          request.body).error.isSome ∨
        ¬ ∃ recorded, (network.call.recordOutboundMessage runtime request w).1 = .ok recorded := by
  unfold sendChannelMessage
  simp only
  cases (Registry.sendMessage settings network request.connector request.channelId
    request.body).error with
  | some message => simp
  | none =>
      cases network.call.recordOutboundMessage runtime request w with
      | mk recorded w' => cases recorded <;> simp

/-- The message is delivered, and then the exchange, the bridge or the recording fails. -/
def SentUnrecorded (settings : ConnectorSettings) (network : SendNetwork)
    (request : OutboundMessage) (w : World) : Prop :=
  request.connector = "telegram" ∧ settings.telegramBotToken ≠ "" ∧
    (parseI64 request.channelId).isSome ∧ network.exchange.delivered = true ∧
    (network.exchange.failure.isSome ∨ network.call.arrives = false ∨
      network.call.returns = false ∨ RecordingFails request w.around w.conversations)

/-- The call fails when the message is delivered and something fails then. -/
theorem fails_of_sentUnrecorded (runtime : EngineRuntime)
    (h : SentUnrecorded settings network request w) :
    (∃ message, (sendChannelMessage runtime settings network request w).response =
        .error message) ∧
      (sendChannelMessage runtime settings network request w).sent ≠ [] := by
  obtain ⟨hname, htoken, hchat, hdelivered, hfails⟩ := h
  have hsent : (Registry.sendMessage settings network request.connector request.channelId
      request.body).sent ≠ [] :=
    Registry.sent_ne_nil_iff.mpr ⟨hname, htoken, hchat, hdelivered⟩
  rw [response_error_iff, sent_sendChannelMessage, BridgeCall.recorded_iff,
    Registry.error_of_sent hsent]
  refine ⟨?_, hsent⟩
  rcases hfails with hexchange | hlost | hlost | hrecording
  · exact Or.inl hexchange
  · exact Or.inr fun hanswered => by simp [hlost] at hanswered
  · exact Or.inr fun hanswered => by simp [hlost] at hanswered
  · exact Or.inr fun hanswered => hanswered.2.2 hrecording

/-- Otherwise a call that fails has sent nothing. -/
theorem sent_of_error {message : String} (h : ¬ SentUnrecorded settings network request w)
    (hfails : (sendChannelMessage runtime settings network request w).response =
      .error message) :
    (sendChannelMessage runtime settings network request w).sent = [] := by
  by_contra hsent
  have hfails := response_error_iff.mp ⟨message, hfails⟩
  rw [sent_sendChannelMessage] at hsent
  obtain ⟨hname, htoken, hchat, hdelivered⟩ := Registry.sent_ne_nil_iff.mp hsent
  rw [Registry.error_of_sent hsent, BridgeCall.recorded_iff] at hfails
  refine h ⟨hname, htoken, hchat, hdelivered, ?_⟩
  rcases hfails with hexchange | hunanswered
  · exact Or.inl hexchange
  · right
    by_contra hanswered
    rw [not_or, not_or, Bool.not_eq_false, Bool.not_eq_false] at hanswered
    exact hunanswered hanswered

/-- A call that fails has sent nothing, unless a message is delivered before something
fails. -/
theorem fails_unsent_iff (runtime : EngineRuntime) (settings : ConnectorSettings)
    (network : SendNetwork) (request : OutboundMessage) (w : World) :
    (∀ message, (sendChannelMessage runtime settings network request w).response =
        .error message → (sendChannelMessage runtime settings network request w).sent = []) ↔
      ¬ SentUnrecorded settings network request w := by
  constructor
  · intro hunsent hdelivered
    obtain ⟨⟨message, hfails⟩, hsent⟩ := fails_of_sentUnrecorded runtime hdelivered
    exact hsent (hunsent message hfails)
  · intro h message hfails
    exact sent_of_error h hfails

end

/-- A message that is delivered for a session that is not there. -/
theorem fails_unsent_fails :
    ¬ ∀ (runtime : @EngineRuntime) (settings : ConnectorSettings) (network : SendNetwork)
      (request : OutboundMessage) (w : World) (message : String),
      (@sendChannelMessage referenceExternals runtime settings network request w).response =
          .error message →
        (@sendChannelMessage referenceExternals runtime settings network request w).sent = [] := by
  intro h
  have hunsent := h referenceRuntime ⟨"token", .empty⟩
    ⟨⟨true, none⟩, ⟨true, true, fun _ => "session gone not found"⟩, id⟩
    ⟨"telegram", "7", "", "hi", "\x7b\x7d", "gone"⟩ referenceWorld _ rfl
  exact absurd hunsent (by decide)

/-- Calling again after failures sends one message at most, where no call fails that has
sent one. -/
theorem length_resend_le [Externals] {runtime : EngineRuntime} {settings : ConnectorSettings}
    {request : OutboundMessage} (networks : List SendNetwork) (w : World)
    (h : ∀ network ∈ networks, ∀ w, ¬ SentUnrecorded settings network request w) :
    (resend runtime settings request networks w).length ≤ 1 := by
  induction networks generalizing w with
  | nil => exact Nat.zero_le 1
  | cons network rest ih =>
      unfold resend
      simp only
      split
      · rw [sent_sendChannelMessage]
        exact Registry.length_sent_le
      · rename_i message hfails
        rw [sent_of_error (h network List.mem_cons_self w) hfails, List.nil_append]
        exact ih _ fun network hmem => h network (List.mem_cons_of_mem _ hmem)

end OpenPinch
