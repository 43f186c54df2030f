import OpenPinch.Engine.Encryption
import OpenPinch.Lib.Transition

/-!
# Agent protocols

`Handoff` is the specification `handoff_v1` as a transition system, with its
three theorems.  `validateProtocol` is the engine's validator.

A run that reaches the phase `complete` has exactly two messages, the second
one sent by the recipient of the first (`Handoff.completes_iff`).  The validator
looks at the first sender, at each message alone and at a lower bound of the
length (`validateProtocol_accepted_iff`).  `validateProtocol_handoff_iff` says
on which requests the two agree.
-/

namespace OpenPinch

/-! ## The specification -/

namespace Handoff

/-- The phases of the specification. -/
inductive Phase where
  | init
  | handoff
  | complete
deriving DecidableEq, Repr

/-- A message of the transcript. -/
structure Message where
  sender : String
  recipient : String
deriving DecidableEq, Repr

/-- The variables of the specification. -/
structure State where
  phase : Phase
  transcript : List Message
deriving DecidableEq, Repr

/-- The actions, with the stuttering step that `[Next]_vars` allows. -/
inductive Action where
  | clientSend
  | coordinatorForward
  | stutter
deriving DecidableEq, Repr

/-- The constants of the specification. -/
structure Parties where
  initiator : String
  coordinator : String
  worker : String

/-- The constants are three different parties. -/
structure Parties.Distinct (p : Parties) : Prop where
  initiator_coordinator : p.initiator ≠ p.coordinator
  initiator_worker : p.initiator ≠ p.worker
  coordinator_worker : p.coordinator ≠ p.worker

/-- What the initiator sends. -/
def Parties.request (p : Parties) : Message := ⟨p.initiator, p.coordinator⟩

/-- What the coordinator forwards. -/
def Parties.forward (p : Parties) : Message := ⟨p.coordinator, p.worker⟩

/-- The steps of `Next`, and stuttering. -/
inductive Step (p : Parties) : State → Action → State → Prop where
  | clientSend {transcript : List Message} :
      Step p ⟨.init, transcript⟩ .clientSend ⟨.handoff, transcript ++ [p.request]⟩
  | coordinatorForward {transcript : List Message} :
      Step p ⟨.handoff, transcript⟩ .coordinatorForward ⟨.complete, transcript ++ [p.forward]⟩
  | stutter {s : State} : Step p s .stutter s

/-- `Spec`. -/
def spec (p : Parties) : Lib.System State Action where
  init := fun s => s = ⟨.init, []⟩
  step := Step p

/-- In every reachable state the phase determines the transcript. -/
theorem reachable_transcript {p : Parties} {s : State} (h : (spec p).Reachable s) :
    s.transcript =
      match s.phase with
      | .init => []
      | .handoff => [p.request]
      | .complete => [p.request, p.forward] := by
  refine h.invariant (P := fun s => s.transcript =
    match s.phase with
    | .init => []
    | .handoff => [p.request]
    | .complete => [p.request, p.forward]) ?_ ?_
  · intro s hs
    cases hs
    rfl
  · intro s action s' hstep hs
    cases hstep with
    | clientSend => cases hs; rfl
    | coordinatorForward => cases hs; rfl
    | stutter => exact hs

theorem complete_reachable (p : Parties) :
    (spec p).Reachable ⟨.complete, [p.request, p.forward]⟩ :=
  ((Lib.System.Reachable.of_init (t := spec p) rfl).step .clientSend).step .coordinatorForward

/-- `Spec => []TypeInvariant`. -/
theorem type_invariant {p : Parties} {s : State} (h : (spec p).Reachable s) :
    ∀ message ∈ s.transcript,
      message.sender ∈ [p.initiator, p.coordinator, p.worker] ∧
        message.recipient ∈ [p.initiator, p.coordinator, p.worker] := by
  rw [reachable_transcript h]
  cases s.phase <;> simp [Parties.request, Parties.forward]

/-- `Spec => []NoSelfLoop`, for distinct parties. -/
theorem no_self_loop {p : Parties} (distinct : p.Distinct) {s : State}
    (h : (spec p).Reachable s) : ∀ message ∈ s.transcript, message.sender ≠ message.recipient := by
  rw [reachable_transcript h]
  cases s.phase <;>
    simp [Parties.request, Parties.forward, distinct.initiator_coordinator,
      distinct.coordinator_worker]

/-- `Spec => []Termination`. -/
theorem termination {p : Parties} {s : State} (h : (spec p).Reachable s)
    (hcomplete : s.phase = .complete) : s.transcript.length = 2 := by
  rw [reachable_transcript h, hcomplete]
  rfl

/-- The messages are the transcript of a run that reaches the phase `complete`,
for the given initiator and some other two parties. -/
def Completes (initiator : String) (messages : List Message) : Prop :=
  ∃ p : Parties, p.initiator = initiator ∧ p.Distinct ∧ (spec p).Reachable ⟨.complete, messages⟩

/-- What the specification asks of a transcript, message by message. -/
theorem completes_iff {initiator : String} {messages : List Message} :
    Completes initiator messages ↔
      ∃ first second, messages = [first, second] ∧ first.sender = initiator ∧
        second.sender = first.recipient ∧ first.sender ≠ first.recipient ∧
        second.sender ≠ second.recipient ∧ second.recipient ≠ initiator := by
  constructor
  · rintro ⟨p, rfl, distinct, hreach⟩
    have htranscript : messages = [p.request, p.forward] := reachable_transcript hreach
    exact ⟨p.request, p.forward, htranscript, rfl, rfl, distinct.initiator_coordinator,
      distinct.coordinator_worker, distinct.initiator_worker.symm⟩
  · rintro ⟨first, ⟨_, worker⟩, rfl, rfl, rfl, hfirst, hsecond, hback⟩
    exact ⟨⟨first.sender, first.recipient, worker⟩, rfl, ⟨hfirst, hback.symm, hsecond⟩,
      complete_reachable _⟩

end Handoff

/-! ## The validator -/

/-- `AgentEnvelope`. -/
structure AgentEnvelope where
  sender : String
  recipient : String
  body : String
  metadataJson : String
  encryptedBody : Option String
deriving DecidableEq, Repr

/-- `ProtocolRunRequest`. -/
structure ProtocolRunRequest where
  protocolId : String
  initiator : String
  messages : List AgentEnvelope
  policyScope : String
deriving DecidableEq, Repr

/-- `ProtocolRunResult`. -/
structure ProtocolRunResult where
  accepted : Bool
  protocolId : String
  transcriptJson : String
  findings : List String
deriving DecidableEq, Repr

/-- The sender and the recipient of an envelope. -/
def AgentEnvelope.message (envelope : AgentEnvelope) : Handoff.Message :=
  ⟨envelope.sender, envelope.recipient⟩

/-- The findings about one message. -/
def messageFindings (config : EncryptionConfig) (initiator : String) (index : Nat)
    (message : AgentEnvelope) : List String :=
  (if index = 0 ∧ message.sender ≠ initiator then
    ["first message sender must equal initiator"] else []) ++
  (if message.sender = message.recipient then
    [s!"message {index} uses identical sender and recipient {message.sender}"] else []) ++
  (if config.encryptAgentChannels = true ∧ message.encryptedBody = none ∧ message.body ≠ "" then
    [s!"message {index} is missing encrypted_body"] else [])

/-- The findings of a request, in the order the validator pushes them. -/
def protocolFindings (request : ProtocolRunRequest) (config : EncryptionConfig) : List String :=
  (if request.messages = [] then ["protocol run must include at least one message"] else []) ++
  (request.messages.zipIdx.flatMap fun entry =>
    messageFindings config request.initiator entry.2 entry.1) ++
  (if request.protocolId = "handoff.v1" ∧ request.messages.length < 2 then
    ["handoff.v1 expects at least two messages"] else [])

section

variable [Externals]

/-- The stored form of a blob, `serde_json::to_string`. -/
def EncryptedBlob.toJson (blob : EncryptedBlob) : Json :=
  .obj [("nonce", .str blob.nonce), ("ciphertext", .str blob.ciphertext)]

/-- One line of the transcript.  A body without a ciphertext is encrypted here,
under the nonce that is drawn for it. -/
def transcriptEntry (encryption : EncryptionManager) (nonce : Nonce) (message : AgentEnvelope) :
    Json :=
  let encryptedBody := (message.encryptedBody <|>
    (encryption.encryptText nonce message.body).toOption.map fun blob =>
      Externals.jsonText blob.toJson).getD ""
  .obj [("encrypted_body", .str encryptedBody), ("metadata_json", .str message.metadataJson),
    ("recipient", .str message.recipient), ("sender", .str message.sender)]

/-- `validate_protocol`.  `nonces` gives the nonce drawn for each message. -/
def validateProtocol (request : ProtocolRunRequest) (encryption : EncryptionManager)
    (config : EncryptionConfig) (nonces : Nat → Nonce) : ProtocolRunResult :=
  let findings := protocolFindings request config
  { accepted := findings.isEmpty
    protocolId := request.protocolId
    transcriptJson := Externals.jsonPretty (.arr (request.messages.zipIdx.map fun entry =>
      transcriptEntry encryption (nonces entry.2) entry.1))
    findings := findings }

end

/-! ## What is accepted -/

theorem messageFindings_eq_nil {config : EncryptionConfig} {initiator : String} {index : Nat}
    {message : AgentEnvelope} (hbody : message.encryptedBody.isSome) :
    messageFindings config initiator index message = [] ↔
      (index = 0 → message.sender = initiator) ∧ message.sender ≠ message.recipient := by
  obtain ⟨body, hbody⟩ := Option.isSome_iff_exists.mp hbody
  simp [messageFindings, hbody]

/-- With a ciphertext in every message, a handoff is accepted exactly when it has
two messages or more, starts with the initiator and has no self loop. -/
theorem protocolFindings_eq_nil {request : ProtocolRunRequest} {config : EncryptionConfig}
    (hprotocol : request.protocolId = "handoff.v1")
    (hbodies : ∀ message ∈ request.messages, message.encryptedBody.isSome) :
    protocolFindings request config = [] ↔
      2 ≤ request.messages.length ∧
        (∀ first, request.messages.head? = some first → first.sender = request.initiator) ∧
        ∀ message ∈ request.messages, message.sender ≠ message.recipient := by
  have each : (request.messages.zipIdx.flatMap fun entry =>
      messageFindings config request.initiator entry.2 entry.1) = [] ↔
      ∀ entry ∈ request.messages.zipIdx, (entry.2 = 0 → entry.1.sender = request.initiator) ∧
        entry.1.sender ≠ entry.1.recipient := by
    rw [List.flatMap_eq_nil_iff]
    refine forall₂_congr fun entry hentry => ?_
    exact messageFindings_eq_nil (hbodies entry.1 (List.fst_mem_of_mem_zipIdx hentry))
  have short : (if request.protocolId = "handoff.v1" ∧ request.messages.length < 2 then
      ["handoff.v1 expects at least two messages"] else []) = [] ↔
      2 ≤ request.messages.length := by
    simp only [hprotocol, true_and, ite_eq_right_iff, List.cons_ne_nil, imp_false]
    omega
  rw [protocolFindings, List.append_eq_nil_iff, List.append_eq_nil_iff, each, short]
  cases hmessages : request.messages with
  | nil => simp
  | cons first rest =>
      simp only [List.zipIdx_cons, List.forall_mem_cons]
      constructor
      · rintro ⟨⟨_, ⟨hfirst, hloop⟩, hrest⟩, hlength⟩
        refine ⟨hlength, fun other hother => ?_, hloop, fun message hmem => ?_⟩
        · cases hother
          exact hfirst trivial
        · obtain ⟨index, hindex⟩ := List.mem_iff_getElem?.mp hmem
          exact (hrest (message, 1 + index) (List.mk_add_mem_zipIdx_iff_getElem?.mpr hindex)).2
      · rintro ⟨hlength, hfirst, hloop, hrest⟩
        refine ⟨⟨by simp, ⟨fun _ => hfirst first rfl, hloop⟩,
          fun entry hentry => ⟨?_, ?_⟩⟩, hlength⟩
        · intro hzero
          have := List.le_snd_of_mem_zipIdx hentry
          omega
        · exact hrest entry.1 (List.fst_mem_of_mem_zipIdx hentry)

/-- Every complete run of the specification is accepted. -/
theorem validateProtocol_of_completes [Externals] {request : ProtocolRunRequest}
    {encryption : EncryptionManager} {config : EncryptionConfig} {nonces : Nat → Nonce}
    (hprotocol : request.protocolId = "handoff.v1")
    (hbodies : ∀ message ∈ request.messages, message.encryptedBody.isSome)
    (h : Handoff.Completes request.initiator (request.messages.map AgentEnvelope.message)) :
    (validateProtocol request encryption config nonces).accepted = true := by
  obtain ⟨first, second, hmessages, hinitiator, -, hfirst, hsecond, -⟩ :=
    Handoff.completes_iff.mp h
  obtain ⟨a, rest, hrequest, rfl, hrest⟩ := List.map_eq_cons_iff.mp hmessages
  obtain ⟨b, tail, rfl, rfl, htail⟩ := List.map_eq_cons_iff.mp hrest
  cases List.map_eq_nil_iff.mp htail
  refine List.isEmpty_iff.mpr ((protocolFindings_eq_nil hprotocol hbodies).mpr ?_)
  rw [hrequest]
  refine ⟨Nat.le_refl 2, ?_, ?_⟩
  · intro head hhead
    cases hhead
    exact hinitiator
  · intro message hmem
    rcases List.mem_cons.mp hmem with rfl | hmem
    · exact hfirst
    · cases List.mem_singleton.mp hmem
      exact hsecond

/-- The validator agrees with the specification on a handoff exactly when the
request breaks a rule of the validator, or has two messages of which the second
goes from the recipient of the first to a third party. -/
theorem validateProtocol_handoff_iff [Externals] (request : ProtocolRunRequest)
    (encryption : EncryptionManager) (config : EncryptionConfig) (nonces : Nat → Nonce)
    (hprotocol : request.protocolId = "handoff.v1")
    (hbodies : ∀ message ∈ request.messages, message.encryptedBody.isSome) :
    ((validateProtocol request encryption config nonces).accepted = true ↔
      Handoff.Completes request.initiator (request.messages.map AgentEnvelope.message)) ↔
    (request.messages.length < 2 ∨
      (∃ first, request.messages.head? = some first ∧ first.sender ≠ request.initiator) ∨
      (∃ message ∈ request.messages, message.sender = message.recipient) ∨
      ∃ first second, request.messages = [first, second] ∧ second.sender = first.recipient ∧
        second.recipient ≠ request.initiator) := by
  have haccepted : (validateProtocol request encryption config nonces).accepted = true ↔
      2 ≤ request.messages.length ∧
        (∀ first, request.messages.head? = some first → first.sender = request.initiator) ∧
        ∀ message ∈ request.messages, message.sender ≠ message.recipient :=
    List.isEmpty_iff.trans (protocolFindings_eq_nil hprotocol hbodies)
  constructor
  · intro agree
    by_cases hshort : request.messages.length < 2
    · exact Or.inl hshort
    by_cases hother : ∃ first, request.messages.head? = some first ∧
        first.sender ≠ request.initiator
    · exact Or.inr (Or.inl hother)
    by_cases hloop : ∃ message ∈ request.messages, message.sender = message.recipient
    · exact Or.inr (Or.inr (Or.inl hloop))
    -- no rule is broken, so the transcript is that of a complete run
    have hfirst : ∀ first, request.messages.head? = some first →
        first.sender = request.initiator := by
      intro first hhead
      apply Classical.byContradiction
      exact fun hne => hother ⟨first, hhead, hne⟩
    have hcompletes := agree.mp (haccepted.mpr
      ⟨Nat.not_lt.mp hshort, hfirst, fun message hmem heq => hloop ⟨message, hmem, heq⟩⟩)
    obtain ⟨first, second, hmessages, -, hchain, -, -, hback⟩ :=
      Handoff.completes_iff.mp hcompletes
    obtain ⟨a, rest, hrequest, rfl, hrest⟩ := List.map_eq_cons_iff.mp hmessages
    obtain ⟨b, tail, rfl, rfl, htail⟩ := List.map_eq_cons_iff.mp hrest
    cases List.map_eq_nil_iff.mp htail
    exact Or.inr (Or.inr (Or.inr ⟨a, b, hrequest, hchain, hback⟩))
  · intro condition
    refine ⟨fun h => ?_, validateProtocol_of_completes hprotocol hbodies⟩
    obtain ⟨hlength, hfirst, hloops⟩ := haccepted.mp h
    rcases condition with hshort | ⟨first, hhead, hother⟩ | ⟨message, hmem, hloop⟩ |
      ⟨first, second, hmessages, hchain, hback⟩
    · omega
    · exact absurd (hfirst first hhead) hother
    · exact absurd hloop (hloops message hmem)
    · refine Handoff.completes_iff.mpr
        ⟨first.message, second.message, by rw [hmessages]; rfl, ?_, hchain, ?_, ?_, hback⟩
      · exact hfirst first (by rw [hmessages]; rfl)
      · exact hloops first (by rw [hmessages]; simp)
      · exact hloops second (by rw [hmessages]; simp)

/-- A handoff whose second message has nothing to do with the first. -/
def brokenHandoff : ProtocolRunRequest where
  protocolId := "handoff.v1"
  initiator := "a"
  messages := [⟨"a", "b", "", "{}", some "x"⟩, ⟨"c", "d", "", "{}", some "x"⟩]
  policyScope := ""

theorem validateProtocol_brokenHandoff :
    (@validateProtocol referenceExternals brokenHandoff ⟨true, onesKey⟩ ⟨true, "", true, true⟩
      fun _ => zeroNonce).accepted = true ∧
    ¬ Handoff.Completes brokenHandoff.initiator
      (brokenHandoff.messages.map AgentEnvelope.message) := by
  refine ⟨by decide, fun h => ?_⟩
  obtain ⟨first, second, hmessages, -, hchain, -⟩ := Handoff.completes_iff.mp h
  cases hmessages
  exact absurd hchain (by decide)

theorem validateProtocol_handoff_iff_brokenHandoff :
    ((@validateProtocol referenceExternals brokenHandoff ⟨true, onesKey⟩ ⟨true, "", true, true⟩
      fun _ => zeroNonce).accepted = true ↔
      Handoff.Completes brokenHandoff.initiator
        (brokenHandoff.messages.map AgentEnvelope.message)) ↔
    (brokenHandoff.messages.length < 2 ∨
      (∃ first, brokenHandoff.messages.head? = some first ∧
        first.sender ≠ brokenHandoff.initiator) ∨
      (∃ message ∈ brokenHandoff.messages, message.sender = message.recipient) ∨
      ∃ first second, brokenHandoff.messages = [first, second] ∧
        second.sender = first.recipient ∧ second.recipient ≠ brokenHandoff.initiator) :=
  @validateProtocol_handoff_iff referenceExternals brokenHandoff ⟨true, onesKey⟩
    ⟨true, "", true, true⟩ (fun _ => zeroNonce) rfl (by decide)

end OpenPinch
