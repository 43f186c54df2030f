import OpenPinch.Gateway.Handlers

/-!
# The gateway as a relay

Whatever the engine answers, the client gets the engine's answer, and the engine is
asked what the client asked.  The gateway changes the type and one name for
`Execute`, wraps the request of `SubmitMessage`, and sends both flags of
`GetDoctorReport` when one of them is set.  It refuses an answer to `UpdatePairing`
or `UpdateBrainTask` that has no record (`serve_eq`).

So every sequence of calls is answered by the engine, and changes it, as the calls
that the gateway passes on would (`serveAll_eq`).
-/

namespace OpenPinch.Gateway

open Lib (F64)
open Lib.Proto (Conforms Field Form Holds Kind MessageType Row Table conforms_assign
  set_assign)
open Pb (Message Value schema)

/-! ## Methods -/

/-- The unary methods of `GatewayService` that are answered by the engine alone. -/
inductive Method where
  | execute
  | submitMessage
  | attestSession
  | exportAudit
  | queryMemory
  | upsertMemory
  | listSessions
  | getSession
  | pruneSessions
  | listPairings
  | updatePairing
  | getDoctorReport
  | listModelProfiles
  | rememberBrain
  | recallBrain
  | suggestBrain
  | listBrainTasks
  | updateBrainTask
  | forgetBrain
  | runAgentProtocol
  | queueTask
  | getPolicyReport
deriving DecidableEq, Repr

/-- What a field holds. -/
def held (m : Message) (field : String) : Value := (m.get field).getD (.message none)

namespace Method

/-- `Register`. -/
def handler : Method → Handler
  | execute => Service.execute
  | submitMessage => Service.submitMessage
  | attestSession => Service.attestSession
  | exportAudit => Service.exportAudit
  | queryMemory => Service.queryMemory
  | upsertMemory => Service.upsertMemory
  | listSessions => Service.listSessions
  | getSession => Service.getSession
  | pruneSessions => Service.pruneSessions
  | listPairings => Service.listPairings
  | updatePairing => Service.updatePairing
  | getDoctorReport => Service.getDoctorReport
  | listModelProfiles => Service.listModelProfiles
  | rememberBrain => Service.rememberBrain
  | recallBrain => Service.recallBrain
  | suggestBrain => Service.suggestBrain
  | listBrainTasks => Service.listBrainTasks
  | updateBrainTask => Service.updateBrainTask
  | forgetBrain => Service.forgetBrain
  | runAgentProtocol => Service.runAgentProtocol
  | queueTask => Service.queueTask
  | getPolicyReport => Service.getPolicyReport

/-- What the engine is asked for a request. -/
def asked : Method → Message → Message
  | execute, request => Pb.engineToolRequest.assign fun field =>
      request.get (if field = "tool" then "target" else field)
  | submitMessage, request => Pb.engineMessageRequest.assign fun _ =>
      some (.message (some request))
  | getDoctorReport, request =>
      let desktop := ["include_desktop", "include_web"].any fun field =>
        match request.get field with
        | some (.bool b) => b
        | _ => false
      request.update [("include_web", .bool desktop), ("include_desktop", .bool desktop)]
  | _, request => request

/-- Why an answer of the engine is refused. -/
def refusal : Method → Message → Option String
  | updatePairing, response => missing "pairing" "pairing update response missing pairing" response
  | updateBrainTask, response => missing "task" "brain task update response missing task" response
  | _, _ => none

/-- What the client is told of an answer of the engine. -/
def told : Method → Message → Message
  | exportAudit, response => response.update [("exported", .bool true)]
  | updatePairing, response => response.update [("updated", .bool true)]
  | updateBrainTask, response => response.update [("updated", .bool true)]
  | _, response => response

/-- What is published when the client is told. -/
def announced : Method → Message → Message → List Published
  | submitMessage, request, response =>
      ⟨"message.inbound", "", [("connector", held request "connector"),
          ("channel_id", held request "channel_id"), ("sender", held request "sender"),
          ("body", held request "body"), ("session_id", held response "session_id"),
          ("delivery_state", held response "delivery_state")]⟩ ::
        match held response "reply" with
        | .string "" => []
        | _ => [⟨"message.reply", "", [("connector", held request "connector"),
            ("channel_id", held request "channel_id"), ("body", held response "reply"),
            ("session_id", held response "session_id")]⟩]
  | pruneSessions, _, response => [⟨"session.pruned", "", [("pruned", held response "pruned")]⟩]
  | updatePairing, _, response =>
      match response.get "pairing" with
      | some (.message (some pairing)) =>
          (decodePairingRecord.collect pairing).toList.map fun record =>
            ⟨"pairing.updated", record⟩
      | _ => []
  | _, _, _ => []

/-- The call as the engine answers it. -/
def relayed {σ : Type} (engine : Engine σ) (method : Method) (request : Message) (s : σ) :
    Except String Message × List Published × σ :=
  match engine.respond method.handler.call.method (method.asked request) s with
  | (.error text, s') => (.error (method.handler.failure ++ text), [], s')
  | (.ok response, s') =>
      match method.refusal response with
      | some text => (.error (method.handler.failure ++ text), [], s')
      | none => (.ok (method.told response), method.announced request response, s')

end Method

/-! ## Requests -/

/-- The message of a request is put into the request of the engine. -/
theorem asked_of_message {request : Message}
    (h : Conforms schema "openpinch.v1.SubmitMessageRequest" request) :
    (Service.submitMessage.arguments request).bind Client.deliverMessage.request =
      some (Method.submitMessage.asked request) := by
  have hinner : (Service.submitMessage.arguments request).bind (Client.innerMessage.fill schema) =
      some request := Table.fill_collect Pb.submitMessageRequest (by decide) rfl h
  obtain ⟨message, harguments, hfill⟩ := Option.bind_eq_some_iff.mp hinner
  rw [harguments, Option.bind_some]
  show ((Client.innerMessage.fill schema message).bind fun inner =>
    (schema.newMessage "openpinch.v1.EngineMessageRequest").bind fun blank =>
      blank.set schema "message" (.message (some inner))) = _
  rw [hfill, Option.bind_some]
  have hfield : (⟨"message", .message "openpinch.v1.SubmitMessageRequest"⟩ : Field) ∈
      Pb.engineMessageRequest.fields := by decide
  have hadmits : (Kind.message "openpinch.v1.SubmitMessageRequest").admits
      (.message (some request)) = true := beq_iff_eq.mpr h.type_eq
  exact set_assign rfl hfield hadmits

/-- One of the flags is enough for both of them. -/
theorem asked_of_flags {request : Message}
    (h : Conforms schema "openpinch.v1.DoctorReportRequest" request) :
    (Service.getDoctorReport.arguments request).bind Client.getDoctorReport.request =
      some (Method.getDoctorReport.asked request) := by
  have hconforms : Conforms schema Pb.doctorReportRequest.name request := h
  obtain ⟨hassign, hvalues⟩ := hconforms.assigned rfl
  have hbool : ∀ field ∈ ["include_connectors", "include_models", "include_desktop", "include_web"],
      ∃ b, request.get field = some (.bool b) := by
    intro field hfield
    have hmem : (⟨field, .bool⟩ : Field) ∈ Pb.doctorReportRequest.fields := by
      revert field
      decide
    obtain ⟨v, hv, hholds⟩ := hvalues _ hmem
    cases hholds with
    | bool b => exact ⟨b, hv⟩
  obtain ⟨connectors, hconnectors⟩ := hbool "include_connectors" (by decide)
  obtain ⟨models, hmodels⟩ := hbool "include_models" (by decide)
  obtain ⟨desktop, hdesktop⟩ := hbool "include_desktop" (by decide)
  obtain ⟨web, hweb⟩ := hbool "include_web" (by decide)
  have harguments : Service.getDoctorReport.arguments request =
      some ⟨"", [("includeConnectors", .bool connectors), ("includeModels", .bool models),
        ("includeDesktop", .bool (desktop || web))]⟩ := by
    simp only [Service.getDoctorReport, hconnectors, hmodels, hdesktop, hweb]
  have hasked : Method.getDoctorReport.asked request =
      request.update [("include_web", .bool (desktop || web)),
        ("include_desktop", .bool (desktop || web))] := by
    simp only [Method.asked, List.any_cons, List.any_nil, hdesktop, hweb, Bool.or_false]
  rw [harguments, hasked, Option.bind_some, ← hassign]
  simp only [Lib.Proto.MessageType.assign, Pb.doctorReportRequest, List.map_cons, List.map_nil,
    hconnectors, hmodels, hdesktop, hweb]
  rfl

/-- The arguments that are read from a request fill the request that the engine is
asked. -/
theorem asked_of_arguments (method : Method) {request : Message}
    (h : Conforms schema method.handler.request request) :
    (method.handler.arguments request).bind method.handler.call.request =
      some (method.asked request) := by
  cases method with
  | execute =>
      exact Form.fill_collect Pb.executeRequest Pb.engineToolRequest
        (fun field => if field = "tool" then "target" else field) (by decide) rfl rfl h
  | submitMessage => exact asked_of_message h
  | getDoctorReport => exact asked_of_flags h
  | attestSession => exact Form.fill_collect_id Pb.attestationRequest (by decide) rfl rfl h
  | exportAudit => exact Form.fill_collect_id Pb.auditExportRequest (by decide) rfl rfl h
  | queryMemory => exact Form.fill_collect_id Pb.memoryQueryRequest (by decide) rfl rfl h
  | upsertMemory => exact Form.fill_collect_id Pb.memoryUpsertRequest (by decide) rfl rfl h
  | listSessions => exact Form.fill_collect_id Pb.sessionListRequest (by decide) rfl rfl h
  | getSession => exact Form.fill_collect_id Pb.sessionRequest (by decide) rfl rfl h
  | pruneSessions => exact Form.fill_collect_id Pb.sessionPruneRequest (by decide) rfl rfl h
  | listPairings => exact Form.fill_collect_id Pb.pairingListRequest (by decide) rfl rfl h
  | updatePairing => exact Form.fill_collect_id Pb.pairingUpdateRequest (by decide) rfl rfl h
  | listModelProfiles =>
      show (Form.collect ⟨"", [], []⟩ request).bind
        (Form.fill schema ⟨"openpinch.v1.Empty", [], []⟩) = some request
      exact Form.fill_collect_id Pb.empty (by decide) rfl rfl h
  | rememberBrain => exact Form.fill_collect_id Pb.brainRememberRequest (by decide) rfl rfl h
  | recallBrain => exact Form.fill_collect_id Pb.brainRecallRequest (by decide) rfl rfl h
  | suggestBrain => exact Form.fill_collect_id Pb.brainSuggestRequest (by decide) rfl rfl h
  | listBrainTasks => exact Form.fill_collect_id Pb.brainTaskListRequest (by decide) rfl rfl h
  | updateBrainTask => exact Form.fill_collect_id Pb.brainTaskUpdateRequest (by decide) rfl rfl h
  | forgetBrain => exact Form.fill_collect_id Pb.brainForgetRequest (by decide) rfl rfl h
  | runAgentProtocol => exact Form.fill_collect_id Pb.agentProtocolRequest (by decide) rfl rfl h
  | queueTask => exact Form.fill_collect_id Pb.queueTaskRequest (by decide) rfl rfl h
  | getPolicyReport => exact Form.fill_collect_id Pb.policyReportRequest (by decide) rfl rfl h

/-! ## Responses -/

/-- The result that is collected from an answer fills what the client is told. -/
theorem told_of_result (method : Method) {response : Message}
    (h : Conforms schema method.handler.call.response response) :
    (method.handler.call.result response).bind method.handler.response =
      some (method.told response) := by
  cases method with
  | exportAudit => exact Form.fill_collect_self Pb.auditExportResponse (by decide) rfl h
  | updatePairing => exact Form.fill_collect_self Pb.pairingUpdateResponse (by decide) rfl h
  | updateBrainTask => exact Form.fill_collect_self Pb.brainTaskUpdateResponse (by decide) rfl h
  | execute => exact Form.fill_collect_id Pb.executeResponse (by decide) rfl rfl h
  | submitMessage => exact Form.fill_collect_id Pb.submitMessageResponse (by decide) rfl rfl h
  | attestSession => exact Form.fill_collect_id Pb.attestationResponse (by decide) rfl rfl h
  | queryMemory => exact Form.fill_collect_id Pb.memoryQueryResponse (by decide) rfl rfl h
  | upsertMemory => exact Form.fill_collect_id Pb.memoryUpsertResponse (by decide) rfl rfl h
  | listSessions => exact Form.fill_collect_id Pb.sessionListResponse (by decide) rfl rfl h
  | getSession => exact Form.fill_collect_id Pb.sessionResponse (by decide) rfl rfl h
  | pruneSessions => exact Form.fill_collect_id Pb.sessionPruneResponse (by decide) rfl rfl h
  | listPairings => exact Form.fill_collect_id Pb.pairingListResponse (by decide) rfl rfl h
  | getDoctorReport => exact Form.fill_collect_id Pb.doctorReportResponse (by decide) rfl rfl h
  | listModelProfiles =>
      exact Form.fill_collect_id Pb.modelProfileListResponse (by decide) rfl rfl h
  | rememberBrain => exact Form.fill_collect_id Pb.brainRememberResponse (by decide) rfl rfl h
  | recallBrain => exact Form.fill_collect_id Pb.brainRecallResponse (by decide) rfl rfl h
  | suggestBrain => exact Form.fill_collect_id Pb.brainSuggestResponse (by decide) rfl rfl h
  | listBrainTasks => exact Form.fill_collect_id Pb.brainTaskListResponse (by decide) rfl rfl h
  | forgetBrain => exact Form.fill_collect_id Pb.brainForgetResponse (by decide) rfl rfl h
  | runAgentProtocol => exact Form.fill_collect_id Pb.agentProtocolResponse (by decide) rfl rfl h
  | queueTask => exact Form.fill_collect_id Pb.queueTaskResponse (by decide) rfl rfl h
  | getPolicyReport => exact Form.fill_collect_id Pb.policyReportResponse (by decide) rfl rfl h

/-- The method is one of the engine's. -/
theorem exists_rpc (method : Method) : ∃ rpc ∈ engineRuntimeService,
    method.handler.call.method = "/openpinch.v1.EngineRuntimeService/" ++ rpc.1 ∧
      method.handler.call.response = "openpinch.v1." ++ rpc.2.2 := by
  cases method <;> decide

/-- An answer of the engine is of the type of the method. -/
theorem conforms_answer {σ : Type} (engine : Engine σ) (method : Method) {request : Message}
    {s s' : σ} {response : Message}
    (h : engine.respond method.handler.call.method request s = (.ok response, s')) :
    Conforms schema method.handler.call.response response := by
  obtain ⟨rpc, hrpc, hmethod, hresponse⟩ := exists_rpc method
  rw [hmethod] at h
  rw [hresponse]
  exact engine.typed rpc hrpc h

/-! ## Events -/

/-- A field of a message holds a value of its kind. -/
theorem exists_held (type : MessageType) (htype : schema.type? type.name = some type)
    {m : Message} (h : Conforms schema type.name m) (field : Field) (hfield : field ∈ type.fields) :
    ∃ v, m.get field.name = some v ∧ Holds schema field.kind v :=
  (h.assigned htype).2 field hfield

theorem exists_string (type : MessageType) (htype : schema.type? type.name = some type)
    {m : Message} (h : Conforms schema type.name m) (field : String)
    (hfield : ⟨field, .string⟩ ∈ type.fields) : ∃ text, m.get field = some (.string text) := by
  obtain ⟨v, hv, hholds⟩ := exists_held type htype h _ hfield
  cases hholds with
  | string text => exact ⟨text, hv⟩

/-- A copied text is the text of the field. -/
theorem get_of_collect_string {form : Form F64} {m g : Message} (h : form.collect m = some g)
    (hnodup : (form.rows.map Row.target).Nodup) {field target : String}
    (hrow : .copy field .string target ∈ form.rows) {text : String}
    (hm : m.get field = some (.string text)) : g.get target = some (.string text) := by
  refine (Form.get_of_collect h hnodup _ hrow).trans ?_
  rw [show (Row.copy field .string target).source = field from rfl, hm]
  rfl

theorem read_string {m : Message} {field text : String} (h : m.get field = some (.string text)) :
    m.read field .string = some (.string text) := by
  rw [Lib.Proto.Message.read, h]
  rfl

theorem published_of_message {request response result : Message}
    (hrequest : Conforms schema "openpinch.v1.SubmitMessageRequest" request)
    (hresponse : Conforms schema "openpinch.v1.SubmitMessageResponse" response)
    (hresult : Client.deliverMessage.result response = some result) :
    Service.submitMessage.publish request result =
      some (Method.submitMessage.announced request response) := by
  obtain ⟨connector, hconnector⟩ :=
    exists_string Pb.submitMessageRequest rfl hrequest "connector" (by decide)
  obtain ⟨channelId, hchannelId⟩ :=
    exists_string Pb.submitMessageRequest rfl hrequest "channel_id" (by decide)
  obtain ⟨sender, hsender⟩ :=
    exists_string Pb.submitMessageRequest rfl hrequest "sender" (by decide)
  obtain ⟨body, hbody⟩ := exists_string Pb.submitMessageRequest rfl hrequest "body" (by decide)
  obtain ⟨reply, hreply⟩ :=
    exists_string Pb.submitMessageResponse rfl hresponse "reply" (by decide)
  obtain ⟨sessionId, hsessionId⟩ :=
    exists_string Pb.submitMessageResponse rfl hresponse "session_id" (by decide)
  obtain ⟨state, hstate⟩ :=
    exists_string Pb.submitMessageResponse rfl hresponse "delivery_state" (by decide)
  have hcopied := fun (field target text : String) (hrow : Row.copy field .string target ∈ _)
      (hm : response.get field = some (.string text)) =>
    read_string (get_of_collect_string hresult (by decide) hrow hm)
  have hReply := hcopied "reply" "Reply" reply (by decide) hreply
  have hSessionID := hcopied "session_id" "SessionID" sessionId (by decide) hsessionId
  have hDeliveryState := hcopied "delivery_state" "DeliveryState" state (by decide) hstate
  simp only [Service.submitMessage, Method.announced, held, hconnector, hchannelId, hsender, hbody,
    hreply, hsessionId, hstate, read_string hconnector, read_string hchannelId,
    read_string hsender, read_string hbody, hReply, hSessionID, hDeliveryState]
  rfl

theorem published_of_count {request response result : Message}
    (hresponse : Conforms schema "openpinch.v1.SessionPruneResponse" response)
    (hresult : Client.pruneSessions.result response = some result) :
    Service.pruneSessions.publish request result =
      some (Method.pruneSessions.announced request response) := by
  obtain ⟨v, hv, hholds⟩ := exists_held Pb.sessionPruneResponse rfl hresponse
    ⟨"pruned", .uint32⟩ (by decide)
  have hpruned : result.get "pruned" = _ :=
    Form.get_of_collect hresult (by decide) (.copy "pruned" .uint32 "pruned") (by decide)
  rw [show (Row.copy "pruned" .uint32 "pruned").source = "pruned" from rfl, hv] at hpruned
  cases hholds with
  | uint32 pruned =>
      have hread : result.read "pruned" .uint32 = some (.uint32 pruned) := by
        rw [Lib.Proto.Message.read, hpruned]
        rfl
      simp only [Service.pruneSessions, Method.announced, held, hv, hread]
      rfl

theorem published_of_pairing {request response result : Message}
    (hresponse : Conforms schema "openpinch.v1.PairingUpdateResponse" response)
    (hresult : Client.updatePairing.result response = some result)
    (haccepted : Method.updatePairing.refusal response = none) :
    Service.updatePairing.publish request result =
      some (Method.updatePairing.announced request response) := by
  obtain ⟨v, hv, hholds⟩ := exists_held Pb.pairingUpdateResponse rfl hresponse
    ⟨"pairing", .message "openpinch.v1.PairingRecord"⟩ (by decide)
  have hpairing : result.get "pairing" = _ :=
    Form.get_of_collect hresult (by decide) (.child "pairing" decodePairingRecord "pairing")
      (by decide)
  rw [show (Row.child "pairing" decodePairingRecord "pairing").source = "pairing" from rfl,
    hv] at hpairing
  cases hholds with
  | absent =>
      rw [Method.refusal, missing, hv] at haccepted
      cases haccepted
  | @present _ pairing hconforms =>
      have hundoes : Table.Undoes Pb.pairingRecord decodePairingRecord
          protoPairingRecordMessage := by
        decide
      obtain ⟨record, hrecord, -⟩ := Option.bind_eq_some_iff.mp
        (Table.fill_collect Pb.pairingRecord hundoes rfl hconforms)
      simp only [Row.value, hrecord, Option.bind_some, Option.map_some] at hpairing
      simp only [Service.updatePairing, Method.announced, hpairing, hv, hrecord]
      rfl

/-- What the handler publishes is what the call announces. -/
theorem published (method : Method) {request response result : Message}
    (hrequest : Conforms schema method.handler.request request)
    (hresponse : Conforms schema method.handler.call.response response)
    (hresult : method.handler.call.result response = some result)
    (haccepted : method.refusal response = none) :
    method.handler.publish request result = some (method.announced request response) := by
  cases method with
  | submitMessage => exact published_of_message hrequest hresponse hresult
  | pruneSessions => exact published_of_count hresponse hresult
  | updatePairing => exact published_of_pairing hresponse hresult haccepted
  | _ => rfl

/-! ## Calls -/

/-- A call of a client, with a request of its type. -/
structure ClientCall where
  method : Method
  request : Message
  conforms : Conforms schema method.handler.request request

/-- A call is served as the engine answers it. -/
theorem serve_eq {σ : Type} (engine : Engine σ) (call : ClientCall) (s : σ) :
    call.method.handler.serve engine call.request s =
      some (call.method.relayed engine call.request s) := by
  obtain ⟨method, request, hrequest⟩ := call
  obtain ⟨arguments, harguments, hasked⟩ :=
    Option.bind_eq_some_iff.mp (asked_of_arguments method hrequest)
  have hrefuses : method.handler.call.refuses = method.refusal := by cases method <;> rfl
  unfold Handler.serve Method.relayed EngineCall.run
  rw [harguments, Option.bind_some, hasked, Option.bind_some]
  cases hanswer : engine.respond method.handler.call.method (method.asked request) s with
  | mk answer s' =>
      cases answer with
      | error text => rfl
      | ok response =>
          have hresponse := conforms_answer engine method hanswer
          cases hrefusal : method.refusal response with
          | some text => simp only [hrefuses, hrefusal, Option.bind_some]
          | none =>
              obtain ⟨result, hresult, htold⟩ :=
                Option.bind_eq_some_iff.mp (told_of_result method hresponse)
              have hpublished := published method hrequest hresponse hresult hrefusal
              simp only [hrefuses, hrefusal, hresult, htold, hpublished, Option.map_some,
                Option.bind_some]

/-- Calls one after the other, over the gateway. -/
def serveAll {σ : Type} (engine : Engine σ) :
    List ClientCall → σ → Option (List (Except String Message × List Published) × σ)
  | [], s => some ([], s)
  | call :: calls, s =>
      (call.method.handler.serve engine call.request s).bind fun served =>
        (serveAll engine calls served.2.2).map fun rest =>
          ((served.1, served.2.1) :: rest.1, rest.2)

/-- Calls one after the other, as the engine answers them. -/
def relayAll {σ : Type} (engine : Engine σ) :
    List ClientCall → σ → List (Except String Message × List Published) × σ
  | [], s => ([], s)
  | call :: calls, s =>
      let relayed := call.method.relayed engine call.request s
      let rest := relayAll engine calls relayed.2.2
      ((relayed.1, relayed.2.1) :: rest.1, rest.2)

/-- No call panics, and all calls are served as the engine answers them. -/
theorem serveAll_eq {σ : Type} (engine : Engine σ) (calls : List ClientCall) (s : σ) :
    serveAll engine calls s = some (relayAll engine calls s) := by
  induction calls generalizing s with
  | nil => rfl
  | cons call calls ih =>
      rw [serveAll, serve_eq, Option.bind_some, ih]
      rfl

/-! ## An engine that prunes -/

/-- An engine with so many old sessions, which are all pruned at the first request, and
without pairings. -/
def pruningEngine : Engine UInt32 where
  respond method _ old :=
    if method = "/openpinch.v1.EngineRuntimeService/PruneSessions" then
      (.ok (Pb.sessionPruneResponse.assign fun _ => some (.uint32 old)), 0)
    else if method = "/openpinch.v1.EngineRuntimeService/UpdatePairing" then
      (.ok (Pb.pairingUpdateResponse.assign fun _ => none), old)
    else (.error "rpc error: code = Unimplemented", old)
  typed rpc hrpc := by
    intro request old response old' h
    split_ifs at h with hprune hupdate
    · obtain ⟨hresponse, -⟩ := Prod.mk.inj h
      rw [← Except.ok.inj hresponse, (by decide : ∀ rpc ∈ engineRuntimeService,
        "/openpinch.v1.EngineRuntimeService/" ++ rpc.1 =
          "/openpinch.v1.EngineRuntimeService/PruneSessions" → rpc.2.2 = "SessionPruneResponse")
        rpc hrpc hprune]
      refine conforms_assign Pb.sessionPruneResponse rfl fun f hf v hv => ?_
      obtain rfl := List.mem_singleton.mp hf
      exact Option.some.inj hv ▸ .uint32 old
    · obtain ⟨hresponse, -⟩ := Prod.mk.inj h
      rw [← Except.ok.inj hresponse, (by decide : ∀ rpc ∈ engineRuntimeService,
        "/openpinch.v1.EngineRuntimeService/" ++ rpc.1 =
          "/openpinch.v1.EngineRuntimeService/UpdatePairing" → rpc.2.2 = "PairingUpdateResponse")
        rpc hrpc hupdate]
      exact conforms_assign Pb.pairingUpdateResponse rfl fun _ _ _ hv => by cases hv
    · cases (Prod.mk.inj h).1

/-- The sessions of the last day are spared. -/
def pruneCall : ClientCall where
  method := .pruneSessions
  request := Pb.sessionPruneRequest.assign fun field =>
    if field = "older_than_hours" then some (.uint32 24) else none
  conforms := conforms_assign Pb.sessionPruneRequest rfl fun f hf v hv => by
    rcases List.mem_pair.mp hf with rfl | rfl
    · exact Option.some.inj hv ▸ .uint32 24
    · cases hv

def approveCall : ClientCall where
  method := .updatePairing
  request := Pb.pairingUpdateRequest.assign fun field =>
    if field = "action" then some (.string "approve") else none
  conforms := conforms_assign Pb.pairingUpdateRequest rfl fun f hf v hv => by
    split_ifs at hv with haction
    obtain rfl := (by decide : ∀ f ∈ Pb.pairingUpdateRequest.fields, f.name = "action" →
      f = ⟨"action", .string⟩) f hf haction
    exact Option.some.inj hv ▸ .string "approve"

/-- Three sessions are pruned once, and an approval is refused. -/
theorem serveAll_eq_pruned : serveAll pruningEngine [pruneCall, approveCall, pruneCall] 3 =
    some ([(.ok (Pb.sessionPruneResponse.assign fun _ => some (.uint32 3)),
        [⟨"session.pruned", "", [("pruned", .uint32 3)]⟩]),
      (.error "update pairing: pairing update response missing pairing", []),
      (.ok (Pb.sessionPruneResponse.assign fun _ => some (.uint32 0)),
        [⟨"session.pruned", "", [("pruned", .uint32 0)]⟩])], 0) :=
  (serveAll_eq ..).trans (by rfl)

end OpenPinch.Gateway
