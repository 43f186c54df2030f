import OpenPinch.Engine.ReplyCache

/-!
# Which message a cached response answers

A history of messages keeps the events of each, its exchange.  `Exchanged` says
what a message reads from the caches and stores in them, and `Kept` which
exchange each cached response was generated in.
-/

namespace OpenPinch

open Lib (Op wp wpAlone)
open Lib.Prog (Acts)

/-- A response was generated for a prompt of the message in the session. -/
def GeneratedFor (events : List Event) (sessionId body prompt response : String) : Prop :=
  .submit sessionId body prompt ∈ events ∧ Responded prompt events response

section

variable [Externals]

/-! ## The exchange of a message -/

/-- The cached row that answers a prompt. -/
inductive Orchestrator.Picked (orchestrator : Orchestrator) (w : World) (prompt : String) :
    CacheRow → Prop where
  | byDigest {row : CacheRow} (found : orchestrator.exactRow w prompt = some row) :
      Picked orchestrator w prompt row
  | byPrefix {row : CacheRow} (missed : orchestrator.exactRow w prompt = none)
      (found : orchestrator.prefixRow w prompt = some row) : Picked orchestrator w prompt row

/-- What a message reads from the caches and stores in them. -/
structure Exchanged (orchestrator : Orchestrator) (start : World) (labels : List Event)
    (w : World) : Prop where
  promptCache : ∀ row ∈ w.caches.promptCache, row ∈ start.caches.promptCache ∨
    ∃ sessionId body prompt, GeneratedFor labels sessionId body prompt row.response ∧
      row.key = promptHash prompt
  prefixCache : ∀ row ∈ w.caches.prefixCache, row ∈ start.caches.prefixCache ∨
    ∃ sessionId body prompt, GeneratedFor labels sessionId body prompt row.response ∧
      Orchestrator.prefixKey prompt = some row.key
  answered : ∀ {sessionId body prompt response tier : String},
    .submit sessionId body prompt ∈ labels → .answered response tier ∈ labels →
      tier ∈ Orchestrator.liveTiers ∨
        ∃ row, orchestrator.Picked start prompt row ∧ row.response = response

/-- Nothing of a reply so far, and the caches of the start. -/
structure Unanswered (start : World) (labels : List Event) (w : World) : Prop where
  silent : ∀ e ∈ labels, e.isReply = false
  caches : w.caches = start.caches

/-- A prompt is submitted, once, and only responses to it are stored. -/
structure Submitted (orchestrator : Orchestrator) (start : World)
    (sessionId body prompt : String) (labels : List Event) (w : World) : Prop where
  submitted : .submit sessionId body prompt ∈ labels
  once : ∀ {s b p : String}, .submit s b p ∈ labels → p = prompt
  promptCache : ∀ row ∈ w.caches.promptCache, row ∈ start.caches.promptCache ∨
    row.key = promptHash prompt ∧ Responded prompt labels row.response
  prefixCache : ∀ row ∈ w.caches.prefixCache, row ∈ start.caches.prefixCache ∨
    Orchestrator.prefixKey prompt = some row.key ∧ Responded prompt labels row.response
  answered : ∀ {response tier : String}, .answered response tier ∈ labels →
    tier ∈ Orchestrator.liveTiers ∨
      ∃ row, orchestrator.Picked start prompt row ∧ row.response = response

variable {orchestrator : Orchestrator} {start w w' : World} {labels more : List Event}
  {sessionId body prompt : String}

omit [Externals] in
theorem Unanswered.append (h : Unanswered start labels w) (hmore : ∀ e ∈ more, e.isReply = false)
    (hcaches : w'.caches = w.caches) : Unanswered start (labels ++ more) w' where
  silent e he := by
    rcases List.mem_append.mp he with hbefore | hnow
    · exact h.silent e hbefore
    · exact hmore e hnow
  caches := hcaches.trans h.caches

theorem Unanswered.exchanged (h : Unanswered start labels w) :
    Exchanged orchestrator start labels w where
  promptCache _ hrow := Or.inl (h.caches ▸ hrow)
  prefixCache _ hrow := Or.inl (h.caches ▸ hrow)
  answered hsubmit _ := nomatch h.silent _ hsubmit

theorem Submitted.exchanged
    (h : Submitted orchestrator start sessionId body prompt labels w) :
    Exchanged orchestrator start labels w where
  promptCache row hrow := by
    rcases h.promptCache row hrow with hold | ⟨hkey, hresponded⟩
    · exact Or.inl hold
    · exact Or.inr ⟨sessionId, body, prompt, ⟨h.submitted, hresponded⟩, hkey⟩
  prefixCache row hrow := by
    rcases h.prefixCache row hrow with hold | ⟨hkey, hresponded⟩
    · exact Or.inl hold
    · exact Or.inr ⟨sessionId, body, prompt, ⟨h.submitted, hresponded⟩, hkey⟩
  answered hsubmit hanswered := by
    obtain rfl := h.once hsubmit
    exact h.answered hanswered

/-- More events, none of which submits, with the answers they show. -/
theorem Submitted.append (h : Submitted orchestrator start sessionId body prompt labels w)
    (hsubmit : ∀ {s b p : String}, .submit s b p ∉ more)
    (hanswered : ∀ {response tier : String}, .answered response tier ∈ more →
      tier ∈ Orchestrator.liveTiers ∨
        ∃ row, orchestrator.Picked start prompt row ∧ row.response = response)
    (hcaches : w'.caches = w.caches) :
    Submitted orchestrator start sessionId body prompt (labels ++ more) w' where
  submitted := List.mem_append_left _ h.submitted
  once he := by
    rcases List.mem_append.mp he with hbefore | hnow
    · exact h.once hbefore
    · exact absurd hnow hsubmit
  promptCache row hrow := by
    rw [hcaches] at hrow
    exact (h.promptCache row hrow).imp_right (And.imp_right Progress.responded_append)
  prefixCache row hrow := by
    rw [hcaches] at hrow
    exact (h.prefixCache row hrow).imp_right (And.imp_right Progress.responded_append)
  answered he := by
    rcases List.mem_append.mp he with hbefore | hnow
    · exact h.answered hbefore
    · exact hanswered hnow

/-- Quiet events show nothing. -/
theorem Submitted.quiet (h : Submitted orchestrator start sessionId body prompt labels w)
    (hmore : ∀ e ∈ more, e = .quiet) (hcaches : w'.caches = w.caches) :
    Submitted orchestrator start sessionId body prompt (labels ++ more) w' :=
  h.append (fun he => nomatch hmore _ he) (fun he => nomatch hmore _ he) hcaches

/-! ## Runs of a message -/

namespace EngineRuntime

variable (runtime : EngineRuntime)

omit [Externals] in
/-- Parts outside the orchestrator show nothing of a reply. -/
theorem wp_unanswered {α : Type} {kind : Event → Prop} {p : EngineOp α}
    (hp : Acts (Plain kind) p) (hkind : ∀ e, kind e → e.isReply = false)
    (h : Unanswered start labels w) :
    wp p (fun labels _ w' => Unanswered start labels w') labels w := by
  refine Lib.wp_of_acts (R := fun (w w' : World) => w'.caches = w.caches)
    (Q := fun e => e.isReply = false) (fun _ => rfl) (fun _ _ _ hr hr' => Eq.trans hr' hr)
    (fun e g hplain => ?_) hp
    fun more r w' hmore hcaches => h.append hmore hcaches
  refine ⟨?_, hplain.caches⟩
  rcases hplain.label with rfl | he
  · rfl
  · exact hkind e he

omit [Externals] in
theorem wp_unansweredQuiet {α : Type} {p : EngineOp α} (hp : Acts Quiet p)
    (h : Unanswered start labels w) :
    wp p (fun labels _ w' => Unanswered start labels w') labels w :=
  have hplain : Acts (Plain fun _ => False) p := hp.mono fun _ _ => Quiet.plain
  wp_unanswered hplain (fun _ => False.elim) h

/-- The quiet parts behind a response. -/
theorem wp_submittedQuiet {α : Type} {p : EngineOp α} (hp : Acts Quiet p)
    (h : Submitted orchestrator start sessionId body prompt labels w) :
    wp p (fun labels _ w' => Exchanged orchestrator start labels w') labels w :=
  Lib.wp_of_acts Untouched.refl Untouched.trans (fun _ _ he => ⟨he.quiet, he.untouched⟩) hp
    fun _ _ _ hmore huntouched => (h.quiet hmore huntouched.caches).exchanged

/-- A prompt is submitted to the orchestrator, whose semantic cache is off. -/
theorem submitted_of_served {more : List Event} {r : Except Fault OrchestrationResult}
    (h : Unanswered start labels w) (hserved : orchestrator.Served prompt w more r w')
    (hshown : ∀ e ∈ more, e = .quiet ∨ ∃ provider prompt response,
      e = .generated provider prompt response) :
    Submitted orchestrator start sessionId body prompt
      (labels ++ [.submit sessionId body prompt] ++ more) w' where
  submitted := by simp
  once {s b p} he := by
    rcases List.mem_append.mp he with hbefore | hmore
    · rcases List.mem_append.mp hbefore with hlabels | hnow
      · cases h.silent _ hlabels
      · cases List.mem_singleton.mp hnow
        rfl
    · rcases hshown _ hmore with hquiet | ⟨_, _, _, hgenerated⟩
      · cases hquiet
      · cases hgenerated
  promptCache row hrow := by
    rcases hserved.progress.promptCache row hrow with hold | ⟨hkey, provider, hmem⟩
    · exact Or.inl (h.caches ▸ hold)
    · exact Or.inr ⟨hkey, provider, List.mem_append_right _ hmem⟩
  prefixCache row hrow := by
    rcases hserved.progress.prefixCache row hrow with hold | ⟨hkey, provider, hmem⟩
    · exact Or.inl (h.caches ▸ hold)
    · exact Or.inr ⟨hkey, provider, List.mem_append_right _ hmem⟩
  answered {response tier} he := by
    rcases List.mem_append.mp he with hbefore | hmore
    · rcases List.mem_append.mp hbefore with hlabels | hnow
      · cases h.silent _ hlabels
      · cases List.mem_singleton.mp hnow
    · rcases hshown _ hmore with hquiet | ⟨_, _, _, hgenerated⟩
      · cases hquiet
      · cases hgenerated

/-- The answer of the orchestrator comes from a provider or from a cached row. -/
theorem answered_of_source {more : List Event} {result : OrchestrationResult}
    (hsemantic : orchestrator.config.orchestration.semanticCacheEnabled = false)
    (hcaches : w.caches = start.caches) (h : orchestrator.Source prompt w more result) :
    result.cacheTier ∈ Orchestrator.liveTiers ∨
      ∃ row, orchestrator.Picked start prompt row ∧ row.response = result.response := by
  cases h with
  | cachedExact row found =>
      rw [Orchestrator.exactRow, hcaches] at found
      exact Or.inr ⟨row, .byDigest found, rfl⟩
  | cachedPrefix row missed found =>
      rw [Orchestrator.exactRow, hcaches] at missed
      rw [Orchestrator.prefixRow, hcaches] at found
      exact Or.inr ⟨row, .byPrefix missed found, rfl⟩
  | cachedSemantic content hit =>
      rw [hit.1] at hsemantic
      cases hsemantic
  | live result responded tier => exact Or.inl tier

/-- A message on its way to a reply. -/
theorem wp_answerMessage {session : SessionRecord} {message : MessageEnvelope} {messageId : String}
    (hsemantic : runtime.config.orchestration.semanticCacheEnabled = false)
    (h : Unanswered start labels w) :
    wp (runtime.answerMessage session message messageId)
      (fun labels _ w' => Exchanged runtime.orchestrator start labels w') labels w := by
  have hpack := keeps_aside (EngineOp.keeps_attempt (runtime.brain.keeps_buildContextPack
    message.body (BrainManager.scopeForMessage message)))
  refine Op.wp_bind (Lib.wp_mono (wp_unansweredQuiet hpack.acts h) fun labels r w₁ h₁ => ?_)
  cases r with
  | error fault => exact h₁.exchanged
  | ok packed =>
      refine Op.andThen_ok (Op.wp_bind (Op.wp_stmt (Op.andThen_ok (Op.wp_bind
        (EngineOp.wp_attempt (Lib.wp_frame ?_))))))
      let prompt := messagePrompt session.id message (packed.toOption.getD "")
      have hserved := runtime.orchestrator.wp_generateWithRoute prompt .connector
        (runtime.modelRouteForSession session) w₁
      have hshown : wp (runtime.orchestrator.generateWithRoute prompt .connector
          (runtime.modelRouteForSession session)) (fun more _ _ => ∀ e ∈ more, e = .quiet ∨
            ∃ provider prompt response, e = .generated provider prompt response) [] w₁ :=
        (runtime.orchestrator.acts_generateWithRoute prompt .connector
          (runtime.modelRouteForSession session)).trace (fun _ _ he => he.label) w₁
      refine Lib.wp_mono (Lib.wp_and hserved hshown) fun more r w₂ hboth => ?_
      have hsubmitted : Submitted runtime.orchestrator start session.id message.body prompt
          (labels ++ [.submit session.id message.body prompt] ++ more) w₂ :=
        submitted_of_served h₁ hboth.1 hboth.2
      rcases r with (message | _) | result
      · exact Op.andThen_ok (wp_submittedQuiet (keeps_deliverDegraded _ _ _).acts hsubmitted)
      · exact hsubmitted.exchanged
      · have hanswer := answered_of_source hsemantic h₁.caches (hboth.1.source result rfl)
        have hanswered : Submitted runtime.orchestrator start session.id message.body prompt
            (labels ++ [.submit session.id message.body prompt] ++ more ++
              [.answered result.response result.cacheTier]) w₂ := by
          refine hsubmitted.append (fun he => nomatch List.mem_singleton.mp he) ?_ rfl
          intro response tier he
          cases List.mem_singleton.mp he
          exact hanswer
        refine EngineOp.attempted_ok (Op.wp_bind (Op.wp_stmt (Op.andThen_ok ?_)))
        exact wp_submittedQuiet (runtime.keeps_deliverReply _ _ _ _).acts hanswered

/-- A message at the gate, which waits for itself before it is answered. -/
theorem wpAlone_gateMessage_exchanged {session : SessionRecord} {message : MessageEnvelope}
    {messageId : String}
    (hsemantic : runtime.config.orchestration.semanticCacheEnabled = false)
    (h : Unanswered start labels w) :
    wpAlone (runtime.gateMessage session message messageId)
      (fun labels out => Exchanged runtime.orchestrator start labels out.state) labels false w := by
  have hensure : wpAlone (runtime.ensurePairingIfRequired session message)
      (fun labels out => Unanswered start labels out.state) labels false w := by
    refine Lib.wpAlone_of_acts (R := fun (w w' : World) => w'.caches = w.caches)
      (Q := fun e => e.isReply = false) (fun _ => rfl) (fun _ _ _ hr hr' => Eq.trans hr' hr)
      (fun e g hplain => ⟨?_, hplain.caches⟩)
      (runtime.acts_ensurePairingIfRequired session message)
      fun more out hmore hcaches => h.append hmore hcaches
    rcases hplain.label with rfl | ⟨-, hasks⟩
    · rfl
    · cases hasks <;> rfl
  refine Op.wpAlone_bind_of_waits (parts_wait.ensurePairingIfRequired runtime session message)
    hensure (fun labels pairing w₁ h₁ => ?_) (fun _ _ _ h₁ => h₁.exchanged)
    fun _ _ h₁ => h₁.exchanged
  cases pairing with
  | none =>
      dsimp only
      split
      · exact Lib.wpAlone_of_returns rfl (Op.wp_pure h₁.exchanged)
      · exact Lib.wpAlone_of_returns (runtime.answerMessage_returns _ _ _ _)
          (runtime.wp_answerMessage hsemantic h₁)
  | some pairingId =>
      have hkeeps := keeps_deliverPairing session message messageId pairingId
      refine Lib.wpAlone_of_returns (hkeeps.alone w₁) ?_
      exact Lib.wp_mono (wp_unansweredQuiet hkeeps.acts h₁) fun _ _ _ hquiet => hquiet.exchanged

/-- What a message reads from the caches and stores in them. -/
theorem exchanged_message
    (hsemantic : runtime.config.orchestration.semanticCacheEnabled = false)
    (message : MessageEnvelope) (w : World) :
    Exchanged runtime.orchestrator w ((RuntimeCall.message message).events runtime w)
      ((RuntimeCall.message message).after runtime w) := by
  have hstart : ∀ {labels w'}, Silent w labels w' → Unanswered w labels w' := by
    intro labels w' hsilent
    refine ⟨fun e he => ?_, hsilent.untouched.caches⟩
    rw [hsilent.quiet e he]
    rfl
  show wpAlone (runtime.handleMessage message)
    (fun labels out => Exchanged runtime.orchestrator w labels out.state) [] false w
  refine wpAlone_handleMessage (fun labels fault w' hsilent => (hstart hsilent).exchanged) ?_
  exact fun labels session messageId w' hsilent =>
    runtime.wpAlone_gateMessage_exchanged hsemantic (hstart hsilent)

/-! ## Histories of messages -/

/-- The exchanges of messages that come one after the other, and the world after
them. -/
def converse : List MessageEnvelope → World → List (List Event) × World
  | [], w => ([], w)
  | message :: rest, w =>
      let call := RuntimeCall.message message
      let later := converse rest (call.after runtime w)
      (call.events runtime w :: later.1, later.2)

/-- Each cached response was generated in an exchange, for a prompt of its key. -/
structure Kept (past : List (List Event)) (w : World) : Prop where
  promptCache : ∀ row ∈ w.caches.promptCache, ∃ events ∈ past, ∃ sessionId body prompt,
    GeneratedFor events sessionId body prompt row.response ∧ row.key = promptHash prompt
  prefixCache : ∀ row ∈ w.caches.prefixCache, ∃ events ∈ past, ∃ sessionId body prompt,
    GeneratedFor events sessionId body prompt row.response ∧
      Orchestrator.prefixKey prompt = some row.key

theorem Kept.append {past : List (List Event)} (h : Kept past start)
    (hexchanged : Exchanged orchestrator start labels w) : Kept (past ++ [labels]) w where
  promptCache row hrow := by
    rcases hexchanged.promptCache row hrow with hold | hnew
    · obtain ⟨events, hevents, hkept⟩ := h.promptCache row hold
      exact ⟨events, List.mem_append_left _ hevents, hkept⟩
    · exact ⟨labels, by simp, hnew⟩
  prefixCache row hrow := by
    rcases hexchanged.prefixCache row hrow with hold | hnew
    · obtain ⟨events, hevents, hkept⟩ := h.prefixCache row hold
      exact ⟨events, List.mem_append_left _ hevents, hkept⟩
    · exact ⟨labels, by simp, hnew⟩

/-- A history keeps its exchanges. -/
theorem kept_converse (hsemantic : runtime.config.orchestration.semanticCacheEnabled = false)
    (messages : List MessageEnvelope) {past : List (List Event)} (h : Kept past start) :
    Kept (past ++ (runtime.converse messages start).1) (runtime.converse messages start).2 := by
  induction messages generalizing past start with
  | nil => simpa [converse] using h
  | cons message rest ih =>
      have hkept := ih (h.append (runtime.exchanged_message hsemantic message start))
      rw [List.append_assoc] at hkept
      exact hkept

/-- The key of the cached row that answers a prompt was written for the message
in the session only. -/
structure KeyIsOwn (past : List (List Event)) (w : World) (sessionId body prompt : String) :
    Prop where
  byDigest : ∀ row, runtime.orchestrator.exactRow w prompt = some row →
    ∀ events ∈ past, ∀ s b p response, GeneratedFor events s b p response →
      promptHash p = row.key → s = sessionId ∧ b = body
  byPrefix : ∀ row, runtime.orchestrator.exactRow w prompt = none →
    runtime.orchestrator.prefixRow w prompt = some row →
      ∀ events ∈ past, ∀ s b p response, GeneratedFor events s b p response →
        Orchestrator.prefixKey p = some row.key → s = sessionId ∧ b = body

end EngineRuntime

/-- A message whose prompt finds its own key gets a cached response only when it
was generated for the same message in the same session. -/
theorem cached_reply_is_own {runtime : EngineRuntime} {start : World}
    {earlier : List MessageEnvelope} {message : MessageEnvelope}
    {sessionId body prompt response tier : String}
    (hsemantic : runtime.config.orchestration.semanticCacheEnabled = false)
    (hempty : start.caches = ⟨[], []⟩)
    (hsubmit : .submit sessionId body prompt ∈
      (RuntimeCall.message message).events runtime (runtime.converse earlier start).2)
    (hanswered : .answered response tier ∈
      (RuntimeCall.message message).events runtime (runtime.converse earlier start).2)
    (hcached : tier ∉ Orchestrator.liveTiers)
    (hown : runtime.KeyIsOwn (runtime.converse earlier start).1
      (runtime.converse earlier start).2 sessionId body prompt) :
    ∃ events ∈ (runtime.converse earlier start).1, ∃ p,
      GeneratedFor events sessionId body p response := by
  have hnone : EngineRuntime.Kept [] start := by
    constructor <;> simp [hempty]
  have hkept := runtime.kept_converse hsemantic earlier hnone
  rw [List.nil_append] at hkept
  have hexchanged := runtime.exchanged_message hsemantic message
    (runtime.converse earlier start).2
  rcases hexchanged.answered hsubmit hanswered with hlive | ⟨row, hpicked, rfl⟩
  · exact absurd hlive hcached
  cases hpicked with
  | byDigest found =>
      obtain ⟨events, hevents, s, b, p, hgenerated, hkey⟩ :=
        hkept.promptCache row (Orchestrator.mem_of_exactRow found).1
      obtain ⟨rfl, rfl⟩ :=
        hown.byDigest row found events hevents s b p row.response hgenerated hkey.symm
      exact ⟨events, hevents, p, hgenerated⟩
  | byPrefix missed found =>
      obtain ⟨events, hevents, s, b, p, hgenerated, hkey⟩ :=
        hkept.prefixCache row (Orchestrator.mem_of_prefixRow found)
      obtain ⟨rfl, rfl⟩ :=
        hown.byPrefix row missed found events hevents s b p row.response hgenerated hkey
      exact ⟨events, hevents, p, hgenerated⟩

end

/-- A message of the desktop. -/
def desktopMessage (body : String) : MessageEnvelope := ⟨"desktop", "local", "local", body, ""⟩

/-- A world whose identifiers have the length of real ones, and whose providers
number their responses. -/
def desktopWorld : World :=
  World.fresh
    { countingSurroundings with
      uuid := fun n => "00000000-0000-4000-8000-00000000000" ++ toString n }
    fun n => .ok (toString n)

/-- The events submit nothing but the message in the session. -/
def submitsOnly (sessionId body : String) (events : List Event) : Bool :=
  events.all fun e =>
    match e with
    | .submit s b _ => s == sessionId && b == body
    | _ => true

theorem GeneratedFor.of_submitsOnly {sessionId body : String} {events : List Event}
    (h : submitsOnly sessionId body events = true) {s b p response : String}
    (hgenerated : GeneratedFor events s b p response) : s = sessionId ∧ b = body := by
  simpa using List.all_eq_true.mp h _ hgenerated.1

/-- The session of the desktop. -/
def desktopSession : String := "session-00000000-0000-4000-8000-000000000000"

/-- The first message of the desktop is all that is submitted for it. -/
theorem desktop_submitsOnly :
    ∀ events ∈ (@EngineRuntime.converse referenceExternals referenceRuntime
      [desktopMessage "hi"] desktopWorld).1,
      submitsOnly desktopSession "hi" events = true := by
  decide +kernel

/-- The second message is submitted, and answered from a tier with the response to
the first one. -/
def AnsweredAgain (body tier : String) (events : List Event) : Prop :=
  .submit desktopSession body
    (@EngineRuntime.messagePrompt desktopSession (desktopMessage body) "") ∈ events ∧
  .answered "0" tier ∈ events

instance (body tier : String) (events : List Event) : Decidable (AnsweredAgain body tier events) :=
  inferInstanceAs (Decidable (_ ∧ _))

/-- A message that is sent again gets the response it got before. -/
theorem cached_reply_is_own_again :
    ∃ events ∈ (@EngineRuntime.converse referenceExternals referenceRuntime
      [desktopMessage "hi"] desktopWorld).1, ∃ p, GeneratedFor events
        "session-00000000-0000-4000-8000-000000000000" "hi" p "0" := by
  have hagain : AnsweredAgain "hi" "exact" (@RuntimeCall.events referenceExternals
      referenceRuntime (RuntimeCall.message (desktopMessage "hi"))
      (@EngineRuntime.converse referenceExternals referenceRuntime
        [desktopMessage "hi"] desktopWorld).2) := by
    decide +kernel
  refine @cached_reply_is_own referenceExternals referenceRuntime desktopWorld
    [desktopMessage "hi"] (desktopMessage "hi") desktopSession "hi"
    (@EngineRuntime.messagePrompt desktopSession (desktopMessage "hi") "") "0" "exact" rfl rfl
    hagain.1 hagain.2 (by decide)
    (@EngineRuntime.KeyIsOwn.mk referenceExternals _ _ _ _ _ _ ?_ ?_)
  · intro row _ events hevents s b p response hgenerated _
    exact hgenerated.of_submitsOnly (desktop_submitsOnly events hevents)
  · intro row _ _ events hevents s b p response hgenerated _
    exact hgenerated.of_submitsOnly (desktop_submitsOnly events hevents)

/-- The second message of a session gets the response to the first one: their
prompts begin with the same 128 bytes. -/
theorem cached_reply_is_own_fails :
    ¬ ∀ [Externals] {runtime : EngineRuntime} {start : World} {earlier : List MessageEnvelope}
      {message : MessageEnvelope} {sessionId body prompt response tier : String},
      runtime.config.orchestration.semanticCacheEnabled = false →
      runtime.config.orchestration.exactCacheEnabled = true →
      runtime.config.orchestration.prefixCacheEnabled = true →
      start.caches = ⟨[], []⟩ →
      .submit sessionId body prompt ∈
        (RuntimeCall.message message).events runtime (runtime.converse earlier start).2 →
      .answered response tier ∈
        (RuntimeCall.message message).events runtime (runtime.converse earlier start).2 →
      tier ∉ Orchestrator.liveTiers →
        ∃ events ∈ (runtime.converse earlier start).1, ∃ p,
          GeneratedFor events sessionId body p response := by
  intro h
  have hagain : AnsweredAgain "what time is it?" "prefix" (@RuntimeCall.events referenceExternals
      referenceRuntime (RuntimeCall.message (desktopMessage "what time is it?"))
      (@EngineRuntime.converse referenceExternals referenceRuntime
        [desktopMessage "hi"] desktopWorld).2) := by
    decide +kernel
  obtain ⟨events, hevents, p, hgenerated⟩ := @h referenceExternals referenceRuntime desktopWorld
    [desktopMessage "hi"] (desktopMessage "what time is it?") desktopSession "what time is it?"
    (@EngineRuntime.messagePrompt desktopSession (desktopMessage "what time is it?") "") "0"
    "prefix" rfl rfl rfl rfl hagain.1 hagain.2
    (by decide)
  have hbody := (hgenerated.of_submitsOnly (desktop_submitsOnly events hevents)).2
  exact absurd hbody (by decide)

end OpenPinch
