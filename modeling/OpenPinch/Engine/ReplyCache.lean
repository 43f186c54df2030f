import OpenPinch.Common.JsonText
import OpenPinch.Engine.Calls
import OpenPinch.Engine.Generation

/-!
# Cached responses are texts of providers

In every history of the orchestrator the rows of the exact and the prefix cache
hold texts that a provider has returned (`cachesHold_reachable`).  So a response
that is no such text comes from the semantic cache.
-/

namespace OpenPinch

open Lib (System)

section

variable [Externals]

/-! ## Histories of the orchestrator -/

/-- A call of `generate_with_route`. -/
structure GenerateCall where
  prompt : String
  priority : QueuePriority
  route : List String

namespace GenerateCall

variable (orchestrator : Orchestrator) (call : GenerateCall) (w : World)

/-- The result of a call. -/
def result : Except Fault OrchestrationResult :=
  (Lib.Prog.eval (orchestrator.generateWithRoute call.prompt call.priority call.route) w).1

/-- The world after a call. -/
def after : World :=
  (Lib.Prog.eval (orchestrator.generateWithRoute call.prompt call.priority call.route) w).2

end GenerateCall

/-- The calls of an orchestrator, from empty caches and before any request. -/
def Orchestrator.system (orchestrator : Orchestrator) : System World GenerateCall where
  init w := w.caches = ⟨[], []⟩ ∧ w.vectorMemory = [] ∧ w.providers.requests = []
  step w call w' := w' = call.after orchestrator w

/-- The cached responses are texts of the providers. -/
structure CachesHold (w : World) : Prop where
  promptCache : ∀ row ∈ w.caches.promptCache, w.ProviderText row.response
  prefixCache : ∀ row ∈ w.caches.prefixCache, w.ProviderText row.response

/-- A text of the providers remains one. -/
theorem Progress.providerText {prompt : String} {start w : World} {labels : List Event}
    (h : Progress prompt start labels w) {text : String} (htext : start.ProviderText text) :
    w.ProviderText text := by
  obtain ⟨n, hn, hanswer⟩ := htext
  exact ⟨n, hn.trans_le h.requests, h.answer ▸ hanswer⟩

theorem Progress.cachesHold {prompt : String} {start w : World} {labels : List Event}
    (h : Progress prompt start labels w) (hstart : CachesHold start) : CachesHold w where
  promptCache row hrow := by
    rcases h.promptCache row hrow with hold | ⟨-, hresponded⟩
    · exact h.providerText (hstart.promptCache row hold)
    · exact h.texts row.response hresponded
  prefixCache row hrow := by
    rcases h.prefixCache row hrow with hold | ⟨-, hresponded⟩
    · exact h.providerText (hstart.prefixCache row hold)
    · exact h.texts row.response hresponded

/-- What a call returns and leaves. -/
theorem GenerateCall.served (orchestrator : Orchestrator) (call : GenerateCall) (w : World) :
    ∃ labels, orchestrator.Served call.prompt w labels (call.result orchestrator w)
      (call.after orchestrator w) :=
  ⟨_, orchestrator.wp_generateWithRoute call.prompt call.priority call.route w⟩

/-- The providers of a world answer the same for ever. -/
theorem GenerateCall.after_answer (orchestrator : Orchestrator) (call : GenerateCall) (w : World) :
    (call.after orchestrator w).providers.answer = w.providers.answer := by
  obtain ⟨labels, hserved⟩ := call.served orchestrator w
  exact hserved.progress.answer

theorem cachesHold_reachable {orchestrator : Orchestrator} {w : World}
    (h : orchestrator.system.Reachable w) : CachesHold w := by
  refine h.invariant (P := CachesHold) ?_ ?_
  · rintro start ⟨hcaches, -, -⟩
    constructor <;> simp [hcaches]
  · intro s call s' hstep hs
    obtain ⟨labels, hserved⟩ := call.served orchestrator s
    rw [show s' = call.after orchestrator s from hstep]
    exact hserved.progress.cachesHold hs

namespace Orchestrator

variable {orchestrator : Orchestrator} {w : World} {prompt : String} {row : CacheRow}

theorem mem_of_exactRow (h : orchestrator.exactRow w prompt = some row) :
    row ∈ w.caches.promptCache ∧ row.key = promptHash prompt := by
  simp only [exactRow] at h
  split at h
  · exact ⟨List.mem_of_find?_eq_some h, by simpa using List.find?_some h⟩
  · cases h

omit [Externals] in
theorem mem_of_prefixRow (h : orchestrator.prefixRow w prompt = some row) :
    row ∈ w.caches.prefixCache := by
  simp only [prefixRow] at h
  split at h
  · exact (List.mem_filter.mp ((List.mem_insertionSort _).mp (List.mem_of_mem_head? h))).1
  · cases h

end Orchestrator

/-- Without a hit in the semantic cache a response is a text that a provider has
returned, in every history. -/
theorem response_of_provider {orchestrator : Orchestrator} {w : World} {call : GenerateCall}
    {result : OrchestrationResult} (hreach : orchestrator.system.Reachable w)
    (hmiss : ¬ orchestrator.SemanticHit w call.prompt)
    (hresult : call.result orchestrator w = .ok result) :
    (call.after orchestrator w).ProviderText result.response := by
  have hholds := cachesHold_reachable hreach
  obtain ⟨labels, hserved⟩ := call.served orchestrator w
  cases hserved.source result hresult with
  | cachedExact row found =>
      exact hserved.progress.providerText
        (hholds.promptCache row (Orchestrator.mem_of_exactRow found).1)
  | cachedPrefix row missed found =>
      exact hserved.progress.providerText
        (hholds.prefixCache row (Orchestrator.mem_of_prefixRow found))
  | cachedSemantic content hit => exact absurd hit hmiss
  | live result responded tier => exact hserved.progress.texts result.response responded

end

/-- An orchestrator with one provider and the semantic cache only. -/
def semanticOrchestrator : Orchestrator :=
  ⟨{ referenceRuntime.config with orchestration := ⟨["ollama"], true, false, false, false⟩ },
    ⟨false, onesKey⟩⟩

/-- An orchestrator with one provider and the prefix and the semantic cache. -/
def cachingOrchestrator : Orchestrator :=
  ⟨{ referenceRuntime.config with orchestration := ⟨["ollama"], true, true, false, false⟩ },
    ⟨false, onesKey⟩⟩

/-- The world after a prompt that is answered live. -/
def greetedWorld (orchestrator : Orchestrator) : World :=
  @GenerateCall.after jsonExternals orchestrator ⟨"hi", .interactive, []⟩ referenceWorld

/-- What the first prompt stored answers a longer one, and is not close to another one. -/
theorem greetedWorld_facts :
    @GenerateCall.result jsonExternals cachingOrchestrator ⟨"hi there", .interactive, []⟩
        (greetedWorld cachingOrchestrator) = .ok ⟨"ollama", "hello", "prefix"⟩ ∧
      (cachingOrchestrator.prefixRow (greetedWorld cachingOrchestrator) "hi there").isSome ∧
      @GenerateCall.result jsonExternals semanticOrchestrator ⟨"good morning", .interactive, []⟩
        (greetedWorld semanticOrchestrator) = .ok ⟨"ollama", "hello", "live"⟩ ∧
      (@Orchestrator.semanticRows jsonExternals (greetedWorld semanticOrchestrator)).length = 1 ∧
      ∀ row ∈ @Orchestrator.semanticRows jsonExternals (greetedWorld semanticOrchestrator),
        similarity (@fingerprint jsonExternals "good morning") row.fingerprint <
          23 / 25 := by
  decide +kernel

/-- One prompt is answered by what is stored for an earlier one, and one is not. -/
theorem response_of_provider_second :
    (@GenerateCall.after jsonExternals cachingOrchestrator ⟨"hi there", .interactive, []⟩
        (greetedWorld cachingOrchestrator)).ProviderText "hello" ∧
      (@GenerateCall.after jsonExternals semanticOrchestrator ⟨"good morning", .interactive, []⟩
        (greetedWorld semanticOrchestrator)).ProviderText "hello" := by
  obtain ⟨hcached, hrow, hlive, -, hfar⟩ := greetedWorld_facts
  have hreach (orchestrator : Orchestrator) :
      (@Orchestrator.system jsonExternals orchestrator).Reachable (greetedWorld orchestrator) := by
    have hstart : (@Orchestrator.system jsonExternals orchestrator).Reachable referenceWorld :=
      .of_init ⟨rfl, rfl, rfl⟩
    exact hstart.step rfl
  constructor
  · refine @response_of_provider jsonExternals _ _ _ _ (hreach cachingOrchestrator) ?_ hcached
    rintro ⟨-, -, hmissed, -⟩
    rw [hmissed] at hrow
    cases hrow
  · refine @response_of_provider jsonExternals _ _ _ _ (hreach semanticOrchestrator) ?_ hlive
    rintro ⟨-, -, -, row, hrow, hclose⟩
    exact absurd (hfar row hrow) (not_lt.mpr hclose)

/-- A prompt that has the words of what is stored for a response gets that back,
with the provider and in JSON. -/
theorem response_of_provider_fails :
    ¬ ∀ [Externals] {orchestrator : Orchestrator} {w : World} {call : GenerateCall}
      {result : OrchestrationResult}, orchestrator.system.Reachable w →
        call.result orchestrator w = .ok result →
          (call.after orchestrator w).ProviderText result.response := by
  intro h
  have hstart : (@Orchestrator.system jsonExternals semanticOrchestrator).Reachable
      referenceWorld :=
    .of_init ⟨rfl, rfl, rfl⟩
  obtain ⟨n, -, hanswer⟩ := @h jsonExternals semanticOrchestrator
    (@GenerateCall.after jsonExternals semanticOrchestrator ⟨"hi", .interactive, []⟩
      referenceWorld)
    ⟨"provider ollama response hello", .interactive, []⟩
    ⟨"semantic-cache", "\x7b\"provider\":\"ollama\",\"response\":\"hello\"\x7d", "semantic"⟩
    (hstart.step rfl) (by decide +kernel)
  rw [@GenerateCall.after_answer jsonExternals, @GenerateCall.after_answer jsonExternals] at hanswer
  exact absurd (Except.ok.inj hanswer) (by decide)

end OpenPinch
