import OpenPinch.Engine.StateStore

/-!
# The orchestrator

`Orchestrator.generateWithRoute` answers a prompt from the exact, the prefix or
the semantic cache, or asks the providers of a route and stores the response
under all three.  A request to a provider takes the next answer of the world.
-/

namespace OpenPinch

variable [Externals]

/-! ## Providers -/

namespace ProviderRegistry

variable (models : Lib.SortedMap String ModelProviderConfig)

/-- The provider of a name, which `from_config` builds for these kinds only. -/
def get? (name : String) : Option ModelProviderConfig :=
  (models.get? name).filter fun config =>
    ["ollama", "llamacpp", "openai-compatible"].contains config.kind

/-- The request of a prompt, and its answer. -/
def ask (name prompt : String) : EngineOp (Except String String) :=
  Lib.Op.stmt .quiet fun w =>
    .ok (w.providers.answer w.providers.requests.length)
      { w with providers :=
        { w.providers with requests := w.providers.requests ++ [(name, prompt)] } }

/-- `ModelProvider::generate`. -/
def generate (name prompt : String) : EngineOp String := do
  match ← ask name prompt with
  | .ok response => do
      EngineOp.emit (.generated name prompt response)
      return response
  | .error message => EngineOp.fail message

/-- `ProviderRegistry::generate_with_provider`. -/
def generateWithProvider (provider prompt : String) : EngineOp String :=
  match get? models provider with
  | none => EngineOp.fail s!"unknown provider {provider}"
  | some config =>
      if config.enabled then generate provider prompt
      else EngineOp.fail s!"provider {provider} is disabled"

/-- The loop of `generate_with_routing`, with the errors so far. -/
def routeFrom (prompt : String) (errors : List String) :
    List String → EngineOp (String × String)
  | [] =>
      let joined := String.intercalate "; " errors
      if errors.isEmpty then EngineOp.fail "no enabled local model providers are configured"
      else EngineOp.fail s!"no local model backend succeeded ({joined})"
  | name :: rest =>
      if (get? models name).any ModelProviderConfig.enabled then do
        match ← EngineOp.attempt (generate name prompt) with
        | .ok response => return (name, response)
        | .error message => routeFrom prompt (errors ++ [s!"{name}: {message}"]) rest
      else routeFrom prompt errors rest

/-- `ProviderRegistry::generate_with_routing`. -/
def generateWithRouting (order : List String) (prompt : String) : EngineOp (String × String) :=
  routeFrom models prompt [] order

end ProviderRegistry

/-! ## The orchestrator -/

/-- `OrchestrationResult`. -/
structure OrchestrationResult where
  provider : String
  response : String
  cacheTier : String
deriving DecidableEq, Repr

/-- `Orchestrator`, less the store, the semaphore and the name of its backend. -/
structure Orchestrator where
  config : AppConfig
  encryption : EncryptionManager

namespace Orchestrator

variable (orchestrator : Orchestrator)

/-- The provider that drafts on a route. -/
def draftProvider (route : List String) : Option String :=
  route.find? fun name => (orchestrator.config.models.get? name).any fun config =>
    config.speculativeEnabled && config.draftModel != ""

/-- `Orchestrator::generate_live`.  Of the two requests that run together, the
draft is the first here. -/
def generateLive (route : List String) (prompt : String) : EngineOp OrchestrationResult :=
  let models := orchestrator.config.models
  let draft := if orchestrator.config.orchestration.speculativeEnabled then
    orchestrator.draftProvider route else none
  match draft with
  | some draftName => do
      let draft ← EngineOp.attempt
        (ProviderRegistry.generateWithProvider models draftName prompt)
      let target ← EngineOp.attempt (ProviderRegistry.generateWithRouting models route prompt)
      match draft, target with
      | _, .ok (provider, response) => return ⟨provider, response, "live+speculative"⟩
      | .ok response, .error _ => return ⟨draftName, response, "speculative-fallback"⟩
      | .error _, .error message => EngineOp.fail message
  | none => do
      let (provider, response) ← ProviderRegistry.generateWithRouting models route prompt
      return ⟨provider, response, "live"⟩

/-- The exact tier: a response stored under the digest of the prompt. -/
def exactTier (prompt : String) : EngineOp (Option OrchestrationResult) := do
  if orchestrator.config.orchestration.exactCacheEnabled then
    let found ← StateStore.cacheExactGet (promptHash prompt)
    return found.map fun (provider, response) => ⟨provider, response, "exact"⟩
  else return none

/-- The prefix tier: a response stored under a prefix that matches the prompt. -/
def prefixTier (prompt : String) : EngineOp (Option OrchestrationResult) := do
  if orchestrator.config.orchestration.prefixCacheEnabled then
    let found ← StateStore.cachePrefixGet prompt
    return found.map fun (provider, response) => ⟨provider, response, "prefix"⟩
  else return none

/-- The semantic tier: the content of the memory closest to the prompt. -/
def semanticTier (prompt : String) : EngineOp (Option OrchestrationResult) := do
  if orchestrator.config.orchestration.semanticCacheEnabled then
    let cached ← StateStore.queryMemory ⟨"semantic-cache", prompt, 1, "\x7b\x7d"⟩
      orchestrator.encryption
    match cached.head? with
    | some entry =>
        if 23 / 25 ≤ entry.score then return some ⟨"semantic-cache", entry.content, "semantic"⟩
        else return none
    | none => return none
  else return none

/-- The route that is asked: the given one, or the configured order, backwards
for background work. -/
def liveRoute (priority : QueuePriority) (route : List String) : List String :=
  if route.isEmpty then
    if priority = .background then orchestrator.config.orchestration.providerOrder.reverse
    else orchestrator.config.orchestration.providerOrder
  else route

/-- The key of a prompt in the prefix cache: its first 128 bytes.  Nothing when
they end inside a character, where slicing panics. -/
def prefixKey (prompt : String) : Option String := fromUtf8 ((asBytes prompt).take 128)

/-- What the semantic cache stores for a response. -/
def semanticPayload (result : OrchestrationResult) : String :=
  Externals.jsonText (.obj [("provider", .str result.provider),
    ("response", .str result.response)])

/-- A live response under the digest of its prompt. -/
def storeExact (prompt : String) (result : OrchestrationResult) : EngineOp Unit :=
  if orchestrator.config.orchestration.exactCacheEnabled then
    StateStore.cacheExactPut (promptHash prompt) result.provider result.response
  else return ()

/-- A live response under the prefix of its prompt. -/
def storePrefix (prompt : String) (result : OrchestrationResult) : EngineOp Unit :=
  if orchestrator.config.orchestration.prefixCacheEnabled then do
    let key ← EngineOp.orPanic (prefixKey prompt)
    StateStore.cachePrefixPut key result.provider result.response
  else return ()

/-- A live response in the semantic cache.  An error is dropped. -/
def storeSemantic (prompt : String) (result : OrchestrationResult) : EngineOp Unit :=
  let digest := promptHash prompt
  if orchestrator.config.orchestration.semanticCacheEnabled then
    EngineOp.ignore (StateStore.upsertMemory "semantic-cache" s!"semantic-{digest}"
      (semanticPayload result) "\x7b\x7d" orchestrator.encryption)
  else return ()

/-- `Orchestrator::generate_with_route`. -/
def generateWithRoute (prompt : String) (priority : QueuePriority) (route : List String) :
    EngineOp OrchestrationResult := do
  match ← orchestrator.exactTier prompt with
  | some result => return result
  | none =>
    match ← orchestrator.prefixTier prompt with
    | some result => return result
    | none =>
      match ← orchestrator.semanticTier prompt with
      | some result => return result
      | none => do
          let result ← orchestrator.generateLive (orchestrator.liveRoute priority route) prompt
          orchestrator.storeExact prompt result
          orchestrator.storePrefix prompt result
          orchestrator.storeSemantic prompt result
          return result

end Orchestrator

end OpenPinch
