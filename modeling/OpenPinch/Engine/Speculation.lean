import OpenPinch.Engine.Calls
import OpenPinch.Engine.Rules

/-!
# Speculation

With speculation a draft is asked for beside the routed request.  Where each provider
answers a prompt in the same way whenever it is asked, the result of the route is a
function of these answers (`routedAnswer`).  A draft comes from a provider on the
route, so a draft that succeeds is one that the route would have come to.
-/

namespace OpenPinch

open Lib (Op)
open Lib.Prog (Acts)

/-! ## Requests -/

/-- Requests are only added, and the answers stay. -/
structure Asks (w w' : World) : Prop where
  answer : w'.providers.answer = w.providers.answer
  requests : w.providers.requests <+: w'.providers.requests

/-- An operation that does no more to the providers. -/
def Asking {α : Type} (p : EngineOp α) : Prop := Acts (fun _ g => ∀ w : World, Asks w (g w)) p

theorem closed_asking : EngineOp.Closed fun _ p => Asking p := EngineOp.closed_acts _

theorem Asking.eval {α : Type} {p : EngineOp α} (h : Asking p) (w : World) :
    Asks w (Lib.Prog.eval p w).2 :=
  Acts.eval (R := Asks) (fun _ => ⟨rfl, List.prefix_refl _⟩)
    (fun _ _ _ h h' => ⟨h'.answer.trans h.answer, h.requests.trans h'.requests⟩)
    (fun _ _ h => h) h w

/-- Each request of the operation gets the answer of its provider. -/
def Consistent {α : Type} (answers : String → Except String String) (p : EngineOp α)
    (w : World) : Prop :=
  ∀ n name text, w.providers.requests.length ≤ n →
    (Lib.Prog.eval p w).2.providers.requests[n]? = some (name, text) →
      w.providers.answer n = answers name

/-- A message as an error. -/
def faulty {α : Type} (r : Except String α) : Except Fault α := r.mapError Fault.error

section

variable {α β : Type} {answers : String → Except String String} {p : EngineOp α}
  {f : α → EngineOp β} {w : World}

theorem Consistent.first (h : Consistent answers (p >>= f) w) (hf : ∀ a, Asking (f a)) :
    Consistent answers p w := by
  intro n name text hn hrequest
  refine h n name text hn ?_
  rw [Op.eval_bind]
  cases (Lib.Prog.eval p w).1 with
  | error e => exact hrequest
  | ok a =>
      obtain ⟨more, hmore⟩ := ((hf a).eval (Lib.Prog.eval p w).2).requests
      show (Lib.Prog.eval (f a) (Lib.Prog.eval p w).2).2.providers.requests[n]? = _
      rw [← hmore, List.getElem?_append_left (List.getElem?_eq_some_iff.mp hrequest).1]
      exact hrequest

theorem Consistent.rest {a : α} (h : Consistent answers (p >>= f) w) (hp : Asking p)
    (ha : (Lib.Prog.eval p w).1 = .ok a) :
    Consistent answers (f a) (Lib.Prog.eval p w).2 := by
  intro n name text hn hrequest
  rw [(hp.eval w).answer]
  refine h n name text ((hp.eval w).requests.length_le.trans hn) ?_
  rw [Op.eval_bind_ok ha]
  exact hrequest

/-- An attempt ends where the operation ends. -/
theorem eval_attempt_world (p : EngineOp α) (w : World) :
    (Lib.Prog.eval (EngineOp.attempt p) w).2 = (Lib.Prog.eval p w).2 := by
  refine (congrArg Prod.snd (Lib.Prog.eval_bind _ _ w)).trans ?_
  rcases (Lib.Prog.eval p w).1 with (_ | _) | _ <;> rfl

theorem eval_attempt_result {r : Except String α} (h : (Lib.Prog.eval p w).1 = faulty r) :
    (Lib.Prog.eval (EngineOp.attempt p) w).1 = .ok r := by
  refine (congrArg Prod.fst (Lib.Prog.eval_bind _ _ w)).trans ?_
  rw [h]
  cases r <;> rfl

theorem Consistent.attempt (h : Consistent answers (EngineOp.attempt p) w) :
    Consistent answers p w := by
  intro n name text hn hrequest
  refine h n name text hn ?_
  rw [eval_attempt_world]
  exact hrequest

end

/-! ## What a route gets -/

namespace ProviderRegistry

variable (models : Lib.SortedMap String ModelProviderConfig)
  (answers : String → Except String String)

/-- The provider is there and enabled. -/
def Serves (name : String) : Bool := (get? models name).any ModelProviderConfig.enabled

/-- The result of a request to a provider. -/
def providerAnswer (provider : String) : Except String String :=
  match get? models provider with
  | none => .error s!"unknown provider {provider}"
  | some config =>
      if config.enabled then answers provider else .error s!"provider {provider} is disabled"

/-- The result of the loop of `generate_with_routing`, with the errors so far. -/
def routedAnswer (errors : List String) : List String → Except String (String × String)
  | [] =>
      let joined := String.intercalate "; " errors
      if errors.isEmpty then .error "no enabled local model providers are configured"
      else .error s!"no local model backend succeeded ({joined})"
  | name :: rest =>
      if Serves models name then
        match answers name with
        | .ok response => .ok (name, response)
        | .error message => routedAnswer (errors ++ [s!"{name}: {message}"]) rest
      else routedAnswer errors rest

variable {models answers}

/-- A provider that is asked on its own and answers is one that a route comes to. -/
theorem serves_of_providerAnswer {provider response : String}
    (h : providerAnswer models answers provider = .ok response) :
    Serves models provider = true ∧ answers provider = .ok response := by
  unfold providerAnswer at h
  unfold Serves
  cases hget : get? models provider with
  | none =>
      rw [hget] at h
      cases h
  | some config =>
      simp only [hget] at h
      split at h
      · rename_i henabled
        exact ⟨henabled, h⟩
      · cases h

/-- A route with a provider that answers gets an answer. -/
theorem routedAnswer_ok {provider response : String} {order : List String}
    (hmem : provider ∈ order) (hserves : Serves models provider = true)
    (hanswer : answers provider = .ok response) (errors : List String) :
    ∃ found, routedAnswer models answers errors order = .ok found := by
  induction order generalizing errors with
  | nil => cases hmem
  | cons name rest ih =>
      unfold routedAnswer
      rcases List.mem_cons.mp hmem with rfl | hlater
      · rw [if_pos hserves, hanswer]
        exact ⟨_, rfl⟩
      · split
        · cases answers name with
          | ok other => exact ⟨_, rfl⟩
          | error message => exact ih hlater _
        · exact ih hlater _

/-! ## What is asked -/

theorem asking_generate (name prompt : String) : Asking (generate name prompt) := by
  refine closed_asking.bind (Lib.Op.acts_stmt fun w => ⟨rfl, List.prefix_append _ _⟩) fun r => ?_
  cases r with
  | error message => exact closed_asking.fail _
  | ok response =>
      refine closed_asking.bind (Lib.Op.acts_stmt fun w => ?_) fun _ => closed_asking.pure _
      exact ⟨rfl, List.prefix_refl _⟩

theorem asking_generateWithProvider (provider prompt : String) :
    Asking (generateWithProvider models provider prompt) := by
  unfold generateWithProvider
  cases get? models provider with
  | none => exact closed_asking.fail _
  | some config =>
      dsimp only
      split
      · exact asking_generate provider prompt
      · exact closed_asking.fail _

theorem asking_routeFrom (prompt : String) (errors order : List String) :
    Asking (routeFrom models prompt errors order) := by
  induction order generalizing errors with
  | nil =>
      unfold routeFrom
      dsimp only
      split <;> exact closed_asking.fail _
  | cons name rest ih =>
      unfold routeFrom
      split
      · refine closed_asking.bind (closed_asking.attempt (asking_generate name prompt)) fun r => ?_
        cases r with
        | ok response => exact closed_asking.pure _
        | error message => exact ih _
      · exact ih errors

/-! ## What is returned -/

theorem generate_result {name prompt : String} {w : World}
    (h : Consistent answers (generate name prompt) w) :
    (Lib.Prog.eval (generate name prompt) w).1 = faulty (answers name) := by
  have hrequest : (Lib.Prog.eval (ask name prompt) w).2.providers.requests[
      w.providers.requests.length]? = some (name, prompt) :=
    List.getElem?_concat_length
  have hfirst : Consistent answers (ask name prompt) w := by
    refine h.first fun r => ?_
    cases r with
    | error message => exact closed_asking.fail _
    | ok response =>
        refine closed_asking.bind (Lib.Op.acts_stmt fun w => ?_) fun _ => closed_asking.pure _
        exact ⟨rfl, List.prefix_refl _⟩
  have hanswer := hfirst _ name prompt (Nat.le_refl _) hrequest
  have hask : (Lib.Prog.eval (ask name prompt) w).1 = .ok (answers name) :=
    congrArg Except.ok hanswer
  unfold generate
  rw [Op.eval_bind_ok hask]
  cases answers name <;> rfl

theorem generateWithProvider_result {provider prompt : String} {w : World}
    (h : Consistent answers (generateWithProvider models provider prompt) w) :
    (Lib.Prog.eval (generateWithProvider models provider prompt) w).1 =
      faulty (providerAnswer models answers provider) := by
  unfold generateWithProvider at h ⊢
  unfold providerAnswer
  cases hget : get? models provider with
  | none => rfl
  | some config =>
      simp only [hget] at h
      dsimp only
      split
      · rename_i henabled
        rw [if_pos henabled] at h
        exact generate_result h
      · rfl

theorem routeFrom_result {prompt : String} {errors order : List String} {w : World}
    (h : Consistent answers (routeFrom models prompt errors order) w) :
    (Lib.Prog.eval (routeFrom models prompt errors order) w).1 =
      faulty (routedAnswer models answers errors order) := by
  induction order generalizing errors w with
  | nil =>
      unfold routeFrom routedAnswer
      dsimp only
      split <;> rfl
  | cons name rest ih =>
      unfold routeFrom at h ⊢
      unfold routedAnswer Serves
      by_cases hserves : (get? models name).any ModelProviderConfig.enabled = true
      · rw [if_pos hserves] at h
        rw [if_pos hserves, if_pos hserves]
        have hrest (r : Except String String) : Asking (match r with
            | .ok response => pure (name, response)
            | .error message =>
                routeFrom models prompt (errors ++ [s!"{name}: {message}"]) rest) := by
          cases r with
          | ok response => exact closed_asking.pure _
          | error message => exact asking_routeFrom _ _ _
        have hgenerate := eval_attempt_result (generate_result (h.first hrest).attempt)
        have hlater := h.rest (closed_asking.attempt (asking_generate name prompt)) hgenerate
        rw [Op.eval_bind_ok hgenerate]
        cases hanswer : answers name with
        | ok response => rfl
        | error message =>
            rw [hanswer] at hlater
            exact ih hlater
      · rw [if_neg hserves] at h
        rw [if_neg hserves, if_neg hserves]
        exact ih h

end ProviderRegistry

/-! ## Drafts -/

namespace Orchestrator

/-- The orchestrator with speculation on or off. -/
def speculating (orchestrator : Orchestrator) (enabled : Bool) : Orchestrator :=
  { orchestrator with
    config := { orchestrator.config with
      orchestration := { orchestrator.config.orchestration with speculativeEnabled := enabled } } }

/-- The provider and the response of a result, without its tier. -/
def outcome (r : Except Fault OrchestrationResult) : Except Fault (String × String) :=
  r.map fun result => (result.provider, result.response)

open ProviderRegistry (routedAnswer providerAnswer generateWithRouting routeFrom_result
  asking_routeFrom generateWithProvider_result asking_generateWithProvider
  serves_of_providerAnswer routedAnswer_ok)

/-- The provider that drafts is on the route. -/
theorem mem_of_draft {orchestrator : Orchestrator} {route : List String} {draftName : String}
    (h : (if orchestrator.config.orchestration.speculativeEnabled then
      orchestrator.draftProvider route else none) = some draftName) : draftName ∈ route := by
  split at h
  · exact List.mem_of_find?_eq_some h
  · cases h

/-- Once the draft and the target are known, no provider is asked. -/
theorem asking_settled (draftName : String) (draft : Except String String)
    (target : Except String (String × String)) :
    Asking (match draft, target with
      | _, .ok (provider, response) =>
          (pure ⟨provider, response, "live+speculative"⟩ : EngineOp OrchestrationResult)
      | .ok response, .error _ => pure ⟨draftName, response, "speculative-fallback"⟩
      | .error _, .error message => EngineOp.fail message) := by
  rcases draft with _ | _ <;> rcases target with _ | _
  · exact closed_asking.fail _
  · exact closed_asking.pure _
  · exact closed_asking.pure _
  · exact closed_asking.pure _

/-- What `generate_live` returns is what the route gets, drafted or not. -/
theorem generateLive_outcome {orchestrator : Orchestrator} {route : List String} {prompt : String}
    {answers : String → Except String String} {w : World}
    (h : Consistent answers (orchestrator.generateLive route prompt) w) :
    outcome ((orchestrator.generateLive route prompt).eval w).1 =
      faulty (routedAnswer orchestrator.config.models answers [] route) := by
  unfold generateLive at h ⊢
  cases hdraft : (if orchestrator.config.orchestration.speculativeEnabled then
      orchestrator.draftProvider route else none) with
  | none =>
      simp only [hdraft] at h ⊢
      have hrouted := routeFrom_result (h.first fun _ => closed_asking.pure _)
      refine (congrArg (fun end' => outcome end'.1) (Op.eval_bind _ _ w)).trans ?_
      unfold generateWithRouting
      rw [hrouted]
      cases routedAnswer orchestrator.config.models answers [] route <;> rfl
  | some draftName =>
      simp only [hdraft] at h ⊢
      have hlast := asking_settled draftName
      have hdrafted := eval_attempt_result (generateWithProvider_result (h.first fun draft =>
        closed_asking.bind (closed_asking.attempt (asking_routeFrom _ _ _)) fun target =>
          hlast draft target).attempt)
      have hrest := h.rest (closed_asking.attempt (asking_generateWithProvider _ _)) hdrafted
      have hrouted := eval_attempt_result (routeFrom_result (hrest.first fun target =>
        hlast _ target).attempt)
      rw [Op.eval_bind_ok hdrafted]
      unfold generateWithRouting
      rw [Op.eval_bind_ok hrouted]
      cases htarget : routedAnswer orchestrator.config.models answers [] route with
      | ok found => cases providerAnswer orchestrator.config.models answers draftName <;> rfl
      | error message =>
          cases hanswer : providerAnswer orchestrator.config.models answers draftName with
          | error _ => rfl
          | ok response =>
              -- the route would have come to the provider of the draft
              obtain ⟨hserves, hdraftAnswer⟩ := serves_of_providerAnswer hanswer
              obtain ⟨found, hfound⟩ :=
                routedAnswer_ok (mem_of_draft hdraft) hserves hdraftAnswer []
              cases htarget.symm.trans hfound

end Orchestrator

/-- Where each provider answers in the same way whenever it is asked, speculation changes
neither the provider nor the response, and fails with the same error. -/
theorem generateLive_speculating {orchestrator : Orchestrator} {route : List String}
    {prompt : String} {answers : String → Except String String} {w w' : World}
    (h : Consistent answers ((orchestrator.speculating true).generateLive route prompt) w)
    (h' : Consistent answers ((orchestrator.speculating false).generateLive route prompt) w') :
    Orchestrator.outcome (((orchestrator.speculating true).generateLive route prompt).eval w).1 =
      Orchestrator.outcome
        (((orchestrator.speculating false).generateLive route prompt).eval w').1 :=
  (Orchestrator.generateLive_outcome h).trans (Orchestrator.generateLive_outcome h').symm

/-- An orchestrator whose provider drafts. -/
def draftingOrchestrator : Orchestrator :=
  ⟨{ referenceRuntime.config with models := .singleton "ollama" ⟨"ollama", "small", true, true⟩ },
    ⟨false, onesKey⟩⟩

/-- Providers that always say hello are asked twice with speculation and once without. -/
theorem generateLive_speculating_hello :
    Orchestrator.outcome (((draftingOrchestrator.speculating true).generateLive ["ollama"]
        "hi").eval referenceWorld).1 =
      Orchestrator.outcome (((draftingOrchestrator.speculating false).generateLive ["ollama"]
        "hi").eval referenceWorld).1 :=
  @generateLive_speculating _ _ _ (fun _ => .ok "hello") _ _ (fun _ _ _ _ _ => rfl)
    fun _ _ _ _ _ => rfl

end OpenPinch
