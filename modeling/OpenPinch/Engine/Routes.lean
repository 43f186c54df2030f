import Mathlib.Algebra.Order.Ring.Unbundled.Rat
import OpenPinch.Engine.PrefixKey

/-!
# Responses and the requested route

A live response comes from a provider of the route.  The caches are asked before
the route is, so a cached response comes from the route exactly when the row that
answers was filled by one of its providers.
-/

namespace OpenPinch

open Lib (Op wp Table.exists_of_mapM_ok)
open Lib.Op (after result)
open Lib.Prog (Acts)

section

variable [Externals]

/-! ## What a call fills in -/

/-- Rows that are new are those of a response. -/
def RowsFrom (provider response : String) (rows rows' : List CacheRow) : Prop :=
  ∀ row ∈ rows', row ∈ rows ∨ row.provider = provider ∧ row.response = response

/-- Rows that are new in one of the caches are those of a response. -/
structure CachesFrom (provider response : String) (t t' : Caches) : Prop where
  promptCache : RowsFrom provider response t.promptCache t'.promptCache
  prefixCache : RowsFrom provider response t.prefixCache t'.prefixCache

/-- The action is quiet, and fills the caches with a response at most. -/
structure Fills (provider response : String) (e : Event) (g : World → World) : Prop where
  quiet : e = .quiet
  caches : ∀ w, CachesFrom provider response w.caches (g w).caches

section

variable {provider response : String}

omit [Externals] in
theorem RowsFrom.refl (rows : List CacheRow) : RowsFrom provider response rows rows :=
  fun _ => Or.inl

omit [Externals] in
theorem RowsFrom.trans {rows rows' rows'' : List CacheRow}
    (h : RowsFrom provider response rows rows') (h' : RowsFrom provider response rows' rows'') :
    RowsFrom provider response rows rows'' := by
  intro row hrow
  rcases h' row hrow with hbefore | hnew
  · exact h row hbefore
  · exact Or.inr hnew

omit [Externals] in
theorem rowsFrom_upsertOn (new : CacheRow) (rows : List CacheRow) :
    RowsFrom new.provider new.response rows
      (Lib.Table.upsertOn CacheRow.key (fun _ => new) new rows) := by
  intro row hrow
  rcases Lib.Table.mem_of_mem_upsertOn hrow with hold | ⟨_, _, rfl⟩ | rfl
  · exact Or.inl hold
  · exact Or.inr ⟨rfl, rfl⟩
  · exact Or.inr ⟨rfl, rfl⟩

omit [Externals] in
theorem CachesFrom.refl (t : Caches) : CachesFrom provider response t t := ⟨.refl _, .refl _⟩

omit [Externals] in
theorem CachesFrom.trans (t t' t'' : Caches) (h : CachesFrom provider response t t')
    (h' : CachesFrom provider response t' t'') : CachesFrom provider response t t'' :=
  ⟨h.promptCache.trans h'.promptCache, h.prefixCache.trans h'.prefixCache⟩

omit [Externals] in
theorem Aside.fills {e : Event} {g : World → World} (h : Aside e g) :
    Fills provider response e g where
  quiet := h.quiet
  caches w := by
    rw [h.caches]
    exact CachesFrom.refl _

omit [Externals] in
/-- A statement that stores the row of a response in one of the two caches. -/
theorem fills_stored {f : Instant → Caches → Caches}
    (h : ∀ now t, CachesFrom provider response t (f now t)) :
    Acts (Fills provider response)
      (EngineOp.guarded .caches (Stmt.now >>= fun now => Stmt.execute (f now))) := by
  refine .lock (.act ⟨rfl, View.respects_caches ?_⟩ fun _ => .unlock .ret)
  exact Stmt.respects_bind CachesFrom.trans (Stmt.respects_now CachesFrom.refl) fun now =>
    Stmt.respects_execute CachesFrom.refl (h now)

end

namespace Orchestrator

variable (orchestrator : Orchestrator) (prompt : String) (result : OrchestrationResult)

theorem fills_storeExact :
    Acts (Fills result.provider result.response) (orchestrator.storeExact prompt result) := by
  simp only [storeExact]
  split
  · exact fills_stored fun now t => ⟨rowsFrom_upsertOn _ _, .refl _⟩
  · exact Op.acts_pure _

omit [Externals] in
theorem fills_storePrefix :
    Acts (Fills result.provider result.response) (orchestrator.storePrefix prompt result) := by
  simp only [storePrefix]
  split
  · refine Op.acts_bind (EngineOp.acts_orPanic _) fun key => ?_
    exact fills_stored fun now t => ⟨.refl _, rowsFrom_upsertOn _ _⟩
  · exact Op.acts_pure _

theorem fills_storeSemantic :
    Acts (Fills result.provider result.response) (orchestrator.storeSemantic prompt result) := by
  simp only [storeSemantic]
  split
  · refine EngineOp.acts_ignore ((StateStore.keeps_upsertMemory _ _ _ _ _).acts.mono ?_)
    exact fun _ _ => Aside.fills
  · exact Op.acts_pure _

theorem fills_stores :
    Acts (Fills result.provider result.response) (do
      orchestrator.storeExact prompt result
      orchestrator.storePrefix prompt result
      orchestrator.storeSemantic prompt result
      return result : EngineOp OrchestrationResult) := by
  refine Op.acts_bind (orchestrator.fills_storeExact prompt result) fun _ => ?_
  refine Op.acts_bind (orchestrator.fills_storePrefix prompt result) fun _ => ?_
  exact Op.acts_bind (orchestrator.fills_storeSemantic prompt result) fun _ => Op.acts_pure _

end Orchestrator

/-! ## Live responses -/

/-- The caches are as they were, and a value has the property. -/
def Yields {α : Type} (caches : Caches) (Q : List Event → α → Prop) (labels : List Event)
    (r : Except Fault α) (w : World) : Prop :=
  w.caches = caches ∧ ∀ a, r = .ok a → Q labels a

/-- The provider has returned the response to the prompt. -/
def Generated (prompt : String) (labels : List Event) (provider response : String) : Prop :=
  .generated provider prompt response ∈ labels

section

variable {prompt : String} {labels : List Event} {w : World} {caches : Caches}

omit [Externals] in
/-- There is no value after a fault. -/
theorem yields_error {α : Type} {Q : List Event → α → Prop} {fault : Fault}
    (h : w.caches = caches) : Yields caches Q labels (.error fault) w := by
  refine ⟨h, ?_⟩
  rintro _ ⟨⟩

omit [Externals] in
theorem yields_attempt {α : Type} {Q : List Event → α → Prop} {p : EngineOp α}
    (h : wp p (Yields caches Q) labels w) :
    wp (EngineOp.attempt p) (Yields caches fun labels r => ∀ a, r = .ok a → Q labels a)
      labels w := by
  refine EngineOp.wp_attempt (Lib.wp_mono h fun labels r w hyields => ?_)
  rcases r with (message | _) | a
  · refine ⟨hyields.1, ?_⟩
    rintro _ ⟨rfl⟩ _ ⟨⟩
  · refine ⟨hyields.1, ?_⟩
    rintro _ ⟨⟩
  · refine ⟨hyields.1, ?_⟩
    rintro _ ⟨rfl⟩ _ ⟨rfl⟩
    exact hyields.2 a rfl

namespace ProviderRegistry

omit [Externals] in
theorem yields_generate (name : String) (h : w.caches = caches) :
    wp (generate name prompt) (Yields caches fun labels => Generated prompt labels name)
      labels w := by
  refine Op.wp_bind (Op.wp_stmt (Op.andThen_ok ?_))
  cases w.providers.answer w.providers.requests.length with
  | error message => exact Op.wp_fail (yields_error h)
  | ok response =>
      refine Op.wp_bind (Op.wp_stmt (Op.andThen_ok (Op.wp_pure ⟨h, ?_⟩)))
      rintro _ ⟨rfl⟩
      exact List.mem_append_right _ List.mem_cons_self

variable (models : Lib.SortedMap String ModelProviderConfig)

omit [Externals] in
theorem yields_generateWithProvider (provider : String) (h : w.caches = caches) :
    wp (generateWithProvider models provider prompt)
      (Yields caches fun labels => Generated prompt labels provider) labels w := by
  exact wp_provider models (yields_generate provider h) fun message => yields_error h

/-- The first provider of the order that responds is one of the order. -/
def FoundIn (prompt : String) (order : List String) (labels : List Event)
    (found : String × String) : Prop :=
  found.1 ∈ order ∧ Generated prompt labels found.1 found.2

omit [Externals] in
theorem yields_routeFrom (order : List String) {errors : List String} (h : w.caches = caches) :
    wp (routeFrom models prompt errors order) (Yields caches (FoundIn prompt order))
      labels w := by
  induction order generalizing errors labels w with
  | nil =>
      simp only [routeFrom]
      split <;> exact Op.wp_fail (yields_error h)
  | cons name rest ih =>
      have hlater : ∀ {labels w errors}, w.caches = caches →
          wp (routeFrom models prompt errors rest) (Yields caches (FoundIn prompt (name :: rest)))
            labels w := fun h =>
        Lib.wp_mono (ih h) fun _ _ _ hrest =>
          ⟨hrest.1, fun a ha => (hrest.2 a ha).imp_left (List.mem_cons_of_mem _)⟩
      simp only [routeFrom]
      split
      · refine Op.wp_bind (Lib.wp_mono (yields_attempt (yields_generate name h)) ?_)
        rintro labels (fault | message | response) w ⟨hcaches, hgenerated⟩
        · exact yields_error hcaches
        · exact Op.andThen_ok (hlater hcaches)
        · refine Op.andThen_ok (Op.wp_pure ⟨hcaches, ?_⟩)
          rintro _ ⟨rfl⟩
          exact ⟨List.mem_cons_self, hgenerated _ rfl response rfl⟩
      · exact hlater h

end ProviderRegistry

namespace Orchestrator

variable (orchestrator : Orchestrator)

open ProviderRegistry (yields_generateWithProvider yields_routeFrom)

/-- A result that a provider of the route has returned. -/
def IsFrom (prompt : String) (route : List String) (labels : List Event)
    (result : OrchestrationResult) : Prop :=
  result.provider ∈ route ∧ Generated prompt labels result.provider result.response

omit [Externals] in
theorem yields_generateLive (route : List String) (h : w.caches = caches) :
    wp (orchestrator.generateLive route prompt) (Yields caches (IsFrom prompt route))
      labels w := by
  simp only [generateLive]
  cases hdraft : (if orchestrator.config.orchestration.speculativeEnabled then
    orchestrator.draftProvider route else none) with
  | none =>
      refine Op.wp_bind (Lib.wp_mono (yields_routeFrom _ route h) ?_)
      rintro labels (fault | found) w ⟨hcaches, hfound⟩
      · exact yields_error hcaches
      · refine Op.andThen_ok (Op.wp_pure ⟨hcaches, ?_⟩)
        rintro _ ⟨rfl⟩
        exact hfound found rfl
  | some draftName =>
      have hmem : draftName ∈ route := by
        split at hdraft
        · exact List.mem_of_find?_eq_some hdraft
        · cases hdraft
      refine Op.wp_bind (Lib.wp_mono (yields_attempt
        (yields_generateWithProvider _ draftName h)) ?_)
      rintro labels₁ (fault | draft) w₁ ⟨hcaches, hdraft⟩
      · exact yields_error hcaches
      refine Op.andThen_ok (Op.wp_bind (Lib.wp_mono (Lib.wp_extends (yields_attempt
        (yields_routeFrom _ route hcaches))) ?_))
      rintro labels₂ (fault | target) w₂ ⟨⟨hcaches, htarget⟩, hlabels⟩
      · exact yields_error hcaches
      cases target with
      | ok found =>
          refine Op.andThen_ok (Op.wp_pure ⟨hcaches, ?_⟩)
          rintro _ ⟨rfl⟩
          exact htarget _ rfl found rfl
      | error message =>
          cases draft with
          | error _ => exact Op.andThen_ok (Op.wp_fail (yields_error hcaches))
          | ok response =>
              refine Op.andThen_ok (Op.wp_pure ⟨hcaches, ?_⟩)
              rintro _ ⟨rfl⟩
              exact ⟨hmem, hlabels.subset (hdraft _ rfl response rfl)⟩

end Orchestrator

end

/-! ## Hits of the semantic cache -/

/-- The first record that a query returns has the greatest score. -/
theorem wp_queryMemory_best {query : MemoryQuery} {encryption : EncryptionManager}
    {labels : List Event} {w : World} :
    wp (StateStore.queryMemory query encryption) (fun _ r _ => ∀ records, r = .ok records →
      ∀ row ∈ (Lib.Table.descending (fun row => stamp row.createdAt)
        (w.vectorMemory.filter (·.nameSpace == query.nameSpace))).take 256,
          ∃ first, records.head? = some first ∧
            similarity (fingerprint query.query) row.fingerprint ≤ first.score) labels w := by
  refine Op.wp_guarded fun records hr row hrow => ?_
  rw [View.result_run] at hr
  obtain ⟨rows, hrows, hrest⟩ := Stmt.result_bind_ok hr
  obtain ⟨found, hfound, hrest⟩ := Stmt.result_bind_ok hrest
  have hread := Stmt.select_ok hrows
  cases hmap : rows.mapM (StateStore.memoryRecord encryption (fingerprint query.query)) with
  | error message =>
      rw [hmap] at hfound
      cases hfound
  | ok all =>
      rw [hmap] at hfound
      cases hfound
      cases hrest
      rw [hread] at hmap
      obtain ⟨record, hrecord, hrecorded⟩ := Table.exists_of_mapM_ok hmap hrow
      obtain ⟨first, hfirst, hbest⟩ := Lib.Table.head_descending MemoryRecord.score hrecord
      refine ⟨first, ?_, memoryRecord_score hrecorded ▸ hbest⟩
      rw [List.head?_take, if_neg (by omega)]
      exact hfirst

namespace Orchestrator

variable (orchestrator : Orchestrator) {prompt : String} {labels : List Event} {start w : World}

/-- The semantic tier misses only if no memory is close to the prompt. -/
theorem missed_semanticTier (hmemory : w.vectorMemory = start.vectorMemory) :
    wp (orchestrator.semanticTier prompt) (fun _ r _ => r = .ok none →
      ¬ orchestrator.SemanticHit start prompt) labels w := by
  simp only [semanticTier]
  cases hflag : orchestrator.config.orchestration.semanticCacheEnabled with
  | false => exact Op.wp_pure fun _ hhit => absurd hhit.1 (by simp [hflag])
  | true =>
      refine Op.wp_bind (Lib.wp_mono wp_queryMemory_best ?_)
      rintro labels (fault | cached) w hbest
      · rintro ⟨⟩
      · refine Op.andThen_ok ?_
        cases hhead : cached.head? with
        | none =>
            refine Op.wp_pure ?_
            rintro - ⟨-, -, -, row, hrow, -⟩
            obtain ⟨first, hfirst, -⟩ := hbest cached rfl row (hmemory ▸ hrow)
            rw [hhead] at hfirst
            cases hfirst
        | some entry =>
            by_cases hnear : 23 / 25 ≤ entry.score
            · simp only [hnear, if_true]
              refine Op.wp_pure ?_
              rintro ⟨⟩
            · simp only [hnear, if_false]
              refine Op.wp_pure ?_
              rintro - ⟨-, -, -, row, hrow, hclose⟩
              obtain ⟨first, hfirst, hscore⟩ := hbest cached rfl row (hmemory ▸ hrow)
              rw [hhead] at hfirst
              cases hfirst
              exact hnear (le_trans hclose hscore)

/-! ## Where a result comes from -/

/-- The row of the exact or the prefix cache that answers the prompt. -/
def cachedRow (w : World) (prompt : String) : Option CacheRow :=
  (orchestrator.exactRow w prompt).or (orchestrator.prefixRow w prompt)

/-- Where a result comes from, and what a call has found before it. -/
inductive Origin (prompt : String) (route : List String) (start : World) (labels : List Event) :
    OrchestrationResult → Prop where
  | cached (row : CacheRow) (tier : String)
      (found : orchestrator.cachedRow start prompt = some row) :
      Origin prompt route start labels ⟨row.provider, row.response, tier⟩
  | semantic (content : String) (hit : orchestrator.SemanticHit start prompt) :
      Origin prompt route start labels ⟨"semantic-cache", content, "semantic"⟩
  | live (result : OrchestrationResult) (missed : orchestrator.cachedRow start prompt = none)
      (far : ¬ orchestrator.SemanticHit start prompt) (found : IsFrom prompt route labels result) :
      Origin prompt route start labels result

/-- What a call returns, and what it fills the caches with. -/
structure Routed (prompt : String) (route : List String) (start : World) (labels : List Event)
    (r : Except Fault OrchestrationResult) (w : World) : Prop where
  origin : ∀ result, r = .ok result → orchestrator.Origin prompt route start labels result
  promptCache : ∀ row ∈ w.caches.promptCache, row ∈ start.caches.promptCache ∨
    Generated prompt labels row.provider row.response
  prefixCache : ∀ row ∈ w.caches.prefixCache, row ∈ start.caches.prefixCache ∨
    Generated prompt labels row.provider row.response

variable {route : List String}

/-- A call that has only read. -/
theorem routed_of_reading {r : Except Fault OrchestrationResult} (h : w.caches = start.caches)
    (horigin : ∀ result, r = .ok result → orchestrator.Origin prompt route start labels result) :
    orchestrator.Routed prompt route start labels r w := by
  refine ⟨horigin, fun row hrow => Or.inl ?_, fun row hrow => Or.inl ?_⟩
  · rwa [h] at hrow
  · rwa [h] at hrow

/-- A source that has shown nothing is a row or a memory. -/
theorem Source.origin {result : OrchestrationResult}
    (h : orchestrator.Source prompt start labels result) (hquiet : OnlyQuiet labels) :
    orchestrator.Origin prompt route start labels result := by
  cases h with
  | cachedExact row found => exact .cached row _ (by rw [cachedRow, found]; rfl)
  | cachedPrefix row missed found => exact .cached row _ (by rw [cachedRow, missed, found]; rfl)
  | cachedSemantic content hit => exact .semantic content hit
  | live result responded tier => exact absurd responded (hquiet.not_responded _ _)

/-- The stores of a live response return it, if they return. -/
theorem wp_stores_returns (result : OrchestrationResult) :
    wp (do
        orchestrator.storeExact prompt result
        orchestrator.storePrefix prompt result
        orchestrator.storeSemantic prompt result
        return result : EngineOp OrchestrationResult)
      (fun _ r _ => ∀ stored, r = .ok stored → stored = result) labels w := by
  have hend : ∀ labels w, wp (Pure.pure result : EngineOp OrchestrationResult)
      (fun _ r _ => ∀ stored, r = .ok stored → stored = result) labels w := by
    intro labels w
    refine Op.wp_pure ?_
    rintro _ ⟨rfl⟩
    rfl
  refine Op.wp_bind (Lib.wp_any ?_)
  rintro labels (fault | _) w
  · exact nofun
  refine Op.andThen_ok (Op.wp_bind (Lib.wp_any ?_))
  rintro labels (fault | _) w
  · exact nofun
  refine Op.andThen_ok (Op.wp_bind (Lib.wp_any ?_))
  rintro labels (fault | _) w
  · exact nofun
  exact Op.andThen_ok (hend labels w)

theorem routed_stores {result : OrchestrationResult} (h : w.caches = start.caches)
    (hfound : IsFrom prompt route labels result)
    (hmissed : orchestrator.cachedRow start prompt = none)
    (hfar : ¬ orchestrator.SemanticHit start prompt) :
    wp (do
        orchestrator.storeExact prompt result
        orchestrator.storePrefix prompt result
        orchestrator.storeSemantic prompt result
        return result : EngineOp OrchestrationResult)
      (orchestrator.Routed prompt route start) labels w := by
  have hfills : wp (do
        orchestrator.storeExact prompt result
        orchestrator.storePrefix prompt result
        orchestrator.storeSemantic prompt result
        return result : EngineOp OrchestrationResult)
      (fun _ _ w' => CachesFrom result.provider result.response w.caches w'.caches) labels w :=
    Lib.wp_of_acts (R := fun w w' => CachesFrom result.provider result.response w.caches w'.caches)
      (Q := fun _ => True) (fun w => .refl _) (fun _ _ _ => .trans _ _ _)
      (fun _ _ he => ⟨trivial, he.caches⟩) (orchestrator.fills_stores prompt result)
      fun _ _ _ _ hcaches => hcaches
  refine Lib.wp_mono (Lib.wp_extends (Lib.wp_and hfills
    (orchestrator.wp_stores_returns result))) ?_
  rintro labels' r w' ⟨⟨hcaches, hreturns⟩, hlabels⟩
  have hgenerated : Generated prompt labels' result.provider result.response :=
    hlabels.subset hfound.2
  constructor
  · intro stored hstored
    cases hreturns stored hstored
    exact .live result hmissed hfar ⟨hfound.1, hgenerated⟩
  · intro row hrow
    rcases hcaches.promptCache row hrow with hold | ⟨hprovider, hresponse⟩
    · exact Or.inl (h ▸ hold)
    · rw [hprovider, hresponse]
      exact Or.inr hgenerated
  · intro row hrow
    rcases hcaches.prefixCache row hrow with hold | ⟨hprovider, hresponse⟩
    · exact Or.inl (h ▸ hold)
    · rw [hprovider, hresponse]
      exact Or.inr hgenerated

/-- A tier that fails or answers has only read. -/
theorem Tried.routed {missed : Prop} {r : Except Fault (Option OrchestrationResult)}
    (h : orchestrator.Tried prompt start missed labels r w) (hquiet : OnlyQuiet labels)
    {r' : Except Fault OrchestrationResult}
    (hr : ∀ result, r' = .ok result → r = .ok (some result)) :
    orchestrator.Routed prompt route start labels r' w :=
  orchestrator.routed_of_reading h.reading.caches fun result hresult =>
    (h.source result (hr result hresult)).origin orchestrator hquiet

theorem wp_generateWithRoute_routed (prompt : String) (priority : QueuePriority)
    (route : List String) (start : World) :
    wp (orchestrator.generateWithRoute prompt priority route)
      (orchestrator.Routed prompt (orchestrator.liveRoute priority route) start) [] start := by
  have hquiet : OnlyQuiet [] := fun _ => nofun
  have hstart : Reading prompt start [] start := ⟨Progress.start_self prompt start, rfl, rfl⟩
  refine Op.wp_bind (Lib.wp_mono (Lib.wp_and (orchestrator.wp_exactTier hstart)
    (orchestrator.looked_exactTier hquiet (sent_zero start))) ?_)
  rintro labels (fault | _ | result) w₁ ⟨htried, hquiet, hsent⟩
  · exact htried.routed _ hquiet nofun
  · have hexact := htried.missed rfl
    refine Op.andThen_ok (Op.wp_bind (Lib.wp_mono (Lib.wp_and
      (orchestrator.wp_prefixTier htried.reading hexact)
      (orchestrator.looked_prefixTier hquiet (hsent rfl))) ?_))
    rintro labels (fault | _ | result) w₂ ⟨htried, hquiet, hsent⟩
    · exact htried.routed _ hquiet nofun
    · have hlonger := htried.missed rfl
      refine Op.andThen_ok (Op.wp_bind (Lib.wp_mono (Lib.wp_and (Lib.wp_and
        (orchestrator.wp_semanticTier htried.reading hexact hlonger)
        (orchestrator.looked_semanticTier hquiet (hsent rfl)))
        (orchestrator.missed_semanticTier htried.reading.vectorMemory)) ?_))
      rintro labels (fault | _ | result) w₃ ⟨⟨htried, hquiet, -⟩, hfar⟩
      · exact htried.routed _ hquiet nofun
      · have hmissed : orchestrator.cachedRow start prompt = none := by
          rw [cachedRow, hexact, hlonger]
          rfl
        refine Op.andThen_ok (Op.wp_bind (Lib.wp_mono (orchestrator.yields_generateLive
          (orchestrator.liveRoute priority route) htried.reading.caches) ?_))
        rintro labels (fault | result) w₄ ⟨hcaches, hfound⟩
        · exact orchestrator.routed_of_reading hcaches nofun
        · exact Op.andThen_ok (orchestrator.routed_stores hcaches (hfound result rfl) hmissed
            (hfar rfl))
      · exact Op.andThen_ok (Op.wp_pure (htried.routed _ hquiet fun _ h => by cases h; rfl))
    · exact Op.andThen_ok (Op.wp_pure (htried.routed _ hquiet fun _ h => by cases h; rfl))
  · exact Op.andThen_ok (Op.wp_pure (htried.routed _ hquiet fun _ h => by cases h; rfl))

end Orchestrator

/-! ## Histories -/

/-- A provider has returned the response in a call. -/
def GenerateCall.Produces (orchestrator : Orchestrator) (call : GenerateCall) (w : World)
    (provider response : String) : Prop :=
  Generated call.prompt (call.events orchestrator w) provider response

theorem GenerateCall.routed (orchestrator : Orchestrator) (call : GenerateCall) (w : World) :
    orchestrator.Routed call.prompt (orchestrator.liveRoute call.priority call.route) w
      (call.events orchestrator w) (call.result orchestrator w) (call.after orchestrator w) :=
  orchestrator.wp_generateWithRoute_routed call.prompt call.priority call.route w

namespace Orchestrator

variable (orchestrator : Orchestrator)

/-- An earlier call of the history has left a world with the property, in which a
provider has returned the response. -/
def Earlier (w : World) (provider response : String) (left : World → Prop) : Prop :=
  ∃ (before : World) (call : GenerateCall) (calls : List GenerateCall),
    orchestrator.system.Reachable before ∧
    call.Produces orchestrator before provider response ∧ left (call.after orchestrator before) ∧
      orchestrator.system.Run (call.after orchestrator before) calls w

/-- The row was filled by an earlier call, with the response of its provider. -/
def Filled (w : World) (row : CacheRow) : Prop :=
  orchestrator.Earlier w row.provider row.response fun left =>
    row ∈ left.caches.promptCache ∨ row ∈ left.caches.prefixCache

/-- Each row of the caches was filled by an earlier call. -/
structure AllFilled (w : World) : Prop where
  promptCache : ∀ row ∈ w.caches.promptCache, orchestrator.Filled w row
  prefixCache : ∀ row ∈ w.caches.prefixCache, orchestrator.Filled w row

variable {orchestrator} {w : World}

theorem Earlier.next {provider response : String} {left : World → Prop}
    (h : orchestrator.Earlier w provider response left) (call : GenerateCall) :
    orchestrator.Earlier (call.after orchestrator w) provider response left := by
  obtain ⟨before, earlier, calls, hreach, hproduces, hleft, hrun⟩ := h
  exact ⟨before, earlier, calls ++ [call], hreach, hproduces, hleft, hrun.append (.single rfl)⟩

theorem Filled.of_step {row : CacheRow} {call : GenerateCall} {rows : List CacheRow}
    (hreach : orchestrator.system.Reachable w) (hrows : ∀ row ∈ rows, orchestrator.Filled w row)
    (hleft : row ∈ (call.after orchestrator w).caches.promptCache ∨
      row ∈ (call.after orchestrator w).caches.prefixCache)
    (hrow : row ∈ rows ∨ call.Produces orchestrator w row.provider row.response) :
    orchestrator.Filled (call.after orchestrator w) row := by
  rcases hrow with hold | hproduces
  · exact (hrows row hold).next call
  · exact ⟨w, call, [], hreach, hproduces, hleft, .nil _⟩

theorem allFilled_reachable (h : orchestrator.system.Reachable w) : orchestrator.AllFilled w := by
  refine (h.invariant (P := fun w => orchestrator.system.Reachable w ∧ orchestrator.AllFilled w)
    ?_ ?_).2
  · rintro start hinit
    exact ⟨.of_init hinit, by simp [hinit.1], by simp [hinit.1]⟩
  · rintro w call _ rfl ⟨hreach, hfilled⟩
    have hrouted := call.routed orchestrator w
    refine ⟨hreach.step rfl, fun row hrow => ?_, fun row hrow => ?_⟩
    · exact .of_step hreach hfilled.promptCache (Or.inl hrow) (hrouted.promptCache row hrow)
    · exact .of_step hreach hfilled.prefixCache (Or.inr hrow) (hrouted.prefixCache row hrow)

theorem AllFilled.cachedRow {prompt : String} {row : CacheRow} (h : orchestrator.AllFilled w)
    (hrow : orchestrator.cachedRow w prompt = some row) : orchestrator.Filled w row := by
  rcases Option.or_eq_some_iff.mp hrow with hexact | ⟨-, hlonger⟩
  · exact h.promptCache row (mem_of_exactRow hexact).1
  · exact h.prefixCache row (mem_of_prefixRow hlonger)

variable (orchestrator) in
/-- A provider of the route has returned the response: in this call, or in the
earlier call that filled the entry that answers.  The result names it. -/
def FromRoute (w : World) (call : GenerateCall) (result : OrchestrationResult) : Prop :=
  result.provider ∈ call.route ∧
    (call.Produces orchestrator w result.provider result.response ∨
      (∃ row, orchestrator.cachedRow w call.prompt = some row ∧ orchestrator.Filled w row ∧
        row.provider = result.provider ∧ row.response = result.response) ∨
      orchestrator.SemanticHit w call.prompt ∧
        orchestrator.Earlier w result.provider result.response fun _ => True)

variable (orchestrator) in
/-- The entry that answers, if there is one, is a row that a provider of the route
has filled. -/
structure InRoute (w : World) (call : GenerateCall) : Prop where
  cached : ∀ row, orchestrator.cachedRow w call.prompt = some row → row.provider ∈ call.route
  far : ¬ orchestrator.SemanticHit w call.prompt

end Orchestrator

/-- In every history a response comes from the requested route if the row that
answers is from a provider of the route and the semantic cache does not answer.
It does not come from there otherwise, unless the name of the semantic cache is on
the route. -/
theorem response_from_route {orchestrator : Orchestrator} {w : World} {call : GenerateCall}
    {result : OrchestrationResult} (hreach : orchestrator.system.Reachable w)
    (hroute : call.route ≠ []) (hresult : call.result orchestrator w = .ok result) :
    (orchestrator.InRoute w call → orchestrator.FromRoute w call result) ∧
      ("semantic-cache" ∉ call.route → orchestrator.FromRoute w call result →
        orchestrator.InRoute w call) := by
  have hlive : orchestrator.liveRoute call.priority call.route = call.route :=
    if_neg (by simpa using hroute)
  have horigin := (call.routed orchestrator w).origin result hresult
  rw [hlive] at horigin
  cases horigin with
  | cached row tier found =>
      have hfilled := (Orchestrator.allFilled_reachable hreach).cachedRow found
      refine ⟨fun hin => ?_, fun _ hfrom => ⟨fun other hother => ?_, fun hhit => ?_⟩⟩
      · exact ⟨hin.cached row found, Or.inr (Or.inl ⟨row, found, hfilled, rfl, rfl⟩)⟩
      · cases found.symm.trans hother
        exact hfrom.1
      · rw [Orchestrator.cachedRow, hhit.2.1, hhit.2.2.1] at found
        cases found
  | semantic content hit =>
      exact ⟨fun hin => absurd hit hin.far, fun hname hfrom => absurd hfrom.1 hname⟩
  | live result missed far found =>
      refine ⟨fun _ => ⟨found.1, Or.inl found.2⟩, fun _ _ => ⟨fun row hrow => ?_, far⟩⟩
      rw [missed] at hrow
      cases hrow

end

/-- The world after a call on a route. -/
def routedWorld : World :=
  @GenerateCall.after jsonExternals prefixOrchestrator ⟨"hi", .interactive, ["ollama"]⟩
    referenceWorld

theorem routedWorld_reachable :
    (@Orchestrator.system jsonExternals prefixOrchestrator).Reachable routedWorld := by
  have hstart : (@Orchestrator.system jsonExternals prefixOrchestrator).Reachable
      referenceWorld := .of_init ⟨rfl, rfl, rfl⟩
  exact hstart.step rfl

/-- The next call gets the cached response of the first one, on the same route and on another. -/
theorem routedWorld_cached :
    (∀ route ∈ [["ollama"], ["llamacpp"]],
      @GenerateCall.result jsonExternals prefixOrchestrator ⟨"hi", .interactive, route⟩
        routedWorld = .ok ⟨"ollama", "hello", "prefix"⟩) ∧
      (@Orchestrator.cachedRow jsonExternals prefixOrchestrator routedWorld "hi").map
        CacheRow.provider = some "ollama" := by
  decide +kernel

/-- The response comes from the route that the first call was on, and from no other. -/
theorem response_from_route_second :
    @Orchestrator.FromRoute jsonExternals prefixOrchestrator routedWorld
        ⟨"hi", .interactive, ["ollama"]⟩ ⟨"ollama", "hello", "prefix"⟩ ∧
      ¬ @Orchestrator.FromRoute jsonExternals prefixOrchestrator routedWorld
        ⟨"hi", .interactive, ["llamacpp"]⟩ ⟨"ollama", "hello", "prefix"⟩ := by
  obtain ⟨hresult, hprovider⟩ := routedWorld_cached
  obtain ⟨row, hrow, hname⟩ := Option.map_eq_some_iff.mp hprovider
  constructor
  · refine (@response_from_route jsonExternals _ _ ⟨"hi", .interactive, ["ollama"]⟩ _
      routedWorld_reachable nofun (hresult _ (by simp))).1
      (@Orchestrator.InRoute.mk jsonExternals _ _ _ (fun row' hrow' => ?_) fun hhit => ?_)
    · cases hrow.symm.trans hrow'
      exact hname ▸ List.mem_singleton_self _
    · cases hhit.1
  · intro hfrom
    have hin := (@response_from_route jsonExternals _ _ ⟨"hi", .interactive, ["llamacpp"]⟩ _
      routedWorld_reachable nofun (hresult _ (by simp))).2 (by decide) hfrom
    have hmem := @Orchestrator.InRoute.cached jsonExternals _ _ _ hin row hrow
    rw [hname] at hmem
    exact absurd hmem (by decide)

/-- A call on another route gets the cached response of the first one. -/
theorem response_from_route_fails :
    ¬ ∀ [Externals] {orchestrator : Orchestrator} {w : World} {call : GenerateCall}
      {result : OrchestrationResult}, orchestrator.system.Reachable w → call.route ≠ [] →
        call.result orchestrator w = .ok result → orchestrator.FromRoute w call result := by
  intro h
  have hstart : (@Orchestrator.system jsonExternals prefixOrchestrator).Reachable
      referenceWorld :=
    .of_init ⟨rfl, rfl, rfl⟩
  have hfrom := @h jsonExternals prefixOrchestrator
    (@GenerateCall.after jsonExternals prefixOrchestrator ⟨"hi", .interactive, ["ollama"]⟩
      referenceWorld)
    ⟨"hi", .interactive, ["llamacpp"]⟩ ⟨"ollama", "hello", "prefix"⟩ (hstart.step rfl) nofun
    (by decide)
  exact absurd hfrom.1 (by decide)

end OpenPinch
