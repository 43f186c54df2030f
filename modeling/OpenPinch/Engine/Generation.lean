import OpenPinch.Engine.RuntimeRules

/-!
# What the orchestrator returns

`Source` lists where a result comes from: a row of the exact or the prefix
cache, a memory that is close to the prompt, or a provider that was asked for
this prompt.  `wp_generateWithRoute` says that each result has a source, and
that the rows it stores are those of a provider's response to the prompt.
-/

namespace OpenPinch

open Lib (Op wp Table.mem_of_mapM_ok)
open Lib.Op (after result)

/-! ## Texts of providers -/

/-- A provider has returned the text to a request so far. -/
def World.ProviderText (w : World) (text : String) : Prop :=
  ∃ n < w.providers.requests.length, w.providers.answer n = .ok text

/-- A provider has returned the response to the prompt. -/
def Responded (prompt : String) (labels : List Event) (response : String) : Prop :=
  ∃ provider, .generated provider prompt response ∈ labels

/-- Only what the surroundings were asked is different. -/
def World.Reads (w w' : World) : Prop := ∃ around, w' = { w with around := around }

section

variable [Externals]

/-- What has happened in a call for a prompt: rows that were stored answer the
prompt, and responses are texts of the providers. -/
structure Progress (prompt : String) (start : World) (labels : List Event) (w : World) :
    Prop where
  promptCache : ∀ row ∈ w.caches.promptCache, row ∈ start.caches.promptCache ∨
    row.key = promptHash prompt ∧ Responded prompt labels row.response
  prefixCache : ∀ row ∈ w.caches.prefixCache, row ∈ start.caches.prefixCache ∨
    Orchestrator.prefixKey prompt = some row.key ∧ Responded prompt labels row.response
  answer : w.providers.answer = start.providers.answer
  requests : start.providers.requests.length ≤ w.providers.requests.length
  texts : ∀ response, Responded prompt labels response → w.ProviderText response

namespace Progress

variable {prompt : String} {start w w' : World} {labels : List Event}

theorem start_self (prompt : String) (w : World) : Progress prompt w [] w where
  promptCache _ := Or.inl
  prefixCache _ := Or.inl
  answer := rfl
  requests := Nat.le_refl _
  texts := by
    rintro response ⟨provider, hmem⟩
    exact absurd hmem List.not_mem_nil

omit [Externals] in
theorem responded_append {more : List Event} {response : String}
    (h : Responded prompt labels response) : Responded prompt (labels ++ more) response :=
  h.imp fun _ => List.mem_append_left _

omit [Externals] in
theorem responded_mono {labels' : List Event} (h : labels <+: labels') {response : String}
    (hresponse : Responded prompt labels response) : Responded prompt labels' response :=
  hresponse.imp fun _ hmem => h.subset hmem

omit [Externals] in
theorem responded_quiet {more : List Event} (hmore : ∀ e ∈ more, e = .quiet)
    {response : String} (h : Responded prompt (labels ++ more) response) :
    Responded prompt labels response := by
  obtain ⟨provider, hmem⟩ := h
  rcases List.mem_append.mp hmem with hbefore | hnow
  · exact ⟨provider, hbefore⟩
  · cases hmore _ hnow

/-- Quiet steps that leave the caches alone and may ask more requests. -/
theorem quiet (h : Progress prompt start labels w) {more : List Event}
    (hmore : ∀ e ∈ more, e = .quiet) (hcaches : w'.caches = w.caches)
    (hanswer : w'.providers.answer = w.providers.answer)
    (hrequests : w.providers.requests.length ≤ w'.providers.requests.length) :
    Progress prompt start (labels ++ more) w' where
  promptCache row hrow := by
    rw [hcaches] at hrow
    exact (h.promptCache row hrow).imp_right (And.imp_right responded_append)
  prefixCache row hrow := by
    rw [hcaches] at hrow
    exact (h.prefixCache row hrow).imp_right (And.imp_right responded_append)
  answer := hanswer.trans h.answer
  requests := h.requests.trans hrequests
  texts response hresponse := by
    obtain ⟨n, hn, hanswered⟩ := h.texts response (responded_quiet hmore hresponse)
    exact ⟨n, hn.trans_le hrequests, hanswer ▸ hanswered⟩

theorem reads (h : Progress prompt start labels w) (hreads : w.Reads w') :
    Progress prompt start (labels ++ [.quiet]) w' := by
  obtain ⟨around, rfl⟩ := hreads
  exact h.quiet (fun _ => List.mem_singleton.mp) rfl rfl (Nat.le_refl _)

/-- A provider returns a response. -/
theorem responds (h : Progress prompt start labels w) (provider : String) {response : String}
    (htext : w.ProviderText response) :
    Progress prompt start (labels ++ [.generated provider prompt response]) w where
  promptCache row hrow := (h.promptCache row hrow).imp_right (And.imp_right responded_append)
  prefixCache row hrow := (h.prefixCache row hrow).imp_right (And.imp_right responded_append)
  answer := h.answer
  requests := h.requests
  texts other hother := by
    obtain ⟨name, hmem⟩ := hother
    rcases List.mem_append.mp hmem with hbefore | hnow
    · exact h.texts other ⟨name, hbefore⟩
    · cases List.mem_singleton.mp hnow
      exact htext

/-- A response to the prompt is stored. -/
theorem put (h : Progress prompt start labels w)
    (hanswer : w'.providers = w.providers)
    (hdigest : ∀ row ∈ w'.caches.promptCache, row ∈ w.caches.promptCache ∨
      row.key = promptHash prompt ∧ Responded prompt labels row.response)
    (hcut : ∀ row ∈ w'.caches.prefixCache, row ∈ w.caches.prefixCache ∨
      Orchestrator.prefixKey prompt = some row.key ∧ Responded prompt labels row.response) :
    Progress prompt start (labels ++ [.quiet]) w' where
  promptCache row hrow := by
    rcases hdigest row hrow with hold | hnew
    · exact (h.promptCache row hold).imp_right (And.imp_right responded_append)
    · exact Or.inr (hnew.imp_right responded_append)
  prefixCache row hrow := by
    rcases hcut row hrow with hold | hnew
    · exact (h.prefixCache row hold).imp_right (And.imp_right responded_append)
    · exact Or.inr (hnew.imp_right responded_append)
  answer := (congrArg Providers.answer hanswer).trans h.answer
  requests := by
    rw [hanswer]
    exact h.requests
  texts response hresponse := by
    have hbefore := responded_quiet (fun _ => List.mem_singleton.mp) hresponse
    obtain ⟨n, hn, hanswered⟩ := h.texts response hbefore
    exact ⟨n, hanswer ▸ hn, hanswer ▸ hanswered⟩

end Progress

/-! ## Reading -/

/-- The statement leaves the tables as they are. -/
def Stmt.OnlyReads {τ α : Type} (m : Stmt τ α) : Prop := m.Respects Eq

namespace Stmt.OnlyReads

variable {τ α β : Type}

omit [Externals] in
theorem select (f : τ → α) : (Stmt.select f).OnlyReads := Stmt.respects_select (fun _ => rfl) f

omit [Externals] in
theorem ofExcept (r : Except String α) : (Stmt.ofExcept r : Stmt τ α).OnlyReads :=
  Stmt.respects_ofExcept (fun _ => rfl) r

omit [Externals] in
theorem pure (a : α) : (Pure.pure a : Stmt τ α).OnlyReads := Stmt.respects_pure (fun _ => rfl) a

omit [Externals] in
theorem bind {m : Stmt τ α} {f : α → Stmt τ β} (hm : m.OnlyReads) (hf : ∀ a, (f a).OnlyReads) :
    (m >>= f).OnlyReads :=
  Stmt.respects_bind (R := Eq) (S := Eq) (fun _ _ _ => Eq.trans) hm hf

omit [Externals] in
theorem caches {m : Stmt Caches α} (h : m.OnlyReads) (w : World) :
    w.Reads (after (View.caches.run m) w) := by
  refine ⟨(after m (w.around, w.caches)).1, ?_⟩
  rw [View.after_run]
  exact congrArg (fun t => World.mk _ _ _ t _ _ _) (h (w.around, w.caches)).symm

omit [Externals] in
theorem vectorMemory {m : Stmt (List VectorMemoryRow) α} (h : m.OnlyReads) (w : World) :
    w.Reads (after (View.vectorMemory.run m) w) := by
  refine ⟨(after m (w.around, w.vectorMemory)).1, ?_⟩
  rw [View.after_run]
  exact congrArg (fun t => World.mk _ _ _ _ t _ _) (h (w.around, w.vectorMemory)).symm

end Stmt.OnlyReads

omit [Externals] in
theorem wp_readCaches {α : Type} {f : Caches → α}
    {post : List Event → Except Fault α → World → Prop} {labels : List Event} {w : World}
    (h : ∀ r w', w.Reads w' → (∀ a, r = .ok a → a = f w.caches) →
      post (labels ++ [.quiet]) r w') :
    wp (EngineOp.guarded .caches (Stmt.select f)) post labels w := by
  refine Op.wp_guarded (h _ _ ((Stmt.OnlyReads.select f).caches w) fun a ha => ?_)
  rw [View.result_run] at ha
  exact Stmt.select_ok ha

theorem memoryRecord_score {encryption : EncryptionManager} {queryFingerprint : String}
    {row : VectorMemoryRow} {record : MemoryRecord}
    (h : StateStore.memoryRecord encryption queryFingerprint row = .ok record) :
    record.score = similarity queryFingerprint row.fingerprint := by
  simp only [StateStore.memoryRecord] at h
  cases hblob : EncryptedBlob.ofJson? row.encryptedBlobJson with
  | none =>
      rw [hblob] at h
      cases h
  | some blob =>
      cases htext : encryption.decryptText blob with
      | error message =>
          simp only [hblob, htext] at h
          cases h
      | ok content =>
          simp only [hblob, htext] at h
          cases h
          rfl

/-- Each memory that a query returns is scored by a row of its namespace. -/
theorem wp_queryMemory {query : MemoryQuery} {encryption : EncryptionManager}
    {post : List Event → Except Fault (List MemoryRecord) → World → Prop} {labels : List Event}
    {w : World}
    (h : ∀ r w', w.Reads w' → (∀ records, r = .ok records → ∀ record ∈ records,
      ∃ row ∈ (Lib.Table.descending (fun row => stamp row.createdAt)
        (w.vectorMemory.filter (·.nameSpace == query.nameSpace))).take 256,
          record.score = similarity (fingerprint query.query) row.fingerprint) →
      post (labels ++ [.quiet]) r w') :
    wp (StateStore.queryMemory query encryption) post labels w := by
  refine Op.wp_guarded (h _ _ (Stmt.OnlyReads.vectorMemory ?_ w) fun records hr => ?_)
  · exact (Stmt.OnlyReads.select _).bind fun _ => (Stmt.OnlyReads.ofExcept _).bind fun _ =>
      Stmt.OnlyReads.pure _
  · rw [View.result_run] at hr
    obtain ⟨rows, hrows, hrest⟩ := Stmt.result_bind_ok hr
    obtain ⟨found, hfound, hrest⟩ := Stmt.result_bind_ok hrest
    have hread := Stmt.select_ok hrows
    cases hmap : rows.mapM (StateStore.memoryRecord encryption (fingerprint query.query)) with
    | error message =>
        rw [hmap] at hfound
        cases hfound
    | ok all =>
        rw [hmap] at hfound
        cases hfound
        cases hrest
        intro record hrecord
        have hmem : record ∈ found :=
          (List.mem_insertionSort _).mp (List.mem_of_mem_take hrecord)
        obtain ⟨row, hrow, hrecorded⟩ := Table.mem_of_mapM_ok hmap hmem
        rw [hread] at hrow
        exact ⟨row, hrow, memoryRecord_score hrecorded⟩

/-! ## Storing -/

/-- At most rows of the key with the response are new. -/
def Puts (key response : String) (rows rows' : List CacheRow) : Prop :=
  ∀ row ∈ rows', row ∈ rows ∨ row.key = key ∧ row.response = response

omit [Externals] in
theorem puts_upsertOn (new : CacheRow) (rows : List CacheRow) :
    Puts new.key new.response rows (Lib.Table.upsertOn CacheRow.key (fun _ => new) new rows) := by
  intro row hrow
  rcases Lib.Table.mem_of_mem_upsertOn hrow with hold | ⟨_, _, rfl⟩ | rfl
  · exact Or.inl hold
  · exact Or.inr ⟨rfl, rfl⟩
  · exact Or.inr ⟨rfl, rfl⟩

/-- One of the two caches gets a response under a key, and the other stays. -/
def PutsIn (key response : String) (into other : Caches → List CacheRow) (t t' : Caches) : Prop :=
  Puts key response (into t) (into t') ∧ other t' = other t

namespace PutsIn

variable {key response : String} {into other : Caches → List CacheRow}

omit [Externals] in
theorem refl (t : Caches) : PutsIn key response into other t t := ⟨fun _ => Or.inl, rfl⟩

omit [Externals] in
theorem trans (t t' t'' : Caches) (h : PutsIn key response into other t t')
    (h' : PutsIn key response into other t' t'') : PutsIn key response into other t t'' := by
  refine ⟨fun row hrow => ?_, h'.2.trans h.2⟩
  rcases h'.1 row hrow with hbefore | hnew
  · exact h.1 row hbefore
  · exact Or.inr hnew

end PutsIn

omit [Externals] in
theorem cacheExactPut_puts {key provider response : String}
    {post : List Event → Except Fault Unit → World → Prop} {labels : List Event} {w : World}
    (h : ∀ r w', w'.providers = w.providers →
      PutsIn key response Caches.promptCache Caches.prefixCache w.caches w'.caches →
        post (labels ++ [.quiet]) r w') :
    wp (StateStore.cacheExactPut key provider response) post labels w := by
  refine Op.wp_guarded (h _ _ (by rw [View.after_run]; rfl) (View.respects_caches ?_ w))
  refine Stmt.respects_bind PutsIn.trans (Stmt.respects_now PutsIn.refl) fun now => ?_
  exact Stmt.respects_execute PutsIn.refl fun t =>
    ⟨puts_upsertOn ⟨key, provider, response, now⟩ t.promptCache, rfl⟩

omit [Externals] in
theorem cachePrefixPut_puts {key provider response : String}
    {post : List Event → Except Fault Unit → World → Prop} {labels : List Event} {w : World}
    (h : ∀ r w', w'.providers = w.providers →
      PutsIn key response Caches.prefixCache Caches.promptCache w.caches w'.caches →
        post (labels ++ [.quiet]) r w') :
    wp (StateStore.cachePrefixPut key provider response) post labels w := by
  refine Op.wp_guarded (h _ _ (by rw [View.after_run]; rfl) (View.respects_caches ?_ w))
  refine Stmt.respects_bind PutsIn.trans (Stmt.respects_now PutsIn.refl) fun now => ?_
  exact Stmt.respects_execute PutsIn.refl fun t =>
    ⟨puts_upsertOn ⟨key, provider, response, now⟩ t.prefixCache, rfl⟩

/-! ## Requests -/

namespace ProviderRegistry

variable {prompt : String} {start : World}

/-- What a request shows and returns. -/
def Answered (prompt : String) (start : World) {α : Type} (response : α → String)
    (labels : List Event) (r : Except Fault α) (w : World) : Prop :=
  Progress prompt start labels w ∧ ∀ a, r = .ok a → Responded prompt labels (response a)

theorem wp_generate (name : String) {labels : List Event} {w : World}
    (h : Progress prompt start labels w) :
    wp (generate name prompt) (Answered prompt start id) labels w := by
  refine Op.wp_bind (Op.wp_stmt (Op.andThen_ok ?_))
  let asked : World := { w with providers :=
    { w.providers with requests := w.providers.requests ++ [(name, prompt)] } }
  have hasked : Progress prompt start (labels ++ [.quiet]) asked :=
    h.quiet (fun _ => List.mem_singleton.mp) rfl rfl (by simp [asked])
  cases hanswer : w.providers.answer w.providers.requests.length with
  | error message =>
      refine Op.wp_fail ⟨hasked, nofun⟩
  | ok response =>
      have htext : asked.ProviderText response :=
        ⟨w.providers.requests.length, by simp [asked], hanswer⟩
      refine Op.wp_bind (Op.wp_stmt (Op.andThen_ok (Op.wp_pure ⟨?_, ?_⟩)))
      · exact hasked.responds name htext
      · rintro _ ⟨rfl⟩
        exact ⟨name, List.mem_append_right _ (List.mem_singleton.mpr rfl)⟩

/-- The outcome of a request as a value. -/
theorem wp_attempted {α : Type} {response : α → String} {p : EngineOp α} {labels : List Event}
    {w : World} (h : wp p (Answered prompt start response) labels w) :
    wp (EngineOp.attempt p) (fun labels r w => Progress prompt start labels w ∧
      ∀ a, r = .ok (.ok a) → Responded prompt labels (response a)) labels w := by
  refine EngineOp.wp_attempt (Lib.wp_mono h fun labels r w hanswered => ?_)
  cases r with
  | ok a =>
      refine ⟨hanswered.1, ?_⟩
      rintro _ ⟨rfl⟩
      exact hanswered.2 a rfl
  | error fault =>
      cases fault with
      | error message => exact ⟨hanswered.1, nofun⟩
      | panic => exact ⟨hanswered.1, nofun⟩

variable (models : Lib.SortedMap String ModelProviderConfig)

theorem wp_generateWithProvider (provider : String) {labels : List Event} {w : World}
    (h : Progress prompt start labels w) :
    wp (generateWithProvider models provider prompt) (Answered prompt start id) labels w := by
  refine wp_provider models (wp_generate provider h) fun message => ⟨h, ?_⟩
  rintro _ ⟨⟩

theorem wp_routeFrom (order : List String) {errors : List String} {labels : List Event}
    {w : World} (h : Progress prompt start labels w) :
    wp (routeFrom models prompt errors order) (Answered prompt start Prod.snd) labels w := by
  induction order generalizing errors labels w with
  | nil =>
      simp only [routeFrom]
      split
      · exact Op.wp_fail ⟨h, by rintro _ ⟨⟩⟩
      · exact Op.wp_fail ⟨h, by rintro _ ⟨⟩⟩
  | cons name rest ih =>
      simp only [routeFrom]
      split
      · refine Op.wp_bind (Lib.wp_mono (wp_attempted (wp_generate name h)) ?_)
        intro labels answer w₁ hanswered
        cases answer with
        | error fault => exact ⟨hanswered.1, by rintro _ ⟨⟩⟩
        | ok answer =>
            cases answer with
            | error message => exact Op.andThen_ok (ih hanswered.1)
            | ok response =>
                refine Op.andThen_ok (Op.wp_pure ⟨hanswered.1, ?_⟩)
                rintro _ ⟨rfl⟩
                exact hanswered.2 response rfl
      · exact ih h

end ProviderRegistry

/-! ## The tiers -/

namespace Orchestrator

variable (orchestrator : Orchestrator) {prompt : String} {start : World}

/-- The tiers of live responses. -/
def liveTiers : List String := ["live", "live+speculative", "speculative-fallback"]

open ProviderRegistry (wp_attempted wp_generateWithProvider wp_routeFrom)

theorem wp_generateLive (route : List String) {labels : List Event} {w : World}
    (h : Progress prompt start labels w) :
    wp (orchestrator.generateLive route prompt) (fun labels r w =>
      Progress prompt start labels w ∧ ∀ result, r = .ok result →
        Responded prompt labels result.response ∧ result.cacheTier ∈ liveTiers) labels w := by
  simp only [generateLive]
  cases (if orchestrator.config.orchestration.speculativeEnabled then
    orchestrator.draftProvider route else none) with
  | none =>
      refine Op.wp_bind (Lib.wp_mono (wp_routeFrom _ route h) fun labels r w₁ hanswered => ?_)
      cases r with
      | error fault => exact ⟨hanswered.1, nofun⟩
      | ok found =>
          refine Op.andThen_ok (Op.wp_pure ⟨hanswered.1, ?_⟩)
          rintro _ ⟨rfl⟩
          exact ⟨hanswered.2 found rfl, by simp [liveTiers]⟩
  | some draftName =>
      refine Op.wp_bind (Lib.wp_mono (wp_attempted (wp_generateWithProvider _ draftName h)) ?_)
      intro labels draft w₁ hdraft
      cases draft with
      | error fault => exact ⟨hdraft.1, nofun⟩
      | ok draft =>
          refine Op.andThen_ok (Op.wp_bind (Lib.wp_mono (Lib.wp_extends (wp_attempted
            (wp_routeFrom _ route hdraft.1))) ?_))
          rintro labels' target w₂ ⟨htarget, hlabels⟩
          cases target with
          | error fault => exact ⟨htarget.1, nofun⟩
          | ok target =>
              cases target with
              | ok found =>
                  refine Op.andThen_ok (Op.wp_pure ⟨htarget.1, ?_⟩)
                  rintro _ ⟨rfl⟩
                  exact ⟨htarget.2 found rfl, by simp [liveTiers]⟩
              | error message =>
                  cases draft with
                  | error _ => exact Op.andThen_ok (Op.wp_fail ⟨htarget.1, nofun⟩)
                  | ok response =>
                      refine Op.andThen_ok (Op.wp_pure ⟨htarget.1, ?_⟩)
                      rintro _ ⟨rfl⟩
                      exact ⟨Progress.responded_mono hlabels (hdraft.2 response rfl),
                        by simp [liveTiers]⟩

/-- The row of the exact cache that answers the prompt. -/
def exactRow (w : World) (prompt : String) : Option CacheRow :=
  if orchestrator.config.orchestration.exactCacheEnabled then
    w.caches.promptCache.find? fun row => row.key == promptHash prompt
  else none

/-- The row of the prefix cache that answers the prompt. -/
def prefixRow (w : World) (prompt : String) : Option CacheRow :=
  if orchestrator.config.orchestration.prefixCacheEnabled then
    (Lib.Table.descending (fun row => (Lib.Like.cText row.key.toList).length)
      (w.caches.prefixCache.filter (StateStore.prefixMatches prompt))).head?
  else none

/-- The rows that the semantic tier compares with a prompt. -/
def semanticRows (w : World) : List VectorMemoryRow :=
  (Lib.Table.descending (fun row => stamp row.createdAt)
    (w.vectorMemory.filter (·.nameSpace == "semantic-cache"))).take 256

/-- The semantic tier is asked, and some memory is close to the prompt. -/
def SemanticHit (w : World) (prompt : String) : Prop :=
  orchestrator.config.orchestration.semanticCacheEnabled = true ∧
    orchestrator.exactRow w prompt = none ∧ orchestrator.prefixRow w prompt = none ∧
      ∃ row ∈ semanticRows w, 23 / 25 ≤ similarity (fingerprint prompt) row.fingerprint

/-- Where a result comes from. -/
inductive Source (prompt : String) (w : World) (labels : List Event) :
    OrchestrationResult → Prop where
  | cachedExact (row : CacheRow) (found : orchestrator.exactRow w prompt = some row) :
      Source prompt w labels ⟨row.provider, row.response, "exact"⟩
  | cachedPrefix (row : CacheRow) (missed : orchestrator.exactRow w prompt = none)
      (found : orchestrator.prefixRow w prompt = some row) :
      Source prompt w labels ⟨row.provider, row.response, "prefix"⟩
  | cachedSemantic (content : String) (hit : orchestrator.SemanticHit w prompt) :
      Source prompt w labels ⟨"semantic-cache", content, "semantic"⟩
  | live (result : OrchestrationResult) (responded : Responded prompt labels result.response)
      (tier : result.cacheTier ∈ liveTiers) : Source prompt w labels result

/-- The tiers so far have only read. -/
structure Reading (prompt : String) (start : World) (labels : List Event) (w : World) : Prop
    extends Progress prompt start labels w where
  caches : w.caches = start.caches
  vectorMemory : w.vectorMemory = start.vectorMemory

variable {labels : List Event} {w : World}

theorem Reading.reads {w' : World} (h : Reading prompt start labels w) (hreads : w.Reads w') :
    Reading prompt start (labels ++ [.quiet]) w' where
  toProgress := h.toProgress.reads hreads
  caches := by
    obtain ⟨around, rfl⟩ := hreads
    exact h.caches
  vectorMemory := by
    obtain ⟨around, rfl⟩ := hreads
    exact h.vectorMemory

/-- A tier that has answered from its source, or has missed. -/
structure Tried (prompt : String) (start : World) (missed : Prop) (labels : List Event)
    (r : Except Fault (Option OrchestrationResult)) (w : World) : Prop where
  reading : Reading prompt start labels w
  source : ∀ result, r = .ok (some result) → orchestrator.Source prompt start labels result
  missed : r = .ok none → missed

/-- A tier that looks up a stored response answers with its row. -/
theorem wp_cacheTier {enabled : Bool} {lookup : Caches → Option (String × String)}
    {row? : Option CacheRow} {tier : String} (h : Reading prompt start labels w)
    (hrow : (if enabled then lookup start.caches else none) =
      row?.map fun row => (row.provider, row.response))
    (hsource : ∀ labels row, row? = some row →
      orchestrator.Source prompt start labels ⟨row.provider, row.response, tier⟩) :
    wp (do
        if enabled then
          let found ← EngineOp.guarded .caches (Stmt.select lookup)
          return found.map fun (provider, response) => ⟨provider, response, tier⟩
        else return none : EngineOp (Option OrchestrationResult))
      (orchestrator.Tried prompt start (row? = none)) labels w := by
  cases enabled with
  | false =>
      have hnone : row? = none := by simpa using hrow.symm
      refine Op.wp_pure ⟨h, ?_, fun _ => hnone⟩
      rintro _ ⟨⟩
  | true =>
      simp only [if_true] at hrow ⊢
      refine Op.wp_bind (wp_readCaches fun r w' hreads hfound => ?_)
      rw [h.caches, hrow] at hfound
      cases r with
      | error fault =>
          refine ⟨h.reads hreads, ?_, ?_⟩
          · rintro _ ⟨⟩
          · rintro ⟨⟩
      | ok found =>
          rw [hfound found rfl]
          refine Op.andThen_ok (Op.wp_pure ⟨h.reads hreads, ?_, ?_⟩)
          · intro result hresult
            obtain ⟨row, hstored, rfl⟩ : ∃ row, row? = some row ∧
                result = ⟨row.provider, row.response, tier⟩ := by
              simpa [eq_comm] using hresult
            exact hsource _ row hstored
          · intro hnone
            simpa using hnone

theorem wp_exactTier (h : Reading prompt start labels w) :
    wp (orchestrator.exactTier prompt)
      (orchestrator.Tried prompt start (orchestrator.exactRow start prompt = none)) labels w := by
  refine orchestrator.wp_cacheTier h ?_ fun labels row hexact => .cachedExact row hexact
  unfold exactRow StateStore.cacheGet
  split <;> rfl

theorem wp_prefixTier (h : Reading prompt start labels w)
    (hexact : orchestrator.exactRow start prompt = none) :
    wp (orchestrator.prefixTier prompt)
      (orchestrator.Tried prompt start (orchestrator.prefixRow start prompt = none)) labels w := by
  refine orchestrator.wp_cacheTier h ?_ fun labels row hfound => .cachedPrefix row hexact hfound
  unfold prefixRow StateStore.prefixGet
  split <;> rfl

theorem wp_semanticTier (h : Reading prompt start labels w)
    (hexact : orchestrator.exactRow start prompt = none)
    (hlonger : orchestrator.prefixRow start prompt = none) :
    wp (orchestrator.semanticTier prompt) (orchestrator.Tried prompt start True) labels w := by
  simp only [semanticTier]
  cases hflag : orchestrator.config.orchestration.semanticCacheEnabled with
  | false =>
      simp only [Bool.false_eq_true, if_false]
      exact Op.wp_pure ⟨h, nofun, fun _ => trivial⟩
  | true =>
      simp only [if_true]
      refine Op.wp_bind (wp_queryMemory fun r w' hreads hscores => ?_)
      cases r with
      | error fault => exact ⟨h.reads hreads, nofun, nofun⟩
      | ok cached =>
          refine Op.andThen_ok ?_
          cases hhead : cached.head? with
          | none => exact Op.wp_pure ⟨h.reads hreads, nofun, fun _ => trivial⟩
          | some entry =>
              by_cases hnear : 23 / 25 ≤ entry.score
              · simp only [hnear, if_true]
                refine Op.wp_pure ⟨h.reads hreads, ?_, nofun⟩
                intro result hresult
                cases hresult
                obtain ⟨row, hrow, hscore⟩ :=
                  hscores cached rfl entry (List.mem_of_mem_head? hhead)
                rw [h.vectorMemory] at hrow
                exact .cachedSemantic entry.content ⟨hflag, hexact, hlonger, row, hrow,
                  hscore ▸ hnear⟩
              · simp only [hnear, if_false]
                exact Op.wp_pure ⟨h.reads hreads, nofun, fun _ => trivial⟩

/-! ## Storing a live response -/

/-- The same caches and requests. -/
structure SameReplies (w w' : World) : Prop where
  caches : w'.caches = w.caches
  providers : w'.providers = w.providers

omit [Externals] in
theorem SameReplies.refl (w : World) : SameReplies w w := ⟨rfl, rfl⟩

omit [Externals] in
theorem SameReplies.trans (w w' w'' : World) (h : SameReplies w w') (h' : SameReplies w' w'') :
    SameReplies w w'' :=
  ⟨h'.caches.trans h.caches, h'.providers.trans h.providers⟩

theorem wp_storeExact {result : OrchestrationResult} (h : Progress prompt start labels w)
    (hresponded : Responded prompt labels result.response) :
    wp (orchestrator.storeExact prompt result) (fun labels _ w => Progress prompt start labels w)
      labels w := by
  simp only [storeExact]
  split
  · refine cacheExactPut_puts fun r w' hproviders hputs => h.put hproviders ?_ ?_
    · intro row hrow
      rcases hputs.1 row hrow with hold | ⟨hkey, hresponse⟩
      · exact Or.inl hold
      · exact Or.inr ⟨hkey, hresponse ▸ hresponded⟩
    · intro row hrow
      exact Or.inl (hputs.2 ▸ hrow)
  · exact Op.wp_pure h

theorem wp_storePrefix {result : OrchestrationResult} (h : Progress prompt start labels w)
    (hresponded : Responded prompt labels result.response) :
    wp (orchestrator.storePrefix prompt result) (fun labels _ w => Progress prompt start labels w)
      labels w := by
  simp only [storePrefix]
  split
  · cases hkey : prefixKey prompt with
    | none => exact Op.wp_bind (Lib.wp_ret h)
    | some key =>
        refine Op.wp_bind (Lib.wp_ret (Op.andThen_ok ?_))
        refine cachePrefixPut_puts fun r w' hproviders hputs => h.put hproviders ?_ ?_
        · intro row hrow
          exact Or.inl (hputs.2 ▸ hrow)
        · intro row hrow
          rcases hputs.1 row hrow with hold | ⟨hsame, hresponse⟩
          · exact Or.inl hold
          · exact Or.inr ⟨hkey.trans (congrArg some hsame.symm), hresponse ▸ hresponded⟩
  · exact Op.wp_pure h

theorem wp_storeSemantic {result : OrchestrationResult} (h : Progress prompt start labels w) :
    wp (orchestrator.storeSemantic prompt result)
      (fun labels _ w => Progress prompt start labels w) labels w := by
  simp only [storeSemantic]
  split
  · have hmemory := EngineOp.keeps_ignore (StateStore.keeps_upsertMemory "semantic-cache"
      s!"semantic-{promptHash prompt}" (semanticPayload result) "\x7b\x7d"
      orchestrator.encryption)
    refine Lib.wp_of_acts SameReplies.refl SameReplies.trans
      (fun _ _ he => ⟨he.quiet, fun w => ⟨he.caches w, he.providers w⟩⟩) hmemory.acts ?_
    intro more r w' hmore hsame
    exact h.quiet hmore hsame.caches (by rw [hsame.providers]) (by rw [hsame.providers])
  · exact Op.wp_pure h

/-- What a call returns and leaves. -/
structure Served (prompt : String) (start : World) (labels : List Event)
    (r : Except Fault OrchestrationResult) (w : World) : Prop where
  progress : Progress prompt start labels w
  source : ∀ result, r = .ok result → orchestrator.Source prompt start labels result

theorem Tried.served {missed : Prop} {r : Except Fault (Option OrchestrationResult)}
    (h : orchestrator.Tried prompt start missed labels r w) {r' : Except Fault OrchestrationResult}
    (hr : ∀ result, r' = .ok result → r = .ok (some result)) :
    orchestrator.Served prompt start labels r' w :=
  ⟨h.reading.toProgress, fun result hresult => h.source result (hr result hresult)⟩

/-- A live response is stored under the prompt in both caches and in the memory. -/
theorem wp_storeLive {result : OrchestrationResult} (h : Progress prompt start labels w)
    (hresponded : Responded prompt labels result.response) (htier : result.cacheTier ∈ liveTiers) :
    wp (do
        orchestrator.storeExact prompt result
        orchestrator.storePrefix prompt result
        orchestrator.storeSemantic prompt result
        return result : EngineOp OrchestrationResult)
      (orchestrator.Served prompt start) labels w := by
  refine Op.wp_bind (Lib.wp_mono (Lib.wp_extends
    (orchestrator.wp_storeExact h hresponded)) ?_)
  rintro labels₁ r w₁ ⟨h₁, hlabels₁⟩
  rcases r with fault | _
  · exact ⟨h₁, nofun⟩
  have hresponded₁ := Progress.responded_mono hlabels₁ hresponded
  refine Op.andThen_ok (Op.wp_bind (Lib.wp_mono (Lib.wp_extends
    (orchestrator.wp_storePrefix h₁ hresponded₁)) ?_))
  rintro labels₂ r w₂ ⟨h₂, hlabels₂⟩
  rcases r with fault | _
  · exact ⟨h₂, nofun⟩
  have hresponded₂ := Progress.responded_mono hlabels₂ hresponded₁
  refine Op.andThen_ok (Op.wp_bind (Lib.wp_mono (Lib.wp_extends
    (orchestrator.wp_storeSemantic h₂)) ?_))
  rintro labels₃ r w₃ ⟨h₃, hlabels₃⟩
  rcases r with fault | _
  · exact ⟨h₃, nofun⟩
  have hresponded₃ := Progress.responded_mono hlabels₃ hresponded₂
  refine Op.andThen_ok (Op.wp_pure ⟨h₃, ?_⟩)
  rintro _ ⟨rfl⟩
  exact .live result hresponded₃ htier

/-- Each result has a source, and only responses to the prompt are stored. -/
theorem wp_generateWithRoute (prompt : String) (priority : QueuePriority) (route : List String)
    (start : World) :
    wp (orchestrator.generateWithRoute prompt priority route)
      (orchestrator.Served prompt start) [] start := by
  have hstart : Reading prompt start [] start := ⟨Progress.start_self prompt start, rfl, rfl⟩
  refine Op.wp_bind (Lib.wp_mono (orchestrator.wp_exactTier hstart) fun labels r w₁ htried => ?_)
  rcases r with fault | _ | result
  · exact htried.served _ nofun
  · have hexact := htried.missed rfl
    refine Op.andThen_ok (Op.wp_bind (Lib.wp_mono
      (orchestrator.wp_prefixTier htried.reading hexact) fun labels r w₂ htried => ?_))
    rcases r with fault | _ | result
    · exact htried.served _ nofun
    · have hlonger := htried.missed rfl
      refine Op.andThen_ok (Op.wp_bind (Lib.wp_mono
        (orchestrator.wp_semanticTier htried.reading hexact hlonger) fun labels r w₃ htried => ?_))
      rcases r with fault | _ | result
      · exact htried.served _ nofun
      · refine Op.andThen_ok (Op.wp_bind (Lib.wp_mono (orchestrator.wp_generateLive _
          htried.reading.toProgress) fun labels r w₄ hlive => ?_))
        rcases r with fault | result
        · exact ⟨hlive.1, nofun⟩
        · obtain ⟨hresponded, htier⟩ := hlive.2 result rfl
          exact Op.andThen_ok (orchestrator.wp_storeLive hlive.1 hresponded htier)
      · exact Op.andThen_ok (Op.wp_pure (htried.served _ fun _ h => by cases h; rfl))
    · exact Op.andThen_ok (Op.wp_pure (htried.served _ fun _ h => by cases h; rfl))
  · exact Op.andThen_ok (Op.wp_pure (htried.served _ fun _ h => by cases h; rfl))

end Orchestrator

end

end OpenPinch
