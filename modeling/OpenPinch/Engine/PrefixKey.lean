import OpenPinch.Engine.ReplyCache

/-!
# Keeping a live response

A response of a provider is stored under the digest and under the prefix of the
prompt before it is returned.  So it is returned exactly when the database
accepts these two statements, and the prefix does not end inside a character.
-/

namespace OpenPinch

open Lib (Op wp)
open Lib.Op (after result)

/-! ## The prefix of a prompt -/

theorem fromUtf8_isSome_iff (bytes : Bytes) :
    (fromUtf8 bytes).isSome ↔ (⟨bytes.toArray⟩ : ByteArray).IsValidUTF8 := by
  simp only [fromUtf8, String.fromUTF8?]
  split <;> simp_all

/-- The first bytes of a text, as many as it has. -/
theorem take_asBytes (text : String) (n : Nat) :
    (⟨((asBytes text).take n).toArray⟩ : ByteArray) =
      text.toByteArray.extract 0 (min text.utf8ByteSize n) := by
  apply ByteArray.ext
  apply Array.toList_inj.mp
  simp [asBytes, ByteArray.data_extract, Nat.min_comm, List.take_eq_take_iff]

/-- Slicing a prompt panics unless the slice ends between characters. -/
theorem prefixKey_isSome_iff (prompt : String) :
    (Orchestrator.prefixKey prompt).isSome ↔
      IsCharBoundary prompt (min prompt.utf8ByteSize 128) := by
  rw [isCharBoundary_iff, String.Pos.Raw.isValid_iff_isValidUTF8_extract_zero,
    Orchestrator.prefixKey, fromUtf8_isSome_iff, take_asBytes]
  simp [String.Pos.Raw.le_iff]

section

variable [Externals]

/-! ## Statements of a call -/

/-- The statement sends so many SQL statements when it returns. -/
def Stmt.Counts {τ α : Type} (count : Nat) (m : Stmt τ α) : Prop :=
  ∀ s a, result m s = .ok a → (after m s).1.refuses = s.1.refuses ∧
    (after m s).1.statements = s.1.statements + count

namespace Stmt

variable {τ α β : Type} {first second : Nat}

omit [Externals] in
theorem counts_pure (a : α) : (Pure.pure a : Stmt τ α).Counts 0 := fun _ _ _ => ⟨rfl, rfl⟩

omit [Externals] in
theorem counts_ofExcept (r : Except String α) : (ofExcept r : Stmt τ α).Counts 0 := by
  cases r with
  | ok a => exact counts_pure a
  | error message => exact nofun

omit [Externals] in
theorem counts_sql (f : τ → Except String (α × τ)) : (sql f).Counts 1 := by
  intro s a _
  simp only [after, sql]
  cases s.1.refuses s.1.statements with
  | true => exact ⟨rfl, rfl⟩
  | false => cases f s.2 <;> exact ⟨rfl, rfl⟩

omit [Externals] in
theorem counts_bind {m : Stmt τ α} {f : α → Stmt τ β} (hm : m.Counts first)
    (hf : ∀ a, (f a).Counts second) : (m >>= f).Counts (first + second) := by
  intro s b hb
  obtain ⟨a, ha, hrest⟩ := result_bind_ok hb
  have hbefore := hm s a ha
  have hbehind := hf a (after m s) b hrest
  rw [after_bind_ok ha]
  exact ⟨hbehind.1.trans hbefore.1, by rw [hbehind.2, hbefore.2, Nat.add_assoc]⟩

end Stmt

/-- A call has sent so many statements. -/
structure Sent (start : World) (count : Nat) (w : World) : Prop where
  refuses : w.around.refuses = start.around.refuses
  statements : w.around.statements = start.around.statements + count

/-- The database accepts the statement of a call with that number. -/
def World.Accepts (start : World) (number : Nat) : Prop :=
  start.around.refuses (start.around.statements + number) = false

section

variable {start w : World} {count : Nat} {labels : List Event}

omit [Externals] in
theorem sent_zero (w : World) : Sent w 0 w := ⟨rfl, rfl⟩

omit [Externals] in
theorem Sent.accepts_iff (h : Sent start count w) :
    w.around.refuses w.around.statements = false ↔ start.Accepts count := by
  rw [World.Accepts, h.refuses, h.statements]

/-- Nothing that a call has shown is a response. -/
def OnlyQuiet (labels : List Event) : Prop := ∀ e ∈ labels, e = .quiet

omit [Externals] in
theorem OnlyQuiet.append (h : OnlyQuiet labels) : OnlyQuiet (labels ++ [.quiet]) := by
  intro e he
  rcases List.mem_append.mp he with hbefore | hnow
  · exact h e hbefore
  · exact List.mem_singleton.mp hnow

omit [Externals] in
theorem OnlyQuiet.not_responded (h : OnlyQuiet labels) (prompt response : String) :
    ¬ Responded prompt labels response := by
  rintro ⟨provider, hmem⟩
  cases h _ hmem

omit [Externals] in
/-- A statement of a tier. -/
theorem wp_counted {τ α : Type} {v : View τ} {m : Stmt τ α} (hm : m.Counts 1)
    (hview : ∀ w t, (v.set w t).around = w.around) (hquiet : OnlyQuiet labels)
    (h : Sent start count w) :
    wp (EngineOp.guarded v m) (fun labels r w => OnlyQuiet labels ∧
      ∀ a, r = .ok a → Sent start (count + 1) w) labels w := by
  refine Op.wp_guarded ⟨hquiet.append, fun a ha => ?_⟩
  rw [View.result_run] at ha
  obtain ⟨hrefuses, hstatements⟩ := hm _ a ha
  rw [View.after_run]
  constructor
  · rw [hview]
    exact hrefuses.trans h.refuses
  · rw [hview]
    exact hstatements.trans (by rw [h.statements, Nat.add_assoc])

omit [Externals] in
/-- A statement that stores a row is accepted or not. -/
theorem wp_stored {f : Instant → Caches → Caches} (h : Sent start count w) :
    wp (EngineOp.guarded .caches (Stmt.now >>= fun now => Stmt.execute (f now)))
      (fun _ r w => (r = .ok () ↔ start.Accepts count) ∧ r ≠ .error .panic ∧
        Sent start (count + 1) w) labels w := by
  rw [← h.accepts_iff]
  have hsent : ∀ w', w'.around.refuses = w.around.refuses →
      w'.around.statements = w.around.statements + 1 → Sent start (count + 1) w' :=
    fun w' hrefuses hstatements =>
      ⟨hrefuses.trans h.refuses, by rw [hstatements, h.statements, Nat.add_assoc]⟩
  cases hrefuses : w.around.refuses w.around.statements with
  | false =>
      refine EngineOp.wp_guarded (Stmt.run_execute hrefuses) ?_
      exact ⟨by simp, nofun, hsent _ rfl rfl⟩
  | true =>
      refine EngineOp.wp_guarded_error (Stmt.run_execute_refused hrefuses) ?_
      exact ⟨by simp, by simp, hsent _ rfl rfl⟩

end

/-! ## Asking the providers -/

/-- Every response so far is among those before. -/
def NothingNew (prompt : String) (before labels : List Event) : Prop :=
  ∀ response, Responded prompt labels response → Responded prompt before response

omit [Externals] in
theorem NothingNew.append {prompt : String} {before labels : List Event}
    (h : NothingNew prompt before labels) : NothingNew prompt before (labels ++ [.quiet]) :=
  fun response hresponse =>
    h response (Progress.responded_quiet (fun _ => List.mem_singleton.mp) hresponse)

/-- A request sends no statement.  It returns, or fails without a response. -/
def Asked {α : Type} (prompt : String) (before : List Event) (around : Surroundings)
    (labels : List Event) (r : Except Fault α) (w : World) : Prop :=
  w.around = around ∧
    ((∃ a, r = .ok a) ∨ ∃ message, r = .error (.error message) ∧ NothingNew prompt before labels)

/-- The outcome of a request as a value. -/
def AskedFor {α : Type} (prompt : String) (before : List Event) (around : Surroundings)
    (labels : List Event) (r : Except Fault (Except String α)) (w : World) : Prop :=
  w.around = around ∧
    ((∃ a, r = .ok (.ok a)) ∨ ∃ message, r = .ok (.error message) ∧
      NothingNew prompt before labels)

namespace ProviderRegistry

variable {prompt : String} {before labels : List Event} {around : Surroundings} {w : World}

omit [Externals] in
theorem asked_generate (name : String) (haround : w.around = around)
    (h : NothingNew prompt before labels) :
    wp (generate name prompt) (Asked prompt before around) labels w := by
  refine Op.wp_bind (Op.wp_stmt (Op.andThen_ok ?_))
  cases w.providers.answer w.providers.requests.length with
  | error message => exact Op.wp_fail ⟨haround, Or.inr ⟨message, rfl, h.append⟩⟩
  | ok response =>
      refine Op.wp_bind (Op.wp_stmt (Op.andThen_ok (Op.wp_pure ?_)))
      exact ⟨haround, Or.inl ⟨response, rfl⟩⟩

omit [Externals] in
theorem askedFor_attempt {α : Type} {p : EngineOp α}
    (h : wp p (Asked prompt before around) labels w) :
    wp (EngineOp.attempt p) (AskedFor prompt before around) labels w := by
  refine EngineOp.wp_attempt (Lib.wp_mono h fun labels r w hasked => ?_)
  obtain ⟨haround, ⟨a, rfl⟩ | ⟨message, rfl, hnothing⟩⟩ := hasked
  · exact ⟨haround, Or.inl ⟨a, rfl⟩⟩
  · exact ⟨haround, Or.inr ⟨message, rfl, hnothing⟩⟩

variable (models : Lib.SortedMap String ModelProviderConfig)

omit [Externals] in
theorem asked_generateWithProvider (provider : String) (haround : w.around = around)
    (h : NothingNew prompt before labels) :
    wp (generateWithProvider models provider prompt) (Asked prompt before around) labels w := by
  exact wp_provider models (asked_generate provider haround h) fun message =>
    ⟨haround, Or.inr ⟨message, rfl, h⟩⟩

omit [Externals] in
theorem asked_routeFrom (order : List String) {errors : List String}
    (haround : w.around = around) (h : NothingNew prompt before labels) :
    wp (routeFrom models prompt errors order) (Asked prompt before around) labels w := by
  induction order generalizing errors labels w with
  | nil =>
      simp only [routeFrom]
      split <;> exact Op.wp_fail ⟨haround, Or.inr ⟨_, rfl, h⟩⟩
  | cons name rest ih =>
      simp only [routeFrom]
      split
      · refine Op.wp_bind (Lib.wp_mono (askedFor_attempt (asked_generate name haround h)) ?_)
        rintro labels r w ⟨haround, ⟨response, rfl⟩ | ⟨message, rfl, hnothing⟩⟩
        · exact Op.andThen_ok (Op.wp_pure ⟨haround, Or.inl ⟨_, rfl⟩⟩)
        · exact Op.andThen_ok (ih haround hnothing)
      · exact ih haround h

end ProviderRegistry

namespace Orchestrator

variable (orchestrator : Orchestrator) {prompt : String} {before labels : List Event}
  {around : Surroundings} {start w : World} {count : Nat}

open ProviderRegistry (askedFor_attempt asked_generateWithProvider asked_routeFrom)

omit [Externals] in
/-- Of a draft and an answer that both fail there is no response. -/
theorem asked_generateLive (route : List String) (haround : w.around = around)
    (h : NothingNew prompt before labels) :
    wp (orchestrator.generateLive route prompt) (Asked prompt before around) labels w := by
  simp only [generateLive]
  cases (if orchestrator.config.orchestration.speculativeEnabled then
    orchestrator.draftProvider route else none) with
  | none =>
      refine Op.wp_bind (Lib.wp_mono (asked_routeFrom _ route haround h) ?_)
      rintro labels r w ⟨haround, ⟨found, rfl⟩ | ⟨message, rfl, hnothing⟩⟩
      · exact Op.andThen_ok (Op.wp_pure ⟨haround, Or.inl ⟨_, rfl⟩⟩)
      · exact ⟨haround, Or.inr ⟨message, rfl, hnothing⟩⟩
  | some draftName =>
      refine Op.wp_bind (Lib.wp_mono (askedFor_attempt
        (asked_generateWithProvider _ draftName haround h)) ?_)
      rintro labels₁ r w₁ ⟨haround₁, ⟨draft, rfl⟩ | ⟨message, rfl, hnothing₁⟩⟩
      · refine Op.andThen_ok (Op.wp_bind (Lib.wp_mono (askedFor_attempt
          (asked_routeFrom _ route haround₁ fun _ => id)) ?_))
        rintro labels₂ r w₂ ⟨haround₂, ⟨found, rfl⟩ | ⟨_, rfl, -⟩⟩
        · exact Op.andThen_ok (Op.wp_pure ⟨haround₂, Or.inl ⟨_, rfl⟩⟩)
        · exact Op.andThen_ok (Op.wp_pure ⟨haround₂, Or.inl ⟨_, rfl⟩⟩)
      · refine Op.andThen_ok (Op.wp_bind (Lib.wp_mono (askedFor_attempt
          (asked_routeFrom _ route haround₁ hnothing₁)) ?_))
        rintro labels₂ r w₂ ⟨haround₂, ⟨found, rfl⟩ | ⟨message, rfl, hnothing₂⟩⟩
        · exact Op.andThen_ok (Op.wp_pure ⟨haround₂, Or.inl ⟨_, rfl⟩⟩)
        · exact Op.andThen_ok (Op.wp_fail ⟨haround₂, Or.inr ⟨message, rfl, hnothing₂⟩⟩)

/-! ## Tiers and stores -/

/-- A tier shows nothing.  When it has missed it has sent so many statements. -/
def Looked (start : World) (count : Nat) (labels : List Event)
    (r : Except Fault (Option OrchestrationResult)) (w : World) : Prop :=
  OnlyQuiet labels ∧ (r = .ok none → Sent start count w)

omit [Externals] in
/-- A tier that is enabled sends one statement, and answers from what it finds. -/
theorem looked_tier {α : Type} {enabled : Bool} {read : EngineOp α}
    {answer : α → EngineOp (Option OrchestrationResult)}
    (hread : wp read (fun labels r w => OnlyQuiet labels ∧ ∀ a, r = .ok a →
      Sent start (count + 1) w) labels w)
    (hanswer : ∀ a, ∃ found, answer a = Pure.pure found)
    (hquiet : OnlyQuiet labels) (h : Sent start count w) :
    wp (if enabled then do
        let a ← read
        answer a
      else return none : EngineOp (Option OrchestrationResult))
      (Looked start (count + enabled.toNat)) labels w := by
  cases enabled with
  | false => exact Op.wp_pure ⟨hquiet, fun _ => h⟩
  | true =>
      refine Op.wp_bind (Lib.wp_mono hread ?_)
      rintro labels (fault | a) w ⟨hquiet, hsent⟩
      · exact ⟨hquiet, nofun⟩
      · obtain ⟨found, hfound⟩ := hanswer a
        refine Op.andThen_ok ?_
        rw [hfound]
        exact Op.wp_pure ⟨hquiet, fun _ => hsent a rfl⟩

theorem looked_exactTier (hquiet : OnlyQuiet labels) (h : Sent start count w) :
    wp (orchestrator.exactTier prompt)
      (Looked start (count + orchestrator.config.orchestration.exactCacheEnabled.toNat))
      labels w :=
  looked_tier (wp_counted (Stmt.counts_sql _) (fun _ _ => rfl) hquiet h) (fun _ => ⟨_, rfl⟩)
    hquiet h

omit [Externals] in
theorem looked_prefixTier (hquiet : OnlyQuiet labels) (h : Sent start count w) :
    wp (orchestrator.prefixTier prompt)
      (Looked start (count + orchestrator.config.orchestration.prefixCacheEnabled.toNat))
      labels w :=
  looked_tier (wp_counted (Stmt.counts_sql _) (fun _ _ => rfl) hquiet h) (fun _ => ⟨_, rfl⟩)
    hquiet h

theorem looked_semanticTier (hquiet : OnlyQuiet labels) (h : Sent start count w) :
    wp (orchestrator.semanticTier prompt)
      (Looked start (count + orchestrator.config.orchestration.semanticCacheEnabled.toNat))
      labels w := by
  refine looked_tier (wp_counted ?_ (fun _ _ => rfl) hquiet h) (fun cached => ?_) hquiet h
  · exact Stmt.counts_bind (Stmt.counts_sql _) fun rows =>
      Stmt.counts_bind (Stmt.counts_ofExcept _) fun _ => Stmt.counts_pure _
  · cases cached.head? with
    | none => exact ⟨_, rfl⟩
    | some entry =>
        dsimp only
        split <;> exact ⟨_, rfl⟩

/-- What a store sends if it is enabled, and when it succeeds. -/
theorem wp_storeExact_iff {result : OrchestrationResult} (h : Sent start count w) :
    wp (orchestrator.storeExact prompt result) (fun _ r w =>
      (r = .ok () ↔
        (orchestrator.config.orchestration.exactCacheEnabled = true → start.Accepts count)) ∧
      r ≠ .error .panic ∧
      Sent start (count + orchestrator.config.orchestration.exactCacheEnabled.toNat) w)
      labels w := by
  simp only [storeExact]
  cases orchestrator.config.orchestration.exactCacheEnabled with
  | false => exact Op.wp_pure ⟨by simp, by simp, h⟩
  | true =>
      refine Lib.wp_mono (wp_stored h) fun labels r w hstored => ?_
      exact ⟨by simpa using hstored.1, hstored.2⟩

omit [Externals] in
theorem wp_storePrefix_iff {result : OrchestrationResult} (h : Sent start count w) :
    wp (orchestrator.storePrefix prompt result) (fun _ r _ =>
      (r = .ok () ↔ (orchestrator.config.orchestration.prefixCacheEnabled = true →
        IsCharBoundary prompt (min prompt.utf8ByteSize 128) ∧ start.Accepts count)) ∧
      (r = .error .panic ↔ orchestrator.config.orchestration.prefixCacheEnabled = true ∧
        ¬ IsCharBoundary prompt (min prompt.utf8ByteSize 128)))
      labels w := by
  simp only [storePrefix, ← prefixKey_isSome_iff]
  cases orchestrator.config.orchestration.prefixCacheEnabled with
  | false => exact Op.wp_pure (by simp)
  | true =>
      cases hkey : prefixKey prompt with
      | none => exact Op.wp_fail (by simp)
      | some key =>
          refine Op.wp_bind (Op.wp_pure (Op.andThen_ok ?_))
          refine Lib.wp_mono (wp_stored h) fun labels r w hstored => ?_
          exact ⟨by simpa using hstored.1, by simpa using hstored.2.1⟩

theorem wp_storeSemantic_ok {result : OrchestrationResult} :
    wp (orchestrator.storeSemantic prompt result) (fun _ r _ => r = .ok ()) labels w := by
  simp only [storeSemantic]
  split
  · refine EngineOp.wp_ignore (Op.wp_bind (Op.wp_bind (Op.wp_stmt (Op.andThen_ok ?_))))
    cases orchestrator.encryption.encryptText (w.around.nonce w.around.nonces)
      (semanticPayload result) with
    | error message => exact Op.wp_fail ⟨by rintro ⟨⟩, rfl⟩
    | ok blob =>
        refine Op.wp_pure (Op.andThen_ok (Op.wp_guarded ⟨?_, rfl⟩))
        rw [View.result_run]
        refine Stmt.noPanic_bind Stmt.noPanic_now (fun now => ?_) _
        exact Stmt.noPanic_bind (Stmt.noPanic_sql _) fun _ => Stmt.noPanic_pure _
  · exact Op.wp_pure rfl

/-! ## The response is returned -/

/-- The tiers that are enabled. -/
def tierCount : Nat :=
  orchestrator.config.orchestration.exactCacheEnabled.toNat +
    orchestrator.config.orchestration.prefixCacheEnabled.toNat +
      orchestrator.config.orchestration.semanticCacheEnabled.toNat

/-- The two stores of a live response go through. -/
structure Keeps (start : World) (prompt : String) : Prop where
  accepted : orchestrator.config.orchestration.exactCacheEnabled = true →
    start.Accepts orchestrator.tierCount
  cut : orchestrator.config.orchestration.prefixCacheEnabled = true →
    IsCharBoundary prompt (min prompt.utf8ByteSize 128) ∧ start.Accepts
      (orchestrator.tierCount + orchestrator.config.orchestration.exactCacheEnabled.toNat)

/-- The prefix of the prompt is taken, and ends inside a character. -/
structure Slices (start : World) (prompt : String) : Prop where
  accepted : orchestrator.config.orchestration.exactCacheEnabled = true →
    start.Accepts orchestrator.tierCount
  enabled : orchestrator.config.orchestration.prefixCacheEnabled = true
  inside : ¬ IsCharBoundary prompt (min prompt.utf8ByteSize 128)

/-- If a provider responds, the call returns a response just when it keeps it, and
panics just when it slices a character. -/
def ReturnsKept (start : World) (prompt : String) (labels : List Event)
    (r : Except Fault OrchestrationResult) (_ : World) : Prop :=
  (∃ response, Responded prompt labels response) →
    ((∃ result, r = .ok result ∧ Responded prompt labels result.response) ↔
      orchestrator.Keeps start prompt) ∧ (r = .error .panic ↔ orchestrator.Slices start prompt)

theorem wp_storeLive_kept {result : OrchestrationResult}
    (hresponded : Responded prompt labels result.response)
    (h : Sent start orchestrator.tierCount w) :
    wp (do
        orchestrator.storeExact prompt result
        orchestrator.storePrefix prompt result
        orchestrator.storeSemantic prompt result
        return result : EngineOp OrchestrationResult)
      (orchestrator.ReturnsKept start prompt) labels w := by
  refine Op.wp_bind (Lib.wp_mono (Lib.wp_extends (orchestrator.wp_storeExact_iff h)) ?_)
  rintro labels₁ r w₁ ⟨⟨hexact, hcalm, h₁⟩, hlabels₁⟩
  have hresponded₁ := Progress.responded_mono hlabels₁ hresponded
  rcases r with fault | _
  · refine fun _ => ⟨⟨nofun, fun hkeeps => ?_⟩, ⟨fun hpanic => ?_, fun hslices => ?_⟩⟩
    · cases hexact.mpr hkeeps.accepted
    · cases hpanic
      exact absurd rfl hcalm
    · cases hexact.mpr hslices.accepted
  refine Op.andThen_ok (Op.wp_bind (Lib.wp_mono (Lib.wp_extends
    (orchestrator.wp_storePrefix_iff h₁)) ?_))
  rintro labels₂ r w₂ ⟨⟨hcut, hpanics⟩, hlabels₂⟩
  have hresponded₂ := Progress.responded_mono hlabels₂ hresponded₁
  rcases r with fault | _
  · refine fun _ => ⟨⟨nofun, fun hkeeps => ?_⟩, ⟨fun hpanic => ?_, fun hslices => ?_⟩⟩
    · cases hcut.mpr hkeeps.cut
    · cases hpanic
      exact ⟨hexact.mp rfl, (hpanics.mp rfl).1, (hpanics.mp rfl).2⟩
    · cases hpanics.mpr ⟨hslices.enabled, hslices.inside⟩
      rfl
  refine Op.andThen_ok (Op.wp_bind (Lib.wp_mono (Lib.wp_extends
    orchestrator.wp_storeSemantic_ok) ?_))
  rintro labels₃ r w₃ ⟨rfl, hlabels₃⟩
  refine Op.andThen_ok (Op.wp_pure fun _ => ⟨⟨fun _ => ⟨hexact.mp rfl, hcut.mp rfl⟩, fun _ => ?_⟩,
    ⟨nofun, fun hslices => ?_⟩⟩)
  · exact ⟨result, rfl, Progress.responded_mono hlabels₃ hresponded₂⟩
  · cases hpanics.mpr ⟨hslices.enabled, hslices.inside⟩

theorem wp_generateWithRoute_kept (prompt : String) (priority : QueuePriority)
    (route : List String) (start : World) :
    wp (orchestrator.generateWithRoute prompt priority route)
      (orchestrator.ReturnsKept start prompt) [] start := by
  have hquiet : OnlyQuiet [] := fun _ => nofun
  -- a tier that fails or answers has shown no response
  have hsilent : ∀ {labels : List Event} (r : Except Fault OrchestrationResult) (w : World),
      OnlyQuiet labels → orchestrator.ReturnsKept start prompt labels r w := by
    rintro labels r w hquiet ⟨response, hresponse⟩
    exact absurd hresponse (hquiet.not_responded prompt response)
  refine Op.wp_bind (Lib.wp_mono (orchestrator.looked_exactTier hquiet (sent_zero start)) ?_)
  rintro labels (fault | _ | result) w₁ ⟨hquiet, hsent⟩
  · exact hsilent _ w₁ hquiet
  · refine Op.andThen_ok (Op.wp_bind (Lib.wp_mono
      (orchestrator.looked_prefixTier hquiet (hsent rfl)) ?_))
    rintro labels (fault | _ | result) w₂ ⟨hquiet, hsent⟩
    · exact hsilent _ w₂ hquiet
    · refine Op.andThen_ok (Op.wp_bind (Lib.wp_mono
        (orchestrator.looked_semanticTier hquiet (hsent rfl)) ?_))
      rintro labels (fault | _ | result) w₃ ⟨hquiet, hsent⟩
      · exact hsilent _ w₃ hquiet
      · have hanswered : wp (orchestrator.generateLive (orchestrator.liveRoute priority route)
            prompt) (fun labels r _ => ∀ result, r = .ok result →
              Responded prompt labels result.response) labels w₃ := by
          refine Lib.wp_frame (Lib.wp_mono (orchestrator.wp_generateLive _
            (Progress.start_self prompt w₃)) fun more r w hlive result hresult => ?_)
          exact (hlive.2 result hresult).1.imp fun _ => List.mem_append_right _
        refine Op.andThen_ok (Op.wp_bind (Lib.wp_mono (Lib.wp_and hanswered
          (orchestrator.asked_generateLive _ rfl fun _ => id)) ?_))
        rintro labels' r w₄ ⟨hanswered, haround, ⟨result, rfl⟩ | ⟨message, rfl, hnothing⟩⟩
        · have hread := hsent rfl
          refine Op.andThen_ok (orchestrator.wp_storeLive_kept (hanswered result rfl) ⟨?_, ?_⟩)
          · rw [haround, hread.refuses]
          · rw [haround, hread.statements, tierCount, Nat.zero_add]
        · rintro ⟨response, hresponse⟩
          exact absurd (hnothing response hresponse) (hquiet.not_responded prompt response)
      · exact Op.andThen_ok (Op.wp_pure (hsilent _ w₃ hquiet))
    · exact Op.andThen_ok (Op.wp_pure (hsilent _ w₂ hquiet))
  · exact Op.andThen_ok (Op.wp_pure (hsilent _ w₁ hquiet))

end Orchestrator

/-- What a call shows. -/
def GenerateCall.events (orchestrator : Orchestrator) (call : GenerateCall) (w : World) :
    List Event :=
  (orchestrator.generateWithRoute call.prompt call.priority call.route).trace w

/-- Once a provider has responded, a call returns a response of a provider exactly
when the database accepts the stores of the enabled caches and the prefix, if it
is stored, ends between characters.  It panics exactly when that ends inside a
character and the store before is accepted. -/
theorem returns_response (orchestrator : Orchestrator) (call : GenerateCall) (w : World)
    (hresponded : ∃ response, Responded call.prompt (call.events orchestrator w) response) :
    ((∃ result, call.result orchestrator w = .ok result ∧
        Responded call.prompt (call.events orchestrator w) result.response) ↔
      orchestrator.Keeps w call.prompt) ∧
      (call.result orchestrator w = .error .panic ↔ orchestrator.Slices w call.prompt) :=
  orchestrator.wp_generateWithRoute_kept call.prompt call.priority call.route w hresponded

end

/-- An orchestrator with one provider and the prefix cache only. -/
def prefixOrchestrator : Orchestrator :=
  ⟨{ referenceRuntime.config with orchestration := ⟨["ollama"], false, true, false, false⟩ },
    ⟨false, onesKey⟩⟩

/-- A greeting is shorter than the prefix. -/
def greetingCall : GenerateCall := ⟨"hi", .interactive, []⟩

/-- A prompt of 129 bytes, the last two of them one character. -/
def accentedCall : GenerateCall :=
  ⟨String.ofList (List.replicate 127 'a') ++ "é", .interactive, []⟩

theorem returns_response_greeting :
    ∃ result, @GenerateCall.result jsonExternals prefixOrchestrator greetingCall referenceWorld =
      .ok result :=
  have hkeeps : prefixOrchestrator.Keeps referenceWorld greetingCall.prompt :=
    ⟨nofun, fun _ => ⟨⟨"hi", "", rfl, rfl⟩, rfl⟩⟩
  have hresponded : ∃ response, Responded greetingCall.prompt
      (@GenerateCall.events jsonExternals prefixOrchestrator greetingCall referenceWorld)
      response :=
    ⟨"hello", "ollama", by decide⟩
  ((@returns_response jsonExternals prefixOrchestrator greetingCall referenceWorld
    hresponded).1.mpr hkeeps).imp fun _ => And.left

/-- A prompt with a character across the end of its prefix panics. -/
theorem returns_response_fails :
    ¬ ∀ [Externals] (orchestrator : Orchestrator) (call : GenerateCall) (w : World),
      (∃ response, Responded call.prompt (call.events orchestrator w) response) →
        call.result orchestrator w ≠ .error .panic ∧
          ∃ result, call.result orchestrator w = .ok result ∧
            Responded call.prompt (call.events orchestrator w) result.response := by
  intro h
  refine (@h jsonExternals prefixOrchestrator accentedCall referenceWorld
    ⟨"hello", "ollama", ?_⟩).1 ?_
  · decide +kernel
  · decide +kernel

end OpenPinch
