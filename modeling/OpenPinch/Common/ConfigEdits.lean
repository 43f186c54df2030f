import OpenPinch.Common.LoadOrInit
import OpenPinch.Common.Parse

/-!
# Editing the configuration

`AppConfig::set` parses a value before it assigns it, so a value that does not
parse changes nothing.  For the keys below `models.` and `connectors.` it creates
the entry of the name first.  A field that it does not know or a value that does
not parse then leaves the new entry behind (`set_keeps_iff`).
-/

namespace OpenPinch.ConfigFile

open Lib (SortedMap)

/-! ## Model -/

/-- What a value does to a record, or why it is not accepted. -/
abbrev FieldEdit (σ : Type) := String → Except String (σ → σ)

section

variable {σ α : Type}

/-- A field that takes the value as it is. -/
def FieldEdit.text (update : String → σ → σ) : FieldEdit σ := fun value => .ok (update value)

/-- A field that takes the value parsed. -/
def FieldEdit.parsed (parse : String → Option α) (error : String) (update : α → σ → σ) :
    FieldEdit σ := fun value =>
  match parse value with
  | some a => .ok (update a)
  | none => .error error

/-- A text field with its key. -/
def text (key : String) (update : String → σ → σ) : String × FieldEdit σ := (key, .text update)

/-- A boolean field with its key. -/
def flag (key : String) (update : Bool → σ → σ) : String × FieldEdit σ :=
  (key, .parsed parseBool ("expected bool for " ++ key) update)

/-- A number field with its key. -/
def integer (parse : String → Option α) (key : String) (update : α → σ → σ) :
    String × FieldEdit σ :=
  (key, .parsed parse ("expected integer for " ++ key) update)

end

/-- The keys of `set` for one field each. -/
def fixedKeys : List (String × FieldEdit AppConfig) :=
  [text "gateway.listen_address" fun v c => { c with gateway.listenAddress := v },
    text "gateway.binary" fun v c => { c with gateway.binary := v },
    text "gateway.engine_endpoint" fun v c => { c with gateway.engineEndpoint := v },
    text "gateway.telegram_bot_token" fun v c => { c with gateway.telegramBotToken := v },
    flag "gateway.local_http.enabled" fun v c => { c with gateway.localHttp.enabled := v },
    ("gateway.web.enabled", .parsed parseBool "expected bool for gateway.local_http.enabled"
      fun v c => { c with gateway.localHttp.enabled := v }),
    text "gateway.local_http.listen_address"
      fun v c => { c with gateway.localHttp.listenAddress := v },
    text "gateway.web.listen_address" fun v c => { c with gateway.localHttp.listenAddress := v },
    flag "desktop.launch_at_login" fun v c => { c with desktop.launchAtLogin := v },
    flag "desktop.enable_tray" fun v c => { c with desktop.enableTray := v },
    flag "desktop.enable_notifications" fun v c => { c with desktop.enableNotifications := v },
    flag "desktop.start_hidden" fun v c => { c with desktop.startHidden := v },
    text "desktop.profile_name" fun v c => { c with desktop.profileName := v },
    flag "desktop.bundled_runtime" fun v c => { c with desktop.bundledRuntime := v },
    flag "gateway.tls.enabled" fun v c => { c with gateway.tls.enabled := v },
    text "logging.level" fun v c => { c with logging.level := v },
    flag "logging.json" fun v c => { c with logging.json := v },
    text "sandbox.firecracker_path" fun v c => { c with sandbox.firecrackerPath := v },
    text "sandbox.jailer_path" fun v c => { c with sandbox.jailerPath := v },
    text "sandbox.kernel_image" fun v c => { c with sandbox.kernelImage := v },
    text "sandbox.rootfs_image" fun v c => { c with sandbox.rootfsImage := v },
    text "sandbox.capabilities.matrix_path"
      fun v c => { c with sandbox.capabilities.matrixPath := v },
    flag "sandbox.capabilities.default_deny"
      fun v c => { c with sandbox.capabilities.defaultDeny := v },
    text "skills.registry_index" fun v c => { c with skills.registryIndex := v },
    text "skills.registry_signature" fun v c => { c with skills.registrySignature := v },
    text "orchestration.default_priority" fun v c => { c with orchestration.defaultPriority := v },
    integer (parseUnsigned (2 ^ 64)) "orchestration.max_inflight"
      fun v c => { c with orchestration.maxInflight := v },
    flag "security.audit.enabled" fun v c => { c with security.audit.enabled := v },
    flag "security.encryption.enabled" fun v c => { c with security.encryption.enabled := v },
    flag "brain.enabled" fun v c => { c with brain.enabled := v },
    flag "brain.auto_ingest_messages" fun v c => { c with brain.autoIngestMessages := v },
    flag "brain.auto_ingest_tool_results" fun v c => { c with brain.autoIngestToolResults := v },
    flag "brain.auto_ingest_assistant_commitments"
      fun v c => { c with brain.autoIngestAssistantCommitments := v },
    flag "brain.inline_suggestions_in_replies"
      fun v c => { c with brain.inlineSuggestionsInReplies := v },
    integer (parseUnsigned (2 ^ 64)) "brain.max_inline_suggestions"
      fun v c => { c with brain.maxInlineSuggestions := v },
    integer (parseUnsigned (2 ^ 64)) "brain.context_budget_chars"
      fun v c => { c with brain.contextBudgetChars := v },
    integer parseI64 "brain.archive_decay_days" fun v c => { c with brain.archiveDecayDays := v },
    integer parseI64 "brain.stale_task_hours" fun v c => { c with brain.staleTaskHours := v },
    integer (parseUnsigned (2 ^ 32)) "sessions.prune_after_hours"
      fun v c => { c with sessions.pruneAfterHours := v },
    flag "routing.auto_pair_dm" fun v c => { c with routing.autoPairDm := v },
    flag "presence.enabled" fun v c => { c with presence.enabled := v },
    flag "usage.enabled" fun v c => { c with usage.enabled := v },
    integer (parseUnsigned (2 ^ 64)) "media.max_upload_bytes"
      fun v c => { c with media.maxUploadBytes := v },
    flag "browser.enabled" fun v c => { c with browser.enabled := v },
    text "model_failover.default_profile" fun v c => { c with modelFailover.defaultProfile := v },
    text "vector_memory.default_namespace"
      fun v c => { c with vectorMemory.defaultNamespace := v },
    flag "operator.enabled" fun v c => { c with operator.enabled := v }]

/-- The fields of `models.<provider>`. -/
def modelFields : List (String × FieldEdit ModelProviderConfig) :=
  [text "kind" fun v p => { p with kind := v },
    text "endpoint" fun v p => { p with endpoint := v },
    text "model" fun v p => { p with model := v },
    text "draft_model" fun v p => { p with draftModel := v },
    text "quantization" fun v p => { p with quantization := v },
    text "cache_policy" fun v p => { p with cachePolicy := v },
    flag "enabled" fun v p => { p with enabled := v },
    flag "speculative_enabled" fun v p => { p with speculativeEnabled := v }]

/-- The fields of `connectors.<name>`. -/
def connectorFields : List (String × FieldEdit ConnectorConfig) :=
  [flag "enabled" fun v p => { p with enabled := v },
    text "mode" fun v p => { p with mode := v },
    text "endpoint" fun v p => { p with endpoint := v }]

/-- A run of `set`, which changes the configuration as it goes. -/
abbrev SetM := ExceptT String (StateM AppConfig)

/-- The assignment of a value that was accepted. -/
def assign {σ : Type} (lift : (σ → σ) → AppConfig → AppConfig) (edit : Except String (σ → σ)) :
    SetM Unit :=
  match edit with
  | .ok update => modify (lift update)
  | .error e => throw e

/-- The edit of a field by its name. -/
def fieldEdit {σ : Type} (fields : List (String × FieldEdit σ)) (unsupported field value : String) :
    Except String (σ → σ) :=
  match fields.lookup field with
  | some edit => edit value
  | none => .error (unsupported ++ field)

/-- `entry(name).or_default()` in `models`. -/
def AppConfig.addModel (name : String) (config : AppConfig) : AppConfig :=
  { config with models := config.models.insertNew name {} }

/-- `entry(name).or_default()` in `connectors`. -/
def AppConfig.addConnector (name : String) (config : AppConfig) : AppConfig :=
  { config with connectors := config.connectors.insertNew name .default }

def AppConfig.updateModel (name : String) (update : ModelProviderConfig → ModelProviderConfig)
    (config : AppConfig) : AppConfig :=
  { config with models := config.models.adjust name update }

def AppConfig.updateConnector (name : String) (update : ConnectorConfig → ConnectorConfig)
    (config : AppConfig) : AppConfig :=
  { config with connectors := config.connectors.adjust name update }

/-- `key.split('.')`. -/
def dotted (key : String) : List String := (key.toList.splitOn '.').map String.ofList

/-- `key.starts_with(..)`. -/
def startsWith (key start : String) : Bool := start.toList.isPrefixOf key.toList

/-- A branch of `set` for the entries of a map.  It creates the entry before it
looks at the field and the value. -/
def entryEdit {σ : Type} (form unsupported : String) (add : String → AppConfig → AppConfig)
    (update : String → (σ → σ) → AppConfig → AppConfig) (fields : List (String × FieldEdit σ))
    (key value : String) : SetM Unit :=
  match dotted key with
  | [_, name, field] => do
      modify (add name)
      assign (update name) (fieldEdit fields unsupported field value)
  | _ => throw form

/-- The branch of `set` for models. -/
def setModel : String → String → SetM Unit :=
  entryEdit "model keys must use models.<provider>.<field>" "unsupported model field "
    AppConfig.addModel AppConfig.updateModel modelFields

/-- The branch of `set` for connectors. -/
def setConnector : String → String → SetM Unit :=
  entryEdit "connector keys must use connectors.<name>.<field>" "unsupported connector field "
    AppConfig.addConnector AppConfig.updateConnector connectorFields

/-- `AppConfig::set`. -/
def AppConfig.set (key value : String) : SetM Unit :=
  match fixedKeys.lookup key with
  | some edit => assign id (edit value)
  | none =>
      if startsWith key "models." then setModel key value
      else if startsWith key "connectors." then setConnector key value
      else throw ("unsupported config key " ++ key)

/-- The result of `set`, with the configuration as it is then. -/
def AppConfig.afterSet (config : AppConfig) (key value : String) : Except String Unit × AppConfig :=
  (AppConfig.set key value).run config

/-! ## Rejected edits -/

theorem run_assign {σ : Type} (lift : (σ → σ) → AppConfig → AppConfig)
    (edit : Except String (σ → σ)) (config : AppConfig) :
    (assign lift edit).run config =
      match edit with
      | .ok update => (.ok (), lift update config)
      | .error e => (.error e, config) := by
  cases edit <;> rfl

/-- An entry that is edited is created first. -/
theorem run_entryEdit {σ : Type} {form unsupported : String}
    {add : String → AppConfig → AppConfig} {update : String → (σ → σ) → AppConfig → AppConfig}
    {fields : List (String × FieldEdit σ)} {key value first name field : String}
    (hparts : dotted key = [first, name, field]) (config : AppConfig) :
    (entryEdit form unsupported add update fields key value).run config =
      (assign (update name) (fieldEdit fields unsupported field value)).run (add name config) := by
  simp only [entryEdit, hparts]
  rfl

theorem startsWith_fixedKeys :
    ∀ e ∈ fixedKeys, startsWith e.1 "models." = false ∧ startsWith e.1 "connectors." = false := by
  decide

/-- The keys of entries are not among the keys of one field. -/
theorem lookup_fixedKeys_eq_none {key : String}
    (h : startsWith key "models." ∨ startsWith key "connectors.") :
    fixedKeys.lookup key = none := by
  rw [List.lookup_eq_none_iff]
  intro e he
  obtain ⟨hmodels, hconnectors⟩ := startsWith_fixedKeys e he
  rw [bne_iff_ne]
  rintro rfl
  rcases h with h | h
  · exact Bool.false_ne_true (hmodels.symm.trans h)
  · exact Bool.false_ne_true (hconnectors.symm.trans h)

theorem startsWith_models_eq_false {key : String} (h : startsWith key "connectors.") :
    startsWith key "models." = false := by
  by_contra hmodels
  have hfirst := List.isPrefixOf_iff_prefix.mp h
  have hsecond := List.isPrefixOf_iff_prefix.mp (Bool.not_eq_false _ ▸ hmodels)
  have hboth := List.prefix_of_prefix_length_le hsecond hfirst (by decide)
  revert hboth
  decide

/-- A field of a model that `set` does not know, or a value that it does not take. -/
def ModelFieldRefused (field value : String) : Prop :=
  field ∉ modelFields.map Prod.fst ∨
    (field = "enabled" ∨ field = "speculative_enabled") ∧ parseBool value = none

/-- A field of a connector that `set` does not know, or a value that it does not take. -/
def ConnectorFieldRefused (field value : String) : Prop :=
  field ∉ connectorFields.map Prod.fst ∨ field = "enabled" ∧ parseBool value = none

section

variable {σ : Type} {fields : List (String × FieldEdit σ)} {unsupported field value : String}

theorem fieldEdit_text {key : String} {update : String → σ → σ} :
    fieldEdit (text key update :: fields) unsupported field value =
      if field = key then .ok (update value) else fieldEdit fields unsupported field value := by
  by_cases hkey : field = key
  · simp [fieldEdit, text, FieldEdit.text, hkey]
  · simp [fieldEdit, text, List.lookup_cons, beq_eq_false_iff_ne.mpr hkey, hkey]

theorem fieldEdit_flag {key : String} {update : Bool → σ → σ} :
    fieldEdit (flag key update :: fields) unsupported field value =
      if field = key then
        match parseBool value with
        | some b => .ok (update b)
        | none => .error ("expected bool for " ++ key)
      else fieldEdit fields unsupported field value := by
  by_cases hkey : field = key
  · rw [if_pos hkey]
    cases hb : parseBool value <;> simp [fieldEdit, flag, FieldEdit.parsed, hkey, hb]
  · simp [fieldEdit, flag, List.lookup_cons, beq_eq_false_iff_ne.mpr hkey, hkey]

end

theorem fieldEdit_modelFields {unsupported field value : String} :
    (∃ e, fieldEdit modelFields unsupported field value = .error e) ↔
      ModelFieldRefused field value := by
  simp only [modelFields, fieldEdit_text, fieldEdit_flag, ModelFieldRefused]
  cases parseBool value <;> split_ifs <;> simp_all [fieldEdit, text, flag]

theorem fieldEdit_connectorFields {unsupported field value : String} :
    (∃ e, fieldEdit connectorFields unsupported field value = .error e) ↔
      ConnectorFieldRefused field value := by
  simp only [connectorFields, fieldEdit_text, fieldEdit_flag, ConnectorFieldRefused]
  cases parseBool value <;> split_ifs <;> simp_all [fieldEdit, text, flag]

/-- An edit that creates a model and is then refused. -/
def AppConfig.LeavesModel (config : AppConfig) (key value : String) : Prop :=
  startsWith key "models." = true ∧
    ∃ first name field, dotted key = [first, name, field] ∧ config.models.get? name = none ∧
      ModelFieldRefused field value

/-- An edit that creates a connector and is then refused. -/
def AppConfig.LeavesConnector (config : AppConfig) (key value : String) : Prop :=
  startsWith key "connectors." = true ∧
    ∃ first name field, dotted key = [first, name, field] ∧ config.connectors.get? name = none ∧
      ConnectorFieldRefused field value

/-- The run leaves the configuration as it is if it fails. -/
def SetM.Keeps (run : SetM Unit) (config : AppConfig) : Prop :=
  (∃ e, (run.run config).1 = .error e) → (run.run config).2 = config

theorem keeps_throw (e : String) (config : AppConfig) : SetM.Keeps (throw e) config := fun _ => rfl

theorem keeps_assign {σ : Type} (lift : (σ → σ) → AppConfig → AppConfig)
    (edit : Except String (σ → σ)) (config : AppConfig) :
    (assign lift edit).Keeps config := by
  unfold SetM.Keeps
  rw [run_assign]
  cases edit <;> simp

/-- An edit of an entry fails without a trace unless the entry is new. -/
theorem keeps_entryEdit_iff {σ τ : Type} {form unsupported : String}
    {add : String → AppConfig → AppConfig} {update : String → (σ → σ) → AppConfig → AppConfig}
    {fields : List (String × FieldEdit σ)} {key value : String} {config : AppConfig}
    {entries : SortedMap String τ} {Refused : String → String → Prop}
    (hadd : ∀ name, add name config = config ↔ entries.get? name ≠ none)
    (hrefused : ∀ field, (∃ e, fieldEdit fields unsupported field value = .error e) ↔
      Refused field value) :
    (entryEdit form unsupported add update fields key value).Keeps config ↔
      ¬ ∃ first name field, dotted key = [first, name, field] ∧ entries.get? name = none ∧
        Refused field value := by
  by_cases hparts : ∃ first name field, dotted key = [first, name, field]
  case pos =>
    obtain ⟨first, name, field, hparts⟩ := hparts
    have hkeeps : (entryEdit form unsupported add update fields key value).Keeps config ↔
        (Refused field value → entries.get? name ≠ none) := by
      rw [SetM.Keeps, run_entryEdit hparts, run_assign, ← hrefused, ← hadd]
      cases fieldEdit fields unsupported field value <;> simp
    rw [hkeeps]
    constructor
    · rintro h ⟨first', name', field', hparts', hnone, href⟩
      obtain ⟨rfl, rfl, rfl⟩ : first = first' ∧ name = name' ∧ field = field' := by
        simpa using hparts.symm.trans hparts'
      exact h href hnone
    · intro h href hnone
      exact h ⟨first, name, field, hparts, hnone, href⟩
  case neg =>
    have hthrow : entryEdit form unsupported add update fields key value = throw form := by
      unfold entryEdit
      split
      case h_1 first name field hdotted => exact absurd ⟨first, name, field, hdotted⟩ hparts
      case h_2 => rfl
    rw [hthrow]
    exact iff_of_true (keeps_throw form config) fun ⟨first, name, field, h, _⟩ =>
      hparts ⟨first, name, field, h⟩

theorem addModel_eq_self_iff (config : AppConfig) (name : String) :
    config.addModel name = config ↔ config.models.get? name ≠ none := by
  rw [← SortedMap.insertNew_eq_self_iff {}]
  exact ⟨congrArg AppConfig.models, fun h => by rw [AppConfig.addModel, h]⟩

theorem addConnector_eq_self_iff (config : AppConfig) (name : String) :
    config.addConnector name = config ↔ config.connectors.get? name ≠ none := by
  rw [← SortedMap.insertNew_eq_self_iff .default]
  exact ⟨congrArg AppConfig.connectors, fun h => by rw [AppConfig.addConnector, h]⟩

/-- An edit that is refused leaves the configuration as it was, unless it has
created an entry. -/
theorem set_keeps_iff (config : AppConfig) (key value : String) :
    (AppConfig.set key value).Keeps config ↔
      ¬ (config.LeavesModel key value ∨ config.LeavesConnector key value) := by
  unfold AppConfig.LeavesModel AppConfig.LeavesConnector
  by_cases hmodels : startsWith key "models."
  case pos =>
    have hset : AppConfig.set key value = setModel key value := by
      rw [AppConfig.set, lookup_fixedKeys_eq_none (.inl hmodels)]
      exact if_pos hmodels
    have hconnectors : startsWith key "connectors." = false := by
      by_contra h
      exact Bool.false_ne_true
        ((startsWith_models_eq_false (Bool.not_eq_false _ ▸ h)).symm.trans hmodels)
    rw [hset, setModel, keeps_entryEdit_iff (addModel_eq_self_iff config)
      fun _ => fieldEdit_modelFields]
    simp [hmodels, hconnectors]
  case neg =>
    by_cases hconnectors : startsWith key "connectors."
    case pos =>
      have hset : AppConfig.set key value = setConnector key value := by
        rw [AppConfig.set, lookup_fixedKeys_eq_none (.inr hconnectors)]
        exact (if_neg hmodels).trans (if_pos hconnectors)
      rw [hset, setConnector, keeps_entryEdit_iff (addConnector_eq_self_iff config)
        fun _ => fieldEdit_connectorFields]
      simp [hmodels, hconnectors]
    case neg =>
      refine iff_of_true ?_ (by simp [hmodels, hconnectors])
      unfold AppConfig.set
      split
      case h_1 edit _ => exact keeps_assign id (edit value) config
      case h_2 =>
        rw [if_neg hmodels, if_neg hconnectors]
        exact keeps_throw _ config

/-- A field that connectors do not have leaves a connector behind. -/
theorem set_keeps_fails :
    ¬ ∀ (config : AppConfig) (key value : String), (AppConfig.set key value).Keeps config := by
  intro h
  have hkept := h {} "connectors.mastodon.color" "red" ⟨"unsupported connector field color", rfl⟩
  have hget := congrArg (fun config => (config.connectors.get? "mastodon").isSome) hkept
  revert hget
  decide

end OpenPinch.ConfigFile
