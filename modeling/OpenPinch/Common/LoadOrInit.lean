import OpenPinch.Common.Config

/-!
# Loading the configuration

`load_or_init` reads the file, adds the connectors and the model profiles that it
lacks, and migrates what an older version has left there.  Only a migration
writes the file again.  The file it leaves needs no migration, so a second load
finds the same configuration (`loadOrInit_settles`).
-/

namespace OpenPinch.ConfigFile

open Lib (SortedMap Toml)

/-! ## Model -/

/-- `merge_missing_defaults`. -/
def mergeMissingDefaults (config : AppConfig) : AppConfig :=
  { config with
    connectors := config.connectors.insertMissing defaultConnectors
    modelProfiles := config.modelProfiles.insertMissing defaultModelProfiles }

/-- What `migrate_legacy_config` makes of the connector `webchat`. -/
def migrateConnector (connector : ConnectorConfig) : ConnectorConfig :=
  { connector with
    mode := if connector.mode = "" ∨ connector.mode = "web" then "native" else connector.mode
    authMode :=
      if connector.authMode = "" ∨ connector.authMode = "local-session" then "local-process"
      else connector.authMode
    deferred := false
    pairDm := false
    mentionOnly := false }

/-- The table `connectors.webchat` of a document. -/
def legacyConnector (value : Toml) : Option Toml :=
  (value.get "connectors").bind fun connectors => connectors.get "webchat"

/-- `try_into` with `unwrap_or_default`. -/
def readLegacyConnector (legacy : Toml) : ConnectorConfig :=
  (ConnectorConfig.record.decode .value legacy).getD .default

/-- The first half of `migrate_legacy_config`, with whether it has changed something. -/
def migrateLegacyConnector (value : Toml) (config : AppConfig) : AppConfig × Bool :=
  match legacyConnector value with
  | some legacy =>
      let connector := migrateConnector (readLegacyConnector legacy)
      ({ config with
          connectors := (config.connectors.insert "desktop" connector).erase "webchat" }, true)
  | none => (config, false)

/-- A member of the table `gateway.web`. -/
def legacyWeb (value : Toml) (key : String) : Option Toml :=
  ((value.get "gateway").bind fun gateway => gateway.get "web").bind fun web => web.get key

def AppConfig.setLocalHttpEnabled (config : AppConfig) (enabled : Bool) : AppConfig :=
  { config with gateway.localHttp.enabled := enabled }

def AppConfig.setLocalHttpListen (config : AppConfig) (listen : String) : AppConfig :=
  { config with gateway.localHttp.listenAddress := listen }

/-- The second half of `migrate_legacy_config`. -/
def migrateLegacyWeb (value : Toml) (config : AppConfig) : AppConfig × Bool :=
  let enabled := (legacyWeb value "enabled").bind Toml.asBool
  let listen := (legacyWeb value "listen_address").bind Toml.asStr
  let config := enabled.elim config config.setLocalHttpEnabled
  (listen.elim config config.setLocalHttpListen, enabled.isSome || listen.isSome)

/-- `migrate_legacy_config`. -/
def migrateLegacyConfig (value : Toml) (config : AppConfig) : AppConfig × Bool :=
  let connectors := migrateLegacyConnector value config
  let web := migrateLegacyWeb value connectors.1
  (web.1, connectors.2 || web.2)

section

variable (fromStr : String → Option Toml) (toStringPretty : Toml → Option String)

/-- `AppConfig::write`, with the text of the file. -/
def AppConfig.write (config : AppConfig) : Except String String :=
  match (AppConfig.record.encode config).bind toStringPretty with
  | some raw => .ok raw
  | none => .error "failed to serialize config"

/-- `toml::from_str::<AppConfig>`, with the document. -/
def AppConfig.parse (raw : String) : Option (Toml × AppConfig) :=
  (fromStr raw).bind fun value =>
    (AppConfig.record.decode .text value).map fun config => (value, config)

/-- `AppConfig::load_or_init` on the file, if there is one.  The second part of
the result is the text that it writes. -/
def loadOrInit (file : Option String) : Except String (AppConfig × Option String) :=
  match file with
  | some raw =>
      match AppConfig.parse fromStr raw with
      | none => .error "failed to parse config.toml"
      | some (value, config) =>
          let (config, changed) := migrateLegacyConfig value (mergeMissingDefaults config)
          if changed then (config.write toStringPretty).map fun raw => (config, some raw)
          else .ok (config, none)
  | none => (AppConfig.write toStringPretty {}).map fun raw => ({}, some raw)

end

/-! ## What a load leaves -/

/-- A configuration that a load neither completes nor migrates. -/
structure AppConfig.Settled (config : AppConfig) : Prop where
  merged : mergeMissingDefaults config = config
  noWebchat : config.connectors.get? "webchat" = none

theorem connectors_mergeMissingDefaults (config : AppConfig) :
    (mergeMissingDefaults config).connectors =
      config.connectors.insertMissing defaultConnectors := by
  rw [mergeMissingDefaults]

theorem modelProfiles_mergeMissingDefaults (config : AppConfig) :
    (mergeMissingDefaults config).modelProfiles =
      config.modelProfiles.insertMissing defaultModelProfiles := by
  rw [mergeMissingDefaults]

theorem get?_defaultConnectors_webchat : defaultConnectors.get? "webchat" = none := by decide

theorem ne_webchat_of_mem_defaultConnectors :
    ∀ entry ∈ defaultConnectors.entries, entry.1 ≠ "webchat" := by
  intro entry hentry heq
  have hnone := get?_defaultConnectors_webchat
  rw [SortedMap.get?_eq_some_iff.mpr (heq ▸ hentry : ("webchat", entry.2) ∈ _)] at hnone
  cases hnone

theorem isSome_insertMissing {α : Type} (m defaults : SortedMap String α) :
    ∀ entry ∈ defaults.entries, ((m.insertMissing defaults).get? entry.1).isSome := by
  intro entry hentry
  have hdefault : defaults.get? entry.1 = some entry.2 := SortedMap.get?_eq_some_iff.mpr hentry
  rw [SortedMap.get?_insertMissing, hdefault]
  cases m.get? entry.1 <;> rfl

/-- What has all defaults is complete. -/
theorem mergeMissingDefaults_eq_self {config : AppConfig}
    (hconnectors : ∀ entry ∈ defaultConnectors.entries, (config.connectors.get? entry.1).isSome)
    (hprofiles : ∀ entry ∈ defaultModelProfiles.entries,
      (config.modelProfiles.get? entry.1).isSome) :
    mergeMissingDefaults config = config := by
  unfold mergeMissingDefaults
  rw [SortedMap.insertMissing_eq_self hconnectors, SortedMap.insertMissing_eq_self hprofiles]

theorem settled_default : ({} : AppConfig).Settled := by
  have hpresent : ∀ {α : Type} (m : SortedMap String α), ∀ entry ∈ m.entries,
      (m.get? entry.1).isSome := by
    intro α m entry hentry
    rw [SortedMap.get?_eq_some_iff.mpr (hentry : (entry.1, entry.2) ∈ m.entries)]
    rfl
  exact ⟨mergeMissingDefaults_eq_self (hpresent _) (hpresent _), get?_defaultConnectors_webchat⟩

/-- The member `connectors` of the configuration. -/
def AppConfig.connectorsMember : Toml.Member AppConfig :=
  ⟨"connectors", .map ConnectorConfig.record.codec, (·.connectors),
    fun v s => { s with connectors := v }⟩

theorem AppConfig.apart_connectors : AppConfig.record.Apart AppConfig.connectorsMember where
  mem := by simp [AppConfig.record, AppConfig.connectorsMember]
  own _ _ := rfl
  other := by simp [AppConfig.record, AppConfig.connectorsMember]

section

variable {entries : List (String × Toml)} {config : AppConfig}

/-- The connectors of a document, or all defaults. -/
theorem get?_connectors_of_decode
    (h : AppConfig.record.decode .text (.table entries) = some config) (name : String) :
    config.connectors.get? name =
      match entries.lookup "connectors" with
      | some connectors => (connectors.get name).bind (ConnectorConfig.record.decode .text)
      | none => defaultConnectors.get? name := by
  have hread := Toml.Record.read_of_decodeTable AppConfig.apart_connectors h
  unfold Toml.Record.read at hread
  change (match entries.lookup "connectors" with
    | some t => (Toml.Codec.map ConnectorConfig.record.codec).decode .text t
    | none => some defaultConnectors) = some config.connectors at hread
  cases hlookup : entries.lookup "connectors" with
  | some connectors =>
      rw [hlookup] at hread
      exact Toml.Codec.get?_of_decode_map hread name
  | none =>
      rw [hlookup] at hread
      rw [← Option.some.inj hread]

/-- Without a legacy table in the document there is no legacy connector. -/
theorem noWebchat_of_decode
    (h : AppConfig.record.decode .text (.table entries) = some config)
    (hlegacy : legacyConnector (.table entries) = none) :
    config.connectors.get? "webchat" = none := by
  rw [get?_connectors_of_decode h]
  change (entries.lookup "connectors").bind (fun connectors => connectors.get "webchat") = none
    at hlegacy
  cases hlookup : entries.lookup "connectors" with
  | some connectors =>
      rw [hlookup, Option.bind_some] at hlegacy
      simp only [hlegacy, Option.bind_none]
  | none => exact get?_defaultConnectors_webchat

end

/-- A migration leaves the model profiles alone and adds the connector `desktop`
at most. -/
theorem isSome_migrateLegacyConnector {value : Toml} {config : AppConfig} {name : String}
    (hname : name ≠ "webchat") (h : (config.connectors.get? name).isSome) :
    ((migrateLegacyConnector value config).1.connectors.get? name).isSome := by
  unfold migrateLegacyConnector
  split
  case h_1 =>
    rw [SortedMap.get?_erase, if_neg hname, SortedMap.get?_insert]
    split
    case isTrue => rfl
    case isFalse => exact h
  case h_2 => exact h

@[simp] theorem modelProfiles_migrateLegacyConnector (value : Toml) (config : AppConfig) :
    (migrateLegacyConnector value config).1.modelProfiles = config.modelProfiles := by
  unfold migrateLegacyConnector
  split <;> rfl

@[simp] theorem connectors_migrateLegacyWeb (value : Toml) (config : AppConfig) :
    (migrateLegacyWeb value config).1.connectors = config.connectors := by
  unfold migrateLegacyWeb
  cases (legacyWeb value "enabled").bind Toml.asBool <;>
    cases (legacyWeb value "listen_address").bind Toml.asStr <;> rfl

@[simp] theorem modelProfiles_migrateLegacyWeb (value : Toml) (config : AppConfig) :
    (migrateLegacyWeb value config).1.modelProfiles = config.modelProfiles := by
  unfold migrateLegacyWeb
  cases (legacyWeb value "enabled").bind Toml.asBool <;>
    cases (legacyWeb value "listen_address").bind Toml.asStr <;> rfl

@[simp] theorem connectors_migrateLegacyConfig (value : Toml) (config : AppConfig) :
    (migrateLegacyConfig value config).1.connectors =
      (migrateLegacyConnector value config).1.connectors :=
  connectors_migrateLegacyWeb _ _

@[simp] theorem modelProfiles_migrateLegacyConfig (value : Toml) (config : AppConfig) :
    (migrateLegacyConfig value config).1.modelProfiles = config.modelProfiles :=
  (modelProfiles_migrateLegacyWeb _ _).trans (modelProfiles_migrateLegacyConnector _ _)

/-- What a migration has changed is settled. -/
theorem settled_migrateLegacyConfig {value : Toml} {config : AppConfig}
    (hdecode : AppConfig.record.decode .text value = some config)
    (hchanged : (migrateLegacyConfig value (mergeMissingDefaults config)).2 = true) :
    (migrateLegacyConfig value (mergeMissingDefaults config)).1.Settled := by
  have hconnectors : ∀ entry ∈ defaultConnectors.entries,
      ((mergeMissingDefaults config).connectors.get? entry.1).isSome := by
    rw [connectors_mergeMissingDefaults]
    exact isSome_insertMissing config.connectors defaultConnectors
  have hprofiles : ∀ entry ∈ defaultModelProfiles.entries,
      ((mergeMissingDefaults config).modelProfiles.get? entry.1).isSome := by
    rw [modelProfiles_mergeMissingDefaults]
    exact isSome_insertMissing config.modelProfiles defaultModelProfiles
  constructor
  case merged =>
    refine mergeMissingDefaults_eq_self ?_ ?_
    · intro entry hentry
      rw [connectors_migrateLegacyConfig]
      exact isSome_migrateLegacyConnector (ne_webchat_of_mem_defaultConnectors entry hentry)
        (hconnectors entry hentry)
    · rw [modelProfiles_migrateLegacyConfig]
      exact hprofiles
  case noWebchat =>
    rw [connectors_migrateLegacyConfig]
    cases hlegacy : legacyConnector value with
    | some legacy =>
        simp only [migrateLegacyConnector, hlegacy]
        rw [SortedMap.get?_erase, if_pos rfl]
    | none =>
        simp only [migrateLegacyConnector, hlegacy]
        -- only a table has a legacy part
        cases value with
        | table entries =>
            rw [connectors_mergeMissingDefaults, SortedMap.get?_insertMissing,
              noWebchat_of_decode hdecode hlegacy, Option.none_or, get?_defaultConnectors_webchat]
        | _ => simp [migrateLegacyConfig, migrateLegacyConnector, migrateLegacyWeb, hlegacy,
            legacyWeb, Toml.get, Toml.asTable] at hchanged

/-- There is nothing to migrate in the document of a settled configuration. -/
theorem migrateLegacyConfig_of_encode {config : AppConfig} {value : Toml}
    (hencode : AppConfig.record.encode config = some value)
    (hsettled : config.connectors.get? "webchat" = none) :
    migrateLegacyConfig value config = (config, false) := by
  have hlegacy : legacyConnector value = none := by
    obtain ⟨connectors, hconnectors, hget⟩ :=
      Toml.Record.get_of_encode hencode AppConfig.apart_connectors.mem
    change value.get "connectors" = some connectors at hget
    rw [legacyConnector, hget, Option.bind_some, Toml.Codec.get_of_encode_map hconnectors]
    change (config.connectors.get? "webchat").bind _ = none
    rw [hsettled, Option.bind_none]
  have hweb : ∀ key, legacyWeb value key = none := by
    intro key
    obtain ⟨gateway, hgateway, hget⟩ := Toml.Record.get_of_encode hencode
      (m := ⟨"gateway", GatewayConfig.record.codec, (·.gateway),
        fun v s => { s with gateway := v }⟩) (by simp [AppConfig.record])
    have hnone : gateway.get "web" = none :=
      Toml.Record.get_of_encode_eq_none hgateway (by decide)
    change value.get "gateway" = some gateway at hget
    rw [legacyWeb, hget, Option.bind_some, hnone, Option.bind_none]
  simp [migrateLegacyConfig, migrateLegacyConnector, migrateLegacyWeb, hlegacy, hweb]

/-! ## A second load -/

section

variable {fromStr : String → Option Toml} {toStringPretty : Toml → Option String}

theorem parse_eq_some_iff {raw : String} {value : Toml} {config : AppConfig} :
    AppConfig.parse fromStr raw = some (value, config) ↔
      fromStr raw = some value ∧ AppConfig.record.decode .text value = some config := by
  unfold AppConfig.parse
  cases fromStr raw with
  | none => simp
  | some read =>
      cases hdecode : AppConfig.record.decode .text read <;>
        simp only [Option.bind_some, hdecode, Option.map_none, Option.map_some, reduceCtorEq,
          Option.some.injEq, Prod.mk.injEq, false_iff, not_and]
      case none =>
        rintro rfl h
        cases hdecode.symm.trans h
      case some =>
        constructor
        · rintro ⟨rfl, rfl⟩
          exact ⟨rfl, hdecode⟩
        · rintro ⟨rfl, h⟩
          exact ⟨rfl, Option.some.inj (hdecode.symm.trans h)⟩

/-- A file that loads was parsed. -/
theorem parse_of_load {raw : String} {document : Toml} {loaded : AppConfig}
    {written : Option String} (hread : fromStr raw = some document)
    (hload : loadOrInit fromStr toStringPretty (some raw) = .ok (loaded, written)) :
    ∃ config, AppConfig.parse fromStr raw = some (document, config) := by
  cases hparse : AppConfig.parse fromStr raw with
  | none =>
      simp only [loadOrInit, hparse] at hload
      cases hload
  | some parsed =>
      obtain ⟨value, config⟩ := parsed
      have hvalue := (parse_eq_some_iff.mp hparse).1
      cases hread.symm.trans hvalue
      exact ⟨config, rfl⟩

/-- The text of a configuration that was written. -/
theorem parse_of_write (hround : Toml.RoundTrips fromStr toStringPretty) {config : AppConfig}
    {raw : String} (h : config.write toStringPretty = .ok raw) :
    ∃ value, AppConfig.record.encode config = some value ∧
      AppConfig.parse fromStr raw = some (value, config) := by
  unfold AppConfig.write at h
  split at h
  case h_1 raw' hraw =>
    cases h
    obtain ⟨value, hencode, hprint⟩ := Option.bind_eq_some_iff.mp hraw
    exact ⟨value, hencode, parse_eq_some_iff.mpr
      ⟨hround hprint, Toml.Record.decode_encode .text hencode⟩⟩
  case h_2 => cases h

/-- A settled configuration that is written is what the next load finds. -/
theorem loadOrInit_of_write (hround : Toml.RoundTrips fromStr toStringPretty) {config : AppConfig}
    {raw : String} (hsettled : config.Settled) (h : config.write toStringPretty = .ok raw) :
    loadOrInit fromStr toStringPretty (some raw) = .ok (config, none) := by
  obtain ⟨value, hencode, hparse⟩ := parse_of_write hround h
  simp only [loadOrInit, hparse, hsettled.merged,
    migrateLegacyConfig_of_encode hencode hsettled.noWebchat]
  rfl

/-- The load of the file that a load leaves has the same result and writes nothing. -/
theorem loadOrInit_settles (hround : Toml.RoundTrips fromStr toStringPretty) {file : Option String}
    {config : AppConfig} {written : Option String}
    (h : loadOrInit fromStr toStringPretty file = .ok (config, written)) :
    loadOrInit fromStr toStringPretty (written.or file) = .ok (config, none) := by
  cases file with
  | none =>
      change Except.map _ _ = _ at h
      cases hwrite : AppConfig.write toStringPretty {} with
      | error e =>
          rw [hwrite] at h
          cases h
      | ok raw =>
          rw [hwrite] at h
          cases h
          exact loadOrInit_of_write hround settled_default hwrite
  | some raw =>
      have hload := h
      unfold loadOrInit at h
      dsimp only at h
      split at h
      case h_1 => cases h
      case h_2 value read hparse =>
        split at h
        case isTrue hchanged =>
          have hsettled := settled_migrateLegacyConfig (parse_eq_some_iff.mp hparse).2 hchanged
          cases hwrite : (migrateLegacyConfig value (mergeMissingDefaults read)).1.write
              toStringPretty with
          | error e =>
              rw [hwrite] at h
              cases h
          | ok text =>
              rw [hwrite] at h
              cases h
              exact loadOrInit_of_write hround hsettled hwrite
        case isFalse =>
          cases h
          rw [Option.none_or]
          exact hload

end

/-! ## A file of an older version -/

def webchatText : String := "[connectors.webchat]\nmode = \"web\"\n"

def webchatDocument : Toml :=
  .table [("connectors", .table [("webchat", .table [("mode", .string "web")])])]

/-- What a load makes of it. -/
def migratedConfig : AppConfig :=
  (migrateLegacyConfig webchatDocument
    (mergeMissingDefaults { connectors := .singleton "webchat" { mode := "web" } })).1

/-- The document of a configuration that can be written. -/
def AppConfig.document (config : AppConfig) : Toml :=
  (AppConfig.record.encode config).getD (.table [])

/-- Its text, one line for each section. -/
def AppConfig.text (config : AppConfig) : String :=
  Toml.documentText (config.document.asTable.getD [])

/-- The configuration can be written, and `agents` comes first. -/
def AppConfig.Writable (config : AppConfig) : Prop :=
  (config.document.asTable.getD []).head?.map Prod.fst = some "agents"

theorem AppConfig.encode_eq_document {config : AppConfig} (h : config.Writable) :
    AppConfig.record.encode config = some config.document := by
  unfold Writable document at *
  cases hencode : AppConfig.record.encode config with
  | some value => rfl
  | none =>
      rw [hencode] at h
      cases h

theorem AppConfig.text_ne {config : AppConfig} (raw : String) (h : config.Writable)
    (hraw : raw.toList.head? = some '[') : raw ≠ config.text := by
  unfold Writable at h
  unfold text
  cases hdocument : config.document.asTable.getD [] with
  | nil =>
      rw [hdocument] at h
      cases h
  | cons entry rest =>
      rw [hdocument] at h
      obtain ⟨key, value⟩ := entry
      simp only [List.head?_cons, Option.map_some, Option.some.injEq] at h
      intro heq
      subst h heq
      simp [Toml.documentText, String.toList_append] at hraw

/-- The file and the one that the load leaves. -/
def webchatFiles : List (String × Toml) :=
  [(migratedConfig.text, migratedConfig.document), (webchatText, webchatDocument)]

set_option maxRecDepth 10000 in
theorem writable_migratedConfig : migratedConfig.Writable := by
  unfold AppConfig.Writable
  decide

theorem read_webchatText : Toml.readKnown webchatFiles webchatText = some webchatDocument := by
  have hne := AppConfig.text_ne webchatText writable_migratedConfig (by decide)
  simp [Toml.readKnown, webchatFiles, List.lookup_cons, beq_eq_false_iff_ne.mpr hne]

theorem loadOrInit_webchat :
    loadOrInit (Toml.readKnown webchatFiles) (Toml.printKnown webchatFiles) (some webchatText) =
      .ok (migratedConfig, some migratedConfig.text) := by
  have hwrite : migratedConfig.write (Toml.printKnown webchatFiles) = .ok migratedConfig.text := by
    simp [AppConfig.write, AppConfig.encode_eq_document writable_migratedConfig, webchatFiles,
      Toml.printKnown_head]
  have hparse : AppConfig.parse (Toml.readKnown webchatFiles) webchatText =
      some (webchatDocument, { connectors := .singleton "webchat" { mode := "web" } }) :=
    parse_eq_some_iff.mpr ⟨read_webchatText, rfl⟩
  have hmigrated : migrateLegacyConfig webchatDocument
      (mergeMissingDefaults { connectors := .singleton "webchat" { mode := "web" } }) =
        (migratedConfig, true) := rfl
  simp only [loadOrInit, hparse, hmigrated, hwrite]
  rfl

/-- A file with a connector `webchat` is migrated once. -/
theorem loadOrInit_settles_webchat :
    loadOrInit (Toml.readKnown webchatFiles) (Toml.printKnown webchatFiles) (some webchatText) =
        .ok (migratedConfig, some migratedConfig.text) ∧
      loadOrInit (Toml.readKnown webchatFiles) (Toml.printKnown webchatFiles)
        (some migratedConfig.text) = .ok (migratedConfig, none) := by
  have hsecond := loadOrInit_settles (Toml.roundTrips_known webchatFiles) loadOrInit_webchat
  rw [Option.some_or] at hsecond
  exact ⟨loadOrInit_webchat, hsecond⟩

end OpenPinch.ConfigFile
