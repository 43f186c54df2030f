import OpenPinch.Common.NewConnectors

/-!
# The connectors in the gateway

The gateway reads the same file as the engine and migrates the connector
`webchat` by rules of its own.  What the file does not mention is a zero value
for the gateway, and a default of serde for the engine.  `migrations_agree_iff`
says when the gateway gets the same connector from the file and from the file
that the engine has migrated.
-/

namespace OpenPinch.ConfigFile

open Lib (SortedMap Toml)
open Lib.Toml (Record)

/-! ## Model -/

/-- `ConnectorConfig` of the gateway, with its zero value. -/
structure GatewayConnector where
  enabled : Bool := false
  mode : String := ""
  endpoint : String := ""
  allowlist : List String := []
  apiFirst : Bool := false
  deferred : Bool := false
  authMode : String := ""
  pairDm : Bool := false
  chunkLimit : Nat := 0
  mentionOnly : Bool := false
deriving DecidableEq, Repr

def GatewayConnector.record : Record GatewayConnector where
  absent := {}
  members := [
    ⟨"enabled", .bool, (·.enabled), fun v s => { s with enabled := v }⟩,
    ⟨"mode", .string, (·.mode), fun v s => { s with mode := v }⟩,
    ⟨"endpoint", .string, (·.endpoint), fun v s => { s with endpoint := v }⟩,
    ⟨"allowlist", .list .string, (·.allowlist), fun v s => { s with allowlist := v }⟩,
    ⟨"api_first", .bool, (·.apiFirst), fun v s => { s with apiFirst := v }⟩,
    ⟨"deferred", .bool, (·.deferred), fun v s => { s with deferred := v }⟩,
    ⟨"auth_mode", .string, (·.authMode), fun v s => { s with authMode := v }⟩,
    ⟨"pair_dm", .bool, (·.pairDm), fun v s => { s with pairDm := v }⟩,
    ⟨"chunk_limit", u64, (·.chunkLimit), fun v s => { s with chunkLimit := v }⟩,
    ⟨"mention_only", .bool, (·.mentionOnly), fun v s => { s with mentionOnly := v }⟩]
  nodup_names := by decide
  rebuild _ _ := rfl

/-- The `toml` names of the fields of a connector. -/
def connectorNames : List String :=
  ["enabled", "mode", "endpoint", "allowlist", "api_first", "deferred", "auth_mode", "pair_dm",
    "chunk_limit", "mention_only"]

/-- `migrateLegacyConnectors`, what it makes of `webchat`. -/
def GatewayConnector.migrate (legacy : GatewayConnector) : GatewayConnector :=
  { legacy with
    mode := if legacy.mode = "" ∨ legacy.mode = "web" then "native" else legacy.mode
    authMode :=
      if legacy.authMode = "" ∨ legacy.authMode = "local-session" then "local-process"
      else legacy.authMode
    deferred := false
    pairDm := false
    mentionOnly := false }

/-- The connector `desktop` of `migrateLegacyConnectors` when there is none. -/
def GatewayConnector.desktop : GatewayConnector where
  enabled := true
  mode := "native"
  apiFirst := true
  deferred := false
  authMode := "local-process"
  pairDm := false
  chunkLimit := 1800
  mentionOnly := false

/-- `migrateLegacyConnectors`. -/
def migrateLegacyConnectors (connectors : SortedMap String GatewayConnector) :
    SortedMap String GatewayConnector :=
  let connectors :=
    match connectors.get? "webchat" with
    | some legacy => (connectors.insert "desktop" legacy.migrate).erase "webchat"
    | none => connectors
  connectors.insertNew "desktop" .desktop

section

/- What go-toml takes a key for that is not a field as it is spelled,
`strings.ToLower`. -/
variable (fold : String → String)

/-- The members of a table, and again those that are only a field when folded. -/
def spellings (entries : List (String × Toml)) : List (String × Toml) :=
  entries ++ (entries.filter fun e => e.1 ∉ connectorNames).map fun e => (fold e.1, e.2)

/-- A connector of the file, for `toml.Unmarshal`. -/
def unmarshalConnector : Toml → Option GatewayConnector
  | .table entries => GatewayConnector.record.decodeTable .text (spellings fold entries)
  | _ => none

/-- The connectors of the file, for `toml.Unmarshal`. -/
def unmarshalConnectors (document : Toml) : Option (SortedMap String GatewayConnector) :=
  match document.get "connectors" with
  | some (.table entries) =>
      (entries.mapM (Toml.Codec.entry (unmarshalConnector fold))).map SortedMap.ofEntries
  | some _ => none
  | none => some .empty

/-- `Load`, as far as the connectors go. -/
def loadConnectors (document : Toml) : Option (SortedMap String GatewayConnector) :=
  (unmarshalConnectors fold document).map migrateLegacyConnectors

/-- The connector `desktop` of the gateway. -/
def gatewayDesktop (document : Toml) : Option GatewayConnector :=
  (loadConnectors fold document).bind fun connectors => connectors.get? "desktop"

end

/-! ## Fields -/

theorem ConnectorConfig.apart :
    ∀ m ∈ ConnectorConfig.record.members, ConnectorConfig.record.Apart m := by
  have hown : ∀ m ∈ ConnectorConfig.record.members, ∀ v s, m.get (m.set v s) = v := by
    simp [ConnectorConfig.record]
  have hother : ∀ m ∈ ConnectorConfig.record.members, ∀ m' ∈ ConnectorConfig.record.members,
      m'.name ≠ m.name → ∀ v s, m.get (m'.set v s) = m.get s := by
    simp [ConnectorConfig.record]
  exact fun m hm => ⟨hm, hown m hm, hother m hm⟩

theorem GatewayConnector.apart :
    ∀ m ∈ GatewayConnector.record.members, GatewayConnector.record.Apart m := by
  have hown : ∀ m ∈ GatewayConnector.record.members, ∀ v s, m.get (m.set v s) = v := by
    simp [GatewayConnector.record]
  have hother : ∀ m ∈ GatewayConnector.record.members, ∀ m' ∈ GatewayConnector.record.members,
      m'.name ≠ m.name → ∀ v s, m.get (m'.set v s) = m.get s := by
    simp [GatewayConnector.record]
  exact fun m hm => ⟨hm, hown m hm, hother m hm⟩

theorem spellings_eq_self {fold : String → String} {entries : List (String × Toml)}
    (h : ∀ e ∈ entries, e.1 ∈ connectorNames) : spellings fold entries = entries := by
  have hnone : (entries.filter fun e => e.1 ∉ connectorNames) = [] := by
    rw [List.filter_eq_nil_iff]
    intro e he
    simpa using h e he
  rw [spellings, hnone, List.map_nil, List.append_nil]

section

variable {entries : List (String × Toml)} {connector : ConnectorConfig}
  {unmarshaled : GatewayConnector} {i : Nat} {α : Type} {name : String} {codec : Toml.Codec α}
  {get : ConnectorConfig → α} {set : α → ConnectorConfig → ConnectorConfig}
  {get' : GatewayConnector → α} {set' : α → GatewayConnector → GatewayConnector}

/-- The engine and the gateway read the same of a field that is there.  One that
is not there is the same if their defaults are. -/
theorem field_eq_iff (hengine : ConnectorConfig.record.decodeTable .text entries = some connector)
    (hgateway : GatewayConnector.record.decodeTable .text entries = some unmarshaled)
    (hm : ConnectorConfig.record.members[i]? = some ⟨name, codec, get, set⟩)
    (hm' : GatewayConnector.record.members[i]? = some ⟨name, codec, get', set'⟩) :
    get' unmarshaled = get connector ↔ (entries.lookup name).isSome ∨ get' {} = get {} := by
  have hapart := ConnectorConfig.apart _ (List.mem_of_getElem? hm)
  have hapart' := GatewayConnector.apart _ (List.mem_of_getElem? hm')
  have hread := Record.read_of_decodeTable hapart hengine
  have hread' := Record.read_of_decodeTable hapart' hgateway
  unfold Record.read at hread hread'
  dsimp only at hread hread'
  cases hlookup : entries.lookup name with
  | some t =>
      rw [hlookup] at hread hread'
      have hsame := Option.some.inj (hread'.symm.trans hread)
      simp [hsame]
  | none =>
      rw [hlookup] at hread hread'
      rw [← Option.some.inj hread, ← Option.some.inj hread']
      simp [ConnectorConfig.record, GatewayConnector.record]

end

/-- A connector of the engine, as the gateway reads it. -/
def GatewayConnector.ofEngine (connector : ConnectorConfig) : GatewayConnector where
  enabled := connector.enabled
  mode := connector.mode
  endpoint := connector.endpoint
  allowlist := connector.allowlist
  apiFirst := connector.apiFirst
  deferred := connector.deferred
  authMode := connector.authMode
  pairDm := connector.pairDm
  chunkLimit := connector.chunkLimit
  mentionOnly := connector.mentionOnly

theorem encode_ofEngine (connector : ConnectorConfig) :
    GatewayConnector.record.encode (.ofEngine connector) =
      ConnectorConfig.record.encode connector := rfl

/-- The gateway reads every connector that the engine has written. -/
theorem unmarshalConnector_of_encode (fold : String → String) {connector : ConnectorConfig}
    {t : Toml} (h : ConnectorConfig.record.encode connector = some t) :
    unmarshalConnector fold t = some (.ofEngine connector) := by
  rw [← encode_ofEngine] at h
  have hdecode := Record.decode_encode .text h
  obtain ⟨ts, _, rfl⟩ := Option.map_eq_some_iff.mp h
  change GatewayConnector.record.decodeTable .text (spellings fold _) = _
  rw [spellings_eq_self fun e he => Record.name_mem_of_encode h he]
  exact hdecode

/-- What the engine reads from the text it reads from the value, too. -/
theorem decodeTable_value_of_text {entries : List (String × Toml)} {connector : ConnectorConfig}
    (h : ConnectorConfig.record.decodeTable .text entries = some connector) :
    ConnectorConfig.record.decodeTable .value entries = some connector := by
  have hupward : ∀ m ∈ ConnectorConfig.record.members, m.codec.Upward := by
    simp [ConnectorConfig.record, Toml.Codec.upward_string, Toml.Codec.upward_bool,
      Toml.Codec.upward_list, u64, Toml.Codec.upward_natBelow]
  refine Record.decodeTable_of_reads fun m hm => ?_
  have hread := Record.read_of_decodeTable (ConnectorConfig.apart m hm) h
  unfold Record.read at *
  cases hlookup : entries.lookup m.name with
  | some t =>
      rw [hlookup] at hread
      exact hupward m hm hread
  | none =>
      rw [hlookup] at hread
      exact hread

/-! ## The connector `desktop` -/

/-- A connector `webchat` becomes the connector `desktop`. -/
theorem desktop_of_webchat {connectors : SortedMap String GatewayConnector}
    {legacy : GatewayConnector} (h : connectors.get? "webchat" = some legacy) :
    (migrateLegacyConnectors connectors).get? "desktop" = some legacy.migrate := by
  simp only [migrateLegacyConnectors, h]
  rw [SortedMap.get?_insertNew, if_pos rfl, SortedMap.get?_erase, if_neg (by decide),
    SortedMap.get?_insert_self, Option.getD_some]

/-- Without it, the connector `desktop` stays. -/
theorem desktop_of_desktop {connectors : SortedMap String GatewayConnector}
    {desktop : GatewayConnector} (hwebchat : connectors.get? "webchat" = none)
    (hdesktop : connectors.get? "desktop" = some desktop) :
    (migrateLegacyConnectors connectors).get? "desktop" = some desktop := by
  simp only [migrateLegacyConnectors, hwebchat]
  rw [SortedMap.get?_insertNew, if_pos rfl, hdesktop, Option.getD_some]

/-- The gateway reads the table `webchat` if it reads the connectors. -/
theorem webchat_of_unmarshal {fold : String → String} {document legacy : Toml}
    {connectors : SortedMap String GatewayConnector}
    (h : unmarshalConnectors fold document = some connectors)
    (hlegacy : legacyConnector document = some legacy) :
    ∃ unmarshaled, unmarshalConnector fold legacy = some unmarshaled ∧
      connectors.get? "webchat" = some unmarshaled := by
  obtain ⟨table, htable, hget⟩ := Option.bind_eq_some_iff.mp hlegacy
  unfold unmarshalConnectors at h
  cases table with
  | table entries =>
      rw [htable] at h
      obtain ⟨es, hes, rfl⟩ := Option.map_eq_some_iff.mp h
      rw [Toml.get_table] at hget
      obtain ⟨unmarshaled, hunmarshaled⟩ := Toml.Codec.exists_of_mapM_entry hes hget
      refine ⟨unmarshaled, hunmarshaled, ?_⟩
      rw [SortedMap.get?_ofEntries, Toml.Codec.lookup_of_mapM_entry hes, hget, Option.bind_some,
        hunmarshaled]
  | _ => cases hget

/-- The engine reads the table `webchat` if it reads the document, and the migration
starts from what it reads. -/
theorem webchat_of_decode {document : Toml} {config : AppConfig} {entries : List (String × Toml)}
    (h : AppConfig.record.decode .text document = some config)
    (hlegacy : legacyConnector document = some (.table entries)) :
    ∃ connector, ConnectorConfig.record.decodeTable .text entries = some connector ∧
      readLegacyConnector (.table entries) = connector := by
  obtain ⟨table, htable, hget⟩ := Option.bind_eq_some_iff.mp hlegacy
  cases document with
  | table members =>
      rw [Toml.get_table] at htable
      have hread := Record.read_of_decodeTable AppConfig.apart_connectors h
      unfold Record.read at hread
      rw [show members.lookup AppConfig.connectorsMember.name = some table from htable] at hread
      change (Toml.Codec.map ConnectorConfig.record.codec).decode .text table =
        some config.connectors at hread
      cases table with
      | table connectors =>
          obtain ⟨es, hes, _⟩ := Option.map_eq_some_iff.mp hread
          rw [Toml.get_table] at hget
          obtain ⟨connector, hconnector⟩ := Toml.Codec.exists_of_mapM_entry hes hget
          refine ⟨connector, hconnector, ?_⟩
          have hvalue := decodeTable_value_of_text hconnector
          change (ConnectorConfig.record.decodeTable .value entries).getD .default = connector
          rw [hvalue, Option.getD_some]
      | _ => cases hget
  | _ => cases htable

/-- The gateway reads the connectors that the engine has written. -/
theorem unmarshalConnectors_of_encode (fold : String → String) {config : AppConfig} {value : Toml}
    (h : AppConfig.record.encode config = some value) :
    ∃ connectors, unmarshalConnectors fold value = some connectors ∧
      ∀ name, connectors.get? name = (config.connectors.get? name).map .ofEngine := by
  obtain ⟨t, ht, hget⟩ := Record.get_of_encode h AppConfig.apart_connectors.mem
  change value.get "connectors" = some t at hget
  obtain ⟨ts, hts, rfl⟩ := Option.map_eq_some_iff.mp ht
  have hread := Toml.Codec.mapM_entry_mapM_entry
    (fun hencode => unmarshalConnector_of_encode fold hencode) hts
  refine ⟨_, by rw [unmarshalConnectors, hget]; exact congrArg (Option.map _) hread, ?_⟩
  intro name
  rw [SortedMap.get?_ofEntries, Toml.Codec.lookup_map_entry]
  exact congrArg (Option.map _) (SortedMap.lookup_entries config.connectors name)

/-- The connector `desktop` of a file that the engine has written. -/
theorem gatewayDesktop_of_encode (fold : String → String) {config : AppConfig} {value : Toml}
    {connector : ConnectorConfig} (h : AppConfig.record.encode config = some value)
    (hwebchat : config.connectors.get? "webchat" = none)
    (hdesktop : config.connectors.get? "desktop" = some connector) :
    gatewayDesktop fold value = some (.ofEngine connector) := by
  obtain ⟨connectors, hconnectors, hget⟩ := unmarshalConnectors_of_encode fold h
  rw [gatewayDesktop, loadConnectors, hconnectors, Option.map_some, Option.bind_some]
  refine desktop_of_desktop ?_ ?_
  · rw [hget, hwebchat, Option.map_none]
  · rw [hget, hdesktop, Option.map_some]

/-- The two migrations of a table agree on all fields if they agree on the two with
other defaults. -/
theorem migrate_eq_iff {entries : List (String × Toml)} {connector : ConnectorConfig}
    {unmarshaled : GatewayConnector}
    (hengine : ConnectorConfig.record.decodeTable .text entries = some connector)
    (hgateway : GatewayConnector.record.decodeTable .text entries = some unmarshaled) :
    unmarshaled.migrate = .ofEngine (migrateConnector connector) ↔
      (entries.lookup "api_first").isSome ∧ (entries.lookup "chunk_limit").isSome := by
  have henabled := (field_eq_iff hengine hgateway (i := 0) rfl rfl).mpr (.inr rfl)
  have hmode := (field_eq_iff hengine hgateway (i := 1) rfl rfl).mpr (.inr rfl)
  have hendpoint := (field_eq_iff hengine hgateway (i := 2) rfl rfl).mpr (.inr rfl)
  have hallowlist := (field_eq_iff hengine hgateway (i := 3) rfl rfl).mpr (.inr rfl)
  have hapiFirst := field_eq_iff hengine hgateway (i := 4) rfl rfl
  have hauthMode := (field_eq_iff hengine hgateway (i := 6) rfl rfl).mpr (.inr rfl)
  have hchunkLimit := field_eq_iff hengine hgateway (i := 8) rfl rfl
  dsimp only at henabled hmode hendpoint hallowlist hapiFirst hauthMode hchunkLimit
  simp [GatewayConnector.migrate, GatewayConnector.ofEngine, migrateConnector, henabled, hmode,
    hendpoint, hallowlist, hauthMode, hapiFirst, hchunkLimit]

section

variable {fromStr : String → Option Toml} {print : Toml → Option String}

/-- The document of the file that the engine writes when it has migrated a connector. -/
theorem written_of_legacy (hround : Toml.RoundTrips fromStr print) {raw : String}
    {document legacy : Toml} {config loaded : AppConfig} {written : Option String}
    (hparse : AppConfig.parse fromStr raw = some (document, config))
    (hlegacy : legacyConnector document = some legacy)
    (h : loadOrInit fromStr print (some raw) = .ok (loaded, written)) :
    ∃ text value, written = some text ∧ fromStr text = some value ∧
      AppConfig.record.encode loaded = some value := by
  have hchanged : (migrateLegacyConfig document (mergeMissingDefaults config)).2 = true := by
    simp [migrateLegacyConfig, migrateLegacyConnector, hlegacy]
  simp only [loadOrInit, hparse, hchanged, if_true] at h
  cases hwrite : (migrateLegacyConfig document (mergeMissingDefaults config)).1.write print with
  | error e =>
      rw [hwrite] at h
      cases h
  | ok text =>
      rw [hwrite] at h
      cases h
      obtain ⟨value, hencode, hvalue⟩ := parse_of_write hround hwrite
      exact ⟨text, value, rfl, (parse_eq_some_iff.mp hvalue).1, hencode⟩

/-- The gateway gets the same connector `desktop` from a file with a connector
`webchat` and from what the engine makes of this file, if and only if the file has
both fields whose defaults differ. -/
theorem migrations_agree_iff (hround : Toml.RoundTrips fromStr print) (fold : String → String)
    {raw : String} {document : Toml} {entries : List (String × Toml)} {loaded : AppConfig}
    {written : Option String} {connectors : SortedMap String GatewayConnector}
    (hread : fromStr raw = some document)
    (hlegacy : legacyConnector document = some (.table entries))
    (hnames : ∀ e ∈ entries, e.1 ∈ connectorNames)
    (hengine : loadOrInit fromStr print (some raw) = .ok (loaded, written))
    (hgateway : loadConnectors fold document = some connectors) :
    ∃ text value, written = some text ∧ fromStr text = some value ∧
      (gatewayDesktop fold document = gatewayDesktop fold value ↔
        (entries.lookup "api_first").isSome ∧ (entries.lookup "chunk_limit").isSome) := by
  obtain ⟨config, hparse⟩ := parse_of_load hread hengine
  obtain ⟨text, value, hwritten, hvalue, hencode⟩ := written_of_legacy hround hparse hlegacy hengine
  obtain ⟨connector, hconnector, hmigrated⟩ :=
    webchat_of_decode (parse_eq_some_iff.mp hparse).2 hlegacy
  obtain ⟨unmarshaled, hunmarshaled, hbefore⟩ :
      ∃ unmarshaled, GatewayConnector.record.decodeTable .text entries = some unmarshaled ∧
        gatewayDesktop fold document = some unmarshaled.migrate := by
    obtain ⟨table, htable, rfl⟩ := Option.map_eq_some_iff.mp hgateway
    obtain ⟨unmarshaled, hunmarshaled, hwebchat⟩ := webchat_of_unmarshal htable hlegacy
    refine ⟨unmarshaled, ?_, ?_⟩
    · rw [unmarshalConnector, spellings_eq_self hnames] at hunmarshaled
      exact hunmarshaled
    · rw [gatewayDesktop, hgateway, Option.bind_some, desktop_of_webchat hwebchat]
  have hdesktop : ∀ name, loaded.connectors.get? name =
      if name = "webchat" then none
      else if name = "desktop" then some (migrateConnector connector)
      else (mergeMissingDefaults config).connectors.get? name := by
    intro name
    rw [connectors_of_load hparse hengine, get?_migrateLegacyConnector, hlegacy]
    dsimp only
    rw [hmigrated]
  have hafter : gatewayDesktop fold value = some (.ofEngine (migrateConnector connector)) := by
    refine gatewayDesktop_of_encode fold hencode ?_ ?_
    · rw [hdesktop, if_pos rfl]
    · rw [hdesktop, if_neg (by decide), if_pos rfl]
  refine ⟨text, value, hwritten, hvalue, ?_⟩
  rw [hbefore, hafter, Option.some.injEq]
  exact migrate_eq_iff hconnector hunmarshaled

end

/-- A table with only a mode. -/
theorem migrations_agree_webchat :
    ∃ text value, some migratedConfig.text = some text ∧
      Toml.readKnown webchatFiles text = some value ∧
      (gatewayDesktop String.toLower webchatDocument = gatewayDesktop String.toLower value ↔
        ([("mode", Toml.string "web")].lookup "api_first").isSome ∧
          ([("mode", Toml.string "web")].lookup "chunk_limit").isSome) :=
  migrations_agree_iff (Toml.roundTrips_known webchatFiles) String.toLower read_webchatText rfl
    (by decide) loadOrInit_webchat rfl

/-- After the migration of the engine the connector has `api_first`. -/
theorem migrations_agree_fails :
    ¬ ∀ (fromStr : String → Option Toml) (print : Toml → Option String) (fold : String → String)
        (raw text : String) (document value : Toml) (entries : List (String × Toml))
        (loaded : AppConfig) (connectors : SortedMap String GatewayConnector),
      Toml.RoundTrips fromStr print → fromStr raw = some document →
      legacyConnector document = some (.table entries) →
      (∀ e ∈ entries, e.1 ∈ connectorNames) →
      loadOrInit fromStr print (some raw) = .ok (loaded, some text) →
      loadConnectors fold document = some connectors → fromStr text = some value →
        gatewayDesktop fold document = gatewayDesktop fold value := by
  intro h
  have hvalue : Toml.readKnown webchatFiles migratedConfig.text = some migratedConfig.document := by
    simp [Toml.readKnown, webchatFiles]
  have hsame := h _ _ String.toLower webchatText migratedConfig.text webchatDocument
    migratedConfig.document [("mode", .string "web")] migratedConfig _
    (Toml.roundTrips_known webchatFiles) read_webchatText rfl (by decide) loadOrInit_webchat rfl
    hvalue
  have hdesktop : migratedConfig.connectors.get? "desktop" =
      some (migrateConnector { mode := "web" }) := by
    rw [migratedConfig, connectors_migrateLegacyConfig, get?_migrateLegacyConnector]
    rfl
  have hwebchat : migratedConfig.connectors.get? "webchat" = none := by
    rw [migratedConfig, connectors_migrateLegacyConfig, get?_migrateLegacyConnector]
    rfl
  rw [gatewayDesktop_of_encode _ (AppConfig.encode_eq_document writable_migratedConfig) hwebchat
    hdesktop] at hsame
  have hfirst := congrArg (Option.map GatewayConnector.apiFirst) hsame
  revert hfirst
  decide

end OpenPinch.ConfigFile
