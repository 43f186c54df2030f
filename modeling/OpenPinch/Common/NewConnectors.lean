import OpenPinch.Common.ConfigEdits

/-!
# New connectors

A connector that `set` creates starts from the derived defaults.  A connector
that the file describes starts from the defaults of serde.  The two differ in
three fields, one of which is `pair_dm`, so both ways to add a connector agree
only where a migration replaces what they have added (`set_connector_eq_file_iff`).
-/

namespace OpenPinch.ConfigFile

open Lib (SortedMap Toml)

/-! ## Model -/

section

variable (fromStr : String → Option Toml) (print : Toml → Option String)

/-- `AppConfig::set` and `AppConfig::write`, and then `AppConfig::load_or_init`. -/
def setAndReload (config : AppConfig) (key value : String) : Except String AppConfig :=
  match (AppConfig.set key value).run config with
  | (.error e, _) => .error e
  | (.ok (), config) => do
      let raw ← config.write print
      let (loaded, _) ← loadOrInit fromStr print (some raw)
      pure loaded

end

/-- The TOML value of a field of a connector that `set` takes. -/
def fieldValue (field value : String) : Option Toml :=
  if field = "enabled" then (parseBool value).map .boolean
  else if field = "mode" ∨ field = "endpoint" then some (.string value)
  else none

/-- The table of a connector in a document. -/
def connectorTable (document : Toml) (name : String) : Option Toml :=
  (document.get "connectors").bind fun connectors => connectors.get name

/-! ## Defaults -/

/-- What a connector starts from, by two of its fields. -/
structure ConnectorConfig.StartsFrom (connector start : ConnectorConfig) : Prop where
  apiFirst : connector.apiFirst = start.apiFirst
  pairDm : connector.pairDm = start.pairDm
  authMode : connector.authMode = start.authMode

/-- An edit of a connector leaves alone what no field sets. -/
theorem startsFrom_of_fieldEdit {unsupported field value : String}
    {update : ConnectorConfig → ConnectorConfig}
    (h : fieldEdit connectorFields unsupported field value = .ok update)
    (connector : ConnectorConfig) : (update connector).StartsFrom connector := by
  simp only [connectorFields, fieldEdit_text, fieldEdit_flag] at h
  split_ifs at h
  case pos =>
    cases hb : parseBool value with
    | none =>
        rw [hb] at h
        cases h
    | some b =>
        rw [hb] at h
        cases h
        exact ⟨rfl, rfl, rfl⟩
  case pos =>
    cases h
    exact ⟨rfl, rfl, rfl⟩
  case pos =>
    cases h
    exact ⟨rfl, rfl, rfl⟩
  case neg => cases h

/-- A table with one field. -/
theorem decode_of_fieldValue {field value : String} {v : Toml}
    (h : fieldValue field value = some v) :
    ∃ connector, ConnectorConfig.record.decode .text (.table [(field, v)]) = some connector ∧
      connector.StartsFrom {} := by
  unfold fieldValue at h
  split_ifs at h with henabled hfield
  · obtain ⟨b, _, rfl⟩ := Option.map_eq_some_iff.mp h
    subst henabled
    exact ⟨{ enabled := b }, rfl, rfl, rfl, rfl⟩
  · cases h
    rcases hfield with rfl | rfl
    · exact ⟨{ mode := value }, rfl, rfl, rfl, rfl⟩
    · exact ⟨{ endpoint := value }, rfl, rfl, rfl, rfl⟩

theorem authMode_migrateConnector (connector : ConnectorConfig) :
    (migrateConnector connector).authMode ≠ "" := by
  unfold migrateConnector
  dsimp only
  split
  case isTrue => decide
  case isFalse h => exact fun hempty => h (.inl hempty)

/-! ## The connectors of a load -/

/-- A load has migrated the connector `webchat`. -/
theorem get?_migrateLegacyConnector (value : Toml) (config : AppConfig) (name : String) :
    (migrateLegacyConnector value config).1.connectors.get? name =
      match legacyConnector value with
      | some legacy =>
          if name = "webchat" then none
          else if name = "desktop" then some (migrateConnector (readLegacyConnector legacy))
          else config.connectors.get? name
      | none => config.connectors.get? name := by
  unfold migrateLegacyConnector
  cases legacyConnector value with
  | some legacy => rw [SortedMap.get?_erase, SortedMap.get?_insert]
  | none => rfl

section

variable {fromStr : String → Option Toml} {print : Toml → Option String} {raw : String}
  {value : Toml} {config loaded : AppConfig} {written : Option String}

theorem connectors_of_load (hparse : AppConfig.parse fromStr raw = some (value, config))
    (h : loadOrInit fromStr print (some raw) = .ok (loaded, written)) :
    loaded.connectors =
      (migrateLegacyConnector value (mergeMissingDefaults config)).1.connectors := by
  simp only [loadOrInit, hparse] at h
  split at h
  case isTrue =>
    cases hwrite : (migrateLegacyConfig value (mergeMissingDefaults config)).1.write print with
    | error e =>
        rw [hwrite] at h
        cases h
    | ok text =>
        rw [hwrite] at h
        cases h
        exact connectors_migrateLegacyConfig _ _
  case isFalse =>
    cases h
    exact connectors_migrateLegacyConfig _ _

/-- A connector that was read is there after the load, if no migration touches it. -/
theorem get?_of_load (hparse : AppConfig.parse fromStr raw = some (value, config))
    (h : loadOrInit fromStr print (some raw) = .ok (loaded, written)) {name : String}
    {connector : ConnectorConfig} (hname : config.connectors.get? name = some connector) :
    loaded.connectors.get? name =
      match legacyConnector value with
      | some legacy =>
          if name = "webchat" then none
          else if name = "desktop" then some (migrateConnector (readLegacyConnector legacy))
          else some connector
      | none => some connector := by
  rw [connectors_of_load hparse h, get?_migrateLegacyConnector, connectors_mergeMissingDefaults,
    SortedMap.get?_insertMissing, hname, Option.some_or]

end

/-- The legacy connector of a configuration that was written. -/
theorem legacyConnector_of_encode {config : AppConfig} {value : Toml}
    (h : AppConfig.record.encode config = some value) :
    (legacyConnector value).map readLegacyConnector = config.connectors.get? "webchat" := by
  obtain ⟨connectors, hconnectors, hget⟩ :=
    Toml.Record.get_of_encode h AppConfig.apart_connectors.mem
  change value.get "connectors" = some connectors at hget
  have hread := (Toml.Codec.map ConnectorConfig.record.codec).decode_encode .value hconnectors
  have hlookup := Toml.Codec.get?_of_decode_map hread "webchat"
  have hwritten := Toml.Codec.get_of_encode_map hconnectors "webchat"
  change config.connectors.get? "webchat" = _ at hlookup
  change connectors.get "webchat" = (config.connectors.get? "webchat").bind _ at hwritten
  rw [legacyConnector, hget, Option.bind_some]
  cases hlegacy : connectors.get "webchat" with
  | none =>
      rw [hlegacy] at hlookup
      rw [hlookup]
      rfl
  | some legacy =>
      rw [hlegacy, Option.bind_some] at hlookup
      cases hmine : config.connectors.get? "webchat" with
      | none =>
          rw [hlegacy, hmine] at hwritten
          cases hwritten
      | some mine =>
          rw [hmine] at hlookup
          change some mine = ConnectorConfig.record.decode .value legacy at hlookup
          rw [Option.map_some, readLegacyConnector, ← hlookup, Option.getD_some]

/-! ## The two ways -/

/-- An edit of a connector. -/
theorem run_set_connector {config : AppConfig} {key first name field value : String}
    (hparts : dotted key = [first, name, field]) (hkey : startsWith key "connectors.") :
    (AppConfig.set key value).run config =
      match fieldEdit connectorFields "unsupported connector field " field value with
      | .ok update => (.ok (), (config.addConnector name).updateConnector name update)
      | .error e => (.error e, config.addConnector name) := by
  have hmodels : ¬ startsWith key "models." := by
    rw [startsWith_models_eq_false hkey]
    exact Bool.false_ne_true
  rw [AppConfig.set, lookup_fixedKeys_eq_none (.inr hkey)]
  simp only [if_neg hmodels, if_pos hkey, setConnector]
  rw [run_entryEdit hparts, run_assign]
  cases fieldEdit connectorFields "unsupported connector field " field value <;> rfl

/-- The connector that an edit creates. -/
theorem connectors_of_set {config config' : AppConfig} {key first name field value : String}
    (hparts : dotted key = [first, name, field]) (hkey : startsWith key "connectors.")
    (hnew : config.connectors.get? name = none)
    (hset : (AppConfig.set key value).run config = (.ok (), config')) :
    (∃ connector, config'.connectors.get? name = some connector ∧
        connector.StartsFrom .default) ∧
      ∀ other, other ≠ name → config'.connectors.get? other = config.connectors.get? other := by
  rw [run_set_connector hparts hkey] at hset
  cases hedit : fieldEdit connectorFields "unsupported connector field " field value with
  | error e =>
      rw [hedit] at hset
      cases hset
  | ok update =>
      rw [hedit] at hset
      cases hset
      constructor
      · refine ⟨update .default, ?_, startsFrom_of_fieldEdit hedit _⟩
        rw [AppConfig.updateConnector, AppConfig.addConnector, SortedMap.get?_adjust, if_pos rfl,
          SortedMap.get?_insertNew, if_pos rfl, hnew, Option.getD_none, Option.map_some]
      · intro other hother
        rw [AppConfig.updateConnector, AppConfig.addConnector, SortedMap.get?_adjust,
          if_neg hother, SortedMap.get?_insertNew, if_neg hother]

theorem startsWith_of_dotted {key name field : String}
    (h : dotted key = ["connectors", name, field]) : startsWith key "connectors." := by
  have hsplit : ∀ parts : List (List Char), parts.map String.ofList = ["connectors", name, field] →
      parts = ["connectors".toList, name.toList, field.toList] := by
    intro parts hparts
    have htoList := congrArg (List.map String.toList) hparts
    simpa [List.map_map, Function.comp_def] using htoList
  have hkey : ['.'].intercalate (key.toList.splitOn '.') = key.toList :=
    List.intercalate_splitOn '.'
  rw [hsplit _ h] at hkey
  rw [startsWith, ← hkey, List.isPrefixOf_iff_prefix]
  exact ⟨name.toList ++ '.' :: field.toList, by simp [List.intercalate]⟩

section

variable {fromStr : String → Option Toml} {print : Toml → Option String}

/-- What a configuration that was written gives for a name. -/
theorem get?_of_reload (hround : Toml.RoundTrips fromStr print) {config loaded : AppConfig}
    {raw : String} {written : Option String} (hwrite : config.write print = .ok raw)
    (hload : loadOrInit fromStr print (some raw) = .ok (loaded, written)) {name : String}
    {connector : ConnectorConfig} (hname : config.connectors.get? name = some connector) :
    loaded.connectors.get? name =
      match config.connectors.get? "webchat" with
      | some mine =>
          if name = "webchat" then none
          else if name = "desktop" then some (migrateConnector mine)
          else some connector
      | none => some connector := by
  obtain ⟨value, hencode, hparse⟩ := parse_of_write hround hwrite
  rw [get?_of_load hparse hload hname, ← legacyConnector_of_encode hencode]
  cases legacyConnector value <;> rfl

/-- What a document gives for a name whose table has one field. -/
theorem get?_of_document {document : Toml} {text : String} {loaded : AppConfig}
    {written : Option String} (hread : fromStr text = some document)
    (hload : loadOrInit fromStr print (some text) = .ok (loaded, written))
    {name field value : String} {v : Toml} (hvalue : fieldValue field value = some v)
    (htable : connectorTable document name = some (.table [(field, v)])) :
    ∃ connector : ConnectorConfig, connector.StartsFrom {} ∧
      loaded.connectors.get? name =
        match legacyConnector document with
        | some legacy =>
            if name = "webchat" then none
            else if name = "desktop" then some (migrateConnector (readLegacyConnector legacy))
            else some connector
        | none => some connector := by
  obtain ⟨connector, hdecode, hstarts⟩ := decode_of_fieldValue hvalue
  refine ⟨connector, hstarts, ?_⟩
  obtain ⟨config, hparse⟩ := parse_of_load hread hload
  refine get?_of_load hparse hload ?_
  cases document with
  | table entries =>
      rw [get?_connectors_of_decode (parse_eq_some_iff.mp hparse).2]
      obtain ⟨connectors, hconnectors, hget⟩ := Option.bind_eq_some_iff.mp htable
      rw [Toml.get_table] at hconnectors
      simp only [hconnectors, hget, Option.bind_some, hdecode]
  | _ => cases htable

/-- The steps of a reload. -/
theorem ok_of_setAndReload {config loaded : AppConfig} {key value : String}
    (h : setAndReload fromStr print config key value = .ok loaded) :
    ∃ config' raw written, (AppConfig.set key value).run config = (.ok (), config') ∧
      config'.write print = .ok raw ∧
        loadOrInit fromStr print (some raw) = .ok (loaded, written) := by
  unfold setAndReload at h
  split at h
  case h_1 => cases h
  case h_2 config' hrun =>
    cases hwrite : config'.write print with
    | error e =>
        rw [hwrite] at h
        cases h
    | ok raw =>
        rw [hwrite] at h
        cases hload : loadOrInit fromStr print (some raw) with
        | error e =>
            simp only [bind, Except.bind, hload] at h
            cases h
        | ok result =>
            simp only [bind, Except.bind, hload] at h
            cases h
            exact ⟨config', raw, result.2, hrun, hwrite, hload⟩

theorem setAndReload_eq_ok {config config' loaded : AppConfig} {key value raw : String}
    {written : Option String} (hset : (AppConfig.set key value).run config = (.ok (), config'))
    (hwrite : config'.write print = .ok raw)
    (hload : loadOrInit fromStr print (some raw) = .ok (loaded, written)) :
    setAndReload fromStr print config key value = .ok loaded := by
  simp only [setAndReload, hset, hwrite, bind, Except.bind, hload]
  rfl

/-- Connectors that start from the two sources of defaults differ, and differ from
one that was migrated. -/
theorem ne_of_startsFrom {created described : ConnectorConfig} (mine : ConnectorConfig)
    (hcreated : created.StartsFrom .default) (hdescribed : described.StartsFrom {}) :
    created ≠ described ∧ created ≠ migrateConnector mine ∧
      migrateConnector mine ≠ described := by
  refine ⟨?_, ?_, ?_⟩
  · rintro rfl
    exact Bool.false_ne_true (hcreated.apiFirst.symm.trans hdescribed.apiFirst)
  · rintro rfl
    exact authMode_migrateConnector mine hcreated.authMode
  · rintro rfl
    exact authMode_migrateConnector mine hdescribed.authMode

/-- A connector that `set` creates is the connector that the file would have
described, exactly where a migration replaces both by the same. -/
theorem set_connector_eq_file_iff (hround : Toml.RoundTrips fromStr print)
    {config loaded fileLoaded : AppConfig} {key name field value text : String} {document v : Toml}
    {written : Option String} (hkey : dotted key = ["connectors", name, field])
    (hnew : config.connectors.get? name = none)
    (hset : setAndReload fromStr print config key value = .ok loaded)
    (hread : fromStr text = some document) (hvalue : fieldValue field value = some v)
    (htable : connectorTable document name = some (.table [(field, v)]))
    (hload : loadOrInit fromStr print (some text) = .ok (fileLoaded, written)) :
    loaded.connectors.get? name = fileLoaded.connectors.get? name ↔
      name = "webchat" ∨ name = "desktop" ∧
        ∃ mine legacy, config.connectors.get? "webchat" = some mine ∧
          legacyConnector document = some legacy ∧
          migrateConnector mine = migrateConnector (readLegacyConnector legacy) := by
  obtain ⟨described, hdescribed, hfile⟩ := get?_of_document hread hload hvalue htable
  obtain ⟨config', raw, _, hrun, hwrite, hreload⟩ := ok_of_setAndReload hset
  obtain ⟨⟨created, hname, hcreated⟩, hothers⟩ :=
    connectors_of_set hkey (startsWith_of_dotted hkey) hnew hrun
  have hreloaded := get?_of_reload hround hwrite hreload hname
  by_cases hwebchat : name = "webchat"
  case pos =>
    -- both are migrated away
    subst hwebchat
    rw [hreloaded, hfile, hname, show legacyConnector document = some _ from htable]
    simp
  case neg =>
    rw [hothers _ (Ne.symm hwebchat)] at hreloaded
    rw [hreloaded, hfile]
    by_cases hdesktop : name = "desktop"
    case pos =>
      cases hmine : config.connectors.get? "webchat" with
      | some mine =>
          cases hlegacy : legacyConnector document with
          | some legacy => simp [hdesktop]
          | none =>
              have hne := (ne_of_startsFrom mine hcreated hdescribed).2.2
              simp [hdesktop, hne]
      | none =>
          cases hlegacy : legacyConnector document with
          | some legacy =>
              have hne := (ne_of_startsFrom (readLegacyConnector legacy) hcreated hdescribed).2.1
              simp [hdesktop, hne]
          | none =>
              have hne := (ne_of_startsFrom created hcreated hdescribed).1
              simp [hdesktop, hne]
    case neg =>
      have hne := (ne_of_startsFrom created hcreated hdescribed).1
      cases hmine : config.connectors.get? "webchat" <;>
        cases hlegacy : legacyConnector document <;> simp [hwebchat, hdesktop, hne]

end

/-! ## A connector added in both ways -/

def mastodonText : String := "[connectors.mastodon]\nmode = \"bridge\"\n"

def mastodonDocument : Toml :=
  .table [("connectors", .table [("mastodon", .table [("mode", .string "bridge")])])]

/-- The default configuration after `set("connectors.mastodon.mode", "bridge")`. -/
def mastodonConfig : AppConfig :=
  (({} : AppConfig).addConnector "mastodon").updateConnector "mastodon" fun connector =>
    { connector with mode := "bridge" }

/-- What a load makes of the text. -/
def mastodonLoaded : AppConfig :=
  mergeMissingDefaults { connectors := .singleton "mastodon" { mode := "bridge" } }

/-- The file of the configuration and the text. -/
def mastodonFiles : List (String × Toml) :=
  [(mastodonConfig.text, mastodonConfig.document), (mastodonText, mastodonDocument)]

set_option maxRecDepth 10000 in
theorem writable_mastodonConfig : mastodonConfig.Writable := by
  unfold AppConfig.Writable
  decide

theorem settled_mastodonConfig : mastodonConfig.Settled := by
  refine ⟨mergeMissingDefaults_eq_self ?_ ?_, ?_⟩ <;> decide

theorem reload_mastodon :
    setAndReload (Toml.readKnown mastodonFiles) (Toml.printKnown mastodonFiles) {}
      "connectors.mastodon.mode" "bridge" = .ok mastodonConfig := by
  have hwrite : mastodonConfig.write (Toml.printKnown mastodonFiles) =
      .ok mastodonConfig.text := by
    simp [AppConfig.write, AppConfig.encode_eq_document writable_mastodonConfig, mastodonFiles,
      Toml.printKnown_head]
  have hset : (AppConfig.set "connectors.mastodon.mode" "bridge").run {} =
      (.ok (), mastodonConfig) :=
    run_set_connector (by decide : dotted _ = ["connectors", "mastodon", "mode"]) (by decide)
  exact setAndReload_eq_ok hset hwrite
    (loadOrInit_of_write (Toml.roundTrips_known mastodonFiles) settled_mastodonConfig hwrite)

theorem read_mastodonText : Toml.readKnown mastodonFiles mastodonText = some mastodonDocument := by
  have hne := AppConfig.text_ne mastodonText writable_mastodonConfig (by decide)
  simp [Toml.readKnown, mastodonFiles, List.lookup_cons, beq_eq_false_iff_ne.mpr hne]

theorem load_mastodonText :
    loadOrInit (Toml.readKnown mastodonFiles) (Toml.printKnown mastodonFiles) (some mastodonText) =
      .ok (mastodonLoaded, none) := by
  have hparse : AppConfig.parse (Toml.readKnown mastodonFiles) mastodonText =
      some (mastodonDocument, { connectors := .singleton "mastodon" { mode := "bridge" } }) :=
    parse_eq_some_iff.mpr ⟨read_mastodonText, rfl⟩
  have hmigrated : migrateLegacyConfig mastodonDocument
      (mergeMissingDefaults { connectors := .singleton "mastodon" { mode := "bridge" } }) =
        (mastodonLoaded, false) := rfl
  simp only [loadOrInit, hparse, hmigrated]
  rfl

/-- The connector `mastodon` is not the same in both ways. -/
theorem set_connector_eq_file_mastodon :
    mastodonConfig.connectors.get? "mastodon" = mastodonLoaded.connectors.get? "mastodon" ↔
      "mastodon" = "webchat" ∨ "mastodon" = "desktop" ∧
        ∃ mine legacy, ({} : AppConfig).connectors.get? "webchat" = some mine ∧
          legacyConnector mastodonDocument = some legacy ∧
          migrateConnector mine = migrateConnector (readLegacyConnector legacy) :=
  set_connector_eq_file_iff (Toml.roundTrips_known mastodonFiles)
    (by decide : dotted "connectors.mastodon.mode" = ["connectors", "mastodon", "mode"])
    (by decide) reload_mastodon read_mastodonText rfl rfl load_mastodonText

set_option maxRecDepth 10000 in
/-- A new connector needs no pairing when `set` creates it, and does when the file
describes it. -/
theorem set_connector_eq_file_fails :
    ¬ ∀ (fromStr : String → Option Toml) (print : Toml → Option String)
        (config loaded fileLoaded : AppConfig) (key name field value text : String)
        (document v : Toml) (written : Option String),
      Toml.RoundTrips fromStr print → dotted key = ["connectors", name, field] →
      config.connectors.get? name = none →
      setAndReload fromStr print config key value = .ok loaded →
      fromStr text = some document → fieldValue field value = some v →
      connectorTable document name = some (.table [(field, v)]) →
      loadOrInit fromStr print (some text) = .ok (fileLoaded, written) →
        loaded.connectors.get? name = fileLoaded.connectors.get? name := by
  intro h
  have hsame := h _ _ {} mastodonConfig mastodonLoaded "connectors.mastodon.mode" "mastodon" "mode"
    "bridge" mastodonText mastodonDocument (.string "bridge") none
    (Toml.roundTrips_known mastodonFiles) rfl (by decide) reload_mastodon read_mastodonText rfl rfl
    load_mastodonText
  have hpair := congrArg (Option.map ConnectorConfig.pairDm) hsame
  revert hpair
  decide

end OpenPinch.ConfigFile
