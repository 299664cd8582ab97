import Moshwatch.Core.ConfigToml
import Moshwatch.Daemon.MetricsToken

namespace Moshwatch

/-- The `toml` crate between texts and values. -/
structure TomlCrate where
  toStringPretty : Toml F64 → Option String
  fromStr : String → Option (Toml F64)

/-- `toml::from_str::<AppConfig>`. -/
def TomlCrate.readConfig (toml : TomlCrate) (text : String) : Option AppConfig :=
  (toml.fromStr text).bind AppConfig.deserialize

section Files

variable (toml : TomlCrate) (http : HttpCrate) (configPath : String) (system : TokenSystem)
  (entry : TokenEntry)

/-- `path_exists` and `read_text_file_securely` take any path. -/
def configFile : RuntimePaths := ⟨configPath⟩

def loadConfig : Except ErrorChain AppConfig :=
  match (configFile configPath).pathExists system entry with
  | .error chain => .error chain
  | .ok false => .ok {}
  | .ok true =>
    match withContext s!"read config {configPath}"
        ((configFile configPath).readTextFileSecurely system entry (1024 * 1024)) with
    | .error chain => .error chain
    | .ok raw =>
      match toml.readConfig raw with
      | none => .error [s!"parse config {configPath}"]
      | some parsed =>
        match parsed.validate http with
        | .error message => .error [s!"validate config {configPath}", message]
        | .ok _ => .ok parsed

def maybeWriteDefaultConfig : Except ErrorChain Unit × TokenEntry :=
  -- `ensure_config_parent` makes the directory the way `ensure_state_dir` does.
  match system.ensureStateDir.bind fun _ => (configFile configPath).pathExists system entry with
  | .error chain => (.error chain, entry)
  | .ok true => (.ok (), entry)
  | .ok false =>
    match (AppConfig.serialize {}).bind toml.toStringPretty with
    | none => (.error ["serialize default config"], entry)
    | some defaultConfig =>
      match RuntimePaths.writeNewTextFileSecurely system defaultConfig with
      | (.error chain, left) =>
        (.error (s!"write default config {configPath}" :: chain), left)
      | (.ok _, written) => (.ok (), written)

end Files

/-- A configuration whose integers fit TOML; a `BTreeMap` iterates in key order. -/
structure MappedConfig (http : HttpCrate) extends LoadedConfig http where
  headers_ascending : Toml.Ascending toAppConfig.metrics.otlp.headers
  attributes_ascending : Toml.Ascending toAppConfig.metrics.otlp.resourceAttributes

section Validation

variable {http : HttpCrate} {config : AppConfig}

theorem AppConfig.validate_listener (valid : config.validate http = .ok ()) :
    config.metrics.prometheus.listenAddr.any isBlank = false := by
  cases blank : config.metrics.prometheus.listenAddr.any isBlank with
  | false => rfl
  | true =>
    simp only [AppConfig.validate, bind_eq_ok, bailIf_eq_ok, blank, Bool.true_eq_false, false_and,
      and_false] at valid

theorem AppConfig.validate_reloaded (valid : config.validate http = .ok ()) :
    config.reloaded.validate http = .ok () := by
  have visible := AppConfig.validate_listener valid
  have default : ({} : PrometheusMetricsConfig).listenAddr.any isBlank = false := by decide
  have same : config.reloaded.metrics.prometheus.listenAddr.any isBlank =
      config.metrics.prometheus.listenAddr.any isBlank := by
    cases given : config.metrics.prometheus.listenAddr with
    | none => simpa [AppConfig.reloaded, given] using default
    | some listenAddr => simp [AppConfig.reloaded, given]
  unfold AppConfig.validate at valid ⊢
  rw [same]
  exact valid

theorem AppConfig.reloaded_eq_iff :
    config.reloaded = config ↔ config.metrics.prometheus.listenAddr ≠ none := by
  constructor
  · intro same absent
    have listener := congrArg (fun config => config.metrics.prometheus.listenAddr) same
    simp [AppConfig.reloaded, absent] at listener
  · intro present
    obtain ⟨listenAddr, given⟩ := Option.ne_none_iff_exists'.mp present
    have kept : config.metrics.prometheus.listenAddr.or ({} : PrometheusMetricsConfig).listenAddr =
        config.metrics.prometheus.listenAddr := by
      rw [given]
      rfl
    rw [AppConfig.reloaded, kept]

end Validation

section Layouts

/-- The Prometheus settings that one of the two layouts gives. -/
structure PrometheusKeys where
  listenAddr : Option String := none
  allowNonLoopback : Option Bool := none
  detailTier : Option MetricsDetailTier := none

def PrometheusKeys.In (keys : PrometheusKeys) (entries : List (String × Toml F64)) : Prop :=
  entries.lookup "listen_addr" = keys.listenAddr.map .string ∧
    entries.lookup "allow_non_loopback" = keys.allowNonLoopback.map .boolean ∧
    entries.lookup "detail_tier" = keys.detailTier.map MetricsDetailTier.serialize

def prometheusEntries (entries : List (String × Toml F64)) : Option (List (String × Toml F64)) :=
  match entries.lookup "prometheus" with
  | none => some []
  | some (.table nested) => some nested
  | some _ => none

/-- The nested value of a setting, else the flat one, else the default; a blank address is none. -/
def PrometheusKeys.resolve (flat nested : PrometheusKeys) : PrometheusMetricsConfig where
  listenAddr := match nested.listenAddr.or flat.listenAddr with
    | some listenAddr => if isBlank listenAddr then none else some listenAddr
    | none => some "127.0.0.1:9947"
  allowNonLoopback := (nested.allowNonLoopback.or flat.allowNonLoopback).getD false
  detailTier := (nested.detailTier.or flat.detailTier).getD .perSession

def PrometheusKeys.given (keys : PrometheusKeys) : PrometheusMetricsConfigPartial where
  listenAddr := keys.listenAddr.map listener
  allowNonLoopback := keys.allowNonLoopback
  detailTier := keys.detailTier

theorem PrometheusKeys.assign_given (flat nested : PrometheusKeys) :
    (({} : PrometheusMetricsConfig).assign flat.given).assign nested.given = flat.resolve nested := by
  obtain ⟨flatAddr, flatAllow, flatTier⟩ := flat
  obtain ⟨nestedAddr, nestedAllow, nestedTier⟩ := nested
  simp only [PrometheusMetricsConfig.assign, PrometheusKeys.given, PrometheusKeys.resolve,
    PrometheusMetricsConfig.mk.injEq]
  refine ⟨?_, ?_, ?_⟩
  · cases nestedAddr <;> cases flatAddr <;> rfl
  · cases nestedAllow <;> cases flatAllow <;> rfl
  · cases nestedTier <;> cases flatTier <;> rfl

theorem setting_listenAddr_eq_some {entries : List (String × Toml F64)}
    {given : Option (Option String)} :
    Toml.setting entries "listen_addr" deserializeOptionalListenAddrOptional none = some given ↔
      ∃ listenAddr : Option String,
        entries.lookup "listen_addr" = listenAddr.map .string ∧ given = listenAddr.map listener := by
  unfold Toml.setting deserializeOptionalListenAddrOptional Toml.readOption
  cases entries.lookup "listen_addr" with
  | none =>
    constructor
    · rintro same
      cases same
      exact ⟨none, rfl, rfl⟩
    · rintro ⟨listenAddr, present, rfl⟩
      cases listenAddr with
      | none => rfl
      | some listenAddr => contradiction
  | some toml =>
    constructor
    · intro read
      simp only [Option.map_map, Option.map_eq_some_iff, Toml.readString_eq_some] at read
      obtain ⟨listenAddr, rfl, rfl⟩ := read
      exact ⟨some listenAddr, rfl, rfl⟩
    · rintro ⟨listenAddr, present, rfl⟩
      cases listenAddr with
      | none => contradiction
      | some listenAddr =>
        cases present
        rfl

theorem partial_deserialize_eq_some {entries : List (String × Toml F64)}
    {given : PrometheusMetricsConfigPartial} :
    PrometheusMetricsConfigPartial.deserialize (.table entries) = some given ↔
      ∃ keys : PrometheusKeys, keys.In entries ∧ given = keys.given := by
  simp only [PrometheusMetricsConfigPartial.deserialize, Option.bind_eq_bind,
    Option.bind_eq_some_iff, setting_listenAddr_eq_some,
    Toml.setting_readOption_eq_some fun _ _ => Toml.readBoolean_eq_some,
    Toml.setting_readOption_eq_some fun _ _ => detailTier_deserialize_eq_some, Option.pure_def,
    Option.some.injEq]
  constructor
  · rintro ⟨_, ⟨listenAddr, address, rfl⟩, allow, flag, tier, detail, rfl⟩
    exact ⟨⟨listenAddr, allow, tier⟩, ⟨address, flag, detail⟩, rfl⟩
  · rintro ⟨keys, ⟨address, flag, detail⟩, rfl⟩
    exact ⟨_, ⟨_, address, rfl⟩, _, flag, _, detail, rfl⟩

theorem partial_deserialize_is_table {toml : Toml F64} {given : PrometheusMetricsConfigPartial}
    (read : PrometheusMetricsConfigPartial.deserialize toml = some given) :
    ∃ entries, toml = .table entries := by
  cases toml with
  | table entries => exact ⟨entries, rfl⟩
  | string text => contradiction
  | integer value => contradiction
  | float value => contradiction
  | boolean value => contradiction

theorem nested_read {entries : List (String × Toml F64)} {flat result : PrometheusMetricsConfig} :
    (∃ table, Toml.setting entries "prometheus"
        (Toml.readOption PrometheusMetricsConfigPartial.deserialize) none = some table ∧
      (match table with
        | some prometheusOverride => flat.assign prometheusOverride
        | none => flat) = result) ↔
      ∃ inner nested, prometheusEntries entries = some inner ∧ PrometheusKeys.In nested inner ∧
        result = flat.assign nested.given := by
  unfold Toml.setting Toml.readOption prometheusEntries
  cases found : entries.lookup "prometheus" with
  | none =>
    constructor
    · rintro ⟨_, same, rfl⟩
      cases same
      exact ⟨[], {}, rfl, ⟨rfl, rfl, rfl⟩, rfl⟩
    · rintro ⟨inner, nested, same, ⟨address, flag, detail⟩, rfl⟩
      cases same
      obtain ⟨listenAddr, allowNonLoopback, detailTier⟩ := nested
      cases Option.map_eq_none_iff.mp address.symm
      cases Option.map_eq_none_iff.mp flag.symm
      cases Option.map_eq_none_iff.mp detail.symm
      exact ⟨none, rfl, rfl⟩
  | some toml =>
    constructor
    · rintro ⟨_, read, rfl⟩
      obtain ⟨given, decoded, rfl⟩ := Option.map_eq_some_iff.mp read
      obtain ⟨inner, rfl⟩ := partial_deserialize_is_table decoded
      obtain ⟨nested, inside, rfl⟩ := partial_deserialize_eq_some.mp decoded
      exact ⟨inner, nested, rfl, inside, rfl⟩
    · rintro ⟨inner, nested, same, inside, rfl⟩
      cases toml with
      | table held =>
        cases same
        have decoded := partial_deserialize_eq_some.mpr ⟨nested, inside, rfl⟩
        exact ⟨some nested.given, by simp only [decoded, Option.map_some], rfl⟩
      | string text => contradiction
      | integer value => contradiction
      | float value => contradiction
      | boolean value => contradiction

theorem otlp_read {entries : List (String × Toml F64)} {otlp : OtlpMetricsConfig} :
    (∃ read, Toml.setting entries "otlp" (Toml.readOption OtlpMetricsConfig.deserialize) none =
        some read ∧ read.getD {} = otlp) ↔
      Toml.setting entries "otlp" OtlpMetricsConfig.deserialize {} = some otlp := by
  unfold Toml.setting Toml.readOption
  cases entries.lookup "otlp" with
  | none => simp
  | some toml => simp

/-- A `[metrics]` table loads if both layouts and the OTLP table do, and the nested layout wins
    setting by setting. -/
theorem metrics_deserialize_eq_some {entries : List (String × Toml F64)} {metrics : MetricsConfig} :
    MetricsConfig.deserialize (.table entries) = some metrics ↔
      ∃ flat nested inner, PrometheusKeys.In flat entries ∧
        prometheusEntries entries = some inner ∧ PrometheusKeys.In nested inner ∧
        metrics.prometheus = flat.resolve nested ∧
        Toml.setting entries "otlp" OtlpMetricsConfig.deserialize {} = some metrics.otlp := by
  simp only [MetricsConfig.deserialize, MetricsConfigCompat.deserialize, Option.bind_eq_bind,
    Option.bind_eq_some_iff, Option.pure_def, Option.some.injEq,
    Toml.setting_readOption_eq_some fun _ _ => Toml.readString_eq_some,
    Toml.setting_readOption_eq_some fun _ _ => Toml.readBoolean_eq_some,
    Toml.setting_readOption_eq_some fun _ _ => detailTier_deserialize_eq_some]
  constructor
  · rintro ⟨_, ⟨table, tableRead, otlp, otlpRead, listenAddr, address, allow, flag, tier, detail, rfl⟩,
      rfl⟩
    obtain ⟨inner, nested, held, inside, eq⟩ := nested_read.mp ⟨table, tableRead, rfl⟩
    refine ⟨⟨listenAddr, allow, tier⟩, nested, inner, ⟨address, flag, detail⟩, held, inside, ?_,
      otlp_read.mp ⟨otlp, otlpRead, rfl⟩⟩
    rw [← PrometheusKeys.assign_given]
    exact eq
  · rintro ⟨flat, nested, inner, ⟨address, flag, detail⟩, held, inside, prometheus, otlp⟩
    obtain ⟨read, otlpRead, otlpEq⟩ := otlp_read.mpr otlp
    obtain ⟨table, tableRead, tableEq⟩ := nested_read.mpr ⟨inner, nested, held, inside,
      (PrometheusKeys.assign_given flat nested).symm⟩
    refine ⟨_, ⟨table, tableRead, read, otlpRead, _, address, _, flag, _, detail, rfl⟩, ?_⟩
    obtain ⟨metricsPrometheus, metricsOtlp⟩ := metrics
    rw [MetricsConfig.mk.injEq]
    exact ⟨tableEq.trans prometheus.symm, otlpEq⟩

end Layouts

section RoundTrip

variable (toml : TomlCrate) (http : HttpCrate)

theorem readConfig_written {config : MappedConfig http} {text : String} {table : Toml F64}
    (written : config.serialize = some table) (parsed : toml.fromStr text = some table) :
    toml.readConfig text = some config.reloaded := by
  rw [TomlCrate.readConfig, parsed, Option.bind_some]
  exact AppConfig.deserialize_serialize config.headers_ascending config.attributes_ascending
    (AppConfig.validate_listener config.valid) written

theorem loadConfig_of_read (configPath : String) {system : TokenSystem} {text : String}
    {config : AppConfig} (exists_ok : system.symlinkMetadata = .ok ())
    (read_ok : system.readToEnd = .ok ()) (size : (asBytes text).length ≤ 1024 * 1024)
    (read : toml.readConfig text = some config) (valid : config.validate http = .ok ()) :
    loadConfig toml http configPath system (.file (asBytes text)) = .ok config := by
  have content : (configFile configPath).readTextFileSecurely system (.file (asBytes text))
      (1024 * 1024) = .ok text :=
    RuntimePaths.readTextFileSecurely_eq_ok.mpr
      ⟨read_ok, asBytes text, rfl, size, fromUtf8_asBytes text⟩
  have present : (configFile configPath).pathExists system (.file (asBytes text)) = .ok true := by
    rw [RuntimePaths.pathExists, exists_ok]
    rfl
  simp only [loadConfig, present, content, withContext, read, valid]

/-- A valid configuration that is written to the file loads with the default listener where it has
    none. -/
theorem loadConfig_written (configPath : String) {system : TokenSystem} {config : MappedConfig http}
    {text : String} {table : Toml F64} (exists_ok : system.symlinkMetadata = .ok ())
    (read_ok : system.readToEnd = .ok ()) (size : (asBytes text).length ≤ 1024 * 1024)
    (written : config.serialize = some table) (parsed : toml.fromStr text = some table) :
    loadConfig toml http configPath system (.file (asBytes text)) = .ok config.reloaded :=
  loadConfig_of_read toml http configPath exists_ok read_ok size
    (readConfig_written toml http written parsed) (AppConfig.validate_reloaded config.valid)

/-- The file that `maybe_write_default_config` makes changes nothing. -/
theorem default_config_file_loads (configPath : String) {system : TokenSystem} {text : String}
    {table : Toml F64} (parent_ok : system.ensureStateDir = .ok ())
    (exists_ok : system.symlinkMetadata = .ok ()) (read_ok : system.readToEnd = .ok ())
    (write_ok : system.writeNew = .ok ()) (size : (asBytes text).length ≤ 1024 * 1024)
    (written : AppConfig.serialize {} = some table)
    (printed : toml.toStringPretty table = some text) (parsed : toml.fromStr text = some table) :
    loadConfig toml http configPath system .absent = .ok {} ∧
      maybeWriteDefaultConfig toml configPath system .absent =
        (.ok (), .file (asBytes text)) ∧
      loadConfig toml http configPath system (.file (asBytes text)) = .ok {} := by
  have missing : (configFile configPath).pathExists system .absent = .ok false := by
    rw [RuntimePaths.pathExists, exists_ok]
    rfl
  refine ⟨by simp only [loadConfig, missing], ?_, ?_⟩
  · simp only [maybeWriteDefaultConfig, parent_ok, missing, Except.bind, written, Option.bind_some,
      printed, RuntimePaths.writeNewTextFileSecurely, write_ok]
  · have valid : AppConfig.validate http {} = .ok () := by rfl
    have fits : ∀ setting ∈ AppConfig.integers {}, (setting : Int) ≤ i64Max := by decide
    let config : MappedConfig http :=
      { valid := valid, written := fits, headers_ascending := .nil, attributes_ascending := .nil }
    have loads := @loadConfig_written toml http configPath system config
    exact loads exists_ok read_ok size written parsed

def ReadsBack (text : String) (config : AppConfig) : Prop :=
  toml.readConfig text = some config ∧ config.validate http = .ok ()

/-- A configuration survives its file exactly if its listener is not disabled; a `[metrics]` table
    is read as its nested settings over its flat ones. -/
theorem config_round_trip_iff :
    (∀ config : MappedConfig http, ∃ table, config.serialize = some table ∧
      ∀ text, toml.toStringPretty table = some text → toml.fromStr text = some table →
        (ReadsBack toml http text config.toAppConfig ↔
          config.metrics.prometheus.listenAddr ≠ none)) ∧
      ∀ (entries : List (String × Toml F64)) (metrics : MetricsConfig),
        MetricsConfig.deserialize (.table entries) = some metrics ↔
          ∃ flat nested inner, PrometheusKeys.In flat entries ∧
            prometheusEntries entries = some inner ∧ PrometheusKeys.In nested inner ∧
            metrics.prometheus = flat.resolve nested ∧
            Toml.setting entries "otlp" OtlpMetricsConfig.deserialize {} = some metrics.otlp := by
  refine ⟨?_, fun entries metrics => metrics_deserialize_eq_some⟩
  intro config
  obtain ⟨table, written⟩ := AppConfig.exists_serialize config.written
  refine ⟨table, written, ?_⟩
  intro text _ parsed
  rw [ReadsBack, readConfig_written toml http written parsed, Option.some.injEq,
    AppConfig.reloaded_eq_iff]
  exact ⟨fun both => both.1, fun present => ⟨present, config.valid⟩⟩

end RoundTrip

section Examples

/-- The parts of the `http` crate on a configuration without endpoint and headers. -/
def plainHttp : HttpCrate where
  parseUri := fun _ => none
  parseHeaderName := fun _ => none
  acceptsHeaderValue := fun _ => false

/-- The `toml` crate on one configuration and its text. -/
def tomlOn (config : AppConfig) (text : String) : TomlCrate where
  toStringPretty := fun _ => some text
  fromStr := fun read => if read = text then config.serialize else none

theorem tomlOn_toStringPretty (config : AppConfig) (text : String) (table : Toml F64) :
    (tomlOn config text).toStringPretty table = some text := rfl

theorem tomlOn_fromStr (config : AppConfig) (text : String) :
    (tomlOn config text).fromStr text = config.serialize := if_pos rfl

/-- The lines of a default configuration around those of the listener. -/
def defaultText (listenerLine : String) : String :=
  "refresh_ms = 1000\ndiscovery_interval_ms = 5000\ncleanup_interval_ms = 10000\n" ++
  "history_secs = 900\nmax_tracked_sessions = 2048\nmax_session_detail_points = 900\n\n" ++
  "[thresholds]\nwarn_rtt_ms = 400\ncritical_rtt_ms = 1000\nwarn_retransmit_pct = 2.0\n" ++
  "critical_retransmit_pct = 10.0\nwarn_silence_ms = 5000\ncritical_silence_ms = 15000\n\n" ++
  "[stream]\nheartbeat_ms = 15000\n\n[persistence]\nenabled = true\n" ++
  "sample_interval_ms = 5000\nretention_days = 14\nmax_query_samples = 4096\n" ++
  "max_disk_bytes = 536870912\n\n[metrics.prometheus]\n" ++ listenerLine ++
  "allow_non_loopback = false\ndetail_tier = \"per_session\"\n\n[metrics.otlp]\n" ++
  "enabled = false\nendpoint = \"http://127.0.0.1:4318/v1/metrics\"\n" ++
  "export_interval_ms = 15000\ntimeout_ms = 5000\ndetail_tier = \"aggregate_only\"\n\n" ++
  "[metrics.otlp.headers]\n\n[metrics.otlp.resource_attributes]\n"

def defaultMapped : MappedConfig plainHttp where
  toAppConfig := {}
  valid := rfl
  written := by decide
  headers_ascending := .nil
  attributes_ascending := .nil

theorem default_config_reads_back :
    ReadsBack (tomlOn {} (defaultText "listen_addr = \"127.0.0.1:9947\"\n")) plainHttp
      (defaultText "listen_addr = \"127.0.0.1:9947\"\n") {} := by
  obtain ⟨reads, -⟩ := config_round_trip_iff
    (tomlOn {} (defaultText "listen_addr = \"127.0.0.1:9947\"\n")) plainHttp
  obtain ⟨table, written, loads⟩ := reads defaultMapped
  exact (loads _ (tomlOn_toStringPretty _ _ table) ((tomlOn_fromStr _ _).trans written)).mpr
    (by decide)

/-- A configuration that disables the listener, as an empty `listen_addr` does. -/
def quietConfig : AppConfig := { metrics := { prometheus := { listenAddr := none } } }

/-- Its text has no `listen_addr`, and it loads with the listener on. -/
theorem disabled_listener_is_enabled :
    quietConfig.validate plainHttp = .ok () ∧
      quietConfig.serialize.bind (tomlOn quietConfig (defaultText "")).toStringPretty =
        some (defaultText "") ∧
      (tomlOn quietConfig (defaultText "")).fromStr (defaultText "") = quietConfig.serialize ∧
      (tomlOn quietConfig (defaultText "")).readConfig (defaultText "") = some {} ∧
      ({} : AppConfig).metrics.prometheus.listenAddr = some "127.0.0.1:9947" ∧
      ¬ ReadsBack (tomlOn quietConfig (defaultText "")) plainHttp (defaultText "") quietConfig := by
  have parsed := tomlOn_fromStr quietConfig (defaultText "")
  have read : (tomlOn quietConfig (defaultText "")).readConfig (defaultText "") = some {} := by
    rw [TomlCrate.readConfig, parsed]
    decide +kernel
  refine ⟨rfl, ?_, parsed, read, rfl, ?_⟩
  · obtain ⟨table, written⟩ := @AppConfig.exists_serialize quietConfig (by decide)
    rw [written]
    exact tomlOn_toStringPretty _ _ table
  · rintro ⟨same, -⟩
    rw [read] at same
    exact absurd same (by decide)

end Examples

end Moshwatch
