import OpenPinch.Common.Types
import OpenPinch.Lib.Toml

/-!
# The configuration file

Every section is a record with its serde name for each member.  The default of a
member in its structure is what serde fills in when the table does not mention
it.  The `Default` of a section is another source of defaults, and the two do
not always agree.
-/

namespace OpenPinch.ConfigFile

open Lib (F64 SortedMap)
open Lib.Toml (Codec Record)

/-- `u32`. -/
def u32 : Codec Nat := .natBelow (2 ^ 32)

/-- `u64` and `usize`, which TOML writes and reads as signed integers. -/
def u64 : Codec Nat := .natBelow (2 ^ 63)

/-! ## Gateway -/

structure GatewayTlsConfig where
  enabled : Bool := false
  certFile : String := ""
  keyFile : String := ""
  clientCaFile : String := ""
  rotateOnStart : Bool := false

def GatewayTlsConfig.record : Record GatewayTlsConfig where
  absent := {}
  members := [
    ⟨"enabled", .bool, (·.enabled), fun v s => { s with enabled := v }⟩,
    ⟨"cert_file", .string, (·.certFile), fun v s => { s with certFile := v }⟩,
    ⟨"key_file", .string, (·.keyFile), fun v s => { s with keyFile := v }⟩,
    ⟨"client_ca_file", .string, (·.clientCaFile), fun v s => { s with clientCaFile := v }⟩,
    ⟨"rotate_on_start", .bool, (·.rotateOnStart), fun v s => { s with rotateOnStart := v }⟩]
  nodup_names := by decide
  rebuild _ _ := rfl

structure GatewayLocalHttpConfig where
  enabled : Bool := false
  listenAddress : String := "127.0.0.1:8088"

def GatewayLocalHttpConfig.record : Record GatewayLocalHttpConfig where
  absent := {}
  members := [
    ⟨"enabled", .bool, (·.enabled), fun v s => { s with enabled := v }⟩,
    ⟨"listen_address", .string, (·.listenAddress), fun v s => { s with listenAddress := v }⟩]
  nodup_names := by decide
  rebuild _ _ := rfl

structure GatewayConfig where
  listenAddress : String := "127.0.0.1:50051"
  binary : String := "./bin/openpinch-gateway"
  engineEndpoint : String := ""
  telegramBotToken : String := ""
  telegramPollIntervalSeconds : Nat := 0
  tls : GatewayTlsConfig := {}
  localHttp : GatewayLocalHttpConfig := {}
  allowlists : SortedMap String (List String) := .empty

def GatewayConfig.record : Record GatewayConfig where
  absent := {}
  members := [
    ⟨"listen_address", .string, (·.listenAddress), fun v s => { s with listenAddress := v }⟩,
    ⟨"binary", .string, (·.binary), fun v s => { s with binary := v }⟩,
    ⟨"engine_endpoint", .string, (·.engineEndpoint), fun v s => { s with engineEndpoint := v }⟩,
    ⟨"telegram_bot_token", .string, (·.telegramBotToken),
      fun v s => { s with telegramBotToken := v }⟩,
    ⟨"telegram_poll_interval_seconds", u64, (·.telegramPollIntervalSeconds),
      fun v s => { s with telegramPollIntervalSeconds := v }⟩,
    ⟨"tls", GatewayTlsConfig.record.codec, (·.tls), fun v s => { s with tls := v }⟩,
    ⟨"local_http", GatewayLocalHttpConfig.record.codec, (·.localHttp),
      fun v s => { s with localHttp := v }⟩,
    ⟨"allowlists", .map (.list .string), (·.allowlists), fun v s => { s with allowlists := v }⟩]
  nodup_names := by decide
  rebuild _ _ := rfl

/-- `GatewayConfig::default`, which is not what an empty table gives. -/
def GatewayConfig.default : GatewayConfig where
  telegramPollIntervalSeconds := 5
  allowlists := .ofEntries [("telegram", []), ("webhook-outbound", [])]

/-! ## Logging and sandbox -/

structure LoggingConfig where
  level : String := "info"
  json : Bool := false

def LoggingConfig.record : Record LoggingConfig where
  absent := {}
  members := [
    ⟨"level", .string, (·.level), fun v s => { s with level := v }⟩,
    ⟨"json", .bool, (·.json), fun v s => { s with json := v }⟩]
  nodup_names := by decide
  rebuild _ _ := rfl

structure SandboxCapabilitiesConfig where
  matrixPath : String := "skills/policies/default.yaml"
  defaultDeny : Bool := true

def SandboxCapabilitiesConfig.record : Record SandboxCapabilitiesConfig where
  absent := {}
  members := [
    ⟨"matrix_path", .string, (·.matrixPath), fun v s => { s with matrixPath := v }⟩,
    ⟨"default_deny", .bool, (·.defaultDeny), fun v s => { s with defaultDeny := v }⟩]
  nodup_names := by decide
  rebuild _ _ := rfl

structure LinuxSandboxPlatformConfig where
  firecrackerEnabled : Bool := true
  containerdInGuest : Bool := true
  tapInterface : String := ""

def LinuxSandboxPlatformConfig.record : Record LinuxSandboxPlatformConfig where
  absent := {}
  members := [
    ⟨"firecracker_enabled", .bool, (·.firecrackerEnabled),
      fun v s => { s with firecrackerEnabled := v }⟩,
    ⟨"containerd_in_guest", .bool, (·.containerdInGuest),
      fun v s => { s with containerdInGuest := v }⟩,
    ⟨"tap_interface", .string, (·.tapInterface), fun v s => { s with tapInterface := v }⟩]
  nodup_names := by decide
  rebuild _ _ := rfl

structure MacOsSandboxPlatformConfig where
  virtualizationEnabled : Bool := true
  seatbeltProfile : String := ""

def MacOsSandboxPlatformConfig.record : Record MacOsSandboxPlatformConfig where
  absent := {}
  members := [
    ⟨"virtualization_enabled", .bool, (·.virtualizationEnabled),
      fun v s => { s with virtualizationEnabled := v }⟩,
    ⟨"seatbelt_profile", .string, (·.seatbeltProfile), fun v s => { s with seatbeltProfile := v }⟩]
  nodup_names := by decide
  rebuild _ _ := rfl

structure WindowsSandboxPlatformConfig where
  hypervEnabled : Bool := true
  jobObjectRestrictions : Bool := true

def WindowsSandboxPlatformConfig.record : Record WindowsSandboxPlatformConfig where
  absent := {}
  members := [
    ⟨"hyperv_enabled", .bool, (·.hypervEnabled), fun v s => { s with hypervEnabled := v }⟩,
    ⟨"job_object_restrictions", .bool, (·.jobObjectRestrictions),
      fun v s => { s with jobObjectRestrictions := v }⟩]
  nodup_names := by decide
  rebuild _ _ := rfl

structure SandboxConfig where
  firecrackerPath : String := "firecracker"
  jailerPath : String := "jailer"
  containerdPath : String := "containerd"
  kernelImage : String := ""
  rootfsImage : String := ""
  seccompProfile : String := ""
  hostNetworkCidr : String := ""
  capabilities : SandboxCapabilitiesConfig := {}
  linux : LinuxSandboxPlatformConfig := {}
  macos : MacOsSandboxPlatformConfig := {}
  windows : WindowsSandboxPlatformConfig := {}

def SandboxConfig.record : Record SandboxConfig where
  absent := {}
  members := [
    ⟨"firecracker_path", .string, (·.firecrackerPath), fun v s => { s with firecrackerPath := v }⟩,
    ⟨"jailer_path", .string, (·.jailerPath), fun v s => { s with jailerPath := v }⟩,
    ⟨"containerd_path", .string, (·.containerdPath), fun v s => { s with containerdPath := v }⟩,
    ⟨"kernel_image", .string, (·.kernelImage), fun v s => { s with kernelImage := v }⟩,
    ⟨"rootfs_image", .string, (·.rootfsImage), fun v s => { s with rootfsImage := v }⟩,
    ⟨"seccomp_profile", .string, (·.seccompProfile), fun v s => { s with seccompProfile := v }⟩,
    ⟨"host_network_cidr", .string, (·.hostNetworkCidr),
      fun v s => { s with hostNetworkCidr := v }⟩,
    ⟨"capabilities", SandboxCapabilitiesConfig.record.codec, (·.capabilities),
      fun v s => { s with capabilities := v }⟩,
    ⟨"linux", LinuxSandboxPlatformConfig.record.codec, (·.linux),
      fun v s => { s with linux := v }⟩,
    ⟨"macos", MacOsSandboxPlatformConfig.record.codec, (·.macos),
      fun v s => { s with macos := v }⟩,
    ⟨"windows", WindowsSandboxPlatformConfig.record.codec, (·.windows),
      fun v s => { s with windows := v }⟩]
  nodup_names := by decide
  rebuild _ _ := rfl

/-- `SandboxConfig::default`. -/
def SandboxConfig.default : SandboxConfig where
  hostNetworkCidr := "172.16.0.0/30"

/-! ## Skills, orchestration and queues -/

structure SkillsConfig where
  registryIndex : String := "skills/registry/index.json"
  registrySignature : String := "skills/registry/index.sig.json"
  trustRoot : String := "skills/trust/root.json"
  registryBackend : String := "git+ipfs"
  decentralizedMirrors : List String := []

def SkillsConfig.record : Record SkillsConfig where
  absent := {}
  members := [
    ⟨"registry_index", .string, (·.registryIndex), fun v s => { s with registryIndex := v }⟩,
    ⟨"registry_signature", .string, (·.registrySignature),
      fun v s => { s with registrySignature := v }⟩,
    ⟨"trust_root", .string, (·.trustRoot), fun v s => { s with trustRoot := v }⟩,
    ⟨"registry_backend", .string, (·.registryBackend), fun v s => { s with registryBackend := v }⟩,
    ⟨"decentralized_mirrors", .list .string, (·.decentralizedMirrors),
      fun v s => { s with decentralizedMirrors := v }⟩]
  nodup_names := by decide
  rebuild _ _ := rfl

/-- `SkillsConfig::default`. -/
def SkillsConfig.default : SkillsConfig where
  decentralizedMirrors := ["ipfs://openpinch-skill-registry"]

structure OrchestrationConfig where
  providerOrder : List String := ["llamacpp", "ollama", "localai"]
  exactCacheCapacity : Nat := 2048
  prefixCacheCapacity : Nat := 1024
  semanticCacheCapacity : Nat := 4096
  semanticCacheEnabled : Bool := true
  prefixCacheEnabled : Bool := true
  exactCacheEnabled : Bool := true
  speculativeEnabled : Bool := true
  maxInflight : Nat := 8
  defaultPriority : String := "interactive"

def OrchestrationConfig.record : Record OrchestrationConfig where
  absent := {}
  members := [
    ⟨"provider_order", .list .string, (·.providerOrder), fun v s => { s with providerOrder := v }⟩,
    ⟨"exact_cache_capacity", u64, (·.exactCacheCapacity),
      fun v s => { s with exactCacheCapacity := v }⟩,
    ⟨"prefix_cache_capacity", u64, (·.prefixCacheCapacity),
      fun v s => { s with prefixCacheCapacity := v }⟩,
    ⟨"semantic_cache_capacity", u64, (·.semanticCacheCapacity),
      fun v s => { s with semanticCacheCapacity := v }⟩,
    ⟨"semantic_cache_enabled", .bool, (·.semanticCacheEnabled),
      fun v s => { s with semanticCacheEnabled := v }⟩,
    ⟨"prefix_cache_enabled", .bool, (·.prefixCacheEnabled),
      fun v s => { s with prefixCacheEnabled := v }⟩,
    ⟨"exact_cache_enabled", .bool, (·.exactCacheEnabled),
      fun v s => { s with exactCacheEnabled := v }⟩,
    ⟨"speculative_enabled", .bool, (·.speculativeEnabled),
      fun v s => { s with speculativeEnabled := v }⟩,
    ⟨"max_inflight", u64, (·.maxInflight), fun v s => { s with maxInflight := v }⟩,
    ⟨"default_priority", .string, (·.defaultPriority), fun v s => { s with defaultPriority := v }⟩]
  nodup_names := by decide
  rebuild _ _ := rfl

structure QueueRuntimeConfig where
  interactiveWeight : Nat := 100
  connectorWeight : Nat := 80
  autonomyWeight : Nat := 40
  backgroundWeight : Nat := 20
  cpuBudgetPercent : Nat := 60
  memoryBudgetMb : Nat := 4096
  tokenBudgetPerMinute : Nat := 200000

def QueueRuntimeConfig.record : Record QueueRuntimeConfig where
  absent := {}
  members := [
    ⟨"interactive_weight", u32, (·.interactiveWeight),
      fun v s => { s with interactiveWeight := v }⟩,
    ⟨"connector_weight", u32, (·.connectorWeight), fun v s => { s with connectorWeight := v }⟩,
    ⟨"autonomy_weight", u32, (·.autonomyWeight), fun v s => { s with autonomyWeight := v }⟩,
    ⟨"background_weight", u32, (·.backgroundWeight), fun v s => { s with backgroundWeight := v }⟩,
    ⟨"cpu_budget_percent", u32, (·.cpuBudgetPercent), fun v s => { s with cpuBudgetPercent := v }⟩,
    ⟨"memory_budget_mb", u64, (·.memoryBudgetMb), fun v s => { s with memoryBudgetMb := v }⟩,
    ⟨"token_budget_per_minute", u64, (·.tokenBudgetPerMinute),
      fun v s => { s with tokenBudgetPerMinute := v }⟩]
  nodup_names := by decide
  rebuild _ _ := rfl

structure RuntimeConfig where
  queues : QueueRuntimeConfig := {}

def RuntimeConfig.record : Record RuntimeConfig where
  absent := {}
  members := [
    ⟨"queues", QueueRuntimeConfig.record.codec, (·.queues), fun v s => { s with queues := v }⟩]
  nodup_names := by decide
  rebuild _ _ := rfl

/-! ## Security -/

structure EncryptionConfig where
  enabled : Bool := true
  keyFile : String := ""
  encryptMemory : Bool := true
  encryptAgentChannels : Bool := true

def EncryptionConfig.record : Record EncryptionConfig where
  absent := {}
  members := [
    ⟨"enabled", .bool, (·.enabled), fun v s => { s with enabled := v }⟩,
    ⟨"key_file", .string, (·.keyFile), fun v s => { s with keyFile := v }⟩,
    ⟨"encrypt_memory", .bool, (·.encryptMemory), fun v s => { s with encryptMemory := v }⟩,
    ⟨"encrypt_agent_channels", .bool, (·.encryptAgentChannels),
      fun v s => { s with encryptAgentChannels := v }⟩]
  nodup_names := by decide
  rebuild _ _ := rfl

structure AttestationConfig where
  enabled : Bool := false
  requireHardware : Bool := false
  tpmDevice : String := ""

def AttestationConfig.record : Record AttestationConfig where
  absent := {}
  members := [
    ⟨"enabled", .bool, (·.enabled), fun v s => { s with enabled := v }⟩,
    ⟨"require_hardware", .bool, (·.requireHardware), fun v s => { s with requireHardware := v }⟩,
    ⟨"tpm_device", .string, (·.tpmDevice), fun v s => { s with tpmDevice := v }⟩]
  nodup_names := by decide
  rebuild _ _ := rfl

/-- `AttestationConfig::default`. -/
def AttestationConfig.default : AttestationConfig where
  tpmDevice := "/dev/tpmrm0"

structure AuditConfig where
  enabled : Bool := true
  mode : String := "local-buffered"
  ebpfEnabled : Bool := false
  anomalyThreshold : F64 := ⟨0x3FEB333333333333⟩

def AuditConfig.record : Record AuditConfig where
  absent := {}
  members := [
    ⟨"enabled", .bool, (·.enabled), fun v s => { s with enabled := v }⟩,
    ⟨"mode", .string, (·.mode), fun v s => { s with mode := v }⟩,
    ⟨"ebpf_enabled", .bool, (·.ebpfEnabled), fun v s => { s with ebpfEnabled := v }⟩,
    ⟨"anomaly_threshold", .float, (·.anomalyThreshold),
      fun v s => { s with anomalyThreshold := v }⟩]
  nodup_names := by decide
  rebuild _ _ := rfl

structure SecurityConfig where
  encryption : EncryptionConfig := {}
  attestation : AttestationConfig := .default
  audit : AuditConfig := {}

def SecurityConfig.record : Record SecurityConfig where
  absent := {}
  members := [
    ⟨"encryption", EncryptionConfig.record.codec, (·.encryption),
      fun v s => { s with encryption := v }⟩,
    ⟨"attestation", AttestationConfig.record.codec, (·.attestation),
      fun v s => { s with attestation := v }⟩,
    ⟨"audit", AuditConfig.record.codec, (·.audit), fun v s => { s with audit := v }⟩]
  nodup_names := by decide
  rebuild _ _ := rfl

/-! ## Agents and brain -/

structure AgentsConfig where
  enabled : Bool := true
  maxAgents : Nat := 8
  protocolDir : String := "docs/formal"

def AgentsConfig.record : Record AgentsConfig where
  absent := {}
  members := [
    ⟨"enabled", .bool, (·.enabled), fun v s => { s with enabled := v }⟩,
    ⟨"max_agents", u64, (·.maxAgents), fun v s => { s with maxAgents := v }⟩,
    ⟨"protocol_dir", .string, (·.protocolDir), fun v s => { s with protocolDir := v }⟩]
  nodup_names := by decide
  rebuild _ _ := rfl

def BrainConfig.record : Record BrainConfig where
  absent :=
    { enabled := true, autoIngestMessages := true, autoIngestToolResults := true,
      autoIngestAssistantCommitments := true, inlineSuggestionsInReplies := true,
      maxInlineSuggestions := 2, contextBudgetChars := 2000, archiveDecayDays := 30,
      staleTaskHours := 24 }
  members := [
    ⟨"enabled", .bool, (·.enabled), fun v s => { s with enabled := v }⟩,
    ⟨"auto_ingest_messages", .bool, (·.autoIngestMessages),
      fun v s => { s with autoIngestMessages := v }⟩,
    ⟨"auto_ingest_tool_results", .bool, (·.autoIngestToolResults),
      fun v s => { s with autoIngestToolResults := v }⟩,
    ⟨"auto_ingest_assistant_commitments", .bool, (·.autoIngestAssistantCommitments),
      fun v s => { s with autoIngestAssistantCommitments := v }⟩,
    ⟨"inline_suggestions_in_replies", .bool, (·.inlineSuggestionsInReplies),
      fun v s => { s with inlineSuggestionsInReplies := v }⟩,
    ⟨"max_inline_suggestions", u64, (·.maxInlineSuggestions),
      fun v s => { s with maxInlineSuggestions := v }⟩,
    ⟨"context_budget_chars", u64, (·.contextBudgetChars),
      fun v s => { s with contextBudgetChars := v }⟩,
    ⟨"archive_decay_days", .int64, (·.archiveDecayDays),
      fun v s => { s with archiveDecayDays := v }⟩,
    ⟨"stale_task_hours", .int64, (·.staleTaskHours), fun v s => { s with staleTaskHours := v }⟩]
  nodup_names := by decide
  rebuild _ _ := rfl

/-! ## Sessions and clients -/

structure SessionsConfig where
  enabled : Bool := true
  defaultReplyMode : String := "reply-back"
  defaultQueueMode : String := "connector"
  pruneAfterHours : Nat := 24 * 14

def SessionsConfig.record : Record SessionsConfig where
  absent := {}
  members := [
    ⟨"enabled", .bool, (·.enabled), fun v s => { s with enabled := v }⟩,
    ⟨"default_reply_mode", .string, (·.defaultReplyMode),
      fun v s => { s with defaultReplyMode := v }⟩,
    ⟨"default_queue_mode", .string, (·.defaultQueueMode),
      fun v s => { s with defaultQueueMode := v }⟩,
    ⟨"prune_after_hours", u32, (·.pruneAfterHours), fun v s => { s with pruneAfterHours := v }⟩]
  nodup_names := by decide
  rebuild _ _ := rfl

def RoutingConfig.record : Record RoutingConfig where
  absent :=
    { autoPairDm := true, mentionOnlyInGroups := true, mentionNames := ["openpinch"] }
  members := [
    ⟨"auto_pair_dm", .bool, (·.autoPairDm), fun v s => { s with autoPairDm := v }⟩,
    ⟨"mention_only_in_groups", .bool, (·.mentionOnlyInGroups),
      fun v s => { s with mentionOnlyInGroups := v }⟩,
    ⟨"mention_names", .list .string, (·.mentionNames), fun v s => { s with mentionNames := v }⟩]
  nodup_names := by decide
  rebuild _ _ := rfl

structure PresenceConfig where
  enabled : Bool := true
  typingEvents : Bool := true

def PresenceConfig.record : Record PresenceConfig where
  absent := {}
  members := [
    ⟨"enabled", .bool, (·.enabled), fun v s => { s with enabled := v }⟩,
    ⟨"typing_events", .bool, (·.typingEvents), fun v s => { s with typingEvents := v }⟩]
  nodup_names := by decide
  rebuild _ _ := rfl

structure UsageConfig where
  enabled : Bool := true

def UsageConfig.record : Record UsageConfig where
  absent := {}
  members := [
    ⟨"enabled", .bool, (·.enabled), fun v s => { s with enabled := v }⟩]
  nodup_names := by decide
  rebuild _ _ := rfl

structure MediaConfig where
  enabled : Bool := true
  maxUploadBytes : Nat := 20 * 1024 * 1024
  tempDir : String := ""

def MediaConfig.record : Record MediaConfig where
  absent := {}
  members := [
    ⟨"enabled", .bool, (·.enabled), fun v s => { s with enabled := v }⟩,
    ⟨"max_upload_bytes", u64, (·.maxUploadBytes), fun v s => { s with maxUploadBytes := v }⟩,
    ⟨"temp_dir", .string, (·.tempDir), fun v s => { s with tempDir := v }⟩]
  nodup_names := by decide
  rebuild _ _ := rfl

structure BrowserConfig where
  enabled : Bool := true
  profileDir : String := ""

def BrowserConfig.record : Record BrowserConfig where
  absent := {}
  members := [
    ⟨"enabled", .bool, (·.enabled), fun v s => { s with enabled := v }⟩,
    ⟨"profile_dir", .string, (·.profileDir), fun v s => { s with profileDir := v }⟩]
  nodup_names := by decide
  rebuild _ _ := rfl

structure DesktopConfig where
  launchAtLogin : Bool := false
  enableTray : Bool := true
  enableNotifications : Bool := true
  startHidden : Bool := false
  profileName : String := "default"
  bundledRuntime : Bool := true

def DesktopConfig.record : Record DesktopConfig where
  absent := {}
  members := [
    ⟨"launch_at_login", .bool, (·.launchAtLogin), fun v s => { s with launchAtLogin := v }⟩,
    ⟨"enable_tray", .bool, (·.enableTray), fun v s => { s with enableTray := v }⟩,
    ⟨"enable_notifications", .bool, (·.enableNotifications),
      fun v s => { s with enableNotifications := v }⟩,
    ⟨"start_hidden", .bool, (·.startHidden), fun v s => { s with startHidden := v }⟩,
    ⟨"profile_name", .string, (·.profileName), fun v s => { s with profileName := v }⟩,
    ⟨"bundled_runtime", .bool, (·.bundledRuntime), fun v s => { s with bundledRuntime := v }⟩]
  nodup_names := by decide
  rebuild _ _ := rfl

/-! ## Memory and operation -/

structure VectorMemoryConfig where
  requestedBackend : String := "lancedb"
  defaultNamespace : String := "default"
  lancedbUri : String := ""
  embeddingDimensions : Nat := 128

def VectorMemoryConfig.record : Record VectorMemoryConfig where
  absent := {}
  members := [
    ⟨"requested_backend", .string, (·.requestedBackend),
      fun v s => { s with requestedBackend := v }⟩,
    ⟨"default_namespace", .string, (·.defaultNamespace),
      fun v s => { s with defaultNamespace := v }⟩,
    ⟨"lancedb_uri", .string, (·.lancedbUri), fun v s => { s with lancedbUri := v }⟩,
    ⟨"embedding_dimensions", u64, (·.embeddingDimensions),
      fun v s => { s with embeddingDimensions := v }⟩]
  nodup_names := by decide
  rebuild _ _ := rfl

def defaultRoleBindings : SortedMap String (List String) := .singleton "local-user" ["admin"]

structure RbacConfig where
  defaultRole : String := "admin"
  roleBindings : SortedMap String (List String) := defaultRoleBindings

def RbacConfig.record : Record RbacConfig where
  absent := {}
  members := [
    ⟨"default_role", .string, (·.defaultRole), fun v s => { s with defaultRole := v }⟩,
    ⟨"role_bindings", .map (.list .string), (·.roleBindings),
      fun v s => { s with roleBindings := v }⟩]
  nodup_names := by decide
  rebuild _ _ := rfl

structure SiemConfig where
  enabled : Bool := false
  ocsfFile : String := ""
  syslogEndpoint : String := ""
  httpsBatchEndpoint : String := ""

def SiemConfig.record : Record SiemConfig where
  absent := {}
  members := [
    ⟨"enabled", .bool, (·.enabled), fun v s => { s with enabled := v }⟩,
    ⟨"ocsf_file", .string, (·.ocsfFile), fun v s => { s with ocsfFile := v }⟩,
    ⟨"syslog_endpoint", .string, (·.syslogEndpoint), fun v s => { s with syslogEndpoint := v }⟩,
    ⟨"https_batch_endpoint", .string, (·.httpsBatchEndpoint),
      fun v s => { s with httpsBatchEndpoint := v }⟩]
  nodup_names := by decide
  rebuild _ _ := rfl

structure OperatorConfig where
  enabled : Bool := false
  namespaceName : String := "openpinch-system"

def OperatorConfig.record : Record OperatorConfig where
  absent := {}
  members := [
    ⟨"enabled", .bool, (·.enabled), fun v s => { s with enabled := v }⟩,
    ⟨"namespace", .string, (·.namespaceName), fun v s => { s with namespaceName := v }⟩]
  nodup_names := by decide
  rebuild _ _ := rfl

/-! ## Connectors -/

structure ConnectorConfig where
  enabled : Bool := false
  mode : String := ""
  endpoint : String := ""
  allowlist : List String := []
  apiFirst : Bool := true
  deferred : Bool := false
  authMode : String := ""
  pairDm : Bool := true
  chunkLimit : Nat := 1800
  mentionOnly : Bool := false

def ConnectorConfig.record : Record ConnectorConfig where
  absent := {}
  members := [
    ⟨"enabled", .bool, (·.enabled), fun v s => { s with enabled := v }⟩,
    ⟨"mode", .string, (·.mode), fun v s => { s with mode := v }⟩,
    ⟨"endpoint", .string, (·.endpoint), fun v s => { s with endpoint := v }⟩,
    ⟨"allowlist", .list .string, (·.allowlist), fun v s => { s with allowlist := v }⟩,
    ⟨"api_first", .bool, (·.apiFirst), fun v s => { s with apiFirst := v }⟩,
    ⟨"deferred", .bool, (·.deferred), fun v s => { s with deferred := v }⟩,
    ⟨"auth_mode", .string, (·.authMode), fun v s => { s with authMode := v }⟩,
    ⟨"pair_dm", .bool, (·.pairDm), fun v s => { s with pairDm := v }⟩,
    ⟨"chunk_limit", u64, (·.chunkLimit), fun v s => { s with chunkLimit := v }⟩,
    ⟨"mention_only", .bool, (·.mentionOnly), fun v s => { s with mentionOnly := v }⟩]
  nodup_names := by decide
  rebuild _ _ := rfl

/-- The derived `ConnectorConfig::default`, which knows nothing of the serde defaults. -/
def ConnectorConfig.default : ConnectorConfig where
  apiFirst := false
  pairDm := false
  chunkLimit := 0

/-- The names of `default_connectors`. -/
def defaultConnectorNames : List String :=
  ["telegram", "desktop", "discord", "slack", "whatsapp", "signal", "matrix", "xmpp", "irc",
    "mattermost", "microsoft-teams", "rocketchat", "zulip", "google-chat", "webex", "line", "viber",
    "smtp", "imap", "twilio-sms", "twilio-mms", "webhook-inbound", "webhook-outbound"]

/-- The entry of `default_connectors` for a name. -/
def defaultConnector (name : String) : ConnectorConfig where
  enabled := name = "telegram" ∨ name = "desktop"
  mode :=
    if name = "telegram" then "polling"
    else if name = "desktop" then "native"
    else "disabled"
  endpoint := ""
  allowlist := []
  apiFirst := true
  deferred := name ≠ "telegram" ∧ name ≠ "desktop"
  authMode := if name = "desktop" then "local-process" else "token"
  pairDm := name ≠ "desktop"
  chunkLimit := 1800
  mentionOnly := name ≠ "telegram" ∧ name ≠ "desktop"

def defaultConnectors : SortedMap String ConnectorConfig :=
  .ofEntries (defaultConnectorNames.map fun name => (name, defaultConnector name))

/-! ## Models -/

structure ModelProviderConfig where
  kind : String := ""
  endpoint : String := ""
  model : String := ""
  draftModel : String := ""
  quantization : String := ""
  contextWindow : Nat := 0
  maxConcurrency : Nat := 0
  gpuLayers : Nat := 0
  speculativeEnabled : Bool := false
  cachePolicy : String := ""
  enabled : Bool := false

def ModelProviderConfig.record : Record ModelProviderConfig where
  absent := {}
  members := [
    ⟨"kind", .string, (·.kind), fun v s => { s with kind := v }⟩,
    ⟨"endpoint", .string, (·.endpoint), fun v s => { s with endpoint := v }⟩,
    ⟨"model", .string, (·.model), fun v s => { s with model := v }⟩,
    ⟨"draft_model", .string, (·.draftModel), fun v s => { s with draftModel := v }⟩,
    ⟨"quantization", .string, (·.quantization), fun v s => { s with quantization := v }⟩,
    ⟨"context_window", u64, (·.contextWindow), fun v s => { s with contextWindow := v }⟩,
    ⟨"max_concurrency", u64, (·.maxConcurrency), fun v s => { s with maxConcurrency := v }⟩,
    ⟨"gpu_layers", u64, (·.gpuLayers), fun v s => { s with gpuLayers := v }⟩,
    ⟨"speculative_enabled", .bool, (·.speculativeEnabled),
      fun v s => { s with speculativeEnabled := v }⟩,
    ⟨"cache_policy", .string, (·.cachePolicy), fun v s => { s with cachePolicy := v }⟩,
    ⟨"enabled", .bool, (·.enabled), fun v s => { s with enabled := v }⟩]
  nodup_names := by decide
  rebuild _ _ := rfl

def defaultModels : SortedMap String ModelProviderConfig :=
  .ofEntries [
    ("ollama",
      { kind := "ollama", endpoint := "http://127.0.0.1:11434", model := "qwen2.5:7b",
        draftModel := "qwen2.5:3b", quantization := "Q4_K_M", contextWindow := 8192,
        maxConcurrency := 2, gpuLayers := 0, speculativeEnabled := true,
        cachePolicy := "exact+prefix+semantic", enabled := true }),
    ("llamacpp",
      { kind := "llamacpp", endpoint := "http://127.0.0.1:8080", model := "local",
        draftModel := "local-draft", quantization := "Q5_K_M", contextWindow := 16384,
        maxConcurrency := 4, gpuLayers := 32, speculativeEnabled := true,
        cachePolicy := "exact+prefix+semantic", enabled := false }),
    ("localai",
      { kind := "openai-compatible", endpoint := "http://127.0.0.1:1234/v1",
        model := "local-model", draftModel := "", quantization := "auto", contextWindow := 8192,
        maxConcurrency := 2, gpuLayers := 0, speculativeEnabled := false,
        cachePolicy := "exact", enabled := false })]

structure ModelProfileConfig where
  providerOrder : List String := []
  mode : String := "local-first"
  timeoutSeconds : Nat := 20
  retryBudget : Nat := 2
  hosted : Bool := false
  authMode : String := ""

def ModelProfileConfig.record : Record ModelProfileConfig where
  absent := {}
  members := [
    ⟨"provider_order", .list .string, (·.providerOrder), fun v s => { s with providerOrder := v }⟩,
    ⟨"mode", .string, (·.mode), fun v s => { s with mode := v }⟩,
    ⟨"timeout_seconds", u32, (·.timeoutSeconds), fun v s => { s with timeoutSeconds := v }⟩,
    ⟨"retry_budget", u32, (·.retryBudget), fun v s => { s with retryBudget := v }⟩,
    ⟨"hosted", .bool, (·.hosted), fun v s => { s with hosted := v }⟩,
    ⟨"auth_mode", .string, (·.authMode), fun v s => { s with authMode := v }⟩]
  nodup_names := by decide
  rebuild _ _ := rfl

def defaultModelProfiles : SortedMap String ModelProfileConfig :=
  .ofEntries [
    ("default",
      { providerOrder := ["llamacpp", "ollama", "localai"], mode := "local-first",
        timeoutSeconds := 20, retryBudget := 2, hosted := false, authMode := "" }),
    ("hosted-fallback",
      { providerOrder := ["llamacpp", "ollama", "localai"], mode := "hybrid-failover",
        timeoutSeconds := 30, retryBudget := 3, hosted := true, authMode := "api-key" })]

structure ModelFailoverConfig where
  defaultProfile : String := "default"
  fallbackProfile : String := "hosted-fallback"

def ModelFailoverConfig.record : Record ModelFailoverConfig where
  absent := {}
  members := [
    ⟨"default_profile", .string, (·.defaultProfile), fun v s => { s with defaultProfile := v }⟩,
    ⟨"fallback_profile", .string, (·.fallbackProfile), fun v s => { s with fallbackProfile := v }⟩]
  nodup_names := by decide
  rebuild _ _ := rfl

/-! ## The configuration -/

structure AppConfig where
  gateway : GatewayConfig := .default
  logging : LoggingConfig := {}
  sandbox : SandboxConfig := .default
  skills : SkillsConfig := .default
  orchestration : OrchestrationConfig := {}
  runtime : RuntimeConfig := {}
  security : SecurityConfig := {}
  agents : AgentsConfig := {}
  brain : BrainConfig := BrainConfig.record.absent
  sessions : SessionsConfig := {}
  routing : RoutingConfig := RoutingConfig.record.absent
  presence : PresenceConfig := {}
  usage : UsageConfig := {}
  media : MediaConfig := {}
  browser : BrowserConfig := {}
  desktop : DesktopConfig := {}
  vectorMemory : VectorMemoryConfig := {}
  modelProfiles : SortedMap String ModelProfileConfig := defaultModelProfiles
  modelFailover : ModelFailoverConfig := {}
  rbac : RbacConfig := {}
  siem : SiemConfig := {}
  operator : OperatorConfig := {}
  connectors : SortedMap String ConnectorConfig := defaultConnectors
  models : SortedMap String ModelProviderConfig := defaultModels

def AppConfig.record : Record AppConfig where
  absent := {}
  members := [
    ⟨"gateway", GatewayConfig.record.codec, (·.gateway), fun v s => { s with gateway := v }⟩,
    ⟨"logging", LoggingConfig.record.codec, (·.logging), fun v s => { s with logging := v }⟩,
    ⟨"sandbox", SandboxConfig.record.codec, (·.sandbox), fun v s => { s with sandbox := v }⟩,
    ⟨"skills", SkillsConfig.record.codec, (·.skills), fun v s => { s with skills := v }⟩,
    ⟨"orchestration", OrchestrationConfig.record.codec, (·.orchestration),
      fun v s => { s with orchestration := v }⟩,
    ⟨"runtime", RuntimeConfig.record.codec, (·.runtime), fun v s => { s with runtime := v }⟩,
    ⟨"security", SecurityConfig.record.codec, (·.security), fun v s => { s with security := v }⟩,
    ⟨"agents", AgentsConfig.record.codec, (·.agents), fun v s => { s with agents := v }⟩,
    ⟨"brain", BrainConfig.record.codec, (·.brain), fun v s => { s with brain := v }⟩,
    ⟨"sessions", SessionsConfig.record.codec, (·.sessions), fun v s => { s with sessions := v }⟩,
    ⟨"routing", RoutingConfig.record.codec, (·.routing), fun v s => { s with routing := v }⟩,
    ⟨"presence", PresenceConfig.record.codec, (·.presence), fun v s => { s with presence := v }⟩,
    ⟨"usage", UsageConfig.record.codec, (·.usage), fun v s => { s with usage := v }⟩,
    ⟨"media", MediaConfig.record.codec, (·.media), fun v s => { s with media := v }⟩,
    ⟨"browser", BrowserConfig.record.codec, (·.browser), fun v s => { s with browser := v }⟩,
    ⟨"desktop", DesktopConfig.record.codec, (·.desktop), fun v s => { s with desktop := v }⟩,
    ⟨"vector_memory", VectorMemoryConfig.record.codec, (·.vectorMemory),
      fun v s => { s with vectorMemory := v }⟩,
    ⟨"model_profiles", .map ModelProfileConfig.record.codec, (·.modelProfiles),
      fun v s => { s with modelProfiles := v }⟩,
    ⟨"model_failover", ModelFailoverConfig.record.codec, (·.modelFailover),
      fun v s => { s with modelFailover := v }⟩,
    ⟨"rbac", RbacConfig.record.codec, (·.rbac), fun v s => { s with rbac := v }⟩,
    ⟨"siem", SiemConfig.record.codec, (·.siem), fun v s => { s with siem := v }⟩,
    ⟨"operator", OperatorConfig.record.codec, (·.operator), fun v s => { s with operator := v }⟩,
    ⟨"connectors", .map ConnectorConfig.record.codec, (·.connectors),
      fun v s => { s with connectors := v }⟩,
    ⟨"models", .map ModelProviderConfig.record.codec, (·.models),
      fun v s => { s with models := v }⟩]
  nodup_names := by decide
  rebuild _ _ := rfl

end OpenPinch.ConfigFile
