import OpenPinch.Common.Config
import OpenPinch.Common.Crypto
import OpenPinch.Tools.ToolExecutor

/-!
# The backends of the sandbox

`SandboxManager.execute` hands a command to the backend of the platform.  On
Linux a microVM is configured over the socket of Firecracker and finds the
command in its boot line.  The backends of the other platforms start a helper
with the command as its argument.

The machine is a parameter: what it answers may depend on all that was done to
it.  What a backend does to it are actions with labels.
-/

namespace OpenPinch

open Lib (Op Prog)

/-! ## The machine -/

/-- What a process leaves: its exit code, if it has one, and what it printed. -/
structure ProcessOutput where
  code : Option Int
  stdout : String
  stderr : String
deriving DecidableEq, Repr

/-- The operations of a machine in a state `σ`.  `none` is a failure. -/
structure SandboxMachine (σ : Type) where
  /-- `cfg!(target_os)`. -/
  targetOs : String
  /-- `which::which`. -/
  which : String → σ → Bool
  pathExists : String → σ → Bool
  /-- The owner of the working directory. -/
  uid : σ → Nat
  createDirAll : String → σ → Option Unit × σ
  /-- `Uuid::new_v4().simple()`. -/
  newUuid : σ → String × σ
  /-- `TempDir::new_in`. -/
  tempDir : String → σ → Option String × σ
  /-- The `TempDir` goes out of scope. -/
  removeDirAll : String → σ → σ
  /-- `Command::spawn`, with the program first. -/
  spawn : List String → σ → Option Unit × σ
  /-- `sleep`, in milliseconds. -/
  sleep : Nat → σ → σ
  /-- `UnixStream::connect`. -/
  connect : String → σ → Option Unit × σ
  writeAll : Bytes → σ → Option Unit × σ
  flush : σ → Option Unit × σ
  readToString : σ → Option String × σ
  /-- `wait_with_output` under a limit in seconds: `none` when the time is up. -/
  waitWithOutput : Nat → σ → Option (Option ProcessOutput) × σ
  /-- `Command::output`, with the program first. -/
  output : List String → σ → Option ProcessOutput × σ

/-- What a backend does to the machine. -/
inductive SandboxEvent where
  /-- Something is looked at, or time passes. -/
  | inspect
  /-- A directory for a session has been made under the base. -/
  | open (base directory : String)
  /-- It is removed. -/
  | close (directory : String)
  /-- A process is started. -/
  | spawn (argv : List String)
  /-- A connection to the socket is made. -/
  | connect (socket : String)
  /-- Bytes are sent on the connection. -/
  | send (bytes : Bytes)
  /-- The answer that was read from it. -/
  | answer (response : String)
  /-- The process ends, or the wait for it. -/
  | wait
deriving DecidableEq, Repr

/-- The operations of a backend. -/
abbrev SandboxOp (σ α : Type) : Type := Op SandboxEvent σ String α

namespace SandboxOp

variable {σ α : Type}

/-- An operation of the machine with `context`. -/
def attempt (event : SandboxEvent) (context : String) (m : σ → Option α × σ) : SandboxOp σ α :=
  Op.stmt event fun s =>
    match m s with
    | (some a, s') => .ok a s'
    | (none, s') => .error context s'

/-- Something that does not fail. -/
def observe (event : SandboxEvent) (m : σ → α × σ) : SandboxOp σ α :=
  Op.stmt event fun s => .ok (m s).1 (m s).2

/-- An operation, and the removal of a directory on every way out of it. -/
def within (machine : SandboxMachine σ) (directory : String) (p : SandboxOp σ α) :
    SandboxOp σ α :=
  Prog.bind p fun result =>
    .act (.close directory) (machine.removeDirAll directory) fun _ => .ret result

end SandboxOp

open SandboxOp (attempt observe within)
open ConfigFile (SandboxConfig)

/-- `SandboxHealth`. -/
structure SandboxHealth where
  backend : String
  missingPrerequisites : List String
deriving DecidableEq, Repr

/-- The error of a backend that cannot run. -/
def prerequisitesMissing (missing : List String) : String :=
  "sandbox prerequisites missing: " ++ ", ".intercalate missing

/-- The result of a process. -/
def sandboxOutput (output : ProcessOutput) (logs : List String) : SandboxOutput where
  success := output.code == some 0
  exitCode := output.code.getD (-1)
  stdout := output.stdout
  stderr := output.stderr
  logs := logs

/-! ## Commands as JSON -/

/-- `Vec<String>` as JSON. -/
def jsonStrings (texts : List String) : Json := .arr (texts.map Json.str)

/-- `Vec<(String, String)>` as JSON. -/
def jsonPairs (pairs : List (String × String)) : Json :=
  .arr (pairs.map fun pair => .arr [.str pair.1, .str pair.2])

/-- `Option<String>` as JSON. -/
def jsonOption : Option String → Json
  | some text => .str text
  | none => .null

/-- A command, as it is serialized. -/
def SandboxCommand.toJson (command : SandboxCommand) : Json :=
  .obj [("subject", .str command.subject), ("capabilities", jsonStrings command.capabilities),
    ("program", .str command.program), ("args", jsonStrings command.args),
    ("env", jsonPairs command.env), ("allow_network", .bool command.allowNetwork),
    ("workspace_archive_b64", jsonOption command.workspaceArchiveB64)]

/-- `GuestPayload`. -/
structure GuestPayload where
  program : String
  args : List String
  env : List (String × String)
  allowNetwork : Bool
  workspaceArchiveB64 : Option String
deriving DecidableEq, Repr

/-- `GuestPayload::from`. -/
def GuestPayload.ofCommand (value : SandboxCommand) : GuestPayload where
  program := value.program
  args := value.args
  env := value.env
  allowNetwork := value.allowNetwork
  workspaceArchiveB64 := value.workspaceArchiveB64

/-- A payload, as it is serialized. -/
def GuestPayload.toJson (payload : GuestPayload) : Json :=
  .obj [("program", .str payload.program), ("args", jsonStrings payload.args),
    ("env", jsonPairs payload.env), ("allow_network", .bool payload.allowNetwork),
    ("workspace_archive_b64", jsonOption payload.workspaceArchiveB64)]

/-- `Base64UrlUnpadded::encode_string`. -/
def base64UrlEncodeString (bytes : Bytes) : String := String.ofList (Lib.Base64.encodeUrl bytes)

/-- `Base64UrlUnpadded::decode_vec`. -/
def base64UrlDecodeVec (text : String) : Option Bytes := Lib.Base64.decodeUrl text.toList

/-! ## Requests to Firecracker -/

/-- The text of a request. -/
def requestText (method path body : String) : String :=
  let length := (asBytes body).length
  s!"{method} {path} HTTP/1.1\r\nHost: localhost\r\nAccept: application/json\r\n" ++
    s!"Content-Type: application/json\r\nContent-Length: {length}\r\n\r\n{body}"

/-- The response is a success. -/
def isAccepted (response : String) : Bool :=
  "HTTP/1.1 204".toList.isPrefixOf response.toList ||
    "HTTP/1.1 200".toList.isPrefixOf response.toList

section

variable {σ : Type} (machine : SandboxMachine σ)

/-- `firecracker_request`. -/
def firecrackerRequest (socket method path body : String) : SandboxOp σ Unit := do
  attempt (.connect socket) s!"failed to connect to Firecracker socket {socket}"
    (machine.connect socket)
  attempt (.send (asBytes (requestText method path body)))
    "failed to write Firecracker API request"
    (machine.writeAll (asBytes (requestText method path body)))
  attempt .inspect "failed to flush Firecracker API request" machine.flush
  let response ← attempt .inspect "failed to read Firecracker API response" machine.readToString
  observe (.answer response) fun s => ((), s)
  if isAccepted response then return ()
  else Op.fail s!"Firecracker API call failed for {path}: {response}"

/-- The rounds of `wait_for_socket`. -/
def waitForSocketLoop (path : String) : Nat → SandboxOp σ Unit
  | 0 => Op.fail s!"firecracker API socket was not created at {path}"
  | round + 1 => do
      let found ← observe .inspect fun s => (machine.pathExists path s, s)
      if found then return ()
      else do
        observe .inspect fun s => ((), machine.sleep 50 s)
        waitForSocketLoop path round

/-- `wait_for_socket`. -/
def waitForSocket (path : String) : SandboxOp σ Unit := waitForSocketLoop machine path 100

end

/-! ## Linux -/

/-- `LinuxFirecrackerBackend`. -/
structure LinuxFirecrackerBackend where
  config : SandboxConfig
  workspaceDir : String

namespace LinuxFirecrackerBackend

def name : String := "linux-firecracker"

/-- The body of `PUT /machine-config`. -/
def machineConfigBody : String :=
  "\x7b\"vcpu_count\":1,\"mem_size_mib\":512,\"ht_enabled\":false\x7d"

/-- The body of `PUT /boot-source`. -/
def bootSourceBody (kernelImage bootArgs : String) : String :=
  "\x7b\"kernel_image_path\":\"" ++ kernelImage ++ "\",\"boot_args\":\"" ++ bootArgs ++ "\"\x7d"

/-- The body of `PUT /drives/rootfs`. -/
def rootfsBody (rootfsImage : String) : String :=
  "\x7b\"drive_id\":\"rootfs\",\"path_on_host\":\"" ++ rootfsImage ++
    "\",\"is_root_device\":true,\"is_read_only\":true\x7d"

/-- The body of `PUT /seccomp`. -/
def seccompBody (seccompProfile : String) : String :=
  "\x7b\"path\":\"" ++ seccompProfile ++ "\"\x7d"

/-- The body of `PUT /actions`. -/
def startBody : String := "\x7b\"action_type\":\"InstanceStart\"\x7d"

/-- The boot line. -/
def bootArgs (payload : String) : String :=
  "console=ttyS0 reboot=k panic=1 pci=off quiet init=/sbin/openpinch-init " ++
    "openpinch_payload_b64=" ++ payload

/-- The arguments of the jailer, with the program first. -/
def jailerArgv (config : SandboxConfig) (vmId chrootBase apiSocket : String) : List String :=
  [config.jailerPath, "--id", vmId, "--exec-file", config.firecrackerPath, "--uid", "0", "--gid",
    "0", "--chroot-base-dir", chrootBase, "--", "--api-sock", apiSocket]

section

variable {σ : Type} (machine : SandboxMachine σ) (backend : LinuxFirecrackerBackend)

/-- `LinuxFirecrackerBackend::new`. -/
def new (config : SandboxConfig) (workspaceDir : String) :
    SandboxOp σ LinuxFirecrackerBackend := do
  attempt .inspect s!"failed to create sandbox workspace {workspaceDir}"
    (machine.createDirAll workspaceDir)
  return ⟨config, workspaceDir⟩

/-- A message when a check fails. -/
def missingUnless (found : Bool) (message : String) : List String :=
  if found then [] else [message]

/-- An image that has to be configured and to exist. -/
def missingImage (image unset absent : String) (s : σ) : List String :=
  if image = "" then [unset] else missingUnless (machine.pathExists image s) s!"{absent}: {image}"

/-- `missing_prerequisites`. -/
def missingPrerequisites (s : σ) : List String :=
  let config := backend.config
  missingUnless (machine.which config.firecrackerPath s)
      s!"firecracker binary not found: {config.firecrackerPath}" ++
    missingUnless (machine.which config.jailerPath s)
      s!"jailer binary not found: {config.jailerPath}" ++
    missingUnless (!config.linux.containerdInGuest || machine.which config.containerdPath s)
      s!"containerd binary not found: {config.containerdPath}" ++
    missingImage machine config.kernelImage "sandbox.kernel_image is not configured"
      "kernel image not found" s ++
    missingImage machine config.rootfsImage "sandbox.rootfs_image is not configured"
      "rootfs image not found" s ++
    missingUnless (config.seccompProfile = "" || machine.pathExists config.seccompProfile s)
      s!"seccomp profile not found: {config.seccompProfile}" ++
    missingUnless (machine.uid s = 0)
      "Linux Firecracker backend expects root or equivalent privileges for jailer"

/-- `health`. -/
def health (s : σ) : SandboxHealth := ⟨name, missingPrerequisites machine backend s⟩

end

section

variable [Externals] {σ : Type} (machine : SandboxMachine σ) (backend : LinuxFirecrackerBackend)

/-- The word that the guest finds the command in. -/
def payloadText (command : SandboxCommand) : String :=
  base64UrlEncodeString
    (asBytes (Externals.jsonText (GuestPayload.ofCommand command).toJson))

/-- The end of `execute`: the wait for the microVM. -/
def await (command : SandboxCommand) (vmId : String) : SandboxOp σ SandboxOutput := do
  let ended ← attempt .wait "sandbox execution timed out" (machine.waitWithOutput 90)
  let capabilities := ",".intercalate command.capabilities
  match ended with
  | none => Op.fail "failed to wait for jailer/firecracker process"
  | some output =>
      return sandboxOutput output
        [s!"sandbox backend: {name}", s!"vm id: {vmId}", s!"subject: {command.subject}",
          s!"capabilities: {capabilities}",
          s!"containerd_in_guest: {backend.config.linux.containerdInGuest}"]

/-- What `execute` does once the socket is there. -/
def configure (command : SandboxCommand) (vmId apiSocket : String) :
    SandboxOp σ SandboxOutput := do
  let config := backend.config
  firecrackerRequest machine apiSocket "PUT" "/machine-config" machineConfigBody
  firecrackerRequest machine apiSocket "PUT" "/boot-source"
    (bootSourceBody config.kernelImage (bootArgs (payloadText command)))
  firecrackerRequest machine apiSocket "PUT" "/drives/rootfs" (rootfsBody config.rootfsImage)
  if config.seccompProfile ≠ "" then
    firecrackerRequest machine apiSocket "PUT" "/seccomp" (seccompBody config.seccompProfile)
  firecrackerRequest machine apiSocket "PUT" "/actions" startBody
  backend.await machine command vmId

/-- What `execute` does while the directory of the session is there. -/
def hold (command : SandboxCommand) (vmId session : String) : SandboxOp σ SandboxOutput :=
  let apiSocket := s!"{session}/firecracker.socket"
  let chrootBase := s!"{session}/jailer"
  within machine session do
    attempt (.spawn (jailerArgv backend.config vmId chrootBase apiSocket))
      "failed to spawn jailer"
      (machine.spawn (jailerArgv backend.config vmId chrootBase apiSocket))
    waitForSocket machine apiSocket
    backend.configure machine command vmId apiSocket

/-- `execute`. -/
def execute (command : SandboxCommand) : SandboxOp σ SandboxOutput := do
  let missing ← observe .inspect fun s => (missingPrerequisites machine backend s, s)
  if missing ≠ [] then
    Op.fail (prerequisitesMissing missing)
  else do
    let uuid ← observe .inspect machine.newUuid
    let session ← attempt .inspect "failed to create sandbox session directory"
      (machine.tempDir backend.workspaceDir)
    observe (.open backend.workspaceDir session) fun s => ((), s)
    backend.hold machine command s!"openpinch-{uuid}" session

end

end LinuxFirecrackerBackend

/-! ## Helpers -/

/-- A backend that starts a helper: the values in which those of macOS and of
Windows differ. -/
structure HelperBackend where
  name : String
  targetOs : String
  requires : String
  helper : String
  failure : String

/-- `MacOsVirtualizationBackend`. -/
def macOsVirtualizationBackend : HelperBackend where
  name := "macos-virtualization"
  targetOs := "macos"
  requires := "native macOS virtualization backend requires macOS"
  helper := "openpinch-vz-run"
  failure := "failed to execute macOS virtualization helper"

/-- `WindowsHyperVBackend`. -/
def windowsHyperVBackend : HelperBackend where
  name := "windows-hyperv"
  targetOs := "windows"
  requires := "native Hyper-V backend requires Windows"
  helper := "openpinch-hyperv-run"
  failure := "failed to execute Hyper-V helper"

namespace HelperBackend

variable {σ : Type} (machine : SandboxMachine σ) (backend : HelperBackend)

/-- `health`. -/
def health (s : σ) : SandboxHealth :=
  ⟨backend.name,
    (if machine.targetOs = backend.targetOs then [] else [backend.requires]) ++
      (if machine.which backend.helper s then []
        else [s!"{backend.helper} helper not found on PATH"])⟩

/-- `execute`. -/
def execute [Externals] (command : SandboxCommand) : SandboxOp σ SandboxOutput := do
  let health ← observe .inspect fun s => (backend.health machine s, s)
  if health.missingPrerequisites ≠ [] then
    Op.fail (prerequisitesMissing health.missingPrerequisites)
  else do
    let argv := [backend.helper, Externals.jsonText command.toJson]
    let output ← attempt (.spawn argv) backend.failure (machine.output argv)
    return sandboxOutput output [s!"sandbox backend: {backend.name}"]

end HelperBackend

/-! ## The manager -/

/-- `SandboxManager`, with the backend of the platform. -/
inductive SandboxManager where
  | linux (backend : LinuxFirecrackerBackend)
  | helper (backend : HelperBackend)

namespace SandboxManager

variable {σ : Type} (machine : SandboxMachine σ)

/-- `SandboxManager::from_config`. -/
def fromConfig (config : SandboxConfig) (runtimeDir : String) : SandboxOp σ SandboxManager :=
  if machine.targetOs = "linux" then do
    let backend ← LinuxFirecrackerBackend.new machine config s!"{runtimeDir}/sandbox"
    return .linux backend
  else if machine.targetOs = "macos" then return .helper macOsVirtualizationBackend
  else return .helper windowsHyperVBackend

/-- `SandboxManager::health`, which is also `doctor`. -/
def health (manager : SandboxManager) (s : σ) : SandboxHealth :=
  match manager with
  | linux backend => backend.health machine s
  | helper backend => backend.health machine s

/-- `SandboxManager::execute`. -/
def execute [Externals] (manager : SandboxManager) (command : SandboxCommand) :
    SandboxOp σ SandboxOutput :=
  match manager with
  | linux backend => backend.execute machine command
  | helper backend => backend.execute machine command

end SandboxManager

end OpenPinch
