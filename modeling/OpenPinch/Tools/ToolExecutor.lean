import OpenPinch.Common.Policy
import OpenPinch.Common.Types
import OpenPinch.Lib.Op
import OpenPinch.Tools.SkillManager

/-!
# The tool executor

`ToolExecutor.execute` runs built-in tools, commands and skills, and
`executeSkill` skills by their id.  Commands and the programs of skills go to the
sandbox.  Decisions of the policy, and what reaches the sandbox, are actions with
labels, so that a run shows them in their order.

Every command comes after a decision about its subject that denies nothing, and
carries the capabilities of that decision (`sandbox_authorised`).
-/

namespace OpenPinch

open Lib (Op Prog)
open Lib.FileSystem (Disk)

/-! ## Data -/

/-- `SandboxCommand`. -/
structure SandboxCommand where
  subject : String
  capabilities : List String
  program : String
  args : List String
  env : List (String × String)
  allowNetwork : Bool
  workspaceArchiveB64 : Option String
deriving DecidableEq, Repr

/-- `SandboxOutput`. -/
structure SandboxOutput where
  success : Bool
  exitCode : Int
  stdout : String
  stderr : String
  logs : List String
deriving DecidableEq, Repr

/-- The machine the executor runs on. -/
structure ToolHost where
  disk : Disk Bytes
  now : Instant
  /-- `std::env::consts::OS`. -/
  os : String
  /-- `std::env::consts::ARCH`. -/
  arch : String

/-- An operation on the disk of the machine. -/
def ToolHost.onDisk {α : Type} (m : SkillM α) : EStateM String ToolHost α := fun host =>
  match m host.disk with
  | .ok a disk => .ok a { host with disk := disk }
  | .error message disk => .error message { host with disk := disk }

/-- What an action of the executor does. -/
inductive ToolEvent where
  /-- The policy decides about a subject and the capabilities requested for it. -/
  | authorize (subject : String) (requested : List String)
  /-- A skill is looked up and packed. -/
  | package (skillId : String)
  /-- The clock, or another value of the machine, is read. -/
  | inspect
  /-- A command reaches `SandboxManager::execute`. -/
  | sandbox (command : SandboxCommand)
deriving DecidableEq, Repr

/-- The operations of the executor. -/
abbrev ToolOp (α : Type) : Type := Op ToolEvent ToolHost String α

/-- `ToolExecutor`. -/
structure ToolExecutor where
  /-- `config.sandbox.capabilities.default_deny`. -/
  defaultDeny : Bool
  policy : CapabilityMatrix
  skills : SkillManager
  /-- `SandboxManager::execute`, on one of the backends. -/
  sandbox : SandboxCommand → EStateM String ToolHost SandboxOutput

/-! ## Operations -/

/-- `trim_start_matches` on characters: the pattern taken off as often as the text
starts with it. -/
def trimStartMatches (pattern : List Char) : Nat → List Char → List Char
  | 0, text => text
  | fuel + 1, text =>
      if pattern.isPrefixOf text then trimStartMatches pattern fuel (text.drop pattern.length)
      else text

/-- `Option::context`. -/
def orFail {α : Type} (message : String) : Option α → ToolOp α
  | some a => return a
  | none => Op.fail message

namespace ToolExecutor

/-- The command that runs the entrypoint of a skill. -/
def skillCommand (subject : String) (decision : PolicyDecision) (manifest : SkillManifest)
    (argumentsJson workspaceArchiveB64 : String) : SandboxCommand :=
  if manifest.language = "shell" then
    { subject := subject
      capabilities := decision.allowedCapabilities
      program := "/bin/sh"
      args := [s!"/workspace/{manifest.entrypoint}"]
      env := [("OPENPINCH_SKILL_ARGS_JSON", argumentsJson)]
      allowNetwork := false
      workspaceArchiveB64 := some workspaceArchiveB64 }
  else
    { subject := subject
      capabilities := decision.allowedCapabilities
      program := s!"/workspace/{manifest.entrypoint}"
      args := []
      env := [("OPENPINCH_SKILL_ARGS_JSON", argumentsJson)]
      allowNetwork := false
      workspaceArchiveB64 := some workspaceArchiveB64 }

@[simp] theorem skillCommand_subject (subject : String) (decision : PolicyDecision)
    (manifest : SkillManifest) (argumentsJson archive : String) :
    (skillCommand subject decision manifest argumentsJson archive).subject = subject := by
  by_cases h : manifest.language = "shell" <;> simp [skillCommand, h]

@[simp] theorem skillCommand_capabilities (subject : String) (decision : PolicyDecision)
    (manifest : SkillManifest) (argumentsJson archive : String) :
    (skillCommand subject decision manifest argumentsJson archive).capabilities =
      decision.allowedCapabilities := by
  by_cases h : manifest.language = "shell" <;> simp [skillCommand, h]

@[simp] theorem skillCommand_allowNetwork (subject : String) (decision : PolicyDecision)
    (manifest : SkillManifest) (argumentsJson archive : String) :
    (skillCommand subject decision manifest argumentsJson archive).allowNetwork = false := by
  by_cases h : manifest.language = "shell" <;> simp [skillCommand, h]

end ToolExecutor

section

variable [Externals] [SkillExternals] [PackExternals]

/-- `parse_json_object`. -/
def parseJsonObject (raw : String) : ToolOp Json := do
  let value ← orFail "failed to parse JSON arguments" (Externals.jsonParse raw)
  match value with
  | .obj members => return .obj members
  | _ => Op.fail "tool arguments must be a JSON object"

/-- `success_outcome`. -/
def successOutcome (summary dataJson : String) (logs : List String) : ToolOutcome :=
  { success := true
    summary := summary
    dataJson := dataJson
    error := ""
    logs := logs }

/-- The outcome of a command from what the sandbox returns. -/
def sandboxOutcome (summary : String) (output : SandboxOutput) : ToolOutcome :=
  { success := output.success
    summary := summary
    dataJson := Externals.jsonText (.obj [("exit_code", .num output.exitCode),
      ("stderr", .str output.stderr), ("stdout", .str output.stdout)])
    error := ""
    logs := output.logs }

/-- The outcome of an error. -/
def failedOutcome (summary error : String) : ToolOutcome :=
  { success := false
    summary := summary
    dataJson := "{}"
    error := error
    logs := [] }

namespace ToolExecutor

variable (executor : ToolExecutor)

/-- `ToolExecutor::authorize`. -/
def authorize (subject : String) (requested : List String) : ToolOp PolicyDecision :=
  Op.stmt (.authorize subject requested) fun host =>
    let decision := executor.policy.evaluate subject requested executor.defaultDeny
    if decision.deniedCapabilities.isEmpty then .ok decision host
    else
      let denied := String.intercalate ", " decision.deniedCapabilities
      .error s!"policy denied {denied} for {subject}" host

/-- `SandboxManager::execute`. -/
def runSandboxed (command : SandboxCommand) : ToolOp SandboxOutput :=
  Op.stmt (.sandbox command) (executor.sandbox command)

/-- `ToolExecutor::execute_skill_inner`. -/
def executeSkillInner (skillId argumentsJson : String) : ToolOp ToolOutcome := do
  let subject := s!"skill.{skillId}"
  let decision ← executor.authorize subject ["skill.execute", "sandbox.execute"]
  let (manifest, workspaceArchiveB64) ←
    Op.stmt (.package skillId) (ToolHost.onDisk (executor.skills.packagedWorkspace skillId))
  let output ← executor.runSandboxed
    (skillCommand subject decision manifest argumentsJson workspaceArchiveB64)
  return sandboxOutcome s!"skill {skillId} executed" output

/-- The branch `builtin.echo`. -/
def executeEcho (arguments : Json) : ToolOp ToolOutcome := do
  let _ ← executor.authorize "builtin.echo" ["tool.local"]
  let message ← orFail "builtin.echo expects arguments.message"
    ((arguments.get? "message").bind Json.asStr?)
  return successOutcome "echo completed"
    (Externals.jsonText (.obj [("message", .str message)])) ["echo handled locally"]

/-- The branch `builtin.time`. -/
def executeTime : ToolOp ToolOutcome := do
  let _ ← executor.authorize "builtin.time" ["tool.local"]
  let now ← Op.stmt .inspect fun host => .ok host.now host
  return successOutcome "current time resolved"
    (Externals.jsonText (.obj [("utc", .str (Externals.toRfc3339 now))]))
    ["timestamp generated locally"]

/-- The branch `builtin.system-info`. -/
def executeSystemInfo : ToolOp ToolOutcome := do
  let _ ← executor.authorize "builtin.system-info" ["tool.inspect"]
  let (os, arch) ← Op.stmt .inspect fun host => .ok (host.os, host.arch) host
  return successOutcome "system info collected"
    (Externals.jsonText (.obj [("arch", .str arch), ("os", .str os)]))
    ["system information collected"]

/-- The branch `builtin.command`. -/
def executeCommand (request : ToolCall) (arguments : Json) : ToolOp ToolOutcome := do
  let requested :=
    if request.allowNetwork then ["shell.execute", "network.egress"] else ["shell.execute"]
  let decision ← executor.authorize "builtin.command" requested
  let program ← orFail "builtin.command expects arguments.program"
    ((arguments.get? "program").bind Json.asStr?)
  let args :=
    match arguments.get? "args" with
    | some (.arr items) => items.filterMap Json.asStr?
    | _ => []
  let output ← executor.runSandboxed
    { subject := "builtin.command"
      capabilities := decision.allowedCapabilities
      program := program
      args := args
      env := []
      allowNetwork := request.allowNetwork
      workspaceArchiveB64 := none }
  return sandboxOutcome "sandbox command finished" output

/-- `ToolExecutor::execute_inner`. -/
def executeInner (request : ToolCall) : ToolOp ToolOutcome := do
  let arguments ← parseJsonObject request.argumentsJson
  if request.target = "builtin.echo" then
    executor.executeEcho arguments
  else if request.target = "builtin.time" then
    executor.executeTime
  else if request.target = "builtin.system-info" then
    executor.executeSystemInfo
  else if request.target = "builtin.command" then
    executor.executeCommand request arguments
  else if "skill.".toList.isPrefixOf request.target.toList then
    let target := request.target.toList
    executor.executeSkillInner
      (String.ofList (trimStartMatches "skill.".toList target.length target)) request.argumentsJson
  else Op.fail s!"unsupported tool target {request.target}"

/-- `ToolExecutor::execute`. -/
def execute (request : ToolCall) : Prog ToolEvent ToolHost ToolOutcome :=
  Prog.bind (executor.executeInner request) fun
    | .ok outcome => .ret outcome
    | .error error => .ret (failedOutcome "execution failed" error)

/-- `ToolExecutor::execute_skill`. -/
def executeSkill (skillId argumentsJson : String) : Prog ToolEvent ToolHost ToolOutcome :=
  Prog.bind (executor.executeSkillInner skillId argumentsJson) fun
    | .ok outcome => .ret outcome
    | .error error => .ret (failedOutcome "skill execution failed" error)

end ToolExecutor

/-- The call the queue worker makes for a task. -/
def QueueTask.toolCall (task : QueueTask) : ToolCall :=
  { target := task.target
    argumentsJson := task.argumentsJson
    allowNetwork := false
    priority := task.priority }

/-- The ways to the executor. -/
inductive ToolRequest where
  /-- `ToolExecutor::execute`. -/
  | call (request : ToolCall)
  /-- `ToolExecutor::execute_skill`. -/
  | skill (skillId argumentsJson : String)
  /-- A task that the queue worker takes. -/
  | queued (task : QueueTask)
deriving DecidableEq, Repr

/-- What the executor does for a request. -/
def ToolExecutor.serve (executor : ToolExecutor) :
    ToolRequest → Prog ToolEvent ToolHost ToolOutcome
  | .call request => executor.execute request
  | .skill skillId argumentsJson => executor.executeSkill skillId argumentsJson
  | .queued task => executor.execute task.toolCall

end

/-! ## Authorised requests -/

/-- `ToolExecutor::authorize` succeeds. -/
def ToolExecutor.Authorizes (executor : ToolExecutor) (host : ToolHost) (subject : String)
    (requested : List String) : Prop :=
  ∃ decision, (Prog.eval (executor.authorize subject requested) host).1 = .ok decision

/-- A request is authorised when the rule of the subject refuses none of it. -/
theorem authorizes_iff {executor : ToolExecutor} {host : ToolHost} {subject : String}
    {requested : List String} :
    executor.Authorizes host subject requested ↔
      ∀ capability ∈ requested,
        ¬ executor.policy.refuses (executor.policy.ruleFor subject) executor.defaultDeny
          capability = true := by
  rw [← List.filter_eq_nil_iff, ← CapabilityMatrix.evaluate_denied]
  show (∃ decision, Op.result (fun host => _) host = .ok decision) ↔ _
  cases hdenied : (executor.policy.evaluate subject requested
      executor.defaultDeny).deniedCapabilities with
  | nil => simp [Op.result]
  | cons first rest => simp [Op.result]

end OpenPinch
