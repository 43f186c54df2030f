import OpenPinch.Common.JsonText
import OpenPinch.Tools.ToolExecutor

/-!
# Commands in the sandbox

The decisions of the policy and the commands of a run, in their order.  The last
decision before a command is about the subject of the command, denies nothing,
and allows what the command carries (`sandbox_authorised`).
-/

namespace OpenPinch

open Lib (Op Prog)
open Lib.FileSystem (FileTree)
open Lib.Op (after result follows_stmt follows_bind)
open Lib.Prog (Follows Observed)

/-! ## The monitor -/

/-- The subject and the request of the last decision, after an event. -/
def noteRequest (last : Option (String × List String)) : ToolEvent →
    Option (String × List String)
  | .authorize subject requested => some (subject, requested)
  | _ => last

/-- The subject and the request of the last decision in the events. -/
def lastRequest (events : List ToolEvent) : Option (String × List String) :=
  events.foldl noteRequest none

/-- The policy allows all of the request for the subject of the command, and the
command carries and does nothing else. -/
structure ToolExecutor.Authorises (executor : ToolExecutor) (requested : List String)
    (command : SandboxCommand) : Prop where
  nothing_denied :
    (executor.policy.evaluate command.subject requested executor.defaultDeny).deniedCapabilities =
      []
  capabilities : ∀ capability ∈ command.capabilities, capability ∈
    (executor.policy.evaluate command.subject requested executor.defaultDeny).allowedCapabilities
  network : command.allowNetwork = true → "network.egress" ∈ requested ∧ "network.egress" ∈
    (executor.policy.evaluate command.subject requested executor.defaultDeny).allowedCapabilities

/-- An event in its place: before a command stands its authorisation. -/
def ToolExecutor.Orderly (executor : ToolExecutor) (last : Option (String × List String)) :
    ToolEvent → Prop
  | .sandbox command =>
      ∃ requested, last = some (command.subject, requested) ∧ executor.Authorises requested command
  | _ => True

/-- The step of the monitor. -/
def ToolExecutor.Monitored (executor : ToolExecutor) (last : Option (String × List String))
    (event : ToolEvent) (_ _ : ToolHost) (last' : Option (String × List String)) : Prop :=
  executor.Orderly last event ∧ last' = noteRequest last event

section

variable (executor : ToolExecutor)

/-! ## Steps of the executor -/

theorem follows_authorize (last : Option (String × List String)) (subject : String)
    (requested : List String) :
    Follows executor.Monitored
      (fun last' r => ∀ decision, r = .ok decision → last' = some (subject, requested) ∧
        decision = executor.policy.evaluate subject requested executor.defaultDeny ∧
          decision.deniedCapabilities = [])
      last (executor.authorize subject requested) := by
  refine follows_stmt (some (subject, requested)) (fun host => ⟨trivial, rfl⟩) ?_
  intro host decision hdecision
  refine ⟨rfl, ?_⟩
  simp only [result] at hdecision
  split at hdecision
  · rename_i hsome
    split at hsome
    · rename_i hnone
      cases hsome
      cases hdecision
      exact ⟨rfl, List.isEmpty_iff.mp hnone⟩
    · cases hsome
  · cases hdecision

theorem follows_orFail {α : Type} (last : Option (String × List String)) (message : String)
    (found : Option α) :
    Follows executor.Monitored (fun last' r => ∀ a : α, r = .ok a → last' = last) last
      (orFail message found) := by
  cases found with
  | some a => exact .ret fun _ _ => rfl
  | none => exact .ret fun _ _ => rfl

theorem follows_quiet {α : Type} (last : Option (String × List String)) {label : ToolEvent}
    (m : EStateM String ToolHost α) (hquiet : noteRequest last label = last)
    (horderly : executor.Orderly last label) :
    Follows executor.Monitored (fun last' r => ∀ a, r = .ok a → last' = last) last
      (Op.stmt label m) :=
  follows_stmt last (fun _ => ⟨horderly, hquiet.symm⟩) fun _ _ _ => rfl

theorem follows_runSandboxed {last : Option (String × List String)} {requested : List String}
    {command : SandboxCommand} (hlast : last = some (command.subject, requested))
    (h : executor.Authorises requested command) :
    Follows executor.Monitored (fun last' r => ∀ output, r = .ok output → last' = last) last
      (executor.runSandboxed command) :=
  follows_quiet executor last _ rfl ⟨requested, hlast, h⟩

/-- A command with the capabilities of a decision that denies nothing. -/
theorem authorises_of_decision {requested : List String} {command : SandboxCommand}
    {decision : PolicyDecision}
    (hdecision : decision =
      executor.policy.evaluate command.subject requested executor.defaultDeny)
    (hnone : decision.deniedCapabilities = [])
    (hcapabilities : command.capabilities = decision.allowedCapabilities)
    (hnetwork : command.allowNetwork = true → "network.egress" ∈ requested) :
    executor.Authorises requested command := by
  subst hdecision
  refine ⟨hnone, fun capability hmem => hcapabilities ▸ hmem, fun hallow => ?_⟩
  have hrequested := hnetwork hallow
  refine ⟨hrequested, ?_⟩
  rw [CapabilityMatrix.evaluate_denied, List.filter_eq_nil_iff] at hnone
  rw [CapabilityMatrix.evaluate_allowed, List.mem_filter]
  exact ⟨hrequested, by simpa using hnone "network.egress" hrequested⟩

variable [Externals]

theorem follows_executeCommand (last : Option (String × List String)) (request : ToolCall)
    (arguments : Json) :
    Follows executor.Monitored (fun _ _ => True) last
      (executor.executeCommand request arguments) := by
  refine follows_bind (follows_authorize executor last _ _) ?_
  rintro _ decision ⟨rfl, hdecision, hnone⟩
  refine follows_bind (follows_orFail executor _ _ _) ?_
  rintro _ program rfl
  refine follows_bind (follows_runSandboxed executor rfl
    (authorises_of_decision executor hdecision hnone rfl ?_)) fun _ _ _ => .ret trivial
  intro hallow
  have hallow : request.allowNetwork = true := hallow
  simp [hallow]

variable [SkillExternals] [PackExternals]

theorem follows_executeSkillInner (last : Option (String × List String))
    (skillId argumentsJson : String) :
    Follows executor.Monitored (fun _ _ => True) last
      (executor.executeSkillInner skillId argumentsJson) := by
  refine follows_bind (follows_authorize executor last _ _) ?_
  rintro _ decision ⟨rfl, hdecision, hnone⟩
  refine follows_bind (follows_quiet executor _ _ rfl trivial) ?_
  rintro _ ⟨manifest, workspaceArchiveB64⟩ rfl
  let command := ToolExecutor.skillCommand s!"skill.{skillId}" decision manifest argumentsJson
    workspaceArchiveB64
  have hauthorised : executor.Authorises ["skill.execute", "sandbox.execute"] command := by
    refine authorises_of_decision executor ?_ hnone ?_ ?_
    · simpa [command] using hdecision
    · simp [command]
    · simp [command]
  exact follows_bind (follows_runSandboxed executor (by simp) hauthorised)
    fun _ _ _ => .ret trivial

theorem follows_executeInner (last : Option (String × List String)) (request : ToolCall) :
    Follows executor.Monitored (fun _ _ => True) last (executor.executeInner request) := by
  have hparse : Follows executor.Monitored
      (fun last' r => ∀ arguments, r = .ok arguments → last' = last) last
      (parseJsonObject request.argumentsJson) := by
    refine (follows_orFail executor last _ _).bind fun last' r hr => ?_
    cases r with
    | error message => exact .ret fun _ h => by cases h
    | ok value =>
        cases value with
        | obj members => exact .ret fun _ _ => hr _ rfl
        | _ => exact .ret fun _ h => by cases h
  refine follows_bind hparse ?_
  rintro _ arguments rfl
  by_cases hecho : request.target = "builtin.echo"
  · rw [if_pos hecho]
    refine follows_bind (follows_authorize executor _ _ _) fun _ _ _ => ?_
    exact follows_bind (follows_orFail executor _ _ _) fun _ _ _ => .ret trivial
  rw [if_neg hecho]
  by_cases htime : request.target = "builtin.time"
  · rw [if_pos htime]
    refine follows_bind (follows_authorize executor _ _ _) fun _ _ _ => ?_
    exact follows_bind (follows_quiet executor _ _ rfl trivial) fun _ _ _ => .ret trivial
  rw [if_neg htime]
  by_cases hinfo : request.target = "builtin.system-info"
  · rw [if_pos hinfo]
    refine follows_bind (follows_authorize executor _ _ _) fun _ _ _ => ?_
    exact follows_bind (follows_quiet executor _ _ rfl trivial) fun _ _ _ => .ret trivial
  rw [if_neg hinfo]
  by_cases hcommand : request.target = "builtin.command"
  · rw [if_pos hcommand]
    exact follows_executeCommand executor _ request arguments
  rw [if_neg hcommand]
  by_cases hskill : "skill.".toList.isPrefixOf request.target.toList
  · rw [if_pos hskill]
    exact follows_executeSkillInner executor _ _ _
  · rw [if_neg hskill]
    exact .ret trivial

theorem follows_serve (request : ToolRequest) :
    Follows executor.Monitored (fun _ _ => True) none (executor.serve request) := by
  have hexecute : ∀ call, Follows executor.Monitored (fun _ _ => True) none
      (executor.execute call) := fun call =>
    (follows_executeInner executor none call).bind fun _ r _ => by cases r <;> exact .ret trivial
  cases request with
  | call request => exact hexecute request
  | queued task => exact hexecute task.toolCall
  | skill skillId argumentsJson =>
      exact (follows_executeSkillInner executor none skillId argumentsJson).bind
        fun _ r _ => by cases r <;> exact .ret trivial

/-- The last decision before a command is about the subject of the command.  It
denies nothing of what was requested for it, and allows the capabilities that the
command carries, `network.egress` among them when the command may use the
network. -/
theorem sandbox_authorised {request : ToolRequest} {events : List ToolEvent}
    {outcome : Option ToolOutcome} (hrun : (executor.serve request).Observed events outcome)
    {before after : List ToolEvent} {command : SandboxCommand}
    (hat : events = before ++ .sandbox command :: after) :
    ∃ requested, lastRequest before = some (command.subject, requested) ∧
      executor.Authorises requested command :=
  (follows_serve executor request).observed hrun hat

end

/-! ### A command with access to the network -/

/-- The files of a machine without skills. -/
@[reducible] def noSkillExternals : SkillExternals where
  manifestFromSlice _ := none
  signatureFromSlice _ := none
  trustRootFromSlice _ := none
  validKey _ := false
  verifySignature _ _ _ := false
  unpackArchive _ _ t := (t, false)

@[reducible] def noPackExternals : PackExternals where
  listed names := names
  packDir _ _ := none

def plainHost : ToolHost where
  disk := ⟨FileTree.empty, fun _ => false, 0⟩
  now := 0
  os := "linux"
  arch := "x86_64"

/-- An executor whose matrix lets commands use the network, with a sandbox in
which every command succeeds. -/
def networkExecutor : ToolExecutor where
  defaultDeny := true
  policy :=
    { version := "test"
      defaultCapabilities := []
      subjects := ⟨[("builtin.*", ⟨"", ["shell.execute", "network.*"], []⟩)], by decide⟩ }
  skills := ⟨[""]⟩
  sandbox := fun _ host => .ok ⟨true, 0, "", "", []⟩ host

def networkCall : ToolCall :=
  ⟨"builtin.command", "\x7b\"program\":\"curl\",\"args\":[\"-I\"]\x7d", true, .interactive⟩

def networkCommand : SandboxCommand where
  subject := "builtin.command"
  capabilities := ["shell.execute", "network.egress"]
  program := "curl"
  args := ["-I"]
  env := []
  allowNetwork := true
  workspaceArchiveB64 := none

theorem sandbox_authorised_network :
    ∃ requested,
      lastRequest [.authorize "builtin.command" ["shell.execute", "network.egress"]] =
          some (networkCommand.subject, requested) ∧
        networkExecutor.Authorises requested networkCommand := by
  let run := @ToolExecutor.serve jsonExternals noSkillExternals noPackExternals networkExecutor
    (.call networkCall)
  have htrace : run.trace plainHost =
      [.authorize "builtin.command" ["shell.execute", "network.egress"],
        .sandbox networkCommand] := by
    decide +kernel
  have hrun := Observed.of_trace run plainHost
  rw [htrace] at hrun
  exact @sandbox_authorised networkExecutor jsonExternals noSkillExternals noPackExternals _ _ _
    hrun [_] [] networkCommand rfl

end OpenPinch
