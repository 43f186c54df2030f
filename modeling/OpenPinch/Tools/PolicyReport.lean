import Mathlib.Logic.Basic
import OpenPinch.Tools.Authorization

/-!
# The policy report

`ToolExecutor.policyReport` asks the policy about five capabilities, and
`EngineRuntime.policyReport` keeps the ones that were asked for.  Enforcement
asks about whatever a tool requests.  The two agree on the five capabilities and
on no other one (`policyReport_agrees_iff`).
-/

namespace OpenPinch

/-- `PolicyReport`. -/
structure PolicyReport where
  subject : String
  allowedCapabilities : List String
  deniedCapabilities : List String
  source : String
deriving DecidableEq, Repr

/-- The capabilities that `ToolExecutor::policy_report` asks about. -/
def reportedCapabilities : List String :=
  ["shell.execute", "tool.local", "network.egress", "skill.execute", "agent.message"]

/-- `ToolExecutor::policy_report`. -/
def ToolExecutor.policyReport (executor : ToolExecutor) (subject : String) : PolicyReport :=
  let decision := executor.policy.evaluate subject reportedCapabilities executor.defaultDeny
  { subject := decision.subject
    allowedCapabilities := decision.allowedCapabilities
    deniedCapabilities := decision.deniedCapabilities
    source := decision.source }

/-- `EngineRuntime::policy_report`, with the executor of the runtime. -/
def EngineRuntime.policyReport (tools : ToolExecutor) (subject : String) :
    Option String → PolicyReport
  | some capability =>
      let report := tools.policyReport subject
      { report with
        allowedCapabilities := report.allowedCapabilities.filter (· == capability)
        deniedCapabilities := report.deniedCapabilities.filter (· == capability) }
  | none => tools.policyReport subject

section

variable (executor : ToolExecutor) (host : ToolHost) (subject capability : String)

theorem mem_policyReport_allowed :
    capability ∈ (EngineRuntime.policyReport executor subject
        (some capability)).allowedCapabilities ↔
      capability ∈ reportedCapabilities ∧
        ¬ executor.policy.refuses (executor.policy.ruleFor subject) executor.defaultDeny
          capability = true := by
  simp [EngineRuntime.policyReport, ToolExecutor.policyReport, CapabilityMatrix.evaluate_allowed]

theorem mem_policyReport_denied :
    capability ∈ (EngineRuntime.policyReport executor subject
        (some capability)).deniedCapabilities ↔
      capability ∈ reportedCapabilities ∧
        executor.policy.refuses (executor.policy.ruleFor subject) executor.defaultDeny
          capability = true := by
  simp [EngineRuntime.policyReport, ToolExecutor.policyReport, CapabilityMatrix.evaluate_denied]

/-- The report lists the capability once, and as allowed when it is authorised. -/
def ReportAgrees : Prop :=
  Xor (capability ∈
      (EngineRuntime.policyReport executor subject (some capability)).allowedCapabilities)
    (capability ∈
      (EngineRuntime.policyReport executor subject (some capability)).deniedCapabilities) ∧
    (capability ∈
      (EngineRuntime.policyReport executor subject (some capability)).allowedCapabilities ↔
        executor.Authorizes host subject [capability])

/-- The report agrees with enforcement on the capabilities it asks about, and on no other
one. -/
theorem policyReport_agrees_iff :
    ReportAgrees executor host subject capability ↔ capability ∈ reportedCapabilities := by
  unfold ReportAgrees
  rw [mem_policyReport_allowed, mem_policyReport_denied, authorizes_iff]
  constructor
  · rintro ⟨hlisted, -⟩
    rcases hlisted with ⟨⟨hreported, -⟩, -⟩ | ⟨⟨hreported, -⟩, -⟩
    · exact hreported
    · exact hreported
  · intro hreported
    cases hverdict : executor.policy.refuses (executor.policy.ruleFor subject)
        executor.defaultDeny capability with
    | true => simp [hreported, hverdict, Xor]
    | false => simp [hreported, hverdict, Xor]

end

/-! ### A capability the report leaves out -/

/-- An executor whose matrix lets skills run in the sandbox. -/
def skillExecutor : ToolExecutor where
  defaultDeny := true
  policy :=
    { version := "test"
      defaultCapabilities := []
      subjects := ⟨[("skill.*", ⟨"", ["skill.execute", "sandbox.execute"], []⟩)], by decide⟩ }
  skills := ⟨[""]⟩
  sandbox := fun _ host => .ok ⟨true, 0, "", "", []⟩ host

theorem policyReport_fails :
    skillExecutor.Authorizes plainHost "skill.backup" ["sandbox.execute"] ∧
      ¬ ReportAgrees skillExecutor plainHost "skill.backup" "sandbox.execute" := by
  constructor
  · rw [authorizes_iff]
    decide
  · rintro ⟨hlisted, -⟩
    rw [mem_policyReport_allowed, mem_policyReport_denied] at hlisted
    rcases hlisted with ⟨⟨hreported, -⟩, -⟩ | ⟨⟨hreported, -⟩, -⟩
    · revert hreported
      decide
    · revert hreported
      decide

end OpenPinch
