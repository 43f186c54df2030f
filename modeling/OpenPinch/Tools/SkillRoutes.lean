import OpenPinch.Common.JsonText
import OpenPinch.Tools.Authorization

/-!
# The two ways to run a skill

`ToolExecutor.executeSkill` gets the id of a skill, and `ToolExecutor.execute`
takes it from the target behind `skill.`.  It takes the prefix off as often as
it is there, so an id that starts with `skill.` itself is not found again
(`skillIdOf_eq_iff`).  The two ways agree on the other ids, and on these ones
only when neither of the two skills runs (`skillRoutes_agree_iff`).
-/

namespace OpenPinch

open Lib (Op Prog)
open Lib.FileSystem (FileTree)
open Lib.Op (acts_bind acts_pure acts_stmt eval_bind_eq_ok eval_stmt_ok trace_bind_ok)
open Lib.Prog (Acts)

/-! ## The id in a target -/

/-- The text starts with `skill.`. -/
def StartsWithSkill (text : String) : Prop := "skill.".toList.isPrefixOf text.toList = true

/-- The id that `execute_inner` takes from a target. -/
def skillIdOf (target : String) : String :=
  String.ofList (trimStartMatches "skill.".toList target.toList.length target.toList)

theorem trimStartMatches_unmatched {pattern text : List Char}
    (h : ¬ pattern.isPrefixOf text = true) (fuel : Nat) :
    trimStartMatches pattern fuel text = text := by
  cases fuel with
  | zero => rfl
  | succ fuel => rw [trimStartMatches, if_neg h]

theorem trimStartMatches_length_le (pattern : List Char) (fuel : Nat) (text : List Char) :
    (trimStartMatches pattern fuel text).length ≤ text.length := by
  induction fuel generalizing text with
  | zero => exact le_rfl
  | succ fuel ih =>
      rw [trimStartMatches]
      split
      · exact (ih _).trans (by simp)
      · exact le_rfl

/-- What is trimmed once gets shorter. -/
theorem trimStartMatches_length_lt {pattern text : List Char} (hpattern : pattern ≠ [])
    (h : pattern.isPrefixOf text = true) (fuel : Nat) :
    (trimStartMatches pattern (fuel + 1) text).length < text.length := by
  rw [trimStartMatches, if_pos h]
  have hle := trimStartMatches_length_le pattern fuel (text.drop pattern.length)
  have hlength := (List.isPrefixOf_iff_prefix.mp h).length_le
  have hpos := List.length_pos_of_ne_nil hpattern
  rw [List.length_drop] at hle
  omega

theorem toList_skillTarget (skillId : String) :
    (s!"skill.{skillId}").toList = "skill.".toList ++ skillId.toList :=
  String.toList_append

theorem startsWithSkill_target (skillId : String) : StartsWithSkill s!"skill.{skillId}" := by
  unfold StartsWithSkill
  rw [toList_skillTarget]
  exact List.isPrefixOf_iff_prefix.mpr (List.prefix_append _ _)

/-- The id is found again unless it starts with the prefix. -/
theorem skillIdOf_eq_iff (skillId : String) :
    skillIdOf s!"skill.{skillId}" = skillId ↔ ¬ StartsWithSkill skillId := by
  have htrim : skillIdOf s!"skill.{skillId}" =
      String.ofList (trimStartMatches "skill.".toList (5 + skillId.toList.length)
        skillId.toList) := by
    have hlength : (s!"skill.{skillId}").toList.length = 5 + skillId.toList.length + 1 := by
      rw [toList_skillTarget, List.length_append]
      show 6 + _ = _
      omega
    have hstarts : "skill.".toList.isPrefixOf (s!"skill.{skillId}").toList = true :=
      startsWithSkill_target skillId
    unfold skillIdOf
    rw [hlength, trimStartMatches, if_pos hstarts, toList_skillTarget, List.drop_left]
  rw [htrim]
  constructor
  · intro heq hskill
    have hshorter := trimStartMatches_length_lt (by decide) hskill (4 + skillId.toList.length)
    have hsame := congrArg (fun text => text.toList.length) heq
    rw [show 4 + skillId.toList.length + 1 = 5 + skillId.toList.length by omega] at hshorter
    simp only [String.toList_ofList] at hsame
    omega
  · intro hplain
    rw [trimStartMatches_unmatched hplain, String.ofList_toList]

/-! ## Runs of a skill -/

section

variable [Externals] [SkillExternals] [PackExternals] (executor : ToolExecutor) (host : ToolHost)

/-- The policy lets the skill run, the skill packs, and the sandbox takes its command. -/
def ToolExecutor.RunsSkill (skillId argumentsJson : String) : Prop :=
  executor.Authorizes host s!"skill.{skillId}" ["skill.execute", "sandbox.execute"] ∧
    ∃ found disk, executor.skills.packagedWorkspace skillId host.disk = .ok found disk ∧
      ∃ output host', executor.sandbox
        (ToolExecutor.skillCommand s!"skill.{skillId}"
          (executor.policy.evaluate s!"skill.{skillId}" ["skill.execute", "sandbox.execute"]
            executor.defaultDeny) found.1 argumentsJson found.2)
        { host with disk := disk } = .ok output host'

/-- The outcome is the one of an error. -/
def FailsWith (summary : String) (run : Prog ToolEvent ToolHost ToolOutcome) : Prop :=
  ∃ error, (run.eval host).1 = failedOutcome summary error

/-- Both ways to the skill fail, or both hand the same command to the sandbox. -/
def SkillRoutesAgree (request : ToolCall) (skillId : String) : Prop :=
  (FailsWith host "execution failed" (executor.execute request) ∧
      FailsWith host "skill execution failed"
        (executor.executeSkill skillId request.argumentsJson)) ∨
    ∃ command, .sandbox command ∈ (executor.execute request).trace host ∧
      .sandbox command ∈ (executor.executeSkill skillId request.argumentsJson).trace host

variable {executor host}

omit [Externals] [SkillExternals] [PackExternals] in
theorem eval_authorize {subject : String} {requested : List String}
    (h : executor.Authorizes host subject requested) :
    Prog.eval (executor.authorize subject requested) host =
      (.ok (executor.policy.evaluate subject requested executor.defaultDeny), host) := by
  have hdenied : (executor.policy.evaluate subject requested
      executor.defaultDeny).deniedCapabilities = [] := by
    rw [CapabilityMatrix.evaluate_denied, List.filter_eq_nil_iff]
    exact authorizes_iff.mp h
  show (Op.result (fun host => _) host, Op.after (fun host => _) host) = _
  simp [Op.result, Op.after, hdenied]

omit [Externals] [SkillExternals] [PackExternals] in
theorem onDisk_ok {α : Type} {m : SkillM α} {a : α} {host' : ToolHost} :
    ToolHost.onDisk m host = .ok a host' ↔
      ∃ disk, m host.disk = .ok a disk ∧ host' = { host with disk := disk } := by
  unfold ToolHost.onDisk
  cases m host.disk with
  | ok a' disk =>
      simp only [EStateM.Result.ok.injEq]
      constructor
      · rintro ⟨rfl, rfl⟩
        exact ⟨disk, ⟨rfl, rfl⟩, rfl⟩
      · rintro ⟨_, ⟨rfl, rfl⟩, rfl⟩
        exact ⟨rfl, rfl⟩
  | error message disk => simp

/-- A skill that runs hands a command to the sandbox and returns. -/
theorem executeSkillInner_runs {skillId argumentsJson : String}
    (h : executor.RunsSkill host skillId argumentsJson) :
    ∃ outcome host',
      Prog.eval (executor.executeSkillInner skillId argumentsJson) host = (.ok outcome, host') ∧
        outcome.summary = s!"skill {skillId} executed" ∧ ∃ command,
          .sandbox command ∈
            Prog.trace (executor.executeSkillInner skillId argumentsJson) host := by
  obtain ⟨hauthorized, found, disk, hfound, output, host', houtput⟩ := h
  have hdecided := eval_authorize hauthorized
  have hpackaged : Prog.eval (Op.stmt (ToolEvent.package skillId) _) host = _ :=
    eval_stmt_ok.mpr (onDisk_ok.mpr ⟨disk, hfound, rfl⟩)
  refine ⟨sandboxOutcome s!"skill {skillId} executed" output, host', ?_, rfl, ?_⟩
  · exact eval_bind_eq_ok.mpr ⟨_, _, hdecided, eval_bind_eq_ok.mpr ⟨_, _, hpackaged,
      eval_bind_eq_ok.mpr ⟨output, host', eval_stmt_ok.mpr houtput, rfl⟩⟩⟩
  · unfold ToolExecutor.executeSkillInner
    rw [trace_bind_ok (congrArg Prod.fst hdecided), hdecided,
      trace_bind_ok (congrArg Prod.fst hpackaged), hpackaged]
    exact ⟨_, List.mem_append_right _ (List.mem_append_right _ List.mem_cons_self)⟩

/-- A run that returns is the one of a skill that runs. -/
theorem executeSkillInner_ok {skillId argumentsJson : String} {outcome : ToolOutcome}
    {host' : ToolHost}
    (h : Prog.eval (executor.executeSkillInner skillId argumentsJson) host =
      (.ok outcome, host')) :
    executor.RunsSkill host skillId argumentsJson := by
  obtain ⟨decision, middle, hdecision, h⟩ := eval_bind_eq_ok.mp h
  have hauthorized : executor.Authorizes host _ _ := ⟨decision, congrArg Prod.fst hdecision⟩
  rw [eval_authorize hauthorized] at hdecision
  cases hdecision
  obtain ⟨found, middle, hpackaged, h⟩ := eval_bind_eq_ok.mp h
  obtain ⟨disk, hfound, rfl⟩ := onDisk_ok.mp (eval_stmt_ok.mp hpackaged)
  obtain ⟨output, host'', houtput, -⟩ := eval_bind_eq_ok.mp h
  exact ⟨hauthorized, found, disk, hfound, output, host'', eval_stmt_ok.mp houtput⟩

/-- Every command of a run has the subject of its skill. -/
theorem executeSkillInner_subject {skillId argumentsJson : String} {command : SandboxCommand}
    (h : .sandbox command ∈
      Prog.trace (executor.executeSkillInner skillId argumentsJson) host) :
    command.subject = s!"skill.{skillId}" := by
  let L : ToolEvent → Prop := fun label => ∀ command, label = .sandbox command →
    command.subject = s!"skill.{skillId}"
  have hacts : Acts (fun label _ => L label)
      (executor.executeSkillInner skillId argumentsJson) := by
    refine acts_bind (acts_stmt fun _ h => nomatch h) fun decision => ?_
    refine acts_bind (acts_stmt fun _ h => nomatch h) fun found => ?_
    refine acts_bind (acts_stmt fun _ h => ?_) fun _ => acts_pure _
    cases h
    exact ToolExecutor.skillCommand_subject _ _ _ _ _
  exact Acts.trace (L := L) (fun _ _ hlabel => hlabel) hacts host _ h command rfl

/-! ## Calls and skills -/

/-- The outcome of a result, with the summary of an error. -/
def outcomeOf (summary : String) : Except String ToolOutcome → ToolOutcome
  | .ok outcome => outcome
  | .error error => failedOutcome summary error

theorem executeSkill_eval (skillId argumentsJson : String) :
    ((executor.executeSkill skillId argumentsJson).eval host).1 =
      outcomeOf "skill execution failed"
        (Prog.eval (executor.executeSkillInner skillId argumentsJson) host).1 := by
  refine (congrArg Prod.fst (Prog.eval_bind _ _ _)).trans ?_
  cases (Prog.eval (executor.executeSkillInner skillId argumentsJson) host).1 with
  | ok outcome => rfl
  | error error => rfl

theorem execute_eval (request : ToolCall) :
    ((executor.execute request).eval host).1 =
      outcomeOf "execution failed" (Prog.eval (executor.executeInner request) host).1 := by
  refine (congrArg Prod.fst (Prog.eval_bind _ _ _)).trans ?_
  cases (Prog.eval (executor.executeInner request) host).1 with
  | ok outcome => rfl
  | error error => rfl

theorem executeSkill_trace (skillId argumentsJson : String) :
    (executor.executeSkill skillId argumentsJson).trace host =
      Prog.trace (executor.executeSkillInner skillId argumentsJson) host := by
  refine (Prog.trace_bind _ _ _).trans ?_
  cases (Prog.eval (executor.executeSkillInner skillId argumentsJson) host).1 with
  | ok outcome => exact List.append_nil _
  | error error => exact List.append_nil _

theorem execute_trace (request : ToolCall) :
    (executor.execute request).trace host = Prog.trace (executor.executeInner request) host := by
  refine (Prog.trace_bind _ _ _).trans ?_
  cases (Prog.eval (executor.executeInner request) host).1 with
  | ok outcome => exact List.append_nil _
  | error error => exact List.append_nil _

/-- A call for a skill runs the skill that its target names. -/
theorem executeInner_skill {request : ToolCall} {skillId : String} {members : List (String × Json)}
    (htarget : request.target = s!"skill.{skillId}")
    (hargs : Externals.jsonParse request.argumentsJson = some (.obj members)) :
    executor.executeInner request =
      executor.executeSkillInner (skillIdOf request.target) request.argumentsJson := by
  have hparse : parseJsonObject request.argumentsJson = pure (.obj members) := by
    unfold parseJsonObject
    rw [hargs]
    rfl
  have hother : ∀ name : String, name.toList.head? = some 'b' → request.target ≠ name := by
    rintro name hname rfl
    rw [htarget, toList_skillTarget] at hname
    cases hname
  have hskill : "skill.".toList.isPrefixOf request.target.toList = true := by
    rw [htarget]
    exact startsWithSkill_target skillId
  unfold ToolExecutor.executeInner
  rw [hparse, pure_bind, if_neg (hother _ rfl), if_neg (hother _ rfl), if_neg (hother _ rfl),
    if_neg (hother _ rfl), if_pos hskill]
  rfl

/-- The outcome of a skill is the one of an error when the skill does not run. -/
theorem outcomeOf_eq_failed_iff {summary skillId argumentsJson : String}
    (hsummary : s!"skill {skillId} executed" ≠ summary) :
    (∃ error, outcomeOf summary
        (Prog.eval (executor.executeSkillInner skillId argumentsJson) host).1 =
          failedOutcome summary error) ↔
      ¬ executor.RunsSkill host skillId argumentsJson := by
  constructor
  · rintro ⟨error, hfailed⟩ hruns
    obtain ⟨outcome, host', heval, houtcome, -⟩ := executeSkillInner_runs hruns
    rw [heval] at hfailed
    exact hsummary (houtcome.symm.trans (congrArg ToolOutcome.summary hfailed))
  · intro hblocked
    cases hrun : Prog.eval (executor.executeSkillInner skillId argumentsJson) host with
    | mk result host' =>
        cases result with
        | ok outcome => exact absurd (executeSkillInner_ok hrun) hblocked
        | error error => exact ⟨error, rfl⟩

omit [Externals] [SkillExternals] [PackExternals] in
theorem summary_ne_executionFailed (skillId : String) :
    s!"skill {skillId} executed" ≠ "execution failed" := by
  intro heq
  have heq : "skill " ++ skillId ++ " executed" = "execution failed" := heq
  have hfirst := congrArg (fun text : String => text.toList.head?) heq
  simp at hfirst

omit [Externals] [SkillExternals] [PackExternals] in
theorem summary_ne_skillExecutionFailed (skillId : String) :
    s!"skill {skillId} executed" ≠ "skill execution failed" := by
  intro heq
  have heq : "skill " ++ skillId ++ " executed" = "skill execution failed" := heq
  have hlast := congrArg (fun text : String => text.toList.reverse.take 3) heq
  simp at hlast

/-- For a skill and the call with its target: both ways fail or hand the same command to the
sandbox exactly when the id does not start with `skill.`, or neither the skill of the id nor
the one that the target is taken for runs. -/
theorem skillRoutes_agree_iff (executor : ToolExecutor) (host : ToolHost) (skillId : String)
    (request : ToolCall) (htarget : request.target = s!"skill.{skillId}")
    (hargs : ∃ members, Externals.jsonParse request.argumentsJson = some (.obj members)) :
    SkillRoutesAgree executor host request skillId ↔
      ¬ StartsWithSkill skillId ∨
        (¬ executor.RunsSkill host skillId request.argumentsJson ∧
          ¬ executor.RunsSkill host (skillIdOf request.target) request.argumentsJson) := by
  obtain ⟨members, hargs⟩ := hargs
  have hinner : executor.executeInner request =
      executor.executeSkillInner (skillIdOf request.target) request.argumentsJson :=
    executeInner_skill htarget hargs
  have hcall : FailsWith host "execution failed" (executor.execute request) ↔
      ¬ executor.RunsSkill host (skillIdOf request.target) request.argumentsJson := by
    unfold FailsWith
    rw [execute_eval, hinner]
    exact outcomeOf_eq_failed_iff (summary_ne_executionFailed _)
  have hskill : FailsWith host "skill execution failed"
      (executor.executeSkill skillId request.argumentsJson) ↔
        ¬ executor.RunsSkill host skillId request.argumentsJson := by
    unfold FailsWith
    rw [executeSkill_eval]
    exact outcomeOf_eq_failed_iff (summary_ne_skillExecutionFailed _)
  unfold SkillRoutesAgree
  rw [hcall, hskill, execute_trace, executeSkill_trace, hinner, htarget]
  constructor
  · rintro (⟨hcall, hskill⟩ | ⟨command, hcalled, hhanded⟩)
    · exact Or.inr ⟨hskill, hcall⟩
    · -- a command names the id that it was made for
      refine Or.inl ((skillIdOf_eq_iff skillId).mp ?_)
      have hsubject := (executeSkillInner_subject hcalled).symm.trans
        (executeSkillInner_subject hhanded)
      exact String.append_right_inj _ |>.mp hsubject
  · rintro (hplain | ⟨hskill, hcall⟩)
    · rw [(skillIdOf_eq_iff skillId).mpr hplain]
      by_cases hruns : executor.RunsSkill host skillId request.argumentsJson
      · obtain ⟨-, -, -, -, command, hhanded⟩ := executeSkillInner_runs hruns
        exact Or.inr ⟨command, hhanded, hhanded⟩
      · exact Or.inl ⟨hruns, hruns⟩
    · exact Or.inl ⟨hcall, hskill⟩

end

/-! ### An id that starts with the prefix -/

def backupManifest : SkillManifest := ⟨"backup", "1", "backup", "", "shell", "run.sh", []⟩

def prefixedManifest : SkillManifest := ⟨"skill.backup", "1", "other", "", "shell", "run.sh", []⟩

/-- Documents that stand for the two manifests. -/
@[reducible] def backupExternals : SkillExternals where
  manifestFromSlice bytes :=
    if bytes = asBytes "backup" then some backupManifest
    else if bytes = asBytes "skill.backup" then some prefixedManifest
    else none
  signatureFromSlice _ := none
  trustRootFromSlice _ := none
  validKey _ := false
  verifySignature _ _ _ := false
  unpackArchive _ _ t := (t, false)

/-- An archive with nothing but the script of a skill. -/
@[reducible] def scriptPackExternals : PackExternals where
  listed names := names
  packDir t root := t.content? (root ++ ["run.sh"])

/-- A machine with the skills `backup` and `skill.backup`. -/
def backupHost : ToolHost where
  disk :=
    { tree := ((do
        let t ← FileTree.empty.insert [] "s" .dir
        let t ← t.insert ["s"] "backup-1" .dir
        let t ← t.insert ["s", "backup-1"] "manifest.json" (.file (asBytes "backup"))
        let t ← t.insert ["s", "backup-1"] "run.sh" (.file [0x3a])
        let t ← t.insert ["s"] "skill.backup-1" .dir
        let t ← t.insert ["s", "skill.backup-1"] "manifest.json" (.file (asBytes "skill.backup"))
        t.insert ["s", "skill.backup-1"] "run.sh" (.file [0x23]) :
          Option (FileTree Bytes))).getD FileTree.empty
      failsAt := fun _ => false
      step := 0 }
  now := 0
  os := "linux"
  arch := "x86_64"

/-- An executor that runs every skill. -/
def backupExecutor : ToolExecutor where
  defaultDeny := true
  policy :=
    { version := "test"
      defaultCapabilities := []
      subjects := .singleton "skill.*" ⟨"", ["skill.execute", "sandbox.execute"], []⟩ }
  skills := ⟨["", "s"]⟩
  sandbox := fun _ host => .ok ⟨true, 0, "", "", []⟩ host

def backupCall (skillId : String) : ToolCall :=
  ⟨s!"skill.{skillId}", "\x7b\x7d", false, .interactive⟩

/-- The command that runs a script. -/
def scriptCommand (subject archive : String) : SandboxCommand where
  subject := subject
  capabilities := ["skill.execute", "sandbox.execute"]
  program := "/bin/sh"
  args := ["/workspace/run.sh"]
  env := [("OPENPINCH_SKILL_ARGS_JSON", "\x7b\x7d")]
  allowNetwork := false
  workspaceArchiveB64 := some archive

theorem skillRoutes_agree_fails :
    (∃ members, @Externals.jsonParse jsonExternals (backupCall "skill.backup").argumentsJson =
        some (.obj members)) ∧
      ¬ @SkillRoutesAgree jsonExternals backupExternals scriptPackExternals backupExecutor
        backupHost (backupCall "skill.backup") "skill.backup" := by
  have hcall : (@ToolExecutor.execute jsonExternals backupExternals scriptPackExternals
      backupExecutor (backupCall "skill.backup")).trace backupHost =
        [.authorize "skill.backup" ["skill.execute", "sandbox.execute"], .package "backup",
          .sandbox (scriptCommand "skill.backup" "Og==")] := by
    decide
  have hskill : (@ToolExecutor.executeSkill jsonExternals backupExternals scriptPackExternals
      backupExecutor "skill.backup" "\x7b\x7d").trace backupHost =
        [.authorize "skill.skill.backup" ["skill.execute", "sandbox.execute"],
          .package "skill.backup", .sandbox (scriptCommand "skill.skill.backup" "Iw==")] := by
    decide
  have hsuccess : ((@ToolExecutor.execute jsonExternals backupExternals scriptPackExternals
      backupExecutor (backupCall "skill.backup")).eval backupHost).1.success = true := by
    decide
  refine ⟨⟨[], rfl⟩, ?_⟩
  rintro (⟨⟨error, hfailed⟩, -⟩ | ⟨command, hcalled, hhanded⟩)
  · rw [hfailed] at hsuccess
    cases hsuccess
  · rw [hcall] at hcalled
    have hcommand : command = scriptCommand "skill.backup" "Og==" := by
      simpa using hcalled
    subst hcommand
    have hmem : ToolEvent.sandbox (scriptCommand "skill.backup" "Og==") ∈
        [.authorize "skill.skill.backup" ["skill.execute", "sandbox.execute"],
          .package "skill.backup", .sandbox (scriptCommand "skill.skill.backup" "Iw==")] :=
      hskill ▸ hhanded
    revert hmem
    decide

theorem skillRoutes_agree_iff_backup :
    @SkillRoutesAgree jsonExternals backupExternals scriptPackExternals backupExecutor backupHost
        (backupCall "backup") "backup" ↔
      ¬ StartsWithSkill "backup" ∨
        (¬ @ToolExecutor.RunsSkill backupExternals scriptPackExternals
            backupExecutor backupHost "backup" (backupCall "backup").argumentsJson ∧
          ¬ @ToolExecutor.RunsSkill backupExternals scriptPackExternals
            backupExecutor backupHost (skillIdOf (backupCall "backup").target)
            (backupCall "backup").argumentsJson) :=
  @skillRoutes_agree_iff jsonExternals backupExternals scriptPackExternals backupExecutor
    backupHost "backup" (backupCall "backup") rfl ⟨[], rfl⟩

end OpenPinch
