import OpenPinch.Common.ConfigEdits
import OpenPinch.Engine.BrainForget
import OpenPinch.Engine.Calls
import OpenPinch.Engine.RecallScope
import OpenPinch.Lib.Utf8

/-!
# The budget of the context pack

A text that is too long is cut to three characters less than the limit, and three
dots follow.  So it stays within a limit of three or more.  A pack of the brain is
never empty, as it begins with the summary of what is recalled, and so a smaller
budget is always exceeded (`budget_kept_iff`).
-/

namespace OpenPinch

open Lib (Op Prog)

/-! ## Truncation -/

theorem length_truncateWithEllipsis (value : String) (maxChars : Nat) :
    (truncateWithEllipsis value maxChars).length =
      if value.length ≤ maxChars then value.length else maxChars - 3 + 3 := by
  unfold truncateWithEllipsis
  rw [String.length_toList]
  split
  · rfl
  · rename_i hlong
    rw [String.length_append, String.length_ofList, List.length_take, String.length_toList]
    show min (maxChars - 3) value.length + 3 = maxChars - 3 + 3
    omega

/-- What is cut fits exactly when the dots do. -/
theorem truncateWithEllipsis_le_iff (value : String) (maxChars : Nat) :
    (truncateWithEllipsis value maxChars).length ≤ maxChars ↔
      3 ≤ maxChars ∨ value.length ≤ maxChars := by
  rw [length_truncateWithEllipsis]
  split <;> omega

theorem length_le_utf8ByteSize (text : String) : text.length ≤ text.utf8ByteSize := by
  have hbytes : text.utf8ByteSize = (Lib.Utf8.encode text.toList).length :=
    congrArg List.length (Lib.Utf8.toByteArray_eq_encode text)
  rw [hbytes, ← String.length_toList]
  exact Lib.Utf8.length_le_length_encode text.toList

/-- The end of `build_context_pack`. -/
def fitBudget (budget : Nat) (content : String) : String :=
  if budget < content.utf8ByteSize then truncateWithEllipsis content budget else content

theorem fitBudget_le_iff {budget : Nat} {content : String} (h : 3 ≤ content.length) :
    (fitBudget budget content).length ≤ budget ↔ 3 ≤ budget := by
  have hbytes := length_le_utf8ByteSize content
  unfold fitBudget
  split
  · rw [truncateWithEllipsis_le_iff]
    omega
  · omega

/-! ## The pack -/

section

variable [Externals]

omit [Externals] in
theorem buildRecallSummary_ne_empty (entities : List BrainEntityRecord)
    (facts : List BrainFactRecord) (tasks : List BrainTaskRecord) :
    buildRecallSummary entities facts tasks ≠ "" := by
  have hboth : ∀ (nothing : Bool) (joined : String),
      (if nothing then "no relevant brain context found" else "matched " ++ joined) ≠ "" := by
    intro nothing joined
    cases nothing with
    | true => exact (by decide : "no relevant brain context found" ≠ "")
    | false =>
        intro h
        have hlength := congrArg String.length h
        simp at hlength
  exact hboth _ _

/-- A recall that returns has a summary. -/
theorem recall_summary_ne_empty {manager : BrainManager} {query : BrainRecallQuery} {w : World}
    {result : BrainRecallResult} (h : (Prog.eval (manager.recall query) w).1 = .ok result) :
    result.summary ≠ "" := by
  obtain ⟨read, -, rfl⟩ := (manager.recall_ok query).mp h
  exact buildRecallSummary_ne_empty _ _ _

omit [Externals] in
/-- The first of the lines is in the text of all. -/
theorem length_le_intercalate (separator line : String) (lines : List String) :
    line.length ≤ (separator.intercalate (line :: lines)).length := by
  cases lines with
  | nil => rw [String.intercalate_singleton]
  | cons next rest =>
      rw [String.intercalate_cons_cons, String.length_append, String.length_append]
      omega

/-- A pack that is returned is empty where the brain is disabled, and else a text cut to the
budget that is not short. -/
theorem buildContextPack_ok {manager : BrainManager} {query scopeJson pack : String} {w : World}
    (h : (Prog.eval (manager.buildContextPack query scopeJson) w).1 = .ok pack) :
    (manager.config.enabled = false ∧ pack = "") ∨
      (manager.config.enabled = true ∧ ∃ content, 3 ≤ content.length ∧
        pack = fitBudget manager.config.contextBudgetChars content) := by
  unfold BrainManager.buildContextPack at h
  cases henabled : manager.config.enabled with
  | false =>
      rw [henabled] at h
      exact Or.inl ⟨rfl, (Except.ok.inj h).symm⟩
  | true =>
      rw [henabled] at h
      obtain ⟨recalled, hrecalled, h⟩ := Op.bind_ok.mp h
      obtain ⟨suggested, -, h⟩ := Op.bind_ok.mp h
      refine Or.inr ⟨rfl, _, ?_, (Except.ok.inj h).symm⟩
      rw [if_neg (recall_summary_ne_empty hrecalled)]
      refine Nat.le_trans ?_ (length_le_intercalate _ _ _)
      show 3 ≤ ("summary: " ++ recalled.summary).length
      rw [String.length_append]
      exact Nat.le_add_right_of_le (by decide)

/-! ## Budgets that are set -/

omit [Externals] in
/-- A budget that is set is the number that was given. -/
theorem afterSet_contextBudget {config config' : ConfigFile.AppConfig} {value : String}
    (h : config.afterSet "brain.context_budget_chars" value = (.ok (), config')) :
    ∃ budget, parseUnsigned (2 ^ 64) value = some budget ∧
      config' = { config with brain.contextBudgetChars := budget } := by
  have hrun : config.afterSet "brain.context_budget_chars" value =
      (ConfigFile.assign id (ConfigFile.FieldEdit.parsed (parseUnsigned (2 ^ 64))
        "expected integer for brain.context_budget_chars"
        (fun v c => { c with brain.contextBudgetChars := v }) value)).run config := rfl
  rw [hrun, ConfigFile.run_assign, ConfigFile.FieldEdit.parsed] at h
  cases hvalue : parseUnsigned (2 ^ 64) value with
  | none =>
      rw [hvalue] at h
      cases congrArg Prod.fst h
  | some budget =>
      rw [hvalue] at h
      exact ⟨budget, rfl, (congrArg Prod.snd h).symm⟩

/-- A pack stays within a budget that is set exactly when there is room for the dots or the
brain is disabled, and a text that is cut exactly when there is room for the dots or it was
short enough. -/
theorem budget_kept_iff {config config' : ConfigFile.AppConfig} {value : String}
    (hset : config.afterSet "brain.context_budget_chars" value = (.ok (), config'))
    {manager : BrainManager} (hconfig : manager.config = config'.brain)
    {query scopeJson pack : String} {w : World}
    (h : (Prog.eval (manager.buildContextPack query scopeJson) w).1 = .ok pack) :
    ∃ budget, parseUnsigned (2 ^ 64) value = some budget ∧
      (pack.length ≤ budget ↔ 3 ≤ budget ∨ config.brain.enabled = false) ∧
      ∀ text maxChars, (truncateWithEllipsis text maxChars).length ≤ maxChars ↔
        3 ≤ maxChars ∨ text.length ≤ maxChars := by
  obtain ⟨budget, hvalue, rfl⟩ := afterSet_contextBudget hset
  refine ⟨budget, hvalue, ?_, truncateWithEllipsis_le_iff⟩
  have hbudget : manager.config.contextBudgetChars = budget := by rw [hconfig]
  have henabled : manager.config.enabled = config.brain.enabled := by rw [hconfig]
  rcases buildContextPack_ok h with ⟨hoff, rfl⟩ | ⟨hon, content, hlong, rfl⟩
  · exact iff_of_true (Nat.zero_le budget) (Or.inr (henabled ▸ hoff))
  · rw [hbudget, fitBudget_le_iff hlong, ← henabled, hon]
    simp

end

/-- The default configuration with that budget. -/
def budgetConfig (budget : Nat) : ConfigFile.AppConfig :=
  { ({} : ConfigFile.AppConfig) with brain.contextBudgetChars := budget }

/-- A brain of that configuration which keeps its texts in plain. -/
def budgetBrain (budget : Nat) : BrainManager :=
  { plainBrain with config := (budgetConfig budget).brain }

/-- A pack that is cut to thirty characters. -/
theorem budget_kept_thirty : "summary: no relevant brain ...".length ≤ 30 := by
  have hset : ({} : ConfigFile.AppConfig).afterSet "brain.context_budget_chars" "30" =
      (.ok (), budgetConfig 30) := rfl
  obtain ⟨budget, hbudget, hkept, -⟩ := @budget_kept_iff referenceExternals _ _ _ hset
    (budgetBrain 30) rfl "hi" "" "summary: no relevant brain ..." referenceWorld rfl
  have hthirty : budget = 30 := Option.some.inj (hbudget.symm.trans rfl)
  subst hthirty
  exact hkept.mpr (Or.inl (by decide))

/-- The dots alone are longer than a budget of two characters. -/
theorem budget_kept_fails :
    ¬ ∀ [Externals] {config config' : ConfigFile.AppConfig} {value : String},
      config.afterSet "brain.context_budget_chars" value = (.ok (), config') →
        ∀ {manager : BrainManager}, manager.config = config'.brain →
          ∀ {query scopeJson pack : String} {w : World},
            (Prog.eval (manager.buildContextPack query scopeJson) w).1 = .ok pack →
              pack.length ≤ config'.brain.contextBudgetChars := by
  intro h
  have hset : ({} : ConfigFile.AppConfig).afterSet "brain.context_budget_chars" "2" =
      (.ok (), budgetConfig 2) := rfl
  have hkept := @h referenceExternals _ _ _ hset (budgetBrain 2) rfl "hi" "" "..." referenceWorld
    rfl
  exact absurd hkept (by decide)

end OpenPinch
