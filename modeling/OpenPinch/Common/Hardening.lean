import Mathlib.Data.List.InsertIdx
import Mathlib.Data.Option.Basic
import OpenPinch.Common.Policy

/-!
# Stricter policies

A policy is made stricter by a deny pattern more, an allow pattern or a default
capability less, or by denying what nothing allows.  None of these changes which
rule is selected, so each rule is only compared with its own stricter form.

The verdict on a capability does not depend on the rest of the request, and no
stricter policy allows what was denied (`evaluate_hardened`).
-/

namespace OpenPinch

open Lib (SortedMap)

/-! ## Stricter rules -/

/-- The second rule denies what the first one denies, and allows nothing more. -/
structure CapabilityRule.Stricter (rule rule' : CapabilityRule) : Prop where
  denies : ∀ capability, rule.denies capability = true → rule'.denies capability = true
  allows : ∀ capability, rule'.allows capability = true → rule.allows capability = true

/-- A pattern that matches in part of a list matches in the list. -/
theorem any_matches_mono {patterns patterns' : List String} (h : patterns ⊆ patterns')
    {capability : String}
    (hmatches : patterns.any (fun candidate => matchesCapability candidate capability) = true) :
    patterns'.any (fun candidate => matchesCapability candidate capability) = true := by
  obtain ⟨candidate, hcandidate, hmatch⟩ := List.any_eq_true.mp hmatches
  exact List.any_eq_true.mpr ⟨candidate, h hcandidate, hmatch⟩

namespace CapabilityRule.Stricter

theorem refl (rule : CapabilityRule) : rule.Stricter rule := ⟨fun _ => id, fun _ => id⟩

theorem of_deny {rule : CapabilityRule} {deny : List String} (h : rule.deny ⊆ deny) :
    rule.Stricter { rule with deny := deny } :=
  ⟨fun _ => any_matches_mono h, fun _ => id⟩

theorem of_allow {rule : CapabilityRule} {allow : List String} (h : allow ⊆ rule.allow) :
    rule.Stricter { rule with allow := allow } :=
  ⟨fun _ => id, fun _ => any_matches_mono h⟩

end CapabilityRule.Stricter

namespace CapabilityMatrix

/-- A stricter rule refuses what the rule refuses. -/
theorem refuses_mono {m m' : CapabilityMatrix} {rule rule' : Option CapabilityRule}
    {defaultDeny defaultDeny' : Bool} {capability : String}
    (hrule : Option.Rel CapabilityRule.Stricter rule rule')
    (hdefault : m'.allowsByDefault capability = true → m.allowsByDefault capability = true)
    (hdeny : defaultDeny = true → defaultDeny' = true)
    (h : m.refuses rule defaultDeny capability = true) :
    m'.refuses rule' defaultDeny' capability = true := by
  unfold refuses at h ⊢
  simp only [Bool.or_eq_true, Bool.and_eq_true, Bool.not_eq_true', Bool.or_eq_false_iff] at h ⊢
  cases hrule with
  | some hstricter =>
      rcases h with hdenied | ⟨⟨hunlisted, hundefault⟩, hdenies⟩
      · exact Or.inl (hstricter.denies capability hdenied)
      · refine Or.inr ⟨⟨?_, ?_⟩, hdeny hdenies⟩
        · exact Bool.eq_false_iff.mpr fun hallowed =>
            Bool.eq_false_iff.mp hunlisted (hstricter.allows capability hallowed)
        · exact Bool.eq_false_iff.mpr fun hallowed =>
            Bool.eq_false_iff.mp hundefault (hdefault hallowed)
  | none =>
      rcases h with hdenied | ⟨⟨-, hundefault⟩, hdenies⟩
      · cases hdenied
      · refine Or.inr ⟨⟨rfl, ?_⟩, hdeny hdenies⟩
        exact Bool.eq_false_iff.mpr fun hallowed =>
          Bool.eq_false_iff.mp hundefault (hdefault hallowed)

end CapabilityMatrix

/-! ## Edits -/

/-- An edit that makes a policy stricter. -/
inductive Hardening where
  /-- A deny pattern, at some place of the list of an existing entry. -/
  | addDeny (entry : String) (position : Nat) (pattern : String)
  /-- One allow pattern of an entry is taken out. -/
  | removeAllow (entry : String) (position : Nat)
  /-- One default capability is taken out. -/
  | removeDefault (position : Nat)
  /-- `default_deny` is turned on. -/
  | denyByDefault
deriving DecidableEq, Repr

namespace Hardening

/-- The matrix after an edit. -/
def matrix (m : CapabilityMatrix) : Hardening → CapabilityMatrix
  | addDeny entry position pattern =>
      { m with subjects := m.subjects.adjust entry fun rule =>
          { rule with deny := rule.deny.insertIdx position pattern } }
  | removeAllow entry position =>
      { m with subjects := m.subjects.adjust entry fun rule =>
          { rule with allow := rule.allow.eraseIdx position } }
  | removeDefault position =>
      { m with defaultCapabilities := m.defaultCapabilities.eraseIdx position }
  | denyByDefault => m

/-- `default_deny` after an edit. -/
def defaultDeny (before : Bool) : Hardening → Bool
  | denyByDefault => true
  | _ => before

/-- A change of one entry to a stricter rule changes the selected rule to a stricter one. -/
theorem rel_ruleFor_adjust {m : CapabilityMatrix} {entry : String}
    {change : CapabilityRule → CapabilityRule}
    (h : ∀ rule : CapabilityRule, rule.Stricter (change rule)) (subject : String) :
    Option.Rel CapabilityRule.Stricter (m.ruleFor subject)
      (CapabilityMatrix.ruleFor { m with subjects := m.subjects.adjust entry change } subject) := by
  unfold CapabilityMatrix.ruleFor
  rw [SortedMap.find?_adjust]
  cases m.subjects.find? fun pattern => subjectMatches pattern subject with
  | none => exact .none
  | some found =>
      refine .some ?_
      show found.2.Stricter (if found.1 = entry then change found.2 else found.2)
      split
      · exact h found.2
      · exact .refl found.2

theorem rel_ruleFor (m : CapabilityMatrix) (edit : Hardening) (subject : String) :
    Option.Rel CapabilityRule.Stricter (m.ruleFor subject) ((edit.matrix m).ruleFor subject) := by
  have hsame : Option.Rel CapabilityRule.Stricter (m.ruleFor subject) (m.ruleFor subject) := by
    cases m.ruleFor subject with
    | none => exact .none
    | some rule => exact .some (.refl rule)
  cases edit with
  | addDeny entry position pattern =>
      exact rel_ruleFor_adjust
        (fun rule => .of_deny (rule.deny.subset_insertIdx position pattern)) subject
  | removeAllow entry position =>
      exact rel_ruleFor_adjust (fun rule => .of_allow List.eraseIdx_subset) subject
  | removeDefault position => exact hsame
  | denyByDefault => exact hsame

theorem allowsByDefault_of_hardened {m : CapabilityMatrix} {edit : Hardening}
    {capability : String} (h : (edit.matrix m).allowsByDefault capability = true) :
    m.allowsByDefault capability = true := by
  cases edit with
  | addDeny entry position pattern => exact h
  | removeAllow entry position => exact h
  | removeDefault position => exact any_matches_mono List.eraseIdx_subset h
  | denyByDefault => exact h

theorem defaultDeny_of_true (edit : Hardening) {before : Bool} (h : before = true) :
    edit.defaultDeny before = true := by
  cases edit with
  | denyByDefault => rfl
  | addDeny entry position pattern => exact h
  | removeAllow entry position => exact h
  | removeDefault position => exact h

/-- An edit leaves nothing allowed that was refused. -/
theorem refuses {m : CapabilityMatrix} {subject capability : String} {defaultDeny : Bool}
    (edit : Hardening) (h : m.refuses (m.ruleFor subject) defaultDeny capability = true) :
    (edit.matrix m).refuses ((edit.matrix m).ruleFor subject) (edit.defaultDeny defaultDeny)
      capability = true :=
  CapabilityMatrix.refuses_mono (rel_ruleFor m edit subject) allowsByDefault_of_hardened
    edit.defaultDeny_of_true h

/-- The matrix and `default_deny` after some edits, the first one first. -/
def applyAll (edits : List Hardening) (policy : CapabilityMatrix × Bool) :
    CapabilityMatrix × Bool :=
  edits.foldl (fun policy edit => (edit.matrix policy.1, edit.defaultDeny policy.2)) policy

theorem refuses_applyAll {subject capability : String} (edits : List Hardening)
    {policy : CapabilityMatrix × Bool}
    (h : policy.1.refuses (policy.1.ruleFor subject) policy.2 capability = true) :
    (applyAll edits policy).1.refuses ((applyAll edits policy).1.ruleFor subject)
      (applyAll edits policy).2 capability = true := by
  induction edits generalizing policy with
  | nil => exact h
  | cons edit edits ih => exact ih (edit.refuses h)

end Hardening

namespace CapabilityMatrix

/-- One verdict for each capability splits every request, in its order.  After edits that make
the policy stricter, what was denied is denied and not allowed. -/
theorem evaluate_hardened (m : CapabilityMatrix) (subject : String) (defaultDeny : Bool) :
    (∃ verdict : String → Bool, ∀ requested,
      (m.evaluate subject requested defaultDeny).allowedCapabilities =
          requested.filter verdict ∧
        (m.evaluate subject requested defaultDeny).deniedCapabilities =
          requested.filter fun capability => !verdict capability) ∧
    ∀ (edits : List Hardening) (requested : List String), ∀ capability ∈
      (m.evaluate subject requested defaultDeny).deniedCapabilities,
        let policy := Hardening.applyAll edits (m, defaultDeny)
        capability ∈ (policy.1.evaluate subject requested policy.2).deniedCapabilities ∧
          capability ∉ (policy.1.evaluate subject requested policy.2).allowedCapabilities := by
  constructor
  · refine ⟨fun capability => !m.refuses (m.ruleFor subject) defaultDeny capability,
      fun requested => ⟨evaluate_allowed m subject requested defaultDeny, ?_⟩⟩
    simpa using evaluate_denied m subject requested defaultDeny
  · intro edits requested capability hdenied policy
    obtain ⟨hrequested, hrefused⟩ := mem_denied_iff.mp hdenied
    have hstill : policy.1.refuses (policy.1.ruleFor subject) policy.2 capability = true :=
      @Hardening.refuses_applyAll _ _ edits (m, defaultDeny) hrefused
    refine ⟨mem_denied_iff.mpr ⟨hrequested, hstill⟩, fun hallowed => ?_⟩
    rw [evaluate_allowed] at hallowed
    have hverdict := (List.mem_filter.mp hallowed).2
    rw [hstill] at hverdict
    cases hverdict

/-- A command whose network access is denied, before its allow pattern is taken out and after. -/
theorem evaluate_hardened_command :
    let m := (Hardening.addDeny "*" 0 "network.*").matrix shadowedMatrix
    let policy := Hardening.applyAll [.removeAllow "*" 0, .denyByDefault] (m, false)
    "network.egress" ∈
        (m.evaluate "builtin.command" ["network.egress"] false).deniedCapabilities ∧
      "network.egress" ∈
        (policy.1.evaluate "builtin.command" ["network.egress"] policy.2).deniedCapabilities := by
  intro m policy
  have hdenied : "network.egress" ∈
      (m.evaluate "builtin.command" ["network.egress"] false).deniedCapabilities := by
    decide
  exact ⟨hdenied, ((evaluate_hardened m "builtin.command" false).2
    [.removeAllow "*" 0, .denyByDefault] _ _ hdenied).1⟩

end CapabilityMatrix

end OpenPinch
