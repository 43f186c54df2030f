import Mathlib.Data.String.Basic
import OpenPinch.Lib.SortedMap

/-!
# The capability matrix

A matrix maps subject patterns to rules.  A pattern is a name, `*`, or a prefix
followed by `*`.  `CapabilityMatrix.evaluate` takes the first rule, in key
order, whose pattern matches the subject, and splits the requested capabilities
into allowed and denied ones with it.

Key order is the order of the characters, and `*` sorts before every letter and
digit.  So a wildcard that matches a subject usually sorts before the subject's
own name, and its rule is the one that is used.  `shadowing` is the entry that
does this, and `evaluate_exactDeny_iff` says exactly when a deny pattern of the
subject's own entry still takes effect.
-/

namespace OpenPinch

open Lib (SortedMap)

/-! ## Patterns -/

/-- `strip_suffix('*')`: the text before a final star. -/
def stripStar (pattern : List Char) : Option (List Char) :=
  if pattern.getLast? = some '*' then some pattern.dropLast else none

/-- A name, `*`, or a prefix with a final star. -/
def starMatches (pattern text : String) : Bool :=
  pattern == text || pattern == "*" ||
    ((stripStar pattern.toList).map fun stem => stem.isPrefixOf text.toList).getD false

/-- `subject_matches`. -/
def subjectMatches (pattern subject : String) : Bool := starMatches pattern subject

/-- `matches_capability`. -/
def matchesCapability (pattern capability : String) : Bool := starMatches pattern capability

@[simp] theorem starMatches_self (text : String) : starMatches text text = true := by
  simp [starMatches]

@[simp] theorem subjectMatches_self (subject : String) : subjectMatches subject subject = true :=
  starMatches_self subject

/-! ## Rules and matrices -/

/-- The allow and deny patterns of one subject pattern. -/
structure CapabilityRule where
  description : String
  allow : List String
  deny : List String
deriving DecidableEq, Repr

/-- A deny pattern of the rule matches the capability. -/
def CapabilityRule.denies (rule : CapabilityRule) (capability : String) : Bool :=
  rule.deny.any fun candidate => matchesCapability candidate capability

/-- An allow pattern of the rule matches the capability. -/
def CapabilityRule.allows (rule : CapabilityRule) (capability : String) : Bool :=
  rule.allow.any fun candidate => matchesCapability candidate capability

/-- The matrix loaded from the policy file. -/
structure CapabilityMatrix where
  version : String
  defaultCapabilities : List String
  subjects : SortedMap String CapabilityRule

/-- The outcome of an evaluation. -/
structure PolicyDecision where
  subject : String
  allowedCapabilities : List String
  deniedCapabilities : List String
  source : String
deriving DecidableEq, Repr

namespace CapabilityMatrix

/-- A default capability pattern matches the capability. -/
def allowsByDefault (m : CapabilityMatrix) (capability : String) : Bool :=
  m.defaultCapabilities.any fun candidate => matchesCapability candidate capability

/-- The rule of the first pattern, in key order, that matches the subject. -/
def ruleFor (m : CapabilityMatrix) (subject : String) : Option CapabilityRule :=
  (m.subjects.find? fun pattern => subjectMatches pattern subject).map Prod.snd

/-- The verdict of a rule on one capability. -/
def refuses (m : CapabilityMatrix) (rule : Option CapabilityRule) (defaultDeny : Bool)
    (capability : String) : Bool :=
  let explicitlyDenied := (rule.map fun entry => entry.denies capability).getD false
  let explicitlyAllowed :=
    (rule.map fun entry => entry.allows capability).getD false || m.allowsByDefault capability
  explicitlyDenied || (!explicitlyAllowed && defaultDeny)

/-- `CapabilityMatrix::evaluate`. -/
def evaluate (m : CapabilityMatrix) (subject : String) (requested : List String)
    (defaultDeny : Bool) : PolicyDecision :=
  let rule := m.ruleFor subject
  let split := requested.foldl
    (fun (acc : List String × List String) capability =>
      if m.refuses rule defaultDeny capability then (acc.1, acc.2 ++ [capability])
      else (acc.1 ++ [capability], acc.2))
    ([], [])
  { subject := subject
    allowedCapabilities := split.1
    deniedCapabilities := split.2
    source := m.version }

/-! ## The decision as a partition -/

theorem split_foldl (m : CapabilityMatrix) (rule : Option CapabilityRule) (defaultDeny : Bool)
    (requested : List String) : ∀ allowed denied : List String,
    requested.foldl
      (fun (acc : List String × List String) capability =>
        if m.refuses rule defaultDeny capability then (acc.1, acc.2 ++ [capability])
        else (acc.1 ++ [capability], acc.2))
      (allowed, denied) =
    (allowed ++ requested.filter (fun c => !m.refuses rule defaultDeny c),
      denied ++ requested.filter (fun c => m.refuses rule defaultDeny c)) := by
  induction requested with
  | nil => intro allowed denied; simp
  | cons capability rest ih =>
      intro allowed denied
      rw [List.foldl_cons]
      cases verdict : m.refuses rule defaultDeny capability with
      | true => simp [ih, verdict]
      | false => simp [ih, verdict]

/-- The denied capabilities are the requested ones that the selected rule
refuses, in the order of the request. -/
theorem evaluate_denied (m : CapabilityMatrix) (subject : String) (requested : List String)
    (defaultDeny : Bool) :
    (m.evaluate subject requested defaultDeny).deniedCapabilities =
      requested.filter fun c => m.refuses (m.ruleFor subject) defaultDeny c := by
  simp [evaluate, split_foldl]

/-- The allowed capabilities are the other ones. -/
theorem evaluate_allowed (m : CapabilityMatrix) (subject : String) (requested : List String)
    (defaultDeny : Bool) :
    (m.evaluate subject requested defaultDeny).allowedCapabilities =
      requested.filter fun c => !m.refuses (m.ruleFor subject) defaultDeny c := by
  simp [evaluate, split_foldl]

theorem mem_denied_iff {m : CapabilityMatrix} {subject capability : String}
    {requested : List String} {defaultDeny : Bool} :
    capability ∈ (m.evaluate subject requested defaultDeny).deniedCapabilities ↔
      capability ∈ requested ∧ m.refuses (m.ruleFor subject) defaultDeny capability = true := by
  rw [evaluate_denied, List.mem_filter]

/-- A deny pattern of the rule decides, whatever else holds. -/
theorem refuses_of_denies {m : CapabilityMatrix} {rule : CapabilityRule} {capability : String}
    (h : rule.denies capability = true) (defaultDeny : Bool) :
    m.refuses (some rule) defaultDeny capability = true := by
  simp [refuses, h]

/-! ## Which entry is used -/

/-- The first entry that matches the subject and sorts before its name. -/
def shadowing (m : CapabilityMatrix) (subject : String) : Option (String × CapabilityRule) :=
  m.subjects.find? fun pattern => decide (pattern < subject) && subjectMatches pattern subject

/-- A subject with an entry of its own uses that entry unless another one
shadows it. -/
theorem ruleFor_exact {m : CapabilityMatrix} {subject : String} {rule : CapabilityRule}
    (own : m.subjects.get? subject = some rule) :
    m.ruleFor subject = some (((m.shadowing subject).map Prod.snd).getD rule) := by
  have member : (subject, rule) ∈ m.subjects.entries := SortedMap.get?_eq_some_iff.mp own
  cases hshadow : m.shadowing subject with
  | none =>
      have nothing := SortedMap.find?_eq_none_iff.mp hshadow
      have hfound : m.subjects.find? (fun pattern => subjectMatches pattern subject) =
          some (subject, rule) := by
        refine SortedMap.find?_eq_some_iff.mpr ⟨member, subjectMatches_self subject, ?_⟩
        intro entry hentry lower
        have missed := nothing entry hentry
        rw [decide_eq_true lower, Bool.true_and] at missed
        exact missed
      simp [ruleFor, hfound]
  | some entry =>
      obtain ⟨hentry, hit, least⟩ := SortedMap.find?_eq_some_iff.mp hshadow
      rw [Bool.and_eq_true, decide_eq_true_eq] at hit
      have hfound : m.subjects.find? (fun pattern => subjectMatches pattern subject) =
          some entry := by
        refine SortedMap.find?_eq_some_iff.mpr ⟨hentry, hit.2, ?_⟩
        intro other hother lower
        have missed := least other hother lower
        rw [decide_eq_true (lower.trans hit.1), Bool.true_and] at missed
        exact missed
      simp [ruleFor, hfound]

/-- The entry that shadows the subject's own one, if there is one, refuses the
capability too: by a deny pattern, or by the default when nothing allows it. -/
def ShadowRefuses (m : CapabilityMatrix) (subject : String) (defaultDeny : Bool)
    (capability : String) : Prop :=
  ∀ entry, m.shadowing subject = some entry →
    entry.2.denies capability = true ∨
      (entry.2.allows capability = false ∧ m.allowsByDefault capability = false ∧
        defaultDeny = true)

/-- A deny pattern of the subject's own entry takes effect on a request exactly
when no matching pattern sorts before the subject or the first one that does
refuses the capability as well. -/
theorem evaluate_exactDeny_iff (m : CapabilityMatrix) (subject : String) (rule : CapabilityRule)
    (own : m.subjects.get? subject = some rule) (requested : List String) (defaultDeny : Bool) :
    (∀ capability ∈ requested, rule.denies capability = true →
      capability ∈ (m.evaluate subject requested defaultDeny).deniedCapabilities) ↔
    (∀ capability ∈ requested, rule.denies capability = true →
      m.ShadowRefuses subject defaultDeny capability) := by
  refine forall₃_congr fun capability hrequested hdenied => ?_
  rw [mem_denied_iff, ruleFor_exact own]
  unfold ShadowRefuses
  cases m.shadowing subject with
  | none => simp [hrequested, refuses_of_denies hdenied]
  | some entry =>
      simp only [hrequested, true_and, Option.map_some, Option.getD_some, Option.some.injEq,
        forall_eq']
      simp [refuses, and_assoc]

/-- A matrix whose `*` entry sorts before the entry it overrides. -/
def shadowedMatrix : CapabilityMatrix where
  version := "test"
  defaultCapabilities := []
  subjects :=
    ⟨[("*", ⟨"", ["*"], []⟩), ("builtin.command", ⟨"", [], ["network.*"]⟩)], by decide⟩

theorem evaluate_exactDeny_shadowed :
    shadowedMatrix.subjects.get? "builtin.command" = some ⟨"", [], ["network.*"]⟩ ∧
      (⟨"", [], ["network.*"]⟩ : CapabilityRule).denies "network.egress" = true ∧
      "network.egress" ∉
        (shadowedMatrix.evaluate "builtin.command" ["network.egress"] true).deniedCapabilities := by
  decide

theorem evaluate_exactDeny_iff_shadowed :
    (∀ capability ∈ ["network.egress"],
      (⟨"", [], ["network.*"]⟩ : CapabilityRule).denies capability = true →
      capability ∈
        (shadowedMatrix.evaluate "builtin.command" ["network.egress"] true).deniedCapabilities) ↔
    (∀ capability ∈ ["network.egress"],
      (⟨"", [], ["network.*"]⟩ : CapabilityRule).denies capability = true →
      shadowedMatrix.ShadowRefuses "builtin.command" true capability) :=
  evaluate_exactDeny_iff shadowedMatrix "builtin.command" ⟨"", [], ["network.*"]⟩ (by decide)
    ["network.egress"] true

end CapabilityMatrix

end OpenPinch
