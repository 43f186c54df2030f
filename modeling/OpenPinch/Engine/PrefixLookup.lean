import OpenPinch.Engine.Rules
import OpenPinch.Engine.StateStore

/-!
# The prefix that a lookup finds

The prefix cache is searched with `like`, and the stored key is the pattern.  Every
key that is a prefix of the prompt matches.  So do others, since `%` and `_` are
wildcards, the case of ASCII letters does not count and a text ends at its first zero
character.  `Unrivalled` says that the longest prefix of the prompt is found all the
same.
-/

namespace OpenPinch

open Lib.Like (cText)
open StateStore (prefixMatches prefixGet)

/-! ## Prefixes -/

namespace CacheRow

/-- The key is a prefix of the prompt, character for character. -/
def LiteralPrefix (prompt : String) (row : CacheRow) : Prop :=
  row.key.toList <+: prompt.toList

instance (prompt : String) (row : CacheRow) : Decidable (row.LiteralPrefix prompt) :=
  inferInstanceAs (Decidable (_ <+: _))

/-- What a lookup returns of the row. -/
def reply (row : CacheRow) : String × String := (row.provider, row.response)

/-- The `length` of the key, up to its first zero character. -/
def sqlLength (row : CacheRow) : Nat := (cText row.key.toList).length

/-- A literal prefix matches as a pattern. -/
theorem LiteralPrefix.matches {prompt : String} {row : CacheRow} (h : row.LiteralPrefix prompt) :
    prefixMatches prompt row = true :=
  Lib.Like.like_of_prefix h

end CacheRow

/-- The longest of the keys that are prefixes of the prompt. -/
structure LongestPrefix (rows : List CacheRow) (prompt : String) (row : CacheRow) : Prop where
  mem : row ∈ rows
  literal : row.LiteralPrefix prompt
  longest : ∀ other ∈ rows, other.LiteralPrefix prompt → other.key.length ≤ row.key.length

/-- A lookup finds the row of the longest prefix, and nothing where there is none. -/
structure FindsLongest (rows : List CacheRow) (prompt : String)
    (found : Option (String × String)) : Prop where
  longest : ∀ row, LongestPrefix rows prompt row → found = some row.reply
  missing : (∀ row ∈ rows, ¬ row.LiteralPrefix prompt) → found = none

/-! ## Rivals -/

/-- A key that matches is outranked by one with this reply: by a longer one, or by one
before it that is as long. -/
def Outranked (prompt : String) (reply : String × String) (before : List CacheRow)
    (row : CacheRow) (behind : List CacheRow) : Prop :=
  (∃ other ∈ before, prefixMatches prompt other = true ∧ other.reply = reply ∧
      row.sqlLength ≤ other.sqlLength) ∨
    ∃ other ∈ behind, prefixMatches prompt other = true ∧ other.reply = reply ∧
      row.sqlLength < other.sqlLength

/-- No key matches where there is no prefix of the prompt.  Where there is one, each key
that matches and has another reply is outranked by one with the reply of the longest. -/
structure Unrivalled (rows : List CacheRow) (prompt : String) : Prop where
  literal : ∀ row ∈ rows, prefixMatches prompt row = true →
    ∃ other ∈ rows, other.LiteralPrefix prompt
  outranked : ∀ longest, LongestPrefix rows prompt longest → ∀ before row behind,
    rows = before ++ row :: behind → prefixMatches prompt row = true →
      row.reply ≠ longest.reply → Outranked prompt longest.reply before row behind

/-- The row that is found: the first of the longest that match. -/
theorem prefixGet_eq_some {rows : List CacheRow} {prompt : String} {reply : String × String} :
    prefixGet rows prompt = some reply ↔
      ∃ before row behind, rows = before ++ row :: behind ∧ row.reply = reply ∧
        prefixMatches prompt row = true ∧
        (∀ other ∈ before, prefixMatches prompt other = true →
          other.sqlLength < row.sqlLength) ∧
        ∀ other ∈ behind, prefixMatches prompt other = true →
          other.sqlLength ≤ row.sqlLength := by
  simp only [prefixGet, Option.map_eq_some_iff, Lib.Table.head?_descending_filter]
  constructor
  · rintro ⟨row, ⟨before, behind, hrows, hmatches, hbefore, hbehind⟩, hreply⟩
    exact ⟨before, row, behind, hrows, hreply, hmatches, hbefore, hbehind⟩
  · rintro ⟨before, row, behind, hrows, hreply, hmatches, hbefore, hbehind⟩
    exact ⟨row, ⟨before, behind, hrows, hmatches, hbefore, hbehind⟩, hreply⟩

theorem prefixGet_eq_none {rows : List CacheRow} {prompt : String} :
    prefixGet rows prompt = none ↔ ∀ row ∈ rows, prefixMatches prompt row = false := by
  simp only [prefixGet, Option.map_eq_none_iff, List.head?_eq_none_iff]
  constructor
  · intro hnone row hrow
    refine Bool.eq_false_iff.mpr fun hmatches => ?_
    obtain ⟨first, hfirst, -⟩ := Lib.Table.head_descending CacheRow.sqlLength
      (List.mem_filter.mpr ⟨hrow, hmatches⟩)
    rw [show Lib.Table.descending CacheRow.sqlLength _ = [] from hnone] at hfirst
    cases hfirst
  · intro hnone
    rw [List.filter_eq_nil_iff.mpr fun row hrow => by simp [hnone row hrow]]
    rfl

/-- The row that is found outranks every other, so that one with another reply is not
outranked by one with its reply. -/
theorem Outranked.of_found {rows before behind left right : List CacheRow} {prompt : String}
    {first row : CacheRow} (hfirst : rows = before ++ first :: behind)
    (hbefore : ∀ other ∈ before, prefixMatches prompt other = true →
      other.sqlLength < first.sqlLength)
    (hbehind : ∀ other ∈ behind, prefixMatches prompt other = true →
      other.sqlLength ≤ first.sqlLength)
    (hmatches : prefixMatches prompt first = true) (hrow : rows = left ++ row :: right)
    (hrowMatches : prefixMatches prompt row = true) (hne : row.reply ≠ first.reply) :
    Outranked prompt first.reply left row right := by
  rw [hfirst] at hrow
  rcases List.append_eq_append_iff.mp hrow with ⟨middle, rfl, hright⟩ | ⟨middle, rfl, hright⟩
  · -- the found row stands before the other
    cases middle with
    | nil =>
        cases hright
        exact absurd rfl hne
    | cons next middle =>
        obtain ⟨rfl, rfl⟩ := List.cons.inj hright
        refine Or.inl ⟨first, by simp, hmatches, rfl, hbehind row (by simp) hrowMatches⟩
  · cases middle with
    | nil =>
        cases hright
        exact absurd rfl hne
    | cons next middle =>
        obtain ⟨rfl, rfl⟩ := List.cons.inj hright
        exact Or.inr ⟨first, by simp, hmatches, rfl, hbefore row (by simp) hrowMatches⟩

theorem prefixGet_findsLongest (rows : List CacheRow) (prompt : String) :
    FindsLongest rows prompt (prefixGet rows prompt) ↔ Unrivalled rows prompt := by
  constructor
  · intro h
    refine ⟨fun row hrow hmatches => ?_,
      fun longest hlongest left row right hrows hmatches hne => ?_⟩
    · by_contra hnone
      have hmissing := h.missing fun other hother hliteral => hnone ⟨other, hother, hliteral⟩
      rw [prefixGet_eq_none] at hmissing
      exact absurd hmatches (by simp [hmissing row hrow])
    · obtain ⟨before, first, behind, hfirst, hreply, hfirstMatches, hbefore, hbehind⟩ :=
        prefixGet_eq_some.mp (h.longest longest hlongest)
      rw [← hreply] at hne ⊢
      exact .of_found hfirst hbefore hbehind hfirstMatches hrows hmatches hne
  · intro h
    refine ⟨fun longest hlongest => ?_, fun hnone => ?_⟩
    · cases hfound : prefixGet rows prompt with
      | none =>
          have hmatches := prefixGet_eq_none.mp hfound longest hlongest.mem
          rw [hlongest.literal.matches] at hmatches
          cases hmatches
      | some reply =>
          obtain ⟨before, first, behind, hfirst, rfl, hmatches, hbefore, hbehind⟩ :=
            prefixGet_eq_some.mp hfound
          by_contra hne
          have hother : first.reply ≠ longest.reply := fun heq => hne (congrArg some heq)
          rcases h.outranked longest hlongest before first behind hfirst hmatches hother with
            ⟨other, hmem, hmatches', -, hle⟩ | ⟨other, hmem, hmatches', -, hlt⟩
          · exact absurd (hbefore other hmem hmatches') (not_lt.mpr hle)
          · exact absurd (hbehind other hmem hmatches') (not_le.mpr hlt)
    · refine prefixGet_eq_none.mpr fun row hrow => Bool.eq_false_iff.mpr fun hmatches => ?_
      obtain ⟨other, hother, hliteral⟩ := h.literal row hrow hmatches
      exact hnone other hother hliteral

/-! ## Lookups -/

/-- `cache_prefix_get` finds the longest stored prefix of a prompt exactly when no other key
that matches stands in its way. -/
theorem cachePrefixGet_findsLongest {prompt : String} {w : World}
    {found : Option (String × String)}
    (h : ((StateStore.cachePrefixGet prompt).eval w).1 = .ok found) :
    FindsLongest w.caches.prefixCache prompt found ↔
      Unrivalled w.caches.prefixCache prompt := by
  have hfound : found = prefixGet w.caches.prefixCache prompt := by
    have hselect := (View.result_run View.caches _ w).symm.trans h
    exact Stmt.select_ok hselect
  rw [hfound, prefixGet_findsLongest]

/-! ## A percentage -/

/-- Responses are stored under keys. -/
def keyedWorld (entries : List (String × String)) : World :=
  { World.fresh countingSurroundings fun _ => .ok "" with
    caches := ⟨[], entries.map fun (key, response) => ⟨key, "ollama", response, 0⟩⟩ }

/-- Keys that match a greeting, two of them by a wildcard or in capitals only. -/
def greetingWorld : World :=
  keyedWorld [("h%", "wild"), ("hi", "short"), ("hi t", "hello"), ("HI T", "loud")]

/-- The longest key that is a prefix is as long as the others that match, and before them. -/
theorem greetingWorld_unrivalled : Unrivalled greetingWorld.caches.prefixCache "hi there" where
  literal row hrow _ := ⟨⟨"hi t", "ollama", "hello", 0⟩, by decide, ⟨"here".toList, by decide⟩⟩
  outranked := by
    have hone : ∀ row ∈ greetingWorld.caches.prefixCache, row.LiteralPrefix "hi there" →
        4 ≤ row.key.length → row = ⟨"hi t", "ollama", "hello", 0⟩ := by decide
    have hends : ∀ longest, LongestPrefix greetingWorld.caches.prefixCache "hi there" longest →
        longest = ⟨"hi t", "ollama", "hello", 0⟩ := fun longest hlongest =>
      hone longest hlongest.mem hlongest.literal
        (hlongest.longest ⟨"hi t", "ollama", "hello", 0⟩ (by decide) (by decide))
    intro longest hlongest before row behind hrows _ hne
    rw [hends longest hlongest] at hne ⊢
    simp only [greetingWorld, keyedWorld, List.map_cons, List.map_nil] at hrows
    rcases before with _ | ⟨first, _ | ⟨second, _ | ⟨third, _ | ⟨fourth, rest⟩⟩⟩⟩ <;>
      simp only [List.nil_append, List.cons_append, List.cons.injEq] at hrows
    · obtain ⟨rfl, rfl⟩ := hrows
      exact Or.inr (by decide)
    · obtain ⟨rfl, rfl, rfl⟩ := hrows
      exact Or.inr (by decide)
    · obtain ⟨rfl, rfl, rfl, rfl⟩ := hrows
      exact absurd rfl hne
    · obtain ⟨rfl, rfl, rfl, rfl, rfl⟩ := hrows
      exact Or.inl (by decide)
    · simp at hrows

/-- A greeting is found under the longest of its prefixes. -/
theorem cachePrefixGet_findsLongest_greeting :
    FindsLongest greetingWorld.caches.prefixCache "hi there" (some ("ollama", "hello")) :=
  (cachePrefixGet_findsLongest (by decide)).mpr greetingWorld_unrivalled

/-- A key that ends in a percent sign answers a prompt that it is no prefix of. -/
theorem cachePrefixGet_findsLongest_fails :
    ¬ ∀ (prompt : String) (w : World) (found : Option (String × String)),
      ((StateStore.cachePrefixGet prompt).eval w).1 = .ok found →
        FindsLongest w.caches.prefixCache prompt found := by
  intro h
  have hfound := h "500 euros" (keyedWorld [("50%", "hello")]) (some ("ollama", "hello"))
    (by decide)
  refine absurd (hfound.missing fun row hrow hprefix => ?_) (by simp)
  cases List.mem_singleton.mp hrow
  exact absurd hprefix (by decide)

end OpenPinch
