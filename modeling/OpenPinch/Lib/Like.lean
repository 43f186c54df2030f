import Mathlib.Data.List.Infix
import Mathlib.Tactic.Common

/-!
# The operator `like`

Patterns of SQL: `%` stands for any text and `_` for any character, and ASCII
letters match in either case.
-/

namespace Lib.Like

/-- Two characters match when they differ at most in the case of an ASCII letter. -/
def sameLetter (a b : Char) : Bool := a.toLower == b.toLower

/-- A text matches a pattern. -/
def like : List Char → List Char → Bool
  | [], text => text.isEmpty
  | p :: pattern, text =>
      if p = '%' then text.tails.any (like pattern)
      else
        match text with
        | [] => false
        | c :: rest => (p == '_' || sameLetter p c) && like pattern rest

/-- A text in C, which ends at the first zero character. -/
def cText (text : List Char) : List Char := text.takeWhile (· != '\x00')

/-- `%` matches any text. -/
theorem like_any {pattern text : List Char} (before : List Char) (h : like pattern text = true) :
    like ('%' :: pattern) (before ++ text) = true := by
  simp only [like, if_true, List.any_eq_true]
  exact ⟨text, (List.mem_tails _ _).mpr (List.suffix_append before text), h⟩

/-- A character of a pattern matches itself. -/
theorem like_cons {pattern text : List Char} (c : Char) (h : like pattern text = true) :
    like (c :: pattern) (c :: text) = true := by
  by_cases hc : c = '%'
  · subst hc
    exact like_any ['%'] h
  · simp [like, hc, sameLetter, h]

/-- A text that is put before both matches. -/
theorem like_append {pattern text : List Char} (before : List Char)
    (h : like pattern text = true) : like (before ++ pattern) (before ++ text) = true := by
  induction before with
  | nil => exact h
  | cons c before ih => exact like_cons c ih

/-- A text in C before a text. -/
theorem cText_append_of_mem {before : List Char} (h : '\x00' ∈ before) (text : List Char) :
    cText (before ++ text) = cText before := by
  induction before with
  | nil => cases h
  | cons c before ih =>
      by_cases hc : c = '\x00'
      · simp [cText, hc]
      · have hbefore : '\x00' ∈ before := (List.mem_cons.mp h).resolve_left (Ne.symm hc)
        simpa [cText, hc] using ih hbefore

theorem cText_append_of_not_mem {before : List Char} (h : '\x00' ∉ before) (text : List Char) :
    cText (before ++ text) = before ++ cText text := by
  induction before with
  | nil => rfl
  | cons c before ih =>
      simp only [List.mem_cons, not_or] at h
      simpa [cText, Ne.symm h.1] using ih h.2

/-- A text matches each of its prefixes with `%` behind it. -/
theorem like_of_prefix {before text : List Char} (h : before <+: text) :
    like (cText (before ++ ['%'])) (cText text) = true := by
  obtain ⟨rest, rfl⟩ := h
  by_cases hnul : '\x00' ∈ before
  · rw [cText_append_of_mem hnul, cText_append_of_mem hnul, ← List.append_nil (cText before)]
    exact like_append _ rfl
  · rw [cText_append_of_not_mem hnul, cText_append_of_not_mem hnul]
    refine like_append before ?_
    rw [← List.append_nil (cText rest)]
    exact like_any (cText rest) rfl

end Lib.Like
