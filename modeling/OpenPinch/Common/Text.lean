import Mathlib.Tactic.Common

/-!
# Strings

The methods of `str` the modelled code uses, on the characters of a string.
-/

namespace OpenPinch

/-- `char::is_whitespace`, the Unicode property `White_Space`. -/
def isWhitespace (c : Char) : Bool :=
  let n := c.toNat
  (9 ≤ n && n ≤ 13) || n == 32 || n == 133 || n == 160 || n == 5760 ||
    (8192 ≤ n && n ≤ 8202) || n == 8232 || n == 8233 || n == 8239 || n == 8287 || n == 12288

/-- `trim_matches` on characters: the text without a matching prefix and suffix. -/
def trimChars (test : Char → Bool) (text : List Char) : List Char :=
  ((text.dropWhile test).reverse.dropWhile test).reverse

/-- `str::trim`. -/
def trim (text : String) : String := String.ofList (trimChars isWhitespace text.toList)

/-- `str::is_char_boundary`. -/
def IsCharBoundary (text : String) (offset : Nat) : Prop :=
  ∃ before after, text = before ++ after ∧ before.utf8ByteSize = offset

theorem isCharBoundary_iff {text : String} {offset : Nat} :
    IsCharBoundary text offset ↔ (⟨offset⟩ : String.Pos.Raw).IsValid text := by
  rw [String.Pos.Raw.isValid_iff_exists_append]
  constructor
  · rintro ⟨before, after, htext, rfl⟩
    exact ⟨before, after, htext, rfl⟩
  · rintro ⟨before, after, htext, hoffset⟩
    exact ⟨before, after, htext, (congrArg String.Pos.Raw.byteIdx hoffset).symm⟩

instance (text : String) (offset : Nat) : Decidable (IsCharBoundary text offset) :=
  decidable_of_iff _ isCharBoundary_iff.symm

/-- Text with no matching character is left alone. -/
theorem trimChars_eq_self {test : Char → Bool} {text : List Char}
    (h : ∀ c ∈ text, test c = false) : trimChars test text = text := by
  have keeps : ∀ {l : List Char}, (∀ c ∈ l, test c = false) → l.dropWhile test = l := by
    intro l hl
    cases l with
    | nil => rfl
    | cons c rest => simp [hl c (List.mem_cons_self ..)]
  have hrev : ∀ c ∈ text.reverse, test c = false := fun c hc => h c (List.mem_reverse.mp hc)
  rw [trimChars, keeps h, keeps hrev, List.reverse_reverse]

end OpenPinch
