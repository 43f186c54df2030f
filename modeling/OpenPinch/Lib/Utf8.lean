import Mathlib.Data.List.Infix
import Mathlib.Tactic.Common

/-!
# Searching in UTF-8

Texts as bytes.  The encoding is a prefix code, and the first byte of a character
stands nowhere else in one.  So a search among the bytes finds what a search among
the characters does (`find_encode`).  The case of ASCII letters can be changed
byte by byte (`encode_map_toLower`).
-/

namespace Lib.Utf8

/-! ## Searching -/

section

variable {α : Type} [DecidableEq α]

/-- Where the first occurrence begins. -/
def find (needle : List α) : List α → Option Nat
  | [] => if needle = [] then some 0 else none
  | a :: rest => if needle <+: a :: rest then some 0 else (find needle rest).map (· + 1)

theorem find_here {needle text : List α} (h : needle <+: text) :
    find needle text = some 0 := by
  cases text with
  | nil => exact if_pos (List.prefix_nil.mp h)
  | cons a rest => exact if_pos h

/-- The first occurrence, and none before it. -/
theorem find_eq_some {needle text : List α} {i : Nat} (h : find needle text = some i) :
    needle <+: text.drop i ∧ ∀ j < i, ¬ needle <+: text.drop j := by
  induction text generalizing i with
  | nil =>
      unfold find at h
      split at h
      · rename_i hneedle
        cases h
        exact ⟨hneedle ▸ List.nil_prefix, nofun⟩
      · cases h
  | cons a rest ih =>
      unfold find at h
      split at h
      · rename_i hhere
        cases h
        exact ⟨hhere, nofun⟩
      · rename_i hnot
        obtain ⟨i', hi', rfl⟩ := Option.map_eq_some_iff.mp h
        obtain ⟨hthere, hfirst⟩ := ih hi'
        refine ⟨hthere, fun j hj => ?_⟩
        cases j with
        | zero => exact hnot
        | succ j => exact hfirst j (Nat.lt_of_succ_lt_succ hj)

/-- A search goes past what no occurrence begins in. -/
theorem find_append {needle skipped text : List α}
    (h : ∀ i < skipped.length, ¬ needle <+: (skipped ++ text).drop i) :
    find needle (skipped ++ text) = (find needle text).map (· + skipped.length) := by
  induction skipped with
  | nil => simp
  | cons a rest ih =>
      have hrest : ∀ i < rest.length, ¬ needle <+: (rest ++ text).drop i :=
        fun i hi => h (i + 1) (Nat.succ_lt_succ hi)
      have hnot : ¬ needle <+: a :: (rest ++ text) := h 0 (Nat.succ_pos _)
      rw [List.cons_append, find, if_neg hnot, ih hrest, Option.map_map]
      rfl

end

/-! ## Encoding -/

/-- The bytes of the characters. -/
def encode (chars : List Char) : List UInt8 := chars.flatMap String.utf8EncodeChar

@[simp] theorem encode_nil : encode [] = [] := rfl

@[simp] theorem encode_cons (c : Char) (chars : List Char) :
    encode (c :: chars) = String.utf8EncodeChar c ++ encode chars := rfl

@[simp] theorem encode_append (chars chars' : List Char) :
    encode (chars ++ chars') = encode chars ++ encode chars' :=
  List.flatMap_append

theorem toByteArray_eq_encode (text : String) :
    text.toByteArray.data.toList = encode text.toList := by
  rw [← String.utf8Encode_toList, List.utf8Encode, List.data_toByteArray, encode]

/-- A text has no more characters than bytes. -/
theorem length_le_length_encode (chars : List Char) : chars.length ≤ (encode chars).length := by
  induction chars with
  | nil => exact Nat.le_refl 0
  | cons c rest ih =>
      have hc := c.utf8Size_pos
      simp
      omega

/-- A text that begins with the bytes of another begins with its characters. -/
theorem encode_prefix_iff {needle text : List Char} :
    encode needle <+: encode text ↔ needle <+: text := by
  constructor
  · rintro ⟨rest, hrest⟩
    refine List.isPrefix_of_utf8Encode_append_eq_utf8Encode rest.toByteArray ?_
    rw [List.utf8Encode, List.utf8Encode, ← List.toByteArray_append]
    exact congrArg List.toByteArray hrest
  · rintro ⟨rest, rfl⟩
    rw [encode_append]
    exact List.prefix_append _ _

/-- No text begins inside a character. -/
theorem not_prefix_inside {c : Char} {needle : List Char} {rest : List UInt8} {i : Nat}
    (hneedle : needle ≠ []) (hi : 0 < i) (hlength : i < (String.utf8EncodeChar c).length) :
    ¬ encode needle <+: (String.utf8EncodeChar c ++ rest).drop i := by
  rintro ⟨tail, htail⟩
  cases needle with
  | nil => exact hneedle rfl
  | cons d more =>
      have hd : 0 < (String.utf8EncodeChar d).length := by simp [d.utf8Size_pos]
      have hfirst : (encode (d :: more) ++ tail)[0]? =
          ((String.utf8EncodeChar c ++ rest).drop i)[0]? := congrArg (·[0]?) htail
      rw [encode_cons, List.append_assoc, List.getElem?_append_left hd, List.getElem?_drop,
        Nat.add_zero, List.getElem?_append_left hlength, List.getElem?_eq_getElem hd,
        List.getElem?_eq_getElem hlength] at hfirst
      have hlead : (String.utf8EncodeChar d)[0].IsUTF8FirstByte :=
        UInt8.isUTF8FirstByte_getElem_utf8EncodeChar.mpr rfl
      rw [Option.some.inj hfirst] at hlead
      have := UInt8.isUTF8FirstByte_getElem_utf8EncodeChar.mp hlead
      omega

/-- Among the bytes of a text, another text is found where it is among the characters. -/
theorem find_encode {needle : List Char} (h : needle ≠ []) (text : List Char) :
    find (encode needle) (encode text) =
      (find needle text).map fun i => (encode (text.take i)).length := by
  induction text with
  | nil =>
      have hbytes : encode needle ≠ [] := fun hnil =>
        h (List.prefix_nil.mp (encode_prefix_iff.mp (hnil ▸ List.nil_prefix)))
      simp [find, h, hbytes]
  | cons c rest ih =>
      by_cases hhere : needle <+: c :: rest
      · rw [find_here hhere, find_here (encode_prefix_iff.mpr hhere)]
        simp
      · have hskip : ∀ i < (String.utf8EncodeChar c).length,
            ¬ encode needle <+: (String.utf8EncodeChar c ++ encode rest).drop i := by
          intro i hi
          cases i with
          | zero => exact fun hbytes => hhere (encode_prefix_iff.mp hbytes)
          | succ i => exact not_prefix_inside h (Nat.succ_pos i) hi
        rw [encode_cons, find_append hskip, ih, find, if_neg hhere, Option.map_map, Option.map_map]
        simp [Function.comp_def, Nat.add_comm]

/-! ## ASCII letters -/

/-- `u8::to_ascii_lowercase`. -/
def lower (b : UInt8) : UInt8 := if 65 ≤ b ∧ b ≤ 90 then b + 32 else b

theorem lower_eq_self {b : UInt8} (h : b.toNat < 65 ∨ 90 < b.toNat) : lower b = b := by
  refine if_neg fun hletter => ?_
  rw [UInt8.le_iff_toNat_le, UInt8.le_iff_toNat_le] at hletter
  simp at hletter
  omega

theorem lower_ofNat {n : Nat} (hn : n < 256) (h : n < 65 ∨ 90 < n) :
    lower (UInt8.ofNat n) = UInt8.ofNat n := by
  refine lower_eq_self ?_
  rwa [UInt8.toNat_ofNat', Nat.mod_eq_of_lt hn]

/-- The bytes of a character that is not a capital ASCII letter are none of these. -/
theorem map_lower_eq_self {c : Char} (h : c.toNat < 65 ∨ 90 < c.toNat) :
    (String.utf8EncodeChar c).map lower = String.utf8EncodeChar c := by
  change c.val.toNat < 65 ∨ 90 < c.val.toNat at h
  fun_cases String.utf8EncodeChar c with
  | case1 v hone => exact congrArg (· :: []) (lower_ofNat (by omega) h)
  | case2 v _ htwo =>
      simp only [List.map_cons, List.map_nil, List.cons.injEq, and_true]
      exact ⟨lower_ofNat (by omega) (by omega), lower_ofNat (by omega) (by omega)⟩
  | case3 v _ _ hthree =>
      simp only [List.map_cons, List.map_nil, List.cons.injEq, and_true]
      exact ⟨lower_ofNat (by omega) (by omega), lower_ofNat (by omega) (by omega),
        lower_ofNat (by omega) (by omega)⟩
  | case4 v _ _ _ =>
      simp only [List.map_cons, List.map_nil, List.cons.injEq, and_true]
      exact ⟨lower_ofNat (by omega) (by omega), lower_ofNat (by omega) (by omega),
        lower_ofNat (by omega) (by omega), lower_ofNat (by omega) (by omega)⟩

theorem utf8EncodeChar_toLower (c : Char) :
    String.utf8EncodeChar c.toLower = (String.utf8EncodeChar c).map lower := by
  have hletter : (c.val ≥ 'A'.val ∧ c.val ≤ 'Z'.val) ↔ 65 ≤ c.toNat ∧ c.toNat ≤ 90 := by
    simp [UInt32.le_iff_toNat_le]
  by_cases h : 65 ≤ c.toNat ∧ c.toNat ≤ 90
  · have hascii : ∀ d : Char, d.toNat ≤ 127 → String.utf8EncodeChar d = [UInt8.ofNat d.toNat] :=
      fun d hd => if_pos hd
    have hlower : c.toLower.toNat = c.toNat + 32 := by
      rw [show c.toLower = _ from dif_pos (hletter.mpr h)]
      show (c.val + 32).toNat = c.toNat + 32
      rw [UInt32.toNat_add, Nat.mod_eq_of_lt]
      · rfl
      · show c.toNat + 32 < 2 ^ 32
        omega
    have hcapital : lower (UInt8.ofNat c.toNat) = UInt8.ofNat c.toNat + 32 := by
      refine if_pos ?_
      rw [UInt8.le_iff_toNat_le, UInt8.le_iff_toNat_le, UInt8.toNat_ofNat']
      simp
      omega
    rw [hascii c.toLower (by omega), hascii c (by omega), hlower, List.map_singleton, hcapital,
      UInt8.ofNat_add]
    rfl
  · have hother : c.toNat < 65 ∨ 90 < c.toNat := by omega
    rw [map_lower_eq_self hother, show c.toLower = c from dif_neg (mt hletter.mp h)]

theorem encode_map_toLower (chars : List Char) :
    encode (chars.map Char.toLower) = (encode chars).map lower := by
  induction chars with
  | nil => rfl
  | cons c rest ih => simp [utf8EncodeChar_toLower, ih]

end Lib.Utf8
