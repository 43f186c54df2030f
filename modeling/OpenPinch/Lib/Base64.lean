import Mathlib.Tactic.Common

/-!
# Base64

The standard alphabet, three bytes to four characters, `=` as padding.  The
decoder accepts canonical text only: no padding inside the text, and no bits
set behind the last byte.  `decode_encode` is the round trip and
`mem_encode_alphabet` says which characters an encoding is made of.  The same is
shown of the alphabet for addresses, which has no padding (`decodeUrl_encodeUrl`).
-/

namespace Lib

namespace Base64

/-- The 64 digits. -/
def alphabet : List Char :=
  ['A', 'B', 'C', 'D', 'E', 'F', 'G', 'H', 'I', 'J', 'K', 'L', 'M', 'N', 'O', 'P', 'Q', 'R', 'S',
    'T', 'U', 'V', 'W', 'X', 'Y', 'Z', 'a', 'b', 'c', 'd', 'e', 'f', 'g', 'h', 'i', 'j', 'k', 'l',
    'm', 'n', 'o', 'p', 'q', 'r', 's', 't', 'u', 'v', 'w', 'x', 'y', 'z', '0', '1', '2', '3', '4',
    '5', '6', '7', '8', '9', '+', '/']

/-- The digit of a six-bit value. -/
def digit (n : Nat) : Char := alphabet.getD n 'A'

/-- The six-bit value of a digit. -/
def value (c : Char) : Option Nat := alphabet.idxOf? c

/-- Bytes to digits. -/
def encode : List UInt8 → List Char
  | [] => []
  | [a] => [digit (a.toNat / 4), digit (a.toNat % 4 * 16), '=', '=']
  | [a, b] =>
      [digit (a.toNat / 4), digit (a.toNat % 4 * 16 + b.toNat / 16),
        digit (b.toNat % 16 * 4), '=']
  | a :: b :: c :: rest =>
      digit (a.toNat / 4) :: digit (a.toNat % 4 * 16 + b.toNat / 16) ::
        digit (b.toNat % 16 * 4 + c.toNat / 64) :: digit (c.toNat % 64) :: encode rest

/-- A last group with one byte in it. -/
def decodeOne (w x : Char) : Option (List UInt8) := do
  let w ← value w
  let x ← value x
  if x % 16 = 0 then some [UInt8.ofNat (w * 4 + x / 16)] else none

/-- A last group with two bytes in it. -/
def decodeTwo (w x y : Char) : Option (List UInt8) := do
  let w ← value w
  let x ← value x
  let y ← value y
  if y % 4 = 0 then
    some [UInt8.ofNat (w * 4 + x / 16), UInt8.ofNat (x % 16 * 16 + y / 4)]
  else none

/-- A full group. -/
def decodeThree (w x y z : Char) : Option (List UInt8) := do
  let w ← value w
  let x ← value x
  let y ← value y
  let z ← value z
  some [UInt8.ofNat (w * 4 + x / 16), UInt8.ofNat (x % 16 * 16 + y / 4),
    UInt8.ofNat (y % 4 * 64 + z)]

/-- Digits to bytes. -/
def decode : List Char → Option (List UInt8)
  | [] => some []
  | w :: x :: y :: z :: rest =>
      if z = '=' then
        if rest = [] then (if y = '=' then decodeOne w x else decodeTwo w x y) else none
      else do
        let head ← decodeThree w x y z
        let tail ← decode rest
        some (head ++ tail)
  | _ => none

theorem digit_ne_pad : ∀ n < 64, digit n ≠ '=' := by decide +kernel

theorem value_digit : ∀ n < 64, value (digit n) = some n := by decide

theorem digit_mem_alphabet : ∀ n < 64, digit n ∈ alphabet := by decide +kernel

theorem ofNat_of_eq {n : Nat} {a : UInt8} (h : n = a.toNat) : UInt8.ofNat n = a := by
  subst h
  exact UInt8.ofNat_toNat

/-- Decoding an encoding gives the bytes back. -/
theorem decode_encode : ∀ bytes : List UInt8, decode (encode bytes) = some bytes
  | [] => rfl
  | [a] => by
      have ha := a.toNat_lt
      simp only [encode, decode, if_true, decodeOne]
      rw [value_digit _ (by omega), value_digit _ (by omega)]
      simp only [Option.bind_eq_bind, Option.bind_some]
      rw [if_pos (by omega), ofNat_of_eq (a := a) (by omega)]
  | [a, b] => by
      have ha := a.toNat_lt
      have hb := b.toNat_lt
      simp only [encode, decode, if_true, decodeTwo]
      rw [if_neg (digit_ne_pad _ (by omega)), value_digit _ (by omega), value_digit _ (by omega),
        value_digit _ (by omega)]
      simp only [Option.bind_eq_bind, Option.bind_some]
      rw [if_pos (by omega), ofNat_of_eq (a := a) (by omega), ofNat_of_eq (a := b) (by omega)]
  | a :: b :: c :: rest => by
      have ha := a.toNat_lt
      have hb := b.toNat_lt
      have hc := c.toNat_lt
      simp only [encode, decode, decodeThree]
      rw [if_neg (digit_ne_pad _ (by omega)), value_digit _ (by omega), value_digit _ (by omega),
        value_digit _ (by omega), value_digit _ (by omega), decode_encode rest]
      simp only [Option.bind_eq_bind, Option.bind_some]
      rw [ofNat_of_eq (a := a) (by omega), ofNat_of_eq (a := b) (by omega),
        ofNat_of_eq (a := c) (by omega)]
      rfl

/-- Every character of an encoding is a digit or padding. -/
theorem mem_encode_alphabet {ch : Char} :
    ∀ bytes : List UInt8, ch ∈ encode bytes → ch ∈ alphabet ∨ ch = '='
  | [], h => by simp [encode] at h
  | [a], h => by
      have ha := a.toNat_lt
      simp only [encode, List.mem_cons, List.not_mem_nil, or_false] at h
      rcases h with rfl | rfl | rfl | rfl
      · exact Or.inl (digit_mem_alphabet _ (by omega))
      · exact Or.inl (digit_mem_alphabet _ (by omega))
      · exact Or.inr rfl
      · exact Or.inr rfl
  | [a, b], h => by
      have ha := a.toNat_lt
      have hb := b.toNat_lt
      simp only [encode, List.mem_cons, List.not_mem_nil, or_false] at h
      rcases h with rfl | rfl | rfl | rfl
      · exact Or.inl (digit_mem_alphabet _ (by omega))
      · exact Or.inl (digit_mem_alphabet _ (by omega))
      · exact Or.inl (digit_mem_alphabet _ (by omega))
      · exact Or.inr rfl
  | a :: b :: c :: rest, h => by
      have ha := a.toNat_lt
      have hb := b.toNat_lt
      have hc := c.toNat_lt
      simp only [encode, List.mem_cons] at h
      rcases h with rfl | rfl | rfl | rfl | h
      · exact Or.inl (digit_mem_alphabet _ (by omega))
      · exact Or.inl (digit_mem_alphabet _ (by omega))
      · exact Or.inl (digit_mem_alphabet _ (by omega))
      · exact Or.inl (digit_mem_alphabet _ (by omega))
      · exact mem_encode_alphabet rest h

/-! ## Without padding -/

/-- The digits of the alphabet for addresses. -/
def urlAlphabet : List Char :=
  "ABCDEFGHIJKLMNOPQRSTUVWXYZabcdefghijklmnopqrstuvwxyz0123456789-_".toList

/-- A digit in the alphabet for addresses. -/
def toUrl (c : Char) : Char := if c = '+' then '-' else if c = '/' then '_' else c

/-- A digit of the alphabet for addresses in the standard one. -/
def ofUrl (c : Char) : Char := if c = '-' then '+' else if c = '_' then '/' else c

/-- Bytes to digits, without padding. -/
def encodeUrl (bytes : List UInt8) : List Char := ((encode bytes).filter (· != '=')).map toUrl

/-- The padding that a text of that many digits lacks. -/
def padding (length : Nat) : List Char := List.replicate ((4 - length % 4) % 4) '='

/-- Digits to bytes, without padding. -/
def decodeUrl (text : List Char) : Option (List UInt8) :=
  if text.all urlAlphabet.contains then decode (text.map ofUrl ++ padding text.length) else none

theorem ofUrl_toUrl : ∀ c ∈ alphabet, ofUrl (toUrl c) = c := by
  have hall : alphabet.all (fun c => ofUrl (toUrl c) == c) = true := by decide +kernel
  exact fun c hc => eq_of_beq (List.all_eq_true.mp hall c hc)

theorem toUrl_mem : ∀ c ∈ alphabet, toUrl c ∈ urlAlphabet := by
  have hall : alphabet.all (fun c => urlAlphabet.contains (toUrl c)) = true := by decide +kernel
  exact fun c hc => List.contains_iff_mem.mp (List.all_eq_true.mp hall c hc)

theorem padding_add_four (length : Nat) : padding (length + 4) = padding length := by
  rw [padding, Nat.add_mod_right, padding]

/-- Taking the padding off loses nothing. -/
theorem filter_append_padding : ∀ bytes : List UInt8,
    (encode bytes).filter (· != '=') ++ padding ((encode bytes).filter (· != '=')).length =
      encode bytes
  | [] => rfl
  | [a] => by
      have ha := a.toNat_lt
      have hfirst := digit_ne_pad (a.toNat / 4) (by omega)
      have hsecond := digit_ne_pad (a.toNat % 4 * 16) (by omega)
      simp [encode, hfirst, hsecond, padding]
  | [a, b] => by
      have ha := a.toNat_lt
      have hb := b.toNat_lt
      have hfirst := digit_ne_pad (a.toNat / 4) (by omega)
      have hsecond := digit_ne_pad (a.toNat % 4 * 16 + b.toNat / 16) (by omega)
      have hthird := digit_ne_pad (b.toNat % 16 * 4) (by omega)
      simp [encode, hfirst, hsecond, hthird, padding]
  | a :: b :: c :: rest => by
      have ha := a.toNat_lt
      have hb := b.toNat_lt
      have hc := c.toNat_lt
      have hfirst := digit_ne_pad (a.toNat / 4) (by omega)
      have hsecond := digit_ne_pad (a.toNat % 4 * 16 + b.toNat / 16) (by omega)
      have hthird := digit_ne_pad (b.toNat % 16 * 4 + c.toNat / 64) (by omega)
      have hfourth := digit_ne_pad (c.toNat % 64) (by omega)
      have hrest := filter_append_padding rest
      simp only [encode, List.filter_cons, bne_iff_ne, ne_eq, hfirst, hsecond, hthird, hfourth,
        not_false_eq_true, if_true, List.length_cons, List.cons_append, padding_add_four, hrest]

theorem mem_alphabet_of_filter {bytes : List UInt8} {c : Char}
    (h : c ∈ (encode bytes).filter (· != '=')) : c ∈ alphabet := by
  obtain ⟨hmem, hpad⟩ := List.mem_filter.mp h
  rcases mem_encode_alphabet bytes hmem with hdigit | rfl
  · exact hdigit
  · simp at hpad

/-- Every character of an encoding without padding is a digit. -/
theorem mem_encodeUrl {bytes : List UInt8} {c : Char} (h : c ∈ encodeUrl bytes) :
    c ∈ urlAlphabet := by
  obtain ⟨digit, hdigit, rfl⟩ := List.mem_map.mp h
  exact toUrl_mem digit (mem_alphabet_of_filter hdigit)

/-- Decoding an encoding without padding gives the bytes back. -/
theorem decodeUrl_encodeUrl (bytes : List UInt8) : decodeUrl (encodeUrl bytes) = some bytes := by
  have hback : (encodeUrl bytes).map ofUrl = (encode bytes).filter (· != '=') := by
    rw [encodeUrl, List.map_map]
    exact (List.map_congr_left fun c hc => ofUrl_toUrl c (mem_alphabet_of_filter hc)).trans
      (List.map_id _)
  have hdigits : (encodeUrl bytes).all urlAlphabet.contains = true :=
    List.all_eq_true.mpr fun c hc => List.contains_iff_mem.mpr (mem_encodeUrl hc)
  unfold decodeUrl
  rw [if_pos hdigits, hback, encodeUrl, List.length_map, filter_append_padding,
    decode_encode]

end Base64

end Lib
