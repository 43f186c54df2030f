import OpenPinch.Common.Crypto
import OpenPinch.Lib.Sha256

/-!
# A reference choice of the external functions

One choice of the external functions that meets the laws the results assume.
The digest is SHA-256.  The cipher writes key and nonce before the plaintext and
reads them back.
-/

namespace OpenPinch

/-- Key and nonce followed by the plaintext. -/
def referenceEncrypt (key : Key) (nonce : Nonce) (plaintext : Bytes) : Option Bytes :=
  some (key.bytes ++ nonce.bytes ++ plaintext)

/-- The text behind the key and the nonce. -/
def referenceDecrypt (key : Key) (nonce : Nonce) (ciphertext : Bytes) : Option Bytes :=
  if (key.bytes ++ nonce.bytes).isPrefixOf ciphertext then some (ciphertext.drop 56) else none

/-- The reference choice. -/
@[reducible] def referenceExternals : Externals where
  sha256 := fun bytes => ⟨Lib.Sha256.digest bytes, Lib.Sha256.digest_length bytes⟩
  aeadEncrypt := referenceEncrypt
  aeadDecrypt := referenceDecrypt
  jsonParse := fun text => if text = "{}" then some (.obj []) else none
  jsonText := fun _ => "{}"
  jsonPretty := fun _ => "{}"
  isAlphanumeric := Char.isAlphanum
  toLowercase := fun text => String.ofList (text.toList.map Char.toLower)
  toRfc3339 := fun instant => toString instant
  debugInstant := fun instant => toString instant

theorem referenceDecrypt_same {key : Key} {nonce : Nonce} {plaintext ciphertext : Bytes}
    (h : referenceEncrypt key nonce plaintext = some ciphertext) :
    referenceDecrypt key nonce ciphertext = some plaintext := by
  cases h
  have hlen : (key.bytes ++ nonce.bytes).length = 56 := by
    rw [List.length_append, key.length_eq, nonce.length_eq]
  rw [referenceDecrypt, if_pos (List.isPrefixOf_iff_prefix.mpr (List.prefix_append _ _)),
    ← hlen, List.drop_left]

theorem referenceDecrypt_other {key other : Key} {nonce : Nonce} {plaintext ciphertext : Bytes}
    (h : referenceEncrypt key nonce plaintext = some ciphertext) (different : key ≠ other) :
    referenceDecrypt other nonce ciphertext = none := by
  cases h
  rw [referenceDecrypt, if_neg]
  intro hinside
  obtain ⟨rest, hrest⟩ := List.isPrefixOf_iff_prefix.mp hinside
  rw [List.append_assoc, List.append_assoc] at hrest
  have same : other.bytes = key.bytes :=
    (List.append_inj hrest (other.length_eq.trans key.length_eq.symm)).1
  apply different
  cases key
  cases other
  cases same
  rfl

theorem reference_aeadLaws : @AeadLaws referenceExternals :=
  @AeadLaws.mk referenceExternals referenceDecrypt_same referenceDecrypt_other

/-- A key of ones. -/
def onesKey : Key := ⟨List.replicate 32 1, by simp⟩

/-- A nonce of zeros. -/
def zeroNonce : Nonce := ⟨List.replicate 24 0, by simp⟩

end OpenPinch
