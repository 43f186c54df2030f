import OpenPinch.Common.Text
import OpenPinch.Externals
import OpenPinch.Lib.Base64
import OpenPinch.Lib.Utf8

/-!
# Symmetric encryption

The primitives of the `crypto` module: text as bytes, the Base64 of a key or a
blob, and encryption under a 32-byte key with a fresh nonce.
-/

namespace OpenPinch

/-! ## Bytes and text -/

/-- `str::as_bytes`. -/
def asBytes (text : String) : Bytes := text.toByteArray.data.toList

theorem asBytes_eq (text : String) : asBytes text = Lib.Utf8.encode text.toList :=
  Lib.Utf8.toByteArray_eq_encode text

theorem asBytes_append (before behind : String) :
    asBytes (before ++ behind) = asBytes before ++ asBytes behind := by
  simp [asBytes_eq]

/-- `String::from_utf8`. -/
def fromUtf8 (bytes : Bytes) : Option String := String.fromUTF8? ⟨bytes.toArray⟩

@[simp] theorem fromUtf8_asBytes (text : String) : fromUtf8 (asBytes text) = some text := by
  unfold fromUtf8 asBytes
  rw [Array.toArray_toList]
  exact dif_pos text.isValidUTF8

/-- `Base64::encode_string`. -/
def base64EncodeString (bytes : Bytes) : String := String.ofList (Lib.Base64.encode bytes)

/-- `Base64::decode_vec`. -/
def base64DecodeVec (text : String) : Option Bytes := Lib.Base64.decode text.toList

@[simp] theorem base64DecodeVec_encodeString (bytes : Bytes) :
    base64DecodeVec (base64EncodeString bytes) = some bytes := by
  rw [base64DecodeVec, base64EncodeString, String.toList_ofList, Lib.Base64.decode_encode]

theorem isWhitespace_base64 :
    ∀ c ∈ '=' :: Lib.Base64.alphabet, isWhitespace c = false := by
  have hall : ('=' :: Lib.Base64.alphabet).all (fun c => !isWhitespace c) = true := by
    decide
  intro c hc
  simpa using List.all_eq_true.mp hall c hc

/-- An encoding has no white space to trim. -/
@[simp] theorem trim_base64EncodeString (bytes : Bytes) :
    trim (base64EncodeString bytes) = base64EncodeString bytes := by
  have clean : ∀ c ∈ Lib.Base64.encode bytes, isWhitespace c = false := by
    intro c hc
    apply isWhitespace_base64 c
    cases Lib.Base64.mem_encode_alphabet bytes hc with
    | inl h => exact List.mem_cons_of_mem _ h
    | inr h => rw [h]; exact List.mem_cons_self ..
  rw [trim, base64EncodeString, String.toList_ofList, trimChars_eq_self clean]

/-- A hexadecimal digit. -/
def hexDigit (n : Nat) : Char := "0123456789abcdef".toList.getD n '0'

/-- Bytes under the format `{:x}`. -/
def lowerHex (bytes : Bytes) : String :=
  String.ofList (bytes.flatMap fun b => [hexDigit (b.toNat / 16), hexDigit (b.toNat % 16)])

/-! ## Encryption under a key -/

/-- An encrypted text as it is stored. -/
structure EncryptedBlob where
  nonce : String
  ciphertext : String
deriving DecidableEq, Repr

variable [Externals]

/-- `derive_key_from_material`. -/
def deriveKeyFromMaterial (material : Bytes) : Key := Externals.sha256 material

/-- `encrypt_bytes`, with the nonce it draws. -/
def encryptBytes (key : Key) (nonce : Nonce) (plaintext : Bytes) :
    Except String EncryptedBlob :=
  match Externals.aeadEncrypt key nonce plaintext with
  | some ciphertext =>
      .ok ⟨base64EncodeString nonce.bytes, base64EncodeString ciphertext⟩
  | none => .error "encryption failed"

/-- `decrypt_bytes`. -/
def decryptBytes (key : Key) (blob : EncryptedBlob) : Except String Bytes :=
  match base64DecodeVec blob.nonce with
  | none => .error "invalid blob nonce"
  | some nonce =>
      match base64DecodeVec blob.ciphertext with
      | none => .error "invalid blob ciphertext"
      | some ciphertext =>
          if size : nonce.length = 24 then
            match Externals.aeadDecrypt key ⟨nonce, size⟩ ciphertext with
            | some plaintext => .ok plaintext
            | none => .error "decryption failed"
          else .error "XChaCha20 nonce must be 24 bytes"

/-- A blob decrypts as its ciphertext does, whichever key is tried. -/
theorem decryptBytes_encryptBytes {key k : Key} {nonce : Nonce} {plaintext : Bytes}
    {blob : EncryptedBlob} (h : encryptBytes key nonce plaintext = .ok blob) :
    ∃ ciphertext, Externals.aeadEncrypt key nonce plaintext = some ciphertext ∧
      decryptBytes k blob =
        match Externals.aeadDecrypt k nonce ciphertext with
        | some plaintext => .ok plaintext
        | none => .error "decryption failed" := by
  unfold encryptBytes at h
  split at h
  · rename_i ciphertext hseal
    cases h
    refine ⟨ciphertext, hseal, ?_⟩
    simp only [decryptBytes, base64DecodeVec_encodeString]
    rw [dif_pos nonce.length_eq]
  · cases h

/-- The documented behaviour of the cipher: decryption inverts encryption under
the same key and rejects the ciphertext under any other. -/
structure AeadLaws : Prop where
  decrypt_same : ∀ {key : Key} {nonce : Nonce} {plaintext ciphertext : Bytes},
    Externals.aeadEncrypt key nonce plaintext = some ciphertext →
      Externals.aeadDecrypt key nonce ciphertext = some plaintext
  decrypt_other : ∀ {key other : Key} {nonce : Nonce} {plaintext ciphertext : Bytes},
    Externals.aeadEncrypt key nonce plaintext = some ciphertext → key ≠ other →
      Externals.aeadDecrypt other nonce ciphertext = none

end OpenPinch
