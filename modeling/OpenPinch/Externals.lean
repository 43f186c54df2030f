import OpenPinch.Common.Json

/-!
# Code outside the repository

The functions of third-party crates, and the Unicode tables of the standard
library, that the modelled code calls.  Every definition takes them as an
instance, so a theorem about the code holds for each choice of them.  What a
theorem relies on is a hypothesis of that theorem.
-/

namespace OpenPinch

/-- A byte string. -/
abbrev Bytes := List UInt8

/-- A byte array of fixed length, `[u8; n]`. -/
structure FixedBytes (n : Nat) where
  bytes : Bytes
  length_eq : bytes.length = n
deriving DecidableEq

/-- A 32-byte key or digest. -/
abbrev Key := FixedBytes 32

/-- The 24-byte nonce of XChaCha20. -/
abbrev Nonce := FixedBytes 24

/-- The functions the repository takes from elsewhere. -/
class Externals where
  /-- `Sha256::digest`. -/
  sha256 : Bytes → FixedBytes 32
  /-- `XChaCha20Poly1305::encrypt`. -/
  aeadEncrypt : Key → Nonce → Bytes → Option Bytes
  /-- `XChaCha20Poly1305::decrypt`. -/
  aeadDecrypt : Key → Nonce → Bytes → Option Bytes
  /-- `serde_json::from_str`. -/
  jsonParse : String → Option Json
  /-- `serde_json::to_string`. -/
  jsonText : Json → String
  /-- `serde_json::to_string_pretty`. -/
  jsonPretty : Json → String
  /-- `char::is_alphanumeric`. -/
  isAlphanumeric : Char → Bool
  /-- `str::to_lowercase`. -/
  toLowercase : String → String
  /-- `DateTime::to_rfc3339`, of an instant in nanoseconds since the epoch. -/
  toRfc3339 : Int → String
  /-- The format `{:?}` of an instant. -/
  debugInstant : Int → String

end OpenPinch
