import Mathlib.Tactic.Common

/-!
# SHA-256

The hash function as an executable definition over lists of bytes.  A block is
compressed by folding over the pairs of a schedule word and a round constant.
-/

namespace Lib.Sha256

/-- The rotation of a word to the right. -/
def rotr (w n : UInt32) : UInt32 := (w >>> n) ||| (w <<< (32 - n))

/-- The eight working words. -/
structure Working where
  a : UInt32
  b : UInt32
  c : UInt32
  d : UInt32
  e : UInt32
  f : UInt32
  g : UInt32
  h : UInt32
deriving DecidableEq

def initial : Working :=
  ⟨0x6a09e667, 0xbb67ae85, 0x3c6ef372, 0xa54ff53a, 0x510e527f, 0x9b05688c, 0x1f83d9ab, 0x5be0cd19⟩

def constants : List UInt32 := [
  0x428a2f98, 0x71374491, 0xb5c0fbcf, 0xe9b5dba5, 0x3956c25b, 0x59f111f1, 0x923f82a4, 0xab1c5ed5,
  0xd807aa98, 0x12835b01, 0x243185be, 0x550c7dc3, 0x72be5d74, 0x80deb1fe, 0x9bdc06a7, 0xc19bf174,
  0xe49b69c1, 0xefbe4786, 0x0fc19dc6, 0x240ca1cc, 0x2de92c6f, 0x4a7484aa, 0x5cb0a9dc, 0x76f988da,
  0x983e5152, 0xa831c66d, 0xb00327c8, 0xbf597fc7, 0xc6e00bf3, 0xd5a79147, 0x06ca6351, 0x14292967,
  0x27b70a85, 0x2e1b2138, 0x4d2c6dfc, 0x53380d13, 0x650a7354, 0x766a0abb, 0x81c2c92e, 0x92722c85,
  0xa2bfe8a1, 0xa81a664b, 0xc24b8b70, 0xc76c51a3, 0xd192e819, 0xd6990624, 0xf40e3585, 0x106aa070,
  0x19a4c116, 0x1e376c08, 0x2748774c, 0x34b0bcb5, 0x391c0cb3, 0x4ed8aa4a, 0x5b9cca4f, 0x682e6ff3,
  0x748f82ee, 0x78a5636f, 0x84c87814, 0x8cc70208, 0x90befffa, 0xa4506ceb, 0xbef9a3f7, 0xc67178f2]

/-- The schedule words, read off a window of the last sixteen. -/
def schedule : Nat → List UInt32 → List UInt32
  | 0, _ => []
  | _, [] => []
  | n + 1, oldest :: rest =>
      let late := rest.getD 13 0
      let early := rest.getD 0 0
      let next := (rotr late 17 ^^^ rotr late 19 ^^^ (late >>> 10)) + rest.getD 8 0 +
        (rotr early 7 ^^^ rotr early 18 ^^^ (early >>> 3)) + oldest
      oldest :: schedule n (rest ++ [next])

/-- One round, with its schedule word and its constant. -/
def round (s : Working) (input : UInt32 × UInt32) : Working :=
  let t1 := s.h + (rotr s.e 6 ^^^ rotr s.e 11 ^^^ rotr s.e 25) +
    ((s.e &&& s.f) ^^^ ((s.e ^^^ 0xffffffff) &&& s.g)) + input.2 + input.1
  let t2 := (rotr s.a 2 ^^^ rotr s.a 13 ^^^ rotr s.a 22) +
    ((s.a &&& s.b) ^^^ (s.a &&& s.c) ^^^ (s.b &&& s.c))
  ⟨t1 + t2, s.a, s.b, s.c, s.d + t1, s.e, s.f, s.g⟩

/-- The compression of one block of sixteen words. -/
def compress (s : Working) (block : List UInt32) : Working :=
  let r := ((schedule 64 block).zip constants).foldl round s
  ⟨s.a + r.a, s.b + r.b, s.c + r.c, s.d + r.d, s.e + r.e, s.f + r.f, s.g + r.g, s.h + r.h⟩

/-- Four bytes as one word, most significant byte first. -/
def words : List UInt8 → List UInt32
  | a :: b :: c :: d :: rest =>
      ((a.toUInt32 <<< 24) ||| (b.toUInt32 <<< 16) ||| (c.toUInt32 <<< 8) ||| d.toUInt32) ::
        words rest
  | _ => []

def wordBytes (w : UInt32) : List UInt8 :=
  [(w >>> 24).toUInt8, (w >>> 16).toUInt8, (w >>> 8).toUInt8, w.toUInt8]

/-- The message followed by a one bit, zeros and its length in bits. -/
def padding (message : List UInt8) : List UInt8 :=
  let bits := UInt64.ofNat (8 * message.length)
  message ++ ((0x80 : UInt8) :: List.replicate ((119 - message.length % 64) % 64) 0) ++
    wordBytes (bits >>> 32).toUInt32 ++ wordBytes bits.toUInt32

/-- The compression of so many blocks, one after the other. -/
def compressBlocks : Nat → List UInt32 → Working → Working
  | 0, _, s => s
  | n + 1, message, s => compressBlocks n (message.drop 16) (compress s (message.take 16))

/-- The digest of a message. -/
def digest (message : List UInt8) : List UInt8 :=
  let padded := words (padding message)
  let s := compressBlocks (padded.length / 16) padded initial
  [s.a, s.b, s.c, s.d, s.e, s.f, s.g, s.h].flatMap wordBytes

@[simp] theorem digest_length (message : List UInt8) : (digest message).length = 32 := by
  simp [digest, wordBytes]

example : (digest [0x61, 0x62, 0x63]).take 4 = [0xba, 0x78, 0x16, 0xbf] := by decide +kernel

end Lib.Sha256
