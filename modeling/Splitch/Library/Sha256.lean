/-
# SHA-256

The hash of FIPS 180-4 for byte strings, as a function that computes, and the keyed hash HMAC over
it.  A word is a `Nat` below `2 ^ 32`.
-/
import Mathlib

namespace Sha256

/-! ## 1. Words -/

def word (n : Nat) : Nat := n % 2 ^ 32

def rotr (x n : Nat) : Nat := x >>> n ||| word (x <<< (32 - n))

def ch (x y z : Nat) : Nat := (x &&& y) ^^^ ((2 ^ 32 - 1 - x) &&& z)

def maj (x y z : Nat) : Nat := (x &&& y) ^^^ (x &&& z) ^^^ (y &&& z)

def bigSigma0 (x : Nat) : Nat := rotr x 2 ^^^ rotr x 13 ^^^ rotr x 22

def bigSigma1 (x : Nat) : Nat := rotr x 6 ^^^ rotr x 11 ^^^ rotr x 25

def smallSigma0 (x : Nat) : Nat := rotr x 7 ^^^ rotr x 18 ^^^ x >>> 3

def smallSigma1 (x : Nat) : Nat := rotr x 17 ^^^ rotr x 19 ^^^ x >>> 10

def roundConstants : List Nat :=
  [0x428a2f98, 0x71374491, 0xb5c0fbcf, 0xe9b5dba5, 0x3956c25b, 0x59f111f1, 0x923f82a4,
   0xab1c5ed5, 0xd807aa98, 0x12835b01, 0x243185be, 0x550c7dc3, 0x72be5d74, 0x80deb1fe,
   0x9bdc06a7, 0xc19bf174, 0xe49b69c1, 0xefbe4786, 0x0fc19dc6, 0x240ca1cc, 0x2de92c6f,
   0x4a7484aa, 0x5cb0a9dc, 0x76f988da, 0x983e5152, 0xa831c66d, 0xb00327c8, 0xbf597fc7,
   0xc6e00bf3, 0xd5a79147, 0x06ca6351, 0x14292967, 0x27b70a85, 0x2e1b2138, 0x4d2c6dfc,
   0x53380d13, 0x650a7354, 0x766a0abb, 0x81c2c92e, 0x92722c85, 0xa2bfe8a1, 0xa81a664b,
   0xc24b8b70, 0xc76c51a3, 0xd192e819, 0xd6990624, 0xf40e3585, 0x106aa070, 0x19a4c116,
   0x1e376c08, 0x2748774c, 0x34b0bcb5, 0x391c0cb3, 0x4ed8aa4a, 0x5b9cca4f, 0x682e6ff3,
   0x748f82ee, 0x78a5636f, 0x84c87814, 0x8cc70208, 0x90befffa, 0xa4506ceb, 0xbef9a3f7,
   0xc67178f2]

/-! ## 2. The compression of one block -/

/-- The eight words of the state. -/
structure State where
  a : Nat
  b : Nat
  c : Nat
  d : Nat
  e : Nat
  f : Nat
  g : Nat
  h : Nat

def initial : State :=
  ⟨0x6a09e667, 0xbb67ae85, 0x3c6ef372, 0xa54ff53a, 0x510e527f, 0x9b05688c, 0x1f83d9ab,
   0x5be0cd19⟩

def State.words (s : State) : List Nat := [s.a, s.b, s.c, s.d, s.e, s.f, s.g, s.h]

def State.add (s t : State) : State :=
  ⟨word (s.a + t.a), word (s.b + t.b), word (s.c + t.c), word (s.d + t.d), word (s.e + t.e),
   word (s.f + t.f), word (s.g + t.g), word (s.h + t.h)⟩

/-- The words that follow a window of sixteen of the message schedule. -/
def schedule : Nat → List Nat → List Nat
  | 0, _ => []
  | n + 1, window =>
    let next := word (smallSigma1 (window.getD 14 0) + window.getD 9 0 +
      smallSigma0 (window.getD 1 0) + window.getD 0 0)
    next :: schedule n (window.drop 1 ++ [next])

def round (s : State) (kw : Nat × Nat) : State :=
  let t1 := s.h + bigSigma1 s.e + ch s.e s.f s.g + kw.1 + kw.2
  let t2 := bigSigma0 s.a + maj s.a s.b s.c
  ⟨word (t1 + t2), s.a, s.b, s.c, word (s.d + t1), s.e, s.f, s.g⟩

def compress (s : State) (block : List Nat) : State :=
  s.add ((roundConstants.zip (block ++ schedule 48 block)).foldl round s)

/-! ## 3. Padding and digest -/

def bigEndian (width n : Nat) : List Nat :=
  (List.range width).map fun i => n >>> (8 * (width - 1 - i)) % 256

def pad (bytes : List Nat) : List Nat :=
  bytes ++ 0x80 :: List.replicate ((119 - bytes.length % 64) % 64) 0 ++
    bigEndian 8 (8 * bytes.length)

def wordsOf : List Nat → List Nat
  | a :: b :: c :: d :: rest => (a <<< 24 ||| b <<< 16 ||| c <<< 8 ||| d) :: wordsOf rest
  | _ => []

def blocks : Nat → List Nat → List (List Nat)
  | 0, _ => []
  | n + 1, words => words.take 16 :: blocks n (words.drop 16)

def digest (bytes : List Nat) : List Nat :=
  let words := wordsOf (pad bytes)
  ((blocks (words.length / 16) words).foldl compress initial).words.flatMap (bigEndian 4)

/-- Two digits for a byte. -/
def hexByte (byte : Nat) : List Char := [Nat.digitChar (byte / 16), Nat.digitChar (byte % 16)]

/-- The digest of a text's UTF-8 bytes, in hexadecimal. -/
def hex (text : String) : String :=
  let bytes := text.toList.flatMap String.utf8EncodeChar
  String.ofList ((digest (bytes.map (·.toNat))).flatMap hexByte)

example :
    hex "abc" = "ba7816bf8f01cfea414140de5dae2223b00361a396177a9cb410ff61f20015ad" := by
  decide +kernel

/-! ## 4. The keyed hash -/

def digestBytes (bytes : List UInt8) : List UInt8 :=
  (digest (bytes.map (·.toNat))).map UInt8.ofNat

/-- A key that is longer than a block is hashed, and a shorter one filled up. -/
def blockKey (key : List UInt8) : List UInt8 :=
  let key := if key.length > 64 then digestBytes key else key
  key ++ List.replicate (64 - key.length) 0

def hmac (key message : List UInt8) : List UInt8 :=
  digestBytes ((blockKey key).map (· ^^^ 0x5c) ++
    digestBytes ((blockKey key).map (· ^^^ 0x36) ++ message))

theorem length_hmac (key message : List UInt8) : (hmac key message).length = 32 := by
  have hword : ∀ n, (bigEndian 4 n).length = 4 := by
    intro n
    rw [bigEndian, List.length_map, List.length_range]
  simp only [hmac, digestBytes, digest, List.length_map, State.words, List.flatMap_cons,
    List.flatMap_nil, List.length_append, hword, List.length_nil]

example : (hmac (("Jefe").toList.flatMap String.utf8EncodeChar)
    (("what do ya want for nothing?").toList.flatMap String.utf8EncodeChar)).take 4 =
      [0x5b, 0xdc, 0xc1, 0x46] := by
  decide +kernel

end Sha256
