import Clearance.Digest.Bytes

/-!
# SHA-256

The message is padded to whole blocks of sixty-four bytes: a one bit, zeros, and its length in
bits as eight bytes. Each block is mixed into a state of eight words over sixty-four rounds. The
message schedule is kept as a window of the sixteen words that are still to come: a round takes
the first and adds a new last one.
-/

set_option autoImplicit false

namespace Clearance
namespace Digest
namespace Sha256

structure State where
  a : UInt32
  b : UInt32
  c : UInt32
  d : UInt32
  e : UInt32
  f : UInt32
  g : UInt32
  h : UInt32

/-- Fractions of the square roots of the first eight primes. -/
def State.initial : State :=
  ⟨0x6a09e667, 0xbb67ae85, 0x3c6ef372, 0xa54ff53a, 0x510e527f, 0x9b05688c, 0x1f83d9ab, 0x5be0cd19⟩

def State.add (x y : State) : State :=
  ⟨x.a + y.a, x.b + y.b, x.c + y.c, x.d + y.d, x.e + y.e, x.f + y.f, x.g + y.g, x.h + y.h⟩

def State.words (s : State) : Vector UInt32 8 := #v[s.a, s.b, s.c, s.d, s.e, s.f, s.g, s.h]

/-- Fractions of the cube roots of the first sixty-four primes, one for each round. -/
def roundConstants : List UInt32 := [
  0x428a2f98, 0x71374491, 0xb5c0fbcf, 0xe9b5dba5, 0x3956c25b, 0x59f111f1, 0x923f82a4, 0xab1c5ed5,
  0xd807aa98, 0x12835b01, 0x243185be, 0x550c7dc3, 0x72be5d74, 0x80deb1fe, 0x9bdc06a7, 0xc19bf174,
  0xe49b69c1, 0xefbe4786, 0x0fc19dc6, 0x240ca1cc, 0x2de92c6f, 0x4a7484aa, 0x5cb0a9dc, 0x76f988da,
  0x983e5152, 0xa831c66d, 0xb00327c8, 0xbf597fc7, 0xc6e00bf3, 0xd5a79147, 0x06ca6351, 0x14292967,
  0x27b70a85, 0x2e1b2138, 0x4d2c6dfc, 0x53380d13, 0x650a7354, 0x766a0abb, 0x81c2c92e, 0x92722c85,
  0xa2bfe8a1, 0xa81a664b, 0xc24b8b70, 0xc76c51a3, 0xd192e819, 0xd6990624, 0xf40e3585, 0x106aa070,
  0x19a4c116, 0x1e376c08, 0x2748774c, 0x34b0bcb5, 0x391c0cb3, 0x4ed8aa4a, 0x5b9cca4f, 0x682e6ff3,
  0x748f82ee, 0x78a5636f, 0x84c87814, 0x8cc70208, 0x90befffa, 0xa4506ceb, 0xbef9a3f7, 0xc67178f2]

/-- The window after its first word is taken. -/
def slide (window : List UInt32) : List UInt32 :=
  let near := window.getD 1 0
  let far := window.getD 14 0
  let small := rotateRight near 7 ^^^ rotateRight near 18 ^^^ (near >>> 3)
  let large := rotateRight far 17 ^^^ rotateRight far 19 ^^^ (far >>> 10)
  window.drop 1 ++ [window.headD 0 + small + window.getD 9 0 + large]

def round (s : State) (constant word : UInt32) : State :=
  let choice := (s.e &&& s.f) ^^^ (~~~s.e &&& s.g)
  let majority := (s.a &&& s.b) ^^^ (s.a &&& s.c) ^^^ (s.b &&& s.c)
  let large := rotateRight s.e 6 ^^^ rotateRight s.e 11 ^^^ rotateRight s.e 25
  let small := rotateRight s.a 2 ^^^ rotateRight s.a 13 ^^^ rotateRight s.a 22
  let first := s.h + large + choice + constant + word
  ⟨first + (small + majority), s.a, s.b, s.c, s.d + first, s.e, s.f, s.g⟩

def rounds : List UInt32 → List UInt32 → State → State
  | [], _, s => s
  | constant :: rest, window, s => rounds rest (slide window) (round s constant (window.headD 0))

/-- Four bytes as a word, most significant first. -/
def wordOf (bytes : List UInt8) : UInt32 :=
  bytes.foldl (fun word byte => word * 256 + byte.toUInt32) 0

def absorb (s : State) (block : List UInt8) : State :=
  s.add (rounds roundConstants ((blocks 4 16 block).map wordOf) s)

/-- A number as eight bytes, most significant first. -/
def lengthBytes (n : Nat) : List UInt8 :=
  (List.range 8).map fun i => UInt8.ofNat (n / Nat.pow 256 (7 - i))

def pad (message : List UInt8) : List UInt8 :=
  message ++ 0x80 :: List.replicate ((119 - message.length % 64) % 64) 0
    ++ lengthBytes (8 * message.length)

/-- The words of a state as bytes, most significant first. -/
def State.digest (s : State) : Digest :=
  ofWords s.words fun position => UInt32.ofNat (24 - 8 * position)

end Sha256

def sha256 (message : List UInt8) : Digest :=
  let padded := Sha256.pad message
  ((blocks 64 (padded.length / 64) padded).foldl Sha256.absorb .initial).digest

end Digest
end Clearance
