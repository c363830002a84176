/-! The SHA-256 digest of a list of bytes. -/

namespace DeviceUpdate.Digest

/-- The constants of the 64 rounds: fractions of the cube roots of the first primes. -/
def roundConstants : List UInt32 := [
  0x428a2f98, 0x71374491, 0xb5c0fbcf, 0xe9b5dba5, 0x3956c25b, 0x59f111f1, 0x923f82a4, 0xab1c5ed5,
  0xd807aa98, 0x12835b01, 0x243185be, 0x550c7dc3, 0x72be5d74, 0x80deb1fe, 0x9bdc06a7, 0xc19bf174,
  0xe49b69c1, 0xefbe4786, 0x0fc19dc6, 0x240ca1cc, 0x2de92c6f, 0x4a7484aa, 0x5cb0a9dc, 0x76f988da,
  0x983e5152, 0xa831c66d, 0xb00327c8, 0xbf597fc7, 0xc6e00bf3, 0xd5a79147, 0x06ca6351, 0x14292967,
  0x27b70a85, 0x2e1b2138, 0x4d2c6dfc, 0x53380d13, 0x650a7354, 0x766a0abb, 0x81c2c92e, 0x92722c85,
  0xa2bfe8a1, 0xa81a664b, 0xc24b8b70, 0xc76c51a3, 0xd192e819, 0xd6990624, 0xf40e3585, 0x106aa070,
  0x19a4c116, 0x1e376c08, 0x2748774c, 0x34b0bcb5, 0x391c0cb3, 0x4ed8aa4a, 0x5b9cca4f, 0x682e6ff3,
  0x748f82ee, 0x78a5636f, 0x84c87814, 0x8cc70208, 0x90befffa, 0xa4506ceb, 0xbef9a3f7, 0xc67178f2]

/-- The eight words of a digest under way. -/
structure State where
  a : UInt32
  b : UInt32
  c : UInt32
  d : UInt32
  e : UInt32
  f : UInt32
  g : UInt32
  h : UInt32
  deriving DecidableEq, Repr

/-- The words before any block: fractions of the square roots of the first primes. -/
def State.initial : State :=
  ⟨0x6a09e667, 0xbb67ae85, 0x3c6ef372, 0xa54ff53a, 0x510e527f, 0x9b05688c, 0x1f83d9ab, 0x5be0cd19⟩

/-- A word turned to the right. -/
def rotate (x : UInt32) (n : UInt32) : UInt32 :=
  (x >>> n) ||| (x <<< (32 - n))

/-- One round, with the word of the schedule and the constant of the round. -/
def State.round (s : State) (word constant : UInt32) : State :=
  let mixE := rotate s.e 6 ^^^ rotate s.e 11 ^^^ rotate s.e 25
  let choice := (s.e &&& s.f) ^^^ ((~~~ s.e) &&& s.g)
  let first := s.h + mixE + choice + constant + word
  let mixA := rotate s.a 2 ^^^ rotate s.a 13 ^^^ rotate s.a 22
  let majority := (s.a &&& s.b) ^^^ (s.a &&& s.c) ^^^ (s.b &&& s.c)
  ⟨first + (mixA + majority), s.a, s.b, s.c, s.d + first, s.e, s.f, s.g⟩

/-- The sum of two states, word by word. -/
def State.add (s t : State) : State :=
  ⟨s.a + t.a, s.b + t.b, s.c + t.c, s.d + t.d, s.e + t.e, s.f + t.f, s.g + t.g, s.h + t.h⟩

/-- The words of a state in order. -/
def State.words (s : State) : List UInt32 :=
  [s.a, s.b, s.c, s.d, s.e, s.f, s.g, s.h]

/-- A word from four bytes, the highest first. -/
def wordOf (a b c d : UInt8) : UInt32 :=
  (a.toUInt32 <<< 24) ||| (b.toUInt32 <<< 16) ||| (c.toUInt32 <<< 8) ||| d.toUInt32

/-- The words of a list of bytes; bytes beyond the last whole word are dropped. -/
def wordsOf : List UInt8 → List UInt32
  | a :: b :: c :: d :: rest => wordOf a b c d :: wordsOf rest
  | _ => []

/-- The word of the schedule that follows the sixteen before it. -/
def nextWord (window : List UInt32) : UInt32 :=
  let low := window.getD 1 0
  let high := window.getD 14 0
  let mixLow := rotate low 7 ^^^ rotate low 18 ^^^ (low >>> 3)
  let mixHigh := rotate high 17 ^^^ rotate high 19 ^^^ (high >>> 10)
  window.getD 0 0 + mixLow + window.getD 9 0 + mixHigh

/-- Runs the rounds of a block over the sixteen words that come next. -/
def rounds : List UInt32 → List UInt32 → State → State
  | [], _, s => s
  | constant :: constants, window, s =>
    rounds constants (window.drop 1 ++ [nextWord window]) (s.round (window.getD 0 0) constant)

/-- Takes in one block of sixteen words. -/
def State.absorb (s : State) (block : List UInt32) : State :=
  s.add (rounds roundConstants block s)

/-- Takes in so many blocks of sixteen words. -/
def absorbAll : Nat → List UInt32 → State → State
  | 0, _, s => s
  | n + 1, words, s => absorbAll n (words.drop 16) (s.absorb (words.take 16))

/-- The bytes of a number, so many of them, the highest first. -/
def bytesOf : Nat → Nat → List UInt8
  | 0, _ => []
  | count + 1, n => bytesOf count (n / 256) ++ [UInt8.ofNat (n % 256)]

/-- A message filled up to whole blocks: a single bit, zeros, and its length in bits. -/
def pad (message : List UInt8) : List UInt8 :=
  let zeros := (119 - message.length % 64) % 64
  message ++ 0x80 :: (List.replicate zeros 0 ++ bytesOf 8 (message.length * 8))

/-- The 32 bytes of the digest of a message. -/
def sha256 (message : List UInt8) : List UInt8 :=
  let padded := pad message
  let final := absorbAll (padded.length / 64) (wordsOf padded) .initial
  final.words.flatMap fun w => bytesOf 4 w.toNat

end DeviceUpdate.Digest
