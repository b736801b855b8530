import RequestScript.Text.Digits

namespace RequestScript.Sha256

/-- The fractional parts of the cube roots of the first 64 primes. -/
def roundConstants : List UInt32 := [
  0x428a2f98, 0x71374491, 0xb5c0fbcf, 0xe9b5dba5, 0x3956c25b, 0x59f111f1, 0x923f82a4, 0xab1c5ed5,
  0xd807aa98, 0x12835b01, 0x243185be, 0x550c7dc3, 0x72be5d74, 0x80deb1fe, 0x9bdc06a7, 0xc19bf174,
  0xe49b69c1, 0xefbe4786, 0x0fc19dc6, 0x240ca1cc, 0x2de92c6f, 0x4a7484aa, 0x5cb0a9dc, 0x76f988da,
  0x983e5152, 0xa831c66d, 0xb00327c8, 0xbf597fc7, 0xc6e00bf3, 0xd5a79147, 0x06ca6351, 0x14292967,
  0x27b70a85, 0x2e1b2138, 0x4d2c6dfc, 0x53380d13, 0x650a7354, 0x766a0abb, 0x81c2c92e, 0x92722c85,
  0xa2bfe8a1, 0xa81a664b, 0xc24b8b70, 0xc76c51a3, 0xd192e819, 0xd6990624, 0xf40e3585, 0x106aa070,
  0x19a4c116, 0x1e376c08, 0x2748774c, 0x34b0bcb5, 0x391c0cb3, 0x4ed8aa4a, 0x5b9cca4f, 0x682e6ff3,
  0x748f82ee, 0x78a5636f, 0x84c87814, 0x8cc70208, 0x90befffa, 0xa4506ceb, 0xbef9a3f7, 0xc67178f2]

/-- The eight words that a block is mixed into. -/
structure State where
  a : UInt32
  b : UInt32
  c : UInt32
  d : UInt32
  e : UInt32
  f : UInt32
  g : UInt32
  h : UInt32

/-- The fractional parts of the square roots of the first eight primes. -/
def State.start : State :=
  ⟨0x6a09e667, 0xbb67ae85, 0x3c6ef372, 0xa54ff53a, 0x510e527f, 0x9b05688c, 0x1f83d9ab, 0x5be0cd19⟩

def rotateRight (x : UInt32) (n : UInt32) : UInt32 :=
  (x >>> n) ||| (x <<< (32 - n))

/-- The message, a set bit, zeros up to a whole number of blocks, and the length in bits. -/
def pad (message : Bytes) : Bytes :=
  let zeros : Bytes := List.replicate ((119 - message.length % 64) % 64) 0
  let bits := message.length * 8
  let length : Bytes := (List.range 8).map fun i => UInt8.ofNat (bits >>> (56 - 8 * i))
  message ++ 0x80 :: (zeros ++ length)

/-- The big-endian words of a byte string. -/
def wordsOf : Bytes → List UInt32
  | a :: b :: c :: d :: rest =>
    (a.toUInt32 <<< 24 ||| b.toUInt32 <<< 16 ||| c.toUInt32 <<< 8 ||| d.toUInt32) :: wordsOf rest
  | _ => []

/-- The words of a schedule that follow sixteen words, each made from the sixteen before it. -/
def extend : Nat → List UInt32 → List UInt32
  | n + 1, w₀ :: w₁ :: rest =>
    let s₀ := rotateRight w₁ 7 ^^^ rotateRight w₁ 18 ^^^ w₁ >>> 3
    let w₁₄ := rest.getD 12 0
    let s₁ := rotateRight w₁₄ 17 ^^^ rotateRight w₁₄ 19 ^^^ w₁₄ >>> 10
    w₀ :: extend n (w₁ :: rest ++ [w₀ + s₀ + rest.getD 7 0 + s₁])
  | _, words => words

/-- The 64 words that a block of sixteen words stands for. -/
def schedule (block : List UInt32) : List UInt32 :=
  extend 48 block

def State.round (s : State) (input : UInt32 × UInt32) : State :=
  let s₁ := rotateRight s.e 6 ^^^ rotateRight s.e 11 ^^^ rotateRight s.e 25
  let choice := (s.e &&& s.f) ^^^ (~~~s.e &&& s.g)
  let t₁ := s.h + s₁ + choice + input.1 + input.2
  let s₀ := rotateRight s.a 2 ^^^ rotateRight s.a 13 ^^^ rotateRight s.a 22
  let majority := (s.a &&& s.b) ^^^ (s.a &&& s.c) ^^^ (s.b &&& s.c)
  ⟨t₁ + (s₀ + majority), s.a, s.b, s.c, s.d + t₁, s.e, s.f, s.g⟩

def State.add (s t : State) : State :=
  ⟨s.a + t.a, s.b + t.b, s.c + t.c, s.d + t.d, s.e + t.e, s.f + t.f, s.g + t.g, s.h + t.h⟩

/-- The state after one block. -/
def State.compress (s : State) (block : List UInt32) : State :=
  s.add ((roundConstants.zip (schedule block)).foldl State.round s)

/-- The state after all blocks of sixteen words. -/
def State.absorb (s : State) : List UInt32 → State
  | [] => s
  | word :: words => (s.compress (word :: words.take 15)).absorb (words.drop 15)
termination_by words => words.length
decreasing_by simp only [List.length_drop, List.length_cons]; omega

def State.words (s : State) : List UInt32 :=
  [s.a, s.b, s.c, s.d, s.e, s.f, s.g, s.h]

def bytesOfWord (w : UInt32) : Bytes :=
  [(w >>> 24).toUInt8, (w >>> 16).toUInt8, (w >>> 8).toUInt8, w.toUInt8]

/-- The 32 bytes that sum up a message. -/
def digest (message : Bytes) : Bytes :=
  (State.start.absorb (wordsOf (pad message))).words.flatMap bytesOfWord

/-- The digest in hexadecimal digits. -/
def hexDigest (message : Bytes) : String :=
  String.ofList (hexOfBytes (digest message))

end RequestScript.Sha256
