import StoryGraph.Numeric.Digits

namespace StoryGraph.Digest

structure Chain where
  a : UInt32
  b : UInt32
  c : UInt32
  d : UInt32
  e : UInt32
  f : UInt32
  g : UInt32
  h : UInt32
  deriving DecidableEq, Repr, Inhabited

namespace Chain

/-- The fractional parts of the square roots of the first eight primes. -/
def initial : Chain :=
  ⟨0x6a09e667, 0xbb67ae85, 0x3c6ef372, 0xa54ff53a,
    0x510e527f, 0x9b05688c, 0x1f83d9ab, 0x5be0cd19⟩

def add (x y : Chain) : Chain :=
  ⟨x.a + y.a, x.b + y.b, x.c + y.c, x.d + y.d, x.e + y.e, x.f + y.f, x.g + y.g, x.h + y.h⟩

def words (x : Chain) : List UInt32 := [x.a, x.b, x.c, x.d, x.e, x.f, x.g, x.h]

end Chain

/-- The fractional parts of the cube roots of the first sixty-four primes. -/
def roundConstants : List UInt32 :=
  [
    0x428a2f98, 0x71374491, 0xb5c0fbcf, 0xe9b5dba5, 0x3956c25b, 0x59f111f1, 0x923f82a4, 0xab1c5ed5,
    0xd807aa98, 0x12835b01, 0x243185be, 0x550c7dc3, 0x72be5d74, 0x80deb1fe, 0x9bdc06a7, 0xc19bf174,
    0xe49b69c1, 0xefbe4786, 0x0fc19dc6, 0x240ca1cc, 0x2de92c6f, 0x4a7484aa, 0x5cb0a9dc, 0x76f988da,
    0x983e5152, 0xa831c66d, 0xb00327c8, 0xbf597fc7, 0xc6e00bf3, 0xd5a79147, 0x06ca6351, 0x14292967,
    0x27b70a85, 0x2e1b2138, 0x4d2c6dfc, 0x53380d13, 0x650a7354, 0x766a0abb, 0x81c2c92e, 0x92722c85,
    0xa2bfe8a1, 0xa81a664b, 0xc24b8b70, 0xc76c51a3, 0xd192e819, 0xd6990624, 0xf40e3585, 0x106aa070,
    0x19a4c116, 0x1e376c08, 0x2748774c, 0x34b0bcb5, 0x391c0cb3, 0x4ed8aa4a, 0x5b9cca4f, 0x682e6ff3,
    0x748f82ee, 0x78a5636f, 0x84c87814, 0x8cc70208, 0x90befffa, 0xa4506ceb, 0xbef9a3f7, 0xc67178f2]

def rotateRight (x : UInt32) (n : UInt32) : UInt32 := (x >>> n) ||| (x <<< (32 - n))

def round (x : Chain) (constant word : UInt32) : Chain :=
  let mix := rotateRight x.e 6 ^^^ rotateRight x.e 11 ^^^ rotateRight x.e 25
  let choice := (x.e &&& x.f) ^^^ (~~~x.e &&& x.g)
  let first := x.h + mix + choice + constant + word
  let spread := rotateRight x.a 2 ^^^ rotateRight x.a 13 ^^^ rotateRight x.a 22
  let majority := (x.a &&& x.b) ^^^ (x.a &&& x.c) ^^^ (x.b &&& x.c)
  ⟨first + (spread + majority), x.a, x.b, x.c, x.d + first, x.e, x.f, x.g⟩

def nextWord (schedule : Array UInt32) (start : Nat) : UInt32 :=
  let early := schedule.getD (start + 1) 0
  let late := schedule.getD (start + 14) 0
  schedule.getD start 0 + schedule.getD (start + 9) 0 +
    (rotateRight early 7 ^^^ rotateRight early 18 ^^^ (early >>> 3)) +
    (rotateRight late 17 ^^^ rotateRight late 19 ^^^ (late >>> 10))

def schedule (block : Array UInt32) : Array UInt32 :=
  (List.range 48).foldl (fun words start ↦ words.push (nextWord words start)) block

def compress (x : Chain) (block : Array UInt32) : Chain :=
  x.add ((roundConstants.zip (schedule block).toList).foldl
    (fun y (constant, word) ↦ round y constant word) x)

def wordsOf : List UInt8 → List UInt32
  | a :: b :: c :: d :: bytes =>
    (a.toUInt32 <<< 24 ||| b.toUInt32 <<< 16 ||| c.toUInt32 <<< 8 ||| d.toUInt32) :: wordsOf bytes
  | _ => []

def lengthBytes (bits : Nat) : List UInt8 :=
  (List.range 8).map fun i ↦ UInt8.ofNat (bits >>> (8 * (7 - i)))

/-- A message with a single bit after it, filled with zeros to whole blocks that end in its length
in bits. -/
def padded (message : List UInt8) : List UInt8 :=
  let zeros := (119 - message.length % 64) % 64
  message ++ 0x80 :: (List.replicate zeros 0 ++ lengthBytes (8 * message.length))

def absorb (state : Chain × Array UInt32) (word : UInt32) : Chain × Array UInt32 :=
  let block := state.2.push word
  if block.size = 16 then (compress state.1 block, #[]) else (state.1, block)

def sha256 (message : List UInt8) : List UInt32 :=
  ((wordsOf (padded message)).foldl absorb (Chain.initial, #[])).1.words

/-- The digest of a text's bytes, as sixty-four hexadecimal digits. -/
def hex (text : String) : String :=
  String.ofList ((sha256 text.toUTF8.toList).flatMap fun word ↦ Numeric.hexPadded 8 word.toNat)

end StoryGraph.Digest
