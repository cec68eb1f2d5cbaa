import TypedGraphQL.Text.Digits

namespace TypedGraphQL.Digest

/-!
SHA-256 over lists of bytes: padding, the message schedule of a block, the
compression of a block into the state, and the digest as hexadecimal text.
-/

abbrev Word := UInt32

structure HashState where
  a : Word
  b : Word
  c : Word
  d : Word
  e : Word
  f : Word
  g : Word
  h : Word
deriving DecidableEq, Repr

namespace HashState

def initial : HashState :=
  ⟨0x6a09e667, 0xbb67ae85, 0x3c6ef372, 0xa54ff53a,
   0x510e527f, 0x9b05688c, 0x1f83d9ab, 0x5be0cd19⟩

def add (x y : HashState) : HashState :=
  ⟨x.a + y.a, x.b + y.b, x.c + y.c, x.d + y.d,
   x.e + y.e, x.f + y.f, x.g + y.g, x.h + y.h⟩

def toWords (x : HashState) : List Word :=
  [x.a, x.b, x.c, x.d, x.e, x.f, x.g, x.h]

end HashState

def roundConstants : List Word :=
  [0x428a2f98, 0x71374491, 0xb5c0fbcf, 0xe9b5dba5, 0x3956c25b, 0x59f111f1,
   0x923f82a4, 0xab1c5ed5, 0xd807aa98, 0x12835b01, 0x243185be, 0x550c7dc3,
   0x72be5d74, 0x80deb1fe, 0x9bdc06a7, 0xc19bf174, 0xe49b69c1, 0xefbe4786,
   0x0fc19dc6, 0x240ca1cc, 0x2de92c6f, 0x4a7484aa, 0x5cb0a9dc, 0x76f988da,
   0x983e5152, 0xa831c66d, 0xb00327c8, 0xbf597fc7, 0xc6e00bf3, 0xd5a79147,
   0x06ca6351, 0x14292967, 0x27b70a85, 0x2e1b2138, 0x4d2c6dfc, 0x53380d13,
   0x650a7354, 0x766a0abb, 0x81c2c92e, 0x92722c85, 0xa2bfe8a1, 0xa81a664b,
   0xc24b8b70, 0xc76c51a3, 0xd192e819, 0xd6990624, 0xf40e3585, 0x106aa070,
   0x19a4c116, 0x1e376c08, 0x2748774c, 0x34b0bcb5, 0x391c0cb3, 0x4ed8aa4a,
   0x5b9cca4f, 0x682e6ff3, 0x748f82ee, 0x78a5636f, 0x84c87814, 0x8cc70208,
   0x90befffa, 0xa4506ceb, 0xbef9a3f7, 0xc67178f2]

def rotateRight (x : Word) (amount : Word) : Word :=
  (x >>> amount) ||| (x <<< (32 - amount))

def bigEndian : Nat → Nat → List UInt8
  | 0, _ => []
  | count + 1, n => (n / 256 ^ count).toUInt8 :: bigEndian count n

/-- The message, a one bit, zeros up to a whole block and the length in bits. -/
def padded (message : List UInt8) : List UInt8 :=
  let zeros := (119 - message.length % 64) % 64
  message ++ 0x80 :: List.replicate zeros 0 ++ bigEndian 8 (8 * message.length)

def wordsOfBytes : List UInt8 → List Word
  | a :: b :: c :: d :: rest =>
    (a.toUInt32 <<< 24 ||| b.toUInt32 <<< 16 ||| c.toUInt32 <<< 8 ||| d.toUInt32)
      :: wordsOfBytes rest
  | _ => []

def extendSchedule (latest : List Word) : List Word :=
  let word (back : Nat) := latest.getD (back - 1) 0
  let small0 := rotateRight (word 15) 7 ^^^ rotateRight (word 15) 18 ^^^ (word 15 >>> 3)
  let small1 := rotateRight (word 2) 17 ^^^ rotateRight (word 2) 19 ^^^ (word 2 >>> 10)
  (word 16 + small0 + word 7 + small1) :: latest

def schedule (block : List Word) : List Word :=
  (Nat.repeat extendSchedule 48 block.reverse).reverse

def round (state : HashState) (input : Word × Word) : HashState :=
  let big1 := rotateRight state.e 6 ^^^ rotateRight state.e 11 ^^^ rotateRight state.e 25
  let choice := (state.e &&& state.f) ^^^ (~~~state.e &&& state.g)
  let first := state.h + big1 + choice + input.1 + input.2
  let big0 := rotateRight state.a 2 ^^^ rotateRight state.a 13 ^^^ rotateRight state.a 22
  let majority := (state.a &&& state.b) ^^^ (state.a &&& state.c) ^^^ (state.b &&& state.c)
  ⟨first + (big0 + majority), state.a, state.b, state.c,
   state.d + first, state.e, state.f, state.g⟩

def compress (state : HashState) (block : List Word) : HashState :=
  state.add ((roundConstants.zip (schedule block)).foldl round state)

def compressBlocks (state : HashState) : Nat → List Word → HashState
  | 0, _ => state
  | count + 1, words => compressBlocks (compress state (words.take 16)) count (words.drop 16)

def sha256 (message : List UInt8) : List UInt8 :=
  let words := wordsOfBytes (padded message)
  let state := compressBlocks HashState.initial (words.length / 16) words
  state.toWords.flatMap fun word => bigEndian 4 word.toNat

def hexText (bytes : List UInt8) : List Char :=
  bytes.flatMap fun byte => Text.hexPair byte.toNat

end TypedGraphQL.Digest
