import ActorLocation.Octets
/-!
# The SHA-256 digest

The message is padded to blocks of sixteen words of 32 bits.  Each block is mixed into a chaining
value of eight words by 64 rounds; round `t` uses word `t` of the message schedule, of which a
window of sixteen words is kept.

## Main definitions

* `ActorLocation.Sha256.pad`, `Sha256.blocks` — the padded message, and its blocks.
* `Sha256.round`, `Sha256.compress` — one round, and the mixing of one block.
* `Sha256.digest` — the eight words of the digest.
-/

namespace ActorLocation

namespace Sha256

/-- The chaining value: eight words. -/
structure Chain where
  /-- The first word. -/
  a : UInt32
  /-- The second word. -/
  b : UInt32
  /-- The third word. -/
  c : UInt32
  /-- The fourth word. -/
  d : UInt32
  /-- The fifth word. -/
  e : UInt32
  /-- The sixth word. -/
  f : UInt32
  /-- The seventh word. -/
  g : UInt32
  /-- The eighth word. -/
  h : UInt32

/-- The chaining value before the first block. -/
def Chain.initial : Chain where
  a := 0x6a09e667
  b := 0xbb67ae85
  c := 0x3c6ef372
  d := 0xa54ff53a
  e := 0x510e527f
  f := 0x9b05688c
  g := 0x1f83d9ab
  h := 0x5be0cd19

/-- The wordwise sum of two chaining values. -/
def Chain.add (x y : Chain) : Chain where
  a := x.a + y.a
  b := x.b + y.b
  c := x.c + y.c
  d := x.d + y.d
  e := x.e + y.e
  f := x.f + y.f
  g := x.g + y.g
  h := x.h + y.h

/-- The constants of the 64 rounds. -/
def roundConstants : List UInt32 :=
  [0x428a2f98, 0x71374491, 0xb5c0fbcf, 0xe9b5dba5, 0x3956c25b, 0x59f111f1, 0x923f82a4, 0xab1c5ed5,
    0xd807aa98, 0x12835b01, 0x243185be, 0x550c7dc3, 0x72be5d74, 0x80deb1fe, 0x9bdc06a7, 0xc19bf174,
    0xe49b69c1, 0xefbe4786, 0x0fc19dc6, 0x240ca1cc, 0x2de92c6f, 0x4a7484aa, 0x5cb0a9dc, 0x76f988da,
    0x983e5152, 0xa831c66d, 0xb00327c8, 0xbf597fc7, 0xc6e00bf3, 0xd5a79147, 0x06ca6351, 0x14292967,
    0x27b70a85, 0x2e1b2138, 0x4d2c6dfc, 0x53380d13, 0x650a7354, 0x766a0abb, 0x81c2c92e, 0x92722c85,
    0xa2bfe8a1, 0xa81a664b, 0xc24b8b70, 0xc76c51a3, 0xd192e819, 0xd6990624, 0xf40e3585, 0x106aa070,
    0x19a4c116, 0x1e376c08, 0x2748774c, 0x34b0bcb5, 0x391c0cb3, 0x4ed8aa4a, 0x5b9cca4f, 0x682e6ff3,
    0x748f82ee, 0x78a5636f, 0x84c87814, 0x8cc70208, 0x90befffa, 0xa4506ceb, 0xbef9a3f7, 0xc67178f2]

/-- Rotates a word to the right by `n` places, for `n` from 1 to 31. -/
def rotr (x : UInt32) (n : UInt32) : UInt32 := (x >>> n) ||| (x <<< (32 - n))

/-- The function of the schedule on the word fifteen places back. -/
def smallSigma0 (x : UInt32) : UInt32 := rotr x 7 ^^^ rotr x 18 ^^^ (x >>> 3)

/-- The function of the schedule on the word two places back. -/
def smallSigma1 (x : UInt32) : UInt32 := rotr x 17 ^^^ rotr x 19 ^^^ (x >>> 10)

/-- The function of a round on the first word. -/
def bigSigma0 (x : UInt32) : UInt32 := rotr x 2 ^^^ rotr x 13 ^^^ rotr x 22

/-- The function of a round on the fifth word. -/
def bigSigma1 (x : UInt32) : UInt32 := rotr x 6 ^^^ rotr x 11 ^^^ rotr x 25

/-- One round, with its constant and its word of the schedule. -/
def round (constant word : UInt32) (x : Chain) : Chain :=
  let choice := (x.e &&& x.f) ^^^ (~~~x.e &&& x.g)
  let majority := (x.a &&& x.b) ^^^ (x.a &&& x.c) ^^^ (x.b &&& x.c)
  let t := x.h + bigSigma1 x.e + choice + constant + word
  { a := t + bigSigma0 x.a + majority
    b := x.a
    c := x.b
    d := x.c
    e := x.d + t
    f := x.e
    g := x.f
    h := x.g }

/-- The window of the schedule one place further. -/
def advance (window : List UInt32) : List UInt32 :=
  window.drop 1 ++
    [window.getD 0 0 + smallSigma0 (window.getD 1 0) + window.getD 9 0
      + smallSigma1 (window.getD 14 0)]

/-- The rounds with the given constants, the window of the schedule moving along. -/
def rounds : List UInt32 → List UInt32 → Chain → Chain
  | [], _, x => x
  | k :: ks, window, x => rounds ks (advance window) (round k (window.getD 0 0) x)

/-- Mixes a block of sixteen words into a chaining value. -/
def compress (x : Chain) (block : List UInt32) : Chain := x.add (rounds roundConstants block x)

/-- The octets of a word of 64 bits, most significant first. -/
def octetsOfWord (w : UInt64) : Octets :=
  ([56, 48, 40, 32, 24, 16, 8, 0] : List UInt64).map fun n => (w >>> n).toUInt8

/-- The message, a one bit, as few zero bits as make whole blocks, and the length in bits. -/
def pad (message : Octets) : Octets :=
  message ++ 0x80 :: List.replicate ((119 - message.length % 64) % 64) 0 ++
    octetsOfWord (UInt64.ofNat (8 * message.length))

/-- Octets as words, most significant octet first. -/
def words : Octets → List UInt32
  | a :: b :: c :: d :: r =>
    ((a.toUInt32 <<< 24) ||| (b.toUInt32 <<< 16) ||| (c.toUInt32 <<< 8) ||| d.toUInt32) :: words r
  | _ => []

/-- The blocks of a padded message. -/
def blocks (padded : Octets) : List (List UInt32) :=
  (List.range (padded.length / 64)).map fun i => words ((padded.drop (64 * i)).take 64)

/-- The digest of a message. -/
def digest (message : Octets) : Chain := (blocks (pad message)).foldl compress .initial

/-- The first 64 bits of a digest. -/
def Chain.front (x : Chain) : UInt64 := (x.a.toUInt64 <<< 32) ||| x.b.toUInt64

end Sha256

end ActorLocation
