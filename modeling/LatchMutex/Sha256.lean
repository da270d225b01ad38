namespace LatchMutex

/-!
# SHA-256

The digest of a list of bytes, as 64 lower-case hexadecimal digits, by the secure hash
standard.  The message is padded with one set bit, with zeros and with its length in bits
as a big-endian word of 64 bits, to whole blocks of 64 bytes.  The schedule extends the
16 words of a block to 64, the compression function goes through as many rounds on eight
32-bit words, and what comes out is added to the chaining value, all modulo 2^32.
-/

namespace Sha256

/-- First 32 bits of the fractional parts of the cube roots of the first 64 primes. -/
def roundConstants : Array UInt32 := #[
  0x428a2f98, 0x71374491, 0xb5c0fbcf, 0xe9b5dba5, 0x3956c25b, 0x59f111f1, 0x923f82a4, 0xab1c5ed5,
  0xd807aa98, 0x12835b01, 0x243185be, 0x550c7dc3, 0x72be5d74, 0x80deb1fe, 0x9bdc06a7, 0xc19bf174,
  0xe49b69c1, 0xefbe4786, 0x0fc19dc6, 0x240ca1cc, 0x2de92c6f, 0x4a7484aa, 0x5cb0a9dc, 0x76f988da,
  0x983e5152, 0xa831c66d, 0xb00327c8, 0xbf597fc7, 0xc6e00bf3, 0xd5a79147, 0x06ca6351, 0x14292967,
  0x27b70a85, 0x2e1b2138, 0x4d2c6dfc, 0x53380d13, 0x650a7354, 0x766a0abb, 0x81c2c92e, 0x92722c85,
  0xa2bfe8a1, 0xa81a664b, 0xc24b8b70, 0xc76c51a3, 0xd192e819, 0xd6990624, 0xf40e3585, 0x106aa070,
  0x19a4c116, 0x1e376c08, 0x2748774c, 0x34b0bcb5, 0x391c0cb3, 0x4ed8aa4a, 0x5b9cca4f, 0x682e6ff3,
  0x748f82ee, 0x78a5636f, 0x84c87814, 0x8cc70208, 0x90befffa, 0xa4506ceb, 0xbef9a3f7, 0xc67178f2]

/-- The eight words of the chaining value. -/
structure State where
  a : UInt32
  b : UInt32
  c : UInt32
  d : UInt32
  e : UInt32
  f : UInt32
  g : UInt32
  h : UInt32
  deriving Repr, DecidableEq, Inhabited

/-- First 32 bits of the fractional parts of the square roots of the first 8 primes. -/
def start : State where
  a := 0x6a09e667
  b := 0xbb67ae85
  c := 0x3c6ef372
  d := 0xa54ff53a
  e := 0x510e527f
  f := 0x9b05688c
  g := 0x1f83d9ab
  h := 0x5be0cd19

/-- Rotate a word to the right. -/
def rotate (word amount : UInt32) : UInt32 :=
  (word >>> amount) ||| (word <<< (32 - amount))

/-- Words of 64 bytes, most significant byte first. -/
def words : List UInt8 → List UInt32
  | first :: second :: third :: fourth :: rest =>
      (first.toUInt32 <<< 24 ||| second.toUInt32 <<< 16 ||| third.toUInt32 <<< 8
        ||| fourth.toUInt32) :: words rest
  | _ => []

/-- One more word of the message schedule. -/
def extend (schedule : Array UInt32) (index : Nat) : Array UInt32 :=
  let early := schedule.getD (index - 15) 0
  let late := schedule.getD (index - 2) 0
  let first := rotate early 7 ^^^ rotate early 18 ^^^ (early >>> 3)
  let second := rotate late 17 ^^^ rotate late 19 ^^^ (late >>> 10)
  schedule.push
    (schedule.getD (index - 16) 0 + first + schedule.getD (index - 7) 0 + second)

/-- The 64 words of the message schedule of a block. -/
def schedule (block : List UInt8) : Array UInt32 :=
  (List.range' 16 48).foldl extend (words block).toArray

/-- One round. -/
def round (state : State) (constant word : UInt32) : State :=
  let mixE := rotate state.e 6 ^^^ rotate state.e 11 ^^^ rotate state.e 25
  let choice := (state.e &&& state.f) ^^^ (~~~state.e &&& state.g)
  let first := state.h + mixE + choice + constant + word
  let mixA := rotate state.a 2 ^^^ rotate state.a 13 ^^^ rotate state.a 22
  let majority := (state.a &&& state.b) ^^^ (state.a &&& state.c) ^^^ (state.b &&& state.c)
  { a := first + mixA + majority
    b := state.a
    c := state.b
    d := state.c
    e := state.d + first
    f := state.e
    g := state.f
    h := state.g }

/-- Add two chaining values word by word. -/
def State.add (left right : State) : State where
  a := left.a + right.a
  b := left.b + right.b
  c := left.c + right.c
  d := left.d + right.d
  e := left.e + right.e
  f := left.f + right.f
  g := left.g + right.g
  h := left.h + right.h

/-- Compress one block. -/
def compress (state : State) (block : List UInt8) : State :=
  let words := schedule block
  let mixed := (List.range 64).foldl
    (fun current index =>
      round current (roundConstants.getD index 0) (words.getD index 0))
    state
  state.add mixed

/-- The low bytes of a number, most significant one first. -/
def bigEndian (count number : Nat) : List UInt8 :=
  (List.range count).map fun index => (number / Nat.pow 256 (count - 1 - index)).toUInt8

/-- What is appended to a message of so many bytes. -/
def padding (length : Nat) : List UInt8 :=
  let zeros := (119 - length % 64) % 64
  0x80 :: List.replicate zeros 0 ++ bigEndian 8 (8 * length)

/-- Compress as many whole blocks as there are. -/
def blocks (state : State) : Nat → List UInt8 → State
  | 0, _ => state
  | count + 1, bytes => blocks (compress state (bytes.take 64)) count (bytes.drop 64)

/-- Chaining value after a whole padded message. -/
def hash (message : List UInt8) : State :=
  let padded := message ++ padding message.length
  blocks start (padded.length / 64) padded

/-- The words of a chaining value. -/
def State.words (state : State) : List UInt32 :=
  [state.a, state.b, state.c, state.d, state.e, state.f, state.g, state.h]

/-- The 32 bytes of a digest. -/
def digest (message : List UInt8) : List UInt8 :=
  (hash message).words.flatMap fun word => bigEndian 4 word.toNat

end Sha256

end LatchMutex
