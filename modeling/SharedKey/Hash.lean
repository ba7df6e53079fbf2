/-
**SHA-256, and codes under a key.**

The message is padded to whole blocks of sixteen words, and the blocks are compressed into a state
of eight words one after the other.  Words are `UInt32`, whose addition and shifts are those of the
standard.

For a code, the key is brought to the length of a block, once combined with the inner and once with
the outer padding byte.  A key that is longer than a block is replaced by its digest.

Main definitions:

* `Sha256.pad` — the message with its padding;
* `Sha256.schedule` — the sixty-four words that a block gives to the rounds;
* `Sha256.compress` — the effect of one block on the state;
* `Sha256.digest` — the thirty-two bytes of a message;
* `Hmac.blockKey` — the key as one block;
* `Hmac.sha256` — the code of a message under a key.

Main results:

* `Sha256.length_digest` — a digest has thirty-two bytes;
* `Hmac.length_sha256` — a code has thirty-two bytes.
-/

import SharedKey.Text

set_option relaxedAutoImplicit false
set_option autoImplicit false

namespace SharedKey

namespace Sha256

/-! ### Words -/

/-- The word turned right by `n` bits, for `0 < n < 32`. -/
def rotateRight (x n : UInt32) : UInt32 := (x >>> n) ||| (x <<< (32 - n))

/-- A word, the most significant byte first. -/
def wordBytes (x : UInt32) : Bytes :=
  [(x >>> 24).toUInt8, (x >>> 16).toUInt8, (x >>> 8).toUInt8, x.toUInt8]

/-- The words of a byte sequence, four bytes each; a shorter rest is left out. -/
def words : Bytes → List UInt32
  | a :: b :: c :: d :: rest =>
    ((a.toUInt32 <<< 24) ||| (b.toUInt32 <<< 16) ||| (c.toUInt32 <<< 8) ||| d.toUInt32)
      :: words rest
  | _ => []

/-! ### Padding -/

/-- The number of zero bytes in the padding of a message of `n` bytes. -/
def zeroCount (n : Nat) : Nat := (119 - n % 64) % 64

/-- The message, a one bit, zeros, and the length of the message in bits as sixty-four bits. -/
def pad (message : Bytes) : Bytes :=
  let bits := message.length * 8
  message ++ 0x80 :: List.replicate (zeroCount message.length) 0
    ++ wordBytes (UInt32.ofNat (bits / 0x100000000)) ++ wordBytes (UInt32.ofNat bits)

/-! ### Rounds -/

/-- The first thirty-two bits of the fractional parts of the cube roots of the first primes. -/
def roundConstants : List UInt32 :=
  [0x428a2f98, 0x71374491, 0xb5c0fbcf, 0xe9b5dba5, 0x3956c25b, 0x59f111f1, 0x923f82a4, 0xab1c5ed5,
   0xd807aa98, 0x12835b01, 0x243185be, 0x550c7dc3, 0x72be5d74, 0x80deb1fe, 0x9bdc06a7, 0xc19bf174,
   0xe49b69c1, 0xefbe4786, 0x0fc19dc6, 0x240ca1cc, 0x2de92c6f, 0x4a7484aa, 0x5cb0a9dc, 0x76f988da,
   0x983e5152, 0xa831c66d, 0xb00327c8, 0xbf597fc7, 0xc6e00bf3, 0xd5a79147, 0x06ca6351, 0x14292967,
   0x27b70a85, 0x2e1b2138, 0x4d2c6dfc, 0x53380d13, 0x650a7354, 0x766a0abb, 0x81c2c92e, 0x92722c85,
   0xa2bfe8a1, 0xa81a664b, 0xc24b8b70, 0xc76c51a3, 0xd192e819, 0xd6990624, 0xf40e3585, 0x106aa070,
   0x19a4c116, 0x1e376c08, 0x2748774c, 0x34b0bcb5, 0x391c0cb3, 0x4ed8aa4a, 0x5b9cca4f, 0x682e6ff3,
   0x748f82ee, 0x78a5636f, 0x84c87814, 0x8cc70208, 0x90befffa, 0xa4506ceb, 0xbef9a3f7, 0xc67178f2]

/-- The words that a block gives to the rounds, the newest first: its own sixteen words and `n`
more. -/
def scheduleBack (block : List UInt32) : Nat → List UInt32
  | 0 => block.reverse
  | n + 1 =>
    let back := scheduleBack block n
    let x := back.getD 14 0
    let y := back.getD 1 0
    let sigma0 := rotateRight x 7 ^^^ rotateRight x 18 ^^^ (x >>> 3)
    let sigma1 := rotateRight y 17 ^^^ rotateRight y 19 ^^^ (y >>> 10)
    (sigma1 + back.getD 6 0 + sigma0 + back.getD 15 0) :: back

/-- The sixty-four words that a block gives to the rounds. -/
def schedule (block : List UInt32) : List UInt32 := (scheduleBack block 48).reverse

/-- The working variables. -/
structure State where
  a : UInt32
  b : UInt32
  c : UInt32
  d : UInt32
  e : UInt32
  f : UInt32
  g : UInt32
  h : UInt32

/-- The first thirty-two bits of the fractional parts of the square roots of the first primes. -/
def State.start : State :=
  ⟨0x6a09e667, 0xbb67ae85, 0x3c6ef372, 0xa54ff53a, 0x510e527f, 0x9b05688c, 0x1f83d9ab, 0x5be0cd19⟩

/-- One round with its constant and its word of the schedule. -/
def State.round (s : State) (k w : UInt32) : State :=
  let sum1 := rotateRight s.e 6 ^^^ rotateRight s.e 11 ^^^ rotateRight s.e 25
  let choice := (s.e &&& s.f) ^^^ (~~~s.e &&& s.g)
  let sum0 := rotateRight s.a 2 ^^^ rotateRight s.a 13 ^^^ rotateRight s.a 22
  let majority := (s.a &&& s.b) ^^^ (s.a &&& s.c) ^^^ (s.b &&& s.c)
  let t1 := s.h + sum1 + choice + k + w
  let t2 := sum0 + majority
  ⟨t1 + t2, s.a, s.b, s.c, s.d + t1, s.e, s.f, s.g⟩

/-- Addition of two states, word by word. -/
def State.add (s t : State) : State :=
  ⟨s.a + t.a, s.b + t.b, s.c + t.c, s.d + t.d, s.e + t.e, s.f + t.f, s.g + t.g, s.h + t.h⟩

/-- The bytes of a state. -/
def State.bytes (s : State) : Bytes :=
  wordBytes s.a ++ wordBytes s.b ++ wordBytes s.c ++ wordBytes s.d ++ wordBytes s.e
    ++ wordBytes s.f ++ wordBytes s.g ++ wordBytes s.h

/-- The effect of one block on the state. -/
def compress (s : State) (block : List UInt32) : State :=
  s.add ((roundConstants.zip (schedule block)).foldl (fun t (k, w) => t.round k w) s)

/-- The first `n` blocks of sixteen words, each compressed into the state in its turn. -/
def compressAll : Nat → List UInt32 → State → State
  | 0, _, s => s
  | n + 1, ws, s => compressAll n (ws.drop 16) (compress s (ws.take 16))

/-- The digest of a message. -/
def digest (message : Bytes) : Bytes :=
  let ws := words (pad message)
  (compressAll (ws.length / 16) ws State.start).bytes

/-- A digest has thirty-two bytes. -/
@[simp] theorem length_digest (message : Bytes) : (digest message).length = 32 := by
  simp [digest, State.bytes, wordBytes]

end Sha256

/-! ### Codes under a key -/

namespace Hmac

/-- The number of bytes in a block of the hash function. -/
def blockSize : Nat := 64

/-- The key, or the digest of a key that is longer than a block, filled up with zeros. -/
def blockKey (key : Bytes) : Bytes :=
  let short := if blockSize < key.length then Sha256.digest key else key
  short ++ List.replicate (blockSize - short.length) 0

/-- The code of a message under a key. -/
def sha256 (key message : Bytes) : Bytes :=
  let block := blockKey key
  let inner := Sha256.digest (block.map (· ^^^ 0x36) ++ message)
  Sha256.digest (block.map (· ^^^ 0x5c) ++ inner)

/-- A code has thirty-two bytes. -/
@[simp] theorem length_sha256 (key message : Bytes) : (sha256 key message).length = 32 := by
  simp [sha256]

end Hmac

end SharedKey
