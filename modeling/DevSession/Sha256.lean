/-!
# Checksums

The SHA-256 checksum of a run of bytes: the bytes are padded to whole blocks of sixty-four, and each
block is mixed into eight words in sixty-four rounds. A checksum is shown as sixty-four hexadecimal
digits.

* `Sha256.digest`: the eight words.
* `Sha256.hexL`: the digits.
-/

namespace DevSession.Sha256

/-! ## Words -/

/-- The eight words that blocks are mixed into. -/
structure Words where
  a : UInt32
  b : UInt32
  c : UInt32
  d : UInt32
  e : UInt32
  f : UInt32
  g : UInt32
  h : UInt32

/-- The words before the first block. -/
def Words.initial : Words :=
  ⟨0x6a09e667, 0xbb67ae85, 0x3c6ef372, 0xa54ff53a, 0x510e527f, 0x9b05688c, 0x1f83d9ab, 0x5be0cd19⟩

/-- The sum of words, place by place. -/
def Words.add (x y : Words) : Words :=
  ⟨x.a + y.a, x.b + y.b, x.c + y.c, x.d + y.d, x.e + y.e, x.f + y.f, x.g + y.g, x.h + y.h⟩

/-- The constants of the rounds. -/
def roundConstants : Array UInt32 := #[
  0x428a2f98, 0x71374491, 0xb5c0fbcf, 0xe9b5dba5, 0x3956c25b, 0x59f111f1, 0x923f82a4, 0xab1c5ed5,
  0xd807aa98, 0x12835b01, 0x243185be, 0x550c7dc3, 0x72be5d74, 0x80deb1fe, 0x9bdc06a7, 0xc19bf174,
  0xe49b69c1, 0xefbe4786, 0x0fc19dc6, 0x240ca1cc, 0x2de92c6f, 0x4a7484aa, 0x5cb0a9dc, 0x76f988da,
  0x983e5152, 0xa831c66d, 0xb00327c8, 0xbf597fc7, 0xc6e00bf3, 0xd5a79147, 0x06ca6351, 0x14292967,
  0x27b70a85, 0x2e1b2138, 0x4d2c6dfc, 0x53380d13, 0x650a7354, 0x766a0abb, 0x81c2c92e, 0x92722c85,
  0xa2bfe8a1, 0xa81a664b, 0xc24b8b70, 0xc76c51a3, 0xd192e819, 0xd6990624, 0xf40e3585, 0x106aa070,
  0x19a4c116, 0x1e376c08, 0x2748774c, 0x34b0bcb5, 0x391c0cb3, 0x4ed8aa4a, 0x5b9cca4f, 0x682e6ff3,
  0x748f82ee, 0x78a5636f, 0x84c87814, 0x8cc70208, 0x90befffa, 0xa4506ceb, 0xbef9a3f7, 0xc67178f2]

/-- A word turned to the right. -/
def turn (x n : UInt32) : UInt32 :=
  (x >>> n) ||| (x <<< (32 - n))

/-! ## Blocks -/

/-- The word that starts at a byte, greatest byte first. -/
def wordAt (bytes : ByteArray) (i : Nat) : UInt32 :=
  let byte (k : Nat) : UInt32 := if h : i + k < bytes.size then bytes[i + k].toUInt32 else 0
  (byte 0 <<< 24) ||| (byte 1 <<< 16) ||| (byte 2 <<< 8) ||| byte 3

/-- `n` more words of a block's schedule, each from those sixteen, fifteen, seven and two before. -/
def extend : Nat → Array UInt32 → Array UInt32
  | 0, w => w
  | n + 1, w =>
    let i := w.size
    let x := w.getD (i - 15) 0
    let y := w.getD (i - 2) 0
    let s := turn x 7 ^^^ turn x 18 ^^^ (x >>> 3)
    let t := turn y 17 ^^^ turn y 19 ^^^ (y >>> 10)
    extend n (w.push (w.getD (i - 16) 0 + s + w.getD (i - 7) 0 + t))

/-- The sixty-four words of the block that starts at a byte. -/
def schedule (bytes : ByteArray) (start : Nat) : Array UInt32 :=
  extend 48 (Array.ofFn fun i : Fin 16 => wordAt bytes (start + 4 * i.val))

/-- One round. -/
def round (w : Array UInt32) (x : Words) (i : Nat) : Words :=
  let s := turn x.e 6 ^^^ turn x.e 11 ^^^ turn x.e 25
  let choice := (x.e &&& x.f) ^^^ (~~~x.e &&& x.g)
  let t := x.h + s + choice + roundConstants.getD i 0 + w.getD i 0
  let u := turn x.a 2 ^^^ turn x.a 13 ^^^ turn x.a 22
  let majority := (x.a &&& x.b) ^^^ (x.a &&& x.c) ^^^ (x.b &&& x.c)
  ⟨t + (u + majority), x.a, x.b, x.c, x.d + t, x.e, x.f, x.g⟩

/-- The words after the block that starts at a byte. -/
def mix (bytes : ByteArray) (x : Words) (start : Nat) : Words :=
  let w := schedule bytes start
  x.add ((List.range 64).foldl (round w) x)

/-! ## Checksums -/

/-- The eight bytes of a length in bits. -/
def lengthBytes (bits : Nat) : List UInt8 :=
  (List.range 8).map fun i => UInt8.ofNat (bits >>> (8 * (7 - i)))

/-- Bytes filled up to whole blocks: a one bit, zeros, and the length. -/
def pad (bytes : ByteArray) : ByteArray :=
  let zeros := (119 - bytes.size % 64) % 64
  bytes ++ ⟨(0x80 :: List.replicate zeros 0 ++ lengthBytes (8 * bytes.size)).toArray⟩

/-- The checksum as words. -/
def digest (bytes : ByteArray) : Words :=
  let padded := pad bytes
  (List.range (padded.size / 64)).foldl (fun x i => mix padded x (64 * i)) .initial

/-- The eight digits of a word. -/
def hexWord (x : UInt32) : List Char :=
  (List.range 8).map fun i => Nat.digitChar ((x.toNat >>> (4 * (7 - i))) % 16)

/-- The checksum as digits. -/
def hexL (bytes : ByteArray) : List Char :=
  let x := digest bytes
  hexWord x.a ++ hexWord x.b ++ hexWord x.c ++ hexWord x.d
    ++ hexWord x.e ++ hexWord x.f ++ hexWord x.g ++ hexWord x.h

end DevSession.Sha256
