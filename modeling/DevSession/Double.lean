/-!
# Numbers within reach of double precision

A decimal number is kept in double precision only if it is finite there. Two answers are needed. The
exact one rounds the number itself. The quick one works on the first digits that fit in sixty-four
bits and rounds at each step, so close to the greatest double it may differ from the exact one by a
few units of the last place.

* `Double.bound`: the least whole number that rounds to no double.
* `Double.isFinite`: the exact answer.
* `Double.isQuicklyFinite`: the quick answer.
-/

namespace DevSession.Double

/-- The point half way between the greatest double and the next power of two. -/
def bound : Nat :=
  Nat.pow 2 1024 - Nat.pow 2 970

/-! ## The exact answer -/

/-- Whether `mantissa * 10 ^ exponent` is finite in double precision. An exponent beyond four
hundred settles it, and a negative one that leaves no digit before the point. -/
def isFinite (mantissa : Nat) (exponent : Int) : Bool :=
  if mantissa = 0 then true
  else if exponent ≤ 0 then
    mantissa < bound * Nat.pow 10 (min exponent.natAbs (Nat.toDigits 10 mantissa).length)
  else if 400 < exponent then false
  else mantissa * Nat.pow 10 exponent.toNat < bound

/-! ## The quick answer -/

/-- The nearest number with fifty-three significant bits; a half goes to the even neighbour. -/
def round (n : Nat) : Nat :=
  if n < 9007199254740992 then n
  else
    let unit := Nat.pow 2 (n.log2 - 52)
    let kept := n / unit
    let rest := n % unit * 2
    if unit < rest ∨ rest = unit ∧ kept % 2 = 1 then (kept + 1) * unit else kept * unit

/-- Digits put behind `n` as long as the result fits in sixty-four bits, and the digits left. -/
def gather (n : Nat) : List Char → Nat × List Char
  | [] => (n, [])
  | c :: cs =>
    let m := n * 10 + (c.toNat - 48)
    if m < UInt64.size then gather m cs else (n, c :: cs)

/-- Whether `significand * 10 ^ exponent` is finite when both factors are rounded first. -/
def isFiniteProduct (significand : Nat) (exponent : Int) : Bool :=
  if significand = 0 ∨ exponent < 0 then true
  else if 308 < exponent then false
  else round significand * round (Nat.pow 10 exponent.toNat) < bound

/-- Whether the number with these digits before and behind the point and this exponent is finite, as
far as its first digits tell. A digit before the point that no longer fits counts as a zero, and
from the first digit behind the point that does not fit all are left out. -/
def isQuicklyFinite (whole fraction : List Char) (exponent : Int) : Bool :=
  let (n, rest) := gather 0 whole
  let (m, left) := gather n fraction
  isFiniteProduct m (exponent + rest.length - (fraction.length - left.length : Nat))

end DevSession.Double
