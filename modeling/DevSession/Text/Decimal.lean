/-!
# Decimal numerals

How counts are written and read: the digits of a number with no zeros in front, the same digits
filled up with zeros to a width, and the value of a run of digits.

* `digits`, `padded`: writing.
* `read?`: reading a run of digits of any length; `read?_digits` is the round trip.
-/

namespace DevSession.Text.Decimal

/-- The decimal digits of `n`, without zeros in front. -/
def digits (n : Nat) : List Char :=
  Nat.toDigits 10 n

/-- The decimal text of `n`. -/
def text (n : Nat) : String :=
  String.ofList (digits n)

/-- The digits of `n`, with zeros in front up to `width` characters. -/
def padded (width n : Nat) : List Char :=
  List.replicate (width - (digits n).length) '0' ++ digits n

/-- The number written by a run of decimal digits; a text with anything else in it, or with
nothing in it, writes no number. -/
def read? (cs : List Char) : Option Nat :=
  if cs ≠ [] ∧ cs.all Char.isDigit then some (Nat.ofDigitChars 10 cs 0) else none

/-- The number written by at least one digit, an optional plus sign in front. -/
def readSigned? : List Char → Option Nat
  | '+' :: cs => read? cs
  | cs => read? cs

/-! ## Reading back what was written -/

theorem digits_ne_nil (n : Nat) : digits n ≠ [] :=
  Nat.toDigits_ne_nil

theorem isDigit_of_mem_digits {n : Nat} {c : Char} (h : c ∈ digits n) : c.isDigit = true :=
  Nat.isDigit_of_mem_toDigits (by decide) (by decide) h

/-- A number is the value of its digits. -/
@[simp]
theorem read?_digits (n : Nat) : read? (digits n) = some n := by
  have hall : (digits n).all Char.isDigit = true :=
    List.all_eq_true.mpr fun _ h => isDigit_of_mem_digits h
  rw [read?, if_pos ⟨digits_ne_nil n, hall⟩]
  exact congrArg some (Nat.ofDigitChars_ten_toDigits)

end DevSession.Text.Decimal
