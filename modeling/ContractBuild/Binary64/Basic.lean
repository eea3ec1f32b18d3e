/-!
# Binary floating point numbers

A number of the 64 bit binary format is a sign, a biased exponent and a fraction. The finite ones are
`± significand · 2 ^ (shift - 1074)`, so they are handled in natural numbers throughout: `ofRatio` rounds a quotient to
the nearest number, a tie going to the even significand, and `ofDecimal` rounds a decimal.
-/

namespace ContractBuild

/-- A binary floating point number of 64 bits. -/
structure Binary64 where
  negative : Bool
  exponent : Fin 2048
  fraction : Fin (Nat.pow 2 52)
deriving DecidableEq

namespace Binary64

/-- The number with the given fields, each taken modulo its range. -/
def ofFields (negative : Bool) (exponent fraction : Nat) : Binary64 :=
  ⟨negative, Fin.ofNat 2048 exponent, Fin.ofNat (Nat.pow 2 52) fraction⟩

/-- Zero. -/
def zero (negative : Bool) : Binary64 := ofFields negative 0 0

/-- Infinity. -/
def infinity (negative : Bool) : Binary64 := ofFields negative 2047 0

/-- What is not a number. -/
def nan : Binary64 := ofFields false 2047 (Nat.pow 2 51)

/-- Whether the number is infinite or not a number. -/
def isSpecial (x : Binary64) : Bool := x.exponent.val = 2047

/-- Whether it is not a number. -/
def isNaN (x : Binary64) : Bool := x.isSpecial && x.fraction.val ≠ 0

/-- Whether it is zero, of either sign. -/
def isZero (x : Binary64) : Bool := x.exponent.val = 0 && x.fraction.val = 0

/-- The integer that is multiplied by a power of two. -/
def significand (x : Binary64) : Nat :=
  if x.exponent.val = 0 then x.fraction.val else Nat.pow 2 52 + x.fraction.val

/-- The exponent of that power, counted from the least one. -/
def shift (x : Binary64) : Nat := x.exponent.val - 1

/-- The magnitude of a finite number as a quotient: `significand · 2 ^ shift` over `2 ^ 1074`. -/
def ratio (x : Binary64) : Nat × Nat := (x.significand * Nat.pow 2 x.shift, Nat.pow 2 1074)

/-- The 64 bits as a natural number. -/
def bits (x : Binary64) : Nat :=
  (if x.negative then Nat.pow 2 63 else 0) + x.exponent.val * Nat.pow 2 52 + x.fraction.val

/-- The nearest integer to `num / den`, the even one of two. -/
def roundHalfEven (num den : Nat) : Nat :=
  let q := num / den
  let r := num % den
  if 2 * r < den then q else if den < 2 * r then q + 1 else q + q % 2

/-- The number `significand · 2 ^ (shift - 1074)` for a significand of at most 53 bits, infinity when it is too large. -/
def ofSignificand (negative : Bool) (significand shift : Nat) : Binary64 :=
  if significand < Nat.pow 2 52 then ofFields negative 0 significand
  else
    let (s, e) := if significand = Nat.pow 2 53 then (Nat.pow 2 52, shift + 1) else (significand, shift)
    if 2046 ≤ e then infinity negative else ofFields negative (e + 1) (s - Nat.pow 2 52)

/-- The shift that leaves 53 bits of the quotient `num / den`; zero when it has no more. -/
def shiftFor (num den : Nat) : Nat := Nat.log2 (num / den) - 52

/-- The number nearest to `num / den`, where a tie goes to the even significand. -/
def ofRatio (negative : Bool) (num den : Nat) : Binary64 :=
  let scaled := num * Nat.pow 2 1074
  let shift := shiftFor scaled den
  ofSignificand negative (roundHalfEven scaled (den * Nat.pow 2 shift)) shift

/-- The number nearest to `digits · 10 ^ exponent`. Magnitudes far beyond the range are infinite or zero at once. -/
def ofDecimal (negative : Bool) (digits : Nat) (exponent : Int) : Binary64 :=
  if digits = 0 then zero negative
  else
    let magnitude : Int := (Nat.toDigits 10 digits).length + exponent
    if 310 < magnitude then infinity negative
    else if magnitude < -330 then zero negative
    else match exponent with
      | .ofNat e => ofRatio negative (digits * Nat.pow 10 e) 1
      | .negSucc e => ofRatio negative digits (Nat.pow 10 (e + 1))

/-- The integer part of a finite number. -/
def truncate (x : Binary64) : Int :=
  let (num, den) := x.ratio
  let n : Int := (num / den : Nat)
  if x.negative then -n else n

end Binary64

end ContractBuild
