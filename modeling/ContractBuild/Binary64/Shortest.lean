import ContractBuild.Binary64.Basic
import ContractBuild.Text.Basic

/-!
# The shortest decimal of a binary floating point number

A finite number is written with the fewest digits that read back as the number; of two such decimals the nearer one is
taken. The search goes through the two neighbours of the number on the grids of one, two, … seventeen digits, and every
candidate is read back before it is taken.

The text is positional from `0.0001` up to sixteen digits before the point, and has an exponent beyond.
-/

namespace ContractBuild.Binary64

/-- Digits and the exponent of ten that they are multiplied by. -/
structure Decimal where
  digits : Nat
  exponent : Int
deriving DecidableEq

/-- The decimal exponent of the first digit of `num / den`, for a positive quotient. -/
def leadingExponent (num den : Nat) : Int :=
  if den ≤ num then ((Nat.toDigits 10 (num / den)).length : Int) - 1
  else
    let guess := (Nat.toDigits 10 (den / num)).length
    if den ≤ num * Nat.pow 10 (guess - 1) then -((guess - 1 : Nat) : Int) else -(guess : Int)

/-- The quotient `num / den` divided by `10 ^ exponent`. -/
def scaleDown (num den : Nat) : Int → Nat × Nat
  | .ofNat e => (num, den * Nat.pow 10 e)
  | .negSucc e => (num * Nat.pow 10 (e + 1), den)

/-- The nearest decimal of `count` digits that reads back as the positive number `x`. -/
def decimalOf? (x : Binary64) (count : Nat) : Option Decimal :=
  let (num, den) := x.ratio
  let exponent := leadingExponent num den - ((count : Int) - 1)
  let (n, d) := scaleDown num den exponent
  let below := n / d
  let readsBack := fun digits => decide (ofDecimal x.negative digits exponent = x)
  let near := if 2 * (n % d) < d || (2 * (n % d) = d && below % 2 = 0) then below else below + 1
  let far := if near = below then below + 1 else below
  if readsBack near then some ⟨near, exponent⟩
  else if readsBack far then some ⟨far, exponent⟩
  else none

/-- The decimal that is exactly `x`. -/
def exactDecimal (x : Binary64) : Decimal :=
  if 1074 ≤ x.shift then ⟨x.significand * Nat.pow 2 (x.shift - 1074), 0⟩
  else ⟨x.significand * Nat.pow 5 (1074 - x.shift), -((1074 - x.shift : Nat) : Int)⟩

/-- The shortest decimal of a positive finite number. -/
def shortest (x : Binary64) : Decimal :=
  match (List.range 17).findSome? fun n => x.decimalOf? (n + 1) with
  | some d => d
  | none => x.exactDecimal

/-- Digits without the zeros at their end, with the exponent that makes up for them. -/
def Decimal.trim (fuel : Nat) (d : Decimal) : Decimal :=
  match fuel with
  | 0 => d
  | fuel + 1 => if d.digits ≠ 0 && d.digits % 10 = 0 then trim fuel ⟨d.digits / 10, d.exponent + 1⟩ else d

/-- A finite nonzero magnitude as text, where `point` digits stand before the decimal point. -/
def renderDecimal (digits : Text) (point : Int) : Text :=
  if -4 < point && point ≤ 16 then
    match point with
    | .ofNat n =>
      if n = 0 then "0." ++ digits
      else
        let whole := Text.padRight (digits.take n) n '0'
        let rest := digits.drop n
        whole ++ (['.'] : Text) ++ (if rest.isEmpty then ("0" : Text) else rest)
    | .negSucc n => "0." ++ Text.copies (n + 1) '0' ++ digits
  else
    let exponent := point - 1
    let mantissa := match digits with
      | [] => []
      | [d] => [d]
      | d :: ds => d :: '.' :: ds
    let sign : Text := if exponent < 0 then "e-" else "e+"
    mantissa ++ sign ++ Text.padLeft (Text.ofNat exponent.natAbs) 2 '0'

/-- The spelling of numbers that are not finite. -/
structure SpecialNames where
  infinity : Text
  nan : Text

/-- A number as text. -/
def render (names : SpecialNames) (x : Binary64) : Text :=
  let sign : Text := if x.negative then "-" else []
  if x.isNaN then names.nan
  else if x.isSpecial then sign ++ names.infinity
  else if x.isZero then sign ++ "0.0"
  else
    let d := x.shortest.trim 800
    let digits := Text.ofNat d.digits
    sign ++ renderDecimal digits (digits.length + d.exponent)

end ContractBuild.Binary64
