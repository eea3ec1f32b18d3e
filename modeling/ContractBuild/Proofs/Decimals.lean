import ContractBuild.Binary64.Shortest
import Mathlib.Data.Nat.Log
import Mathlib.Tactic.Ring

/-!
# A number is read back from its shortest decimal

A decimal is rounded as a quotient of natural numbers, and equal quotients are rounded to one number. A finite number is
its own rounding, so any decimal within the range that is equal to it is read as it. The shortest decimal has been read
back before it is taken, and where none of seventeen digits is, the exact one is.

* `ofRatio_congr`, `ofRatio_self`: a quotient is rounded by its value, and a finite number is its own rounding.
* `ofDecimal_mul_pow`: zeros at the end of the digits make up for the exponent.
* `reads_exactDecimal`, `reads_shortest`: the decimals of a finite number are read back.
-/

namespace ContractBuild.Binary64

variable {num den num' den' k : Nat}

/-! ## Quotients -/

/-- An integer is its own rounding. -/
theorem roundHalfEven_mul (q : Nat) (h : 0 < den) : roundHalfEven (den * q) den = q := by
  simp [roundHalfEven, Nat.mul_div_cancel_left q h, h]

theorem roundHalfEven_scale (num den : Nat) (h : 0 < k) :
    roundHalfEven (k * num) (k * den) = roundHalfEven num den := by
  simp only [roundHalfEven, Nat.mul_div_mul_left _ _ h, Nat.mul_mod_mul_left, Nat.mul_left_comm 2 k,
    Nat.mul_lt_mul_left h]

theorem ofRatio_scale (negative : Bool) (num den : Nat) (h : 0 < k) :
    ofRatio negative (k * num) (k * den) = ofRatio negative num den := by
  simp only [ofRatio, shiftFor, Nat.mul_assoc, Nat.mul_div_mul_left _ _ h, roundHalfEven_scale _ _ h]

/-- Equal quotients are rounded to one number. -/
theorem ofRatio_congr (negative : Bool) (hden : 0 < den) (hden' : 0 < den') (h : num * den' = num' * den) :
    ofRatio negative num den = ofRatio negative num' den' := by
  rw [← ofRatio_scale negative num den hden', ← ofRatio_scale negative num' den' hden, Nat.mul_comm den' num, h,
    Nat.mul_comm num' den, Nat.mul_comm den' den]

variable {x : Binary64}

theorem ofFields_self (x : Binary64) : ofFields x.negative x.exponent.val x.fraction.val = x := by
  simp [ofFields]

/-- Either the exponent is zero, or the significand has 53 bits. -/
theorem significand_cases (x : Binary64) :
    (x.exponent.val = 0 ∧ x.significand = x.fraction.val ∧ x.shift = 0 ∧ x.significand < 2 ^ 52) ∨
      (x.exponent.val = x.shift + 1 ∧ x.significand = 2 ^ 52 + x.fraction.val ∧ x.significand < 2 ^ 53) := by
  have hfraction : x.fraction.val < 2 ^ 52 := x.fraction.isLt
  rw [significand, shift]
  split
  case isTrue h => exact .inl ⟨h, rfl, by omega, hfraction⟩
  case isFalse h =>
    have hsum : 2 ^ 52 + x.fraction.val < 2 ^ 53 := by omega
    exact .inr ⟨by omega, rfl, hsum⟩

theorem significand_lt (x : Binary64) : x.significand < 2 ^ 53 := by
  rcases x.significand_cases with ⟨-, -, -, hsmall⟩ | ⟨-, -, hsmall⟩ <;> omega

theorem significand_pos (h : x.isZero = false) : 0 < x.significand := by
  rcases x.significand_cases with ⟨hexponent, heq, -, -⟩ | ⟨-, heq, -⟩
  · exact Nat.pos_of_ne_zero (by simpa [isZero, hexponent, heq] using h)
  · omega

theorem shift_le (h : x.isSpecial = false) : x.shift ≤ 2045 := by
  have hexponent := x.exponent.isLt
  rw [isSpecial, decide_eq_false_iff_not] at h
  rw [shift]
  omega

/-- The shift of a finite number is found again. -/
theorem log2_significand (x : Binary64) : (x.significand * 2 ^ x.shift).log2 - 52 = x.shift := by
  rcases x.significand_cases with ⟨-, -, hshift, hsmall⟩ | ⟨-, heq, hsmall⟩
  · rw [hshift, Nat.pow_zero, Nat.mul_one]
    by_cases hzero : x.significand = 0
    · rw [hzero]
      rfl
    · have hlog := (Nat.log2_lt hzero).2 hsmall
      omega
  · have hpos : 0 < 2 ^ x.shift := Nat.two_pow_pos _
    have hlog : (x.significand * 2 ^ x.shift).log2 = 52 + x.shift := by
      rw [Nat.log2_eq_iff (Nat.mul_pos (by omega) hpos).ne', Nat.add_right_comm, Nat.pow_add, Nat.pow_add 2 53]
      exact ⟨Nat.mul_le_mul_right _ (by omega), Nat.mul_lt_mul_of_pos_right hsmall hpos⟩
    rw [hlog, Nat.add_sub_cancel_left]

/-- A finite number is made of its parts. -/
theorem ofSignificand_self (h : x.isSpecial = false) : ofSignificand x.negative x.significand x.shift = x := by
  have hmax := shift_le h
  rw [ofSignificand]
  simp only [Nat.pow_eq]
  rcases x.significand_cases with ⟨hzero, heq, hshift, hsmall⟩ | ⟨hpos, heq, hsmall⟩
  · rw [if_pos hsmall, heq, ← hzero, ofFields_self]
  · have hlarge : ¬ x.significand < 2 ^ 52 := by omega
    have hexact : x.significand ≠ 2 ^ 53 := by omega
    have hshift : ¬ 2046 ≤ x.shift := by omega
    simp only [hlarge, hexact, hshift, if_false]
    rw [heq, Nat.add_sub_cancel_left, ← hpos, ofFields_self]

/-- **A finite number is its own rounding**, however it is written as a quotient. -/
theorem ofRatio_self (h : x.isSpecial = false) (hden : 0 < den)
    (hx : num * 2 ^ 1074 = den * (x.significand * 2 ^ x.shift)) : ofRatio x.negative num den = x := by
  have hpos : 0 < den * 2 ^ x.shift := Nat.mul_pos hden (Nat.two_pow_pos _)
  have hround : den * (x.significand * 2 ^ x.shift) = den * 2 ^ x.shift * x.significand := by ring
  simp only [ofRatio, shiftFor, Nat.pow_eq, hx]
  rw [Nat.mul_div_cancel_left _ hden, log2_significand, hround, roundHalfEven_mul _ hpos, ofSignificand_self h]

/-! ## Decimals -/

variable {negative : Bool} {digits : Nat} {exponent : Int}

theorem length_toDigits_mul_ten (h : digits ≠ 0) :
    (Nat.toDigits 10 (digits * 10)).length = (Nat.toDigits 10 digits).length + 1 := by
  rw [Nat.toDigits_of_base_le (by decide) (by omega), Nat.mul_div_cancel _ (by decide), List.length_append,
    List.length_singleton]

/-- A decimal within the range is rounded as a quotient. -/
theorem ofDecimal_eq (negative : Bool) (exponent : Int) (h : digits ≠ 0) :
    ofDecimal negative digits exponent =
      if 310 < (Nat.toDigits 10 digits).length + exponent then infinity negative
      else if (Nat.toDigits 10 digits).length + exponent < -330 then zero negative
      else ofRatio negative (digits * 10 ^ exponent.toNat) (10 ^ (-exponent).toNat) := by
  unfold ofDecimal
  rw [if_neg h]
  cases exponent with
  | ofNat e => simp
  | negSucc e => simp

/-- A zero at the end of the digits is one in the exponent. -/
theorem ofDecimal_mul_ten (negative : Bool) (digits : Nat) (exponent : Int) :
    ofDecimal negative (digits * 10) exponent = ofDecimal negative digits (exponent + 1) := by
  by_cases hzero : digits = 0
  · simp [ofDecimal, hzero]
  have hmagnitude : ((Nat.toDigits 10 (digits * 10)).length : Int) + exponent =
      (Nat.toDigits 10 digits).length + (exponent + 1) := by
    rw [length_toDigits_mul_ten hzero]
    omega
  have hpow : 10 * 10 ^ exponent.toNat * 10 ^ (-(exponent + 1)).toNat =
      10 ^ (exponent + 1).toNat * 10 ^ (-exponent).toNat := by
    rw [Nat.mul_assoc, ← Nat.pow_add, ← Nat.pow_succ', ← Nat.pow_add]
    congr 1
    omega
  have hratio : ofRatio negative (digits * 10 * 10 ^ exponent.toNat) (10 ^ (-exponent).toNat) =
      ofRatio negative (digits * 10 ^ (exponent + 1).toNat) (10 ^ (-(exponent + 1)).toNat) := by
    refine ofRatio_congr negative (Nat.pow_pos (by decide)) (Nat.pow_pos (by decide)) ?_
    rw [Nat.mul_assoc digits, Nat.mul_assoc digits, hpow, Nat.mul_assoc]
  rw [ofDecimal_eq negative exponent (by omega), ofDecimal_eq negative _ hzero, hmagnitude, hratio]

theorem ofDecimal_mul_pow (negative : Bool) (digits : Nat) (exponent : Int) (n : Nat) :
    ofDecimal negative (digits * 10 ^ n) exponent = ofDecimal negative digits (exponent + n) := by
  induction n generalizing exponent with
  | zero => simp
  | succ n ih =>
    rw [Nat.pow_succ, ← Nat.mul_assoc, ofDecimal_mul_ten, ih]
    congr 1
    omega

/-! ## Reading back -/

/-- A decimal that is read as a number. -/
def Decimal.Reads (d : Decimal) (x : Binary64) : Prop := ofDecimal x.negative d.digits d.exponent = x

/-- Zeros at the end do not matter. -/
theorem Decimal.Reads.trim {d : Decimal} (h : d.Reads x) (fuel : Nat) : (d.trim fuel).Reads x := by
  induction fuel generalizing d with
  | zero => exact h
  | succ fuel ih =>
    rw [Decimal.trim]
    split
    · rename_i hzero
      rw [Bool.and_eq_true, decide_eq_true_eq, decide_eq_true_eq] at hzero
      have hdigits : d.digits / 10 * 10 = d.digits := by omega
      refine ih ?_
      rw [Reads, ← ofDecimal_mul_ten, hdigits]
      exact h
    · exact h

/-- A decimal that has been read back before it was taken. -/
theorem reads_of_decimalOf? {count : Nat} {d : Decimal} (h : x.decimalOf? count = some d) : d.Reads x := by
  unfold decimalOf? at h
  generalize x.ratio = r at h
  obtain ⟨num, den⟩ := r
  dsimp -zeta only at h
  extract_lets exponent below readsBack near far at h
  split at h
  · rename_i hnear
    have hreads : ofDecimal x.negative near exponent = x := of_decide_eq_true hnear
    cases h
    exact hreads
  · split at h
    · rename_i hfar
      have hreads : ofDecimal x.negative far exponent = x := of_decide_eq_true hfar
      cases h
      exact hreads
    · cases h

/-- A decimal within the range that is equal to a finite number is read as the number. -/
theorem ofDecimal_self (h : x.isSpecial = false) (hdigits : digits ≠ 0)
    (hhigh : (Nat.toDigits 10 digits).length + exponent ≤ 310)
    (hlow : -330 ≤ (Nat.toDigits 10 digits).length + exponent)
    (hvalue : digits * 10 ^ exponent.toNat * 2 ^ 1074 = 10 ^ (-exponent).toNat * (x.significand * 2 ^ x.shift)) :
    ofDecimal x.negative digits exponent = x := by
  rw [ofDecimal_eq _ _ hdigits, if_neg (by omega), if_neg (by omega)]
  exact ofRatio_self h (Nat.pow_pos (by decide)) hvalue

/-- The digits of a fraction of a finite number do not start far behind the point. -/
theorem le_length_toDigits {n : Nat} (hdigits : 5 ^ n ≤ digits) (hn : n ≤ 1074) :
    n ≤ (Nat.toDigits 10 digits).length + 330 := by
  have hpositive : 0 < (Nat.toDigits 10 digits).length := Nat.length_toDigits_pos
  by_contra hshort
  obtain ⟨m, rfl⟩ : ∃ m, n = m + 331 := ⟨n - 331, by omega⟩
  have hsmall : digits < 10 ^ m := (Nat.length_toDigits_le_iff (by decide) (by omega)).1 (by omega)
  have hpow : 2 ^ m ≤ 5 ^ 331 := calc
    2 ^ m ≤ 2 ^ 743 := Nat.pow_le_pow_right (by decide) (by omega)
    _ ≤ 5 ^ 331 := by decide +kernel
  have hlarge : 10 ^ m ≤ digits := calc
    10 ^ m = 5 ^ m * 2 ^ m := by rw [← Nat.mul_pow]
    _ ≤ 5 ^ m * 5 ^ 331 := Nat.mul_le_mul_left _ hpow
    _ = 5 ^ (m + 331) := by rw [Nat.pow_add]
    _ ≤ digits := hdigits
  omega

section

variable (h : x.isSpecial = false) (hzero : x.isZero = false)
include h hzero

/-- A finite number that is an integer is read from its digits. -/
theorem reads_integer {n : Nat} (hn : x.shift = 1074 + n) : Decimal.Reads ⟨x.significand * 2 ^ n, 0⟩ x := by
  have hmax : n ≤ 971 := by
    have hshift := shift_le h
    omega
  have hdigits : x.significand * 2 ^ n < 10 ^ 309 := calc
    x.significand * 2 ^ n < 2 ^ 53 * 2 ^ n := Nat.mul_lt_mul_of_pos_right x.significand_lt (Nat.two_pow_pos n)
    _ ≤ 2 ^ 53 * 2 ^ 971 := Nat.mul_le_mul_left _ (Nat.pow_le_pow_right (by decide) hmax)
    _ ≤ 10 ^ 309 := by decide +kernel
  have hlength := (Nat.length_toDigits_le_iff (by decide) (by decide)).2 hdigits
  have hpow : 2 ^ x.shift = 2 ^ n * 2 ^ 1074 := by rw [← Nat.pow_add, hn, Nat.add_comm]
  refine ofDecimal_self h (Nat.mul_pos (significand_pos hzero) (Nat.two_pow_pos n)).ne' ?_ ?_ ?_
  · dsimp only
    omega
  · dsimp only
    omega
  · rw [hpow]
    simp only [Int.toNat_zero, Int.neg_zero, Nat.pow_zero, Nat.mul_one, Nat.one_mul, Nat.mul_assoc]

/-- A finite number is read from the digits that it has up to its last bit behind the point. -/
theorem reads_fraction {n : Nat} (hn : x.shift + n = 1074) : Decimal.Reads ⟨x.significand * 5 ^ n, -n⟩ x := by
  have hdigits : x.significand * 5 ^ n < 10 ^ (16 + n) := calc
    x.significand * 5 ^ n < 2 ^ 53 * 5 ^ n := Nat.mul_lt_mul_of_pos_right x.significand_lt (Nat.pow_pos (by decide))
    _ ≤ 10 ^ 16 * 10 ^ n := Nat.mul_le_mul (by decide) (Nat.pow_le_pow_left (by decide) n)
    _ = 10 ^ (16 + n) := (Nat.pow_add 10 16 n).symm
  have hhigh := (Nat.length_toDigits_le_iff (by decide) (by omega)).2 hdigits
  have hlow := le_length_toDigits (n := n) (Nat.le_mul_of_pos_left (5 ^ n) (significand_pos hzero)) (by omega)
  have hpow : 2 ^ 1074 = 2 ^ n * 2 ^ x.shift := by rw [← Nat.pow_add, ← hn, Nat.add_comm]
  have hten : 10 ^ n = 5 ^ n * 2 ^ n := by rw [← Nat.mul_pow]
  refine ofDecimal_self h (Nat.mul_pos (significand_pos hzero) (Nat.pow_pos (by decide))).ne' ?_ ?_ ?_
  · dsimp only
    omega
  · dsimp only
    omega
  · rw [hpow]
    simp only [neg_neg, Int.toNat_natCast, Int.toNat_neg_natCast, Nat.pow_zero, hten]
    ring

/-- **The exact decimal is read back.** -/
theorem reads_exactDecimal : x.exactDecimal.Reads x := by
  unfold exactDecimal
  split
  · exact reads_integer h hzero (by omega)
  · exact reads_fraction h hzero (by omega)

/-- **The shortest decimal is read back.** -/
theorem reads_shortest : x.shortest.Reads x := by
  unfold shortest
  split
  · rename_i d hd
    obtain ⟨n, -, hn⟩ := List.exists_of_findSome?_eq_some hd
    exact reads_of_decimalOf? hn
  · exact reads_exactDecimal h hzero

end

/-- A decimal that is read as a number other than zero has digits. -/
theorem Decimal.Reads.digits_ne_zero {d : Decimal} (h : d.Reads x) (hzero : x.isZero = false) : d.digits ≠ 0 := by
  intro hdigits
  have hread : ofDecimal x.negative 0 d.exponent = zero x.negative := rfl
  rw [Reads, hdigits, hread] at h
  rw [← h] at hzero
  cases hzero

/-! ## Numbers without a decimal -/

theorem eq_zero_of_isZero (h : x.isZero = true) : x = zero x.negative := by
  rw [isZero, Bool.and_eq_true, decide_eq_true_eq, decide_eq_true_eq] at h
  have hself := x.ofFields_self
  rw [h.1, h.2] at hself
  exact hself.symm

theorem eq_infinity_of_isSpecial (h : x.isSpecial = true) (hnan : x.isNaN = false) : x = infinity x.negative := by
  rw [isNaN, h, Bool.true_and, decide_eq_false_iff_not, not_not] at hnan
  rw [isSpecial, decide_eq_true_eq] at h
  have hself := x.ofFields_self
  rw [h, hnan] at hself
  exact hself.symm

theorem isNaN_ofFields (negative : Bool) {exponent : Nat} (fraction : Nat) (h : exponent < 2047) :
    (ofFields negative exponent fraction).isNaN = false := by
  have hexponent : exponent % 2048 ≠ 2047 := by omega
  have hspecial : (ofFields negative exponent fraction).isSpecial = false := decide_eq_false hexponent
  rw [isNaN, hspecial, Bool.false_and]

theorem isNaN_ofSignificand (negative : Bool) (significand shift : Nat) :
    (ofSignificand negative significand shift).isNaN = false := by
  unfold ofSignificand
  split
  · exact isNaN_ofFields negative significand (by decide)
  · split
    split
    · cases negative <;> rfl
    · exact isNaN_ofFields negative _ (by omega)

/-- A decimal is read as a number. -/
theorem isNaN_ofDecimal (negative : Bool) (digits : Nat) (exponent : Int) :
    (ofDecimal negative digits exponent).isNaN = false := by
  have hspecial : (infinity negative).isNaN = false ∧ (zero negative).isNaN = false := by cases negative <;> decide
  unfold ofDecimal
  extract_lets magnitude
  split_ifs
  · exact hspecial.2
  · exact hspecial.1
  · exact hspecial.2
  · cases exponent with
    | ofNat e => exact isNaN_ofSignificand negative _ _
    | negSucc e => exact isNaN_ofSignificand negative _ _

end ContractBuild.Binary64
