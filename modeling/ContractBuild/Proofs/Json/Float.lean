import ContractBuild.Proofs.Decimals
import ContractBuild.Proofs.Json.Scalar

/-!
# Floating point numbers are read back

A number is written with the digits of its shortest decimal. The point stands among them, or behind zeros that fill up,
or the number has an exponent (`renderDecimal_of_nonpos`, `renderDecimal_of_pos`, `renderDecimal_of_far`); each way of
writing is read as the same decimal. What is no number has one spelling, so it is read back when it is the one that the
reader gives (`Binary64.Canonical`).

* `magnitude?_point`, `magnitude?_exponent`: what the reader makes of a fraction and of an exponent.
* `magnitude?_renderDecimal`: a decimal is read back.
* `spells_float`: a floating point number is read back.
-/

namespace ContractBuild

/-- A number that is written as what it is: of all that is not a number there is only one. -/
def Binary64.Canonical (x : Binary64) : Prop := x.isNaN = true → x = nan

/-! ## Zeros -/

namespace Text

theorem toNat_copies_zero (n : Nat) : toNat (copies n '0') = 0 := by
  induction n with
  | zero => rfl
  | succ n ih =>
    have hcons : copies (n + 1) '0' = (['0'] : Text) ++ copies n '0' := rfl
    have hzero : toNat (['0'] : Text) = 0 := rfl
    rw [hcons, toNat_append, ih, hzero, Nat.zero_mul]

theorem isDigit_of_mem_copies {n : Nat} {c : CodePoint} (h : c ∈ copies n '0') : c.isDigit = true := by
  rw [List.eq_of_mem_replicate h]
  decide

end Text

namespace Json

/-! ## Fractions and exponents -/

theorem fractionPart?_append {places rest : Text} (hne : places ≠ []) (hplaces : ∀ c ∈ places, c.isDigit = true)
    (hrest : ∀ c ∈ rest.head?, c.isDigit = false) :
    fractionPart? ('.' :: (places ++ rest) : Text) = some (places, rest) := by
  obtain ⟨c, places, rfl⟩ := List.exists_cons_of_ne_nil hne
  rw [fractionPart?, if_pos rfl, spanDigits_append hplaces hrest]

/-- An exponent is read back, with its sign. -/
theorem exponentPart?_append {sign : CodePoint} {digits rest : Text} (hsign : sign = '-' ∨ sign = '+')
    (hne : digits ≠ []) (hdigits : ∀ c ∈ digits, c.isDigit = true) (hrest : ∀ c ∈ rest.head?, c.isDigit = false) :
    exponentPart? ('e' :: sign :: (digits ++ rest) : Text) =
      some (if sign = '-' then -(Text.toNat digits : Int) else Text.toNat digits, rest) := by
  have hspan := spanDigits_append hdigits hrest
  have hplus : CodePoint.ofChar '+' ≠ '-' := by decide
  obtain ⟨c, digits, rfl⟩ := List.exists_cons_of_ne_nil hne
  rcases hsign with rfl | rfl
  · simp only [exponentPart?, decide_true, Bool.true_or, if_true]
    rw [hspan]
  · simp only [exponentPart?, decide_true, Bool.true_or, if_true, hplus, if_false]
    rw [hspan]
    rfl

section

variable {rest : Text} (negative : Bool)

/-- A number with a point is read as a decimal. -/
theorem magnitude?_point {whole places : Text} (hwhole : IsWhole whole) (hne : places ≠ [])
    (hplaces : ∀ c ∈ places, c.isDigit = true) (hrest : EndsNumber rest) :
    magnitude? negative (whole ++ ('.' :: (places ++ rest) : Text)) =
      some (.float (.ofDecimal negative (Text.toNat (whole ++ places)) (-(places.length : Int))), rest) := by
  have hdigits : ∀ c ∈ rest.head?, c.isDigit = false := fun c hc => (hrest c hc).1
  have hpoint : ∀ c ∈ ('.' :: (places ++ rest) : Text).head?, c.isDigit = false := by
    rintro c ⟨⟩
    decide
  simp [magnitude?, integerPart?_append hwhole hpoint, fractionPart?_append hne hplaces hdigits,
    exponentPart?_of_endsNumber hrest]

/-- A number with an exponent is read as a decimal; its first digit may have a point behind it. -/
theorem magnitude?_exponent {first : CodePoint} {places digits : Text} {sign : CodePoint}
    (hfirst : first.isDigit = true) (hplaces : ∀ c ∈ places, c.isDigit = true) (hsign : sign = '-' ∨ sign = '+')
    (hne : digits ≠ []) (hdigits : ∀ c ∈ digits, c.isDigit = true) (hrest : EndsNumber rest) :
    magnitude? negative (first :: ((if places = [] then [] else ('.' :: places : Text)) ++
        ('e' :: sign :: (digits ++ rest) : Text))) =
      some (.float (.ofDecimal negative (Text.toNat (first :: places))
        ((if sign = '-' then -(Text.toNat digits : Int) else Text.toNat digits) - places.length)), rest) := by
  have hexponent := exponentPart?_append hsign hne hdigits fun c hc => (hrest c hc).1
  have hwhole {u : Text} (hu : ∀ c ∈ u.head?, c.isDigit = false) : integerPart? ([first] ++ u) = some ([first], u) := by
    refine integerPart?_append ?_ hu
    by_cases hzero : first = '0'
    · exact .inl (by rw [hzero]; rfl)
    · refine .inr ⟨List.cons_ne_nil _ _, by simpa using hzero, by simpa using hfirst⟩
  have hletter : ∀ c ∈ ('e' :: sign :: (digits ++ rest) : Text).head?, c.isDigit = false := by
    rintro c ⟨⟩
    decide
  by_cases h : places = []
  · have hfraction : fractionPart? ('e' :: sign :: (digits ++ rest) : Text) = none := rfl
    have hread := hwhole hletter
    rw [List.singleton_append] at hread
    simp [magnitude?, h, hread, hfraction, hexponent]
  · have hpoint : ∀ c ∈ ('.' :: (places ++ ('e' :: sign :: (digits ++ rest) : Text)) : Text).head?, c.isDigit = false := by
      rintro c ⟨⟩
      decide
    have hread := hwhole hpoint
    rw [List.singleton_append] at hread
    simp [magnitude?, h, hread, fractionPart?_append h hplaces hletter, hexponent]

end

/-! ## Decimals -/

open Binary64

section

variable {ds rest : Text}

/-- Digits behind the point. -/
theorem renderDecimal_of_nonpos {m : Nat} (h : m < 4) :
    renderDecimal ds (-(m : Int)) = ("0" : Text) ++ ('.' :: (Text.copies m '0' ++ ds) : Text) := by
  have hrange : (decide (-4 < -(m : Int)) && decide (-(m : Int) ≤ 16)) = true := by
    rw [Bool.and_eq_true, decide_eq_true_eq, decide_eq_true_eq]
    omega
  unfold renderDecimal
  rw [if_pos hrange]
  cases m with
  | zero => rfl
  | succ m => rfl

/-- Digits on both sides of the point. -/
theorem renderDecimal_of_pos {m : Nat} (hpos : m ≠ 0) (h : m ≤ 16) :
    renderDecimal ds m = Text.padRight (ds.take m) m '0' ++
      ('.' :: (if ds.drop m = [] then ['0'] else ds.drop m) : Text) := by
  have hrange : (decide (-4 < (m : Int)) && decide ((m : Int) ≤ 16)) = true := by
    rw [Bool.and_eq_true, decide_eq_true_eq, decide_eq_true_eq]
    omega
  unfold renderDecimal
  rw [if_pos hrange, ← Int.ofNat_eq_natCast]
  dsimp only
  rw [if_neg hpos, List.append_assoc]
  cases ds.drop m <;> rfl

theorem renderDecimal_of_far {d : CodePoint} {point : Int} (h : point ≤ -4 ∨ 16 < point) :
    renderDecimal (d :: ds) point = d :: ((if ds = [] then [] else ('.' :: ds : Text)) ++
      ('e' :: (if point - 1 < 0 then '-' else '+' : Char) :: Text.padLeft (Text.ofNat (point - 1).natAbs) 2 '0' : Text)) := by
  have hrange : ¬ (decide (-4 < point) && decide (point ≤ 16)) = true := by
    rw [Bool.and_eq_true, decide_eq_true_eq, decide_eq_true_eq]
    omega
  unfold renderDecimal
  rw [if_neg hrange]
  dsimp only
  by_cases hsign : point - 1 < 0 <;> cases ds <;> simp [hsign, Text.ofString]

end

section

variable {ds rest : Text} (negative : Bool) (hne : ds ≠ []) (hdigits : ∀ c ∈ ds, c.isDigit = true)
  (hrest : EndsNumber rest)
include hne hdigits hrest

/-- Digits behind the point are read back. -/
theorem magnitude?_behind {m : Nat} (h : m < 4) :
    magnitude? negative (renderDecimal ds (-(m : Int)) ++ rest) =
      some (.float (.ofDecimal negative (Text.toNat ds) (-(m : Int) - ds.length)), rest) := by
  have hzero : Text.toNat "0" = 0 := rfl
  have hplaces : ∀ c ∈ Text.copies m '0' ++ ds, c.isDigit = true := by
    intro c hc
    rcases List.mem_append.1 hc with hc | hc
    · exact Text.isDigit_of_mem_copies hc
    · exact hdigits c hc
  have hlength : -((Text.copies m '0' ++ ds).length : Int) = -(m : Int) - ds.length := by
    rw [List.length_append, Text.copies, List.length_replicate]
    omega
  rw [renderDecimal_of_nonpos h, List.append_assoc, List.cons_append,
    magnitude?_point negative (.inl rfl) (List.append_ne_nil_of_right_ne_nil _ hne) hplaces hrest, hlength,
    Text.toNat_append, Text.toNat_append, Text.toNat_copies_zero, hzero]
  simp

/-- Digits before the point are read back, with zeros where there are too few of them. -/
theorem magnitude?_before {m : Nat} (hhead : ds.head? ≠ some (CodePoint.ofChar '0')) (hm : ds.length ≤ m) (h : m ≤ 16) :
    magnitude? negative (renderDecimal ds m ++ rest) =
      some (.float (.ofDecimal negative (Text.toNat ds) (m - ds.length)), rest) := by
  have hpos := List.length_pos_iff.2 hne
  have hwhole : IsWhole (ds ++ Text.copies (m - ds.length) '0') := by
    refine .inr ⟨List.append_ne_nil_of_left_ne_nil hne _, by rwa [List.head?_append_of_ne_nil _ hne], fun c hc => ?_⟩
    rcases List.mem_append.1 hc with hc | hc
    · exact hdigits c hc
    · exact Text.isDigit_of_mem_copies hc
  have hzeros : Text.copies (m - ds.length) '0' ++ (['0'] : Text) = Text.copies (m - ds.length + 1) '0' :=
    List.replicate_succ'.symm
  have hexponent : -(1 : Int) + (m - ds.length + 1 : Nat) = m - ds.length := by omega
  have hplaces : ∀ c ∈ (['0'] : Text), c.isDigit = true := by decide
  have hlength : ((['0'] : Text).length : Int) = 1 := rfl
  rw [renderDecimal_of_pos (by omega) h, List.take_of_length_le hm, List.drop_of_length_le hm, if_pos rfl, Text.padRight,
    List.append_assoc _ _ rest, List.cons_append,
    magnitude?_point negative hwhole (List.cons_ne_nil _ _) hplaces hrest, List.append_assoc, hzeros,
    Text.toNat_append, Text.toNat_copies_zero, Nat.add_zero, Binary64.ofDecimal_mul_pow, hlength, Text.copies,
    List.length_replicate, hexponent]

/-- Digits on both sides of the point are read back. -/
theorem magnitude?_around {m : Nat} (hhead : ds.head? ≠ some (CodePoint.ofChar '0')) (hpos : m ≠ 0) (hm : m < ds.length)
    (h : m ≤ 16) :
    magnitude? negative (renderDecimal ds m ++ rest) =
      some (.float (.ofDecimal negative (Text.toNat ds) (m - ds.length)), rest) := by
  have hwhole : IsWhole (ds.take m) := by
    refine .inr ⟨?_, by rwa [List.head?_take, if_neg hpos], fun c hc => hdigits c (List.mem_of_mem_take hc)⟩
    rw [Ne, List.take_eq_nil_iff, not_or]
    exact ⟨hpos, hne⟩
  have hplaces : ds.drop m ≠ [] := by
    rw [Ne, List.drop_eq_nil_iff]
    omega
  have hpad : Text.padRight (ds.take m) m '0' = ds.take m := by
    rw [Text.padRight, List.length_take_of_le hm.le, Nat.sub_self]
    exact List.append_nil _
  have hlength : -((ds.drop m).length : Int) = m - ds.length := by
    rw [List.length_drop]
    omega
  rw [renderDecimal_of_pos hpos h, if_neg hplaces, hpad, List.append_assoc, List.cons_append,
    magnitude?_point negative hwhole hplaces (fun c hc => hdigits c (List.mem_of_mem_drop hc)) hrest, hlength,
    List.take_append_drop]

/-- A digit, the others behind the point, and an exponent are read back. -/
theorem magnitude?_far {point : Int} (h : point ≤ -4 ∨ 16 < point) :
    magnitude? negative (renderDecimal ds point ++ rest) =
      some (.float (.ofDecimal negative (Text.toNat ds) (point - ds.length)), rest) := by
  obtain ⟨d, ds, rfl⟩ := List.exists_cons_of_ne_nil hne
  obtain ⟨hd, hdigits⟩ := List.forall_mem_cons.1 hdigits
  have hexponent : ∀ c ∈ Text.padLeft (Text.ofNat (point - 1).natAbs) 2 '0', c.isDigit = true := by
    intro c hc
    rcases List.mem_append.1 hc with hc | hc
    · exact Text.isDigit_of_mem_copies hc
    · exact Text.isDigit_of_mem_ofNat hc
  have hnil : Text.padLeft (Text.ofNat (point - 1).natAbs) 2 '0' ≠ [] :=
    List.append_ne_nil_of_right_ne_nil _ (Text.ofNat_ne_nil _)
  have hvalue : Text.toNat (Text.padLeft (Text.ofNat (point - 1).natAbs) 2 '0') = (point - 1).natAbs := by
    rw [Text.padLeft, Text.toNat_append, Text.toNat_copies_zero, Nat.zero_mul, Nat.zero_add, Text.toNat_ofNat]
  have hread {sign : CodePoint} (hsign : sign = '-' ∨ sign = '+') :=
    magnitude?_exponent negative hd hdigits hsign hnil hexponent hrest
  have hplus : CodePoint.ofChar '+' ≠ '-' := by decide
  have hlength : ((d :: ds).length : Int) = ds.length + 1 := rfl
  rw [renderDecimal_of_far h, List.cons_append, List.append_assoc, List.cons_append, List.cons_append, hlength]
  by_cases hneg : point - 1 < 0
  · have hvalue' : -((point - 1).natAbs : Int) - ds.length = point - (ds.length + 1) := by omega
    rw [if_pos hneg, hread (.inl rfl), if_pos rfl, hvalue, hvalue']
  · have hvalue' : ((point - 1).natAbs : Int) - ds.length = point - (ds.length + 1) := by omega
    rw [if_neg hneg, hread (.inr rfl), if_neg hplus, hvalue, hvalue']

end

/-- **A decimal is read back**, however it is written. -/
theorem magnitude?_renderDecimal {digits : Nat} {rest : Text} (negative : Bool) (hdigits : digits ≠ 0) (exponent : Int)
    (hrest : EndsNumber rest) :
    magnitude? negative (renderDecimal (Text.ofNat digits) ((Text.ofNat digits).length + exponent) ++ rest) =
      some (.float (.ofDecimal negative digits exponent), rest) := by
  have hall : ∀ c ∈ Text.ofNat digits, c.isDigit = true := fun c => Text.isDigit_of_mem_ofNat
  have hne := Text.ofNat_ne_nil digits
  have hhead : (Text.ofNat digits).head? ≠ some (CodePoint.ofChar '0') := fun h => hdigits (Text.eq_zero_of_head? h)
  have hread : magnitude? negative (renderDecimal (Text.ofNat digits) ((Text.ofNat digits).length + exponent) ++ rest) =
      some (.float (.ofDecimal negative (Text.toNat (Text.ofNat digits))
        ((Text.ofNat digits).length + exponent - (Text.ofNat digits).length)), rest) := by
    generalize (Text.ofNat digits).length + exponent = point
    by_cases hfar : point ≤ -4 ∨ 16 < point
    · exact magnitude?_far negative hne hall hrest hfar
    · obtain ⟨m, rfl | rfl⟩ := point.eq_nat_or_neg
      · by_cases hzero : m = 0
        · rw [hzero]
          exact magnitude?_behind negative hne hall hrest (m := 0) (by decide)
        · by_cases hlength : (Text.ofNat digits).length ≤ m
          · exact magnitude?_before negative hne hall hrest hhead hlength (by omega)
          · exact magnitude?_around negative hne hall hrest hhead hzero (by omega) (by omega)
      · exact magnitude?_behind negative hne hall hrest (by omega)
  rwa [add_sub_cancel_left, Text.toNat_ofNat] at hread

/-! ## Floating point numbers -/

theorem spells_infinity (negative : Bool) :
    Spells (.float (.infinity negative)) ((if negative then "-" else [] : Text) ++ numberNames.infinity) := by
  cases negative with
  | false => exact ⟨⟨_, _, rfl, by decide⟩, fun rest _ => by cases rest <;> rfl⟩
  | true => exact ⟨⟨_, _, rfl, by decide⟩, fun rest _ => by cases rest <;> rfl⟩

theorem spells_zero (negative : Bool) :
    Spells (.float (.zero negative)) ((if negative then "-" else [] : Text) ++ "0.0") := by
  have hdigits : ∀ c ∈ Text.ofString "0", c.isDigit = true := by decide
  refine spells_magnitude _ fun rest hrest => ?_
  exact magnitude?_point negative (.inl rfl) (List.cons_ne_nil _ _) hdigits hrest

/-- **A floating point number is read back.** -/
theorem spells_float {x : Binary64} (hx : x.Canonical) : Spells (.float x) (x.render numberNames) := by
  unfold render
  extract_lets sign d digits
  split_ifs with hnan hspecial hzero
  · rw [hx hnan]
    exact ⟨⟨_, _, rfl, by decide⟩, fun rest _ => by cases rest <;> rfl⟩
  · have hspells := spells_infinity x.negative
    rwa [← eq_infinity_of_isSpecial hspecial (Bool.eq_false_iff.2 hnan)] at hspells
  · have hspells := spells_zero x.negative
    rwa [← eq_zero_of_isZero hzero] at hspells
  · rw [Bool.not_eq_true] at hspecial hzero
    have hreads : d.Reads x := (reads_shortest hspecial hzero).trim 800
    have hdigits : d.digits ≠ 0 := hreads.digits_ne_zero hzero
    refine spells_magnitude _ fun rest hrest => ?_
    rw [magnitude?_renderDecimal x.negative hdigits d.exponent hrest, hreads]

end Json

end ContractBuild
