import ContractBuild.Json.Parser
import ContractBuild.Json.Printer
import ContractBuild.Proofs.Affixes
import Mathlib.Algebra.Group.Nat.Defs
import Mathlib.Data.List.Basic
import Mathlib.Data.List.TakeDrop

/-!
# Literals and integers are read back

A literal is read back whatever follows it. An integer is read back when what follows does not go on with the number
(`EndsNumber`): a digit would, and so would a point or an exponent. An integer is written without leading zeros, which
the reader would take for a number of their own.

* `Text.toNat_ofNat`: the digits of a number are read back.
* `Spells`: a text that is read as a literal or a number, in every place where one may stand. `spells_null`,
  `spells_bool` and `spells_int` are the cases, the last one by `spells_magnitude`, for any number behind its sign.
-/

namespace ContractBuild

/-! ## Digits -/

namespace Text

theorem isDigit_of_mem_ofNat {n : Nat} {c : CodePoint} (h : c ∈ ofNat n) : c.isDigit = true := by
  obtain ⟨d, hd, rfl⟩ := List.mem_map.1 h
  have hdigit : d.isDigit = true := Nat.isDigit_of_mem_toDigits (by decide) (by decide) hd
  rw [Char.isDigit, Bool.and_eq_true, decide_eq_true_eq, decide_eq_true_eq] at hdigit
  rw [CodePoint.isDigit, Bool.and_eq_true, decide_eq_true_eq, decide_eq_true_eq]
  exact ⟨UInt32.le_iff_toNat_le.1 hdigit.1, UInt32.le_iff_toNat_le.1 hdigit.2⟩

theorem ofNat_ne_nil (n : Nat) : ofNat n ≠ [] := fun h => Nat.toDigits_ne_nil (List.map_eq_nil_iff.1 h)

/-- The digits of a number are read back. -/
theorem toNat_ofNat (n : Nat) : toNat (ofNat n) = n := by
  have hfold (cs : List Char) (k : Nat) :
      (ofChars cs).foldl (fun n c => n * 10 + c.digitValue) k = Nat.ofDigitChars 10 cs k := by
    induction cs generalizing k with
    | nil => rfl
    | cons c cs ih =>
      rw [Nat.ofDigitChars_cons, Nat.mul_comm]
      exact ih _
  rw [toNat, foldDigits, ofNat, hfold, Nat.ofDigitChars_ten_toDigits]

theorem toNat_append (t u : Text) : toNat (t ++ u) = toNat t * 10 ^ u.length + toNat u := by
  induction u using List.reverseRecOn with
  | nil => simp [toNat, foldDigits]
  | append_singleton u c ih =>
    have hlast (t : Text) : toNat (t ++ [c]) = toNat t * 10 + c.digitValue := by simp [toNat, foldDigits]
    rw [← List.append_assoc, hlast, hlast, ih, List.length_append, List.length_singleton, Nat.pow_succ, Nat.add_mul,
      Nat.mul_assoc, Nat.add_assoc]

theorem ofNat_of_lt {n : Nat} (h : n < 10) : ofNat n = [CodePoint.ofChar n.digitChar] := by
  rw [ofNat, Nat.toDigits_of_lt_base h]
  rfl

theorem ofNat_of_le {n : Nat} (h : 10 ≤ n) : ofNat n = ofNat (n / 10) ++ [CodePoint.ofChar (n % 10).digitChar] := by
  rw [ofNat, Nat.toDigits_of_base_le (by decide) h, ofChars, List.map_append]
  rfl

/-- A number that starts with a zero is zero. -/
theorem eq_zero_of_head? {n : Nat} (h : (ofNat n).head? = some (CodePoint.ofChar '0')) : n = 0 := by
  induction n using Nat.strongRecOn with
  | _ n ih =>
    by_cases hn : n < 10
    · have hall : ∀ n < 10, CodePoint.ofChar n.digitChar = '0' → n = 0 := by decide
      rw [ofNat_of_lt hn, List.head?_cons, Option.some.injEq] at h
      exact hall n hn h
    · rw [ofNat_of_le (by omega), List.head?_append_of_ne_nil _ (ofNat_ne_nil _)] at h
      have hdiv : n / 10 = 0 := ih (n / 10) (by omega) h
      omega

end Text

namespace Json

/-! ## Numbers -/

/-- A text that does not go on with a number. -/
def EndsNumber (t : Text) : Prop := ∀ c ∈ t.head?, c.isDigit = false ∧ c ≠ '.' ∧ c ≠ 'e' ∧ c ≠ 'E'

theorem spanDigits_append {ds rest : Text} (hds : ∀ c ∈ ds, c.isDigit = true)
    (hrest : ∀ c ∈ rest.head?, c.isDigit = false) : spanDigits (ds ++ rest) = (ds, rest) := by
  have htake : rest.takeWhile CodePoint.isDigit = [] := by
    cases rest with
    | nil => rfl
    | cons c rest => rw [List.takeWhile_cons, hrest c rfl]; rfl
  have hdrop : rest.dropWhile CodePoint.isDigit = rest := by
    cases rest with
    | nil => rfl
    | cons c rest => rw [List.dropWhile_cons, hrest c rfl]; rfl
  rw [spanDigits, List.span_eq_takeWhile_dropWhile, List.takeWhile_append_of_pos hds,
    List.dropWhile_append_of_pos hds, htake, hdrop, List.append_nil]

/-- The digits of an integer part: a zero stands alone. -/
def IsWhole (t : Text) : Prop := t = "0" ∨ t ≠ [] ∧ t.head? ≠ some (CodePoint.ofChar '0') ∧ ∀ c ∈ t, c.isDigit = true

theorem isWhole_ofNat (n : Nat) : IsWhole (Text.ofNat n) := by
  by_cases hzero : (Text.ofNat n).head? = some (CodePoint.ofChar '0')
  · rw [Text.eq_zero_of_head? hzero]
    exact .inl rfl
  · exact .inr ⟨Text.ofNat_ne_nil n, hzero, fun c => Text.isDigit_of_mem_ofNat⟩

theorem integerPart?_append {whole rest : Text} (h : IsWhole whole) (hrest : ∀ c ∈ rest.head?, c.isDigit = false) :
    integerPart? (whole ++ rest) = some (whole, rest) := by
  rcases h with rfl | ⟨hne, hhead, hdigits⟩
  · rfl
  · have hspan := spanDigits_append hdigits hrest
    obtain ⟨c, t, rfl⟩ := List.exists_cons_of_ne_nil hne
    have hc : c ≠ '0' := fun e => hhead (congrArg some e)
    rw [List.cons_append] at hspan ⊢
    rw [integerPart?, if_neg hc, if_pos (hdigits c List.mem_cons_self), hspan]

section

variable {rest : Text} (hrest : EndsNumber rest)
include hrest

theorem fractionPart?_of_endsNumber : fractionPart? rest = none := by
  cases rest with
  | nil => rfl
  | cons c rest => rw [fractionPart?, if_neg (hrest c rfl).2.1]

theorem exponentPart?_of_endsNumber : exponentPart? rest = none := by
  cases rest with
  | nil => rfl
  | cons c rest =>
    obtain ⟨-, -, he, hE⟩ := hrest c rfl
    simp [exponentPart?, he, hE]

/-- The digits of an integer are read back, with its sign. -/
theorem magnitude?_ofNat {n : Nat} (hn : (Text.ofNat n).length ≤ maxDigits) (negative : Bool) :
    magnitude? negative (Text.ofNat n ++ rest) = some (.int (if negative then -n else n), rest) := by
  have hwhole := integerPart?_append (isWhole_ofNat n) fun c hc => (hrest c hc).1
  simp [magnitude?, hwhole, fractionPart?_of_endsNumber hrest, exponentPart?_of_endsNumber hrest, Nat.not_lt.2 hn,
    Text.toNat_ofNat]

end

/-- What is read as a number starts with a digit. -/
theorem exists_digit_of_magnitude? {negative : Bool} {t : Text} {r : Value × Text} (h : magnitude? negative t = some r) :
    ∃ c u, t = c :: u ∧ c.isDigit = true := by
  cases t with
  | nil => cases h
  | cons c u =>
    refine ⟨c, u, rfl, ?_⟩
    by_contra hc
    have hzero : c ≠ '0' := by
      rintro rfl
      exact hc rfl
    rw [magnitude?, integerPart?, if_neg hzero, if_neg hc] at h
    cases h

/-! ## Scalars -/

/-- A text that is read as the value, a literal or a number, in all places where one may stand. What it starts with
opens nothing else. -/
structure Spells (v : Value) (t : Text) : Prop where
  opens : ∃ c rest, t = c :: rest ∧ isSpace c = false ∧ c ≠ '"' ∧ c ≠ '[' ∧ c ≠ ']' ∧ c ≠ '\x7b'
  scalar : ∀ rest, EndsNumber rest → scalar? (t ++ rest) = some (v, rest)

theorem spells_null : Spells .null "null" :=
  ⟨⟨_, _, rfl, by decide⟩, fun rest _ => by cases rest <;> rfl⟩

theorem spells_bool (b : Bool) : Spells (.bool b) (if b then "true" else "false" : Text) := by
  cases b with
  | true => exact ⟨⟨_, _, rfl, by decide⟩, fun rest _ => by cases rest <;> rfl⟩
  | false => exact ⟨⟨_, _, rfl, by decide⟩, fun rest _ => by cases rest <;> rfl⟩

/-- A text with a digit at its first or second place starts with no literal. -/
theorem dropPrefix?_literal {u t : Text} {c : CodePoint} (hu : u.length < 2) (hc : c.isDigit = true) :
    ∀ l ∈ literals, Text.dropPrefix? (u ++ c :: t) l.1 = none := by
  intro l hl
  have hlength : ∀ l ∈ literals, 2 ≤ l.1.length := by decide
  have hdigits : ∀ l ∈ literals, ∀ d ∈ l.1, d.isDigit = false := by decide
  rw [Option.eq_none_iff_forall_ne_some]
  intro rest hrest
  have heq := Text.dropPrefix?_eq_some hrest
  have hlt : u.length < l.1.length := Nat.lt_of_lt_of_le hu (hlength l hl)
  have hmem : c ∈ l.1 := by
    have hget : (u ++ c :: t)[u.length]? = some c := by simp
    rw [heq, List.getElem?_append_left hlt] at hget
    exact List.mem_of_getElem? hget
  rw [hdigits l hl c hmem] at hc
  cases hc

theorem scalar?_of_no_literal {c : CodePoint} {t : Text} (h : ∀ l ∈ literals, Text.dropPrefix? (c :: t) l.1 = none) :
    scalar? (c :: t) = if c = '-' then magnitude? true t else magnitude? false (c :: t) := by
  have hnone : (literals.findSome? fun l => (Text.dropPrefix? (c :: t) l.1).map fun rest => (l.2, rest)) = none :=
    List.findSome?_eq_none_iff.2 fun l hl => by rw [h l hl]; rfl
  unfold scalar?
  rw [hnone]

/-- A digit opens nothing but a number. -/
theorem ne_of_isDigit {c d : CodePoint} (hc : c.isDigit = true) (hd : d.isDigit = false) : c ≠ d := by
  rintro rfl
  rw [hc] at hd
  cases hd

/-- A text that is read as a number whatever follows it is one behind its sign. -/
theorem spells_magnitude (negative : Bool) {t : Text} {v : Value}
    (h : ∀ rest, EndsNumber rest → magnitude? negative (t ++ rest) = some (v, rest)) :
    Spells v ((if negative then "-" else [] : Text) ++ t) := by
  obtain ⟨c, u, rfl, hc⟩ : ∃ c u, t = c :: u ∧ c.isDigit = true := by
    have hread := h [] nofun
    rw [List.append_nil] at hread
    exact exists_digit_of_magnitude? hread
  cases negative with
  | false =>
    have hspace : isSpace c = false := by
      simp only [CodePoint.isDigit, Bool.and_eq_true, decide_eq_true_eq] at hc
      simp [isSpace]
      omega
    refine ⟨⟨c, u, rfl, hspace, ne_of_isDigit hc (by decide), ne_of_isDigit hc (by decide), ne_of_isDigit hc (by decide),
      ne_of_isDigit hc (by decide)⟩, fun rest hrest => ?_⟩
    have hliteral := dropPrefix?_literal (u := []) (t := u ++ rest) (by decide) hc
    have hread := h rest hrest
    rw [List.cons_append] at hread
    have htext : (if false then "-" else [] : Text) ++ (c :: u) ++ rest = c :: (u ++ rest) := rfl
    rw [htext, scalar?_of_no_literal hliteral, if_neg (ne_of_isDigit hc (by decide)), hread]
  | true =>
    refine ⟨⟨'-', c :: u, rfl, by decide⟩, fun rest hrest => ?_⟩
    have hliteral := dropPrefix?_literal (u := (['-'] : Text)) (t := u ++ rest) (by decide) hc
    rw [List.singleton_append] at hliteral
    have htext : (if true then "-" else [] : Text) ++ (c :: u) ++ rest = ('-' :: (c :: (u ++ rest)) : Text) := rfl
    rw [htext, scalar?_of_no_literal hliteral, if_pos rfl, ← List.cons_append, h rest hrest]

/-- **An integer is read back.** -/
theorem spells_int {n : Int} (hn : (Text.ofNat n.natAbs).length ≤ maxDigits) : Spells (.int n) (Text.ofInt n) := by
  cases n with
  | ofNat n => exact spells_magnitude false fun rest hrest => magnitude?_ofNat hrest hn false
  | negSucc n => exact spells_magnitude true fun rest hrest => magnitude?_ofNat hrest hn true

end Json

end ContractBuild
