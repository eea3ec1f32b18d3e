import ContractBuild.Json.Parser
import ContractBuild.Json.Printer
import ContractBuild.Proofs.Utf8
import Mathlib.Data.List.Chain

/-!
# A text is read back from between its quotes

A code point is written as it is, or as an escape. What is read back from it does not depend on what follows, with one
exception: the first half of a surrogate pair may not come before an escape of a second half, which would be taken for
the rest of the pair. So a text is read back unless it has both halves of a pair side by side (`Text.Unpaired`).

* `stringBody_point`: a code point is read back.
* `stringBody_flatMap_point`: a text is read back.
* `visible_string`: what is written has no line end in it, and no surrogate when the text has none.
-/

namespace ContractBuild

/-- A text in which no first half of a surrogate pair stands before a second half. -/
def Text.Unpaired (t : Text) : Prop := t.IsChain fun c d => ¬ (c.isHighSurrogate = true ∧ d.isLowSurrogate = true)

/-- A text without surrogates has no pair. -/
theorem Text.unpaired_of_isScalar {t : Text} (h : t.isScalar = true) : t.Unpaired := by
  induction t with
  | nil => exact .nil
  | cons c t ih =>
    rw [isScalar, List.all_cons, Bool.and_eq_true, Bool.not_eq_true'] at h
    refine List.isChain_cons.2 ⟨fun d _ hpair => ?_, ih h.2⟩
    simp only [CodePoint.isSurrogate, CodePoint.isHighSurrogate, Bool.and_eq_true, Bool.and_eq_false_iff,
      decide_eq_true_eq, decide_eq_false_iff_not] at h hpair
    omega

namespace Json

/-! ## Hexadecimal digits -/

/-- A hexadecimal digit. -/
def hexDigit (n : Nat) : CodePoint := Nat.digitChar n

theorem hexValue?_hexDigit {n : Nat} (h : n < 0x10) : (hexDigit n).hexValue? = some n := by
  have hall : ∀ n < 0x10, (hexDigit n).hexValue? = some n := by decide
  exact hall n h

/-- The last of the digits stands behind those of the sixteenth part. -/
theorem padLeft_toDigits (n k : Nat) :
    Text.padLeft (Text.ofChars (Nat.toDigits 16 n)) (k + 2) '0' =
      Text.padLeft (Text.ofChars (Nat.toDigits 16 (n / 0x10))) (k + 1) '0' ++ [hexDigit (n % 0x10)] := by
  by_cases hn : n < 0x10
  · have hdiv : n / 0x10 = 0 := by omega
    have hmod : n % 0x10 = n := by omega
    rw [hdiv, hmod, Nat.toDigits_of_lt_base hn, Nat.toDigits_zero]
    simp [Text.padLeft, Text.copies, Text.ofChars, hexDigit, List.replicate_succ']
  · rw [Nat.toDigits_of_base_le (by decide) (by omega)]
    simp [Text.padLeft, Text.copies, Text.ofChars, hexDigit]

/-- An escape has four digits. -/
theorem hexEscape_eq {n : Nat} (h : n < 0x10000) :
    hexEscape n = ('\\' :: 'u' :: hexDigit (n / 0x1000) :: hexDigit (n / 0x100 % 0x10) :: hexDigit (n / 0x10 % 0x10) ::
      [hexDigit (n % 0x10)] : Text) := by
  have hfirst : n / 0x10 / 0x10 / 0x10 = n / 0x1000 := by omega
  have hsecond : n / 0x10 / 0x10 = n / 0x100 := by omega
  rw [hexEscape, padLeft_toDigits n 2, padLeft_toDigits _ 1, padLeft_toDigits _ 0, hfirst, hsecond,
    Nat.toDigits_of_lt_base (by omega)]
  rfl

/-- The digits of an escape are read back. -/
theorem hexPoint?_hexDigit {n : Nat} (h : n < 0x10000) :
    hexPoint? (hexDigit (n / 0x1000)) (hexDigit (n / 0x100 % 0x10)) (hexDigit (n / 0x10 % 0x10)) (hexDigit (n % 0x10)) =
      some (CodePoint.ofNat n) := by
  have hn : ((n / 0x1000 * 16 + n / 0x100 % 0x10) * 16 + n / 0x10 % 0x10) * 16 + n % 0x10 = n := by omega
  have hdigit (k : Nat) : (hexDigit (k % 0x10)).hexValue? = some (k % 0x10) :=
    hexValue?_hexDigit (Nat.mod_lt k (by decide))
  simp only [hexPoint?, hexValue?_hexDigit (show n / 0x1000 < 0x10 by omega), hdigit, Option.bind_eq_bind,
    Option.bind_some, hn]
  rfl

/-! ## Reading one code point -/

theorem stringBody_raw {c : CodePoint} (hquote : c ≠ '"') (hescape : c ≠ '\\') (hcontrol : 0x20 ≤ c.val) (t : Text) :
    stringBody (c :: t) = (stringBody t).map fun r => (c :: r.1, r.2) := by
  rw [stringBody.eq_def]
  simp only [hquote, hescape, Nat.not_lt.2 hcontrol, if_false]

theorem stringBody_letter {l c : CodePoint} (hl : l ≠ 'u') (h : escaped? l = some c) (t : Text) :
    stringBody ('\\' :: l :: t) = (stringBody t).map fun r => (c :: r.1, r.2) := by
  have hquote : CodePoint.ofChar '\\' ≠ '"' := by decide
  rw [stringBody.eq_def]
  simp only [hquote, hl, h, if_false, if_true]

/-- A text that does not start with an escape of the second half of a surrogate pair. -/
def NoLowEscape (t : Text) : Prop :=
  ∀ (a b c d : CodePoint) (rest : Text), t = ('\\' :: 'u' :: a :: b :: c :: d :: rest : Text) →
    ∃ p, hexPoint? a b c d = some p ∧ p.isLowSurrogate = false

theorem stringBody_hexEscape {n : Nat} (hn : n < 0x10000) {t : Text}
    (h : (CodePoint.ofNat n).isHighSurrogate = true → NoLowEscape t) :
    stringBody (hexEscape n ++ t) = (stringBody t).map fun r => (CodePoint.ofNat n :: r.1, r.2) := by
  have hquote : CodePoint.ofChar '\\' ≠ '"' := by decide
  rw [hexEscape_eq hn]
  simp only [List.cons_append, List.nil_append]
  rw [stringBody.eq_def]
  simp only [hquote, if_false, if_true, hexPoint?_hexDigit hn]
  split
  · rename_i s u a b c d rest
    split
    · rename_i hcond
      simp only [Bool.and_eq_true, decide_eq_true_eq] at hcond
      obtain ⟨⟨hhigh, rfl⟩, rfl⟩ := hcond
      obtain ⟨p, hp, hlow⟩ := h hhigh a b c d rest rfl
      simp [hp, hlow]
    · rfl
  · rfl

/-- The two halves of a surrogate pair are read together. -/
theorem stringBody_pair {high low : Nat} (hhigh : 0xD800 ≤ high) (hhigh' : high < 0xDC00) (hlow : 0xDC00 ≤ low)
    (hlow' : low < 0xE000) (t : Text) :
    stringBody (hexEscape high ++ (hexEscape low ++ t)) =
      (stringBody t).map fun r => (CodePoint.ofSurrogates (.ofNat high) (.ofNat low) :: r.1, r.2) := by
  have hquote : CodePoint.ofChar '\\' ≠ '"' := by decide
  have hval : (CodePoint.ofNat high).val = high := CodePoint.val_ofNat (by omega)
  have hval' : (CodePoint.ofNat low).val = low := CodePoint.val_ofNat (by omega)
  have hfirst : (CodePoint.ofNat high).isHighSurrogate = true := by
    simp [CodePoint.isHighSurrogate, hval, hhigh, hhigh']
  have hsecond : (CodePoint.ofNat low).isLowSurrogate = true := by
    simp [CodePoint.isLowSurrogate, hval', hlow, hlow']
  rw [hexEscape_eq (by omega), hexEscape_eq (by omega)]
  simp only [List.cons_append, List.nil_append]
  rw [stringBody.eq_def]
  simp only [hquote, if_false, if_true, hexPoint?_hexDigit (show high < 0x10000 by omega),
    hexPoint?_hexDigit (show low < 0x10000 by omega), hfirst, hsecond, decide_true, Bool.and_self]

/-! ## Writing one code point -/

theorem letterEscape?_eq_some {c : CodePoint} {e : Text} (h : letterEscape? c = some e) :
    ∃ l, e = ('\\' :: [l] : Text) ∧ l ≠ 'u' ∧ escaped? l = some c := by
  unfold letterEscape? at h
  split_ifs at h with h1 h2 h3 h4 h5 h6 h7
  · subst h1
    cases h
    exact ⟨'"', rfl, by decide, by decide⟩
  · subst h2
    cases h
    exact ⟨'\\', rfl, by decide, by decide⟩
  · subst h3
    cases h
    exact ⟨'n', rfl, by decide, by decide⟩
  · subst h4
    cases h
    exact ⟨'r', rfl, by decide, by decide⟩
  · subst h5
    cases h
    exact ⟨'t', rfl, by decide, by decide⟩
  · obtain rfl : c = CodePoint.ofNat 0x0C := CodePoint.ext h6
    cases h
    exact ⟨'f', rfl, by decide, by decide⟩
  · obtain rfl : c = CodePoint.ofNat 0x08 := CodePoint.ext h7
    cases h
    exact ⟨'b', rfl, by decide, by decide⟩

theorem ne_of_letterEscape?_eq_none {c : CodePoint} (h : letterEscape? c = none) : c ≠ '"' ∧ c ≠ '\\' := by
  constructor
  · rintro rfl
    revert h
    decide
  · rintro rfl
    revert h
    decide

/-- How a code point is written. -/
inductive Written (asciiOnly : Bool) (c : CodePoint) : Text → Prop
  | letter {l : CodePoint} (notHex : l ≠ 'u') (value : escaped? l = some c) : Written asciiOnly c ('\\' :: [l])
  | itself (quote : c ≠ '"') (escape : c ≠ '\\') (control : 0x20 ≤ c.val) (ascii : asciiOnly = true → c.val < 0x7F) :
      Written asciiOnly c [c]
  | hex (small : c.val < 0x10000) : Written asciiOnly c (hexEscape c.val)
  | pair (large : 0x10000 ≤ c.val) :
      Written asciiOnly c (hexEscape (0xD800 + (c.val - 0x10000) / 0x400) ++
        hexEscape (0xDC00 + (c.val - 0x10000) % 0x400))

/-- A code point is written in one of these ways. -/
theorem written_point (asciiOnly : Bool) (c : CodePoint) : Written asciiOnly c (point asciiOnly c) := by
  unfold point
  split
  · rename_i e h
    obtain ⟨l, rfl, hl, hvalue⟩ := letterEscape?_eq_some h
    exact .letter hl hvalue
  · rename_i h
    obtain ⟨hquote, hescape⟩ := ne_of_letterEscape?_eq_none h
    split_ifs with hcontrol hitself hsmall
    · exact .hex (by omega)
    · rw [Bool.or_eq_true, decide_eq_true_eq, Bool.not_eq_true'] at hitself
      exact .itself hquote hescape (by omega) fun ha => hitself.resolve_right (by simp [ha])
    · exact .hex hsmall
    · exact .pair (by omega)

/-- **A code point is read back**, whatever follows it. -/
theorem stringBody_point (asciiOnly : Bool) (c : CodePoint) {t : Text} (h : c.isHighSurrogate = true → NoLowEscape t) :
    stringBody (point asciiOnly c ++ t) = (stringBody t).map fun r => (c :: r.1, r.2) := by
  have hmax := c.isLt
  have hwritten := written_point asciiOnly c
  generalize point asciiOnly c = w at hwritten ⊢
  cases hwritten with
  | letter notHex value => exact stringBody_letter notHex value t
  | itself quote escape control => exact stringBody_raw quote escape control t
  | hex small =>
    have hread := stringBody_hexEscape (n := c.val) small (t := t)
    rw [c.ofNat_val] at hread
    exact hread h
  | pair large =>
    have hc : CodePoint.ofSurrogates (.ofNat (0xD800 + (c.val - 0x10000) / 0x400))
        (.ofNat (0xDC00 + (c.val - 0x10000) % 0x400)) = c := by
      rw [CodePoint.ofSurrogates, CodePoint.val_ofNat (by omega), CodePoint.val_ofNat (by omega)]
      have hn : 0x10000 + (0xD800 + (c.val - 0x10000) / 0x400 - 0xD800) * 0x400 +
          (0xDC00 + (c.val - 0x10000) % 0x400 - 0xDC00) = c.val := by omega
      rw [hn, c.ofNat_val]
    rw [List.append_assoc, stringBody_pair (by omega) (by omega) (by omega) (by omega), hc]

/-- What is written of a code point does not start with an escape of a second half, unless it is one. -/
theorem noLowEscape_point (asciiOnly : Bool) {c : CodePoint} (h : c.isLowSurrogate = false) (t : Text) :
    NoLowEscape (point asciiOnly c ++ t) := by
  have hmax := c.isLt
  have hwritten := written_point asciiOnly c
  generalize point asciiOnly c = w at hwritten ⊢
  intro p q r s rest heq
  cases hwritten with
  | letter notHex value =>
    simp only [List.cons_append, List.cons.injEq] at heq
    exact absurd heq.2.1 notHex
  | itself quote escape control =>
    simp only [List.cons_append, List.cons.injEq] at heq
    exact absurd heq.1 escape
  | hex small =>
    rw [hexEscape_eq small] at heq
    simp only [List.cons_append, List.cons.injEq, true_and] at heq
    obtain ⟨rfl, rfl, rfl, rfl, -⟩ := heq
    exact ⟨_, hexPoint?_hexDigit small, by rw [c.ofNat_val]; exact h⟩
  | pair large =>
    have hsmall : 0xD800 + (c.val - 0x10000) / 0x400 < 0x10000 := by omega
    rw [hexEscape_eq hsmall] at heq
    simp only [List.cons_append, List.cons.injEq, true_and] at heq
    obtain ⟨rfl, rfl, rfl, rfl, -⟩ := heq
    refine ⟨_, hexPoint?_hexDigit hsmall, ?_⟩
    rw [CodePoint.isLowSurrogate, CodePoint.val_ofNat (by omega)]
    simp
    omega

/-! ## Texts -/

/-- A closing quote ends the text. -/
theorem stringBody_quote (rest : Text) : stringBody ('"' :: rest) = some ([], rest) := by
  rw [stringBody.eq_def]
  rfl

/-- **A text is read back**, up to its closing quote. -/
theorem stringBody_flatMap_point (asciiOnly : Bool) {t : Text} (h : t.Unpaired) (rest : Text) :
    stringBody (t.flatMap (point asciiOnly) ++ ('"' :: rest : Text)) = some (t, rest) := by
  induction t with
  | nil => exact stringBody_quote rest
  | cons c t ih =>
    obtain ⟨hnext, htail⟩ := List.isChain_cons.1 h
    have hrest : c.isHighSurrogate = true → NoLowEscape (t.flatMap (point asciiOnly) ++ ('"' :: rest : Text)) := by
      intro hhigh
      cases t with
      | nil => intro p q r s u heq; cases heq
      | cons d t =>
        have hlow : d.isLowSurrogate = false := Bool.eq_false_iff.2 fun hd => hnext d rfl ⟨hhigh, hd⟩
        rw [List.flatMap_cons, List.append_assoc]
        exact noLowEscape_point asciiOnly hlow _
    rw [List.flatMap_cons, List.append_assoc, stringBody_point asciiOnly c hrest, ih htail]
    rfl

/-- A code point that may stand on a line: no control, and no surrogate. -/
def Visible (c : CodePoint) : Prop := 0x20 ≤ c.val ∧ c.isSurrogate = false

instance (c : CodePoint) : Decidable (Visible c) := inferInstanceAs (Decidable (_ ∧ _))

theorem visible_hexDigit {n : Nat} (h : n < 0x10) : Visible (hexDigit n) := by
  have hall : ∀ n < 0x10, Visible (hexDigit n) := by decide
  exact hall n h

theorem visible_hexEscape {n : Nat} (h : n < 0x10000) : ∀ e ∈ hexEscape n, Visible e := by
  have hbackslash : Visible '\\' := by decide
  have hletter : Visible 'u' := by decide
  rw [hexEscape_eq h]
  simp only [List.forall_mem_cons]
  exact ⟨hbackslash, hletter, visible_hexDigit (by omega), visible_hexDigit (by omega), visible_hexDigit (by omega),
    visible_hexDigit (by omega), List.forall_mem_nil _⟩

theorem visible_of_escaped? {l c : CodePoint} (h : escaped? l = some c) : Visible l := by
  unfold escaped? at h
  split_ifs at h with hself hb hf hn hr ht
  · simp only [Bool.or_eq_true, decide_eq_true_eq] at hself
    rcases hself with (rfl | rfl) | rfl <;> decide
  · rw [hb]; decide
  · rw [hf]; decide
  · rw [hn]; decide
  · rw [hr]; decide
  · rw [ht]; decide

/-- A text without surrogates is written on one line, and without them. -/
theorem visible_string (asciiOnly : Bool) {t : Text} (h : t.isScalar = true) : ∀ e ∈ string asciiOnly t, Visible e := by
  have hquote : Visible '"' := by decide
  have hpoint : ∀ e ∈ t.flatMap (point asciiOnly), Visible e := by
    intro e he
    obtain ⟨c, hc, he⟩ := List.mem_flatMap.1 he
    have hmax := c.isLt
    have hscalar : c.isSurrogate = false := by simpa using List.all_eq_true.1 h c hc
    have hwritten := written_point asciiOnly c
    generalize point asciiOnly c = w at hwritten he
    cases hwritten with
    | letter notHex value =>
      have hbackslash : Visible '\\' := by decide
      rcases List.mem_cons.1 he with rfl | he
      · exact hbackslash
      · rw [List.mem_singleton.1 he]
        exact visible_of_escaped? value
    | itself quote escape control =>
      rw [List.mem_singleton.1 he]
      exact ⟨control, hscalar⟩
    | hex small => exact visible_hexEscape small e he
    | pair large =>
      rcases List.mem_append.1 he with he | he
      · exact visible_hexEscape (by omega) e he
      · exact visible_hexEscape (by omega) e he
  have hquotes : ∀ e ∈ Text.ofString "\"", Visible e := by decide
  intro e he
  rw [string] at he
  rcases List.mem_append.1 he with he | he
  · rcases List.mem_append.1 he with he | he
    · exact hquotes e he
    · exact hpoint e he
  · exact hquotes e he

end Json

end ContractBuild
