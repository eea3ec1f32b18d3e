import ContractBuild.Proofs.Json.Float
import ContractBuild.Proofs.Json.RoundTrip
import Mathlib.Data.List.TakeWhile

/-!
# What the reader gives can be printed

A document without surrogates of its own can hold them in escapes only. The reader takes the two halves of a pair
together, so the texts that it gives have no pair of halves in them; its numbers have few enough digits, or are the ones
that decimals are read as; and a map has every key once. So what is read can be printed, and is read back.

* `Quoted`, `ReadsValue`, `ReadsItems`, `ReadsBindings`: what the reader does, one rule for each way of writing.
* `Quoted.unpaired`: a text that is read has no surrogate pair.
* `printable_of_parse`: a value that is read can be printed.
* `Printable.parse_print_append`: a value that can be printed is read back.
-/

namespace ContractBuild

namespace Text

/-! ## Digits -/

/-- Digits write a number that is smaller than the power of ten with so many zeros. -/
theorem toNat_lt {t : Text} (h : ∀ c ∈ t, c.isDigit = true) : toNat t < 10 ^ t.length := by
  induction t using List.reverseRecOn with
  | nil => exact Nat.one_pos
  | append_singleton t c ih =>
    have hrest : toNat t < 10 ^ t.length := ih fun d hd => h d (List.mem_append_left [c] hd)
    have hc : c.isDigit = true := h c (List.mem_append_right t List.mem_cons_self)
    have hvalue : toNat [c] < 10 := by
      simp only [CodePoint.isDigit, Bool.and_eq_true, decide_eq_true_eq] at hc
      simp only [toNat, foldDigits, List.foldl_cons, List.foldl_nil, CodePoint.digitValue]
      omega
    rw [toNat_append, List.length_append, List.length_singleton, Nat.pow_succ 10 t.length, Nat.pow_one]
    omega

/-- A number smaller than a power of ten has no more digits than it has zeros. -/
theorem length_ofNat_le {n k : Nat} (hk : 0 < k) (h : n < 10 ^ k) : (ofNat n).length ≤ k := by
  rw [ofNat, ofChars, List.length_map]
  exact (Nat.length_toDigits_le_iff (by decide) hk).2 h

end Text

namespace Json

/-! ## Surrogates -/

theorem isSurrogate_eq (c : CodePoint) : c.isSurrogate = (c.isHighSurrogate || c.isLowSurrogate) := by
  rw [Bool.eq_iff_iff]
  simp only [CodePoint.isSurrogate, CodePoint.isHighSurrogate, CodePoint.isLowSurrogate, Bool.or_eq_true,
    Bool.and_eq_true, decide_eq_true_eq]
  omega

theorem isSurrogate_of_escaped? {l c : CodePoint} (h : escaped? l = some c) : c.isSurrogate = false := by
  unfold escaped? at h
  split_ifs at h with hself
  · simp only [Bool.or_eq_true, decide_eq_true_eq] at hself
    cases h
    rcases hself with (rfl | rfl) | rfl <;> decide
  all_goals
    cases h
    decide

/-- A pair of surrogates stands for none. -/
theorem isSurrogate_ofSurrogates {high low : CodePoint} (hhigh : high.isHighSurrogate = true)
    (hlow : low.isLowSurrogate = true) : (CodePoint.ofSurrogates high low).isSurrogate = false := by
  simp only [CodePoint.isHighSurrogate, CodePoint.isLowSurrogate, Bool.and_eq_true, decide_eq_true_eq] at hhigh hlow
  rw [CodePoint.ofSurrogates, CodePoint.isSurrogate, CodePoint.val_ofNat (by omega), Bool.and_eq_false_iff,
    decide_eq_false_iff_not, decide_eq_false_iff_not]
  omega

/-- A code point that is no surrogate may stand before any text. -/
theorem unpaired_cons {c : CodePoint} {t : Text} (hc : c.isSurrogate = false) (ht : t.Unpaired) :
    Text.Unpaired (c :: t) := by
  rw [isSurrogate_eq, Bool.or_eq_false_iff] at hc
  exact List.isChain_cons.2 ⟨fun d _ hpair => Bool.false_ne_true (hc.1.symm.trans hpair.1), ht⟩

/-! ## Texts in quotes -/

/-- What is read up to a closing quote, and what follows it: one rule for each way of writing a code point. The first
half of a surrogate pair is read alone only where no escape of a second half follows. -/
inductive Quoted : (written t rest : Text) → Prop
  | close {rest : Text} : Quoted ('"' :: rest) [] rest
  | raw {c : CodePoint} {w t rest : Text} (quote : c ≠ '"') (escape : c ≠ '\\') (tail : Quoted w t rest) :
      Quoted (c :: w) (c :: t) rest
  | letter {l c : CodePoint} {w t rest : Text} (notHex : l ≠ 'u') (value : escaped? l = some c)
      (tail : Quoted w t rest) : Quoted ('\\' :: l :: w) (c :: t) rest
  | hex {a b c d p : CodePoint} {w t rest : Text} (value : hexPoint? a b c d = some p)
      (alone : p.isHighSurrogate = true → NoLowEscape w) (tail : Quoted w t rest) :
      Quoted ('\\' :: 'u' :: a :: b :: c :: d :: w) (p :: t) rest
  | pair {a b c d a' b' c' d' high low : CodePoint} {w t rest : Text} (first : hexPoint? a b c d = some high)
      (second : hexPoint? a' b' c' d' = some low) (isHigh : high.isHighSurrogate = true)
      (isLow : low.isLowSurrogate = true) (tail : Quoted w t rest) :
      Quoted ('\\' :: 'u' :: a :: b :: c :: d :: '\\' :: 'u' :: a' :: b' :: c' :: d' :: w)
        (.ofSurrogates high low :: t) rest

/-- What is read is what these rules give. -/
theorem quoted_of_stringBody {w t rest : Text} (h : stringBody w = some (t, rest)) : Quoted w t rest := by
  have hmap {w : Text} {p : CodePoint} {t rest : Text}
      (h : (stringBody w).map (fun r => (p :: r.1, r.2)) = some (t, rest)) :
      ∃ t', stringBody w = some (t', rest) ∧ t = p :: t' := by
    obtain ⟨⟨t', rest'⟩, hr, heq⟩ := Option.map_eq_some_iff.1 h
    cases heq
    exact ⟨t', hr, rfl⟩
  fun_induction stringBody w generalizing t rest with
  | case1 | case3 | case4 | case5 | case10 | case11 | case13 => cases h
  | case2 => cases h; exact .close
  | case6 a b c d high hhigh s u a' b' c' d' w hcond low hlow hisLow _ ih =>
    simp only [Bool.and_eq_true, decide_eq_true_eq] at hcond
    obtain ⟨⟨hisHigh, rfl⟩, rfl⟩ := hcond
    obtain ⟨t', ht', rfl⟩ := hmap h
    exact .pair hhigh hlow hisHigh hisLow (ih ht')
  | case7 a b c d high hhigh s u a' b' c' d' w hcond low hlow hisLow _ ih =>
    obtain ⟨t', ht', rfl⟩ := hmap h
    refine .hex hhigh (fun _ p q r s' rest' heq => ⟨low, ?_, Bool.eq_false_iff.2 hisLow⟩) (ih ht')
    simp only [List.cons.injEq] at heq
    obtain ⟨-, -, rfl, rfl, rfl, rfl, -⟩ := heq
    exact hlow
  | case8 a b c d p hp s u a' b' c' d' w hcond _ ih =>
    obtain ⟨t', ht', rfl⟩ := hmap h
    refine .hex hp (fun hhigh p' q r s' rest' heq => absurd ?_ hcond) (ih ht')
    simp only [List.cons.injEq] at heq
    rw [hhigh, heq.1, heq.2.1]
    rfl
  | case9 a b c d p hp w hshort _ ih =>
    obtain ⟨t', ht', rfl⟩ := hmap h
    exact .hex hp (fun _ _ _ _ _ _ heq => (hshort _ _ _ _ _ _ _ heq).elim) (ih ht')
  | case12 l w hl c hc _ ih =>
    obtain ⟨t', ht', rfl⟩ := hmap h
    exact .letter hl hc (ih ht')
  | case14 c w hquote hescape _ ih =>
    obtain ⟨t', ht', rfl⟩ := hmap h
    exact .raw hquote hescape (ih ht')

/-- What follows a text in quotes is what is left of the text that was read. -/
theorem Quoted.suffix {w t rest : Text} (h : Quoted w t rest) : rest <:+ w := by
  induction h with
  | close => exact List.suffix_cons _ _
  | raw _ _ _ ih => exact ih.trans (List.suffix_cons _ _)
  | letter _ _ _ ih => exact ih.trans (List.suffix_append [_, _] _)
  | hex _ _ _ ih => exact ih.trans (List.suffix_append [_, _, _, _, _, _] _)
  | pair _ _ _ _ _ ih => exact ih.trans (List.suffix_append [_, _, _, _, _, _, _, _, _, _, _, _] _)

/-- Where no escape of a second half of a surrogate pair stands, none is read first. -/
theorem Quoted.isLowSurrogate_head? {w t rest : Text} (h : Quoted w t rest) (hw : w.isScalar = true)
    (hlow : NoLowEscape w) : ∀ c ∈ t.head?, c.isLowSurrogate = false := by
  have hnone {c : CodePoint} (hc : c.isSurrogate = false) : c.isLowSurrogate = false := by
    rw [isSurrogate_eq, Bool.or_eq_false_iff] at hc
    exact hc.2
  intro c hc
  cases h with
  | close => cases hc
  | raw =>
    cases Option.some.inj hc
    exact hnone (Text.isScalar_iff.1 hw c List.mem_cons_self)
  | letter _ value =>
    cases Option.some.inj hc
    exact hnone (isSurrogate_of_escaped? value)
  | hex value =>
    cases Option.some.inj hc
    obtain ⟨p', hp', hnot⟩ := hlow _ _ _ _ _ rfl
    rw [value] at hp'
    cases hp'
    exact hnot
  | pair _ _ isHigh isLow =>
    rw [← Option.some.inj hc]
    exact hnone (isSurrogate_ofSurrogates isHigh isLow)

/-- **A text that is read has no surrogate pair**, when it is written without surrogates. -/
theorem Quoted.unpaired {w t rest : Text} (h : Quoted w t rest) (hw : w.isScalar = true) : t.Unpaired := by
  induction h with
  | close => exact .nil
  | raw _ _ _ ih =>
    refine unpaired_cons (Text.isScalar_iff.1 hw _ List.mem_cons_self) (ih ?_)
    exact Text.isScalar_of_subset (List.subset_cons_self _ _) hw
  | letter _ value _ ih =>
    refine unpaired_cons (isSurrogate_of_escaped? value) (ih ?_)
    exact Text.isScalar_of_subset (List.subset_append_right [_, _] _) hw
  | hex _ alone tail ih =>
    have htail := Text.isScalar_of_subset (List.subset_append_right [_, _, _, _, _, _] _) hw
    refine List.isChain_cons.2 ⟨fun d hd h => ?_, ih htail⟩
    have hlow := tail.isLowSurrogate_head? htail (alone h.1) d hd
    rw [h.2] at hlow
    cases hlow
  | pair _ _ isHigh isLow _ ih =>
    refine unpaired_cons (isSurrogate_ofSurrogates isHigh isLow) (ih ?_)
    exact Text.isScalar_of_subset (List.subset_append_right [_, _, _, _, _, _, _, _, _, _, _, _] _) hw

/-! ## Literals and numbers -/

/-- A value that the printer writes so that the reader gives it back, nested at most so deep. -/
abbrev Printable (depth : Nat) (v : Value) : Prop := Writable Text.Unpaired Binary64.Canonical depth v

theorem spanDigits_spec {t ds rest : Text} (h : spanDigits t = (ds, rest)) :
    t = ds ++ rest ∧ ∀ c ∈ ds, c.isDigit = true := by
  rw [spanDigits, List.span_eq_takeWhile_dropWhile, Prod.mk.injEq] at h
  obtain ⟨rfl, rfl⟩ := h
  exact ⟨(List.takeWhile_append_dropWhile).symm, fun c hc => List.mem_takeWhile_imp hc⟩

theorem integerPart?_spec {t whole rest : Text} (h : integerPart? t = some (whole, rest)) :
    t = whole ++ rest ∧ whole ≠ [] ∧ ∀ c ∈ whole, c.isDigit = true := by
  cases t with
  | nil => cases h
  | cons c t =>
    rw [integerPart?] at h
    split_ifs at h with hzero hdigit
    · cases h
      rw [hzero]
      exact ⟨rfl, List.cons_ne_nil _ _, by decide⟩
    · have hspan := spanDigits_spec (Option.some.inj h)
      refine ⟨hspan.1, ?_, hspan.2⟩
      rintro rfl
      rw [Option.some.injEq, spanDigits, List.span_eq_takeWhile_dropWhile, Prod.mk.injEq, List.takeWhile_cons,
        if_pos hdigit] at h
      cases h.1

theorem suffix_of_fractionPart? {t places rest : Text} (h : fractionPart? t = some (places, rest)) : rest <:+ t := by
  cases t with
  | nil => cases h
  | cons c t =>
    rw [fractionPart?] at h
    split at h
    · split at h
      · cases h
      · rename_i part hne
        have hspan := spanDigits_spec (Option.some.inj h)
        exact (hspan.1 ▸ List.suffix_append places rest).trans (List.suffix_cons c t)
    · cases h

theorem suffix_of_exponentPart? {t rest : Text} {e : Int} (h : exponentPart? t = some (e, rest)) : rest <:+ t := by
  unfold exponentPart? at h
  split at h
  · cases h
  · rename_i c t
    split at h
    · split at h
      rename_i negative u hsign
      have hu : u <:+ t := by
        cases t with
        | nil => cases hsign; exact List.suffix_rfl
        | cons s t =>
          dsimp only at hsign
          split_ifs at hsign
          · cases hsign; exact List.suffix_cons s u
          · cases hsign; exact List.suffix_cons s u
          · cases hsign; exact List.suffix_rfl
      split at h
      · cases h
      · rename_i digits rest' hne hspan
        obtain ⟨-, rfl⟩ := Prod.mk.inj (Option.some.inj h)
        have hrest : rest' <:+ u := (spanDigits_spec hspan).1 ▸ List.suffix_append digits rest'
        exact (hrest.trans hu).trans (List.suffix_cons c t)
    · cases h

theorem printable_int {n : Int} {digits : Text} (hne : digits ≠ []) (hdigits : ∀ c ∈ digits, c.isDigit = true)
    (hn : n.natAbs = Text.toNat digits) (hlength : digits.length ≤ maxDigits) (depth : Nat) :
    Printable depth (.int n) := by
  have hlt := Text.toNat_lt hdigits
  rw [← hn] at hlt
  exact .int ((Text.length_ofNat_le (List.length_pos_iff.2 hne) hlt).trans hlength)

/-- **A number that is read can be printed.** -/
theorem printable_of_magnitude? {negative : Bool} {t rest : Text} {v : Value}
    (h : magnitude? negative t = some (v, rest)) (depth : Nat) : Printable depth v ∧ rest <:+ t := by
  unfold magnitude? at h
  split at h
  · cases h
  · rename_i whole u hwhole
    obtain ⟨rfl, hne, hdigits⟩ := integerPart?_spec hwhole
    split at h
    rename_i fraction u' hfraction
    split at h
    rename_i exponent u'' hexponent
    have hu' : u' <:+ u := by
      cases hpart : fractionPart? u with
      | none => rw [hpart] at hfraction; cases hfraction; exact List.suffix_rfl
      | some part => rw [hpart] at hfraction; cases hfraction; exact suffix_of_fractionPart? hpart
    have hu'' : u'' <:+ u' := by
      cases hpart : exponentPart? u' with
      | none => rw [hpart] at hexponent; cases hexponent; exact List.suffix_rfl
      | some part => rw [hpart] at hexponent; cases hexponent; exact suffix_of_exponentPart? hpart
    have hsuffix : u'' <:+ whole ++ u := (hu''.trans hu').trans (List.suffix_append whole u)
    split at h
    · split at h
      · cases h
      · rename_i hlength
        obtain ⟨rfl, rfl⟩ := Prod.mk.inj (Option.some.inj h)
        refine ⟨printable_int hne hdigits ?_ (Nat.not_lt.1 hlength) depth, hsuffix⟩
        cases negative <;> simp
    · obtain ⟨rfl, rfl⟩ := Prod.mk.inj (Option.some.inj h)
      refine ⟨.float fun hnan => ?_, hsuffix⟩
      rw [Binary64.isNaN_ofDecimal] at hnan
      cases hnan

theorem printable_of_literal (depth : Nat) : ∀ l ∈ literals, Printable depth l.2 := by
  have hinfinity (negative : Bool) : (Binary64.infinity negative).Canonical := by
    intro h
    cases negative <;> cases h
  simp only [literals, List.forall_mem_cons]
  exact ⟨.null, .bool _, .bool _, .float fun _ => rfl, .float (hinfinity _), .float (hinfinity _),
    List.forall_mem_nil _⟩

theorem printable_of_scalar? {t rest : Text} {v : Value} (h : scalar? t = some (v, rest)) (depth : Nat) :
    Printable depth v ∧ rest <:+ t := by
  unfold scalar? at h
  split at h
  · rename_i r hliteral
    obtain rfl : r = (v, rest) := Option.some.inj h
    obtain ⟨l, hl, hr⟩ := List.exists_of_findSome?_eq_some hliteral
    obtain ⟨rest', hrest, heq⟩ := Option.map_eq_some_iff.1 hr
    cases heq
    exact ⟨printable_of_literal depth l hl, ⟨l.1, (Text.dropPrefix?_eq_some hrest).symm⟩⟩
  · cases t with
    | nil => cases h
    | cons c t =>
      dsimp only at h
      split at h
      · have hread := printable_of_magnitude? h depth
        exact ⟨hread.1, hread.2.trans (List.suffix_cons c t)⟩
      · exact printable_of_magnitude? h depth

/-! ## Values -/

section

variable {fuel depth : Nat} {t rest : Text}

theorem exists_of_map_eq_ok {ε α β : Type} {x : Except ε α} {f : α → β} {b : β} (h : x.map f = .ok b) :
    ∃ a, x = .ok a ∧ b = f a := by
  cases x with
  | error e => cases h
  | ok a => exact ⟨a, rfl, (Except.ok.inj h).symm⟩

/-- How a value is read: one rule for each of its forms. -/
inductive ReadsValue (fuel : Nat) : (depth : Nat) → (t : Text) → Value → (rest : Text) → Prop
  | text {depth : Nat} {t s rest : Text} (body : stringBody t = some (s, rest)) :
      ReadsValue fuel depth ('"' :: t) (.text s) rest
  | noItems {depth : Nat} {t rest : Text} (close : skipSpace t = (']' :: rest : Text)) :
      ReadsValue fuel (depth + 1) ('[' :: t) (.list []) rest
  | list {depth : Nat} {t rest : Text} {vs : List Value} (parts : items fuel depth (skipSpace t) = .ok (vs, rest)) :
      ReadsValue fuel (depth + 1) ('[' :: t) (.list vs) rest
  | noEntries {depth : Nat} {t rest : Text} (close : skipSpace t = ('\x7d' :: rest : Text)) :
      ReadsValue fuel (depth + 1) ('\x7b' :: t) (.map []) rest
  | map {depth : Nat} {t rest : Text} {entries : List (Text × Value)}
      (parts : bindings fuel depth (skipSpace t) = .ok (entries, rest)) :
      ReadsValue fuel (depth + 1) ('\x7b' :: t) (.map (Value.ofBindings entries)) rest
  | scalar {depth : Nat} {t rest : Text} {v : Value} (part : scalar? t = some (v, rest)) :
      ReadsValue fuel depth t v rest

theorem readsValue_of_value {v : Value} (h : value (fuel + 1) depth t = .ok (v, rest)) :
    ReadsValue fuel depth t v rest := by
  rw [value.eq_def] at h
  dsimp only at h
  split at h
  · cases h
  · rename_i c t
    split at h
    · rename_i hc
      subst hc
      split at h
      · rename_i s rest' hbody
        cases h
        exact .text hbody
      · cases h
    · split at h
      · rename_i hc
        subst hc
        split at h
        · cases h
        · rename_i depth
          split at h
          · cases h
          · rename_i d rest' hskip
            split at h
            · rename_i hclose
              cases h
              exact .noItems (by rw [hskip, hclose])
            · rw [← hskip] at h
              obtain ⟨r, hr, heq⟩ := exists_of_map_eq_ok h
              cases heq
              exact .list hr
      · split at h
        · rename_i hc
          subst hc
          split at h
          · cases h
          · rename_i depth
            split at h
            · cases h
            · rename_i d rest' hskip
              split at h
              · rename_i hclose
                cases h
                exact .noEntries (by rw [hskip, hclose])
              · rw [← hskip] at h
                obtain ⟨r, hr, heq⟩ := exists_of_map_eq_ok h
                cases heq
                exact .map hr
        · split at h
          · rename_i r hscalar
            cases h
            exact .scalar hscalar
          · cases h

/-- How the items of a list are read. -/
inductive ReadsItems (fuel depth : Nat) (t : Text) : List Value → (rest : Text) → Prop
  | last {u rest : Text} {v : Value} (first : value fuel depth t = .ok (v, u))
      (close : skipSpace u = (']' :: rest : Text)) : ReadsItems fuel depth t [v] rest
  | more {u u' rest : Text} {v : Value} {vs : List Value} (first : value fuel depth t = .ok (v, u))
      (comma : skipSpace u = (',' :: u' : Text)) (others : items fuel depth (skipSpace u') = .ok (vs, rest)) :
      ReadsItems fuel depth t (v :: vs) rest

theorem readsItems_of_items {vs : List Value} (h : items (fuel + 1) depth t = .ok (vs, rest)) :
    ReadsItems fuel depth t vs rest := by
  rw [items.eq_def] at h
  dsimp only at h
  split at h
  · cases h
  · rename_i v u hv
    split at h
    · cases h
    · rename_i c u' hc
      split at h
      · rename_i hclose
        cases h
        exact .last hv (hclose ▸ hc)
      · split at h
        · rename_i hcomma
          obtain ⟨r, hr, heq⟩ := exists_of_map_eq_ok h
          cases heq
          exact .more hv (hcomma ▸ hc) hr
        · cases h

/-- How the entries of a map are read. -/
inductive ReadsBindings (fuel depth : Nat) : (t : Text) → List (Text × Value) → (rest : Text) → Prop
  | last {t t' u u' rest key : Text} {v : Value} (name : stringBody t = some (key, t'))
      (colon : skipSpace t' = (':' :: u : Text)) (first : value fuel depth (skipSpace u) = .ok (v, u'))
      (close : skipSpace u' = ('\x7d' :: rest : Text)) : ReadsBindings fuel depth ('"' :: t) [(key, v)] rest
  | more {t t' u u' u'' rest key : Text} {v : Value} {entries : List (Text × Value)}
      (name : stringBody t = some (key, t')) (colon : skipSpace t' = (':' :: u : Text))
      (first : value fuel depth (skipSpace u) = .ok (v, u')) (comma : skipSpace u' = (',' :: u'' : Text))
      (others : bindings fuel depth (skipSpace u'') = .ok (entries, rest)) :
      ReadsBindings fuel depth ('"' :: t) ((key, v) :: entries) rest

theorem readsBindings_of_bindings {entries : List (Text × Value)}
    (h : bindings (fuel + 1) depth t = .ok (entries, rest)) : ReadsBindings fuel depth t entries rest := by
  rw [bindings.eq_def] at h
  dsimp only at h
  split at h
  · cases h
  · rename_i q t
    split at h
    · rename_i hq
      subst hq
      split at h
      · cases h
      · rename_i key t' hname
        split at h
        · cases h
        · rename_i c u hc
          split at h
          · rename_i hcolon
            split at h
            · cases h
            · rename_i v u' hv
              split at h
              · cases h
              · rename_i d u'' hd
                split at h
                · rename_i hclose
                  cases h
                  exact .last hname (hcolon ▸ hc) hv (hclose ▸ hd)
                · split at h
                  · rename_i hcomma
                    obtain ⟨r, hr, heq⟩ := exists_of_map_eq_ok h
                    cases heq
                    exact .more hname (hcolon ▸ hc) hv (hcomma ▸ hd) hr
                  · cases h
          · cases h
    · cases h

/-- What the reader gives with some fuel can be printed, and what follows it is left of the text. -/
structure GivesPrintable (fuel : Nat) : Prop where
  value {depth : Nat} {t rest : Text} {v : Value} (ht : t.isScalar = true) (h : value fuel depth t = .ok (v, rest)) :
    Printable depth v ∧ rest <:+ t
  items {depth : Nat} {t rest : Text} {vs : List Value} (ht : t.isScalar = true)
    (h : items fuel depth t = .ok (vs, rest)) : (∀ v ∈ vs, Printable depth v) ∧ rest <:+ t
  bindings {depth : Nat} {t rest : Text} {entries : List (Text × Value)} (ht : t.isScalar = true)
    (h : bindings fuel depth t = .ok (entries, rest)) :
    (∀ e ∈ entries, e.1.Unpaired ∧ Printable depth e.2) ∧ rest <:+ t

theorem suffix_skipSpace (t : Text) : skipSpace t <:+ t := List.dropWhile_suffix _

/-- A part of what follows a space is left of the text. -/
theorem suffix_of_skipSpace {c : CodePoint} {u : Text} (h : skipSpace t = c :: u) : u <:+ t :=
  (List.suffix_cons c u).trans (h ▸ suffix_skipSpace t)

variable (hfuel : GivesPrintable fuel)
include hfuel

theorem ReadsValue.printable {v : Value} (h : ReadsValue fuel depth t v rest) (ht : t.isScalar = true) :
    Printable depth v ∧ rest <:+ t := by
  have htail {c : CodePoint} {u : Text} (hu : Text.isScalar (c :: u) = true) : u.isScalar = true :=
    Text.isScalar_of_subset (List.subset_cons_self c u) hu
  have hspace {u : Text} (hu : u.isScalar = true) : (skipSpace u).isScalar = true :=
    Text.isScalar_of_subset (suffix_skipSpace u).subset hu
  cases h with
  | text body =>
    have hquoted := quoted_of_stringBody body
    exact ⟨.text (hquoted.unpaired (htail ht)), hquoted.suffix.trans (List.suffix_cons _ _)⟩
  | noItems close => exact ⟨.list (List.forall_mem_nil _), (suffix_of_skipSpace close).trans (List.suffix_cons _ _)⟩
  | list parts =>
    obtain ⟨hvs, hrest⟩ := hfuel.items (hspace (htail ht)) parts
    exact ⟨.list hvs, (hrest.trans (suffix_skipSpace _)).trans (List.suffix_cons _ _)⟩
  | noEntries close =>
    exact ⟨.map List.nodup_nil (List.forall_mem_nil _) (List.forall_mem_nil _),
      (suffix_of_skipSpace close).trans (List.suffix_cons _ _)⟩
  | map parts =>
    obtain ⟨hentries, hrest⟩ := hfuel.bindings (hspace (htail ht)) parts
    refine ⟨.map (Value.nodup_ofBindings _) (fun e he => (hentries e (Value.mem_ofBindings he)).1)
      (fun e he => (hentries e (Value.mem_ofBindings he)).2), ?_⟩
    exact (hrest.trans (suffix_skipSpace _)).trans (List.suffix_cons _ _)
  | scalar part => exact printable_of_scalar? part depth

theorem ReadsItems.printable {vs : List Value} (h : ReadsItems fuel depth t vs rest) (ht : t.isScalar = true) :
    (∀ v ∈ vs, Printable depth v) ∧ rest <:+ t := by
  cases h with
  | last first close =>
    obtain ⟨hv, hu⟩ := hfuel.value ht first
    exact ⟨List.forall_mem_singleton.2 hv, (suffix_of_skipSpace close).trans hu⟩
  | more first comma others =>
    obtain ⟨hv, hu⟩ := hfuel.value ht first
    have hothers := ((suffix_skipSpace _).trans (suffix_of_skipSpace comma)).trans hu
    obtain ⟨hvs, hrest⟩ := hfuel.items (Text.isScalar_of_subset hothers.subset ht) others
    exact ⟨List.forall_mem_cons.2 ⟨hv, hvs⟩, hrest.trans hothers⟩

theorem ReadsBindings.printable {entries : List (Text × Value)} (h : ReadsBindings fuel depth t entries rest)
    (ht : t.isScalar = true) : (∀ e ∈ entries, e.1.Unpaired ∧ Printable depth e.2) ∧ rest <:+ t := by
  -- a key and its value, up to what separates them from the next entry
  have hentry {t t' u u' key : Text} {v : Value} (ht : Text.isScalar ('"' :: t) = true)
      (name : stringBody t = some (key, t')) (colon : skipSpace t' = (':' :: u : Text))
      (first : value fuel depth (skipSpace u) = .ok (v, u')) :
      (key.Unpaired ∧ Printable depth v) ∧ u' <:+ ('"' :: t : Text) := by
    have hquoted := quoted_of_stringBody name
    have hvalue : skipSpace u <:+ ('"' :: t : Text) := (((suffix_skipSpace u).trans (suffix_of_skipSpace colon)).trans
      hquoted.suffix).trans (List.suffix_cons _ t)
    obtain ⟨hv, hu'⟩ := hfuel.value (Text.isScalar_of_subset hvalue.subset ht) first
    exact ⟨⟨hquoted.unpaired (Text.isScalar_of_subset (List.subset_cons_self _ _) ht), hv⟩, hu'.trans hvalue⟩
  cases h with
  | last name colon first close =>
    obtain ⟨he, hu⟩ := hentry ht name colon first
    exact ⟨List.forall_mem_singleton.2 he, (suffix_of_skipSpace close).trans hu⟩
  | more name colon first comma others =>
    obtain ⟨he, hu⟩ := hentry ht name colon first
    have hothers := ((suffix_skipSpace _).trans (suffix_of_skipSpace comma)).trans hu
    obtain ⟨hentries, hrest⟩ := hfuel.bindings (Text.isScalar_of_subset hothers.subset ht) others
    exact ⟨List.forall_mem_cons.2 ⟨he, hentries⟩, hrest.trans hothers⟩

end

/-- **The reader gives what can be printed.** -/
theorem givesPrintable (fuel : Nat) : GivesPrintable fuel := by
  induction fuel with
  | zero => exact ⟨nofun, nofun, nofun⟩
  | succ fuel ih =>
    exact ⟨fun ht h => (readsValue_of_value h).printable ih ht, fun ht h => (readsItems_of_items h).printable ih ht,
      fun ht h => (readsBindings_of_bindings h).printable ih ht⟩

/-- **A value that is read can be printed**, when the text has no surrogates of its own. -/
theorem printable_of_parse {t : Text} {v : Value} (ht : t.isScalar = true) (h : parse t = .ok v) :
    Printable maxDepth v := by
  unfold parse at h
  split at h
  · cases h
  · rename_i u rest hread
    split at h
    · cases h
      exact ((givesPrintable _).value (Text.isScalar_of_subset (suffix_skipSpace t).subset ht) hread).1
    · cases h

/-- A value that can be printed is read back from its document, also with space behind it. -/
theorem Printable.parse_print_append {v : Value} (h : Printable maxDepth v) {l : Layout} (hl : l.Separates) {gap : Text}
    (hgap : ∀ c ∈ gap, isSpace c = true) : parse (print l v ++ gap) = .ok v :=
  Json.parse_print_append h hl (fun _ ht => ht) (fun _ => spells_float) hgap

end Json

end ContractBuild
