import ContractBuild.Encoding.Utf8
import Mathlib.Algebra.Group.Nat.Defs

/-!
# Texts without surrogates and their bytes

A code point that is no surrogate is read back from its bytes, whatever follows them (`Utf8.readAll_encodePoint`). So a
text without surrogates is read back from the bytes that write it, and leaves no sequence open (`Utf8.readAll_encode`).

The other way round, no bytes are read as a surrogate (`Utf8.isScalar_readAll`): the bounds of the next byte, which the
reader keeps, leave no way to one (`Utf8.State.Clear`).
-/

namespace ContractBuild

/-- Whether a text has no half of a surrogate pair. -/
def Text.isScalar (t : Text) : Bool := t.all fun c => !c.isSurrogate

theorem Text.isScalar_iff {t : Text} : t.isScalar = true ↔ ∀ c ∈ t, c.isSurrogate = false := by
  simp [isScalar]

theorem Text.isScalar_of_subset {t u : Text} (h : u ⊆ t) (ht : t.isScalar = true) : u.isScalar = true :=
  isScalar_iff.2 fun c hc => isScalar_iff.1 ht c (h hc)

namespace Utf8

/-! ## Lead bytes -/

theorem lead?_two {k : Nat} (h : k < 0x20) (h' : 2 ≤ k) : lead? (0xC0 + k) = some (.inside k 1 0x80 0xBF) := by
  have hall : ∀ k < 0x20, 2 ≤ k → lead? (0xC0 + k) = some (.inside k 1 0x80 0xBF) := by decide
  exact hall k h h'

/-- The second byte has bounds of its own where the sequence could be shorter, or write a surrogate. -/
theorem lead?_three {k : Nat} (h : k < 0x10) :
    lead? (0xE0 + k) = some (.inside k 2 (if k = 0 then 0xA0 else 0x80) (if k = 0xD then 0x9F else 0xBF)) := by
  decide +revert

/-- The second byte has bounds of its own where the sequence could be shorter, or write too large a number. -/
theorem lead?_four {k : Nat} (h : k ≤ 4) :
    lead? (0xF0 + k) = some (.inside k 3 (if k = 0 then 0x90 else 0x80) (if k = 4 then 0x8F else 0xBF)) := by
  decide +revert

/-! ## Sequences -/

theorem readAll_cons (s : State) (b : UInt8) (bs : Bytes) :
    readAll s (b :: bs) = ((read s b).1 ++ (readAll (read s b).2 bs).1, (readAll (read s b).2 bs).2) := rfl

/-- A lead byte opens a sequence. -/
theorem readAll_lead {n : Nat} {s : State} (hn : 0x80 ≤ n) (hn' : n < 0x100) (h : lead? n = some s) (bs : Bytes) :
    readAll .start (n.toUInt8 :: bs) = readAll s bs := by
  have hread : read .start n.toUInt8 = ([], s) := by
    rw [read, UInt8.toNat_ofNat', Nat.mod_eq_of_lt hn', readFirst, if_neg (by omega), h]
  rw [readAll_cons, hread]
  rfl

section

variable {bits low high n : Nat} (hlow : low ≤ n) (hhigh : n ≤ high) (hn : n < 0x100) (bs : Bytes)
include hlow hhigh hn

/-- A byte that goes on with a sequence adds six bits. -/
theorem readAll_inside (missing : Nat) :
    readAll (.inside bits (missing + 2) low high) (n.toUInt8 :: bs) =
      readAll (.inside (bits * 0x40 + (n - 0x80)) (missing + 1) 0x80 0xBF) bs := by
  have hread : read (.inside bits (missing + 2) low high) n.toUInt8 =
      ([], .inside (bits * 0x40 + (n - 0x80)) (missing + 1) 0x80 0xBF) := by
    simp [read, UInt8.toNat_ofNat', Nat.mod_eq_of_lt hn, hlow, hhigh]
  rw [readAll_cons, hread]
  rfl

/-- The last byte of a sequence gives its code point. -/
theorem readAll_last :
    readAll (.inside bits 1 low high) (n.toUInt8 :: bs) =
      (CodePoint.ofNat (bits * 0x40 + (n - 0x80)) :: (readAll .start bs).1, (readAll .start bs).2) := by
  have hread : read (.inside bits 1 low high) n.toUInt8 = ([CodePoint.ofNat (bits * 0x40 + (n - 0x80))], .start) := by
    simp [read, UInt8.toNat_ofNat', Nat.mod_eq_of_lt hn, hlow, hhigh]
  rw [readAll_cons, hread]
  rfl

end

/-! ## Texts -/

/-- **A code point is read back** from its bytes. -/
theorem readAll_encodePoint {c : CodePoint} (h : c.isSurrogate = false) (bs : Bytes) :
    readAll .start (encodePoint c ++ bs) = (c :: (readAll .start bs).1, (readAll .start bs).2) := by
  have hmax := c.isLt
  have hbits {n : Nat} (hn : n = c.val) : CodePoint.ofNat n = c := by rw [hn, c.ofNat_val]
  simp only [CodePoint.isSurrogate, Bool.and_eq_false_iff, decide_eq_false_iff_not] at h
  simp only [encodePoint]
  -- one case for each length; the bounds of the second byte hold since no shorter sequence writes the code point
  split
  case isTrue hone =>
    have hread : read .start c.val.toUInt8 = ([c], .start) := by
      rw [read, UInt8.toNat_ofNat', Nat.mod_eq_of_lt (by omega), readFirst, if_pos hone, c.ofNat_val]
    rw [List.singleton_append, readAll_cons, hread]
    rfl
  split
  case isTrue htwo =>
    have hlead := lead?_two (k := c.val / 0x40) (by omega) (by omega)
    rw [List.cons_append, List.singleton_append, readAll_lead (by omega) (by omega) hlead,
      readAll_last (by omega) (by omega) (by omega), hbits (by omega)]
  split
  case isTrue hthree =>
    have hlead := lead?_three (k := c.val / 0x1000) (by omega)
    rw [List.cons_append, List.cons_append, List.singleton_append, readAll_lead (by omega) (by omega) hlead,
      readAll_inside (by split <;> omega) (by split <;> omega) (by omega),
      readAll_last (by omega) (by omega) (by omega), hbits (by omega)]
  case isFalse hfour =>
    have hlead := lead?_four (k := c.val / 0x40000) (by omega)
    rw [List.cons_append, List.cons_append, List.cons_append, List.singleton_append,
      readAll_lead (by omega) (by omega) hlead,
      readAll_inside (by split <;> omega) (by split <;> omega) (by omega),
      readAll_inside (by omega) (by omega) (by omega),
      readAll_last (by omega) (by omega) (by omega), hbits (by omega)]

/-- **A text is read back** from its bytes. -/
theorem readAll_encode {t : Text} (h : t.isScalar = true) : readAll .start (encode t) = (t, .start) := by
  induction t with
  | nil => rfl
  | cons c t ih =>
    rw [Text.isScalar, List.all_cons, Bool.and_eq_true, Bool.not_eq_true'] at h
    have hrest : readAll .start (encode t) = (t, .start) := ih h.2
    have hcons : encode (c :: t) = encodePoint c ++ encode t := List.flatMap_cons
    rw [hcons, readAll_encodePoint h.1, hrest]

/-! ## What is read from any bytes -/

/-- A number that is no surrogate gives a code point that is none. -/
theorem isSurrogate_ofNat {n : Nat} (h : n < 0xD800 ∨ 0xE000 ≤ n) : (CodePoint.ofNat n).isSurrogate = false := by
  unfold CodePoint.ofNat
  split
  · simp only [CodePoint.isSurrogate, Bool.and_eq_false_iff, decide_eq_false_iff_not]
    omega
  · decide

/-- What a reader may come to from here is no surrogate: the numbers that the open sequence can still write are all
smaller, or all greater. -/
def State.Clear : State → Prop
  | .inside bits missing low high =>
    (bits * 0x40 + (high - 0x80) + 1) * 0x40 ^ (missing - 1) ≤ 0xD800 ∨
      0xE000 ≤ (bits * 0x40 + (low - 0x80)) * 0x40 ^ (missing - 1)
  | .start | .surrogate => True

instance : (s : State) → Decidable s.Clear
  | .inside .. => inferInstanceAs (Decidable (_ ∨ _))
  | .start | .surrogate => inferInstanceAs (Decidable True)

/-- A lead byte opens a sequence that writes no surrogate. -/
theorem clear_of_lead? {b : Nat} (hb : b < 0x100) {s : State} (h : lead? b = some s) : s.Clear := by
  have hall : ∀ b < 0x100, ∀ s ∈ lead? b, s.Clear := by decide +kernel
  exact hall b hb s h

theorem readFirst_spec {b : Nat} (hb : b < 0x100) : (readFirst b).1.isScalar = true ∧ (readFirst b).2.Clear := by
  unfold readFirst
  split
  · rename_i hascii
    exact ⟨Text.isScalar_iff.2 (List.forall_mem_singleton.2 (isSurrogate_ofNat (.inl (by omega)))), trivial⟩
  · cases h : lead? b with
    | some s => exact ⟨rfl, clear_of_lead? hb h⟩
    | none => exact ⟨by decide, trivial⟩

/-- A byte within its bounds leaves a part of the numbers that the sequence could write before it. -/
theorem clear_inside {bits missing low high n : Nat} (h : (State.inside bits missing low high).Clear) (hlow : low ≤ n)
    (hhigh : n ≤ high) :
    if missing ≤ 1 then bits * 0x40 + (n - 0x80) < 0xD800 ∨ 0xE000 ≤ bits * 0x40 + (n - 0x80)
    else (State.inside (bits * 0x40 + (n - 0x80)) (missing - 1) 0x80 0xBF).Clear := by
  have hbelow : bits * 0x40 + (n - 0x80) + 1 ≤ bits * 0x40 + (high - 0x80) + 1 := by omega
  have habove : bits * 0x40 + (low - 0x80) ≤ bits * 0x40 + (n - 0x80) := by omega
  split
  · rename_i hlast
    have hpow : (0x40 : Nat) ^ (missing - 1) = 1 := by rw [Nat.sub_eq_zero_of_le hlast, Nat.pow_zero]
    simp only [State.Clear, hpow, Nat.mul_one] at h
    omega
  · rename_i hmore
    obtain ⟨m, rfl⟩ : ∃ m, missing = m + 2 := ⟨missing - 2, by omega⟩
    have hpow : (0x40 : Nat) ^ (m + 2 - 1) = 0x40 * 0x40 ^ m := Nat.pow_succ'
    simp only [State.Clear, hpow] at h ⊢
    rcases h with h | h
    · refine .inl (Nat.le_trans ?_ h)
      rw [← Nat.mul_assoc]
      exact Nat.mul_le_mul_right _ (by omega)
    · refine .inr (Nat.le_trans h ?_)
      rw [← Nat.mul_assoc]
      exact Nat.mul_le_mul_right _ (by omega)

/-- **One byte** gives no surrogate and opens no way to one. -/
theorem State.Clear.read {s : State} (h : s.Clear) (b : UInt8) :
    (Utf8.read s b).1.isScalar = true ∧ (Utf8.read s b).2.Clear := by
  have hfirst := readFirst_spec b.toNat_lt
  cases s with
  | start => exact hfirst
  | surrogate => exact ⟨hfirst.1, hfirst.2⟩
  | inside bits missing low high =>
    rw [Utf8.read]
    dsimp only
    split
    · rename_i hbounds
      rw [Bool.and_eq_true, decide_eq_true_eq, decide_eq_true_eq] at hbounds
      have hnext := clear_inside h hbounds.1 hbounds.2
      split at hnext
      · rename_i hlast
        rw [if_pos hlast]
        exact ⟨Text.isScalar_iff.2 (List.forall_mem_singleton.2 (isSurrogate_ofNat hnext)), trivial⟩
      · rename_i hmore
        rw [if_neg hmore]
        exact ⟨rfl, hnext⟩
    · split
      · exact ⟨rfl, trivial⟩
      · exact ⟨hfirst.1, hfirst.2⟩

/-- **Any bytes** give no surrogate. -/
theorem isScalar_readAll {s : State} (h : s.Clear) (bs : Bytes) :
    (readAll s bs).1.isScalar = true ∧ (readAll s bs).2.Clear := by
  induction bs generalizing s with
  | nil => exact ⟨rfl, h⟩
  | cons b bs ih =>
    have hbyte := h.read b
    have hrest := ih hbyte.2
    rw [readAll_cons]
    refine ⟨?_, hrest.2⟩
    rw [Text.isScalar, List.all_append, Bool.and_eq_true]
    exact ⟨hbyte.1, hrest.1⟩

theorem isScalar_flush (s : State) : s.flush.isScalar = true := by
  cases s <;> rfl

end Utf8

end ContractBuild
