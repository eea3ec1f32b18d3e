import ContractBuild.Proofs.Affixes
import ContractBuild.Proofs.Lines

/-!
# Leftmost places and optional parts

What the searches of `Text` find. A search looks at one place after the other, from the left, and gives what stands at
the first place where there is something; for a phrase with a name in it, that is the name of the leftmost phrase
(`Text.FirstNamed`). Behind a place, parts that may be left out are skipped, and a name is taken up to where it stops.

* `firstSuffix?_eq_some_iff`, `firstSuffix?_eq_none_iff`: a search finds the leftmost place.
* `firstSuffix?_eq_some_iff_firstNamed`, `firstSuffix?_eq_none_iff_not_occurs`: a search for a phrase.
* `skipOptional_part`, `takeWhile_append_of_stop`, `stripLeft_append_of_stop`: parts of a line.
-/

namespace ContractBuild.Text

/-! ## Leftmost places -/

/-- The name of the leftmost phrase: the phrase starts where `before` ends, and none starts further left. -/
def FirstNamed (Phrase : Text → Text → Prop) (t name : Text) : Prop :=
  ∃ before rest, t = before ++ rest ∧ Phrase name rest ∧
    ∀ before' rest' name', t = before' ++ rest' → Phrase name' rest' → before.length ≤ before'.length

/-- A phrase starts somewhere in a text. -/
def Occurs (Phrase : Text → Text → Prop) (t : Text) : Prop := ∃ name before rest, t = before ++ rest ∧ Phrase name rest

variable {α : Type} {f : Text → Option α} {t : Text}

/-- A search finds nothing exactly when there is nothing at any place. -/
theorem firstSuffix?_eq_none_iff : firstSuffix? f t = none ↔ ∀ before rest, t = before ++ rest → f rest = none := by
  induction t with
  | nil =>
    rw [firstSuffix?]
    constructor
    · rintro h before rest hsplit
      rwa [(List.append_eq_nil_iff.1 hsplit.symm).2]
    · exact fun h => h [] [] rfl
  | cons c t ih =>
    rw [firstSuffix?]
    constructor
    · intro h before rest hsplit
      split at h
      · cases h
      · rename_i hhere
        cases before with
        | nil => rwa [← List.nil_append rest, ← hsplit]
        | cons d before => exact ih.1 h before rest (List.cons.inj hsplit).2
    · intro h
      rw [h [] (c :: t) rfl]
      exact ih.2 fun before rest hsplit => h (c :: before) rest (by rw [hsplit, List.cons_append])

/-- **A search finds the leftmost place** where there is something. -/
theorem firstSuffix?_eq_some_iff {a : α} : firstSuffix? f t = some a ↔ ∃ before rest, t = before ++ rest ∧
    f rest = some a ∧ ∀ before' rest', t = before' ++ rest' → f rest' ≠ none → before.length ≤ before'.length := by
  induction t with
  | nil =>
    rw [firstSuffix?]
    constructor
    · exact fun h => ⟨[], [], rfl, h, fun _ _ _ _ => Nat.zero_le _⟩
    · rintro ⟨before, rest, hsplit, h, -⟩
      rwa [(List.append_eq_nil_iff.1 hsplit.symm).2] at h
  | cons c t ih =>
    rw [firstSuffix?]
    cases hhere : f (c :: t) with
    | some b =>
      dsimp only
      constructor
      · intro h
        exact ⟨[], c :: t, rfl, by rw [hhere, h], fun _ _ _ _ => Nat.zero_le _⟩
      · rintro ⟨before, rest, hsplit, h, hleft⟩
        have hnil : before = [] := by
          simpa using hleft [] (c :: t) rfl (by rw [hhere]; exact Option.some_ne_none b)
        rw [hnil, List.nil_append] at hsplit
        rw [← hhere, hsplit, h]
    | none =>
      dsimp only
      rw [ih]
      constructor
      · rintro ⟨before, rest, hsplit, h, hleft⟩
        refine ⟨c :: before, rest, by rw [hsplit, List.cons_append], h, fun before' rest' hsplit' hne => ?_⟩
        cases before' with
        | nil => exact absurd (by rw [← List.nil_append rest', ← hsplit', hhere]) hne
        | cons d before' => exact Nat.succ_le_succ (hleft before' rest' (List.cons.inj hsplit').2 hne)
      · rintro ⟨before, rest, hsplit, h, hleft⟩
        cases before with
        | nil =>
          rw [List.nil_append] at hsplit
          rw [hsplit, h] at hhere
          cases hhere
        | cons d before =>
          refine ⟨before, rest, (List.cons.inj hsplit).2, h, fun before' rest' hsplit' hne => ?_⟩
          exact Nat.le_of_succ_le_succ (hleft (c :: before') rest' (by rw [hsplit', List.cons_append]) hne)

section

variable {f : Text → Option Text} {Phrase : Text → Text → Prop} (hf : ∀ rest name, f rest = some name ↔ Phrase name rest)
include hf

/-- A search for a phrase finds the name of the leftmost one. -/
theorem firstSuffix?_eq_some_iff_firstNamed {name : Text} : firstSuffix? f t = some name ↔ FirstNamed Phrase t name := by
  have hsome (rest : Text) : f rest ≠ none ↔ ∃ name', Phrase name' rest := by
    rw [Option.ne_none_iff_exists']
    simp only [hf]
  rw [firstSuffix?_eq_some_iff]
  simp only [FirstNamed, hf, hsome, forall_exists_index]
  constructor
  · rintro ⟨before, rest, hsplit, h, hleft⟩
    exact ⟨before, rest, hsplit, h, fun before' rest' name' hsplit' => hleft before' rest' hsplit' name'⟩
  · rintro ⟨before, rest, hsplit, h, hleft⟩
    exact ⟨before, rest, hsplit, h, fun before' rest' hsplit' name' => hleft before' rest' name' hsplit'⟩

/-- A search for a phrase finds nothing exactly when the phrase does not occur. -/
theorem firstSuffix?_eq_none_iff_not_occurs : firstSuffix? f t = none ↔ ¬ Occurs Phrase t := by
  rw [firstSuffix?_eq_none_iff]
  constructor
  · rintro h ⟨name, before, rest, hsplit, hphrase⟩
    rw [← hf, h before rest hsplit] at hphrase
    cases hphrase
  · intro h before rest hsplit
    rw [Option.eq_none_iff_forall_ne_some]
    exact fun name hname => h ⟨name, before, rest, hsplit, (hf rest name).1 hname⟩

end

/-! ## Parts that may be left out -/

variable {p : Text}

theorem skipOptional_append (p t : Text) : skipOptional p (p ++ t) = t := by
  rw [skipOptional, dropPrefix?_append]
  rfl

/-- A text that does not start with a part keeps all of itself. -/
theorem skipOptional_of_not_startsWith (h : ¬ p <+: t) : skipOptional p t = t := by
  rw [← startsWith_iff, startsWith, Option.not_isSome_iff_eq_none] at h
  rw [skipOptional, h]
  rfl

/-- A part that is there or not is skipped when what follows does not start with it. -/
theorem skipOptional_part {part : Text} (hpart : part = [] ∨ part = p) (h : ¬ p <+: t) :
    skipOptional p (part ++ t) = t := by
  rcases hpart with rfl | rfl
  · exact skipOptional_of_not_startsWith h
  · exact skipOptional_append part t

/-- A part is skipped, or is not there. -/
theorem exists_skipOptional_eq (p t : Text) : ∃ part : Text, (part = [] ∨ part = p) ∧ t = part ++ skipOptional p t := by
  by_cases h : p <+: t
  · obtain ⟨rest, rfl⟩ := h
    exact ⟨p, .inr rfl, by rw [skipOptional_append]⟩
  · exact ⟨[], .inl rfl, by rw [skipOptional_of_not_startsWith h, List.nil_append]⟩

/-- What is taken while a condition holds ends where it does not. -/
theorem takeWhile_append_of_stop {q : CodePoint → Bool} {name after : Text} (hname : ∀ c ∈ name, q c = true)
    (hafter : ∀ c ∈ after.head?, q c = false) : (name ++ after).takeWhile q = name := by
  have hstop : after.takeWhile q = [] := by
    cases after with
    | nil => rfl
    | cons c after => rw [List.takeWhile_cons, hafter c rfl]; rfl
  rw [List.takeWhile_append_of_pos hname, hstop, List.append_nil]

/-- White space is stripped up to what is none. -/
theorem stripLeft_append_of_stop {space : Text} (hspace : ∀ c ∈ space, c.isSpace = true)
    (ht : ∀ c ∈ t.head?, c.isSpace = false) : stripLeft (space ++ t) = t := by
  have hstop : stripLeft t = t := by
    cases t with
    | nil => rfl
    | cons c t => exact stripLeft_cons_of_not_space (ht c rfl)
  rw [stripLeft, List.dropWhile_append_of_pos hspace]
  exact hstop

end ContractBuild.Text
