import ContractBuild.Text.Basic
import Mathlib.Data.List.Infix

/-!
# Texts at the start, at the end and within texts

The searches of `Text` in terms of lists: `Text.startsWith` finds a prefix (`startsWith_iff`), `Text.endsWith` a suffix
(`endsWith_iff`), and `Text.contains` an infix (`contains_iff`). A text that is split at a code point is split into
infixes without it (`infix_of_mem_splitOn`, `not_mem_of_mem_splitOn`); what stands in a joined text stands in the separator
or in a part (`mem_intercalate`).
-/

namespace ContractBuild.Text

variable {t p rest : Text}

theorem dropPrefix?_eq_some (h : dropPrefix? t p = some rest) : t = p ++ rest := by
  induction p generalizing t with
  | nil =>
    cases t <;> cases h <;> rfl
  | cons d p ih =>
    cases t with
    | nil => cases h
    | cons c t =>
      rw [dropPrefix?] at h
      split at h
      · rename_i hc
        rw [hc, ih h, List.cons_append]
      · cases h

theorem dropPrefix?_append (p rest : Text) : dropPrefix? (p ++ rest) p = some rest := by
  induction p with
  | nil => cases rest <;> rfl
  | cons c p ih => rw [List.cons_append, dropPrefix?, if_pos rfl, ih]

theorem startsWith_iff : t.startsWith p = true ↔ p <+: t := by
  rw [startsWith, Option.isSome_iff_exists]
  constructor
  · rintro ⟨rest, h⟩
    exact ⟨rest, (dropPrefix?_eq_some h).symm⟩
  · rintro ⟨rest, rfl⟩
    exact ⟨rest, dropPrefix?_append p rest⟩

theorem endsWith_iff : t.endsWith p = true ↔ p <:+ t := by
  rw [endsWith, startsWith_iff, List.reverse_prefix]

/-- A text occurs in another one when it stands at the start of one of its ends. -/
theorem contains_iff : t.contains p = true ↔ p <:+: t := by
  unfold contains after?
  induction t with
  | nil => rw [firstSuffix?, ← startsWith, startsWith_iff, List.prefix_nil, List.infix_nil]
  | cons c t ih =>
    rw [firstSuffix?, List.infix_cons_iff, ← ih, ← startsWith_iff, startsWith]
    cases dropPrefix? (c :: t) p <;> simp

/-! ## Splitting -/

/-- What is joined stands in what it is joined to. -/
theorem infix_intercalate {separator s : Text} {ts : List Text} (h : s ∈ ts) : s <:+: separator.intercalate ts := by
  induction ts with
  | nil => cases h
  | cons t ts ih =>
    cases ts with
    | nil =>
      rw [List.mem_singleton.1 h, List.intercalate_singleton]
    | cons u us =>
      rw [List.intercalate_cons_cons, List.append_assoc]
      rcases List.mem_cons.1 h with rfl | h
      · exact (List.prefix_append s _).isInfix
      · exact (ih h).trans ((List.suffix_append separator _).trans (List.suffix_append t _)).isInfix

theorem mem_intercalate {c : CodePoint} {separator : Text} {ts : List Text} (h : c ∈ separator.intercalate ts) :
    c ∈ separator ∨ ∃ t ∈ ts, c ∈ t := by
  induction ts with
  | nil => cases h
  | cons t ts ih =>
    cases ts with
    | nil =>
      rw [List.intercalate_singleton] at h
      exact .inr ⟨t, List.mem_cons_self, h⟩
    | cons u us =>
      rw [List.intercalate_cons_cons, List.mem_append, List.mem_append] at h
      rcases h with (ht | hseparator) | hrest
      · exact .inr ⟨t, List.mem_cons_self, ht⟩
      · exact .inl hseparator
      · exact (ih hrest).imp_right fun ⟨v, hv, hc⟩ => ⟨v, List.mem_cons_of_mem t hv, hc⟩

theorem infix_of_mem_splitOn {c : CodePoint} {s : Text} (h : s ∈ t.splitOn c) : s <:+: t := by
  have hjoin : s <:+: [c].intercalate (t.splitOn c) := infix_intercalate h
  rwa [List.intercalate_splitOn] at hjoin

theorem not_mem_of_mem_splitOn {c : CodePoint} {s : Text} (h : s ∈ t.splitOn c) : c ∉ s := by
  induction t generalizing s with
  | nil =>
    rw [List.splitOn, List.splitOnP_nil, List.mem_singleton] at h
    rw [h]
    exact List.not_mem_nil
  | cons d t ih =>
    rw [List.splitOn_cons_eq_if_modifyHead] at h
    split at h
    · rcases List.mem_cons.1 h with rfl | h
      · exact List.not_mem_nil
      · exact ih h
    · rename_i hd
      obtain ⟨first, rest, hsplit⟩ := List.exists_cons_of_ne_nil (List.splitOn_ne_nil c t)
      rw [hsplit, List.modifyHead_cons] at h
      rcases List.mem_cons.1 h with rfl | h
      · have hfirst : c ∉ first := ih (by rw [hsplit]; exact List.mem_cons_self)
        rw [List.mem_cons, not_or]
        exact ⟨fun e => hd (by rw [e]; exact BEq.rfl), hfirst⟩
      · exact ih (by rw [hsplit]; exact List.mem_cons_of_mem first h)

end ContractBuild.Text
