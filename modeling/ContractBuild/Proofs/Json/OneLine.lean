import ContractBuild.Proofs.Json.RoundTrip
import ContractBuild.Proofs.Lines

/-!
# A document on one line

A layout without indentation writes a value on one line (`Layout.OneLine`): there is no control in the document, and so
no line end, and no surrogate either when the texts have none (`Writable.visible`). The document of a map starts and
ends with a brace, so there is no white space at its ends (`strip_print_map`).
-/

namespace ContractBuild

theorem CodePoint.visible_of_isDigit {c : CodePoint} (h : c.isDigit = true) : Json.Visible c := by
  simp only [isDigit, Bool.and_eq_true, decide_eq_true_eq] at h
  refine ⟨by omega, ?_⟩
  simp [isSurrogate]
  omega

theorem Text.visible_ofInt (n : Int) : ∀ c ∈ ofInt n, Json.Visible c := by
  intro c hc
  cases n with
  | ofNat n => exact CodePoint.visible_of_isDigit (isDigit_of_mem_ofNat hc)
  | negSucc n =>
    rcases List.mem_cons.1 hc with rfl | hc
    · decide
    · exact CodePoint.visible_of_isDigit (isDigit_of_mem_ofNat hc)

namespace Json

/-- A layout that writes a value on one line. -/
structure Layout.OneLine (l : Layout) : Prop where
  indent : l.indent = none
  items : ∀ c ∈ l.itemSeparator, Visible c
  keys : ∀ c ∈ l.keySeparator, Visible c

theorem Layout.separates_compact (asciiOnly : Bool) : { Layout.compact with asciiOnly }.Separates where
  items := ⟨[], rfl, List.forall_mem_nil _⟩
  keys := ⟨[], rfl, List.forall_mem_nil _⟩

theorem Layout.oneLine_compact (asciiOnly : Bool) : { Layout.compact with asciiOnly }.OneLine where
  indent := rfl
  items := by decide +revert
  keys := by decide +revert

theorem Layout.OneLine.lineStart_eq {l : Layout} (h : l.OneLine) (level : Nat) : l.lineStart level = [] := by
  rw [lineStart, h.indent]

variable {l : Layout} (hl : l.OneLine)
include hl

theorem visible_printItems {vs : List Value} (hvs : ∀ v ∈ vs, ∀ level, ∀ c ∈ printAt l level v, Visible c)
    (level : Nat) : ∀ c ∈ printItems l level vs, Visible c := by
  induction vs with
  | nil => exact List.forall_mem_nil _
  | cons v vs ih =>
    obtain ⟨hv, hvs⟩ := List.forall_mem_cons.1 hvs
    have hseparator : ∀ c ∈ (if vs.isEmpty then [] else l.itemSeparator), Visible c := by
      split
      · exact List.forall_mem_nil _
      · exact hl.items
    rw [printItems, hl.lineStart_eq, List.nil_append]
    exact List.forall_mem_append.2 ⟨List.forall_mem_append.2 ⟨hv level, hseparator⟩, ih hvs⟩

theorem visible_printEntries {entries : List (Text × Value)} (hkeys : ∀ e ∈ entries, e.1.isScalar = true)
    (hvs : ∀ e ∈ entries, ∀ level, ∀ c ∈ printAt l level e.2, Visible c) (level : Nat) :
    ∀ c ∈ printEntries l level entries, Visible c := by
  induction entries with
  | nil => exact List.forall_mem_nil _
  | cons e entries ih =>
    obtain ⟨hv, hvs⟩ := List.forall_mem_cons.1 hvs
    obtain ⟨hkey, hkeys⟩ := List.forall_mem_cons.1 hkeys
    have hseparator : ∀ c ∈ (if entries.isEmpty then [] else l.itemSeparator), Visible c := by
      split
      · exact List.forall_mem_nil _
      · exact hl.items
    rw [printEntries, hl.lineStart_eq, List.nil_append]
    simp only [List.forall_mem_append]
    exact ⟨⟨⟨⟨visible_string l.asciiOnly hkey, hl.keys⟩, hv level⟩, hseparator⟩, ih hkeys hvs⟩

/-- **What is written on one line** has no line end in it, and no surrogate. -/
theorem Writable.visible {text : Text → Prop} {float : Binary64 → Prop} {depth : Nat} {v : Value}
    (h : Writable text float depth v) (htext : ∀ t, text t → t.isScalar = true)
    (hfloat : ∀ x, float x → ∀ c ∈ x.render numberNames, Visible c) (level : Nat) :
    ∀ c ∈ printAt l level v, Visible c := by
  have hliterals : ∀ t ∈ ["null", "true", "false"], ∀ c ∈ Text.ofString t, Visible c := by decide
  induction h generalizing level with
  | null => exact hliterals "null" (by decide)
  | bool b =>
    cases b with
    | true => exact hliterals "true" (by decide)
    | false => exact hliterals "false" (by decide)
  | int => exact Text.visible_ofInt _
  | float h => exact hfloat _ h
  | text h => exact visible_string l.asciiOnly (htext _ h)
  | @list depth vs values ih =>
    rw [printAt]
    split
    · decide
    · simp only [List.forall_mem_append, hl.lineStart_eq]
      exact ⟨⟨⟨by decide, visible_printItems hl ih _⟩, List.forall_mem_nil _⟩, by decide⟩
  | @map depth entries keys texts values ih =>
    rw [printAt]
    split
    · decide
    · simp only [List.forall_mem_append, hl.lineStart_eq]
      exact ⟨⟨⟨by decide, visible_printEntries hl (fun e he => htext _ (texts e he)) ih _⟩, List.forall_mem_nil _⟩,
        by decide⟩

omit hl in
/-- The document of a map has no white space at its ends. -/
theorem strip_print_map (entries : List (Text × Value)) : (print l (.map entries)).strip = print l (.map entries) := by
  obtain ⟨mid, heq⟩ : ∃ mid, print l (.map entries) = ('\x7b' :: mid : Text) ++ ('\x7d' :: [] : Text) := by
    rw [print, printAt]
    split
    · exact ⟨[], rfl⟩
    · exact ⟨printEntries l 1 entries ++ l.lineStart 0, by simp [Text.ofString]⟩
  have hleft : Text.stripLeft (print l (.map entries)) = print l (.map entries) := by
    rw [heq, List.cons_append, Text.stripLeft_cons_of_not_space (by decide)]
  rw [Text.strip, hleft, heq, Text.stripRight_append_of_not_space (List.cons_ne_nil _ _) (by decide)]

end Json

end ContractBuild
