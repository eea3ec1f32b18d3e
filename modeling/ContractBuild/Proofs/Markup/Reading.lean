import ContractBuild.Proofs.Markup.Symbols
import ContractBuild.Proofs.Markup.Tags

/-!
# Texts that are escaped and read

A text that is escaped and read as markup shows its stretches one by one, each without the backslashes before its opening
brackets and with its names replaced (`Markup.reading`), and other backslashes at the end: one more where a single one was
doubled and nothing follows (`Cut.shown_escape`), half of them where a tag follows, which is plain text when one is left over
(`Cut.shown_within`).

Where as many colons are shown as there were, a stretch lost nothing but backslashes (`Markup.reading_of_count_eq`), and the
first one that is lost leaves a bracket where the backslash stood (`Markup.of_freeBrackets_append_eq`).
-/

namespace ContractBuild.Screen.Markup

/-! ## Backslashes before brackets -/

theorem freeBrackets_cons_of_slash (t : Text) :
    freeBrackets (backslash :: openBracket :: t) = openBracket :: freeBrackets t := by
  rw [freeBrackets, if_pos (by simp), freeBrackets, if_neg (by simp [show openBracket ≠ backslash by decide])]

/-- A code point stays unless it is a backslash before an opening bracket. -/
theorem freeBrackets_cases (c : CodePoint) (t : Text) : (∃ rest, c = backslash ∧ t = openBracket :: rest) ∨
    freeBrackets (c :: t) = c :: freeBrackets t ∧ ¬ [backslash, openBracket] <+: c :: t := by
  by_cases h : c = backslash ∧ t.head? = some openBracket
  · obtain ⟨rfl, hhead⟩ := h
    obtain ⟨rest, rfl⟩ := List.head?_eq_some_iff.1 hhead
    exact .inl ⟨rest, rfl, rfl⟩
  · refine .inr ⟨?_, ?_⟩
    · rw [freeBrackets, if_neg (by simpa using h)]
    · rintro ⟨rest, hrest⟩
      obtain ⟨rfl, rfl⟩ := List.cons.inj hrest
      exact h ⟨rfl, rfl⟩

theorem freeBrackets_eq_self {t : Text} (h : ¬ [backslash, openBracket] <:+: t) : freeBrackets t = t := by
  induction t with
  | nil => rfl
  | cons c t ih =>
    obtain ⟨rest, rfl, rfl⟩ | ⟨heq, -⟩ := freeBrackets_cases c t
    · exact absurd ⟨[], rest, rfl⟩ h
    · rw [heq, ih fun hin => h (hin.trans (List.suffix_cons c t).isInfix)]

/-- Where a backslash is left out, the texts differ at its place, whatever follows. -/
theorem of_freeBrackets_append_eq {t x y : Text} (h : freeBrackets t ++ x = t ++ y) :
    ¬ [backslash, openBracket] <:+: t ∧ x = y := by
  induction t with
  | nil => exact ⟨fun hin => (nomatch List.infix_nil.1 hin), h⟩
  | cons c t ih =>
    obtain ⟨rest, rfl, rfl⟩ | ⟨heq, hstart⟩ := freeBrackets_cases c t
    · rw [freeBrackets_cons_of_slash] at h
      exact absurd (List.cons.inj h).1 (by decide)
    · rw [heq] at h
      obtain ⟨hin, hxy⟩ := ih (List.cons.inj h).2
      exact ⟨fun hcons => (List.infix_cons_iff.1 hcons).elim hstart hin, hxy⟩

theorem count_freeBrackets (t : Text) : (freeBrackets t).count colon = t.count colon := by
  induction t with
  | nil => rfl
  | cons c t ih =>
    rw [freeBrackets]
    split
    · rename_i h
      rw [Bool.and_eq_true, decide_eq_true_iff] at h
      rw [ih, h.1, List.count_cons_of_ne (by decide)]
    · rw [List.count_cons, List.count_cons, ih]

theorem mem_of_mem_freeBrackets {c : CodePoint} {t : Text} (h : c ∈ freeBrackets t) : c ∈ t := by
  induction t with
  | nil => cases h
  | cons d t ih =>
    rw [freeBrackets] at h
    split at h
    · exact List.mem_cons_of_mem d (ih h)
    · exact (List.mem_cons.1 h).elim (fun h => h ▸ List.mem_cons_self) fun h => List.mem_cons_of_mem d (ih h)

theorem freeBrackets_append {s : Text} (hs : s.head? ≠ some openBracket) (t : Text) :
    freeBrackets (t ++ s) = freeBrackets t ++ freeBrackets s := by
  induction t with
  | nil => rfl
  | cons c t ih =>
    have hhead : (t ++ s).head? = some openBracket ↔ t.head? = some openBracket := by
      cases t with
      | nil => exact iff_of_false hs nofun
      | cons d t => exact Iff.rfl
    rw [List.cons_append, freeBrackets, freeBrackets, ih]
    simp only [hhead]
    split <;> rfl

theorem freeBrackets_copies (n : Nat) : freeBrackets (Text.copies n backslash) = Text.copies n backslash :=
  freeBrackets_eq_self fun h => (bare_copies n).1 (h.subset (by simp))

theorem freeBrackets_append_copies (t : Text) (n : Nat) :
    freeBrackets (t ++ Text.copies n backslash) = freeBrackets t ++ Text.copies n backslash := by
  rw [freeBrackets_append, freeBrackets_copies]
  intro h
  exact (bare_copies n).1 (List.mem_of_mem_head? h)

/-- No bracket opens within a tag. -/
theorem freeBrackets_tag {tag : Text} (h : IsTag tag) : freeBrackets tag = tag := by
  obtain ⟨c, inner, hc, hinner, rfl⟩ := h
  refine freeBrackets_eq_self fun hin => ?_
  have hrest : openBracket ∉ c :: (inner ++ [closeBracket]) := by
    have hne : openBracket ≠ c := by
      rintro rfl
      rw [startsTag_openBracket] at hc
      cases hc
    simp [hne, hinner.1, show openBracket ≠ closeBracket by decide]
  obtain ⟨rest, hstart⟩ | hin := List.infix_cons_iff.1 hin
  · exact absurd (List.cons.inj hstart).1 (by decide)
  · exact hrest (hin.subset (by simp))

/-! ## Reading a stretch -/

/-- What is shown of a stretch of text. -/
def reading (symbols : Symbols) (t : Text) : Text := replaceSymbols symbols (freeBrackets t)

/-- A text is shown as it is: no backslash stands before an opening bracket, and no name stands for a symbol. -/
structure Kept (symbols : Symbols) (t : Text) : Prop where
  unslashed : ¬ [backslash, openBracket] <:+: t
  unnamed : Unnamed symbols t

variable {symbols : Symbols}

theorem Kept.reading_eq {t : Text} (h : Kept symbols t) : reading symbols t = t := by
  rw [reading, freeBrackets_eq_self h.unslashed, replaceSymbols_eq_self h.unnamed]

theorem count_reading_le (t : Text) : (reading symbols t).count colon ≤ t.count colon :=
  (count_replaceSymbols (freeBrackets t)).1.trans (Nat.le_of_eq (count_freeBrackets t))

/-- Where no colon is lost, a stretch is shown without the backslashes before its brackets. -/
theorem reading_of_count_eq {t : Text} (h : (reading symbols t).count colon = t.count colon) :
    reading symbols t = freeBrackets t ∧ Unnamed symbols (freeBrackets t) := by
  have hunnamed := (count_replaceSymbols (freeBrackets t)).2 (h.trans (count_freeBrackets t).symm)
  exact ⟨replaceSymbols_eq_self hunnamed, hunnamed⟩

theorem count_flatMap_reading_le (ts : List Text) :
    (ts.flatMap (reading symbols)).count colon ≤ ts.flatten.count colon := by
  induction ts with
  | nil => exact Nat.le_refl _
  | cons t ts ih =>
    rw [List.flatMap_cons, List.flatten_cons, List.count_append, List.count_append]
    exact Nat.add_le_add (count_reading_le t) ih

theorem count_reading_eq {ts : List Text} (h : (ts.flatMap (reading symbols)).count colon = ts.flatten.count colon) :
    ∀ t ∈ ts, (reading symbols t).count colon = t.count colon := by
  induction ts with
  | nil => exact nofun
  | cons t ts ih =>
    rw [List.flatMap_cons, List.flatten_cons, List.count_append, List.count_append] at h
    have hhead : (reading symbols t).count colon ≤ t.count colon := count_reading_le t
    have htail : (ts.flatMap (reading symbols)).count colon ≤ ts.flatten.count colon := count_flatMap_reading_le ts
    exact List.forall_mem_cons.2 ⟨by omega, ih (by omega)⟩

/-- Stretches that are shown as they are, in all, are each shown as they are. -/
theorem kept_of_append_eq {ts : List Text} {x y : Text} (hts : ∀ t ∈ ts, reading symbols t = freeBrackets t ∧
    Unnamed symbols (freeBrackets t)) (h : ts.flatMap (reading symbols) ++ x = ts.flatten ++ y) :
    (∀ t ∈ ts, Kept symbols t) ∧ x = y := by
  induction ts with
  | nil => exact ⟨nofun, h⟩
  | cons t ts ih =>
    obtain ⟨⟨hreading, hunnamed⟩, hts⟩ := List.forall_mem_cons.1 hts
    rw [List.flatMap_cons, List.flatten_cons, List.append_assoc, List.append_assoc, hreading] at h
    obtain ⟨hslash, htail⟩ := of_freeBrackets_append_eq h
    obtain ⟨hkept, hxy⟩ := ih hts htail
    rw [freeBrackets_eq_self hslash] at hunnamed
    exact ⟨List.forall_mem_cons.2 ⟨⟨hslash, hunnamed⟩, hkept⟩, hxy⟩

theorem isPart_copies (n : Nat) : IsPart (Text.copies n backslash) := by
  intro c hc
  rw [List.eq_of_mem_replicate hc]
  decide

theorem reading_append_copies (t : Text) (n : Nat) :
    reading symbols (t ++ Text.copies n backslash) = reading symbols t ++ Text.copies n backslash := by
  rw [reading, freeBrackets_append_copies, replaceSymbols_append (isPart_copies n), reading]

theorem reading_nil : reading symbols [] = [] := rfl

theorem reading_copies (n : Nat) : reading symbols (Text.copies n backslash) = Text.copies n backslash :=
  reading_append_copies [] n

/-! ## Reading a cut text -/

namespace Marked

/-- The stretches of a text that is marked. -/
def stretches (m : Marked) : List Text := [m.piece, Text.copies m.backslashes backslash, m.tag]

theorem parts_escaped (m : Marked) : m.escaped.parts = m.stretches := by
  have hhalf : (2 * m.backslashes + 1) / 2 = m.backslashes := by omega
  have hodd : (2 * m.backslashes + 1) % 2 = 1 := by omega
  rw [parts, escaped, tagParts, hhalf, if_pos hodd, stretches]

theorem flatten_stretches (m : Marked) : m.stretches.flatten = m.text := by
  rw [stretches, text]
  simp

end Marked

namespace Cut

/-- The stretches of a text that is cut, but for the backslashes at its end. -/
def stretches (c : Cut) : List Text := c.marked.flatMap Marked.stretches ++ [c.rest]

theorem text_eq_stretches (c : Cut) : c.text = c.stretches.flatten ++ Text.copies c.backslashes backslash := by
  have hmarked (ms : List Marked) : (ms.flatMap Marked.stretches).flatten = ms.flatMap Marked.text := by
    induction ms with
    | nil => rfl
    | cons m ms ih =>
      rw [List.flatMap_cons, List.flatten_append, ih, m.flatten_stretches, List.flatMap_cons]
  rw [text, stretches, List.flatten_append, hmarked, List.flatten_singleton, List.append_assoc]

theorem shown_text (c : Cut) : shown symbols c.text = (c.parts.flatMap (reading symbols)).filter (!isHidden ·) := by
  rw [shown, piecesFrom_text]
  rfl

theorem flatMap_parts_escaped (c : Cut) :
    c.escaped.marked.flatMap Marked.parts = c.marked.flatMap Marked.stretches := by
  rw [escaped, List.flatMap_map]
  exact congrArg List.flatten (List.map_congr_left fun m _ => m.parts_escaped)

/-- A text that is escaped and read. -/
theorem shown_escape (c : Cut) : shown symbols (escape c.text) =
    (c.stretches.flatMap (reading symbols) ++ Text.copies c.escaped.backslashes backslash).filter (!isHidden ·) := by
  have hrest : reading symbols (c.escaped.rest ++ Text.copies c.escaped.backslashes backslash) =
      reading symbols c.rest ++ Text.copies c.escaped.backslashes backslash := reading_append_copies c.rest _
  rw [escape_text, shown_text, parts, flatMap_parts_escaped, List.flatMap_append, List.flatMap_singleton, hrest,
    stretches, List.flatMap_append, List.flatMap_singleton, List.append_assoc]

/-- A text that is cut, between two tags. -/
def within (c : Cut) {start stop : Text} (hstart : IsTag start) (hstop : IsTag stop) : Cut where
  marked := ⟨[], 0, start, plain_nil, hstart⟩ :: (c.marked ++ [⟨c.rest, c.backslashes, stop, c.plain, hstop⟩])
  rest := []
  backslashes := 0
  plain := plain_nil

theorem text_within (c : Cut) {start stop : Text} (hstart : IsTag start) (hstop : IsTag stop) :
    (c.within hstart hstop).text = start ++ c.text ++ stop := by
  rw [text, within, text]
  simp [Marked.text, Text.copies]

theorem parts_within (c : Cut) {start stop : Text} (hstart : IsTag start) (hstop : IsTag stop) :
    (c.within hstart hstop).parts =
      [[], [], []] ++ (c.marked.flatMap Marked.parts ++ c.rest :: tagParts c.backslashes stop) ++ [[]] := by
  have hnone : tagParts 0 start = [[], []] := by
    rw [tagParts, if_neg (by decide)]
    rfl
  rw [parts, within, List.flatMap_cons, List.flatMap_append, List.flatMap_singleton, Marked.parts, hnone]
  rfl

/-- A text that is escaped and read between two tags. An odd backslash at its end makes the last tag plain text. -/
theorem shown_within (c : Cut) {start stop : Text} (hstart : IsTag start) (hstop : IsTag stop) (hcolon : colon ∉ stop) :
    shown symbols (start ++ escape c.text ++ stop) = (c.stretches.flatMap (reading symbols) ++
      (tagParts c.escaped.backslashes stop).flatten).filter (!isHidden ·) := by
  have hstopped : reading symbols stop = stop := by
    rw [reading, freeBrackets_tag hstop, replaceSymbols_of_not_mem hcolon]
  have htag (n : Nat) : (tagParts n stop).flatMap (reading symbols) = (tagParts n stop).flatten := by
    rw [tagParts, List.flatMap_cons, List.flatMap_singleton, reading_copies]
    split
    · rw [hstopped]
      simp
    · rw [reading_nil]
      simp
  have hnil : [([] : Text)].flatMap (reading symbols) = [] := rfl
  have hnils : [([] : Text), [], []].flatMap (reading symbols) = [] := rfl
  rw [escape_text, ← text_within c.escaped hstart hstop, shown_text, parts_within, flatMap_parts_escaped,
    List.flatMap_append, List.flatMap_append, hnil, hnils, List.nil_append, List.append_nil, List.flatMap_append,
    List.flatMap_cons, htag, stretches, List.flatMap_append, List.flatMap_singleton, List.append_assoc]
  rfl

end Cut

end ContractBuild.Screen.Markup
