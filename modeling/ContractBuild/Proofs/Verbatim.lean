import ContractBuild.Proofs.Markup.Reading
import ContractBuild.Screen.Boxed

/-!
# What a boxed screen shows as it is

A boxed screen shows a text without controls as it is when two things hold of its cut at the tags. Its stretches are kept:
none has a backslash before an opening bracket or a name of a symbol (`Markup.Cut.Kept`). And the backslashes at its end are
kept: at most one in a message, whose style is closed behind it, and any number but one in a panel or a cell.

`Boxed.verbatim_iff` says so for messages, panels and cells.
-/

namespace ContractBuild.Screen

namespace Markup

/-- Each stretch of a text that is cut is shown as it is. -/
def Cut.Kept (symbols : Symbols) (c : Cut) : Prop := ∀ t ∈ c.stretches, Markup.Kept symbols t

end Markup

namespace Boxed

open Markup (Cut IsTag backslash colon reading)

variable {symbols : Markup.Symbols}

/-! ## Lines -/

/-- There is no control in a text. -/
def NoControls (t : Text) : Prop := ∀ c ∈ t, 0x20 ≤ c.val

theorem filter_of_noControls {t : Text} (h : NoControls t) : t.filter (!Markup.isHidden ·) = t := by
  refine List.filter_eq_self.2 fun c hc => ?_
  have hle := h c hc
  simp only [Markup.isHidden, Bool.not_eq_true', Bool.or_eq_false_iff, Bool.and_eq_false_iff, decide_eq_false_iff_not]
  omega

theorem expandTabs_of_noControls {t : Text} (h : NoControls t) (column : Nat) : expandTabs column t = t := by
  induction t generalizing column with
  | nil => rfl
  | cons c t ih =>
    obtain ⟨hc, ht⟩ := List.forall_mem_cons.1 h
    have hne : c ≠ '\t' := by
      rintro rfl
      exact absurd hc (by decide)
    rw [expandTabs, if_neg hne, ih ht]

theorem linesOf_of_noControls {t : Text} (h : NoControls t) : linesOf t = [t] := by
  have hsplit : t.splitOn Text.lineFeed = [t] := by
    refine List.splitOnP_eq_singleton fun c hc => ?_
    have hle := h c hc
    refine beq_eq_false_iff_ne.2 ?_
    rintro rfl
    exact absurd hle (by decide)
  rw [linesOf, hsplit, List.map_singleton, expandTabs_of_noControls h]

theorem count_copies_of_ne {c d : CodePoint} (h : d ≠ c) (n : Nat) : (Text.copies n c).count d = 0 :=
  List.count_eq_zero.2 fun hmem => h (List.eq_of_mem_replicate hmem)

theorem count_expandTabs (column : Nat) (t : Text) : (expandTabs column t).count colon = t.count colon := by
  induction t generalizing column with
  | nil => rfl
  | cons c t ih =>
    rw [expandTabs]
    split
    · rename_i hc
      rw [List.count_append, count_copies_of_ne (by decide), ih, hc, List.count_cons_of_ne (by decide), Nat.zero_add]
    · rw [List.count_cons, List.count_cons, ih]

theorem count_splitOn (t : Text) : (t.splitOn Text.lineFeed).flatten.count colon = t.count colon := by
  induction t with
  | nil => rfl
  | cons c t ih =>
    rw [List.splitOn_cons_eq_if_modifyHead]
    split
    · rename_i hc
      rw [beq_iff_eq.1 hc, List.count_cons_of_ne (by decide), ← ih]
      rfl
    · obtain ⟨s, ss, hsplit⟩ := List.exists_cons_of_ne_nil (List.splitOn_ne_nil Text.lineFeed t)
      rw [hsplit] at ih ⊢
      rw [List.modifyHead_cons, List.flatten_cons, List.cons_append, List.count_cons, List.count_cons, ← ih,
        List.flatten_cons]

/-- Lines that are drawn one by one have the colons of the text. -/
theorem count_linesOf {f : Text → Text} (hf : ∀ l, (f l).count colon = l.count colon) (t : Text) :
    ((linesOf t).flatMap f).count colon = t.count colon := by
  have hlines (ss : List Text) : ((ss.map (expandTabs 0)).flatMap f).count colon = ss.flatten.count colon := by
    induction ss with
    | nil => rfl
    | cons s ss ih =>
      rw [List.map_cons, List.flatMap_cons, List.count_append, hf, count_expandTabs, ih, List.flatten_cons,
        List.count_append]
  rw [linesOf, hlines, count_splitOn]

/-! ## Kept texts -/

theorem lines_of_kept {c : Cut} (h : NoControls c.text) (hkept : c.Kept symbols) :
    linesOf ((c.stretches.flatMap (reading symbols) ++ Text.copies c.backslashes backslash).filter
      (!Markup.isHidden ·)) = [c.text] := by
  have hreading : c.stretches.flatMap (reading symbols) = c.stretches.flatten := by
    rw [List.flatMap_def, List.map_congr_left fun t ht => (hkept t ht).reading_eq, List.map_id']
  rw [hreading, ← c.text_eq_stretches, filter_of_noControls h, linesOf_of_noControls h]

/-- Texts without spaces are the same when they are the same up to the spaces behind them. -/
theorem eq_of_append_blanks {a b : Text} (ha : ∀ d ∈ a, d ≠ blank) (hb : ∀ d ∈ b, d ≠ blank) {i j : Nat}
    (h : a ++ Text.copies i blank = b ++ Text.copies j blank) : a = b := by
  have hfilter := congrArg (List.filter (· ≠ blank)) h
  have hblanks (n : Nat) : (Text.copies n blank).filter (· ≠ blank) = [] := by
    simp [Text.copies]
  have hself {t : Text} (ht : ∀ d ∈ t, d ≠ blank) : t.filter (· ≠ blank) = t :=
    List.filter_eq_self.2 fun d hd => decide_eq_true (ht d hd)
  rwa [List.filter_append, List.filter_append, hblanks, hblanks, List.append_nil, List.append_nil, hself ha,
    hself hb] at hfilter

/-- Backslashes that are left out leave no control. -/
theorem noControls_reading {c : Cut} (h : NoControls c.text)
    (hfreed : ∀ t ∈ c.stretches, reading symbols t = Markup.freeBrackets t) :
    NoControls (c.stretches.flatMap (reading symbols)) := by
  intro d hd
  obtain ⟨t, ht, hd⟩ := List.mem_flatMap.1 hd
  rw [hfreed t ht] at hd
  apply h d
  rw [c.text_eq_stretches]
  exact List.mem_append_left _ (List.mem_flatten.2 ⟨t, ht, Markup.mem_of_mem_freeBrackets hd⟩)

/-- A text whose lines are drawn as it is has kept its stretches and the backslashes at its end. The drawing of a line may
put spaces behind it. -/
theorem kept_of_lines {f : Text → Text} (hcount : ∀ l, (f l).count colon = l.count colon)
    (hf : ∀ a b, f a = f b → ∃ i j, a ++ Text.copies i blank = b ++ Text.copies j blank) {c : Cut}
    (h : NoControls c.text) {ending : Text} (hending : ∀ d ∈ ending, d ≠ colon ∧ d ≠ blank ∧ 0x20 ≤ d.val)
    (hlines : (linesOf ((c.stretches.flatMap (reading symbols) ++ ending).filter (!Markup.isHidden ·))).flatMap f =
      f c.text) : c.Kept symbols ∧ ending = Text.copies c.backslashes backslash := by
  -- no colon is lost, so no name is replaced
  have hnone : ending.count colon = 0 := List.count_eq_zero.2 fun hmem => (hending colon hmem).1 rfl
  have hcolons : (c.stretches.flatMap (reading symbols)).count colon = c.stretches.flatten.count colon := by
    have hall := congrArg (List.count colon) hlines
    rw [count_linesOf hcount, List.count_filter (by decide), hcount, c.text_eq_stretches, List.count_append,
      List.count_append, hnone, count_copies_of_ne (by decide)] at hall
    exact hall
  have hfreed (t : Text) (ht : t ∈ c.stretches) := Markup.reading_of_count_eq (Markup.count_reading_eq hcolons t ht)
  -- so there is one line, which is the text up to the spaces behind it
  have hclear : NoControls (c.stretches.flatMap (reading symbols) ++ ending) := by
    intro d hd
    obtain hd | hd := List.mem_append.1 hd
    · exact noControls_reading h (fun t ht => (hfreed t ht).1) d hd
    · exact (hending d hd).2.2
  rw [filter_of_noControls hclear, linesOf_of_noControls hclear, List.flatMap_singleton] at hlines
  obtain ⟨i, j, hspaced⟩ := hf _ _ hlines
  rw [c.text_eq_stretches, List.append_assoc, List.append_assoc] at hspaced
  obtain ⟨hkept, hend⟩ := Markup.kept_of_append_eq hfreed hspaced
  refine ⟨hkept, eq_of_append_blanks (fun d hd => (hending d hd).2.1) ?_ hend⟩
  intro d hd
  rw [List.eq_of_mem_replicate hd]
  decide

/-! ## Messages -/

theorem isTag_bracket {name : Text} (hfirst : name.head?.any Markup.startsTag = true) (hbare : Markup.Bare name) :
    IsTag ("[" ++ name ++ "]") := by
  cases name with
  | nil => cases hfirst
  | cons c name => exact ⟨c, name, hfirst, (Markup.Bare.of_append (t := [c]) hbare).2, rfl⟩

/-- The tag that begins the style of a level. -/
def startTag (level : Level) : Text := "[" ++ level.name ++ "]"

/-- The tag that ends the style of a level. -/
def stopTag (level : Level) : Text := "[" ++ ("/" ++ level.name) ++ "]"

theorem isTag_startTag (level : Level) : IsTag (startTag level) := by
  refine isTag_bracket ?_ ?_
  · cases level <;> decide
  · unfold Markup.Bare
    cases level <;> decide

theorem isTag_stopTag (level : Level) : IsTag (stopTag level) := by
  refine isTag_bracket ?_ ?_
  · cases level <;> decide
  · unfold Markup.Bare
    cases level <;> decide

theorem mem_stopTag {level : Level} {d : CodePoint} (h : d ∈ stopTag level) :
    d ≠ colon ∧ d ≠ blank ∧ d ≠ backslash ∧ 0x20 ≤ d.val := by
  revert d
  cases level <;> decide

/-- What is shown at the end of a message that ends with backslashes. -/
def messageEnd (level : Level) (n : Nat) : Text :=
  (Markup.tagParts (if n = 1 then 2 else n) (stopTag level)).flatten

theorem showMessage_eq (c : Cut) (level : Level) : showMessage symbols c.text level =
    (linesOf ((c.stretches.flatMap (reading symbols) ++ messageEnd level c.backslashes).filter
      (!Markup.isHidden ·))).flatMap line := by
  have hcolon : colon ∉ stopTag level := fun h => (mem_stopTag h).1 rfl
  have hmarkup : "[" ++ level.name ++ "]" ++ Markup.escape c.text ++ "[/" ++ level.name ++ "]" =
      startTag level ++ Markup.escape c.text ++ stopTag level := by
    simp [startTag, stopTag]
    rfl
  rw [showMessage, hmarkup, c.shown_within (isTag_startTag level) (isTag_stopTag level) hcolon]
  rfl

theorem mem_messageEnd {level : Level} {n : Nat} {d : CodePoint} (h : d ∈ messageEnd level n) :
    d = backslash ∨ d ∈ stopTag level := by
  rw [messageEnd, Markup.tagParts, List.flatten_cons, List.flatten_singleton, List.mem_append] at h
  obtain h | h := h
  · exact .inl (List.eq_of_mem_replicate h)
  · rw [apply_ite (d ∈ ·)] at h
    exact .inr (by_contra fun hd => by simp [hd] at h)

/-- Half of the backslashes are shown when there are two or more. -/
theorem messageEnd_eq_iff (level : Level) (n : Nat) : messageEnd level n = Text.copies n backslash ↔ n ≤ 1 := by
  constructor
  · intro h
    by_contra hn
    have hcount := congrArg (List.count backslash) h
    have hstop : (if n % 2 = 1 then stopTag level else []).count backslash = 0 := by
      refine List.count_eq_zero.2 fun hmem => ?_
      split at hmem
      · exact (mem_stopTag hmem).2.2.1 rfl
      · cases hmem
    rw [messageEnd, if_neg (by omega), Markup.tagParts, List.flatten_cons, List.flatten_singleton, List.count_append,
      hstop, Text.copies, Text.copies, List.count_replicate_self, List.count_replicate_self] at hcount
    omega
  · intro hn
    obtain rfl | rfl : n = 0 ∨ n = 1 := by omega
    · rfl
    · rfl

theorem count_line (l : Text) : (line l).count colon = l.count colon := by
  rw [line, List.count_append, show List.count colon ("\n" : Text) = 0 by decide, Nat.add_zero]

theorem line_inj {a b : Text} (h : line a = line b) :
    ∃ i j, a ++ Text.copies i blank = b ++ Text.copies j blank :=
  ⟨0, 0, by rw [List.append_cancel_right h]⟩

/-! ## Panels and cells -/

theorem contentLines_eq (c : Cut) : contentLines symbols c.text =
    linesOf ((c.stretches.flatMap (reading symbols) ++ Text.copies c.escaped.backslashes backslash).filter
      (!Markup.isHidden ·)) := by
  rw [contentLines, c.shown_escape]

theorem copies_escaped_eq_iff (c : Cut) :
    Text.copies c.escaped.backslashes backslash = Text.copies c.backslashes backslash ↔ c.backslashes ≠ 1 := by
  constructor
  · intro h hone
    have hlength := congrArg List.length h
    rw [Text.copies, Text.copies, List.length_replicate, List.length_replicate, Cut.escaped, if_pos hone, hone] at hlength
    cases hlength
  · intro hne
    rw [Cut.escaped, if_neg hne]

theorem count_panelLine (inner : Nat) (l : Text) : (panelLine inner l).count colon = l.count colon := by
  rw [panelLine, line, pad, List.count_append, List.count_append, List.count_append, List.count_append,
    count_copies_of_ne (by decide), show List.count colon ("│ " : Text) = 0 by decide,
    show List.count colon (" │" : Text) = 0 by decide, show List.count colon ("\n" : Text) = 0 by decide]
  omega

theorem panelLine_inj {inner : Nat} {a b : Text} (h : panelLine inner a = panelLine inner b) :
    ∃ i j, a ++ Text.copies i blank = b ++ Text.copies j blank := by
  rw [panelLine, panelLine, line, line] at h
  have hpad : pad (inner - 2) a = pad (inner - 2) b :=
    List.append_cancel_left (List.append_cancel_right (List.append_cancel_right h))
  exact ⟨_, _, hpad⟩

/-- The content of a panel or a cell is one line, the text, when it is drawn so. -/
theorem contentLines_kept {f : Text → Text} (hcount : ∀ l, (f l).count colon = l.count colon)
    (hf : ∀ a b, f a = f b → ∃ i j, a ++ Text.copies i blank = b ++ Text.copies j blank) {c : Cut}
    (h : NoControls c.text) (hlines : (contentLines symbols c.text).flatMap f = f c.text) :
    c.Kept symbols ∧ c.backslashes ≠ 1 := by
  rw [contentLines_eq] at hlines
  have hending : ∀ d ∈ Text.copies c.escaped.backslashes backslash, d ≠ colon ∧ d ≠ blank ∧ 0x20 ≤ d.val := by
    intro d hd
    rw [List.eq_of_mem_replicate hd]
    decide
  obtain ⟨hkept, hend⟩ := kept_of_lines hcount hf h hending hlines
  exact ⟨hkept, (copies_escaped_eq_iff c).1 hend⟩

theorem contentLines_of_kept {c : Cut} (h : NoControls c.text) (hkept : c.Kept symbols) (hne : c.backslashes ≠ 1) :
    contentLines symbols c.text = [c.text] := by
  rw [contentLines_eq, (copies_escaped_eq_iff c).2 hne]
  exact lines_of_kept h hkept

/-! ## Texts that are shown as they are -/

theorem showMessage_eq_iff {c : Cut} (h : NoControls c.text) (level : Level) :
    showMessage symbols c.text level = line c.text ↔ c.Kept symbols ∧ c.backslashes ≤ 1 := by
  rw [showMessage_eq, ← messageEnd_eq_iff level]
  constructor
  · have hending : ∀ d ∈ messageEnd level c.backslashes, d ≠ colon ∧ d ≠ blank ∧ 0x20 ≤ d.val := by
      intro d hd
      obtain rfl | hd := mem_messageEnd hd
      · decide
      · obtain ⟨hcolon, hblank, -, hle⟩ := mem_stopTag hd
        exact ⟨hcolon, hblank, hle⟩
    intro hlines
    exact kept_of_lines count_line (fun _ _ => line_inj) h hending hlines
  · rintro ⟨hkept, hend⟩
    rw [hend, lines_of_kept h hkept]
    exact List.append_nil _

theorem contentLines_eq_iff {c : Cut} (h : NoControls c.text) :
    contentLines symbols c.text = [c.text] ↔ c.Kept symbols ∧ c.backslashes ≠ 1 := by
  constructor
  · intro hlines
    apply contentLines_kept count_line (fun _ _ => line_inj) h
    rw [hlines, List.flatMap_singleton]
  · rintro ⟨hkept, hne⟩
    exact contentLines_of_kept h hkept hne

theorem showPanel_eq_iff {c : Cut} (h : NoControls c.text) (screenWidth : Nat) (title : Text) (width : Option Int) :
    showPanel symbols screenWidth c.text title width = drawPanel symbols screenWidth title width [c.text] ↔
      c.Kept symbols ∧ c.backslashes ≠ 1 := by
  constructor
  · intro hpanel
    apply contentLines_kept (count_panelLine (panelEdge symbols screenWidth title width).1) (fun _ _ => panelLine_inj) h
    have hinner := List.append_cancel_left (List.append_cancel_right hpanel)
    rwa [List.flatMap_singleton] at hinner
  · rintro ⟨hkept, hne⟩
    rw [showPanel, contentLines_of_kept h hkept hne]

theorem showTable_eq {t : Table} (h : ∀ row ∈ t.rows, ∀ cell ∈ row, contentLines symbols cell = [cell]) :
    showTable symbols t =
      drawTable symbols t.columns t.shownTitle? (t.rows.map fun row => row.map fun cell => [cell]) := by
  have hrows : t.rows.map (fun row => row.map (contentLines symbols)) =
      t.rows.map fun row => row.map fun cell => [cell] :=
    List.map_congr_left fun row hrow => List.map_congr_left fun cell hcell => h row hrow cell hcell
  rw [showTable, hrows]

/-- **What is shown as it is.** A text without controls, cut at its tags in any way that there is, is shown as a message
exactly when its stretches are kept and it ends with one backslash at most, and in a panel or a cell exactly when its
stretches are kept and it does not end with a single backslash. A table whose cells are shown so is drawn with the cells as
they are. -/
theorem verbatim_iff (screenWidth : Nat) (s : Boxed) (t : Text) (ht : NoControls t) :
    (∃ c : Cut, c.text = t) ∧ (∀ c : Cut, c.text = t →
      (∀ level, (s.call screenWidth (.log t level)).1 = line t ↔ c.Kept s.symbols ∧ c.backslashes ≤ 1) ∧
      (∀ title width style, (s.call screenWidth (.panel t title width style)).1 =
        drawPanel s.symbols screenWidth title width [t] ↔ c.Kept s.symbols ∧ c.backslashes ≠ 1) ∧
      (contentLines s.symbols t = [t] ↔ c.Kept s.symbols ∧ c.backslashes ≠ 1)) ∧
    ((∀ row ∈ s.table.rows, ∀ cell ∈ row, contentLines s.symbols cell = [cell]) →
      (s.call screenWidth .render).1 = drawTable s.symbols s.table.columns s.table.shownTitle?
        (s.table.rows.map fun row => row.map fun cell => [cell])) := by
  refine ⟨Markup.exists_cut t, ?_, showTable_eq⟩
  rintro c rfl
  refine ⟨fun level => ?_, fun title width style => ?_, contentLines_eq_iff ht⟩
  · dsimp only [call]
    exact showMessage_eq_iff ht level
  · dsimp only [call]
    exact showPanel_eq_iff ht screenWidth title width

/-- A text with a tag. -/
def bracketedText : Text := "[u8; 32]"

theorem isTag_bracketedText : IsTag bracketedText := by
  refine ⟨'u', "8; 32", by decide, ?_, rfl⟩
  unfold Markup.Bare
  decide

/-- That text, cut. -/
def bracketedCut : Cut where
  marked := [⟨[], 0, bracketedText, Markup.plain_nil, isTag_bracketedText⟩]
  rest := []
  backslashes := 0
  plain := Markup.plain_nil

theorem kept_of_names_eq_nil {t : Text} (hslash : ¬ [backslash, Markup.openBracket] <:+: t)
    (hnames : Markup.names t = []) : Markup.Kept symbols t := by
  refine ⟨hslash, fun name hname => ?_⟩
  rw [hnames] at hname
  cases hname

/-- Compiler output with brackets is shown as it is. -/
theorem verbatim_iff_brackets :
    NoControls bracketedText ∧
      (start.call 80 (.log bracketedText .error)).1 = line bracketedText ∧
      (start.call 80 (.panel bracketedText [] none none)).1 = drawPanel start.symbols 80 [] none [bracketedText] ∧
      contentLines start.symbols bracketedText = [bracketedText] := by
  have hclear : NoControls bracketedText := by
    unfold NoControls
    decide
  have hkept : bracketedCut.Kept start.symbols := by
    have hempty : Markup.Kept start.symbols [] := kept_of_names_eq_nil (by decide) rfl
    have htag : Markup.Kept start.symbols bracketedText := kept_of_names_eq_nil (by decide) rfl
    intro t ht
    obtain rfl | rfl | rfl : t = [] ∨ t = bracketedText ∨ t = [] := by
      simpa [bracketedCut, Cut.stretches, Markup.Marked.stretches, Text.copies] using ht
    · exact hempty
    · exact htag
    · exact hempty
  obtain ⟨-, hcut, -⟩ := verbatim_iff 80 start bracketedText hclear
  obtain ⟨hlog, hpanel, hcell⟩ := hcut bracketedCut rfl
  exact ⟨hclear, (hlog .error).2 ⟨hkept, by decide⟩, (hpanel [] none none).2 ⟨hkept, by decide⟩,
    hcell.2 ⟨hkept, by decide⟩⟩

/-- **Not every text is shown as it is.** A line behind the name of a file may be taken for a symbol, a backslash before a
bracket that opens no tag is dropped, of two backslashes at the end of a message one is shown, of three one with the tag that
ends the style, and one backslash at the end of a panel or a cell is doubled. -/
theorem not_verbatim :
    (start.call 80 (.log "src/b.rs:100:1" .info)).1 = line "src/b.rs💯1" ∧
      (start.call 80 (.log "a\\[1]" .info)).1 = line "a[1]" ∧
      (start.call 80 (.log "a\\\\" .info)).1 = line "a\\" ∧
      (start.call 80 (.log "a\\\\\\" .info)).1 = line "a\\[/info]" ∧
      (start.call 80 (.panel "a\\" [] none none)).1 = drawPanel start.symbols 80 [] none ["a\\\\"] ∧
      contentLines start.symbols "a\\" = ["a\\\\"] ∧
      ¬ ∀ t, NoControls t → (start.call 80 (.log t .info)).1 = line t := by
  have hsymbol : (start.call 80 (.log "src/b.rs:100:1" .info)).1 = line "src/b.rs💯1" := by decide +kernel
  refine ⟨hsymbol, by decide +kernel, by decide +kernel, by decide +kernel, by decide +kernel, by decide +kernel,
    fun hall => ?_⟩
  have hclear : NoControls "src/b.rs:100:1" := by
    unfold NoControls
    decide
  exact absurd (hsymbol.symm.trans (hall _ hclear)) (by decide +kernel)

end Boxed

end ContractBuild.Screen
