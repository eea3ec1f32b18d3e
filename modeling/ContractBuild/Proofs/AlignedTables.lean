import ContractBuild.Proofs.Affixes
import ContractBuild.Screen.Plain
import Mathlib.Data.List.Forall2
import Mathlib.Order.Bounds.Basic

/-!
# Aligned tables

A plain screen prints a table in lines of one length.

* A column is as wide as its longest heading or cell: the width holds for the heading, and every further row keeps that
  (`isGreatest_concat`), so that it holds for the whole table (`isGreatest_foldl`).
* A line is laid out by the widths alone (`LaidOut`): column by column, a cell that fits, blanks up to the width of the
  column, and a separator before the next one (`laidOut_cons`, `laidOut_alignRow`).

`Plain.render_aligned` puts this together for the calls that build a table row by row and print it.
-/

namespace ContractBuild.Screen

/-- The calls that build a table row by row and print it. -/
def Call.tableWith (columns : List Text) (title : Option Text) (rows : List (List Value)) : List Call :=
  .table columns title :: (rows.map .addRow ++ [.render])

namespace Plain

/-! ## The widths of columns -/

section Widths

variable {rows more : List (List Text)} {i width : Nat}

/-- The lengths of the cells in column `i`. -/
def lengths (rows : List (List Text)) (i : Nat) : Set Nat := {n | ∃ row ∈ rows, ∃ cell ∈ row[i]?, cell.length = n}

theorem lengths_append (rows more : List (List Text)) (i : Nat) :
    lengths (rows ++ more) i = lengths rows i ∪ lengths more i := by
  ext n
  constructor
  · rintro ⟨row, hrow, hcell⟩
    exact (List.mem_append.1 hrow).imp (fun h => ⟨row, h, hcell⟩) fun h => ⟨row, h, hcell⟩
  · rintro (⟨row, hrow, hcell⟩ | ⟨row, hrow, hcell⟩)
    · exact ⟨row, List.mem_append_left more hrow, hcell⟩
    · exact ⟨row, List.mem_append_right rows hrow, hcell⟩

theorem isGreatest_row {row : List Text} {cell : Text} (h : row[i]? = some cell) :
    IsGreatest (lengths [row] i) cell.length := by
  refine ⟨⟨row, List.mem_singleton_self row, cell, h, rfl⟩, ?_⟩
  rintro n ⟨other, hother, c, hc, rfl⟩
  rw [List.mem_singleton.1 hother, h] at hc
  rw [Option.some.inj hc]

theorem lengths_row_of_none {row : List Text} (h : row[i]? = none) : lengths [row] i = ∅ := by
  refine Set.eq_empty_of_forall_notMem ?_
  rintro n ⟨other, hother, c, hc, -⟩
  rw [List.mem_singleton.1 hother, h] at hc
  cases hc

/-- A row that is added widens the column to its own cell, if it has one there. -/
theorem isGreatest_concat (h : IsGreatest (lengths rows i) width) (row : List Text) :
    IsGreatest (lengths (rows ++ [row]) i) (max width ((row[i]?.map List.length).getD 0)) := by
  rw [lengths_append]
  cases hcell : row[i]? with
  | none =>
    rw [lengths_row_of_none hcell, Set.union_empty, Option.map_none, Option.getD_none, Nat.max_zero]
    exact h
  | some cell => exact h.union (isGreatest_row hcell)

theorem isGreatest_foldl (h : IsGreatest (lengths rows i) width) :
    IsGreatest (lengths (rows ++ more) i)
      (more.foldl (fun width row => max width ((row[i]?.map List.length).getD 0)) width) := by
  induction more generalizing rows width with
  | nil =>
    rw [List.append_nil]
    exact h
  | cons row more ih =>
    have hrest := ih (isGreatest_concat h row)
    rwa [List.append_assoc] at hrest

theorem length_columnWidths (t : Table) : (columnWidths t).length = t.columns.length := List.length_mapIdx

/-- **The width of a column** is the greatest length of its heading and its cells. -/
theorem isGreatest_columnWidths {t : Table} (h : (columnWidths t)[i]? = some width) :
    IsGreatest (lengths (t.columns :: t.rows) i) width := by
  rw [columnWidths, List.getElem?_mapIdx, Option.map_eq_some_iff] at h
  obtain ⟨heading, hheading, rfl⟩ := h
  exact isGreatest_foldl (isGreatest_row hheading)

end Widths

/-! ## Lines -/

section Layout

variable {widths : List Nat} {cells : List Text} {l : Text}

/-- What stands between two columns. -/
def columnSeparator : Text := " | "

/-- Where column `i` begins: behind the columns before it, each with a separator. -/
def columnStart : List Nat → Nat → Nat
  | width :: widths, i + 1 => width + columnSeparator.length + columnStart widths i
  | _, _ => 0

/-- The length of a line: that of the columns, with separators between them. -/
def lineLength : List Nat → Nat
  | [] => 0
  | [width] => width
  | width :: widths => width + columnSeparator.length + lineLength widths

/-- A line has a cell for each column. The cell stands as it is at the start of the column and fits in it, with blanks
behind it up to the width of the column. A separator stands before each column but the first, and nothing behind the
last. -/
structure LaidOut (widths : List Nat) (cells : List Text) (l : Text) : Prop where
  one_each : cells.length = widths.length
  length_eq : l.length = lineLength widths
  at_column : ∀ i cell width, cells[i]? = some cell → widths[i]? = some width →
    cell.length ≤ width ∧ ∃ before after, l = before ++ cell ++ StatusLine.blank (width - cell.length) ++ after ∧
      before.length = columnStart widths i ∧ (0 < i → columnSeparator <:+ before) ∧
      (i + 1 < cells.length → columnSeparator <+: after) ∧ (i + 1 = cells.length → after = [])

theorem columnStart_zero (widths : List Nat) : columnStart widths 0 = 0 := by
  cases widths <;> rfl

theorem lineLength_cons (width : Nat) (h : widths ≠ []) :
    lineLength (width :: widths) = width + columnSeparator.length + lineLength widths := by
  cases widths with
  | nil => exact absurd rfl h
  | cons second widths => rfl

theorem length_padRight {cell : Text} {width : Nat} (h : cell.length ≤ width) (c : CodePoint) :
    (cell.padRight width c).length = width := by
  rw [Text.padRight, List.length_append, Text.copies, List.length_replicate]
  omega

theorem laidOut_nil : LaidOut [] [] [] := ⟨rfl, rfl, nofun⟩

theorem laidOut_singleton {cell : Text} {width : Nat} (h : cell.length ≤ width) :
    LaidOut [width] [cell] (cell.padRight width ' ') := by
  refine ⟨rfl, length_padRight h _, fun i c w hc hw => ?_⟩
  cases i with
  | zero =>
    obtain rfl := Option.some.inj hc
    obtain rfl := Option.some.inj hw
    exact ⟨h, [], [], (List.append_nil _).symm, rfl, nofun, nofun, fun _ => rfl⟩
  | succ i => cases hc

/-- One more column in front of a line. -/
theorem laidOut_cons {cell : Text} {width : Nat} (hcell : cell.length ≤ width) (hne : cells ≠ [])
    (h : LaidOut widths cells l) :
    LaidOut (width :: widths) (cell :: cells) (cell.padRight width ' ' ++ columnSeparator ++ l) := by
  have hwidths : widths ≠ [] := by
    rw [← List.length_pos_iff, ← h.one_each, List.length_pos_iff]
    exact hne
  refine ⟨congrArg (· + 1) h.one_each, ?_, fun i c w hc hw => ?_⟩
  · rw [List.length_append, List.length_append, length_padRight hcell, h.length_eq, lineLength_cons width hwidths]
  cases i with
  | zero =>
    obtain rfl := Option.some.inj hc
    obtain rfl := Option.some.inj hw
    refine ⟨hcell, [], columnSeparator ++ l, List.append_assoc .., rfl, nofun, fun _ => List.prefix_append _ l, ?_⟩
    intro hlast
    exact absurd (List.length_eq_zero_iff.1 (Nat.succ.inj hlast).symm) hne
  | succ i =>
    obtain ⟨hfits, before, after, rfl, hstart, hsep, hnext, hlast⟩ := h.at_column i c w hc hw
    refine ⟨hfits, cell.padRight width ' ' ++ columnSeparator ++ before, after, ?_, ?_, fun _ => ?_, fun hi => ?_,
      fun hi => ?_⟩
    · simp only [List.append_assoc]
    · rw [List.length_append, List.length_append, length_padRight hcell, hstart, columnStart]
    · -- the separator is the new one before the second column, and the old one further on
      rcases Nat.eq_zero_or_pos i with rfl | hi
      · rw [List.length_eq_zero_iff.1 (hstart.trans (columnStart_zero widths)), List.append_nil]
        exact List.suffix_append _ _
      · exact (hsep hi).trans (List.suffix_append _ before)
    · exact hnext (Nat.lt_of_succ_lt_succ hi)
    · exact hlast (Nat.succ.inj hi)

theorem alignRow_singleton (width : Nat) (cell : Text) : alignRow [width] [cell] = cell.padRight width ' ' := by
  rw [alignRow, Text.joinWith, List.zipWith_cons_cons, List.zipWith_nil_left, List.intercalate_singleton]

theorem alignRow_cons (width : Nat) (cell : Text) (hcells : cells.length = widths.length) (hne : cells ≠ []) :
    alignRow (width :: widths) (cell :: cells) =
      cell.padRight width ' ' ++ columnSeparator ++ alignRow widths cells := by
  refine List.intercalate_cons_of_ne_nil fun hnil => hne ?_
  rcases List.zipWith_eq_nil_iff.1 hnil with hnil | hnil
  · exact hnil
  · rwa [hnil, List.length_nil, List.length_eq_zero_iff] at hcells

/-- **A line of a table** is laid out by the widths of the columns, when its cells fit. -/
theorem laidOut_alignRow (hcells : cells.length = widths.length)
    (hfits : ∀ (i : Nat) (cell : Text) (width : Nat), cells[i]? = some cell → widths[i]? = some width →
      cell.length ≤ width) :
    LaidOut widths cells (alignRow widths cells) := by
  induction cells generalizing widths with
  | nil =>
    rw [List.length_eq_zero_iff.1 hcells.symm]
    exact laidOut_nil
  | cons cell cells ih =>
    obtain ⟨width, widths, rfl⟩ := List.exists_cons_of_length_eq_add_one hcells.symm
    have hcell : cell.length ≤ width := hfits 0 cell width rfl rfl
    have hlength : cells.length = widths.length := Nat.succ.inj hcells
    by_cases hne : cells = []
    · subst hne
      obtain rfl := List.length_eq_zero_iff.1 hlength.symm
      rw [alignRow_singleton]
      exact laidOut_singleton hcell
    · rw [alignRow_cons width cell hlength hne]
      exact laidOut_cons hcell hne (ih hlength fun i c w hc hw => hfits (i + 1) c w hc hw)

/-- What stands in a line stands in a cell or in the separator, whose blanks are those of the padding, too. -/
theorem mem_alignRow {c : CodePoint} (h : c ∈ alignRow widths cells) :
    (∃ cell ∈ cells, c ∈ cell) ∨ c ∈ columnSeparator := by
  rcases Text.mem_intercalate h with hsep | ⟨part, hpart, hc⟩
  · exact .inr hsep
  rw [← List.map_uncurry_zip_eq_zipWith] at hpart
  obtain ⟨⟨cell, width⟩, hzip, rfl⟩ := List.mem_map.1 hpart
  rcases List.mem_append.1 hc with hcell | hblank
  · exact .inl ⟨cell, (List.of_mem_zip hzip).1, hcell⟩
  · rw [List.eq_of_mem_replicate hblank]
    exact .inr (by decide)

end Layout

/-! ## Printing -/

section Printing

/-- A table in lines: each column has a width, that of its longest heading or cell, and the headings and the rows are
laid out by these widths, in order. -/
structure Aligned (columns : List Text) (rows : List (List Text)) (widths : List Nat) (heading : Text)
    (lines : List Text) : Prop where
  one_each : widths.length = columns.length
  isGreatest : ∀ i width, widths[i]? = some width → IsGreatest (lengths (columns :: rows) i) width
  heading : LaidOut widths columns heading
  lines : List.Forall₂ (LaidOut widths) rows lines

variable {t : Table}

theorem laidOut_of_mem (h : ∀ row ∈ t.rows, row.length = t.columns.length) {row : List Text}
    (hrow : row ∈ t.columns :: t.rows) : LaidOut (columnWidths t) row (alignRow (columnWidths t) row) := by
  have hlength : row.length = (columnWidths t).length := by
    rw [length_columnWidths]
    rcases List.mem_cons.1 hrow with rfl | hrow
    · rfl
    · exact h row hrow
  exact laidOut_alignRow hlength fun i cell width hcell hwidth =>
    (isGreatest_columnWidths hwidth).2 ⟨row, hrow, cell, hcell, rfl⟩

theorem aligned (h : ∀ row ∈ t.rows, row.length = t.columns.length) :
    Aligned t.columns t.rows (columnWidths t) (alignRow (columnWidths t) t.columns)
      (t.rows.map (alignRow (columnWidths t))) where
  one_each := length_columnWidths t
  isGreatest := fun _ _ hwidth => isGreatest_columnWidths hwidth
  heading := laidOut_of_mem h List.mem_cons_self
  lines := by
    rw [List.forall₂_map_right_iff, List.forall₂_same]
    exact fun row hrow => laidOut_of_mem h (List.mem_cons_of_mem _ hrow)

/-- The lines that are printed: the heading in colour, dashes, and the rows. -/
def printedLines (widths : List Nat) (heading : Text) (lines : List Text) : List Text :=
  Colour.paint Colour.cyan heading :: Text.copies (lineLength widths) '-' :: lines

theorem showTable_eq_lines (h : ∀ row ∈ t.rows, row.length = t.columns.length) :
    showTable t = (printedLines (columnWidths t) (alignRow (columnWidths t) t.columns)
      (t.rows.map (alignRow (columnWidths t)))).flatMap line := by
  rw [printedLines, ← (aligned h).heading.length_eq]
  rfl

theorem calls_addRows (s : Plain) (rows : List (List Value)) (rest : List Call) :
    s.calls (rows.map .addRow ++ rest) =
      Plain.calls { s with table.rows := s.table.rows ++ rows.map (·.map Value.display) } rest := by
  induction rows generalizing s with
  | nil => simp
  | cons row rows ih =>
    rw [List.map_cons, List.cons_append, calls]
    simp only [call, Table.addRow, ih, List.nil_append, List.append_assoc, List.map_cons, List.singleton_append]

theorem calls_tableWith (s : Plain) (columns : List Text) (title : Option Text) (rows : List (List Value)) :
    (s.calls (Call.tableWith columns title rows)).1 =
      showTable ⟨columns, title, rows.map (·.map Value.display)⟩ := by
  rw [Call.tableWith, calls]
  simp only [call, calls_addRows]
  simp [calls, call, Table.new]

theorem splitOn_flatMap_line {ls : List Text} (h : ∀ l ∈ ls, Text.lineFeed ∉ l) :
    (ls.flatMap line).splitOn Text.lineFeed = ls ++ [[]] := by
  induction ls with
  | nil => rfl
  | cons l ls ih =>
    obtain ⟨hl, hls⟩ := List.forall_mem_cons.1 h
    have hline : (l :: ls).flatMap line = l ++ Text.lineFeed :: ls.flatMap line := by
      rw [List.flatMap_cons, line, List.append_assoc]
      rfl
    rw [hline, List.splitOn_append_cons_self_of_not_mem hl, ih hls, List.cons_append]

theorem lineFeed_not_mem_alignRow {widths : List Nat} {cells : List Text}
    (h : ∀ cell ∈ cells, Text.lineFeed ∉ cell) : Text.lineFeed ∉ alignRow widths cells := by
  intro hmem
  rcases mem_alignRow hmem with ⟨cell, hcell, hfeed⟩ | hsep
  · exact h cell hcell hfeed
  · exact absurd hsep (by decide)

/-- Where no heading and no cell has a line end, no line that is printed has one. -/
theorem lineFeed_not_mem_printedLines
    (h : ∀ row ∈ t.columns :: t.rows, ∀ cell ∈ row, Text.lineFeed ∉ cell) :
    ∀ l ∈ printedLines (columnWidths t) (alignRow (columnWidths t) t.columns) (t.rows.map (alignRow (columnWidths t))),
      Text.lineFeed ∉ l := by
  have hrow {row : List Text} (hmem : row ∈ t.columns :: t.rows) : Text.lineFeed ∉ alignRow (columnWidths t) row :=
    lineFeed_not_mem_alignRow (h row hmem)
  intro l hl
  rcases List.mem_cons.1 hl with rfl | hl
  · rw [Colour.paint, List.mem_append, List.mem_append]
    rintro ((hcolour | hheading) | hreset)
    · exact absurd hcolour (by decide)
    · exact hrow List.mem_cons_self hheading
    · exact absurd hreset (by decide)
  rcases List.mem_cons.1 hl with rfl | hl
  · exact fun hdash => absurd (List.eq_of_mem_replicate hdash) (by decide)
  · obtain ⟨row, hmem, rfl⟩ := List.mem_map.1 hl
    exact hrow (List.mem_cons_of_mem _ hmem)

end Printing

/-- **Tables are aligned**, whatever their headings and cells are, when each row has a cell for each column. The screen
prints the headings between colour codes, dashes, and the rows in order. All these lines have one length, and a column
begins at one place in all of them, with the cell as it is and blanks up to the width of the column. Where no heading and
no cell has a line end, these are the lines of the text that is printed. -/
theorem render_aligned (s : Plain) (columns : List Text) (title : Option Text) (rows : List (List Value))
    (h : ∀ row ∈ rows, row.length = columns.length) :
    ∃ widths heading lines,
      Aligned columns (rows.map (·.map Value.display)) widths heading lines ∧
      (s.calls (Call.tableWith columns title rows)).1 = (printedLines widths heading lines).flatMap line ∧
      ((∀ row ∈ columns :: rows.map (·.map Value.display), ∀ cell ∈ row, Text.lineFeed ∉ cell) →
        (s.calls (Call.tableWith columns title rows)).1.splitOn Text.lineFeed =
          printedLines widths heading lines ++ [[]]) := by
  have hrows : ∀ row ∈ rows.map (·.map Value.display), row.length = columns.length := by
    intro row hrow
    obtain ⟨cells, hcells, rfl⟩ := List.mem_map.1 hrow
    rw [List.length_map, h cells hcells]
  let t : Table := ⟨columns, title, rows.map (·.map Value.display)⟩
  have htext : (s.calls (Call.tableWith columns title rows)).1 = _ :=
    (calls_tableWith s columns title rows).trans (showTable_eq_lines (t := t) hrows)
  refine ⟨_, _, _, aligned (t := t) hrows, htext, fun hclear => ?_⟩
  rw [htext]
  exact splitOn_flatMap_line (lineFeed_not_mem_printedLines (t := t) hclear)

/-- The headings of a table of diagnostics. -/
def reportColumns : List Text := ["Severity", "Location"]

/-- Two diagnostics, of which one has no location. -/
def reportRows : List (List Value) := [[.text "error", .text "src/lib.rs:3:5"], [.text "warning", .text ""]]

/-- One column is as wide as its heading and the other as wide as a cell. -/
theorem render_aligned_report :
    (∀ row ∈ reportRows, row.length = reportColumns.length) ∧
      (∀ row ∈ reportColumns :: reportRows.map (·.map Value.display), ∀ cell ∈ row, Text.lineFeed ∉ cell) ∧
      ∃ widths heading lines,
        Aligned reportColumns (reportRows.map (·.map Value.display)) widths heading lines ∧
        (start.calls (Call.tableWith reportColumns none reportRows)).1 =
          (printedLines widths heading lines).flatMap line ∧
        (start.calls (Call.tableWith reportColumns none reportRows)).1.splitOn Text.lineFeed =
          printedLines widths heading lines ++ [[]] := by
  have hrows : ∀ row ∈ reportRows, row.length = reportColumns.length := by decide
  have hclear : ∀ row ∈ reportColumns :: reportRows.map (·.map Value.display), ∀ cell ∈ row, Text.lineFeed ∉ cell := by
    decide +kernel
  obtain ⟨widths, heading, lines, haligned, htext, hlines⟩ := render_aligned start reportColumns none reportRows hrows
  exact ⟨hrows, hclear, widths, heading, lines, haligned, htext, hlines hclear⟩

example : (start.calls (Call.tableWith reportColumns none reportRows)).1 =
    Colour.paint Colour.cyan "Severity | Location      " ++ "\n-------------------------\n" ++
      "error    | src/lib.rs:3:5\n" ++ "warning  |               \n" := by decide +kernel

end Plain

end ContractBuild.Screen
