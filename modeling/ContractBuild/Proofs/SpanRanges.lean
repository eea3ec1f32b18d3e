import ContractBuild.Diagnostic.Extract
import Mathlib.Data.Prod.Lex

/-!
# The rule for the range of a span

A span has up to four coordinates, which count from one. `Coordinates.range` is the rule for them: a start that is not
there is one, an end that is not there is the start, and a range does not end before it starts.

The range of a span follows this rule for the coordinates that are not zero (`spanRange_eq_range_nonzero`), as if a
coordinate of zero were not there. At the start that makes no difference (`start_nonzero`), at the end it does
(`stop_nonzero`), and `spanRange_eq_range_iff` says when it can be seen.
-/

namespace ContractBuild.Diagnostic

/-- An end, moved to the start when it is before it. Positions are ordered by line, then by character. -/
def clamp (start stop : Position) : Position :=
  if toLex (stop.line, stop.character) < toLex (start.line, start.character) then start else stop

/-- The coordinates that a span has. -/
structure Coordinates where
  line : Option Int
  column : Option Int
  endLine : Option Int
  endColumn : Option Int

/-- The integer under a key, when there is one. -/
def integer? (key : Text) (span : List (Text × Value)) : Option Int :=
  match Value.entry? key span with
  | some (.int n) => some n
  | _ => none

namespace Coordinates

/-- The coordinates of a span are the integers under its keys. -/
def ofSpan (span : List (Text × Value)) : Coordinates :=
  ⟨integer? "line_start" span, integer? "column_start" span, integer? "line_end" span, integer? "column_end" span⟩

/-- The coordinates that are not zero. -/
def nonzero (c : Coordinates) : Coordinates :=
  ⟨c.line.filter (· ≠ 0), c.column.filter (· ≠ 0), c.endLine.filter (· ≠ 0), c.endColumn.filter (· ≠ 0)⟩

/-- Where the coordinates start, counted from zero. -/
def start (c : Coordinates) : Position := ⟨max 0 (c.line.getD 1 - 1), max 0 (c.column.getD 1 - 1)⟩

/-- Where the coordinates end, counted from zero, also when that is before the start. -/
def stop (c : Coordinates) : Position :=
  ⟨max 0 (c.endLine.getD (c.line.getD 1) - 1), max 0 (c.endColumn.getD (c.column.getD 1) - 1)⟩

/-- The range of the coordinates. -/
def range (c : Coordinates) : SourceRange := ⟨c.start, clamp c.start c.stop⟩

end Coordinates

/-! ## One coordinate -/

/-- A coordinate that is zero counts as not there. -/
theorem coordinate_eq (default : Int) (key : Text) (span : List (Text × Value)) :
    coordinate default (Value.entry? key span) = ((integer? key span).filter (· ≠ 0)).getD default := by
  unfold integer?
  split
  · rename_i n hn
    rw [hn, coordinate]
    by_cases h : n = 0 <;> simp [h, Option.filter]
  · rename_i hno
    unfold coordinate
    split
    · rename_i n hn
      exact absurd hn (hno n)
    · rfl

/-- A start of zero is the same place as one that is not there. -/
theorem place_start_filter (x : Option Int) : max 0 ((x.filter (· ≠ 0)).getD 1 - 1) = max 0 (x.getD 1 - 1) := by
  cases x with
  | none => rfl
  | some n => by_cases h : n = 0 <;> simp [h, Option.filter]

/-- Without zeros, an end of zero is the place of the start, and any other end stays where it is. -/
theorem place_end_filter (x y : Option Int) :
    max 0 ((y.filter (· ≠ 0)).getD ((x.filter (· ≠ 0)).getD 1) - 1) =
      if y = some 0 then max 0 (x.getD 1 - 1) else max 0 (y.getD (x.getD 1) - 1) := by
  cases y with
  | none => exact place_start_filter x
  | some n =>
    by_cases h : n = 0
    · have hnone : (some n).filter (· ≠ 0) = none := by simp [h, Option.filter]
      rw [hnone, h, if_pos rfl]
      exact place_start_filter x
    · simp [h, Option.filter]

/-! ## Start and end -/

namespace Coordinates

variable (c : Coordinates)

theorem start_nonzero : c.nonzero.start = c.start := by
  simp only [start, nonzero, place_start_filter]

/-- Without zeros, coordinates end where they did, except that an end of zero is that of the start. -/
theorem stop_nonzero : c.nonzero.stop =
    ⟨if c.endLine = some 0 then c.start.line else c.stop.line,
      if c.endColumn = some 0 then c.start.character else c.stop.character⟩ := by
  simp only [stop, start, nonzero, place_end_filter]

theorem start_nonneg : 0 ≤ c.start.line ∧ 0 ≤ c.start.character :=
  ⟨Int.le_max_left _ _, Int.le_max_left _ _⟩

theorem stop_nonneg : 0 ≤ c.stop.line ∧ 0 ≤ c.stop.character :=
  ⟨Int.le_max_left _ _, Int.le_max_left _ _⟩

variable {c}

theorem stop_line_of_zero (h : c.endLine = some 0) : c.stop.line = 0 := by
  rw [stop, h]
  rfl

theorem stop_character_of_zero (h : c.endColumn = some 0) : c.stop.character = 0 := by
  rw [stop, h]
  rfl

end Coordinates

/-! ## Ends that are moved -/

variable {p q : Position}

theorem isBefore_iff : p.isBefore q = true ↔ toLex (p.line, p.character) < toLex (q.line, q.character) := by
  simp [Position.isBefore, Prod.Lex.toLex_lt_toLex]

/-- An end in the line zero and the same end in the line of the start are moved to one place, unless the start is in a
later line and in an earlier column. -/
theorem clamp_same_line_iff (hp : 0 ≤ p.line) (hq : q.line = 0) :
    clamp p ⟨p.line, q.character⟩ = clamp p q ↔ ¬ (0 < p.line ∧ p.character < q.character) := by
  obtain ⟨line, character⟩ := p
  obtain ⟨_, other⟩ := q
  subst hq
  simp only at hp
  simp only [clamp, Prod.Lex.toLex_lt_toLex, true_and]
  split <;> split <;> simp only [Position.mk.injEq, true_and, and_true, true_iff] <;> omega

/-- An end in the column zero and the same end in the column of the start are moved to one place, unless the start is in
a later column and in an earlier line. -/
theorem clamp_same_character_iff (hp : 0 ≤ p.character) (hq : q.character = 0) :
    clamp p ⟨q.line, p.character⟩ = clamp p q ↔ ¬ (0 < p.character ∧ p.line < q.line) := by
  obtain ⟨line, character⟩ := p
  obtain ⟨other, _⟩ := q
  subst hq
  simp only at hp
  simp only [clamp, Prod.Lex.toLex_lt_toLex]
  split <;> split <;> simp only [Position.mk.injEq, true_and, and_true, true_iff] <;> omega

/-- An end in the line and the column zero is moved to the start. -/
theorem clamp_of_zero (hp : 0 ≤ p.line ∧ 0 ≤ p.character) (hq : q.line = 0 ∧ q.character = 0) : clamp p q = p := by
  obtain ⟨line, character⟩ := p
  obtain ⟨_, _⟩ := q
  obtain ⟨rfl, rfl⟩ := hq
  simp only at hp
  simp only [clamp, Prod.Lex.toLex_lt_toLex]
  split
  · rfl
  · simp only [Position.mk.injEq]
    omega

/-! ## Ranges -/

theorem spanRange_eq_range_nonzero (span : List (Text × Value)) :
    spanRange span = (Coordinates.ofSpan span).nonzero.range := by
  unfold spanRange
  simp only [coordinate_eq, isBefore_iff]
  rfl

/-- When the zeros among the coordinates make no difference to the range. -/
theorem Coordinates.range_nonzero_iff (c : Coordinates) :
    c.nonzero.range = c.range ↔
      ¬ (c.endLine = some 0 ∧ 0 < c.start.line ∧ c.start.character < c.stop.character) ∧
      ¬ (c.endColumn = some 0 ∧ 0 < c.start.character ∧ c.start.line < c.stop.line) := by
  have hstart := c.start_nonneg
  have hclamp : c.nonzero.range = c.range ↔ clamp c.start c.nonzero.stop = clamp c.start c.stop := by
    simp [range, start_nonzero]
  rw [hclamp, stop_nonzero]
  by_cases hline : c.endLine = some 0 <;> by_cases hcolumn : c.endColumn = some 0
  · have hq : c.stop.line = 0 ∧ c.stop.character = 0 := ⟨stop_line_of_zero hline, stop_character_of_zero hcolumn⟩
    have hsame : clamp c.start c.start = c.start := by simp [clamp]
    rw [if_pos hline, if_pos hcolumn, clamp_of_zero hstart hq]
    refine iff_of_true hsame ⟨?_, ?_⟩ <;> omega
  · have hq := stop_line_of_zero hline
    rw [if_pos hline, if_neg hcolumn, clamp_same_line_iff hstart.1 hq]
    simp [hline, hcolumn]
  · have hq := stop_character_of_zero hcolumn
    rw [if_neg hline, if_pos hcolumn, clamp_same_character_iff hstart.2 hq]
    simp [hline, hcolumn]
  · rw [if_neg hline, if_neg hcolumn]
    simp [hline, hcolumn]

/-- **The range of a span** is that of its coordinates without the zeros. It is that of all its coordinates but in two
cases: an end line of zero, when the start is not in the first line and the end is in a later column than the start; and
an end column of zero, when the start is not in the first column and the end is in a later line than the start. -/
theorem spanRange_eq_range_iff (span : List (Text × Value)) :
    let c := Coordinates.ofSpan span
    spanRange span = c.nonzero.range ∧
      (spanRange span = c.range ↔
        ¬ (c.endLine = some 0 ∧ 0 < c.start.line ∧ c.start.character < c.stop.character) ∧
        ¬ (c.endColumn = some 0 ∧ 0 < c.start.character ∧ c.start.line < c.stop.line)) := by
  intro c
  have hrange : spanRange span = c.nonzero.range := spanRange_eq_range_nonzero span
  refine ⟨hrange, ?_⟩
  rw [hrange]
  exact c.range_nonzero_iff

/-- An end column of zero is given in a later line, and the range ends in the column of its start; an end line of zero is
given with a later column, and the range does not end where it starts. -/
theorem spanRange_ne_range :
    let columnZero : List (Text × Value) :=
      [("line_start", .int 5), ("column_start", .int 3), ("line_end", .int 7), ("column_end", .int 0)]
    let lineZero : List (Text × Value) :=
      [("line_start", .int 5), ("column_start", .int 1), ("line_end", .int 0), ("column_end", .int 10)]
    spanRange columnZero = ⟨⟨4, 2⟩, ⟨6, 2⟩⟩ ∧ (Coordinates.ofSpan columnZero).range = ⟨⟨4, 2⟩, ⟨6, 0⟩⟩ ∧
      spanRange lineZero = ⟨⟨4, 0⟩, ⟨4, 9⟩⟩ ∧ (Coordinates.ofSpan lineZero).range = ⟨⟨4, 0⟩, ⟨4, 0⟩⟩ := by
  decide

end ContractBuild.Diagnostic
