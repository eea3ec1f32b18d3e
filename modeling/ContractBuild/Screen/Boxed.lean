import ContractBuild.Screen.Call
import ContractBuild.Screen.Markup
import ContractBuild.Text.Width

/-!
# A boxed screen

A boxed screen draws panels and tables with lines. A panel is as wide as the screen. The columns of a table are as wide
as their widest cell, with a space on either side; a row with more cells than there are columns makes columns without a
heading. Titles stand in the middle, and a spare column goes to their right. The status is not written, but closing the
screen writes a line end when there was one. The screen is taken to be wide enough for what it shows. Which names show as
symbols is part of the screen.
-/

namespace ContractBuild.Screen

/-- What a boxed screen keeps: the symbols that it knows, whether a status was shown since it was last closed, and the last
table. -/
structure Boxed where
  symbols : Markup.Symbols
  started : Bool
  table : Table

namespace Boxed

/-- The screen before any call. -/
def start : Boxed := ⟨.numbered, false, .new [] none⟩

/-- A space. -/
def blank : CodePoint := ' '

/-- The distance between two tab stops. -/
def tabSize : Nat := 8

/-- A line with spaces up to the tab stops, from the given column on. -/
def expandTabs (column : Nat) : Text → Text
  | [] => []
  | c :: t =>
    if c = '\t' then
      let width := tabSize - column % tabSize
      Text.copies width blank ++ expandTabs (column + width) t
    else c :: expandTabs (column + c.columns) t

/-- The lines of a text. -/
def linesOf (t : Text) : List Text := (t.splitOn Text.lineFeed).map (expandTabs 0)

/-- A line with spaces behind it up to a width. -/
def pad (width : Nat) (t : Text) : Text := t ++ Text.copies (width - t.columns) blank

/-- A line in the middle of a width. -/
def centre (fill : CodePoint) (width : Nat) (t : Text) : Text :=
  let spare := width - t.columns
  Text.copies (spare / 2) fill ++ t ++ Text.copies (spare - spare / 2) fill

/-- A line with a line end. -/
def line (t : Text) : Text := t ++ "\n"

/-- The lines of a text that is to be shown as it is, in a panel or a cell. -/
def contentLines (symbols : Markup.Symbols) (t : Text) : List Text := linesOf (Markup.shown symbols (Markup.escape t))

/-! ## Panels -/

/-- The title of a panel with a space on either side. -/
def panelTitle? (symbols : Markup.Symbols) (title : Text) : Option Text :=
  if title.isEmpty then none
  else
    let oneLine := (Markup.shown symbols title).map fun c => if c = Text.lineFeed then blank else c
    some (" " ++ expandTabs 0 oneLine ++ " ")

/-- The width within a panel, and its upper edge. -/
def panelEdge (symbols : Markup.Symbols) (screenWidth : Nat) (title : Text) (width : Option Int) : Nat × Text :=
  let outer := (width.map fun w => min screenWidth w.toNat).getD screenWidth
  match panelTitle? symbols title with
  | none => (outer - 2, Text.copies (outer - 2) '─')
  | some t =>
    let inner := min (screenWidth - 2) (max (outer - 2) (t.columns + 2))
    (inner, if inner ≤ 2 then Text.copies inner '─' else "─" ++ centre '─' (inner - 2) t ++ "─")

/-- A line of a panel of the given inner width. -/
def panelLine (inner : Nat) (l : Text) : Text := line ("│ " ++ pad (inner - 2) l ++ " │")

/-- A panel around lines, on a screen of the given width. -/
def drawPanel (symbols : Markup.Symbols) (screenWidth : Nat) (title : Text) (width : Option Int) (content : List Text) :
    Text :=
  let (inner, top) := panelEdge symbols screenWidth title width
  line ("╭" ++ top ++ "╮") ++ content.flatMap (panelLine inner) ++ line ("╰" ++ Text.copies inner '─' ++ "╯")

/-- A panel with a text that is to be shown as it is. -/
def showPanel (symbols : Markup.Symbols) (screenWidth : Nat) (content title : Text) (width : Option Int) : Text :=
  drawPanel symbols screenWidth title width (contentLines symbols content)

/-! ## Tables -/

/-- A row in which every column has a cell. -/
def completeRow (count : Nat) (row : List (List Text)) : List (List Text) :=
  row ++ List.replicate (count - row.length) [[]]

/-- The widest line of a cell. -/
def cellWidth (cell : List Text) : Nat := (cell.map Text.columns).foldl max 0

/-- The widths of the columns of complete rows. -/
def columnWidths (rows : List (List (List Text))) : List Nat :=
  match rows with
  | [] => []
  | first :: rest => rest.foldl (fun widths row => List.zipWith max widths (row.map cellWidth)) (first.map cellWidth)

/-- A rule across the columns. -/
def rule (widths : List Nat) (left fill divider right : Text) : Text :=
  left ++ Text.joinWith divider (widths.map fun w => (List.replicate (w + 2) fill).flatten) ++ right

/-- The lines of a row. -/
def showRow (widths : List Nat) (bar : Text) (row : List (List Text)) : Text :=
  let height := (row.map List.length).foldl max 1
  (List.range height).flatMap fun i =>
    let cells := List.zipWith (fun w (cell : List Text) => " " ++ pad w (cell.getD i []) ++ " ") widths row
    line (bar ++ Text.joinWith bar cells ++ bar)

/-- A table around rows of cells, each with its lines. -/
def drawTable (symbols : Markup.Symbols) (columns : List Text) (title? : Option Text) (rows : List (List (List Text))) :
    Text :=
  let headings := columns.map fun c => linesOf (Markup.shown symbols c)
  let count := (rows.map List.length).foldl max headings.length
  if count = 0 then "\n"
  else
    let head := completeRow count headings
    let rows := rows.map (completeRow count)
    let widths := columnWidths (head :: rows)
    let width := widths.foldl (fun total w => total + w + 3) 1
    let title := title?.toList.flatMap fun title =>
      (linesOf (Markup.shown symbols title)).flatMap fun l => line (centre blank width l.stripRight)
    title ++ line (rule widths "┏" "━" "┳" "┓") ++ showRow widths "┃" head ++
      line (rule widths "┡" "━" "╇" "┩") ++ rows.flatMap (showRow widths "│") ++
      line (rule widths "└" "─" "┴" "┘")

/-- A table whose cells are to be shown as they are. -/
def showTable (symbols : Markup.Symbols) (t : Table) : Text :=
  drawTable symbols t.columns t.shownTitle? (t.rows.map fun row => row.map (contentLines symbols))

/-- A message in the style of its level. -/
def showMessage (symbols : Markup.Symbols) (message : Text) (level : Level) : Text :=
  let shown := Markup.shown symbols ("[" ++ level.name ++ "]" ++ Markup.escape message ++ "[/" ++ level.name ++ "]")
  (linesOf shown).flatMap line

/-- Takes a call, on a screen of the given width. -/
def call (screenWidth : Nat) (s : Boxed) : Call → Text × Boxed
  | .log message level => (showMessage s.symbols message level, s)
  | .status _ => ([], { s with started := true })
  | .update _ => ([], s)
  | .stop => ([], s)
  | .table columns title => ([], { s with table := .new columns title })
  | .addRow cells => ([], { s with table := s.table.addRow cells })
  | .render => (showTable s.symbols s.table, s)
  | .panel content title width _ => (showPanel s.symbols screenWidth content title width, s)
  | .close => (if s.started then "\n" else [], { s with started := false })

/-- Takes calls in order. -/
def calls (screenWidth : Nat) (s : Boxed) : List Call → Text × Boxed
  | [] => ([], s)
  | c :: cs =>
    let (first, s) := s.call screenWidth c
    let (rest, s) := s.calls screenWidth cs
    (first ++ rest, s)

end Boxed

end ContractBuild.Screen
