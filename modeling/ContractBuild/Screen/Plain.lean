import ContractBuild.Screen.Call
import ContractBuild.Text.Colour
import ContractBuild.Text.Space
import ContractBuild.Text.Width

/-!
# A plain screen

A plain screen writes coloured lines. Its status is the last line, which is written over: a carriage return goes back to
its start, and spaces cover what a longer text has left. A message takes the status line away and writes it again below.
Tables are aligned by the number of code points, so their lines all have the length of the heading
(`Plain.tableLines`).
-/

namespace ContractBuild.Screen

/-- A status line and the columns that it covers. -/
structure StatusLine where
  text : Text
  covered : Nat

/-- What a plain screen keeps: its status line, when there is one, and the last table. -/
structure Plain where
  status : Option StatusLine
  table : Table

namespace StatusLine

/-- Spaces. -/
def blank (n : Nat) : Text := Text.copies n ' '

/-- Writes the text over what the line covers. -/
def write (l : StatusLine) (t : Text) : Text × StatusLine :=
  ("\r" ++ t ++ blank (l.covered - t.statusColumns), ⟨t, t.statusColumns⟩)

/-- Writes the text once more. -/
def redraw (l : StatusLine) : Text × StatusLine := l.write l.text

/-- Clears the line and goes back to its start. -/
def clear (l : StatusLine) : Text × StatusLine :=
  let (out, l') := l.write []
  (out ++ "\r", { l' with text := l.text })

end StatusLine

namespace Plain

/-- The screen before any call. -/
def start : Plain := ⟨none, .new [] none⟩

/-- The colour of a level. -/
def colour : Level → Text
  | .debug => Colour.white ++ Colour.dim
  | .info => Colour.cyan
  | .success => Colour.green
  | .warning => Colour.yellow
  | .error => Colour.red
  | .critical => Colour.red ++ Colour.bright

/-- A text with a line end. -/
def line (t : Text) : Text := t ++ "\n"

/-! ## Messages and status -/

/-- Shows a message above the status line. -/
def log (s : Plain) (message : Text) (level : Level) : Text × Plain :=
  let out := line (Colour.paint (colour level) message)
  match s.status with
  | none => (out, s)
  | some l =>
    let (cleared, l) := l.clear
    let (again, l) := l.redraw
    (cleared ++ out ++ again, { s with status := some l })

/-- Opens a status line. -/
def openStatus (s : Plain) (message : Text) : Text × Plain :=
  let (out, l) := StatusLine.write ⟨[], 0⟩ message
  (out, { s with status := some l })

/-- Changes the text of the status line. -/
def update (s : Plain) (message : Text) : Text × Plain :=
  match s.status with
  | none => ([], s)
  | some l =>
    let (out, l) := l.write message
    let (again, l) := l.redraw
    (out ++ again, { s with status := some l })

/-- Leaves the status line behind. -/
def closeStatus (s : Plain) : Text × Plain :=
  match s.status with
  | none => ([], s)
  | some l => (line l.redraw.1, { s with status := none })

/-! ## Tables and panels -/

/-- The width of each column: that of its longest heading or cell. -/
def columnWidths (t : Table) : List Nat :=
  t.columns.mapIdx fun i heading =>
    t.rows.foldl (fun width row => max width ((row[i]?.map List.length).getD 0)) heading.length

/-- Cells under their columns; those without a column are left out. -/
def alignRow (widths : List Nat) (cells : List Text) : Text :=
  Text.joinWith " | " (List.zipWith (fun cell width => cell.padRight width ' ') cells widths)

/-- The lines of a table, without colours: the headings, dashes, and the rows. -/
def tableLines (t : Table) : List Text :=
  let heading := alignRow (columnWidths t) t.columns
  heading :: Text.copies heading.length '-' :: t.rows.map (alignRow (columnWidths t))

/-- A table. -/
def showTable (t : Table) : Text :=
  match tableLines t with
  | [] => []
  | heading :: rest => line (Colour.paint Colour.cyan heading) ++ rest.flatMap line

/-- A rule of the given width, which may be negative. -/
def rule (width : Int) : Text := Text.copies width.toNat '='

/-- The rule above a panel, with the title in its middle. -/
def topRule (title : Text) (width : Int) : Text :=
  if title.isEmpty then rule width
  else
    let label := " " ++ title ++ " "
    let before := Int.fdiv (width - label.length) 2
    rule before ++ label ++ rule (width - before - label.length)

/-- A panel. -/
def showPanel (content title : Text) (width : Int) : Text :=
  line (Colour.paint Colour.cyan (topRule title width)) ++
    (content.splitOn Text.lineFeed).flatMap line ++ line (Colour.paint Colour.cyan (rule width))

/-- The width of a panel when none is given. -/
def panelWidth : Int := 80

/-- Takes a call. -/
def call (s : Plain) : Call → Text × Plain
  | .log message level => s.log message level
  | .status message => s.openStatus message
  | .update message => s.update message
  | .stop => s.closeStatus
  | .table columns title => ([], { s with table := .new columns title })
  | .addRow cells => ([], { s with table := s.table.addRow cells })
  | .render => (showTable s.table, s)
  | .panel content title width _ => (showPanel content title (width.getD panelWidth), s)
  | .close => s.closeStatus

/-- Takes calls in order. -/
def calls (s : Plain) : List Call → Text × Plain
  | [] => ([], s)
  | c :: cs =>
    let (first, s) := s.call c
    let (rest, s) := s.calls cs
    (first ++ rest, s)

end Plain

end ContractBuild.Screen
