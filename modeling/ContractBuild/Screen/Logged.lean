import ContractBuild.Log
import ContractBuild.Screen.Call
import ContractBuild.Text.Space

/-!
# A screen made of log records

Where there is no screen, calls become log records: one for each message, for each line of a panel and for each row of a
table, and one for each status text that differs from the one before it.
-/

namespace ContractBuild.Screen

/-- What a screen made of log records keeps: the last status text and the last table. -/
structure Logged where
  status : Option Text
  table : Table

namespace Logged

/-- The screen before any call. -/
def start : Logged := ⟨none, .new [] none⟩

/-- The level of the records for a level. -/
def level : Level → Log.Level
  | .debug => Log.debug
  | .info | .success => Log.info
  | .warning => Log.warning
  | .error => Log.error
  | .critical => Log.critical

/-- A record of the screen. -/
def record (message : Text) : Log.Record := ⟨Log.screen, Log.info, message⟩

/-- Cells next to one another. -/
def row (cells : List Text) : Log.Record := record (Text.joinWith " | " cells)

/-- The records of a table. -/
def tableRecords (t : Table) : List Log.Record :=
  let heading := t.shownTitle?.toList.map fun title =>
    record (title ++ " (" ++ Text.ofNat t.rows.length ++ " row(s))")
  heading ++ row t.columns :: t.rows.map row

/-- The records of a panel. -/
def panelRecords (content title : Text) : List Log.Record :=
  let heading : List Text := if title.isEmpty then [] else ["[" ++ title ++ "]"]
  (heading ++ content.lines).map record

/-- Shows a status text. -/
def update (s : Logged) (message : Text) : List Log.Record × Logged :=
  if s.status = some message then ([], s) else ([record message], { s with status := some message })

/-- Takes a call. -/
def call (s : Logged) : Call → List Log.Record × Logged
  | .log message l => ([⟨Log.screen, level l, message⟩], s)
  | .status message => { s with status := none }.update message
  | .update message => s.update message
  | .stop => ([], { s with status := none })
  | .table columns title => ([], { s with table := .new columns title })
  | .addRow cells => ([], { s with table := s.table.addRow cells })
  | .render => (tableRecords s.table, s)
  | .panel content title _ _ => (panelRecords content title, s)
  | .close => ([], s)

/-- Takes calls in order. -/
def calls (s : Logged) : List Call → List Log.Record × Logged
  | [] => ([], s)
  | c :: cs =>
    let (first, s) := s.call c
    let (rest, s) := s.calls cs
    (first ++ rest, s)

end Logged

end ContractBuild.Screen
