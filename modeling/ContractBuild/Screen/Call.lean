import ContractBuild.Value.Display

/-!
# Calls to a screen

What a build shows is a list of calls: messages, a status that is updated while cargo runs, tables, and panels. Screens
differ in how they show them. A table is built row by row and then rendered; calls about a status or a table concern the
last one.
-/

namespace ContractBuild.Screen

/-- How much a message matters on a screen. -/
inductive Level where
  | debug
  | info
  | success
  | warning
  | error
  | critical
deriving DecidableEq

namespace Level

/-- The name of a level. -/
def name : Level → Text
  | .debug => "debug"
  | .info => "info"
  | .success => "success"
  | .warning => "warning"
  | .error => "error"
  | .critical => "critical"

/-- The levels, in order. -/
def all : List Level := [.debug, .info, .success, .warning, .error, .critical]

/-- The level with a name. -/
def ofName? (t : Text) : Option Level := all.find? (·.name = t)

/-- The wording of the error that a value is no level. -/
def unknown (v : Value) : Text := v.shown ++ " is not a valid LogLevel"

end Level

/-- A call to a screen. -/
inductive Call where
  | log (message : Text) (level : Level)
  | status (message : Text)
  | update (message : Text)
  | stop
  | table (columns : List Text) (title : Option Text)
  | addRow (cells : List Value)
  | render
  | panel (content title : Text) (width : Option Int) (borderStyle : Option Text)
  | close

namespace Call

/-- A call as a value: its name and its arguments. -/
def toValue : Call → Value
  | .log message level => .list [.text "log", .text message, .text level.name]
  | .status message => .list [.text "status", .text message]
  | .update message => .list [.text "update", .text message]
  | .stop => .list [.text "stop"]
  | .table columns title => .list [.text "table", .list (columns.map .text), .ofText? title]
  | .addRow cells => .list (.text "add_row" :: cells)
  | .render => .list [.text "render"]
  | .panel content title _ borderStyle =>
    .list [.text "panel", .text content, .text title, .ofText? borderStyle]
  | .close => .list [.text "close"]

end Call

/-- A table that is being built. -/
structure Table where
  columns : List Text
  title : Option Text
  rows : List (List Text)

namespace Table

/-- A table without rows. -/
def new (columns : List Text) (title : Option Text) : Table := ⟨columns, title, []⟩

/-- The table with another row. -/
def addRow (t : Table) (cells : List Value) : Table := { t with rows := t.rows ++ [cells.map Value.display] }

/-- The title, unless it is empty. -/
def shownTitle? (t : Table) : Option Text := t.title.filter (· ≠ [])

end Table

end ContractBuild.Screen
