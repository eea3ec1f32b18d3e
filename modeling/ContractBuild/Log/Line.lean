import ContractBuild.Log
import ContractBuild.Settings.Template
import ContractBuild.Text.Colour

/-!
# Log lines

A record is written as a line whose format is a template with the fields of the record. On a console the name of the level is
coloured.
-/

namespace ContractBuild.Log

/-- The format of lines that hold the message only. -/
def bareFormat : Text := "%(message)s"

/-- The format that a setting gives. It has to have a field. -/
def formatOf (v : Value) : Except Settings.Error Text :=
  if !v.isTruthy then .ok bareFormat
  else match v with
    | .text t => if Settings.Template.hasField t then .ok t else .error (.formatWithoutField t)
    | v => .error (.formatNoText v)

/-- The fields of a record, with the time that the clock shows and the name that is given to the level. -/
def Record.fields (clock levelName : Text) (r : Record) : List (Text × Value) := [
  ("name", .text r.logger),
  ("msg", .text r.message),
  ("message", .text r.message),
  ("levelname", .text levelName),
  ("levelno", .int r.level),
  ("asctime", .text clock),
  ("threadName", .text "MainThread"),
  ("processName", .text "MainProcess"),
  ("exc_info", .null),
  ("exc_text", .null),
  ("stack_info", .null)]

/-- The line of a record in a file. -/
def plainLine (clock format : Text) (r : Record) : Except Settings.Error Text :=
  Settings.Template.fill (r.fields clock (levelName r.level)) format

/-- The colour of a level, none for low ones. -/
def levelColour? (l : Level) : Option Text :=
  if critical ≤ l then some (Colour.red ++ Colour.bright)
  else if error ≤ l then some Colour.red
  else if warning ≤ l then some Colour.yellow
  else if info ≤ l then some Colour.cyan
  else none

/-- The name of a level in its colour. -/
def colouredName (l : Level) : Text :=
  match levelColour? l with
  | some colour => Colour.paint colour (levelName l)
  | none => levelName l

/-- The line of a record on a console. -/
def colouredLine (clock format : Text) (r : Record) : Except Settings.Error Text :=
  Settings.Template.fill (r.fields clock (colouredName r.level)) format

end ContractBuild.Log
