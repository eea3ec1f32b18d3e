import ContractBuild.Value.Display

/-!
# Diagnostics

A diagnostic is an error or a warning at a range of a source file. Lines and characters count from zero, and a range does
not end before it starts. Positions are ordered by line, then by character.
-/

namespace ContractBuild

/-- How bad a diagnostic is. -/
inductive Severity where
  | error
  | warning
deriving DecidableEq

namespace Severity

/-- The name of a severity. -/
def name : Severity → Text
  | .error => "error"
  | .warning => "warning"

/-- The severity with a name. -/
def ofName? (t : Text) : Option Severity :=
  if t = "error" then some .error else if t = "warning" then some .warning else none

/-- The wording of the error that a value is no severity. -/
def unknown (v : Value) : Text := v.shown ++ " is not a valid Severity"

end Severity

/-- A place in a source file. -/
structure Position where
  line : Int
  character : Int
deriving DecidableEq

/-- Whether one position stands before another. -/
def Position.isBefore (p q : Position) : Bool := p.line < q.line || (p.line = q.line && p.character < q.character)

/-- A stretch of a source file. -/
structure SourceRange where
  start : Position
  stop : Position
deriving DecidableEq

/-- An error or a warning about a stretch of a source file. -/
structure Diagnostic where
  file : Text
  range : SourceRange
  severity : Severity
  message : Text
  code : Option Value
  documentation : Option Text

/-- A position as a value. -/
def Position.toValue (p : Position) : Value := .map [("line", .int p.line), ("character", .int p.character)]

/-- A diagnostic as a value. -/
def Diagnostic.toValue (d : Diagnostic) : Value :=
  .map [
    ("file_path", .text d.file),
    ("range", .map [("start", d.range.start.toValue), ("end", d.range.stop.toValue)]),
    ("severity", .text d.severity.name),
    ("message", .text d.message),
    ("code", d.code.getD .null),
    ("documentation_url", .ofText? d.documentation)]

end ContractBuild
