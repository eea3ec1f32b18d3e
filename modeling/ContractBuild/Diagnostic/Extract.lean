import ContractBuild.Diagnostic.Basic
import ContractBuild.Diagnostic.Documentation
import ContractBuild.Message

/-!
# Diagnostics of a message

A compiler message at the level of an error or a warning gives one diagnostic for every span that names a file, unless
the span says that it is not a primary one. Spans count lines and columns from one. All diagnostics of a message share
its text and its documentation.
-/

namespace ContractBuild.Diagnostic

/-- A coordinate of a span, `default` when it is zero or no integer. -/
def coordinate (default : Int) : Option Value → Int
  | some (.int n) => if n = 0 then default else n
  | _ => default

/-- The position of a line and a column that count from one. -/
def position (line column : Int) : Position := ⟨max 0 (line - 1), max 0 (column - 1)⟩

/-- The range of a span; an end before the start is moved to the start. -/
def spanRange (span : List (Text × Value)) : SourceRange :=
  let line := coordinate 1 (Value.entry? "line_start" span)
  let column := coordinate 1 (Value.entry? "column_start" span)
  let start := position line column
  let stop := position (coordinate line (Value.entry? "line_end" span)) (coordinate column (Value.entry? "column_end" span))
  ⟨start, if stop.isBefore start then start else stop⟩

/-- The file of a span that gives a diagnostic. -/
def spanFile? (span : List (Text × Value)) : Option Text :=
  match Value.entry? "is_primary" span with
  | some (.bool false) => none
  | _ =>
    match Value.entry? "file_name" span with
    | some (.text file) => if file.isEmpty then none else some file
    | _ => none

/-- A text that is not empty. -/
def fullText? : Option Value → Option Text
  | some (.text t) => if t.isEmpty then none else some t
  | _ => none

/-- The text of a message: the rendered one, else the bare one, else nothing. -/
def displayText (body : List (Text × Value)) : Text :=
  match fullText? (Value.entry? "rendered" body) with
  | some t => t
  | none => (fullText? (Value.entry? "message" body)).getD []

/-- The code that a message carries, passed on as it is when it counts as true. -/
def codeOf (body : List (Text × Value)) : Value :=
  let code := match Value.entry? "code" body with
    | some (.map info) => (Value.entry? "code" info).getD .null
    | _ => .null
  if code.isTruthy then code else .text Documentation.defaultCode

/-- The severity that a level stands for; a list or a map cannot be a level. -/
def severityOf? : Option Value → Except Message.Fault (Option Severity)
  | some (.text level) => .ok (Severity.ofName? level)
  | some (.list _) => .error (.unusableLevel "list")
  | some (.map _) => .error (.unusableLevel "dict")
  | _ => .ok none

/-- The diagnostic of a span. -/
def ofSpan? (severity : Severity) (text : Text) (code : Option Value) (documentation : Option Text) :
    Value → Option Diagnostic
  | .map span => (spanFile? span).map fun file => ⟨file, spanRange span, severity, text, code, documentation⟩
  | _ => none

/-- The diagnostics of a message body with the given spans. -/
def ofBody (body : List (Text × Value)) (spans : List Value) (severity : Severity) : List Diagnostic :=
  let text := displayText body
  match Documentation.ofText? text with
  | none => spans.filterMap (ofSpan? severity text none none)
  | some d => spans.filterMap (ofSpan? severity text (some (codeOf body)) (some d.url))

/-- The diagnostics of a message, in the order of its spans. -/
def ofMessage (m : Message) : Except Message.Fault (List Diagnostic) :=
  if m.kind ≠ .compilerDiagnostic then .ok []
  else match m.field? "message" with
    | some (.map body) =>
      match Value.entry? "spans" body with
      | some (.list (s :: ss)) =>
        match severityOf? (Value.entry? "level" body) with
        | .error e => .error e
        | .ok none => .ok []
        | .ok (some severity) => .ok (ofBody body (s :: ss) severity)
      | _ => .ok []
    | _ => .ok []

end ContractBuild.Diagnostic
