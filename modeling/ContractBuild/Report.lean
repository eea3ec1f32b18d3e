import ContractBuild.Outcome
import ContractBuild.Screen.Call
import ContractBuild.Text.Space

/-!
# Reports

A report is an outcome with the folder of the project. Diagnostics are published under the normalised paths of their
source files: `published` takes relative paths from the project folder, joins the files that turn out to be one, and
leaves out what is no source file. `Report.calls` says what a screen is asked to show: the published diagnostics as a
table, the toolchain problems, and last a panel with the result. `Report.present` says the same with everything that could
go wrong on the way.
-/

namespace ContractBuild

/-- An outcome with the folder that was built. -/
structure Report where
  projectDir : Text
  outcome : Outcome

namespace Report

/-- The ending of source files. -/
def sourceExtension : Text := ".rs"

/-- The groups with diagnostics put behind those of a path. -/
def publish (path : Text) (ds : List Diagnostic) : List (Text × List Diagnostic) → List (Text × List Diagnostic)
  | [] => [(path, ds)]
  | (p, known) :: rest => if p = path then (p, known ++ ds) :: rest else (p, known) :: publish path ds rest

/-- The path under which a file is published. -/
def publishedPath? (projectDir file : Text) : Option Text :=
  let target := Path.join projectDir file
  if target.endsWith sourceExtension then some (Path.normalize target) else none

/-- The diagnostics of source files by path, the paths in the order of their first files. -/
def published (projectDir : Text) (ds : Diagnostics) : List (Text × List Diagnostic) :=
  ds.groups.foldl (fun groups (file, ds) =>
    match publishedPath? projectDir file with
    | none => groups
    | some path => publish path ds groups) []

/-- The place of a diagnostic as a reader counts: lines and characters from one. -/
def location (relative : Text) (d : Diagnostic) : Text :=
  relative ++ ":" ++ Text.ofInt (d.range.start.line + 1) ++ ":" ++ Text.ofInt (d.range.start.character + 1)

/-- The row of a diagnostic. -/
def row (relative : Text) (d : Diagnostic) : Screen.Call :=
  .addRow [.text d.severity.name, .text (location relative d), .text d.message.firstLine,
    .text (d.documentation.getD [])]

/-- The table of published diagnostics. -/
def tableCalls (r : Report) (cwd : Text) : List Screen.Call :=
  match published r.projectDir r.outcome.diagnostics with
  | [] => []
  | groups =>
    .table ["Severity", "Location", "Message", "Docs"] (some "Diagnostics") ::
      (groups.flatMap fun (path, ds) => ds.map (row (Path.relative cwd r.projectDir path))) ++ [.render]

/-- The toolchain problems. -/
def toolchainCalls (o : Outcome) : List Screen.Call :=
  if o.toolchainErrors.isEmpty then []
  else [.log ("Toolchain warning: " ++ Text.joinWith "\n" o.toolchainErrors) .warning]

/-- An optional integer in a message. -/
def shownCode : Option Int → Text
  | none => "None"
  | some n => Text.ofInt n

/-- The panel with the result. -/
def panel (o : Outcome) : Screen.Call :=
  let summary := Text.ofNat o.errors ++ " error(s), " ++ Text.ofNat o.warnings ++ " warning(s)"
  let result (first title colour : Text) : Screen.Call := .panel (first ++ "\n" ++ summary) title none (some colour)
  if o.spawnFailed then result "cargo could not be started." "Build Failed" "red"
  else if !o.success then
    result ("Build failed with exit code " ++ shownCode o.exitCode ++ " - check output for details.") "Build Failed" "red"
  else match o.artifact with
    | none => result "Build succeeded but no .wasm artifact was found." "Build Succeeded" "yellow"
    | some a => result ("Artifact: " ++ a.path) "Build Succeeded" "green"

/-- What a screen is asked to show, where relative paths are taken from the folder `cwd`. -/
def calls (r : Report) (cwd : Text) : List Screen.Call :=
  r.tableCalls cwd ++ toolchainCalls r.outcome ++ [panel r.outcome]

/-! ## Presentation -/

/-- What can go wrong where a report is presented. -/
inductive Fault where
  /-- the first line of a text without lines -/
  | noLine
  /-- the way to an empty path -/
  | emptyPath
  /-- a relative path, with no working folder to take it from -/
  | noWorkingFolder
  /-- the path of an artifact that is not there -/
  | noArtifact

/-- The first line of a text: nothing for the empty text, else the first of its lines. -/
def firstLine? (t : Text) : Except Fault Text :=
  if t.isEmpty then .ok []
  else match t.lines with
    | [] => .error .noLine
    | line :: _ => .ok line

/-- The way from `start` to `p`. The working folder is asked for only where one of them is relative. -/
def relative? (cwd? : Option Text) (start p : Text) : Except Fault Text :=
  if p.isEmpty then .error .emptyPath
  else match cwd? with
    | some cwd => .ok (Path.relative cwd start p)
    | none =>
      if Path.isAbsolute start && Path.isAbsolute p then .ok (Path.relative [] start p)
      else .error .noWorkingFolder

/-- The row of a diagnostic. -/
def row? (relative : Text) (d : Diagnostic) : Except Fault Screen.Call := do
  let line ← firstLine? d.message
  return .addRow [.text d.severity.name, .text (location relative d), .text line, .text (d.documentation.getD [])]

/-- The rows of the diagnostics that are published under a path. -/
def groupRows? (cwd? : Option Text) (projectDir : Text) (g : Text × List Diagnostic) :
    Except Fault (List Screen.Call) := do
  let relative ← relative? cwd? projectDir g.1
  g.2.mapM (row? relative)

/-- The table of published diagnostics. -/
def table? (r : Report) (cwd? : Option Text) : Except Fault (List Screen.Call) :=
  match published r.projectDir r.outcome.diagnostics with
  | [] => .ok []
  | groups => do
    let rows ← groups.mapM (groupRows? cwd? r.projectDir)
    return .table ["Severity", "Location", "Message", "Docs"] (some "Diagnostics") :: rows.flatten ++ [.render]

/-- The panel with the result. Only the last of its cases looks into the artifact. -/
def panel? (o : Outcome) : Except Fault Screen.Call :=
  if o.spawnFailed || !o.success || o.missingArtifact then .ok (panel o)
  else match o.artifact with
    | none => .error .noArtifact
    | some _ => .ok (panel o)

/-- The presentation of a report, with a working folder or without one. -/
def present (r : Report) (cwd? : Option Text) : Except Fault (List Screen.Call) := do
  let table ← r.table? cwd?
  let result ← panel? r.outcome
  return table ++ toolchainCalls r.outcome ++ [result]

end Report

end ContractBuild
