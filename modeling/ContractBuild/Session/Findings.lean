import ContractBuild.Diagnostic.ByFile
import ContractBuild.Diagnostic.Extract
import ContractBuild.Program
import ContractBuild.Toolchain

/-!
# Findings

What the lines of a build's output say: diagnostics, announced artifacts, cargo's own verdict, and hints about the
toolchain. Lines are taken one at a time, and a line that cannot be taken leaves what was found before it.
-/

namespace ContractBuild

/-- What has been found in the output. -/
structure Findings where
  diagnostics : Diagnostics
  artifacts : List Message
  reportedSuccess : Option Bool
  hints : List Text

namespace Findings

/-- Nothing found. -/
def empty : Findings := ⟨.empty, [], none, []⟩

/-- Takes a line that is no message. -/
def observeText (f : Findings) (line : Text) : Findings :=
  { f with hints := Toolchain.record f.hints (Toolchain.Hint.ofLine? line) }

/-- The verdict of a message that ends a build, when it is true or false. -/
def verdict? (m : Message) : Option Bool :=
  match m.field? "success" with
  | some (.bool b) => some b
  | _ => none

/-- Takes a message. -/
def observeMessage (f : Findings) (m : Message) : Except Message.Fault Findings :=
  match m.kind with
  | .compilerDiagnostic =>
    (Diagnostic.ofMessage m).map fun ds =>
      { f with
        diagnostics := f.diagnostics.addAll ds
        hints := Toolchain.record f.hints (Toolchain.Hint.ofMessage? m) }
  | .artifactProduced => .ok { f with artifacts := f.artifacts ++ [m] }
  | .buildFinished => .ok { f with reportedSuccess := verdict? m }
  | .other => .ok f

/-- Takes a line of one of the outputs. Messages come on standard output only. -/
def observe (f : Findings) (line : Text) : Stream → Except Message.Fault Findings
  | .stderr => .ok (f.observeText line)
  | .stdout =>
    match Message.ofLine? line with
    | .error e => .error e
    | .ok none => .ok (f.observeText line)
    | .ok (some m) => f.observeMessage m

/-- Takes lines up to the first that cannot be taken. -/
def observeAll (f : Findings) (stream : Stream) : List Text → Except Message.Fault Unit × Findings
  | [] => (.ok (), f)
  | line :: rest =>
    match f.observe line stream with
    | .error e => (.error e, f)
    | .ok f' => f'.observeAll stream rest

end Findings

end ContractBuild
