import ContractBuild.Artifact
import ContractBuild.Diagnostic.ByFile
import ContractBuild.Json.Printer

/-!
# Outcomes

What one build gave. A build that never started has no exit code. Toolchain problems do not decide success.
-/

namespace ContractBuild

/-- The result of one build. -/
structure Outcome where
  success : Bool
  artifact : Option Artifact
  diagnostics : Diagnostics
  toolchainErrors : List Text
  exitCode : Option Int

namespace Outcome

/-- The build succeeded and announced no contract. -/
def missingArtifact (o : Outcome) : Bool := o.success && o.artifact.isNone

/-- The build never started. -/
def spawnFailed (o : Outcome) : Bool := !o.success && o.exitCode.isNone

/-- The build succeeded and announced a contract. -/
def readyToDeploy (o : Outcome) : Bool := o.success && o.artifact.isSome

/-- The number of errors. -/
def errors (o : Outcome) : Nat := o.diagnostics.count .error

/-- The number of warnings. -/
def warnings (o : Outcome) : Nat := o.diagnostics.count .warning

/-- An optional artifact as a value. -/
def artifactValue : Option Artifact → Value
  | none => .null
  | some a => a.toValue

/-- An outcome as a value. -/
def toValue (o : Outcome) : Value :=
  .map [
    ("success", .bool o.success),
    ("exit_code", .ofInt? o.exitCode),
    ("artifact", artifactValue o.artifact),
    ("diagnostics", o.diagnostics.toValue),
    ("toolchain_errors", .list (o.toolchainErrors.map .text))]

/-- An outcome as a document that ends with a line feed. -/
def document (o : Outcome) : Text := Json.print .indented o.toValue ++ "\n"

end Outcome

end ContractBuild
