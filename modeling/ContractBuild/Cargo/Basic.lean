import ContractBuild.Settings.File
import ContractBuild.Settings.Integer
import ContractBuild.Toolchain

/-!
# How cargo is run

The settings say which command is cargo, how many bytes are read at once, and how long to wait for its version. A build
asks for JSON messages, the release profile and the target of contracts.
-/

namespace ContractBuild

/-- How cargo is run. -/
structure Cargo where
  command : Value
  chunkSize : Int
  versionTimeout : Value

namespace Cargo

/-- The arguments of a build. -/
def buildArguments : List Text :=
  ["build", "--target", Toolchain.target, "--release", "--message-format", "json"]

/-- How cargo is run according to the settings. -/
def ofSettings (settings : Value) : Except Settings.Error Cargo := do
  let s := Settings.looseSection settings "build_system"
  let command ← Settings.get s "command" (.text "cargo")
  let chunkSize ← Settings.get s "read_chunk_size" (.int 4096)
  let chunkSize ← Settings.integer chunkSize
  let versionTimeout ← Settings.get s "version_timeout" (.int 30)
  return ⟨command, chunkSize, versionTimeout⟩

/-- Whether a value names cargo. -/
def isCargo : Value → Bool
  | .text t => t = "cargo"
  | _ => false

/-- The build system of a command, which has to be cargo; the section of the settings has to be a map when it is there. -/
def forCommand (settings : Value) : Except Settings.Error Cargo := do
  let kind ← Settings.get (Settings.sectionOf settings "build_system") "type" (.text "cargo")
  if isCargo kind then ofSettings settings else throw (.unsupportedSystem kind)

end Cargo

end ContractBuild
