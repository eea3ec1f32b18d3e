import ContractBuild.CommandLine.Arguments

/-!
# Usage

What the program says about its arguments: usage lines, help, and errors.
-/

namespace ContractBuild.CommandLine

/-- The name under which a topic reports errors. -/
def Topic.title : Topic → Text
  | .program => "near-build"
  | .build => "near-build build"
  | .verify => "near-build verify"

/-- The usage line of a topic. -/
def Topic.usage : Topic → Text
  | .program => "usage: near-build [-h] [--config CONFIG] \x7bbuild,verify\x7d ...\n"
  | .build => "usage: near-build build [-h] [--json] [--config CONFIG] folder\n"
  | .verify => "usage: near-build verify [-h] [--config CONFIG]\n"

/-- The help line of help itself. -/
def helpLine : Text := "  -h, --help       show this help message and exit\n"

/-- The help on the settings file. -/
def configLines : Text :=
  "  --config CONFIG  Path to a YAML configuration file (default:\n" ++
  "                   config/application.yml if present)."

/-- The help on a topic. -/
def Topic.help (t : Topic) : Text :=
  t.usage ++ match t with
  | .program =>
    "\nBuild NEAR Rust contracts and report compiler diagnostics\n" ++
    "\npositional arguments:\n" ++
    "  \x7bbuild,verify\x7d   Available commands\n" ++
    "    build          Build a contract for wasm32-unknown-unknown in release\n" ++
    "                   mode.\n" ++
    "    verify         Check that cargo can be launched.\n" ++
    "\noptions:\n" ++ helpLine ++ configLines ++ " (default: None)\n"
  | .build =>
    "\nRuns cargo on the given folder, streams its JSON messages, and reports per-\n" ++
    "file diagnostics, toolchain problems and the produced .wasm artifact.\n" ++
    "\npositional arguments:\n" ++
    "  folder           Root directory of the contract (containing Cargo.toml).\n" ++
    "\noptions:\n" ++ helpLine ++
    "  --json           Print the build outcome as JSON instead of a formatted\n" ++
    "                   report.\n" ++ configLines ++ "\n"
  | .verify =>
    "\nRuns `cargo --version` with the configured command and prints build settings.\n" ++
    "\noptions:\n" ++ helpLine ++ configLines ++ "\n"

/-- The wording of what is wrong with arguments. -/
def Misuse.message : Misuse → Text
  | .missing operand => "the following arguments are required: " ++ operand
  | .unrecognized arguments => "unrecognized arguments: " ++ Text.joinWith " " arguments
  | .missingValue s => "argument " ++ s.shown ++ ": expected one argument"
  | .needlessValue s value => "argument " ++ s.shown ++ ": ignored explicit argument " ++ value.quoted
  | .ambiguous argument names =>
    "ambiguous option: " ++ argument ++ " could match " ++ Text.joinWith ", " names
  | .unknownCommand name =>
    "argument command: invalid choice: " ++ name.quoted ++ " (choose from 'build', 'verify')"

/-- How a run ends that is stopped by its arguments: its exit code, its output, and its error output. -/
def Stop.report : Stop → Int × Text × Text
  | .help topic => (0, topic.help, [])
  | .misuse topic m => (2, [], topic.usage ++ topic.title ++ ": error: " ++ m.message ++ "\n")

end ContractBuild.CommandLine
