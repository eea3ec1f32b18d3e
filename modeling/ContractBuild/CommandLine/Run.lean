import ContractBuild.CommandLine.Action
import ContractBuild.CommandLine.Usage
import ContractBuild.Log.Setup

/-!
# Runs

A run reads the arguments and the settings, sets up the log, and does what the command asks for. A failure of the command is
recorded and gives the exit code 1. Settings that are so wrong that no log can be set up end the run with an error of their
own. `CommandLine.runOn` is a function of the output that the screen writes to, the machine and the arguments, and gives the
disk as the run leaves it; `CommandLine.run` is a run on an output that takes every text.
-/

namespace ContractBuild.CommandLine

/-- A run: its exit code, or the error that ended it; what it wrote, showed and ran; and the disk that it leaves. -/
structure Run where
  result : Except Settings.Error Int
  stdout : Text
  stderr : Text
  screen : Option Screen.Kind
  calls : List Screen.Call
  started : Option Machine.Run
  disk : Disk

namespace Run

/-- A run that ends before its command. -/
def ended (result : Except Settings.Error Int) (disk : Disk) : Run := ⟨result, [], [], none, [], none, disk⟩

/-- What a run shows on a screen of the given width, if all of it can be written. -/
def shown (width : Nat) (r : Run) : Text := Screen.shown width r.screen r.calls

end Run

/-- The name of a command. -/
def Command.name : Command → Text
  | .build _ _ => "build"
  | .verify => "verify"

/-- What is recorded when a command fails. -/
def failureRecords (c : Command) : Except Failure Int → List Log.Record
  | .ok _ => []
  | .error e =>
    [⟨Log.commandLine, Log.critical, "An error occurred during '" ++ c.name ++ "': " ++ e.message⟩]

/-- The exit code of a command. -/
def exitCodeOf : Except Failure Int → Int
  | .ok code => code
  | .error _ => 1

/-- Does a command whose log has been set up. -/
def perform (out : Screen.Output) (m : Machine) (settings : Value) (log : Log.Start) (c : Command) : Run :=
  let a := Action.ofCommand out m settings c
  let records := log.record :: a.records ++ failureRecords c a.result
  ⟨.ok (exitCodeOf a.result), a.stdout, log.notice ++ log.setup.consoleText m.clock records, a.screen, a.calls, a.run,
    log.setup.write m records⟩

/-- Runs a command with settings. -/
def runWith (out : Screen.Output) (m : Machine) (settings : Value) (c : Command) : Run :=
  match Settings.ensureFolders m.disk settings with
  | .error e => .ended (.error e) m.disk
  | .ok (disk, _) =>
    match Log.start { m with disk } settings with
    | (.error e, disk) => .ended (.error e) disk
    | (.ok log, disk) => perform out { m with disk } settings log c

/-- Runs the program, whose screen writes to an output. -/
def runOn (out : Screen.Output) (m : Machine) (arguments : List Text) : Run :=
  match parseArguments arguments with
  | .error stop =>
    let (code, stdout, stderr) := stop.report
    { Run.ended (.ok code) m.disk with stdout, stderr }
  | .ok args =>
    match (Settings.load m.disk m.cwd m.cwd args.config).1 with
    | .exit code => .ended (.ok code) m.disk
    | .error e => .ended (.error e) m.disk
    | .settings s => runWith out m s args.command

/-- Runs the program, where all that the screen writes is taken. -/
def run (m : Machine) (arguments : List Text) : Run := runOn .any m arguments

end ContractBuild.CommandLine
