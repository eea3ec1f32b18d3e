import ContractBuild.Cargo.Basic
import ContractBuild.Cargo.Failure
import ContractBuild.Machine

/-!
# The version of cargo

Cargo is asked for its version to see whether it can be run. `Cargo.verify` says whether it can, and why not. The version is
the word behind `cargo` that begins with a digit or a point.
-/

namespace ContractBuild.Cargo

/-- What is found out about cargo. -/
structure Verdict where
  verified : Bool
  message : Text

/-- The asking for the version: what is found out, what is recorded, and what was run. -/
structure Verification where
  result : Except Failure Verdict
  records : List Log.Record
  run : Option Machine.Run

/-- A record about cargo. -/
def record (level : Log.Level) (message : Text) : Log.Record := ⟨Log.cargo, level, message⟩

/-! ## Versions -/

/-- A code point that a version begins with. -/
def beginsVersion (c : CodePoint) : Bool := c.isDecimal || c = '.'

/-- The version at the start of `t`, behind the name. -/
def versionAt? (t : Text) : Option Text :=
  match t.dropPrefix? "cargo " with
  | none => none
  | some rest => if (rest.head?.map beginsVersion).getD false then some (rest.takeWhile (!·.isSpace)) else none

/-- The version that a text tells. -/
def versionOf (t : Text) : Text :=
  match t.firstSuffix? versionAt? with
  | some v => "cargo " ++ v
  | none => "Unknown cargo version"

/-! ## Waiting -/

/-- The longest time that can be waited for, in milliseconds. -/
def longestWait : Nat := 2147483647

/-- Whether a program that takes `seconds` is still running after a time of `num / den`. -/
def outlasts (seconds : Nat × Nat) (negative : Bool) (num den : Nat) : Except Settings.Error Bool :=
  if negative || num = 0 then .ok true
  else if longestWait * den < num * 1000 then .error .waitTooLong
  else .ok (num * seconds.2 < seconds.1 * den)

/-- Whether a program that takes `seconds` is still running after the time in the settings. -/
def isLate (seconds : Nat × Nat) : Value → Except Settings.Error Bool
  | .null => .ok false
  | .bool b => outlasts seconds false (if b then 1 else 0) 1
  | .int n => outlasts seconds (n < 0) n.natAbs 1
  | .float x =>
    if x.isNaN then .error .notANumber
    else if x.isSpecial then if x.negative then .ok true else .error .infinite
    else outlasts seconds x.negative x.ratio.1 x.ratio.2
  | v => .error (.notSeconds v)

/-! ## Verification -/

/-- The arguments that ask for the version. -/
def versionArguments : List Text := ["--version"]

/-- The wording of the error that cargo did not answer in time. -/
def lateMessage (command : Text) (timeout : Value) : Text :=
  "Command '" ++ Value.shown (.list (.text command :: versionArguments.map .text)) ++ "' timed out after " ++
    timeout.display ++ " seconds"

/-- An output that has to be text, with line feeds as line ends. -/
def readOutput (p : Program) (stream : Stream) : Except Failure Text :=
  match Utf8.decodeStrict (p.output stream) with
  | .ok t => .ok t.unifyLineEnds
  | .error f => .error (.output f)

/-- What the run of a command says. -/
def verdict (command : Text) (p : Program) : Except Failure Verdict := do
  let stdout ← readOutput p .stdout
  let stderr ← readOutput p .stderr
  if p.exitCode = 0 then
    return ⟨true, "Cargo environment verified. Using " ++ command ++ " - " ++ versionOf stdout⟩
  else
    return ⟨false, command ++ " --version exited with code " ++ Text.ofInt p.exitCode ++ ": " ++ stderr.strip⟩

/-- The verification of a command that could not be run to its end. -/
def unanswered (begun : List Log.Record) (command problem : Text) (run : Option Machine.Run) : Verification :=
  ⟨.ok ⟨false, "Failed to run " ++ command ++ " --version: " ++ problem⟩,
    begun ++ [record Log.warning ("Error verifying cargo command " ++ command ++ ": " ++ problem)], run⟩

/-- Finds out whether cargo can be run. -/
def verify (c : Cargo) (m : Machine) : Verification :=
  let begun := [record Log.info "Verifying cargo environment..."]
  match c.command with
  | .text command =>
    if !m.hasProgram command && !m.disk.isFile m.cwd command then
      ⟨.ok ⟨false, "Command " ++ command ++ " not found in PATH"⟩, begun, none⟩
    else
      match m.start "." command versionArguments with
      | .error e => unanswered begun command e.message none
      | .ok run =>
        match isLate run.program.seconds c.versionTimeout with
        | .error e => ⟨.error (.settings e), begun, none⟩
        | .ok true => unanswered begun command (lateMessage command c.versionTimeout) run
        | .ok false => ⟨verdict command run.program, begun, run⟩
  | v => ⟨.error (.settings (.notFileName v)), begun, none⟩

end ContractBuild.Cargo
