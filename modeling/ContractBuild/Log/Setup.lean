import ContractBuild.Log.Line
import ContractBuild.Machine
import ContractBuild.Settings.File

/-!
# The setup of the log

The settings say which records are written, in which format, and whether to a file as well. A record is written when its
level is not below the threshold of its logger, which is that of the nearest logger above it that has one. What cargo
itself writes has a threshold of its own, at most that of information, so that it stays visible.

A file that cannot be opened is reported on the console, and the log goes on without it. A line that cannot be formatted, or
that UTF-8 has no bytes for, is left out.
-/

namespace ContractBuild.Log

/-- Where records are shown: on a display of its own, or on a plain console in a format. -/
inductive Console where
  | display
  | plain (format : Text)

/-- A log that has been set up. -/
structure Setup where
  rootLevel : Level
  cargoLevel : Level
  console : Console
  file : Option (Text × Text)

/-! ## Levels -/

/-- The levels that settings can name. -/
def namedLevels : List (Text × Level) := [
  ("DEBUG", debug), ("INFO", info), ("WARNING", warning), ("WARN", warning), ("ERROR", error), ("CRITICAL", critical),
  ("FATAL", critical), ("NOTSET", 0)]

/-- A name that stands for a format and not for a level. -/
def formatName : Text := "BASIC_FORMAT"

/-- The format with that name. -/
def basicFormat : Text := "%(levelname)s:%(name)s:%(message)s"

/-- The level with a name; that of information when there is none. -/
def levelOf (name : Text) : Except Settings.Error Level :=
  if name = formatName then .error (.levelNoNumber basicFormat) else .ok ((namedLevels.lookup name).getD info)

/-- Loggers that are kept quiet, and their thresholds. -/
def quiet : List (Text × Level) := [("asyncio", warning)]

namespace Setup

/-- The thresholds that loggers have of their own. -/
def thresholds (s : Setup) : List (Text × Level) := (cargoOutput, s.cargoLevel) :: quiet

/-- The threshold of the logger whose name has the given parts, the last one first. -/
def thresholdFrom (s : Setup) : List Text → Level
  | [] => s.rootLevel
  | part :: rest =>
    match s.thresholds.lookup (Text.joinWith "." (part :: rest).reverse) with
    | none => s.thresholdFrom rest
    | some l => if l = 0 then s.thresholdFrom rest else l

/-- The point between the parts of a logger's name. -/
def point : CodePoint := '.'

/-- The threshold of a logger. -/
def threshold (s : Setup) (logger : Text) : Level := s.thresholdFrom (logger.splitOn point).reverse

/-- Whether a record is written. -/
def admits (s : Setup) (r : Record) : Bool := 0 < r.level && s.threshold r.logger ≤ r.level

/-! ## Writing -/

/-- The records as lines, without those that cannot be written. -/
def linesOf (line : Record → Option Text) (rs : List Record) : Text :=
  (rs.filterMap line).flatMap (· ++ "\n")

/-- What a plain console shows of records, when it is no terminal. -/
def consoleText (s : Setup) (clock : Text) (rs : List Record) : Text :=
  match s.console with
  | .display => []
  | .plain format => Colour.strip (linesOf (fun r => (colouredLine clock format r).toOption) (rs.filter s.admits))

/-- The line of a record in a file, which has to have bytes in UTF-8. -/
def fileLine (clock format : Text) (r : Record) : Option Text :=
  (plainLine clock format r).toOption.filter fun t => !t.any CodePoint.isSurrogate

/-- The disk after records have been written to the file. -/
def write (s : Setup) (m : Machine) (rs : List Record) : Disk :=
  match s.file with
  | none => m.disk
  | some (path, format) =>
    match m.disk.append m.cwd path (Utf8.encode (linesOf (fileLine m.clock format) (rs.filter s.admits))) with
    | .ok disk => disk
    | .error _ => m.disk

end Setup

/-! ## From settings to a setup -/

/-- The start of a log: the setup, the disk, what the console is told about the file, and the first record. -/
structure Start where
  setup : Setup
  disk : Disk
  notice : Text
  record : Record

/-- Opens the log file that the settings name: the path when it could be opened, and what the console is told when not. -/
def openFile (m : Machine) (v : Value) : Except Settings.Error (Option Text × Disk × Text) :=
  if !v.isTruthy then .ok (none, m.disk, [])
  else match v with
    | .text file =>
      let path := Path.absolute m.cwd file
      match m.disk.append m.cwd path [] with
      | .ok disk => .ok (path, disk, [])
      | .error e =>
        .ok (none, m.disk, "Warning: Could not configure file logging to " ++ file ++ ": " ++ e.message ++ "\n")
    | v => .error (.notFileName v)

/-- The first record of a log. -/
def firstRecord (levelName : Text) (file : Value) : Record :=
  ⟨root, info, "Logging configured. Level: " ++ levelName ++ ", File: " ++
    (if file.isTruthy then file.display else "None")⟩

/-- Sets up a log, with the disk also when that fails: a file that was opened stays. -/
def start (m : Machine) (settings : Value) : Except Settings.Error Start × Disk :=
  let prepared : Except Settings.Error (Text × Value × Value × Console) := do
    let s := Settings.looseSection settings "logging"
    let levelName := (← Settings.get s "level" (.text "INFO")).display.upper
    let format ← Settings.get s "format" (.text Settings.defaultFormat)
    let file ← Settings.get s "log_file" .null
    let display ← Settings.get (Settings.looseSection settings "ui") "enhanced_logging" (.bool true)
    let console ← if display.isTruthy then pure Console.display else (formatOf format).map .plain
    return (levelName, format, file, console)
  match prepared with
  | .error e => (.error e, m.disk)
  | .ok (levelName, format, file, console) =>
    match openFile m file with
    | .error e => (.error e, m.disk)
    | .ok (path?, disk, notice) =>
      let finished : Except Settings.Error Start := do
        let fileFormat? ← match path? with
          | none => pure none
          | some path => (formatOf format).map fun f => some (path, f)
        let level ← levelOf levelName
        return ⟨⟨level, min level info, console, fileFormat?⟩, disk, notice, firstRecord levelName file⟩
      (finished, disk)

end ContractBuild.Log
