import ContractBuild.Disk
import ContractBuild.Settings.Overlay
import ContractBuild.Settings.Paths
import ContractBuild.Yaml.Reader

/-!
# The settings file

Settings come from a file that is laid over the built-in ones. Without a file of the default name the built-in settings
hold; a file that was asked for has to be there, and what is read has to be a map.
-/

namespace ContractBuild

namespace Utf8

/-- Reads the bytes of a file. Where the file ends inside a sequence, positions count from the start of the sequence. -/
def decodeFile (bs : Bytes) : Except Fault Text :=
  (decodeStrict bs).mapError fun f =>
    let endsInSurrogate := f.byte = 0xED && f.position + 2 = bs.length && 0xA0 ≤ bs.getLastD 0 && bs.getLastD 0 ≤ 0xBF
    if f.reason = .unexpectedEnd || endsInSurrogate then { f with position := 0 } else f

end Utf8

namespace Settings

/-- The settings file that is looked for when none is asked for. -/
def defaultFile : Text := "config/application.yml"

/-- The built-in format of log lines. -/
def defaultFormat : Text := "%(asctime)s - %(name)s - %(levelname)s - %(message)s"

/-- The built-in settings. -/
def defaults : List (Text × Value) := [
  ("build_system", .map [
    ("command", .text "cargo"),
    ("read_chunk_size", .int 4096),
    ("version_timeout", .int 30)]),
  ("logging", .map [
    ("level", .text "INFO"),
    ("format", .text defaultFormat),
    ("log_file", .null)]),
  ("ui", .map [
    ("type", .text "rich"),
    ("enhanced_logging", .bool true),
    ("show_elapsed", .bool true)])]

/-- How the reading of settings ends: with settings, with the end of the program, or with an error. -/
inductive Loaded where
  | settings (v : Value)
  | exit (code : Int)
  | error (e : Error)

/-- A record of the settings. -/
def record (level : Log.Level) (message : Text) : Log.Record := ⟨Log.settings, level, message⟩

/-- The end of the program, with a record of its cause. -/
def stop (message : Text) : Loaded × List Log.Record := (.exit 1, [record Log.critical message])

/-- The settings that a document gives, read from the file at `path`. -/
def ofDocument (cwd path : Text) (document : Value) : Loaded × List Log.Record :=
  let entries? := match document with
    | .null => some []
    | v => v.entries?
  match entries? with
  | none => stop ("Configuration in " ++ path ++ " must be a mapping, got " ++ document.kindName)
  | some entries =>
    match resolvePath cwd (Path.parent path) ["logging", "log_file"] .null (.map (overlay defaults entries)) with
    | .error e => (.error e, [])
    | .ok (settings, records) =>
      (.settings settings, records ++ [record Log.info ("Configuration loaded successfully from " ++ path)])

/-- The settings that the bytes of the file at `path` give. -/
def ofBytes (cwd path : Text) (bs : Bytes) : Loaded × List Log.Record :=
  match Utf8.decodeFile bs with
  | .error f => (.error (.undecodable f), [])
  | .ok t =>
    match Yaml.parse t.unifyLineEnds with
    | .error .tooDeep => (.error .tooDeep, [])
    | .error .malformed => stop ("Error loading configuration from " ++ path)
    | .ok document => ofDocument cwd path document

/-- Reads the settings. `file` is the file that was asked for, and relative paths are taken from the folder `base`. -/
def load (disk : Disk) (cwd base : Text) (file : Option Text) : Loaded × List Log.Record :=
  let name := match file with
    | some f => if f.isEmpty then defaultFile else f
    | none => defaultFile
  let path := Path.resolve cwd (Path.join base name)
  match disk.read cwd path with
  | .ok bs => ofBytes cwd path bs
  | .error e =>
    if e.number ≠ 2 then stop ("Error loading configuration from " ++ path)
    else if file.isSome then stop ("Configuration file not found at " ++ path)
    else (.settings (.map defaults),
      [record Log.warning ("No configuration file at " ++ path ++ "; using defaults")])

/-- A section of the settings, empty when it is missing. -/
def sectionOf (settings : Value) (key : Text) : Value := (settings.field? key).getD (.map [])

/-- A section of the settings, empty when it is missing or counts as false. -/
def looseSection (settings : Value) (key : Text) : Value :=
  let s := sectionOf settings key
  if s.isTruthy then s else .map []

/-- The value of a key in a section, which has to be a map. -/
def get (s : Value) (key : Text) (default : Value) : Except Error Value :=
  match s with
  | .map entries => .ok ((Value.entry? key entries).getD default)
  | v => .error (.noSections v)

/-- Makes the folder of the log file, when there is one. -/
def ensureFolders (disk : Disk) (settings : Value) : Except Error (Disk × List Log.Record) :=
  match get (sectionOf settings "logging") "log_file" .null with
  | .error e => .error e
  | .ok (.text file) =>
    if file.isEmpty then .ok (disk, [])
    else
      let folder := Path.parent file
      match disk.makeFolders folder with
      | .ok disk => .ok (disk, [])
      | .error e => .ok (disk, [record Log.error ("Failed to create directory " ++ folder ++ ": " ++ e.message)])
  | .ok _ => .ok (disk, [])

end Settings

end ContractBuild
