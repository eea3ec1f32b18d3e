import ContractBuild.CommandLine.Run

/-!
# The program

The outer layer of the command line: it looks at the files that a run asks about, lets `CommandLine.runOn` decide what
happens, and writes down the result. Cargo is not started from here: what it writes is read from standard input, and it has
failed when it says so.
-/

namespace ContractBuild.Program

/-- The folder that holds the stand-in for cargo. -/
def toolFolder : Text := "/toolchain"

/-- The exit code of cargo, by what it says about itself. -/
def exitCodeOf (output : Bytes) : Int :=
  let verdict? (line : Text) : Option Bool :=
    match Message.ofLine? line with
    | .ok (some m) => if m.kind = .buildFinished then Findings.verdict? m else none
    | _ => none
  if ((Utf8.decode output).pieces.filterMap verdict?).getLast? = some false then 101 else 0

/-- Adds what stands at an absolute path to a disk. -/
def look (disk : Disk) (path : Text) : IO Disk := do
  let here := (← IO.currentDir) / path.toString
  if ← here.isDir then
    return (disk.makeFolders path).toOption.getD disk
  else if ← here.pathExists then
    let disk := (disk.makeFolders (Path.parent path)).toOption.getD disk
    return disk.put (Path.parts path) (.file (← IO.FS.readBinFile here).toList none)
  else if ← (here.parent.getD here).isDir then
    return (disk.makeFolders (Path.parent path)).toOption.getD disk
  else return disk

/-- The paths that a run with the given arguments asks about. -/
def pathsOf (cwd : Text) (arguments : List Text) : List Text :=
  match CommandLine.parseArguments arguments with
  | .error _ => []
  | .ok a =>
    let settings := Path.resolve cwd (a.config.getD Settings.defaultFile)
    match a.command with
    | .verify => [cwd, settings]
    | .build folder _ =>
      let project := Path.absolute cwd folder
      [cwd, settings, project, Path.join project Project.manifest]

/-- The log file that the settings name. -/
def logFile? (disk : Disk) (cwd : Text) (arguments : List Text) : Option Text := do
  let a ← (CommandLine.parseArguments arguments).toOption
  match (Settings.load disk cwd cwd a.config).1 with
  | .settings s => ((Settings.sectionOf s "logging").field? "log_file").bind Value.text?
  | _ => none

/-- The machine on which a run with the given arguments takes place. -/
def machine (arguments : List Text) (output : Bytes) : IO Machine := do
  let cwd := Text.ofString (← IO.currentDir).toString
  let disk ← (pathsOf cwd arguments).foldlM look (Disk.ofFolders [toolFolder])
  let disk ← (logFile? disk cwd arguments).toList.foldlM look disk
  let cargo : Program := ⟨[⟨.stdout, output⟩], exitCodeOf output, (0, 1)⟩
  let clock := Text.ofNat (← IO.monoMsNow)
  return ⟨disk.put (Path.parts (Path.join toolFolder "cargo")) (.file [] cargo), cwd, [toolFolder], clock⟩

/-- What a run has shown on an output. -/
def shown (out : Screen.Output) (r : CommandLine.Run) : Text :=
  match r.screen with
  | none => []
  | some kind => out.written (.start kind) r.calls

/-- Writes the folders and files that a run has made or changed. -/
def writeChanges (before after : Disk) : IO Unit := do
  let cwd ← IO.currentDir
  for (ss, node) in after.nodes.reverse do
    let path := cwd / (Text.toString ("/" ++ Path.ofSegments ss))
    match node, before.node? ss with
    | .folder, none => IO.FS.createDirAll path
    | .file content none, some (.file known _) =>
      if content ≠ known then IO.FS.writeBinFile path ⟨content.toArray⟩
    | .file content none, _ => IO.FS.writeBinFile path ⟨content.toArray⟩
    | _, _ => pure ()

end ContractBuild.Program

open ContractBuild in
/-- Runs the program. -/
def main (args : List String) : IO UInt32 := do
  let arguments := args.map Text.ofString
  let output ← match CommandLine.parseArguments arguments with
    | .ok _ => (← IO.getStdin).readToEnd
    | .error _ => pure ""
  let m ← Program.machine arguments (Utf8.encode (.ofString output))
  let out : Screen.Output := .utf8
  let r := CommandLine.runOn out m arguments
  Program.writeChanges m.disk r.disk
  IO.print (Text.toString (r.stdout ++ Program.shown out r))
  IO.eprint r.stderr.toString
  match r.result with
  | .ok code => return code.toNat.toUInt32
  | .error e =>
    IO.eprintln e.message.toString
    return 1
