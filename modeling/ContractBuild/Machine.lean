import ContractBuild.Disk

/-!
# Machines

A machine is a disk with a working folder, the folders in which commands are looked for, and a clock. A command with a slash is a
path; any other is looked for in the search folders. Of the errors on the way, one that says more than that nothing was
found is kept.
-/

namespace ContractBuild

/-- A disk, the working folder, the folders in which commands are looked for, and the time that the clock shows. -/
structure Machine where
  disk : Disk
  cwd : Text
  searchPath : List Text
  clock : Text

/-- A program that has been started: its file, the folder in which it runs, and its arguments. -/
structure Machine.Run where
  file : Text
  folder : Text
  arguments : List Text
  program : Program

namespace Machine

/-- Whether a command is a path. -/
def isPath (command : Text) : Bool := command.elem Path.slash

/-- The paths where a command is looked for. -/
def candidates (m : Machine) (command : Text) : List Text :=
  if isPath command then [command] else m.searchPath.map (Path.join · command)

/-- The program at a path, and the path without detours. -/
def programAt (d : Disk) (folder path : Text) : Except SystemError (Text × Program) :=
  match d.follow folder path with
  | .error e => .error e
  | .ok ss =>
    match d.node? ss with
    | none => .error (.notFound path)
    | some (.file _ (some p)) => .ok ("/" ++ Path.ofSegments ss, p)
    | some _ => .error (.denied path)

/-- Whether a command leads to a program. -/
def hasProgram (m : Machine) (command : Text) : Bool :=
  (m.candidates command).any fun path =>
    match programAt m.disk m.cwd path with
    | .ok _ => true
    | .error _ => false

/-- Whether a system error only says that nothing was found. -/
def isMiss (e : SystemError) : Bool := e.number = 2 || e.number = 20

/-- The first program at one of the paths; `error` is the error so far. -/
def firstProgram (d : Disk) (folder : Text) (error : SystemError) :
    List Text → Except SystemError (Text × Program)
  | [] => .error error
  | path :: rest =>
    match programAt d folder path with
    | .ok found => .ok found
    | .error e => firstProgram d folder (if isMiss error then e else error) rest

/-- Starts a command in a folder. The error names the folder when it is the folder that is missing. -/
def start (m : Machine) (folder command : Text) (arguments : List Text) : Except SystemError Run :=
  match m.disk.follow m.cwd folder with
  | .error e => .error (e.about folder)
  | .ok ss =>
    match m.disk.node? ss with
    | none => .error (.notFound folder)
    | some (.file _ _) => .error (.notFolder folder)
    | some .folder =>
      let here := "/" ++ Path.ofSegments ss
      match firstProgram m.disk here (.notFound command) (m.candidates command) with
      | .error e => .error (e.about command)
      | .ok (file, program) => .ok ⟨file, here, arguments, program⟩

end Machine

end ContractBuild
