import ContractBuild.Path
import ContractBuild.Program
import ContractBuild.SystemError

/-!
# Files and folders

A disk is a tree of folders and files, given by the segments of their paths. A path is followed one segment at a time, and
each segment but the last has to lead to a folder; double dots lead to the folder above. What runs when a file is executed
is kept with the file.
-/

namespace ContractBuild

/-- A folder or a file. -/
inductive Disk.Node where
  | folder
  | file (content : Bytes) (program : Option Program)

/-- A tree of folders and files. -/
structure Disk where
  nodes : List (List Text × Disk.Node)

namespace Disk

/-- What stands at the end of the given segments. The root is always a folder. -/
def node? (d : Disk) : List Text → Option Node
  | [] => some .folder
  | ss => d.nodes.lookup ss

/-- Whether a folder stands there. -/
def hasFolder (d : Disk) (ss : List Text) : Bool :=
  match d.node? ss with
  | some .folder => true
  | _ => false

/-- The tree with a node put in place. -/
def put (d : Disk) (ss : List Text) (n : Node) : Disk := ⟨(ss, n) :: d.nodes.filter (·.1 ≠ ss)⟩

/-- Follows a path from a folder; `about` is the path that errors name. -/
def walk (d : Disk) (about : Text) : List Text → List Text → Except SystemError (List Text)
  | here, [] => .ok here
  | here, s :: rest =>
    match d.node? here with
    | none => .error (.notFound about)
    | some (.file _ _) => .error (.notFolder about)
    | some .folder =>
      if s = [] || s = "." then walk d about here rest
      else if s = ".." then walk d about here.dropLast rest
      else walk d about (here ++ [s]) rest

/-- The segments that a path leads to from the folder `cwd`. Nothing needs to stand at its end. -/
def follow (d : Disk) (cwd path : Text) : Except SystemError (List Text) :=
  if path.isEmpty then .error (.notFound path)
  else d.walk path (if Path.isAbsolute path then [] else Path.parts cwd) (path.splitOn Path.slash)

/-- What stands at a path. -/
def nodeAt (d : Disk) (cwd path : Text) : Except SystemError Node :=
  match d.follow cwd path with
  | .error e => .error e
  | .ok ss =>
    match d.node? ss with
    | none => .error (.notFound path)
    | some n => .ok n

/-- Whether a path leads to a folder. -/
def isFolder (d : Disk) (cwd path : Text) : Bool :=
  match d.nodeAt cwd path with
  | .ok .folder => true
  | _ => false

/-- Whether a path leads to a file. -/
def isFile (d : Disk) (cwd path : Text) : Bool :=
  match d.nodeAt cwd path with
  | .ok (.file _ _) => true
  | _ => false

/-- The content of a file. -/
def read (d : Disk) (cwd path : Text) : Except SystemError Bytes :=
  match d.nodeAt cwd path with
  | .error e => .error e
  | .ok .folder => .error (.isFolder path)
  | .ok (.file content _) => .ok content

/-- Puts bytes at the end of a file, which is made when it does not exist. -/
def append (d : Disk) (cwd path : Text) (bs : Bytes) : Except SystemError Disk :=
  match d.follow cwd path with
  | .error e => .error e
  | .ok ss =>
    match d.node? ss with
    | some .folder => .error (.isFolder path)
    | some (.file content program) => .ok (d.put ss (.file (content ++ bs) program))
    | none => if d.hasFolder ss.dropLast then .ok (d.put ss (.file bs none)) else .error (.notFound path)

/-- Makes the folder at the end of `done ++ rest` and those above it, as far as they do not exist. -/
def makeFoldersFrom (d : Disk) (path : Text) (done : List Text) : List Text → Except SystemError Disk
  | [] => .ok d
  | s :: rest =>
    let here := done ++ [s]
    match d.node? here with
    | some .folder => makeFoldersFrom d path here rest
    | some (.file _ _) => .error (if rest.isEmpty then .alreadyThere path else .notFolder path)
    | none => makeFoldersFrom (d.put here .folder) path here rest

/-- Makes the folder at an absolute path without dots and those above it, as far as they do not exist. -/
def makeFolders (d : Disk) (path : Text) : Except SystemError Disk := d.makeFoldersFrom path [] (Path.parts path)

/-- A tree of the given folders and no files. -/
def ofFolders (paths : List Text) : Disk :=
  paths.foldl (fun d path => match d.makeFolders path with
    | .ok d => d
    | .error _ => d) ⟨[]⟩

end Disk

end ContractBuild
