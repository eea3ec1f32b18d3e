import ContractBuild.Diagnostic.Basic

/-!
# Diagnostics by file

Diagnostics are kept by file: files in the order of their first diagnostic, and the diagnostics of a file in the order in
which they came. A file is there only with a diagnostic.
-/

namespace ContractBuild

/-- Diagnostics by file. -/
structure Diagnostics where
  groups : List (Text × List Diagnostic)

namespace Diagnostics

/-- No diagnostics. -/
def empty : Diagnostics := ⟨[]⟩

/-- The groups with a diagnostic put into the one of its file. -/
def addTo (d : Diagnostic) : List (Text × List Diagnostic) → List (Text × List Diagnostic)
  | [] => [(d.file, [d])]
  | (file, ds) :: rest => if file = d.file then (file, ds ++ [d]) :: rest else (file, ds) :: addTo d rest

/-- Adds a diagnostic. -/
def add (ds : Diagnostics) (d : Diagnostic) : Diagnostics := ⟨addTo d ds.groups⟩

/-- Adds diagnostics in order. -/
def addAll (ds : Diagnostics) (new : List Diagnostic) : Diagnostics := new.foldl add ds

/-- The diagnostics of a list. -/
def ofList (ds : List Diagnostic) : Diagnostics := empty.addAll ds

/-- The files. -/
def files (ds : Diagnostics) : List Text := ds.groups.map Prod.fst

/-- The diagnostics of a file. -/
def forFile (ds : Diagnostics) (file : Text) : List Diagnostic := (ds.groups.lookup file).getD []

/-- Whether a file has a diagnostic. -/
def contains (ds : Diagnostics) (file : Text) : Bool := ds.files.elem file

/-- All diagnostics, file by file. -/
def flatten (ds : Diagnostics) : List Diagnostic := ds.groups.flatMap Prod.snd

/-- How many diagnostics there are. -/
def size (ds : Diagnostics) : Nat := ds.groups.foldl (fun n g => n + g.2.length) 0

/-- How many diagnostics have the given severity. -/
def count (ds : Diagnostics) (severity : Severity) : Nat := ds.flatten.countP (·.severity = severity)

/-- Whether there are none. -/
def isEmpty (ds : Diagnostics) : Bool := ds.groups.isEmpty

/-- How many files and diagnostics there are, in words. -/
def summary (ds : Diagnostics) : Text :=
  "DiagnosticSet(files=" ++ Text.ofNat ds.files.length ++ ", diagnostics=" ++ Text.ofNat ds.size ++ ")"

/-- The diagnostics of a file as a value. -/
def groupValue (ds : List Diagnostic) : Value := .list (ds.map Diagnostic.toValue)

/-- Diagnostics by file as a value. -/
def toValue (ds : Diagnostics) : Value := .map (ds.groups.map fun g => (g.1, groupValue g.2))

end Diagnostics

end ContractBuild
