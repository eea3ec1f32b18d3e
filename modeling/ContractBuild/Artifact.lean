import ContractBuild.Log
import ContractBuild.Message
import ContractBuild.Path

/-!
# Artifacts

A build announces the files that it produced. The contract is the first file with the right extension of a target of the
right kind. When several messages announce one, the last of them counts, since the final output is announced last.
-/

namespace ContractBuild

/-- The contract that a build produced. -/
structure Artifact where
  path : Text
  kind : Text
deriving DecidableEq

namespace Artifact

/-- What a file has to be to count as the contract. -/
structure Criteria where
  targetKind : Text
  extension : Text

/-- The criteria of a contract. -/
def contract : Criteria := ⟨"cdylib", ".wasm"⟩

/-- Whether a value is the given text. -/
def isText (t : Text) : Value → Bool
  | .text u => u = t
  | _ => false

/-- The kinds of the target that a message is about. -/
def targetKinds (m : Message) : List Value :=
  match m.field? "target" with
  | some (.map target) =>
    match Value.entry? "kind" target with
    | some (.list kinds) => kinds
    | _ => []
  | _ => []

/-- The files that a message names. -/
def fileNames (m : Message) : List Text :=
  match m.field? "filenames" with
  | some (.list names) => names.filterMap Value.text?
  | _ => []

/-- The file that a message announces as the contract. -/
def candidate? (criteria : Criteria) (m : Message) : Option Text :=
  if m.kind = .artifactProduced && (targetKinds m).any (isText criteria.targetKind) then
    (fileNames m).find? (·.endsWith criteria.extension)
  else none

/-- The contract among the files that messages announce. Relative names are taken from the project folder, and that one
from the folder `cwd`. -/
def resolve (criteria : Criteria) (cwd projectDir : Text) (messages : List Message) : Option Artifact :=
  let names := (messages.filterMap (candidate? criteria)).filter (· ≠ [])
  names.getLast?.map fun name => ⟨Path.absolute cwd (Path.join projectDir name), criteria.targetKind⟩

/-- The record of what was found. -/
def record (criteria : Criteria) : Option Artifact → Log.Record
  | none =>
    ⟨Log.artifact, Log.info,
      "No " ++ criteria.targetKind ++ " artifact ending in " ++ criteria.extension ++ " was reported"⟩
  | some a => ⟨Log.artifact, Log.info, "Resolved contract artifact: " ++ a.path⟩

/-- An artifact as a value. -/
def toValue (a : Artifact) : Value := .map [("path", .text a.path), ("kind", .text a.kind)]

end Artifact

end ContractBuild
