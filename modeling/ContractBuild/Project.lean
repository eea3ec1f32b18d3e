import ContractBuild.Cargo.Build
import ContractBuild.Report

/-!
# Projects

A project is a folder with a manifest. `Project.locate` finds its absolute path, and `Project.build` builds it and reports
the outcome. Nothing is run where there is no project.
-/

namespace ContractBuild.Project

/-- The file that makes a folder a project. -/
def manifest : Text := "Cargo.toml"

/-- Why a folder is no project. -/
inductive Reason where
  | noFolder
  | noManifest
deriving DecidableEq

/-- A folder that is no project. -/
structure Invalid where
  folder : Text
  reason : Reason
deriving DecidableEq

/-- The wording of a reason. -/
def Reason.message : Reason → Text
  | .noFolder => "folder does not exist"
  | .noManifest => "folder does not contain " ++ manifest

/-- The wording of the error. -/
def Invalid.message (e : Invalid) : Text := e.folder ++ ": " ++ e.reason.message

/-- The absolute path of a project. -/
def locate (m : Machine) (folder : Text) : Except Invalid Text :=
  let path := Path.absolute m.cwd folder
  if !m.disk.isFolder m.cwd path then .error ⟨path, .noFolder⟩
  else if !m.disk.isFile m.cwd (Path.join path manifest) then .error ⟨path, .noManifest⟩
  else .ok path

/-- How the building of a project ends. -/
inductive Result where
  | invalid (error : Invalid)
  | failed (failure : Cargo.Failure)
  | built (report : Report)

/-- The building of a project: how it ends, what it told on its way, and what was run. -/
structure Build where
  result : Result
  events : List Cargo.Event
  run : Option Machine.Run

/-- A record of a build. -/
def record (level : Log.Level) (message : Text) : Log.Record := ⟨Log.build, level, message⟩

/-- What is recorded about a report: a contract that is missing, and the toolchain problems. -/
def reportRecords (r : Report) : List Log.Record :=
  let missing := if r.outcome.missingArtifact then
      [record Log.warning ("Build in " ++ r.projectDir ++ " succeeded but no .wasm artifact was reported")]
    else []
  missing ++ r.outcome.toolchainErrors.map fun hint => record Log.warning ("[Toolchain] " ++ hint)

/-- Builds the project in a folder; `run` runs the build in the folder with the given absolute path. -/
def build (m : Machine) (folder : Text) (run : Text → Cargo.Build) : Build :=
  match locate m folder with
  | .error e => ⟨.invalid e, [], none⟩
  | .ok path =>
    let begun : List Cargo.Event := [.log (record Log.info ("Building contract in " ++ path))]
    let b := run path
    match b.result with
    | .error e => ⟨.failed e, begun ++ b.events, b.run⟩
    | .ok o =>
      let report : Report := ⟨path, o⟩
      ⟨.built report, begun ++ b.events ++ (reportRecords report).map .log, b.run⟩

end ContractBuild.Project
