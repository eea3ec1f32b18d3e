import ContractBuild.Proofs.Announcements
import ContractBuild.Proofs.Arguments
import ContractBuild.Proofs.Outputs
import ContractBuild.Proofs.Paths
import ContractBuild.Proofs.ReadSizes
import ContractBuild.Proofs.SettingsFile

/-!
# The exit status of builds

A build is asked for with a folder, and printed as JSON or shown on the screen. Printed as JSON it ends with the status 2
where there is no project, with 0 where the build delivers a contract, and with 1 else, also when the build is given up. On
the screen it ends with the same status if the output takes all that is shown (`CommandLine.runOn_build_status`); if it
does not, the build is given up there, and JSON may still be printed (`CommandLine.runOn_build_refused`).

The status is followed through the layers: the arguments (`parseArguments_build`), the built-in settings
(`runOn_build`), the two ways of showing a build (`Action.buildAsJson_defaults`, `runOn_build_screen`), and the project
(`exitCodeOf_project_cases`).
-/

namespace ContractBuild

namespace CommandLine

/-! ## Arguments -/

/-- The arguments of a build, printed as JSON or not. -/
def buildArguments (folder : Text) (json : Bool) : List Text :=
  if json then ["build", folder, "--json"] else ["build", folder]

theorem parseArguments_build {folder : Text} (h : folder.head? ≠ some dash) (json : Bool) :
    parseArguments (buildArguments folder json) = .ok ⟨.build folder json, none⟩ := by
  cases json with
  | false => exact parseArguments_around [] [] h nofun
  | true => exact parseArguments_around [] [.json] h nofun

/-! ## The built-in settings -/

/-- How cargo is run with the built-in settings. -/
def preset : Cargo := ⟨.text "cargo", 4096, .int 30⟩

theorem forCommand_defaults : Cargo.forCommand (.map Settings.defaults) = .ok preset := rfl

theorem chooseForCommand_defaults : Screen.chooseForCommand (.map Settings.defaults) = .ok (.boxed 3, []) := rfl

theorem ensureFolders_defaults (disk : Disk) :
    Settings.ensureFolders disk (.map Settings.defaults) = .ok (disk, []) := rfl

/-- The built-in settings name no log file, so that the disk stays as it is. -/
theorem start_defaults (m : Machine) : ∃ log, Log.start m (.map Settings.defaults) = (.ok log, m.disk) := ⟨_, rfl⟩

/-- **A run of a build** with the built-in settings does what the command asks for. -/
theorem runOn_build (out : Screen.Output) {m : Machine} {folder : Text} (hfolder : folder.head? ≠ some dash)
    (hsettings : (Settings.load m.disk m.cwd m.cwd none).1 = .settings (.map Settings.defaults)) (json : Bool) :
    ∃ log, runOn out m (buildArguments folder json) =
      perform out m (.map Settings.defaults) log (.build folder json) := by
  obtain ⟨log, hlog⟩ := start_defaults m
  refine ⟨log, ?_⟩
  rw [runOn, parseArguments_build hfolder json]
  dsimp only
  rw [hsettings]
  dsimp only
  rw [runWith, ensureFolders_defaults]
  dsimp only
  rw [hlog]

/-! ## The two ways of showing a build -/

section Shown

variable (out : Screen.Output) {m : Machine} {folder : Text}

/-- **A build that is printed as JSON** ends with what the build ended with, and runs what it ran. -/
theorem Action.buildAsJson_defaults (m : Machine) (folder : Text) :
    (buildAsJson m (.map Settings.defaults) folder).result = endCode (Project.build m folder (preset.build m)).result ∧
      (buildAsJson m (.map Settings.defaults) folder).run = (Project.build m folder (preset.build m)).run := by
  rw [buildAsJson, forCommand_defaults]
  dsimp only
  cases (Project.build m folder (preset.build m)).result <;> exact ⟨rfl, rfl⟩

/-- **A build on a screen that takes every call** does so as well. -/
theorem Action.buildOnScreen_defaults (m : Machine) (folder : Text) :
    (buildOnScreen m (.map Settings.defaults) folder).result = endCode (Project.build m folder (preset.build m)).result := by
  rw [buildOnScreen, chooseForCommand_defaults, forCommand_defaults]

/-- A boxed screen writes nothing for a status, so that the build is run on any output. -/
theorem Action.buildOn_defaults_run (m : Machine) (folder : Text) :
    (buildOn out m (.map Settings.defaults) folder).run = (Project.build m folder (preset.build m)).run := by
  rw [buildOn, chooseForCommand_defaults, forCommand_defaults]
  rfl

variable (hfolder : folder.head? ≠ some dash)
  (hsettings : (Settings.load m.disk m.cwd m.cwd none).1 = .settings (.map Settings.defaults))

include hfolder hsettings

/-- **The run of a build that is printed as JSON**: its status. -/
theorem runOn_build_json : (runOn out m (buildArguments folder true)).result =
    .ok (exitCodeOf (Action.endCode (Project.build m folder (preset.build m)).result)) := by
  obtain ⟨log, hrun⟩ := runOn_build out hfolder hsettings true
  rw [hrun, ← (Action.buildAsJson_defaults m folder).1]
  rfl

/-- What both ways of showing a build start. -/
theorem runOn_build_started (json : Bool) :
    (runOn out m (buildArguments folder json)).started = (Project.build m folder (preset.build m)).run := by
  obtain ⟨log, hrun⟩ := runOn_build out hfolder hsettings json
  rw [hrun]
  cases json with
  | false => exact Action.buildOn_defaults_run out m folder
  | true => exact (Action.buildAsJson_defaults m folder).2

/-- What a build shows is what is shown on a screen that takes every call. -/
theorem run_build_shown (width : Nat) : (run m (buildArguments folder false)).shown width =
    Screen.shown width (Action.buildOnScreen m (.map Settings.defaults) folder).screen
      (Action.buildOnScreen m (.map Settings.defaults) folder).calls := by
  obtain ⟨log, hrun⟩ := runOn_build .any hfolder hsettings false
  rw [run, hrun, ← Action.buildOn_any]
  rfl

/-- **The run of a build on the screen**: its status where the output takes all that is shown. -/
theorem runOn_build_screen (h : out.TakesAll ((run m (buildArguments folder false)).shown out.width)) :
    (runOn out m (buildArguments folder false)).result =
      .ok (exitCodeOf (Action.endCode (Project.build m folder (preset.build m)).result)) := by
  rw [run_build_shown hfolder hsettings] at h
  obtain ⟨log, hrun⟩ := runOn_build out hfolder hsettings false
  obtain ⟨-, hplain⟩ | ⟨hrefused, -⟩ := Action.buildOn_cases out m (.map Settings.defaults) folder
  · rw [hrun, ← Action.buildOnScreen_defaults, ← hplain]
    rfl
  · exact absurd h hrefused

/-- **A build that shows what the output refuses** is given up. -/
theorem runOn_build_refused (h : ¬ out.TakesAll ((run m (buildArguments folder false)).shown out.width)) :
    (runOn out m (buildArguments folder false)).result = .ok 1 := by
  rw [run_build_shown hfolder hsettings] at h
  obtain ⟨log, hrun⟩ := runOn_build out hfolder hsettings false
  obtain ⟨htaken, -⟩ | ⟨-, f, hfailed⟩ := Action.buildOn_cases out m (.map Settings.defaults) folder
  · exact absurd htaken h
  · have hresult : exitCodeOf (Action.buildOn out m (.map Settings.defaults) folder).result = 1 := by
      rw [hfailed]
      rfl
    rw [hrun, ← hresult]
    rfl

/-- A build that ends with 1 when it is printed as JSON does so on the screen of every output. -/
theorem runOn_build_screen_of_failed (h : (runOn out m (buildArguments folder true)).result = .ok 1) :
    (runOn out m (buildArguments folder false)).result = .ok 1 := by
  by_cases htaken : out.TakesAll ((run m (buildArguments folder false)).shown out.width)
  · rw [runOn_build_screen out hfolder hsettings htaken, ← runOn_build_json out hfolder hsettings, h]
  · exact runOn_build_refused out hfolder hsettings htaken

end Shown

/-! ## The build -/

/-- A folder argument leads to a project: at its absolute path there is a folder with a manifest. -/
structure LeadsToProject (m : Machine) (folder : Text) : Prop where
  isFolder : m.disk.isFolder m.cwd (Path.absolute m.cwd folder) = true
  hasManifest : m.disk.isFile m.cwd (Path.join (Path.absolute m.cwd folder) Project.manifest) = true

/-- A build of the project at a path delivers a contract: cargo starts and exits with zero, the build is not given up,
and a message on standard output announces the contract. -/
def Delivers (m : Machine) (path : Text) : Prop :=
  ∃ run, m.start path "cargo" Cargo.buildArguments = .ok run ∧ run.program.exitCode = 0 ∧
    (∃ o, (preset.build m path).result = .ok o) ∧
    ∃ line ∈ LineBuffer.linesOf (run.program.output .stdout), ∃ msg,
      Message.ofLine? line = .ok (some msg) ∧ msg.Announces

/-- A folder argument that is not empty and does not climb leads where it says. -/
theorem leadsToProject_iff {m : Machine} (hm : m.Settled) {folder : Text} (hne : folder ≠ [])
    (h : ¬ Path.Climbs folder) :
    LeadsToProject m folder ↔ m.disk.isFolder m.cwd folder = true ∧
      m.disk.isFile m.cwd (Path.join folder Project.manifest) = true := by
  rw [← hm.isFolder_absolute hne h, ← hm.isFile_join_absolute hne h (by decide) (by decide) (by decide)]
  exact ⟨fun ⟨hfolder, hmanifest⟩ => ⟨hfolder, hmanifest⟩, fun ⟨hfolder, hmanifest⟩ => ⟨hfolder, hmanifest⟩⟩

theorem locate_of_project {m : Machine} {folder : Text} (h : LeadsToProject m folder) :
    Project.locate m folder = .ok (Path.absolute m.cwd folder) := by
  rw [Project.locate, h.isFolder, h.hasManifest]
  rfl

theorem locate_of_no_project {m : Machine} {folder : Text} (h : ¬ LeadsToProject m folder) :
    ∃ e, Project.locate m folder = .error e := by
  rw [Project.locate]
  split
  · exact ⟨_, rfl⟩
  · rename_i hfolder
    split
    · exact ⟨_, rfl⟩
    · rename_i hmanifest
      rw [Bool.not_eq_true', Bool.not_eq_false] at hfolder hmanifest
      exact absurd ⟨hfolder, hmanifest⟩ h

/-- Where there is no project, nothing is built. -/
theorem exitCodeOf_no_project {m : Machine} {folder : Text} (h : ¬ LeadsToProject m folder) (run : Text → Cargo.Build) :
    exitCodeOf (Action.endCode (Project.build m folder run).result) = 2 ∧ (Project.build m folder run).run = none := by
  obtain ⟨e, he⟩ := locate_of_no_project h
  unfold Project.build
  rw [he]
  exact ⟨rfl, rfl⟩

theorem exitCodeOf_project {m : Machine} {folder : Text} (h : LeadsToProject m folder) (run : Text → Cargo.Build) :
    exitCodeOf (Action.endCode (Project.build m folder run).result) =
      match (run (Path.absolute m.cwd folder)).result with
      | .error _ => 1
      | .ok o => if o.readyToDeploy then 0 else 1 := by
  unfold Project.build
  rw [locate_of_project h]
  dsimp only
  cases (run (Path.absolute m.cwd folder)).result <;> rfl

/-- **The status of a project** is 0 if its build gives an outcome that is ready to deploy, and 1 else. -/
theorem exitCodeOf_project_cases {m : Machine} {folder : Text} (h : LeadsToProject m folder)
    (run : Text → Cargo.Build) :
    (exitCodeOf (Action.endCode (Project.build m folder run).result) = 0 ∧
        ∃ o, (run (Path.absolute m.cwd folder)).result = .ok o ∧ o.readyToDeploy = true) ∨
      (exitCodeOf (Action.endCode (Project.build m folder run).result) = 1 ∧
        ¬ ∃ o, (run (Path.absolute m.cwd folder)).result = .ok o ∧ o.readyToDeploy = true) := by
  rw [exitCodeOf_project h]
  cases (run (Path.absolute m.cwd folder)).result with
  | error e =>
    refine .inr ⟨rfl, ?_⟩
    rintro ⟨o, ho, -⟩
    cases ho
  | ok o =>
    cases hready : o.readyToDeploy with
    | true => exact .inl ⟨if_pos hready, o, rfl, hready⟩
    | false =>
      refine .inr ⟨if_neg (by rw [hready]; exact Bool.false_ne_true), ?_⟩
      rintro ⟨o', ho, hready'⟩
      rw [← Except.ok.inj ho, hready] at hready'
      cases hready'

/-- A machine with a project in `/p`, and a program for cargo. -/
def machineWith (program : Program) : Machine :=
  ⟨⟨[(["p"], .folder), (["p", "Cargo.toml"], .file [] none), (["cargo"], .file [] (some program))]⟩, "/", ["/"], []⟩

/-- A machine with a project, and a cargo that announces a contract. -/
def contracting : Machine := machineWith Cargo.announcing

/-- A machine that is in the folder of a project, and has no cargo. -/
def unequipped : Machine := ⟨⟨[(["p"], .folder), (["p", "Cargo.toml"], .file [] none)]⟩, "/p", [], []⟩

/-- A program that announces a contract whose name holds half of a surrogate pair. -/
def announcingHalf : Program where
  writes := [⟨.stdout, Utf8.encode
    ("\x7b\"reason\":\"compiler-artifact\",\"target\":\x7b\"kind\":[\"cdylib\"]\x7d,\"filenames\":[\"\\ud800.wasm\"]\x7d\n"
      : Text)⟩]
  exitCode := 0
  seconds := (0, 1)

/-- A machine with a project, and a cargo that announces such a contract. -/
def contractingHalf : Machine := machineWith announcingHalf

end CommandLine

end ContractBuild
