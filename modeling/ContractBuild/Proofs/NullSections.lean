import ContractBuild.Proofs.Arguments
import ContractBuild.Proofs.SettingsFile

/-!
# Sections of the settings that are null

A section of the settings file without entries is null. Most readers take a null section for an empty one
(`Settings.looseSection`), and an empty one gives what the built-in settings give (`Settings.get_looseSection`). Three
readers do not: the one that makes the folder of the log file, the one that chooses the build system, and the one that
chooses the screen of a command.

`CommandLine.run_null_sections` compares a run with one whose settings file leaves the null sections out. It ends with an
error where the section of the log is null, with status 1 where another section that the command reads is null, and else
it is the same run.
-/

namespace ContractBuild

/-! ## Documents -/

namespace Settings

/-- The sections of the settings. -/
def sections : List Text := ["build_system", "logging", "ui"]

theorem mem_sections {key : Text} : key ∈ sections ↔ key = "build_system" ∨ key = "logging" ∨ key = "ui" := by
  rw [sections, List.mem_cons, List.mem_cons, List.mem_singleton]

/-- An entry of a document is null. -/
def NullIn (entries : List (Text × Value)) (key : Text) : Prop := Value.entry? key entries = some .null

/-- Whether an entry is a section that is null. -/
def isNullSection : Text × Value → Bool
  | (key, .null) => sections.elem key
  | _ => false

/-- The entries of a document without the sections that are null. -/
def withoutNulls (entries : List (Text × Value)) : List (Text × Value) := entries.filter fun e => !isNullSection e

theorem nodup_withoutNulls {entries : List (Text × Value)} (h : (entries.map Prod.fst).Nodup) :
    ((withoutNulls entries).map Prod.fst).Nodup := h.sublist (List.filter_sublist.map _)

/-- A section stays when null sections are left out, unless it is null. -/
theorem entry?_withoutNulls {entries : List (Text × Value)} (h : (entries.map Prod.fst).Nodup) {key : Text}
    (hkey : key ∈ sections) :
    (NullIn entries key ∧ Value.entry? key (withoutNulls entries) = none) ∨
      (¬ NullIn entries key ∧ Value.entry? key (withoutNulls entries) = Value.entry? key entries) := by
  have hfilter := Value.entry?_filter h (fun e => !isNullSection e) key
  unfold NullIn
  rw [withoutNulls, hfilter]
  cases hentry : Value.entry? key entries with
  | none => exact .inr ⟨nofun, rfl⟩
  | some v =>
    cases v with
    | null =>
      refine .inl ⟨rfl, ?_⟩
      rw [Option.filter_some, isNullSection, List.elem_eq_true_of_mem hkey]
      rfl
    | _ => exact .inr ⟨nofun, rfl⟩

/-! ## Settings -/

/-- A section of settings beside that of the settings without null sections: a null one stands beside the built-in one,
and any other is the same. -/
inductive Counterpart (entries : List (Text × Value)) (settings full : Value) (key : Text) : Prop
  | null (isNull : NullIn entries key) (left : settings.field? key = some .null)
      (right : full.field? key = Value.entry? key defaults)
  | same (notNull : ¬ NullIn entries key) (eq : settings.field? key = full.field? key)

theorem Counterpart.right_of_null {entries : List (Text × Value)} {settings full : Value} {key : Text}
    (h : Counterpart entries settings full key) (hnull : NullIn entries key) :
    full.field? key = Value.entry? key defaults := by
  cases h with
  | null _ _ right => exact right
  | same hsome _ => exact absurd hnull hsome

theorem Counterpart.left_of_null {entries : List (Text × Value)} {settings full : Value} {key : Text}
    (h : Counterpart entries settings full key) (hnull : NullIn entries key) : settings.field? key = some .null := by
  cases h with
  | null _ left _ => exact left
  | same hsome _ => exact absurd hnull hsome

theorem Counterpart.eq_of_not_null {entries : List (Text × Value)} {settings full : Value} {key : Text}
    (h : Counterpart entries settings full key) (hsome : ¬ NullIn entries key) :
    settings.field? key = full.field? key := by
  cases h with
  | null hnull _ _ => exact absurd hnull hsome
  | same _ heq => exact heq

theorem counterpart_overlay {entries : List (Text × Value)} (h : (entries.map Prod.fst).Nodup) (key : Text)
    (hkey : key ∈ sections) :
    Counterpart entries (.map (overlay defaults entries)) (.map (overlay defaults (withoutNulls entries))) key := by
  have hleft := entry?_overlay h defaults key
  have hright := entry?_overlay (nodup_withoutNulls h) defaults key
  obtain ⟨hnull, hnone⟩ | ⟨hsome, hsame⟩ := entry?_withoutNulls h hkey
  · rw [hnull] at hleft
    rw [hnone] at hright
    exact .null hnull hleft hright
  · rw [hsame] at hright
    exact .same hsome (hleft.trans hright.symm)

/-- Settings put a section in the place of another one. -/
theorem Counterpart.put {entries a b : List (Text × Value)} {key : Text}
    (h : Counterpart entries (.map a) (.map b) key) {other : Text} (hother : ¬ NullIn entries other) (v : Value) :
    Counterpart entries (.map (Value.put other v a)) (.map (Value.put other v b)) key := by
  have hput (c : List (Text × Value)) :
      (Value.map (Value.put other v c)).field? key = if key = other then some v else (Value.map c).field? key :=
    Value.entry?_put other key v c
  cases h with
  | null hnull left right =>
    have hkey : key ≠ other := by
      rintro rfl
      exact hother hnull
    exact .null hnull (by rw [hput, if_neg hkey, left]) (by rw [hput, if_neg hkey, right])
  | same hsome heq => exact .same hsome (by rw [hput, hput, heq])

/-- Where the section of the log is null, no path is resolved. -/
theorem ofEntries_of_null {entries : List (Text × Value)} (h : (entries.map Prod.fst).Nodup)
    (hnull : NullIn entries "logging") (cwd root : Text) :
    ofEntries cwd root entries = .ok (.map (overlay defaults entries)) ∧
      ofEntries cwd root (withoutNulls entries) = .ok (.map (overlay defaults (withoutNulls entries))) := by
  have hlogging := counterpart_overlay h "logging" (by decide)
  unfold ofEntries
  constructor
  · rw [resolvePath, resolveUnder, show Value.entry? "logging" _ = _ from hlogging.left_of_null hnull]
    rfl
  · rw [resolvePath, resolveUnder, show Value.entry? "logging" _ = _ from hlogging.right_of_null hnull]
    rfl

/-- **Loading settings** does not fail because a section is null. -/
theorem ofEntries_counterpart {entries : List (Text × Value)} (h : (entries.map Prod.fst).Nodup) (cwd root : Text) :
    (∃ e, ¬ NullIn entries "logging" ∧ ofEntries cwd root entries = .error e ∧
        ofEntries cwd root (withoutNulls entries) = .error e) ∨
      ∃ s full, ofEntries cwd root entries = .ok s ∧ ofEntries cwd root (withoutNulls entries) = .ok full ∧
        ∀ key ∈ sections, Counterpart entries s full key := by
  have hlogging := counterpart_overlay h "logging" (by decide)
  cases hlogging with
  | null hnull _ _ =>
    obtain ⟨hs, hfull⟩ := ofEntries_of_null h hnull cwd root
    exact .inr ⟨_, _, hs, hfull, counterpart_overlay h⟩
  | same hsome heq =>
    unfold ofEntries
    obtain ⟨e, he⟩ | ⟨records, hkept⟩ | ⟨v, records, hput⟩ := resolvePath_cases cwd root "logging" "log_file"
      (Value.entry? "logging" (overlay defaults entries))
    · rw [he _ rfl, he _ heq.symm]
      exact .inl ⟨e, hsome, rfl, rfl⟩
    · rw [hkept _ rfl, hkept _ heq.symm]
      exact .inr ⟨_, _, rfl, rfl, counterpart_overlay h⟩
    · rw [hput _ rfl, hput _ heq.symm]
      exact .inr ⟨_, _, rfl, rfl, fun key hkey => (counterpart_overlay h key hkey).put hsome v⟩

/-! ## Readers of sections -/

/-- A built-in setting. -/
def builtIn? (key name : Text) : Option Value := (Value.entry? key defaults).bind (Value.field? name)

section Readers

variable {entries : List (Text × Value)} {s full : Value}

/-- **A reader that takes null for empty** finds what it finds without null sections, as its default is built in. -/
theorem get_looseSection {key : Text} (h : Counterpart entries s full key) (name : Text) (v : Value)
    (hbuiltIn : builtIn? key name = some v) :
    get (looseSection s key) name v = get (looseSection full key) name v := by
  cases h with
  | same _ heq => rw [looseSection, looseSection, sectionOf, sectionOf, heq]
  | null _ left right =>
    obtain ⟨found, hfound, hfield⟩ := Option.bind_eq_some_iff.1 hbuiltIn
    have hleft : looseSection s key = .map [] := by
      rw [looseSection, sectionOf, left]
      rfl
    have hright : get (looseSection full key) name v = .ok v := by
      rw [looseSection, sectionOf, right, hfound]
      cases found with
      | map inner =>
        cases inner with
        | nil => cases hfield
        | cons e rest =>
          have hentry : Value.entry? name (e :: rest) = some v := hfield
          show Except.ok ((Value.entry? name (e :: rest)).getD v) = .ok v
          rw [hentry]
          rfl
      | _ => cases hfield
    rw [hleft, hright]
    rfl

/-- A reader that needs a map fails at a null section. -/
theorem get_sectionOf_of_null {key : Text} (h : Counterpart entries s full key) (hnull : NullIn entries key)
    (name : Text) (v : Value) : get (sectionOf s key) name v = .error (.noSections .null) := by
  rw [sectionOf, h.left_of_null hnull]
  rfl

theorem sectionOf_eq {key : Text} (h : Counterpart entries s full key) (hsome : ¬ NullIn entries key) :
    sectionOf s key = sectionOf full key := by
  rw [sectionOf, sectionOf, h.eq_of_not_null hsome]

theorem ensureFolders_of_null (h : Counterpart entries s full "logging") (hnull : NullIn entries "logging")
    (disk : Disk) : ensureFolders disk s = .error (.noSections .null) := by
  rw [ensureFolders, get_sectionOf_of_null h hnull]

theorem ensureFolders_eq (h : Counterpart entries s full "logging") (hsome : ¬ NullIn entries "logging")
    (disk : Disk) : ensureFolders disk s = ensureFolders disk full := by
  rw [ensureFolders, ensureFolders, sectionOf_eq h hsome]

/-- **The log** is set up alike. -/
theorem start_eq (hlogging : Counterpart entries s full "logging") (hui : Counterpart entries s full "ui")
    (m : Machine) : Log.start m s = Log.start m full := by
  have hlevel := get_looseSection hlogging "level" (.text "INFO") rfl
  have hformat := get_looseSection hlogging "format" (.text defaultFormat) rfl
  have hfile := get_looseSection hlogging "log_file" .null rfl
  have hdisplay := get_looseSection hui "enhanced_logging" (.bool true) rfl
  unfold Log.start
  simp only [hlevel, hformat, hfile, hdisplay]

/-- **Cargo** is run alike. -/
theorem ofSettings_eq (h : Counterpart entries s full "build_system") : Cargo.ofSettings s = Cargo.ofSettings full := by
  have hcommand := get_looseSection h "command" (.text "cargo") rfl
  have hsize := get_looseSection h "read_chunk_size" (.int 4096) rfl
  have htimeout := get_looseSection h "version_timeout" (.int 30) rfl
  unfold Cargo.ofSettings
  simp only [hcommand, hsize, htimeout]

/-- **The screen** is chosen alike. -/
theorem choose_eq (h : Counterpart entries s full "ui") : Screen.choose s = Screen.choose full := by
  have htype := get_looseSection h "type" (.text "rich") rfl
  have hshown := get_looseSection h "show_elapsed" (.bool true) rfl
  unfold Screen.choose Screen.columns
  simp only [htype, hshown]

theorem forCommand_of_null (h : Counterpart entries s full "build_system") (hnull : NullIn entries "build_system") :
    Cargo.forCommand s = .error (.noSections .null) := by
  rw [Cargo.forCommand, get_sectionOf_of_null h hnull]
  rfl

theorem forCommand_eq (h : Counterpart entries s full "build_system") (hsome : ¬ NullIn entries "build_system") :
    Cargo.forCommand s = Cargo.forCommand full := by
  rw [Cargo.forCommand, Cargo.forCommand, sectionOf_eq h hsome, ofSettings_eq h]

theorem chooseForCommand_of_null (h : Counterpart entries s full "ui") (hnull : NullIn entries "ui") :
    Screen.chooseForCommand s = .error (.noSections .null) := by
  rw [Screen.chooseForCommand, get_sectionOf_of_null h hnull]
  rfl

theorem chooseForCommand_eq (h : Counterpart entries s full "ui") (hsome : ¬ NullIn entries "ui") :
    Screen.chooseForCommand s = Screen.chooseForCommand full := by
  rw [Screen.chooseForCommand, Screen.chooseForCommand, sectionOf_eq h hsome, choose_eq h]

end Readers

/-- The sections of a document are maps or null, where they are there. -/
def HasSections (entries : List (Text × Value)) : Prop :=
  ∀ key ∈ sections, ∀ v, Value.entry? key entries = some v → v = .null ∨ ∃ inner, v = .map inner

/-- Without null sections, every section of the settings is a map. -/
theorem HasSections.field?_overlay {entries : List (Text × Value)} (h : HasSections entries)
    (hnodup : (entries.map Prod.fst).Nodup) (key : Text) (hkey : key ∈ sections) :
    ∃ inner, (Value.map (overlay defaults (withoutNulls entries))).field? key = some (.map inner) := by
  have hbase : ∃ base, Value.entry? key defaults = some (.map base) := by
    obtain rfl | rfl | rfl := mem_sections.1 hkey <;> exact ⟨_, rfl⟩
  obtain ⟨base, hbase⟩ := hbase
  have hfield := entry?_overlay (nodup_withoutNulls hnodup) defaults key
  obtain ⟨-, hnone⟩ | ⟨hsome, hsame⟩ := entry?_withoutNulls hnodup hkey
  · rw [hnone] at hfield
    exact ⟨base, hfield.trans hbase⟩
  · rw [hsame] at hfield
    cases hentry : Value.entry? key entries with
    | none =>
      rw [hentry] at hfield
      exact ⟨base, hfield.trans hbase⟩
    | some v =>
      obtain rfl | ⟨inner, rfl⟩ := h key hkey v hentry
      · exact absurd hentry hsome
      · rw [hentry, hbase] at hfield
        refine ⟨overlay base inner, hfield.trans ?_⟩
        dsimp only
        rw [laidOver]

/-- With the built-in section of the log, and a map for that of the screen, a log can be set up. -/
theorem start_of_builtIn {s : Value} (hlogging : s.field? "logging" = Value.entry? "logging" defaults)
    {inner : List (Text × Value)} (hui : s.field? "ui" = some (.map inner)) (m : Machine) :
    ∃ log, Log.start m s = (.ok log, m.disk) := by
  have hloose : looseSection s "logging" = looseSection (.map defaults) "logging" := by
    rw [looseSection, sectionOf, hlogging]
    rfl
  obtain ⟨display, hdisplay⟩ : ∃ v, get (looseSection s "ui") "enhanced_logging" (.bool true) = .ok v := by
    rw [looseSection, sectionOf, hui]
    cases inner <;> exact ⟨_, rfl⟩
  unfold Log.start
  rw [hloose, hdisplay]
  cases hshown : display.isTruthy <;>
  · simp only [bind, Except.bind, hshown]
    exact ⟨_, rfl⟩

end Settings

/-! ## Runs -/

namespace CommandLine

/-- Whether a command shows something on the screen. -/
def Command.showsScreen : Command → Bool
  | .build _ json => !json
  | .verify => true

/-- A section that a command needs as a map is null. -/
def NeedsNull (entries : List (Text × Value)) (c : Command) : Prop :=
  Settings.NullIn entries "build_system" ∨ Settings.NullIn entries "ui" ∧ c.showsScreen = true

/-- A run with settings ends with an error before the log is set up, or performs the command. Settings that agree on the
folder of the log file and on the log do so alike. -/
theorem runWith_cases (out : Screen.Output) {s full : Value} (hfolders : ∀ disk, Settings.ensureFolders disk s = Settings.ensureFolders disk full)
    (hstart : ∀ m, Log.start m s = Log.start m full) (m : Machine) (c : Command) :
    (∃ e disk, runWith out m s c = .ended (.error e) disk ∧ runWith out m full c = .ended (.error e) disk) ∨
      ∃ m' log, runWith out m s c = perform out m' s log c ∧ runWith out m full c = perform out m' full log c := by
  unfold runWith
  rw [hfolders m.disk]
  cases Settings.ensureFolders m.disk full with
  | error e => exact .inl ⟨e, m.disk, rfl, rfl⟩
  | ok made =>
    dsimp only
    rw [hstart]
    obtain ⟨started, disk⟩ := Log.start { m with disk := made.1 } full
    cases started with
    | error e => exact .inl ⟨e, disk, rfl, rfl⟩
    | ok log => exact .inr ⟨{ m with disk }, log, rfl, rfl⟩

section Sections

variable (out : Screen.Output) {entries : List (Text × Value)} {s full : Value}

/-- A command that needs a null section fails. -/
theorem perform_of_null (h : ∀ key ∈ Settings.sections, Settings.Counterpart entries s full key) {c : Command}
    (hnull : NeedsNull entries c) (m : Machine) (log : Log.Start) : (perform out m s log c).result = .ok 1 := by
  have hfails : exitCodeOf (Action.ofCommand out m s c).result = 1 := by
    by_cases hbuild : Settings.NullIn entries "build_system"
    · have hcargo := Settings.forCommand_of_null (h _ (by decide)) hbuild
      cases c with
      | build folder json =>
        cases json with
        | true => rw [Action.ofCommand, Action.buildAsJson, hcargo]; rfl
        | false =>
          rw [Action.ofCommand, Action.buildOn, hcargo]
          cases Screen.chooseForCommand s with
          | error e => rfl
          | ok chosen =>
            dsimp only
            cases (out.take (.start chosen.1) [Action.opening m folder]).fault <;> rfl
      | verify =>
        rw [Action.ofCommand, Action.verify, hcargo]
        cases Screen.chooseForCommand s <;> rfl
    · obtain ⟨hui, hscreen⟩ := hnull.resolve_left hbuild
      have hchoice := Settings.chooseForCommand_of_null (h _ (by decide)) hui
      cases c with
      | build folder json =>
        cases json with
        | true => cases hscreen
        | false => rw [Action.ofCommand, Action.buildOn, hchoice]; rfl
      | verify => rw [Action.ofCommand, Action.verify, hchoice]; rfl
  rw [perform, hfails]

/-- A command that needs no null section does what it does without null sections. -/
theorem ofCommand_eq (h : ∀ key ∈ Settings.sections, Settings.Counterpart entries s full key) {c : Command}
    (hsome : ¬ NeedsNull entries c) (m : Machine) : Action.ofCommand out m s c = Action.ofCommand out m full c := by
  have hcargo : Cargo.forCommand s = Cargo.forCommand full :=
    Settings.forCommand_eq (h _ (by decide)) fun hnull => hsome (.inl hnull)
  have hchoice (hscreen : c.showsScreen = true) : Screen.chooseForCommand s = Screen.chooseForCommand full :=
    Settings.chooseForCommand_eq (h _ (by decide)) fun hnull => hsome (.inr ⟨hnull, hscreen⟩)
  cases c with
  | build folder json =>
    cases json with
    | true => simp only [Action.ofCommand, Action.buildAsJson, hcargo]
    | false => simp only [Action.ofCommand, Action.buildOn, hcargo, hchoice rfl]
  | verify => simp only [Action.ofCommand, Action.verify, hcargo, hchoice rfl]

/-- **A null section that the command needs** gives the status 1, once there is a log. -/
theorem runWith_of_null (h : ∀ key ∈ Settings.sections, Settings.Counterpart entries s full key)
    (hlogging : ¬ Settings.NullIn entries "logging") {c : Command} (hnull : NeedsNull entries c) (m : Machine) :
    (runWith out m s c).result = (runWith out m full c).result.map fun _ => 1 := by
  have hfolders := Settings.ensureFolders_eq (h _ (by decide)) hlogging
  have hstart := Settings.start_eq (h "logging" (by decide)) (h "ui" (by decide))
  obtain ⟨e, disk, hs, hfull⟩ | ⟨m', log, hs, hfull⟩ := runWith_cases out hfolders hstart m c
  · rw [hs, hfull]
    rfl
  · rw [hs, hfull, perform_of_null out h hnull]
    rfl

/-- **No null section that is needed**: the run is the one without null sections. -/
theorem runWith_eq (h : ∀ key ∈ Settings.sections, Settings.Counterpart entries s full key)
    (hlogging : ¬ Settings.NullIn entries "logging") {c : Command} (hsome : ¬ NeedsNull entries c) (m : Machine) :
    runWith out m s c = runWith out m full c := by
  have hfolders := Settings.ensureFolders_eq (h _ (by decide)) hlogging
  have hstart := Settings.start_eq (h "logging" (by decide)) (h "ui" (by decide))
  obtain ⟨e, disk, hs, hfull⟩ | ⟨m', log, hs, hfull⟩ := runWith_cases out hfolders hstart m c
  · rw [hs, hfull]
  · rw [hs, hfull, perform, perform, ofCommand_eq out h hsome]

/-- **A null section of the log** gives an error, and nothing is done. -/
theorem runWith_of_null_log (h : Settings.Counterpart entries s full "logging")
    (hlogging : Settings.NullIn entries "logging") (m : Machine) (c : Command) :
    runWith out m s c = .ended (.error (.noSections .null)) m.disk := by
  rw [runWith, Settings.ensureFolders_of_null h hlogging]

end Sections

/-- With the built-in section of the log, and a map for that of the screen, a run has a status. -/
theorem runWith_of_builtIn (out : Screen.Output) {s : Value} (hlogging : s.field? "logging" = Value.entry? "logging" Settings.defaults)
    {inner : List (Text × Value)} (hui : s.field? "ui" = some (.map inner)) (m : Machine) (c : Command) :
    ∃ code, (runWith out m s c).result = .ok code := by
  have hfolders : Settings.ensureFolders m.disk s = .ok (m.disk, []) := by
    rw [Settings.ensureFolders, Settings.sectionOf, hlogging]
    rfl
  obtain ⟨log, hlog⟩ := Settings.start_of_builtIn hlogging hui m
  rw [runWith, hfolders]
  dsimp only
  rw [hlog]
  exact ⟨_, rfl⟩

/-- **Null sections.** Two runs on one output ask for the same command on one machine, with settings files in one folder, of which the
second has the entries of the first without the sections that are null.

* If the section of the log is null, the first run ends with an error, and the second one does not.
* Else, if the command needs a section that is null, the first run ends with status 1 unless both end with an error
  before the command.
* Else both are the same run. -/
theorem run_null_sections (out : Screen.Output) (m : Machine) (arguments arguments' : List Text) {args args' : Arguments}
    (hargs : parseArguments arguments = .ok args) (hargs' : parseArguments arguments' = .ok args')
    (hcommand : args'.command = args.command) {path path' : Text} (hfolder : Path.parent path' = Path.parent path)
    {entries : List (Text × Value)} (hfile : Settings.Holds m args.config path entries)
    (hfile' : Settings.Holds m args'.config path' (Settings.withoutNulls entries))
    (hsections : Settings.HasSections entries) :
    (Settings.NullIn entries "logging" →
        (runOn out m arguments).result = .error (.noSections .null) ∧ ∃ code, (runOn out m arguments').result = .ok code) ∧
      (¬ Settings.NullIn entries "logging" → NeedsNull entries args.command →
        (runOn out m arguments).result = (runOn out m arguments').result.map fun _ => 1) ∧
      (¬ Settings.NullIn entries "logging" → ¬ NeedsNull entries args.command →
        runOn out m arguments = runOn out m arguments') := by
  have hnodup := hfile.nodup
  rw [runOn_of_holds out hargs hfile, runOn_of_holds out hargs' hfile', hcommand, hfolder]
  by_cases hlogging : Settings.NullIn entries "logging"
  · obtain ⟨hs, hfull⟩ := Settings.ofEntries_of_null hnodup hlogging m.cwd (Path.parent path)
    have hcounterpart := Settings.counterpart_overlay hnodup "logging" (by decide)
    have hbuiltIn := hcounterpart.right_of_null hlogging
    obtain ⟨inner, hui⟩ := hsections.field?_overlay hnodup "ui" (by decide)
    rw [hs, hfull]
    refine ⟨fun _ => ⟨?_, runWith_of_builtIn out hbuiltIn hui m args.command⟩, absurd hlogging, absurd hlogging⟩
    dsimp only
    rw [runWith_of_null_log out hcounterpart hlogging]
    rfl
  · refine ⟨fun h => absurd h hlogging, fun _ hnull => ?_, fun _ hsome => ?_⟩ <;>
      obtain ⟨e, -, hs, hfull⟩ | ⟨s, full, hs, hfull, h⟩ :=
        Settings.ofEntries_counterpart hnodup m.cwd (Path.parent path) <;>
      rw [hs, hfull]
    · rfl
    · exact runWith_of_null out h hlogging hnull m
    · exact runWith_eq out h hlogging hsome m

/-! ### A machine with null sections -/

/-- A program that tells the version of cargo. -/
def telling : Program where
  writes := [⟨.stdout, Utf8.encode ("cargo 1.75.0\n" : Text)⟩]
  exitCode := 0
  seconds := (0, 1)

/-- The path of a settings file for a section. -/
def fileOf (key : Text) : Text := "config/" ++ key ++ ".yml"

/-- A settings file in which a section is null. -/
def nullFile (key : Text) : Text := key ++ ":\n"

/-- A machine where that program is cargo, with an empty settings file and files in which one section is null. -/
def sparse : Machine where
  disk := ⟨[
    (["config"], .folder), (["config", "application.yml"], .file [] none),
    (["config", "build_system.yml"], .file (Utf8.encode (nullFile "build_system")) none),
    (["config", "logging.yml"], .file (Utf8.encode (nullFile "logging")) none),
    (["config", "ui.yml"], .file (Utf8.encode (nullFile "ui")) none),
    (["cargo"], .file [] (some telling))]⟩
  cwd := "/"
  searchPath := ["/"]
  clock := []

theorem decode_nullFile {key : Text} (h : key ∈ Settings.sections) :
    Utf8.decodeFile (Utf8.encode (nullFile key)) = .ok (nullFile key) := by
  refine eq_ok_of_toOption ?_
  revert key
  decide +kernel

theorem parse_nullFile {key : Text} (h : key ∈ Settings.sections) :
    Yaml.parse (nullFile key).unifyLineEnds = .ok (.map [(key, .null)]) := by
  have htokens : Yaml.tokens (nullFile key).unifyLineEnds =
      .ok [.blockMapping, .key, .scalar .plain key, .value, .blockEnd] := by
    refine eq_ok_of_toOption ?_
    revert key
    decide +kernel
  rw [Yaml.parse, htokens]
  obtain rfl | rfl | rfl := Settings.mem_sections.1 h <;> rfl

theorem holds_null (key : Text) (h : key ∈ Settings.sections) :
    Settings.Holds sparse (some (fileOf key)) ("/" ++ fileOf key) [(key, .null)] := by
  have hread : sparse.disk.read sparse.cwd ("/" ++ fileOf key) = .ok (Utf8.encode (nullFile key)) := by
    refine eq_ok_of_toOption ?_
    revert key
    decide +kernel
  exact ⟨by revert key; decide +kernel, _, _, _, hread, decode_nullFile h, parse_nullFile h, .inl rfl⟩

theorem holds_empty : Settings.Holds sparse none "/config/application.yml" [] :=
  ⟨rfl, [], [], .null, rfl, rfl, rfl, .inr ⟨rfl, rfl⟩⟩

/-- Verification with the settings file of a section. -/
def verifyWith (key : Text) : List Text := ["--config", fileOf key, "verify"]

theorem parseArguments_verify : parseArguments ["verify"] = .ok ⟨.verify, none⟩ := rfl

theorem fileOf_head (key : Text) : (fileOf key).head? ≠ some dash := by
  have hhead : (fileOf key).head? = some 'c' := rfl
  rw [hhead]
  decide

theorem parseArguments_verifyWith (key : Text) :
    parseArguments (verifyWith key) = .ok ⟨.verify, some (fileOf key)⟩ := by
  rw [verifyWith, parseArguments_config (fileOf_head key), parseArguments_verify]
  rfl

theorem withoutNulls_null (key : Text) (h : key ∈ Settings.sections) : Settings.withoutNulls [(key, .null)] = [] := by
  obtain rfl | rfl | rfl := Settings.mem_sections.1 h <;> rfl

theorem hasSections_null (key : Text) : Settings.HasSections [(key, .null)] := by
  intro other _ v hv
  by_cases hother : other = key
  · subst hother
    rw [Value.entry?_cons_self] at hv
    exact .inl (Option.some.inj hv).symm
  · rw [Value.entry?_cons_of_ne hother] at hv
    cases hv

/-- On that machine, a null section of the log ends the verification with an error, one of the screen gives it the status
1, and one of the screen changes nothing for a build that is printed as JSON. -/
theorem run_null_sections_sparse :
    ((run sparse (verifyWith "logging")).result = .error (.noSections .null) ∧
      ∃ code, (run sparse ["verify"]).result = .ok code) ∧
    (run sparse (verifyWith "ui")).result = (run sparse ["verify"]).result.map (fun _ => 1) ∧
    run sparse ["--config", fileOf "ui", "build", "p", "--json"] = run sparse ["build", "p", "--json"] := by
  have hfull (key : Text) (h : key ∈ Settings.sections) :
      Settings.Holds sparse none "/config/application.yml" (Settings.withoutNulls [(key, .null)]) := by
    rw [withoutNulls_null key h]
    exact holds_empty
  have hlogging : ¬ Settings.NullIn [("ui", .null)] "logging" := nofun
  refine ⟨?_, ?_, ?_⟩
  · obtain ⟨hnull, -, -⟩ := run_null_sections .any sparse (verifyWith "logging") ["verify"]
      (parseArguments_verifyWith "logging") parseArguments_verify rfl (by decide +kernel)
      (holds_null "logging" (by decide)) (hfull "logging" (by decide)) (hasSections_null "logging")
    exact hnull rfl
  · obtain ⟨-, hnull, -⟩ := run_null_sections .any sparse (verifyWith "ui") ["verify"]
      (parseArguments_verifyWith "ui") parseArguments_verify rfl (by decide +kernel)
      (holds_null "ui" (by decide)) (hfull "ui" (by decide)) (hasSections_null "ui")
    exact hnull hlogging (.inr ⟨rfl, rfl⟩)
  · have hargs' : parseArguments ["build", "p", "--json"] = .ok ⟨.build "p" true, none⟩ :=
      parseArguments_around [] [.json] (by decide) nofun
    have hargs : parseArguments ["--config", fileOf "ui", "build", "p", "--json"] =
        .ok ⟨.build "p" true, some (fileOf "ui")⟩ := by
      rw [parseArguments_config (fileOf_head "ui"), hargs']
      rfl
    obtain ⟨-, -, hsame⟩ := run_null_sections .any sparse _ _ hargs hargs' rfl (by decide +kernel)
      (holds_null "ui" (by decide)) (hfull "ui" (by decide)) (hasSections_null "ui")
    refine hsame hlogging ?_
    rintro (hbuild | ⟨-, hscreen⟩)
    · cases hbuild
    · cases hscreen

/-- **Null sections are not taken for absent ones.** The files with a null section hold nothing else, so that without it
they are empty. With an empty file cargo is verified there; with each of the others it is not. -/
theorem null_sections_not_absent :
    (∀ key ∈ Settings.sections, Settings.Holds sparse (some (fileOf key)) ("/" ++ fileOf key) [(key, .null)] ∧
      Settings.withoutNulls [(key, .null)] = []) ∧
    Settings.Holds sparse none "/config/application.yml" [] ∧
    (run sparse ["verify"]).result = .ok 0 ∧
    (run sparse (verifyWith "build_system")).result = .ok 1 ∧
    (run sparse (verifyWith "ui")).result = .ok 1 ∧
    (run sparse (verifyWith "logging")).result = .error (.noSections .null) := by
  have hrun (key : Text) (h : key ∈ Settings.sections) :=
    runOn_of_holds .any (parseArguments_verifyWith key) (holds_null key h)
  refine ⟨fun key h => ⟨holds_null key h, withoutNulls_null key h⟩, holds_empty, ?_, ?_, ?_, ?_⟩
  · rw [run, runOn_of_holds .any parseArguments_verify holds_empty]
    exact eq_ok_of_toOption (by decide +kernel)
  · rw [run, hrun "build_system" (by decide)]
    rfl
  · rw [run, hrun "ui" (by decide)]
    rfl
  · rw [run, hrun "logging" (by decide)]
    rfl

end CommandLine

end ContractBuild
