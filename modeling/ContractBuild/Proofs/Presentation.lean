import ContractBuild.Proofs.ByFile
import ContractBuild.Proofs.Paths
import Mathlib.Data.List.TakeWhile

/-!
# The presentation of a report

`Report.present` follows the presentation of a report step by step, with everything that could go wrong on the way:
the first of no lines, a path that is empty, a working folder that cannot be asked for, an artifact that is not there
(`Report.Fault`). For a project at an absolute path none of this happens, and the calls are those of `Report.calls`,
whatever the working folder is (`Report.present_eq`).

What the calls are is said in `Report.present_sequence`: a table with one row for each diagnostic of a source file,
one message with all toolchain problems, and one panel with the result. No diagnostic is lost between the list that
was added and the table (`Report.shown_perm`), and a row never breaks its line (`Text.isFirstLine_firstLine`).
-/

namespace ContractBuild

/-! ## First lines -/

namespace Text

/-- The first line of a text, an empty one for the empty text. It has no line boundary in it. -/
structure IsFirstLine (line t : Text) : Prop where
  first : t = [] ∧ line = [] ∨ t.lines.head? = some line
  unbroken : ∀ c ∈ line, c.isLineBoundary = false

/-- The first line behind `line` goes up to the first boundary. -/
theorem head?_linesFrom (line t : Text) (h : line ≠ [] ∨ t ≠ []) :
    (linesFrom false line t).head? = some (line.reverse ++ t.takeWhile fun c => !c.isLineBoundary) := by
  induction t generalizing line with
  | nil =>
    obtain ⟨c, rest, rfl⟩ := List.exists_cons_of_ne_nil (h.resolve_right fun h => h rfl)
    simp [linesFrom]
  | cons c t ih =>
    rw [linesFrom, Bool.false_and, if_neg Bool.false_ne_true]
    by_cases hc : c.isLineBoundary
    · simp [hc]
    · rw [if_neg hc, ih (c :: line) (.inl (List.cons_ne_nil c line))]
      simp [hc]

theorem lines_head? {t : Text} (h : t ≠ []) : t.lines.head? = some t.firstLine := by
  rw [firstLine, List.headD_eq_head?_getD, lines, head?_linesFrom [] t (.inr h), Option.getD_some]

theorem isFirstLine_firstLine (t : Text) : t.firstLine.IsFirstLine t := by
  by_cases h : t = []
  · subst h
    exact ⟨.inl ⟨rfl, rfl⟩, nofun⟩
  · have hline := lines_head? h
    refine ⟨.inr hline, fun c hc => ?_⟩
    rw [lines, head?_linesFrom [] t (.inr h), Option.some.injEq] at hline
    rw [← hline, List.reverse_nil, List.nil_append] at hc
    simpa using List.mem_takeWhile_imp hc

end Text

namespace Report

/-! ## The presentation with its faults -/

theorem firstLine?_eq (t : Text) : firstLine? t = .ok t.firstLine := by
  by_cases h : t = []
  · subst h
    rfl
  · rw [firstLine?, if_neg (by rwa [List.isEmpty_iff])]
    have hline := Text.lines_head? h
    cases hlines : t.lines with
    | nil => rw [hlines] at hline; cases hline
    | cons line rest =>
      rw [hlines] at hline
      exact congrArg _ (Option.some.inj hline)

theorem row?_eq (relative : Text) (d : Diagnostic) : row? relative d = .ok (row relative d) := by
  rw [row?, firstLine?_eq]
  rfl

theorem relative?_eq {start p : Text} (hstart : Path.isAbsolute start = true) (hp : Path.isAbsolute p = true)
    (cwd? : Option Text) (cwd : Text) : relative? cwd? start p = .ok (Path.relative cwd start p) := by
  rw [relative?.eq_def, if_neg (by rw [List.isEmpty_iff]; exact Path.ne_nil_of_isAbsolute hp)]
  cases cwd? with
  | some cwd' => exact congrArg _ (Path.relative_of_isAbsolute hstart hp cwd' cwd)
  | none =>
    rw [hstart, hp, Bool.and_self]
    exact congrArg _ (Path.relative_of_isAbsolute hstart hp [] cwd)

/-- Steps that all succeed give the list of their results. -/
theorem mapM_eq_map {α β : Type} {f : α → Except Fault β} {g : α → β} {as : List α} (h : ∀ a ∈ as, f a = .ok (g a)) :
    as.mapM f = .ok (as.map g) := by
  induction as with
  | nil => rfl
  | cons a as ih =>
    rw [List.mapM_cons, h a List.mem_cons_self, ih fun b hb => h b (List.mem_cons_of_mem a hb)]
    rfl

/-- The panel always has what it needs: a build that succeeded with no artifact missing has an artifact. -/
theorem panel?_eq (o : Outcome) : panel? o = .ok (panel o) := by
  rw [panel?]
  split
  · rfl
  · rename_i h
    cases hartifact : o.artifact with
    | none =>
      -- then the build has failed, or the artifact is missing
      refine absurd ?_ h
      cases hsuccess : o.success <;> simp [Outcome.missingArtifact, hsuccess, hartifact]
    | some a => rfl

/-! ## Published diagnostics -/

variable {dir : Text} {ds : Diagnostics}

/-- The groups with those of a file published. -/
def publishGroup (dir : Text) (gs : List (Text × List Diagnostic)) (g : Text × List Diagnostic) :
    List (Text × List Diagnostic) :=
  match publishedPath? dir g.1 with
  | none => gs
  | some path => publish path g.2 gs

theorem published_eq (dir : Text) (ds : Diagnostics) : published dir ds = ds.groups.foldl (publishGroup dir) [] := rfl

/-- A diagnostic is publishable when its file has a path to be published under. -/
def publishable (dir : Text) (d : Diagnostic) : Bool := (publishedPath? dir d.file).isSome

/-- **Publishing a file** keeps the groups apart. -/
theorem Keyed.publishGroup {gs : List (Text × List Diagnostic)} (h : Keyed (publishedPath? dir ·.file) gs)
    {g : Text × List Diagnostic} (hne : g.2 ≠ []) (hown : ∀ d ∈ g.2, d.file = g.1) :
    Keyed (publishedPath? dir ·.file) (publishGroup dir gs g) := by
  rw [Report.publishGroup]
  split
  · exact h
  · rename_i path hpath
    exact h.publish hne fun d hd => by rw [hown d hd, hpath]

/-- **Publishing a file** publishes its diagnostics, or none of them is publishable. -/
theorem flatMap_publishGroup_perm (gs : List (Text × List Diagnostic)) {g : Text × List Diagnostic}
    (hown : ∀ d ∈ g.2, d.file = g.1) :
    ((publishGroup dir gs g).flatMap Prod.snd).Perm (gs.flatMap Prod.snd ++ g.2.filter (publishable dir)) := by
  rw [publishGroup]
  split
  · rename_i hpath
    rw [List.filter_eq_nil_iff.2 fun d hd => by rw [publishable, hown d hd, hpath]; exact Bool.false_ne_true,
      List.append_nil]
  · rename_i path hpath
    rw [List.filter_eq_self.2 fun d hd => by rw [publishable, hown d hd, hpath]; rfl]
    exact flatMap_publish_perm path g.2 gs

/-- Every path is there once, with diagnostics, and all of these are published under it. -/
theorem keyed_published (h : ds.Grouped) (dir : Text) : Keyed (publishedPath? dir ·.file) (published dir ds) := by
  have hfrom (gs known : List (Text × List Diagnostic)) (hgs : ∀ g ∈ gs, g ∈ ds.groups)
      (hknown : Keyed (publishedPath? dir ·.file) known) :
      Keyed (publishedPath? dir ·.file) (gs.foldl (publishGroup dir) known) := by
    induction gs generalizing known with
    | nil => exact hknown
    | cons g gs ih =>
      have hg := hgs g List.mem_cons_self
      exact ih _ (fun g' hg' => hgs g' (List.mem_cons_of_mem g hg'))
        (hknown.publishGroup (h.nonempty g hg) fun d hd => Option.some.inj (h.own g hg d hd))
  rw [published_eq]
  exact hfrom ds.groups [] (fun g hg => hg) keyed_nil

/-- **No publishable diagnostic is lost or repeated.** -/
theorem flatMap_published_perm (h : ds.Grouped) (dir : Text) :
    ((published dir ds).flatMap Prod.snd).Perm (ds.flatten.filter (publishable dir)) := by
  have hfrom (gs known : List (Text × List Diagnostic)) (hgs : ∀ g ∈ gs, g ∈ ds.groups) :
      ((gs.foldl (publishGroup dir) known).flatMap Prod.snd).Perm
        (known.flatMap Prod.snd ++ (gs.flatMap Prod.snd).filter (publishable dir)) := by
    induction gs generalizing known with
    | nil => rw [List.flatMap_nil, List.filter_nil, List.append_nil]; exact .refl _
    | cons g gs ih =>
      have hown (d) (hd : d ∈ g.2) : d.file = g.1 := Option.some.inj (h.own g (hgs g List.mem_cons_self) d hd)
      have hrest := (ih (publishGroup dir known g) fun g' hg' => hgs g' (List.mem_cons_of_mem g hg')).trans
        ((flatMap_publishGroup_perm known hown).append_right _)
      rw [List.append_assoc, ← List.filter_append, ← List.flatMap_cons] at hrest
      exact hrest
  rw [published_eq]
  exact hfrom ds.groups [] fun g hg => hg

/-- The published diagnostics in order, each with its path. -/
def shown (dir : Text) (ds : Diagnostics) : List (Text × Diagnostic) :=
  (published dir ds).flatMap fun g => g.2.map (Prod.mk g.1)

theorem map_snd_shown (dir : Text) (ds : Diagnostics) :
    (shown dir ds).map Prod.snd = (published dir ds).flatMap Prod.snd := by
  rw [shown, List.map_flatMap]
  congr 1
  funext g
  rw [List.map_map, Function.comp_def, List.map_id']

/-- **No publishable diagnostic is lost or repeated** between the list that was added and the table. -/
theorem shown_perm (dir : Text) (added : List Diagnostic) :
    ((shown dir (.ofList added)).map Prod.snd).Perm (added.filter (publishable dir)) := by
  rw [map_snd_shown]
  exact (flatMap_published_perm (Diagnostics.grouped_ofList added) dir).trans
    ((Diagnostics.flatten_ofList_perm added).filter _)

theorem publishedPath?_of_mem_shown (h : ds.Grouped) {g : Text × Diagnostic} (hg : g ∈ shown dir ds) :
    publishedPath? dir g.2.file = some g.1 := by
  obtain ⟨group, hgroup, hg⟩ := List.mem_flatMap.1 hg
  obtain ⟨d, hd, rfl⟩ := List.mem_map.1 hg
  exact (keyed_published h dir).own group hgroup d hd

theorem isAbsolute_publishedPath? (hdir : Path.isAbsolute dir = true) {file path : Text}
    (h : publishedPath? dir file = some path) : Path.isAbsolute path = true := by
  rw [publishedPath?] at h
  split at h
  · rw [← Option.some.inj h]
    exact Path.isAbsolute_normalize (Path.isAbsolute_join hdir file)
  · cases h

/-! ## The calls -/

/-- The rows of the table. -/
def rows (r : Report) (cwd : Text) : List Screen.Call :=
  (shown r.projectDir r.outcome.diagnostics).map fun g => row (Path.relative cwd r.projectDir g.1) g.2

/-- Rows as a table, no table for no rows. -/
def framed : List Screen.Call → List Screen.Call
  | [] => []
  | rows => .table ["Severity", "Location", "Message", "Docs"] (some "Diagnostics") :: rows ++ [.render]

theorem framed_of_ne_nil {rows : List Screen.Call} (h : rows ≠ []) :
    framed rows = .table ["Severity", "Location", "Message", "Docs"] (some "Diagnostics") :: rows ++ [.render] := by
  obtain ⟨call, rest, rfl⟩ := List.exists_cons_of_ne_nil h
  rfl

theorem rows_eq (r : Report) (cwd : Text) :
    r.rows cwd = (published r.projectDir r.outcome.diagnostics).flatMap fun g =>
      g.2.map (row (Path.relative cwd r.projectDir g.1)) := by
  rw [rows, shown, List.map_flatMap]
  congr 1
  funext g
  rw [List.map_map]
  rfl

/-- Where a path is published under, there is a row. -/
theorem rows_ne_nil {r : Report} (h : r.outcome.diagnostics.Grouped)
    (hpublished : published r.projectDir r.outcome.diagnostics ≠ []) (cwd : Text) : r.rows cwd ≠ [] := by
  obtain ⟨g, gs, hgs⟩ := List.exists_cons_of_ne_nil hpublished
  have hg : g.2 ≠ [] := (keyed_published h r.projectDir).nonempty g (by rw [hgs]; exact List.mem_cons_self)
  rw [rows_eq, hgs, List.flatMap_cons]
  exact List.append_ne_nil_of_left_ne_nil (by rwa [ne_eq, List.map_eq_nil_iff]) _

theorem tableCalls_eq {r : Report} (h : r.outcome.diagnostics.Grouped) (cwd : Text) :
    r.tableCalls cwd = framed (r.rows cwd) := by
  by_cases hpublished : published r.projectDir r.outcome.diagnostics = []
  · rw [tableCalls, rows_eq, hpublished]
    rfl
  · rw [framed_of_ne_nil (rows_ne_nil h hpublished cwd), rows_eq]
    obtain ⟨g, gs, hgs⟩ := List.exists_cons_of_ne_nil hpublished
    rw [tableCalls, hgs]

theorem table?_eq {r : Report} (h : r.outcome.diagnostics.Grouped) (hdir : Path.isAbsolute r.projectDir = true)
    (cwd? : Option Text) (cwd : Text) : r.table? cwd? = .ok (r.tableCalls cwd) := by
  have hgroup (g) (hg : g ∈ published r.projectDir r.outcome.diagnostics) :
      groupRows? cwd? r.projectDir g = .ok (g.2.map (row (Path.relative cwd r.projectDir g.1))) := by
    have hpath : Path.isAbsolute g.1 = true := by
      have hkeyed := keyed_published h r.projectDir
      obtain ⟨d, rest, hd⟩ := List.exists_cons_of_ne_nil (hkeyed.nonempty g hg)
      exact isAbsolute_publishedPath? hdir (hkeyed.own g hg d (by rw [hd]; exact List.mem_cons_self))
    rw [groupRows?, relative?_eq hdir hpath cwd? cwd]
    exact mapM_eq_map fun d _ => row?_eq _ d
  rw [table?, tableCalls]
  cases hgs : published r.projectDir r.outcome.diagnostics with
  | nil => rfl
  | cons g gs =>
    rw [hgs] at hgroup
    simp only [mapM_eq_map hgroup, List.flatMap_def]
    rfl

/-- **Nothing goes wrong**: for a project at an absolute path a presentation makes all calls, and these do not depend on
the working folder. -/
theorem present_eq {r : Report} (h : r.outcome.diagnostics.Grouped) (hdir : Path.isAbsolute r.projectDir = true)
    (cwd? : Option Text) (cwd : Text) : r.present cwd? = .ok (r.calls cwd) := by
  rw [present, table?_eq h hdir cwd? cwd, panel?_eq]
  rfl

/-- The rows of a report whose diagnostics were added one by one. -/
structure RowsOf (r : Report) (added : List Diagnostic) (rows : List Screen.Call) : Prop where
  /-- There is a row if something is publishable. -/
  ne_nil_iff : rows ≠ [] ↔ ∃ d ∈ added, publishable r.projectDir d = true
  /-- All publishable diagnostics are shown, each as often as it was added. -/
  complete : ((shown r.projectDir r.outcome.diagnostics).map Prod.snd).Perm (added.filter (publishable r.projectDir))
  /-- Each is shown with the path that it is published under. -/
  own : ∀ g ∈ shown r.projectDir r.outcome.diagnostics, publishedPath? r.projectDir g.2.file = some g.1
  /-- There is a row for each, in their order, and its message is the first line of the whole message. -/
  ordered : List.Forall₂
    (fun g call => ∃ line : Text, line.IsFirstLine g.2.message ∧
      call = .addRow [.text g.2.severity.name, .text (location (Path.relative [] r.projectDir g.1) g.2), .text line,
        .text (g.2.documentation.getD [])])
    (shown r.projectDir r.outcome.diagnostics) rows

theorem rowsOf_rows {r : Report} {added : List Diagnostic} (h : r.outcome.diagnostics = .ofList added) :
    r.RowsOf added (r.rows []) where
  ne_nil_iff := by
    have hlength := (shown_perm r.projectDir added).length_eq
    rw [List.length_map] at hlength
    rw [rows, ne_eq, List.map_eq_nil_iff, h, ← List.length_eq_zero_iff, hlength, ← List.countP_eq_length_filter,
      List.countP_eq_zero]
    simp
  complete := by
    rw [h]
    exact shown_perm r.projectDir added
  own g hg := publishedPath?_of_mem_shown (by rw [h]; exact Diagnostics.grouped_ofList added) hg
  ordered := by
    rw [rows, List.forall₂_map_right_iff, List.forall₂_same]
    exact fun g _ => ⟨g.2.message.firstLine, Text.isFirstLine_firstLine _, rfl⟩

/-- The messages about toolchain problems: one with all of them, if there are any. -/
structure NoticesOf (o : Outcome) (notices : List Screen.Call) : Prop where
  none : o.toolchainErrors = [] → notices = []
  one : o.toolchainErrors ≠ [] →
    notices = [.log ("Toolchain warning: " ++ Text.joinWith "\n" o.toolchainErrors) .warning]

theorem noticesOf_toolchainCalls (o : Outcome) : NoticesOf o (toolchainCalls o) where
  none h := by rw [toolchainCalls, h]; rfl
  one h := by rw [toolchainCalls, if_neg (by rwa [List.isEmpty_iff])]

/-- The numbers of errors and warnings, as the panel shows them. -/
def counted (errors warnings : Nat) : Text := Text.ofNat errors ++ " error(s), " ++ Text.ofNat warnings ++ " warning(s)"

/-- What the panel says about the result of a build: its first words, its title and its colour. -/
structure ResultOf (o : Outcome) (words title colour : Text) : Prop where
  succeeded : title = "Build Succeeded" ↔ o.success = true
  failed : title = "Build Failed" ↔ o.success = false
  green : colour = "green" ↔ o.readyToDeploy = true
  yellow : colour = "yellow" ↔ o.missingArtifact = true
  red : colour = "red" ↔ o.success = false
  /-- The words name a path if the build is ready to deploy, and then it is that of the artifact. -/
  named : ∀ path : Text, words = "Artifact: " ++ path ↔
    o.readyToDeploy = true ∧ o.artifact.map Artifact.path = some path

/-- A failed build, in words that do not start like those for an artifact. -/
theorem resultOf_failure {o : Outcome} (h : o.success = false) {words : Text}
    (hwords : ∀ path : Text, words ≠ "Artifact: " ++ path) : ResultOf o words "Build Failed" "red" := by
  constructor <;> simp [Outcome.readyToDeploy, Outcome.missingArtifact, h, hwords] <;> decide

theorem resultOf_missing {o : Outcome} (h : o.success = true) (hartifact : o.artifact = none) :
    ResultOf o "Build succeeded but no .wasm artifact was found." "Build Succeeded" "yellow" := by
  refine ⟨?_, ?_, ?_, ?_, ?_, fun path => ⟨fun e => (by cases e), fun e => ?_⟩⟩
  · simp [h]
  · simp [h]; decide
  · simp [Outcome.readyToDeploy, hartifact]; decide
  · simp [Outcome.missingArtifact, h, hartifact]
  · simp [h]; decide
  · rw [hartifact] at e
    cases e.2

theorem resultOf_artifact {o : Outcome} (h : o.success = true) {a : Artifact} (hartifact : o.artifact = some a) :
    ResultOf o ("Artifact: " ++ a.path) "Build Succeeded" "green" := by
  constructor <;> simp [Outcome.readyToDeploy, Outcome.missingArtifact, h, hartifact] <;> decide

/-- **The panel** says how the build ended, and behind that how many errors and warnings there are. -/
theorem panel_eq (o : Outcome) :
    ∃ words title colour : Text, ResultOf o words title colour ∧
      panel o = .panel (words ++ "\n" ++ counted o.errors o.warnings) title none (some colour) := by
  cases hsuccess : o.success with
  | false =>
    by_cases hspawn : o.spawnFailed = true
    · have hresult : ResultOf o "cargo could not be started." "Build Failed" "red" :=
        resultOf_failure hsuccess fun path e => by cases e
      refine ⟨_, _, _, hresult, ?_⟩
      rw [panel, if_pos hspawn]
      rfl
    · have hresult : ResultOf o
          ("Build failed with exit code " ++ shownCode o.exitCode ++ " - check output for details.")
          "Build Failed" "red" :=
        resultOf_failure hsuccess fun path e => by cases e
      refine ⟨_, _, _, hresult, ?_⟩
      rw [panel, if_neg hspawn, hsuccess]
      rfl
  | true =>
    have hspawn : ¬ o.spawnFailed = true := by rw [Outcome.spawnFailed, hsuccess]; exact Bool.false_ne_true
    cases hartifact : o.artifact with
    | none =>
      refine ⟨_, _, _, resultOf_missing hsuccess hartifact, ?_⟩
      rw [panel, if_neg hspawn, hsuccess, hartifact]
      rfl
    | some a =>
      refine ⟨_, _, _, resultOf_artifact hsuccess hartifact, ?_⟩
      rw [panel, if_neg hspawn, hsuccess, hartifact]
      rfl

/-- **The presentation of a report** on a project at an absolute path, whatever the working folder is. Nothing goes
wrong. The calls are a table with the published diagnostics, if there are any, then a message with the toolchain
problems, if there are any, and then a panel with the result and the numbers of all errors and warnings. -/
theorem present_sequence (r : Report) (cwd? : Option Text) (cwd : Text) (added : List Diagnostic)
    (hdir : Path.isAbsolute r.projectDir = true) (hadded : r.outcome.diagnostics = .ofList added) :
    r.present cwd? = .ok (r.calls cwd) ∧
      ∃ (rows notices : List Screen.Call) (words title colour : Text) (errors warnings : Nat),
        r.calls cwd = framed rows ++ notices ++
          [.panel (words ++ "\n" ++ counted errors warnings) title none (some colour)] ∧
        r.RowsOf added rows ∧ NoticesOf r.outcome notices ∧ ResultOf r.outcome words title colour ∧
        errors = added.countP (·.severity = .error) ∧ warnings = added.countP (·.severity = .warning) ∧
        errors + warnings = added.length := by
  have hgrouped : r.outcome.diagnostics.Grouped := by rw [hadded]; exact Diagnostics.grouped_ofList added
  have hcwd : r.calls cwd = r.calls [] :=
    Except.ok.inj ((present_eq hgrouped hdir none cwd).symm.trans (present_eq hgrouped hdir none []))
  have hperm : r.outcome.diagnostics.flatten.Perm added := by
    rw [hadded]
    exact Diagnostics.flatten_ofList_perm added
  obtain ⟨words, title, colour, hresult, hpanel⟩ := panel_eq r.outcome
  refine ⟨present_eq hgrouped hdir cwd? cwd, r.rows [], toolchainCalls r.outcome, words, title, colour,
    r.outcome.errors, r.outcome.warnings, ?_, rowsOf_rows hadded, noticesOf_toolchainCalls r.outcome, hresult,
    hperm.countP_eq _, hperm.countP_eq _, ?_⟩
  · rw [hcwd, calls, tableCalls_eq hgrouped, hpanel]
  · rw [Outcome.errors, Outcome.warnings, Diagnostics.count_add_count, Diagnostics.size_eq, hperm.length_eq]

/-- Three diagnostics: one under a relative path whose message starts with a line break, one in a file that is no source
file, and one with an empty message in the file of the first, this time under an absolute path. -/
def threeDiagnostics : List Diagnostic :=
  [⟨"src/lib.rs", ⟨⟨0, 0⟩, ⟨0, 4⟩⟩, .error, "\nfound here", none, none⟩,
    ⟨"build.log", ⟨⟨2, 0⟩, ⟨2, 0⟩⟩, .warning, "unused", none, none⟩,
    ⟨"/p/src/lib.rs", ⟨⟨6, 1⟩, ⟨7, 0⟩⟩, .warning, [], none, none⟩]

/-- A report on a build that announced a contract, with these diagnostics. -/
def threeReported : Report := ⟨"/p", ⟨true, some ⟨"/p/c.wasm", "cdylib"⟩, .ofList threeDiagnostics, [], some 0⟩⟩

/-- Two of them are in the table, and all three are counted. -/
theorem present_sequence_three :
    Path.isAbsolute threeReported.projectDir = true ∧
      threeReported.outcome.diagnostics = .ofList threeDiagnostics ∧
      threeReported.present none = .ok (threeReported.calls []) ∧
      ∃ (rows notices : List Screen.Call) (words title colour : Text) (errors warnings : Nat),
        threeReported.calls [] = framed rows ++ notices ++
          [.panel (words ++ "\n" ++ counted errors warnings) title none (some colour)] ∧
        rows.length = 2 ∧ notices = [] ∧ words = "Artifact: /p/c.wasm" ∧ colour = "green" ∧ errors = 1 ∧
        warnings = 2 := by
  have hdir : Path.isAbsolute threeReported.projectDir = true := by decide
  obtain ⟨hpresent, rows, notices, words, title, colour, errors, warnings, hcalls, hrows, hnotices, hresult, herrors,
    hwarnings, -⟩ := present_sequence threeReported none [] threeDiagnostics hdir rfl
  have hlength : rows.length = (threeDiagnostics.filter (publishable "/p")).length := by
    have hcomplete := hrows.complete.length_eq
    rw [List.length_map] at hcomplete
    rw [← hrows.ordered.length_eq]
    exact hcomplete
  refine ⟨hdir, rfl, hpresent, rows, notices, words, title, colour, errors, warnings, hcalls, ?_, hnotices.none rfl,
    (hresult.named "/p/c.wasm").2 ⟨rfl, rfl⟩, hresult.green.2 rfl, ?_, ?_⟩
  · rw [hlength]
    decide
  · rw [herrors]
    decide
  · rw [hwarnings]
    decide

end Report

end ContractBuild
