import ContractBuild.Proofs.PublishedFiles
import ContractBuild.Proofs.RelativePaths
import ContractBuild.Proofs.SpanDiagnostics
import ContractBuild.Proofs.SpanRanges

/-!
# From a span to its location and back

A span counts lines and columns from one, and a diagnostic counts them from zero (`Diagnostic.start_spanRange`). The table
counts from one again, so a reader finds the numbers of the span (`Report.location_eq`). Before the numbers stands the way
from the project folder to the published path. Following it leads back to that path, in the same steps
(`Report.parts_join_way`).

`Report.location_of_span` puts this together, from a span of a message to the row of its diagnostic.
-/

namespace ContractBuild

namespace Diagnostic

variable {span : List (Text × Value)} {file : Text} {line column : Int}

/-- A span that gives a diagnostic for a file, and starts in a line and a column that count from one. -/
structure StartsAt (span : List (Text × Value)) (file : Text) (line column : Int) : Prop where
  locates : Locates (.map span) file
  line_start : Value.entry? "line_start" span = some (.int line)
  column_start : Value.entry? "column_start" span = some (.int column)
  line_pos : 1 ≤ line
  column_pos : 1 ≤ column

/-- **The start of a span**, counted from zero. -/
theorem start_spanRange (h : StartsAt span file line column) : (spanRange span).start = ⟨line - 1, column - 1⟩ := by
  obtain ⟨-, hline, hcolumn, hlinePos, hcolumnPos⟩ := h
  have hlineCoordinate : coordinate 1 (some (.int line)) = line := if_neg (by omega)
  have hcolumnCoordinate : coordinate 1 (some (.int column)) = column := if_neg (by omega)
  rw [spanRange, hline, hcolumn, hlineCoordinate, hcolumnCoordinate]
  simp only [position, Position.mk.injEq]
  omega

/-- A span that is located has a diagnostic. -/
theorem exists_describes_of_locates (severity : Severity) (body : List (Text × Value)) {spans : List Value} {v : Value}
    (hv : v ∈ spans) (hfile : Locates v file) : ∃ d ∈ ofBody body spans severity, Describes v d := by
  obtain ⟨code, -, -, hbody⟩ := ofBody_eq severity body spans
  have hsome := (ofSpan?_isSome_iff severity (displayText body) code (Documentation.linkFor (displayText body)) v).2
    ⟨file, hfile⟩
  obtain ⟨d, hd⟩ := Option.isSome_iff_exists.1 hsome
  refine ⟨d, ?_, (describes_of_ofSpan? _ _ _ _ hd).1⟩
  rw [hbody]
  exact List.mem_filterMap.2 ⟨v, hv, hd⟩

theorem Describes.file_eq {d : Diagnostic} (h : Describes (.map span) d) (hfile : Locates (.map span) file) :
    d.file = file :=
  Option.some.inj ((spanFile?_eq_some_iff.2 h.1).symm.trans (spanFile?_eq_some_iff.2 hfile))

theorem Describes.range_eq {d : Diagnostic} (h : Describes (.map span) d) : d.range = spanRange span := by
  obtain ⟨-, _, hspan, hrange⟩ := h
  rwa [Value.map.inj hspan]

end Diagnostic

namespace Report

variable {r : Report} {d : Diagnostic} {added : List Diagnostic} {dir file : Text} {line column : Int}

/-- The table counts from one again. -/
theorem location_eq (h : d.range.start = ⟨line - 1, column - 1⟩) (way : Text) :
    location way d = way ++ ":" ++ Text.ofInt line ++ ":" ++ Text.ofInt column := by
  rw [location, h, Int.sub_add_cancel, Int.sub_add_cancel]

/-- **Following the way** from the project folder leads to the path that a file is published under. -/
theorem parts_join_way (hdir : Path.isAbsolute dir = true) (file cwd : Text) :
    Path.parts (Path.normalize (Path.join dir (Path.relative cwd dir (sourcePath dir file)))) =
      Path.parts (sourcePath dir file) := by
  obtain ⟨root, steps, hnormal⟩ := normal_sourcePath hdir file
  rw [Path.parts_normalize (Path.isAbsolute_join hdir _), Path.segments_join_relative hdir hnormal.isAbsolute,
    hnormal.segments_eq, hnormal.parts_eq]

/-- A diagnostic of a source file is shown with its source path. -/
theorem mem_shown (hdir : Path.isAbsolute dir = true) (hd : d ∈ added) (hsource : isSource d.file = true) :
    (sourcePath dir d.file, d) ∈ shown dir (.ofList added) := by
  have hmem : d ∈ (shown dir (.ofList added)).map Prod.snd := by
    rw [(shown_perm dir added).mem_iff, List.mem_filter, publishable_eq hdir]
    exact ⟨hd, hsource⟩
  obtain ⟨g, hg, rfl⟩ := List.mem_map.1 hmem
  have hpath := publishedPath?_of_mem_shown (Diagnostics.grouped_ofList added) hg
  rw [publishedPath?_eq hdir, if_pos hsource, Option.some.injEq] at hpath
  rw [hpath]
  exact hg

/-- The rows of a report show a diagnostic at a line and a column, behind a way to the path that it is published under. -/
structure ShownAt (r : Report) (d : Diagnostic) (path way : Text) (line column : Int) (rows : List Screen.Call) :
    Prop where
  published : (path, d) ∈ shown r.projectDir r.outcome.diagnostics
  /-- There is a row for every published diagnostic, and those of this one name the way, the line and the column. -/
  row : List.Forall₂
    (fun g call => g.2 = d → g.1 = path ∧
      call = .addRow [.text d.severity.name, .text (way ++ ":" ++ Text.ofInt line ++ ":" ++ Text.ofInt column),
        .text d.message.firstLine, .text (d.documentation.getD [])])
    (shown r.projectDir r.outcome.diagnostics) rows
  /-- Following the way from the project folder leads back to the path. -/
  back : Path.parts (Path.normalize (Path.join r.projectDir way)) = Path.parts path

theorem shownAt_rows (hdir : Path.isAbsolute r.projectDir = true) (hadded : r.outcome.diagnostics = .ofList added)
    (hd : d ∈ added) (hsource : isSource d.file = true) (hstart : d.range.start = ⟨line - 1, column - 1⟩) (cwd : Text) :
    r.ShownAt d (sourcePath r.projectDir d.file) (Path.relative cwd r.projectDir (sourcePath r.projectDir d.file)) line
      column (r.rows cwd) where
  published := by
    rw [hadded]
    exact mem_shown hdir hd hsource
  row := by
    rw [rows, List.forall₂_map_right_iff, List.forall₂_same]
    rintro g hg rfl
    have hpath := publishedPath?_of_mem_shown (by rw [hadded]; exact Diagnostics.grouped_ofList added) hg
    rw [publishedPath?_eq hdir, if_pos hsource, Option.some.injEq] at hpath
    refine ⟨hpath.symm, ?_⟩
    rw [Report.row, location_eq hstart, hpath]
  back := parts_join_way hdir d.file cwd

/-- **The location of a span.** A message reports something, and one of its spans starts in a line and a column of a source
file. Then the message gives a diagnostic for the span. In a report on a project at an absolute path, to which this
diagnostic was added, it has a row, with the line and the column of the span behind a way to the file. From the project
folder, the way leads to the path under which the diagnostic is published. -/
theorem location_of_span (m : Message) (severity : Severity) (body : List (Text × Value)) (spans : List Value)
    (hreports : m.Reports severity body spans) (span : List (Text × Value)) (hspan : .map span ∈ spans) (file : Text)
    (line column : Int) (hstart : Diagnostic.StartsAt span file line column) (hsource : isSource file = true) :
    ∃ ds, Diagnostic.ofMessage m = .ok ds ∧ (∃ d ∈ ds, Diagnostic.Describes (.map span) d) ∧
      ∀ d ∈ ds, Diagnostic.Describes (.map span) d → ∀ (r : Report) (cwd? : Option Text) (added : List Diagnostic),
        Path.isAbsolute r.projectDir = true → r.outcome.diagnostics = .ofList added → d ∈ added →
          ∃ way rows, r.present cwd? = .ok (framed rows ++ toolchainCalls r.outcome ++ [panel r.outcome]) ∧
            r.ShownAt d (sourcePath r.projectDir file) way line column rows := by
  refine ⟨_, Diagnostic.ofMessage_of_reports hreports,
    Diagnostic.exists_describes_of_locates severity body hspan hstart.locates, ?_⟩
  intro d _ hdescribes r cwd? added hdir hadded hd
  obtain rfl := hdescribes.file_eq hstart.locates
  have hrange : d.range.start = ⟨line - 1, column - 1⟩ := by
    rw [hdescribes.range_eq, Diagnostic.start_spanRange hstart]
  have hgrouped : r.outcome.diagnostics.Grouped := by rw [hadded]; exact Diagnostics.grouped_ofList added
  refine ⟨_, r.rows [], ?_, shownAt_rows hdir hadded hd hsource hrange []⟩
  rw [present_eq hgrouped hdir cwd? [], calls, tableCalls_eq hgrouped]

/-- A span in a file beside the project folder. -/
def besideSpan : List (Text × Value) :=
  [("file_name", .text "../shared//x.rs"), ("is_primary", .bool true), ("line_start", .int 12), ("column_start", .int 5),
    ("line_end", .int 12), ("column_end", .int 9)]

/-- An error with this span. -/
def besideBody : List (Text × Value) :=
  [("level", .text "error"), ("message", .text "mismatched types"), ("spans", .list [.map besideSpan])]

/-- The diagnostic of the span. -/
def besideDiagnostic : Diagnostic := ⟨"../shared//x.rs", ⟨⟨11, 4⟩, ⟨11, 8⟩⟩, .error, "mismatched types", none, none⟩

/-- The way goes up from the project folder and down to the file. -/
theorem location_of_span_beside :
    let m : Message := ⟨.compilerDiagnostic, [("message", .map besideBody)], []⟩
    let r : Report := ⟨"/w/p", ⟨false, none, .ofList [besideDiagnostic], [], some 101⟩⟩
    m.Reports .error besideBody [.map besideSpan] ∧
      Diagnostic.StartsAt besideSpan "../shared//x.rs" 12 5 ∧ isSource "../shared//x.rs" = true ∧
      Diagnostic.ofMessage m = .ok [besideDiagnostic] ∧
      ∃ way rows, r.present none = .ok (framed rows ++ toolchainCalls r.outcome ++ [panel r.outcome]) ∧
        r.ShownAt besideDiagnostic "/w/shared/x.rs" way 12 5 rows ∧
        Path.parts (Path.normalize (Path.join "/w/p" way)) = ["w", "shared", "x.rs"] := by
  intro m r
  have hreports : m.Reports .error besideBody [.map besideSpan] := ⟨rfl, rfl, rfl, List.cons_ne_nil _ _, rfl⟩
  have hlocates : Diagnostic.Locates (.map besideSpan) "../shared//x.rs" := ⟨besideSpan, rfl, nofun, rfl, by decide⟩
  have hstart : Diagnostic.StartsAt besideSpan "../shared//x.rs" 12 5 := ⟨hlocates, rfl, rfl, by decide, by decide⟩
  have hsource : isSource "../shared//x.rs" = true := by decide
  have hofMessage : Diagnostic.ofMessage m = .ok [besideDiagnostic] := by rfl
  obtain ⟨ds, hds, -, hrow⟩ := location_of_span m .error besideBody [.map besideSpan] hreports besideSpan
    (List.mem_singleton_self _) "../shared//x.rs" 12 5 hstart hsource
  obtain rfl : ds = [besideDiagnostic] := Except.ok.inj (hds.symm.trans hofMessage)
  have hdescribes : Diagnostic.Describes (.map besideSpan) besideDiagnostic := ⟨hlocates, besideSpan, rfl, by decide⟩
  obtain ⟨way, rows, hpresent, hshown⟩ := hrow besideDiagnostic (List.mem_singleton_self _) hdescribes r none
    [besideDiagnostic] (by decide) rfl (List.mem_singleton_self _)
  have hpath : sourcePath "/w/p" "../shared//x.rs" = "/w/shared/x.rs" := by decide
  have hparts : Path.parts "/w/shared/x.rs" = ["w", "shared", "x.rs"] := by decide
  rw [hpath] at hshown
  exact ⟨hreports, hstart, hsource, hofMessage, way, rows, hpresent, hshown, hshown.back.trans hparts⟩

end Report

end ContractBuild
